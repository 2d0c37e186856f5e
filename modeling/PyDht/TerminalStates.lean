import PyDht.CandidateRows

set_option autoImplicit false

namespace PyDht

namespace CandidateRow

/-- What a terminal state allows the row to become. -/
structure Settles (row later : CandidateRow) : Prop where
  complete : row.state = .complete → later.state = .complete ∧ later.torrentUid = row.torrentUid
  unsupported : row.state = .unsupported → later.state = .unsupported ∨ later.state = .complete

theorem Settles.refl (row : CandidateRow) : row.Settles row :=
  ⟨fun _ => ⟨by assumption, rfl⟩, .inl⟩

theorem Settles.trans {first second third : CandidateRow} (early : first.Settles second)
    (late : second.Settles third) : first.Settles third := by
  constructor
  · intro complete
    obtain ⟨stays, same⟩ := early.complete complete
    obtain ⟨still, again⟩ := late.complete stays
    exact ⟨still, again.trans same⟩
  · intro unsupported
    obtain stays | complete := early.unsupported unsupported
    · exact late.unsupported stays
    · exact .inr (late.complete complete).1

/-- A row that is not in a terminal state may become anything. -/
theorem settles_of_isOpen {row : CandidateRow} (free : row.isOpen) (later : CandidateRow) :
    row.Settles later := by
  simp only [isOpen, ne_eq, decide_not, Bool.and_eq_true, Bool.not_eq_eq_eq_not, Bool.not_true,
    decide_eq_false_iff_not] at free
  exact ⟨fun complete => absurd complete free.1, fun unsupported => absurd unsupported free.2⟩

theorem recovered_settles (nowNs : Int) (row : CandidateRow) : row.Settles (row.recovered nowNs) := by
  unfold recovered
  split
  · rename_i fetching
    exact settles_of_isOpen (by simp [isOpen, fetching]) _
  · exact .refl row

end CandidateRow

namespace DatabaseCall

/-- The call finds no row of the kind that it would take out of a terminal state: `mark_fetch_failed`
one that is unsupported, `mark_unsupported` one that is complete, `persist_torrent` one that is
complete with another torrent. -/
def spares (request : DatabaseCall) (row : CandidateRow) : Bool :=
  match request with
  | .markFetchFailed _ _ _ _ => row.state ≠ .unsupported
  | .markUnsupported _ _ => row.state ≠ .complete
  | .persistTorrent torrent _ _ _ =>
      row.state ≠ .complete || row.torrentUid = some torrent.torrentUid
  | _ => true

def sparesIn (request : DatabaseCall) (catalogue : Catalogue) : Bool :=
  (request.target.bind catalogue.candidate).all request.spares

/-- A spared row settles, and is spared by a second turn as well. -/
theorem spares_onRow {config : Config} {request : DatabaseCall} {row : CandidateRow}
    (spared : request.spares row) :
    ∃ next, request.onRow config (some row) = some next ∧ row.Settles next ∧
      request.spares next := by
  cases request with
  | upsertCandidateSeen dhtKey firstSeen lastSeen => exact ⟨_, rfl, ⟨fun _ => ⟨by assumption, rfl⟩,
      .inl⟩, rfl⟩
  | markFetching dhtKey nowNs =>
      refine ⟨_, rfl, ?_, rfl⟩
      by_cases free : row.isOpen
      · exact CandidateRow.settles_of_isOpen free _
      · simp only [free, Bool.false_eq_true, if_false]
        exact .refl row
  | markFetchFailed dhtKey error nowNs nextAttemptNs =>
      have supported : row.state ≠ .unsupported := by simpa [spares] using spared
      refine ⟨_, rfl, ?_⟩
      by_cases complete : row.state = .complete
      · simp only [complete, if_true]
        exact ⟨.refl row, spared⟩
      · simp only [complete, if_false]
        exact ⟨CandidateRow.settles_of_isOpen (by simp [CandidateRow.isOpen, complete, supported]) _,
          by simp [spares, CandidateRow.failed]⟩
  | markUnsupported dhtKey error =>
      have incomplete : row.state ≠ .complete := by simpa [spares] using spared
      exact ⟨_, rfl, ⟨fun complete => absurd complete incomplete, fun _ => .inl rfl⟩,
        by simp [spares, CandidateRow.refused]⟩
  | persistTorrent torrent dhtKey notification nowNs =>
      have same : row.state = .complete → row.torrentUid = some torrent.torrentUid := by
        intro complete
        simpa [spares, complete] using spared
      exact ⟨_, rfl, ⟨fun complete => ⟨rfl, (same complete).symm⟩, fun _ => .inr rfl⟩,
        by simp [spares, CandidateRow.completed]⟩
  | markNotificationResult torrentUid success nowNs nextAttemptNs error =>
      exact ⟨row, rfl, .refl row, rfl⟩
  | candidateState dhtKey => exact ⟨row, rfl, .refl row, rfl⟩
  | dueCandidates nowNs limit => exact ⟨row, rfl, .refl row, rfl⟩
  | dueNotifications nowNs limit => exact ⟨row, rfl, .refl row, rfl⟩
  | search text limit => exact ⟨row, rfl, .refl row, rfl⟩

end DatabaseCall

/-- What the terminal states allow a row, which may also still be missing. -/
def settling : Evolution (Option CandidateRow) where
  leads earlier later := ∀ row, earlier = some row → ∃ next, later = some next ∧ row.Settles next
  refl _ row known := ⟨row, known, .refl row⟩
  trans early late row known := by
    obtain ⟨next, found, settles⟩ := early row known
    obtain ⟨last, again, further⟩ := late next found
    exact ⟨last, again, settles.trans further⟩

theorem settling_none (later : Option CandidateRow) : settling.leads none later := by
  intro row known
  cases known

namespace Catalogue

/-- Every row of the earlier content has kept to what its state allows. -/
def Absorbs (earlier later : Catalogue) : Prop :=
  ∀ key row, earlier.candidate key = some row →
    ∃ next, later.candidate key = some next ∧ row.Settles next

/-- No row of the earlier content in a terminal state is due. -/
def NeverDue (earlier later : Catalogue) : Prop :=
  ∀ key row, earlier.candidate key = some row → row.isOpen = false →
    ∀ nowNs limit, key ∉ (dueCandidates nowNs limit).result later

theorem Absorbs.neverDue {earlier later : Catalogue} (absorbs : earlier.Absorbs later)
    (distinct : later.Distinct) : earlier.NeverDue later := by
  intro key row known terminal nowNs limit due
  obtain ⟨next, found, settles⟩ := absorbs key row known
  obtain ⟨other, time, same, failed, -⟩ := mem_dueCandidates distinct due
  obtain rfl := Option.some.inj (found.symm.trans same)
  have either : row.state = .complete ∨ row.state = .unsupported := by
    by_cases complete : row.state = .complete
    · exact .inl complete
    · simpa [CandidateRow.isOpen, complete] using terminal
  obtain complete | unsupported := either
  · simp [(settles.complete complete).1] at failed
  · obtain stays | complete := settles.unsupported unsupported
    · simp [stays] at failed
    · simp [complete] at failed

end Catalogue

/-- The step takes no row out of a terminal state. -/
def StoreEvent.spares (store : Store) : StoreEvent → Bool
  | .serve request _ =>
      request.sparesIn store.session.committed && request.sparesIn store.session.working
  | _ => true

/-- What a call asks of each row. -/
def DatabaseCall.Spared (request : DatabaseCall) (key : String) (found : Option CandidateRow) : Prop :=
  request.target = some key → ∀ row, found = some row → request.spares row

theorem DatabaseCall.spared_of_sparesIn {request : DatabaseCall} {catalogue : Catalogue}
    (spared : request.sparesIn catalogue) (key : String) :
    request.Spared key (catalogue.candidate key) := by
  intro named row found
  simpa [sparesIn, named, found] using spared

theorem DatabaseCall.spared_follows (config : Config) (request : DatabaseCall) (key : String) :
    Follows (request.Spared key) settling (request.rowAfter config key) := by
  intro found spared
  unfold rowAfter
  split
  · rename_i named
    cases found with
    | none =>
        refine ⟨fun _ row made => ?_, settling_none _⟩
        cases request <;> cases made
        rfl
    | some row =>
        obtain ⟨next, made, settles, again⟩ : ∃ next, request.onRow config (some row) = some next ∧
            row.Settles next ∧ request.spares next := spares_onRow (spared named row rfl)
        rw [made]
        refine ⟨fun _ other same => Option.some.inj same ▸ again, fun other same => ?_⟩
        exact ⟨next, rfl, Option.some.inj same ▸ settles⟩
  · exact ⟨spared, settling.refl found⟩

namespace Store

variable {config : Config}

/-- A step that spares the terminal rows leads on as they allow. -/
theorem step_settles {store next : Store} {event : StoreEvent} (spared : event.spares store)
    (within : store.session.Within (fun _ => True) (DatabaseCall.rowLaw settling))
    (taken : step config store event = some next) :
    next.session.Within (fun _ => True) (DatabaseCall.rowLaw settling) ∧
      (DatabaseCall.rowLaw settling).leads store.session.committed next.session.committed := by
  cases event with
  | serve request attempts =>
      simp only [StoreEvent.spares, Bool.and_eq_true] at spared
      have kept := @step_within (fun catalogue => ∀ key,
          request.Spared key (catalogue.candidate key)) (DatabaseCall.rowLaw settling) config
        store next _
        (by
          intro nowNs other
          cases other)
        (by
          intro other attempts same
          cases same
          exact DatabaseCall.obeys_rows (DatabaseCall.spared_follows config request))
        ⟨DatabaseCall.spared_of_sparesIn spared.1, DatabaseCall.spared_of_sparesIn spared.2,
          within.ahead⟩ taken
      exact ⟨⟨trivial, trivial, kept.1.ahead⟩, kept.2⟩
  | start nowNs =>
      refine step_within ?_ ?_ within taken
      · intro nowNs _ content _
        refine ⟨trivial, fun key row known => ?_⟩
        rw [Catalogue.candidate_recoverInterrupted, known, Option.map_some]
        exact ⟨_, rfl, row.recovered_settles nowNs⟩
      · intro request attempts other
        cases other
  | stop =>
      refine step_within ?_ ?_ within taken
      · intro nowNs other
        cases other
      · intro request attempts other
        cases other
  | kill =>
      refine step_within ?_ ?_ within taken
      · intro nowNs other
        cases other
      · intro request attempts other
        cases other

theorem run_settles {start final : Store} {events : List StoreEvent}
    (along : Transition.Along (fun store event => event.spares store) (step config) start events)
    (ran : Transition.run (step config) start events = some final)
    (within : start.session.Within (fun _ => True) (DatabaseCall.rowLaw settling)) :
    final.session.Within (fun _ => True) (DatabaseCall.rowLaw settling) ∧
      (DatabaseCall.rowLaw settling).leads start.session.committed final.session.committed := by
  refine Transition.invariant_along (fun store =>
    store.session.Within (fun _ => True) (DatabaseCall.rowLaw settling) ∧
      (DatabaseCall.rowLaw settling).leads start.session.committed store.session.committed)
    ?_ along ran ⟨within, (DatabaseCall.rowLaw settling).refl _⟩
  intro store event next reached spared taken
  obtain ⟨kept, led⟩ := step_settles spared reached.1 taken
  exact ⟨kept, (DatabaseCall.rowLaw settling).trans reached.2 led⟩

/-- In a run whose calls find no row that they would take out of its terminal state, these states
are absorbing, and a candidate that has reached one of them is not due any more. -/
theorem run_absorbs (config : Config) (before after : List StoreEvent) (middle final : Store)
    (along : Transition.Along (fun store event => event.spares store) (step config) empty
      (before ++ after))
    (reached : Transition.run (step config) empty before = some middle)
    (ran : Transition.run (step config) middle after = some final) :
    middle.session.committed.Absorbs final.session.committed ∧
      middle.session.committed.NeverDue final.session.committed ∧
      middle.session.committed.NeverDue final.session.working := by
  have whole : Transition.run (step config) empty (before ++ after) = some final :=
    Transition.run_append.mpr ⟨middle, reached, ran⟩
  obtain ⟨within, -⟩ := run_settles along.front reached (.same rfl trivial)
  obtain ⟨last, led⟩ := run_settles (along.behind reached) ran within
  have distinct := run_distinct whole
  have ahead := (DatabaseCall.rowLaw settling).trans led last.ahead
  exact ⟨led, Catalogue.Absorbs.neverDue led distinct.committed,
    Catalogue.Absorbs.neverDue ahead distinct.working⟩

theorem run_absorbs_sample :
    ∃ middle final,
      Transition.run (step {}) empty [.start 1,
        .serve (.upsertCandidateSeen "dht20:01" 2 2) fun _ => {},
        .serve (.markUnsupported "dht20:01" none) fun _ => {}] = some middle ∧
      Transition.run (step {}) middle [.kill, .start 3,
        .serve (.markFetching "dht20:01" 4) fun _ => {}] = some final ∧
      middle.session.committed.Absorbs final.session.committed ∧
      middle.session.committed.NeverDue final.session.committed ∧
      middle.session.committed.NeverDue final.session.working :=
  ⟨_, _, rfl, rfl, run_absorbs {} [.start 1,
    .serve (.upsertCandidateSeen "dht20:01" 2 2) fun _ => {},
    .serve (.markUnsupported "dht20:01" none) fun _ => {}] [.kill, .start 3,
    .serve (.markFetching "dht20:01" 4) fun _ => {}] _ _ (by decide) rfl rfl⟩

/-- A candidate that was given up is marked as failed behind that, and is due again. -/
theorem terminal_states_left :
    ∃ middle final,
      Transition.run (step {}) empty [.start 1,
        .serve (.upsertCandidateSeen "dht20:01" 2 2) fun _ => {},
        .serve (.markUnsupported "dht20:01" none) fun _ => {}] = some middle ∧
      Transition.run (step {}) middle
        [.serve (.markFetchFailed "dht20:01" "late" 3 (some 4)) fun _ => {}] = some final ∧
      ¬ middle.session.committed.Absorbs final.session.committed ∧
      "dht20:01" ∈ (Catalogue.dueCandidates 5 32).result final.session.committed := by
  refine ⟨_, _, rfl, rfl, fun absorbs => ?_, by decide⟩
  obtain ⟨next, found, settles⟩ := absorbs "dht20:01" _ rfl
  cases found
  obtain stays | complete := settles.unsupported rfl
  · cases stays
  · cases complete

end Store

end PyDht
