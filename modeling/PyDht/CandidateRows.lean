import PyDht.CatalogueRuns

set_option autoImplicit false

/-! The life of one row of `torrent_candidates`: each operation changes a row by
what that row holds and nothing else, so what all rows do follows from one. -/

namespace PyDht

namespace CandidateRow

def sighted (firstSeen lastSeen : Int) : Option CandidateRow → CandidateRow
  | none => { state := .new, firstSeen, lastSeen }
  | some row => { row with lastSeen := max row.lastSeen lastSeen }

def started (nowNs : Int) (row : CandidateRow) : CandidateRow :=
  { row with
    state := .fetching, attempts := row.attempts + 1, lastAttempt := some nowNs,
    nextAttemptAt := none, lastError := none }

def failed (config : Config) (error : String) (nowNs : Int) (nextAttemptNs : Option Int)
    (row : CandidateRow) : CandidateRow :=
  { row with
    state := .fetchFailed, lastAttempt := some nowNs, nextAttemptAt := nextAttemptNs,
    lastError := some (error.take config.maxIndexTextLength.toNat).toString }

def refused (error : Option String) (row : CandidateRow) : CandidateRow :=
  { row with state := .unsupported, lastError := error, nextAttemptAt := none }

def completed (torrentUid : String) (row : CandidateRow) : CandidateRow :=
  { row with
    state := .complete, torrentUid := some torrentUid, nextAttemptAt := none, lastError := none }

end CandidateRow

/-- What the call makes of the row that it names. -/
def DatabaseCall.onRow (config : Config) (request : DatabaseCall) (found : Option CandidateRow) :
    Option CandidateRow :=
  match request with
  | .upsertCandidateSeen _ firstSeen lastSeen =>
      some (CandidateRow.sighted firstSeen lastSeen found)
  | .markFetching _ nowNs =>
      found.map fun row => if row.isOpen then row.started nowNs else row
  | .markFetchFailed _ error nowNs nextAttemptNs =>
      found.map fun row =>
        if row.state = .complete then row else row.failed config error nowNs nextAttemptNs
  | .markUnsupported _ error => found.map (CandidateRow.refused error)
  | .persistTorrent torrent _ _ _ => found.map (CandidateRow.completed torrent.torrentUid)
  | _ => found

/-- The candidate whose row the call may write. -/
def DatabaseCall.target : DatabaseCall → Option String
  | .upsertCandidateSeen dhtKey _ _ | .markFetching dhtKey _ | .markFetchFailed dhtKey _ _ _
  | .markUnsupported dhtKey _ | .persistTorrent _ dhtKey _ _ => some dhtKey
  | _ => none

/-- The row of each candidate behind the call, given the one before it. -/
def DatabaseCall.rowAfter (config : Config) (request : DatabaseCall) (key : String)
    (found : Option CandidateRow) : Option CandidateRow :=
  if request.target = some key then request.onRow config found else found

namespace Catalogue

def candidate (key : String) (catalogue : Catalogue) : Option CandidateRow :=
  Dict.get? key catalogue.candidates

theorem mem_of_mem_limited {α : Type} {limit : Int} {rows : List α} {row : α}
    (member : row ∈ limited limit rows) : row ∈ rows := by
  unfold limited at member
  split at member
  · exact member
  · exact List.mem_of_mem_take member

theorem candidate_updateCandidate (dhtKey : String) (matching : CandidateRow → Bool)
    (change : CandidateRow → CandidateRow) (catalogue : Catalogue) (key : String) :
    (updateCandidate dhtKey matching change catalogue).candidate key =
      if dhtKey = key then
        (catalogue.candidate key).map fun row => if matching row then change row else row
      else catalogue.candidate key := by
  by_cases same : dhtKey = key
  · subst same
    rw [if_pos rfl]
    unfold updateCandidate candidate
    cases found : Dict.get? dhtKey catalogue.candidates with
    | none => simp [found]
    | some row =>
        by_cases matches_ : matching row
        · simp [matches_]
        · simp [matches_, found]
  · rw [if_neg same]
    unfold updateCandidate candidate
    cases found : Dict.get? dhtKey catalogue.candidates with
    | none => rfl
    | some row =>
        by_cases matches_ : matching row
        · simp [matches_, Dict.get?_set_ne (Ne.symm same)]
        · simp [matches_]

theorem candidate_insertOrSeen (dhtKey : String) (firstSeen lastSeen : Int)
    (catalogue : Catalogue) (key : String) :
    (insertOrSeen dhtKey firstSeen lastSeen catalogue).candidate key =
      if dhtKey = key then
        some (CandidateRow.sighted firstSeen lastSeen (catalogue.candidate key))
      else catalogue.candidate key := by
  unfold insertOrSeen candidate
  rw [Dict.get?_set]
  by_cases same : dhtKey = key
  · subst same
    rw [if_pos rfl, if_pos rfl]
    cases Dict.get? dhtKey catalogue.candidates <;> rfl
  · rw [if_neg (Ne.symm same), if_neg same]

theorem torrentSeen_candidates (dhtKey : String) (lastSeen : Int) (catalogue : Catalogue) :
    (torrentSeen dhtKey lastSeen catalogue).candidates = catalogue.candidates := by
  unfold torrentSeen
  split
  · rfl
  · split <;> rfl

theorem insertNotification_candidates (torrentUid : String) (found : KeywordResult) (nowNs : Int)
    (catalogue : Catalogue) :
    (insertNotification torrentUid found nowNs catalogue).candidates = catalogue.candidates := by
  unfold insertNotification
  split <;> rfl

theorem candidate_recoverInterrupted (nowNs : Int) (catalogue : Catalogue) (key : String) :
    (recoverInterrupted nowNs catalogue).candidate key =
      (catalogue.candidate key).map (CandidateRow.recovered nowNs) :=
  Dict.get?_mapValues _ _ _

def Distinct (catalogue : Catalogue) : Prop := (Dict.keys catalogue.candidates).Nodup

theorem Distinct.congr {catalogue other : Catalogue} (distinct : catalogue.Distinct)
    (same : other.candidates = catalogue.candidates) : other.Distinct := by
  unfold Distinct
  rwa [same]

theorem Distinct.updateCandidate {catalogue : Catalogue} (distinct : catalogue.Distinct)
    (dhtKey : String) (matching : CandidateRow → Bool) (change : CandidateRow → CandidateRow) :
    (updateCandidate dhtKey matching change catalogue).Distinct := by
  unfold Catalogue.updateCandidate
  split
  · exact distinct
  · split
    · exact Dict.nodup_keys_set dhtKey _ distinct
    · exact distinct

theorem Distinct.recoverInterrupted {catalogue : Catalogue} (distinct : catalogue.Distinct)
    (nowNs : Int) : (recoverInterrupted nowNs catalogue).Distinct := by
  unfold Distinct Catalogue.recoverInterrupted
  rwa [Dict.keys_mapValues]

/-- A candidate that is due has a failed fetch, and its time has come. -/
theorem mem_dueCandidates {catalogue : Catalogue} (distinct : catalogue.Distinct)
    {nowNs limit : Int} {key : String}
    (due : key ∈ (dueCandidates nowNs limit).result catalogue) :
    ∃ row time, catalogue.candidate key = some row ∧ row.state = .fetchFailed ∧
      row.nextAttemptAt = some time ∧ time ≤ nowNs := by
  obtain ⟨entry, listed, rfl⟩ := List.mem_map.mp due
  have sorted := mem_of_mem_limited listed
  rw [List.mem_insertionSort, List.mem_filterMap] at sorted
  obtain ⟨⟨key, row⟩, member, timed⟩ := sorted
  simp only [Option.map_eq_some_iff, Option.filter_eq_some_iff, decide_eq_true_eq] at timed
  obtain ⟨time, ⟨dueAt, passed⟩, rfl⟩ := timed
  unfold CandidateRow.dueAt at dueAt
  split at dueAt
  · exact ⟨row, time, Dict.get?_of_mem distinct member, by assumption, dueAt, passed⟩
  · cases dueAt

/-- The statements of `persist_torrent` in front of the one that completes the candidate. -/
theorem persistTorrent_candidates (torrent : IndexedTorrent) (dhtKey : String)
    (notification : Option KeywordResult) (nowNs : Int) (catalogue : Catalogue) :
    ∃ written : Catalogue, written.candidates = catalogue.candidates ∧
      (persistTorrent torrent dhtKey notification nowNs).effect catalogue =
        completeCandidate dhtKey torrent.torrentUid written := by
  let written := insertFiles torrent (deleteFiles torrent.torrentUid
    (insertTorrent torrent nowNs catalogue))
  cases notification with
  | none => exact ⟨written, rfl, rfl⟩
  | some found =>
      exact ⟨insertNotification torrent.torrentUid found nowNs written,
        insertNotification_candidates torrent.torrentUid found nowNs written, rfl⟩

end Catalogue

namespace DatabaseCall

variable {config : Config}

/-- The one statement of a call does to the rows what the call does. -/
theorem candidate_single (request : DatabaseCall) {statement : Catalogue → Catalogue}
    (single : (request.operation config).statements = [statement]) (catalogue : Catalogue)
    (key : String) :
    (statement catalogue).candidate key =
      request.rowAfter config key (catalogue.candidate key) := by
  cases request with
  | markFetching dhtKey nowNs =>
      cases single
      rw [Catalogue.candidate_updateCandidate]
      simp [rowAfter, target, onRow, CandidateRow.started]
  | markFetchFailed dhtKey error nowNs nextAttemptNs =>
      cases single
      rw [Catalogue.candidate_updateCandidate]
      simp [rowAfter, target, onRow, CandidateRow.failed, ite_not]
  | markUnsupported dhtKey error =>
      cases single
      rw [Catalogue.candidate_updateCandidate]
      simp [rowAfter, target, onRow]
      rfl
  | markNotificationResult torrentUid success nowNs nextAttemptNs error =>
      cases single
      dsimp only
      split <;> rfl
  | persistTorrent torrent dhtKey notification nowNs => cases notification <;> cases single
  | upsertCandidateSeen dhtKey firstSeen lastSeen => cases single
  | candidateState dhtKey => cases single
  | dueCandidates nowNs limit => cases single
  | dueNotifications nowNs limit => cases single
  | search text limit => cases single

/-- A statement of a `func` without a handler of its own does all to the rows or nothing. -/
theorem candidate_statement (request : DatabaseCall) (direct : (request.operation config).rollsBack =
    false) {statement : Catalogue → Catalogue}
    (member : statement ∈ (request.operation config).statements) (catalogue : Catalogue) :
    (∀ key, (statement catalogue).candidate key = catalogue.candidate key) ∨
      ∀ key, (statement catalogue).candidate key =
        request.rowAfter config key (catalogue.candidate key) := by
  cases request with
  | upsertCandidateSeen dhtKey firstSeen lastSeen =>
      have either : statement = Catalogue.insertOrSeen dhtKey firstSeen lastSeen ∨
          statement = Catalogue.torrentSeen dhtKey lastSeen := by
        simpa [operation, Operation.map, Catalogue.upsertCandidateSeen] using member
      obtain rfl | rfl := either
      · right
        intro key
        rw [Catalogue.candidate_insertOrSeen]
        simp [rowAfter, target, onRow]
      · left
        intro key
        rw [Catalogue.candidate, Catalogue.torrentSeen_candidates, Catalogue.candidate]
  | markFetching dhtKey nowNs =>
      obtain rfl := List.mem_singleton.mp member
      exact .inr (candidate_single (.markFetching dhtKey nowNs) rfl catalogue)
  | markFetchFailed dhtKey error nowNs nextAttemptNs =>
      obtain rfl := List.mem_singleton.mp member
      exact .inr (candidate_single (.markFetchFailed dhtKey error nowNs nextAttemptNs) rfl catalogue)
  | markUnsupported dhtKey error =>
      obtain rfl := List.mem_singleton.mp member
      exact .inr (candidate_single (.markUnsupported dhtKey error) rfl catalogue)
  | markNotificationResult torrentUid success nowNs nextAttemptNs error =>
      obtain rfl := List.mem_singleton.mp member
      exact .inr (candidate_single
        (.markNotificationResult torrentUid success nowNs nextAttemptNs error) rfl catalogue)
  | persistTorrent torrent dhtKey notification nowNs => cases direct
  | candidateState dhtKey => cases member
  | dueCandidates nowNs limit => cases member
  | dueNotifications nowNs limit => cases member
  | search text limit => cases member

/-- The row of each candidate behind the whole call. -/
theorem candidate_effect (request : DatabaseCall) (catalogue : Catalogue) (key : String) :
    ((request.operation config).effect catalogue).candidate key =
      request.rowAfter config key (catalogue.candidate key) := by
  cases request with
  | upsertCandidateSeen dhtKey firstSeen lastSeen =>
      have both : (DatabaseCall.operation config (.upsertCandidateSeen dhtKey firstSeen lastSeen)).effect
          catalogue = Catalogue.torrentSeen dhtKey lastSeen
            (Catalogue.insertOrSeen dhtKey firstSeen lastSeen catalogue) := rfl
      rw [both, Catalogue.candidate, Catalogue.torrentSeen_candidates, ← Catalogue.candidate,
        Catalogue.candidate_insertOrSeen]
      simp [rowAfter, target, onRow]
  | persistTorrent torrent dhtKey notification nowNs =>
      obtain ⟨written, same, last⟩ :=
        Catalogue.persistTorrent_candidates torrent dhtKey notification nowNs catalogue
      have whole : (DatabaseCall.operation config
          (.persistTorrent torrent dhtKey notification nowNs)).effect catalogue =
            Catalogue.completeCandidate dhtKey torrent.torrentUid written := last
      rw [whole, Catalogue.completeCandidate, Catalogue.candidate_updateCandidate]
      simp [rowAfter, target, onRow, Catalogue.candidate, same]
      rfl
  | markFetching dhtKey nowNs => exact candidate_single (.markFetching dhtKey nowNs) rfl catalogue key
  | markFetchFailed dhtKey error nowNs nextAttemptNs =>
      exact candidate_single (.markFetchFailed dhtKey error nowNs nextAttemptNs) rfl catalogue key
  | markUnsupported dhtKey error =>
      exact candidate_single (.markUnsupported dhtKey error) rfl catalogue key
  | markNotificationResult torrentUid success nowNs nextAttemptNs error =>
      exact candidate_single
        (.markNotificationResult torrentUid success nowNs nextAttemptNs error) rfl catalogue key
  | candidateState dhtKey => rfl
  | dueCandidates nowNs limit => rfl
  | dueNotifications nowNs limit => rfl
  | search text limit => rfl

/-- A law for the row of each candidate, as a law for the table. -/
def rowLaw (law : Evolution (Option CandidateRow)) : Evolution Catalogue where
  leads earlier later := ∀ key, law.leads (earlier.candidate key) (later.candidate key)
  refl _ _ := law.refl _
  trans early late key := law.trans (early key) (late key)

/-- What the call obeys for each row it obeys for the table. -/
theorem obeys_rows {request : DatabaseCall} {inv : String → Option CandidateRow → Prop}
    {law : Evolution (Option CandidateRow)}
    (obeys : ∀ key, Follows (inv key) law (request.rowAfter config key)) :
    (request.operation config).Obeys (fun catalogue => ∀ key, inv key (catalogue.candidate key))
      (rowLaw law) := by
  unfold Operation.Obeys
  cases direct : (request.operation config).rollsBack with
  | true =>
      intro content holds
      constructor
      · intro key
        rw [candidate_effect]
        exact (obeys key _ (holds key)).1
      · intro key
        rw [candidate_effect]
        exact (obeys key _ (holds key)).2
  | false =>
      intro statement member content holds
      obtain same | changed := candidate_statement request direct member content
      · exact ⟨fun key => same key ▸ holds key, fun key => same key ▸ law.refl _⟩
      · constructor
        · intro key
          rw [changed key]
          exact (obeys key _ (holds key)).1
        · intro key
          rw [changed key]
          exact (obeys key _ (holds key)).2

theorem obeys_distinct (request : DatabaseCall) :
    (request.operation config).Obeys Catalogue.Distinct (.free Catalogue) := by
  cases request with
  | upsertCandidateSeen dhtKey firstSeen lastSeen =>
      intro statement member content distinct
      have either : statement = Catalogue.insertOrSeen dhtKey firstSeen lastSeen ∨
          statement = Catalogue.torrentSeen dhtKey lastSeen := by
        simpa [operation, Operation.map, Catalogue.upsertCandidateSeen] using member
      obtain rfl | rfl := either
      · exact ⟨Dict.nodup_keys_set dhtKey _ distinct, trivial⟩
      · exact ⟨distinct.congr (Catalogue.torrentSeen_candidates dhtKey lastSeen content), trivial⟩
  | markFetching dhtKey nowNs =>
      exact Operation.obeys_of_statement rfl fun _ distinct =>
        ⟨distinct.updateCandidate _ _ _, trivial⟩
  | markFetchFailed dhtKey error nowNs nextAttemptNs =>
      exact Operation.obeys_of_statement rfl fun _ distinct =>
        ⟨distinct.updateCandidate _ _ _, trivial⟩
  | markUnsupported dhtKey error =>
      exact Operation.obeys_of_statement rfl fun _ distinct =>
        ⟨distinct.updateCandidate _ _ _, trivial⟩
  | markNotificationResult torrentUid success nowNs nextAttemptNs error =>
      refine Operation.obeys_of_statement rfl fun content distinct =>
        ⟨distinct.congr ?_, trivial⟩
      dsimp only
      split <;> rfl
  | persistTorrent torrent dhtKey notification nowNs =>
      intro content distinct
      obtain ⟨written, same, last⟩ :=
        Catalogue.persistTorrent_candidates torrent dhtKey notification nowNs content
      have whole : (DatabaseCall.operation config
          (.persistTorrent torrent dhtKey notification nowNs)).effect content =
            Catalogue.completeCandidate dhtKey torrent.torrentUid written := last
      rw [whole]
      exact ⟨(distinct.congr same).updateCandidate _ _ _, trivial⟩
  | candidateState dhtKey => exact Operation.obeys_of_reads rfl
  | dueCandidates nowNs limit => exact Operation.obeys_of_reads rfl
  | dueNotifications nowNs limit => exact Operation.obeys_of_reads rfl
  | search text limit => exact Operation.obeys_of_reads rfl

end DatabaseCall

/-- In every run the candidates are told apart by their keys. -/
theorem Store.run_distinct {config : Config} {events : List StoreEvent} {final : Store}
    (ran : Transition.run (step config) empty events = some final) :
    final.session.Within Catalogue.Distinct (.free Catalogue) :=
  (run_within (fun nowNs _ distinct => ⟨distinct.recoverInterrupted nowNs, trivial⟩)
    (fun request _ _ => request.obeys_distinct) ran (.same rfl List.nodup_nil)).1

end PyDht
