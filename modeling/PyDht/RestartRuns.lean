import PyDht.CrawlerRuns

set_option autoImplicit false

namespace PyDht

namespace Catalogue

theorem limited_of_length_le {α : Type} {limit : Int} {rows : List α}
    (fits : (rows.length : Int) ≤ limit) : limited limit rows = rows := by
  unfold limited
  rw [if_neg (by omega)]
  exact List.take_of_length_le (by omega)

/-- A failed candidate is due from its time on, as far as the limit reaches. -/
theorem due_of_candidate {catalogue : Catalogue} {key : String} {row : CandidateRow}
    {time nowNs limit : Int} (found : catalogue.candidate key = some row)
    (failed : row.state = .fetchFailed) (timed : row.nextAttemptAt = some time)
    (passed : time ≤ nowNs) (fits : (catalogue.candidates.length : Int) ≤ limit) :
    key ∈ (dueCandidates nowNs limit).result catalogue := by
  let due := catalogue.candidates.filterMap fun entry =>
    (entry.2.dueAt.filter (· ≤ nowNs)).map (entry.1, ·)
  have dueAt : row.dueAt = some time := by
    unfold CandidateRow.dueAt
    rw [if_pos failed, timed]
  have listed : (key, time) ∈ due := by
    refine List.mem_filterMap.mpr ⟨(key, row), Dict.mem_of_get? found, ?_⟩
    simp [dueAt, passed]
  let sorted := due.insertionSort fun left right =>
    left.2 < right.2 ∨ left.2 = right.2 ∧ left.1 ≤ right.1
  have short : (sorted.length : Int) ≤ limit := by
    have fewer : due.length ≤ catalogue.candidates.length := List.length_filterMap_le _ _
    rw [List.length_insertionSort]
    omega
  have all : (dueCandidates nowNs limit).result catalogue = sorted.map Prod.fst :=
    congrArg (List.map Prod.fst) (limited_of_length_le short)
  rw [all]
  exact List.mem_map_of_mem (List.mem_insertionSort _ |>.mpr listed)

/-- Every candidate that is not settled and has attempts left is tried again some time: its fetch
counts as failed, and from its time on it is due. -/
def AllRetried (config : Config) (catalogue : Catalogue) : Prop :=
  ∀ key row, catalogue.candidate key = some row → row.isOpen = true →
    row.attempts < config.fetchRetryMaxAttempts →
    row.state = .fetchFailed ∧ ∃ time, row.nextAttemptAt = some time ∧
      ∀ nowNs limit, time ≤ nowNs → (catalogue.candidates.length : Int) ≤ limit →
        key ∈ (dueCandidates nowNs limit).result catalogue

end Catalogue

namespace Crawler

variable {env : CrawlerEnvironment} {crawler next : Crawler}

/-- A candidate that was seen and not taken into work any more. -/
def NoneLeftNew (config : Config) (crawler : Crawler) : Prop :=
  ∀ key row, crawler.row key = some row → row.state = .new →
    config.fetchRetryMaxAttempts ≤ row.attempts

theorem row_of_started {nowNs now : Int}
    (restarted : crawler.step env (.start nowNs now) = some next) (key : String) :
    next.row key = (crawler.row key).map (CandidateRow.recovered nowNs) := by
  obtain ⟨store, taken, rfl⟩ := Option.map_eq_some_iff.mp restarted
  simp only [Store.step] at taken
  split at taken
  · cases taken
    exact Catalogue.candidate_recoverInterrupted nowNs _ key
  · cases taken

/-- A row behind the recovery that is open and has attempts left is failed with a time, or new. -/
theorem recovered_spec {config : Config} {old : CandidateRow} {nowNs : Int}
    (spent : CandidateRow.Spent config (some old)) (isOpen : (old.recovered nowNs).isOpen = true)
    (left : (old.recovered nowNs).attempts < config.fetchRetryMaxAttempts) :
    ((old.recovered nowNs).state = .fetchFailed ∧
      ∃ time, (old.recovered nowNs).nextAttemptAt = some time) ∨
    (old.state = .new ∧ (old.recovered nowNs).state = .new ∧
      old.attempts < config.fetchRetryMaxAttempts) := by
  unfold CandidateRow.recovered at isOpen left ⊢
  split
  · exact .inl ⟨rfl, _, rfl⟩
  · rename_i apart
    rw [if_neg apart] at isOpen left
    cases status : old.state with
    | new => exact .inr ⟨rfl, rfl, left⟩
    | fetching => exact absurd status apart
    | fetchFailed =>
        cases timed : old.nextAttemptAt with
        | some time => exact .inl ⟨rfl, time, rfl⟩
        | none =>
            have used := spent old rfl status timed
            omega
    | unsupported => simp [CandidateRow.isOpen, status] at isOpen
    | complete => simp [CandidateRow.isOpen, status] at isOpen

/-- The restart of a process brings every candidate back that has attempts left, if and only if
the end of the process before has left none that is still new. -/
theorem run_restarts (env : CrawlerEnvironment) (events : List CrawlerEvent)
    (crawler next : Crawler) (nowNs now : Int)
    (ran : Transition.run (step env) fresh events = some crawler)
    (restarted : crawler.step env (.start nowNs now) = some next) :
    next.store.session.committed.AllRetried env.config.toConfig ↔
      crawler.NoneLeftNew env.config.toConfig := by
  have inv := run_inv events crawler ran
  have rows := row_of_started restarted
  constructor
  · intro retried key row found new
    by_contra left
    have kept : row.recovered nowNs = row := by
      unfold CandidateRow.recovered
      rw [if_neg (by rw [new]; exact nofun)]
    have after : next.row key = some row := by rw [rows key, found, Option.map_some, kept]
    obtain ⟨failed, -⟩ := retried key row after (by simp [CandidateRow.isOpen, new]) (by omega)
    rw [new] at failed
    cases failed
  · intro noneNew key row found isOpen left
    have after := rows key
    rw [show next.row key = some row from found] at after
    obtain ⟨old, known, rfl⟩ := Option.map_eq_some_iff.mp after.symm
    have spent := (inv.spent key).1
    rw [known] at spent
    obtain ⟨failed, time, timed⟩ | ⟨new, -, remaining⟩ := recovered_spec spent isOpen left
    · refine ⟨failed, time, timed, fun nowNs limit passed fits => ?_⟩
      exact Catalogue.due_of_candidate found failed timed passed fits
    · have used := noneNew key old known new
      omega

/-- The process ends behind the operation with which the worker takes the key into work. -/
def sampleInterrupted : List CrawlerEvent :=
  [.start 1 0, .submit 0 5 sampleKey "get_peers" none, .get 6 6, .serve 0 fun _ => {},
    .resume 0 7 0 0, .serve 0 fun _ => {}, .kill]

/-- The process ends one operation earlier. -/
def sampleSeen : List CrawlerEvent :=
  [.start 1 0, .submit 0 5 sampleKey "get_peers" none, .get 6 6, .serve 0 fun _ => {}, .kill]

theorem run_restarts_sample :
    ∃ crawler next,
      Transition.run (step sampleEnvironment) fresh sampleInterrupted = some crawler ∧
      crawler.step sampleEnvironment (.start 9 0) = some next ∧
      next.store.session.committed.AllRetried {} := by
  refine ⟨_, _, rfl, rfl, ?_⟩
  refine (run_restarts sampleEnvironment sampleInterrupted _ _ 9 0 (by rfl) (by rfl)).mpr ?_
  intro key row found new
  let fetching : CandidateRow :=
    { state := .fetching, firstSeen := 5, lastSeen := 5, attempts := 1, lastAttempt := some 6 }
  have listed : (key, row) ∈ [(dhtKeyText sampleKey, fetching)] := Dict.mem_of_get? found
  obtain ⟨-, rfl⟩ := Prod.mk.inj (List.mem_singleton.mp listed)
  cases new

/-- A candidate that was seen and not yet marked is left behind. -/
theorem new_left_behind :
    ∃ crawler next, Transition.run (step sampleEnvironment) fresh sampleSeen = some crawler ∧
      crawler.step sampleEnvironment (.start 9 0) = some next ∧
      ¬ next.store.session.committed.AllRetried {} := by
  refine ⟨_, _, rfl, rfl, fun retried => ?_⟩
  obtain ⟨failed, -⟩ := retried (dhtKeyText sampleKey)
    { state := .new, firstSeen := 5, lastSeen := 5 } rfl rfl (by decide)
  cases failed

end Crawler

end PyDht
