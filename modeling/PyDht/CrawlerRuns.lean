import PyDht.Crawler

set_option autoImplicit false

namespace PyDht

theorem dhtKeyText_injective {left right : Bytes} (same : dhtKeyText left = dhtKeyText right) :
    left = right := by
  have lists : hexChars left = hexChars right := by
    have whole := congrArg String.toList same
    simpa [dhtKeyText, hex] using whole
  have read := congrArg fromHexChars lists
  rw [fromHexChars_hexChars, fromHexChars_hexChars] at read
  exact Option.some.inj read

namespace CandidateSystem

variable {config : Config} {system next : CandidateSystem}

theorem submit_working {now wall : Int} {key : Bytes} {source : String}
    {peerHint : Option PeerHint} {retry : Bool}
    (taken : step config system (.submit now wall key source peerHint retry) = some next) :
    next.working = system.working := by
  simp only [step] at taken
  split at taken <;> cases taken
  rfl

/-- A key that is taken from the queue was with no worker. -/
theorem get_spec (inv : Inv config system) {worker : Nat} {key : Bytes}
    {rest : BoundedQueue Bytes} (waits : system.manager.queue.get = some (key, rest))
    (taken : step config system (.get worker) = some next) :
    next.working = system.working ++ [(worker, key)] ∧
      ∀ other, (other, key) ∉ system.working := by
  simp only [step] at taken
  split at taken
  · cases taken
  · rw [waits] at taken
    cases taken
    refine ⟨rfl, fun other held => ?_⟩
    obtain ⟨shape, -⟩ := BoundedQueue.get_eq_some waits
    have apart := (List.nodup_append.mp inv.places).2.2
    exact apart key (by simp [shape]) key (List.mem_map_of_mem held) rfl

theorem finish_spec {worker : Nat} {stamp now : Int}
    (taken : step config system (.finish worker stamp now) = some next) :
    next.working = Dict.pop worker system.working := by
  simp only [step, Option.bind_eq_some_iff] at taken
  obtain ⟨key, -, taken⟩ := taken
  split at taken <;> cases taken
  rfl

/-- A key that has been finished is in no state. -/
theorem finish_released {worker : Nat} {key : Bytes} {stamp now : Int}
    (busy : Dict.get? worker system.working = some key)
    (taken : step config system (.finish worker stamp now) = some next) :
    key ∉ Dict.keys next.manager.states := by
  simp only [step, busy, Option.bind_some] at taken
  split at taken <;> cases taken
  simp [CandidateManager.finish, CandidateManager.pruneRecent, Dict.mem_keys_pop]

end CandidateSystem

/-- How `_process_candidate` comes to go on. -/
inductive CrawlerEnvironment.Goes (env : CrawlerEnvironment) (manager : CandidateManager)
    (job : Processing) : Onward → Prop where
  | resumed (wallNs : Int) (onward : Onward) (goes : env.resume manager wallNs job = some onward) :
      Goes env manager job onward
  | fetched (script : PeerScript) (endpoint : Endpoint) (wallNs : Int) (onward : Onward)
      (dialed : job.endpoint = some endpoint)
      (goes : env.fetched job (script.outcome env.config env.sha1 env.peerId endpoint job.key)
        wallNs = some onward) : Goes env manager job onward
  | lookedUp (outcome : Except PyError (List Endpoint)) (onward : Onward)
      (goes : env.lookedUp manager job outcome = some onward) : Goes env manager job onward

namespace Crawler

/-- What a step can do. -/
inductive Moved (env : CrawlerEnvironment) (crawler : Crawler) : Crawler → Prop where
  | submitted (candidates : CandidateSystem) (due : List String)
      (kept : candidates.working = crawler.candidates.working)
      (sound : CandidateSystem.Inv env.config.toConfig crawler.candidates →
        CandidateSystem.Inv env.config.toConfig candidates) :
      Moved env crawler { crawler with candidates, due }
  | asked (request : DatabaseCall) (attempts : Nat → Attempt) (store : Store) (due : List String)
      (apart : request.target = none)
      (served : crawler.store.step env.config.toConfig (.serve request attempts) = some store) :
      Moved env crawler { crawler with store, due }
  | admitted (candidates : CandidateSystem) (key : Bytes) (rest : BoundedQueue Bytes)
      (wallNs nowNs : Int) (up : crawler.store.thread ≠ .down)
      (waits : crawler.candidates.manager.queue.get = some (key, rest))
      (taken : crawler.candidates.step env.config.toConfig (.get crawler.dequeued) =
        some candidates) :
      Moved env crawler
        { crawler with
          candidates
          jobs := crawler.jobs ++
            [(crawler.dequeued, Processing.opening candidates.manager key wallNs nowNs)]
          dequeued := crawler.dequeued + 1 }
  | served (number : Nat) (job : Processing) (request : DatabaseCall) (attempts : Nat → Attempt)
      (next : Crawler) (found : Dict.get? number crawler.jobs = some job)
      (asks : job.request = some request) (waits : job.reply = none)
      (done : crawler.serve env.config.toConfig number job request attempts = some next) :
      Moved env crawler next
  | proceeded (number : Nat) (job : Processing) (onward : Onward) (stamp now : Int)
      (next : Crawler) (found : Dict.get? number crawler.jobs = some job)
      (goes : env.Goes crawler.candidates.manager job onward)
      (done : crawler.proceed env.config.toConfig number job stamp now onward = some next) :
      Moved env crawler next
  | started (nowNs now : Int) (store : Store)
      (taken : crawler.store.step env.config.toConfig (.start nowNs) = some store) :
      Moved env crawler
        { crawler with candidates := .new env.config.hashQueueSize now, store }
  | halted (event : StoreEvent) (store : Store) (ends : event = .stop ∨ event = .kill)
      (taken : crawler.store.step env.config.toConfig event = some store) :
      Moved env crawler (crawler.halted store)

theorem live_moved {env : CrawlerEnvironment} {crawler next : Crawler} {event : CrawlerEvent}
    (up : crawler.store.thread ≠ .down) (taken : crawler.live env event = some next) : Moved env crawler next := by
  cases event with
  | submit now wall key source peerHint =>
      obtain ⟨candidates, stepped, rfl⟩ := Option.map_eq_some_iff.mp taken
      exact .submitted candidates crawler.due (CandidateSystem.submit_working stepped)
        fun inv => CandidateSystem.step_inv inv stepped
  | scan nowNs attempts =>
      obtain ⟨store, served, rfl⟩ := Option.map_eq_some_iff.mp taken
      split
      · exact .asked _ attempts store _ rfl served
      · exact .asked _ attempts store crawler.due rfl served
  | resubmit now wall =>
      simp only [live] at taken
      split at taken
      · cases taken
      · rename_i text due waiting
        split at taken
        · cases taken
          exact .submitted crawler.candidates due rfl id
        · obtain ⟨candidates, stepped, rfl⟩ := Option.map_eq_some_iff.mp taken
          exact .submitted candidates due (CandidateSystem.submit_working stepped)
            fun inv => CandidateSystem.step_inv inv stepped
  | get wallNs nowNs =>
      simp only [live] at taken
      split at taken
      · cases taken
      · rename_i key rest waits
        obtain ⟨candidates, stepped, rfl⟩ := Option.map_eq_some_iff.mp taken
        exact .admitted candidates key rest wallNs nowNs up waits stepped
  | serve number attempts =>
      simp only [live] at taken
      split at taken
      · cases taken
      · rename_i job found
        split at taken
        · rename_i request asks waits
          exact .served number job request attempts next found asks waits taken
        · cases taken
  | resume number wallNs stamp now =>
      simp only [live] at taken
      split at taken
      · cases taken
      · rename_i job found
        obtain ⟨onward, goes, done⟩ := Option.bind_eq_some_iff.mp taken
        exact .proceeded number job onward stamp now next found (.resumed wallNs onward goes) done
  | fetch number script wallNs =>
      simp only [live] at taken
      split at taken
      · cases taken
      · rename_i job found
        split at taken
        · cases taken
        · rename_i endpoint dialed
          obtain ⟨onward, goes, done⟩ := Option.bind_eq_some_iff.mp taken
          exact .proceeded number job onward 0 0 next found
            (.fetched script endpoint wallNs onward dialed goes) done
  | lookup number outcome =>
      simp only [live] at taken
      split at taken
      · cases taken
      · rename_i job found
        obtain ⟨onward, goes, done⟩ := Option.bind_eq_some_iff.mp taken
        exact .proceeded number job onward 0 0 next found (.lookedUp outcome onward goes) done
  | call request attempts =>
      simp only [live] at taken
      split at taken
      · cases taken
      · rename_i apart
        obtain ⟨store, served, rfl⟩ := Option.map_eq_some_iff.mp taken
        exact .asked request attempts store crawler.due (by simpa using apart) served
  | start nowNs now => cases taken
  | stop => cases taken
  | kill => cases taken

theorem step_moved {env : CrawlerEnvironment} {crawler next : Crawler} {event : CrawlerEvent}
    (taken : crawler.step env event = some next) : Moved env crawler next := by
  have running : (if crawler.store.thread = .down then none else crawler.live env event) =
      some next → Moved env crawler next := by
    intro lives
    split at lives
    · cases lives
    · rename_i up
      exact live_moved up lives
  cases event with
  | start nowNs now =>
      obtain ⟨store, started, rfl⟩ := Option.map_eq_some_iff.mp taken
      exact .started nowNs now store started
  | stop =>
      obtain ⟨store, stopped, rfl⟩ := Option.map_eq_some_iff.mp taken
      exact .halted .stop store (.inl rfl) stopped
  | kill =>
      cases taken
      exact .halted .kill _ (.inr rfl) rfl
  | submit now wall key source peerHint => exact running taken
  | scan nowNs attempts => exact running taken
  | resubmit now wall => exact running taken
  | get wallNs nowNs => exact running taken
  | serve number attempts => exact running taken
  | resume number wallNs stamp now => exact running taken
  | fetch number script wallNs => exact running taken
  | lookup number outcome => exact running taken
  | call request attempts => exact running taken

end Crawler

namespace CandidateRow

/-- Facts about a row that may be missing. -/
def Idle (found : Option CandidateRow) : Prop :=
  ∀ row, found = some row → row.state ≠ .fetching

def Exhausted (config : Config) (found : Option CandidateRow) : Prop :=
  ∀ row, found = some row → config.fetchRetryMaxAttempts ≤ row.attempts

/-- A failed fetch without a time for the next one was the last that is allowed. -/
def Spent (config : Config) (found : Option CandidateRow) : Prop :=
  ∀ row, found = some row → row.state = .fetchFailed → row.nextAttemptAt = none →
    config.fetchRetryMaxAttempts ≤ row.attempts

end CandidateRow

open CandidateRow (Idle Exhausted Spent)

namespace Processing

/-- The operation that the call waits for has raised. -/
def broken (job : Processing) : Bool :=
  match job.reply with
  | some (.exception _) => true
  | _ => false

/-- What a call that goes on knows of the row of its key. -/
def Knows (config : Config) (job : Processing) (row : Option CandidateRow) : Prop :=
  match job.stage, job.reply with
  | .upserting _ _ _, some (.result (.row found)) => row = found
  | .reading _, some (.result (.row found)) => row = found
  | .marking _, some (.result (.marked false)) => Idle row
  | .persisting _ _ _, some (.result _) => Idle row
  | .failing _ _ _, some (.result _) => Idle row
  | .failing _ _ none, none => Exhausted config row
  | _, _ => True

end Processing

namespace Crawler

/-- The row of a key as committed. -/
def row (crawler : Crawler) (text : String) : Option CandidateRow :=
  crawler.store.session.committed.candidate text

/-- Every call that holds a key of this text still goes on. -/
def Whole (crawler : Crawler) (text : String) : Prop :=
  ∀ number key, Dict.get? number crawler.candidates.working = some key → dhtKeyText key = text →
    ∃ job, Dict.get? number crawler.jobs = some job ∧ job.broken = false

structure Inv (env : CrawlerEnvironment) (crawler : Crawler) : Prop where
  candidates : CandidateSystem.Inv env.config.toConfig crawler.candidates
  numbers : ∀ number ∈ Dict.keys crawler.candidates.working, number < crawler.dequeued
  holders : ∀ number job, Dict.get? number crawler.jobs = some job →
    Dict.get? number crawler.candidates.working = some job.key
  synced : ∀ text, crawler.Whole text →
    crawler.store.session.working.candidate text = crawler.row text
  knows : ∀ number job, Dict.get? number crawler.jobs = some job → job.broken = false →
    job.Knows env.config.toConfig (crawler.row (dhtKeyText job.key))
  spent : ∀ text, Spent env.config.toConfig (crawler.row text) ∧
    Spent env.config.toConfig (crawler.store.session.working.candidate text)
  asks : ∀ number job, Dict.get? number crawler.jobs = some job → job.reply ≠ none →
    job.request ≠ none
  idle : crawler.store.thread = .down → crawler.jobs = []

variable {env : CrawlerEnvironment} {crawler next : Crawler}

/-- The one call that holds a key. -/
theorem Inv.whole (inv : Inv env crawler) {number : Nat} {job : Processing}
    (found : Dict.get? number crawler.jobs = some job) (goesOn : job.broken = false) :
    crawler.Whole (dhtKeyText job.key) := by
  intro other key held same
  have holds := inv.holders number job found
  rw [dhtKeyText_injective same] at held
  obtain rfl := inv.candidates.unique_worker (Dict.mem_of_get? held) (Dict.mem_of_get? holds)
  exact ⟨job, found, goesOn⟩

/-- What a call of another key, or of none, leaves of a row. -/
theorem frame {config : Config} {store changed : Store} {request : DatabaseCall}
    {attempts : Nat → Attempt} (text : String) (apart : request.target ≠ some text)
    (served : store.step config (.serve request attempts) = some changed)
    (synced : store.session.working.candidate text = store.session.committed.candidate text) :
    changed.session.working.candidate text = store.session.committed.candidate text ∧
      changed.session.committed.candidate text = store.session.committed.candidate text := by
  let rows : String → Option CandidateRow → Prop := fun key found =>
    key = text → found = store.session.committed.candidate text
  have kept := (@Store.step_within (fun content => ∀ key, rows key (content.candidate key))
    (DatabaseCall.rowLaw (.free (Option CandidateRow))) config store changed _ (by
      intro nowNs other
      cases other)
    (by
      intro other turns same
      cases same
      apply DatabaseCall.obeys_rows
      intro key found known
      refine ⟨fun same => ?_, trivial⟩
      rw [DatabaseCall.rowAfter, if_neg (fun aims => apart (same ▸ aims))]
      exact known same)
    ⟨fun key same => same ▸ rfl, fun key same => same ▸ synced, fun _ => trivial⟩ served).1
  exact ⟨kept.working text rfl, kept.committed text rfl⟩

end Crawler

/-- The call marks the key as failed for good. -/
def DatabaseCall.GivesUp (request : DatabaseCall) (key : String) : Prop :=
  ∃ error nowNs, request = .markFetchFailed key error nowNs none

/-- A call that waits for this operation has seen that the attempts are used up. -/
theorem Processing.Knows.exhausted {config : Config} {job : Processing}
    {row : Option CandidateRow} (known : job.Knows config row) {request : DatabaseCall} {text : String}
    (asks : job.request = some request) (waits : job.reply = none)
    (givesUp : request.GivesUp text) : text = dhtKeyText job.key ∧ Exhausted config row := by
  obtain ⟨error, nowNs, rfl⟩ := givesUp
  unfold Processing.request at asks
  split at asks <;> cases asks
  rename_i stage
  simp only [Processing.Knows, stage, waits] at known
  exact ⟨rfl, known⟩

theorem CandidateRow.Spent.recovered {config : Config} {found : Option CandidateRow}
    (spent : Spent config found) (nowNs : Int) :
    Spent config (found.map (CandidateRow.recovered nowNs)) := by
  intro row same failed nothing
  obtain ⟨old, known, rfl⟩ := Option.map_eq_some_iff.mp same
  unfold CandidateRow.recovered at failed nothing ⊢
  split at nothing
  · cases nothing
  · rename_i apart
    rw [if_neg apart] at failed ⊢
    exact spent old known failed nothing

theorem DatabaseCall.spent_follows (config : Config) (request : DatabaseCall) (key : String) :
    Follows (fun found => Spent config found ∧ (request.GivesUp key → Exhausted config found))
      (.free (Option CandidateRow)) (request.rowAfter config key) := by
  intro found known
  obtain ⟨spent, exhausted⟩ := known
  refine ⟨?_, trivial⟩
  unfold rowAfter
  split
  · rename_i aimed
    cases request with
    | upsertCandidateSeen dhtKey firstSeen lastSeen =>
        refine ⟨?_, fun givesUp => absurd givesUp (by rintro ⟨_, _, other⟩; cases other)⟩
        intro row same failed
        cases same
        cases found with
        | none => cases failed
        | some old => exact spent old rfl failed
    | markFetching dhtKey nowNs =>
        refine ⟨?_, fun givesUp => absurd givesUp (by rintro ⟨_, _, other⟩; cases other)⟩
        intro row same failed
        obtain ⟨old, known, rfl⟩ := Option.map_eq_some_iff.mp same
        by_cases free : old.isOpen
        · rw [if_pos free] at failed
          cases failed
        · rw [if_neg free] at failed ⊢
          exact spent old known failed
    | markFetchFailed dhtKey error nowNs nextAttemptNs =>
        cases aimed
        have last : ∀ old, found = some old → nextAttemptNs = none →
            config.fetchRetryMaxAttempts ≤ old.attempts := by
          intro old known nothing
          exact exhausted ⟨error, nowNs, by rw [nothing]⟩ old known
        constructor
        · intro row same failed nothing
          obtain ⟨old, known, rfl⟩ := Option.map_eq_some_iff.mp same
          by_cases complete : old.state = .complete
          · rw [if_pos complete] at failed
            rw [complete] at failed
            cases failed
          · rw [if_neg complete] at nothing ⊢
            exact last old known nothing
        · intro givesUp row same
          obtain ⟨old, known, rfl⟩ := Option.map_eq_some_iff.mp same
          have bound := exhausted givesUp old known
          by_cases complete : old.state = .complete
          · rwa [if_pos complete]
          · rw [if_neg complete]
            exact bound
    | markUnsupported dhtKey error =>
        refine ⟨?_, fun givesUp => absurd givesUp (by rintro ⟨_, _, other⟩; cases other)⟩
        intro row same failed
        obtain ⟨old, known, rfl⟩ := Option.map_eq_some_iff.mp same
        cases failed
    | persistTorrent torrent dhtKey notification nowNs =>
        refine ⟨?_, fun givesUp => absurd givesUp (by rintro ⟨_, _, other⟩; cases other)⟩
        intro row same failed
        obtain ⟨old, known, rfl⟩ := Option.map_eq_some_iff.mp same
        cases failed
    | markNotificationResult torrentUid success nowNs nextAttemptNs error => cases aimed
    | candidateState dhtKey => cases aimed
    | dueCandidates nowNs limit => cases aimed
    | dueNotifications nowNs limit => cases aimed
    | search text limit => cases aimed
  · exact ⟨spent, exhausted⟩

namespace Crawler

variable {env : CrawlerEnvironment} {crawler next : Crawler}

/-- Serving an operation spends no candidate, unless it gives one up that is exhausted. -/
theorem spent_served {config : Config} {store changed : Store} {request : DatabaseCall}
    {attempts : Nat → Attempt}
    (served : store.step config (.serve request attempts) = some changed)
    (spent : ∀ text, Spent config (store.session.committed.candidate text) ∧
      Spent config (store.session.working.candidate text))
    (exhausted : ∀ text, request.GivesUp text →
      Exhausted config (store.session.committed.candidate text) ∧
        Exhausted config (store.session.working.candidate text)) :
    ∀ text, Spent config (changed.session.committed.candidate text) ∧
      Spent config (changed.session.working.candidate text) := by
  have kept := (@Store.step_within (fun content => ∀ text,
      Spent config (content.candidate text) ∧
        (request.GivesUp text → Exhausted config (content.candidate text)))
    (DatabaseCall.rowLaw (.free (Option CandidateRow))) config store changed _ (by
      intro nowNs other
      cases other)
    (by
      intro other turns same
      cases same
      exact DatabaseCall.obeys_rows (DatabaseCall.spent_follows config request))
    ⟨fun text => ⟨(spent text).1, fun givesUp => (exhausted text givesUp).1⟩,
      fun text => ⟨(spent text).2, fun givesUp => (exhausted text givesUp).2⟩,
      fun _ => trivial⟩ served).1
  exact fun text => ⟨(kept.committed text).1, (kept.working text).1⟩

theorem serving_of_served {config : Config} {store changed : Store} {request : DatabaseCall}
    {attempts : Nat → Attempt}
    (served : store.step config (.serve request attempts) = some changed) :
    store.thread = .serving ∧ changed.thread ≠ .down ∧
      changed.session = ((request.operation config).run config attempts store.session).session := by
  simp only [Store.step] at served
  split at served <;> cases served
  refine ⟨by assumption, ?_, rfl⟩
  dsimp only
  split <;> simp

/-- The operation of a call writes the row of its own key, or reads it. -/
theorem target_of_request {job : Processing} {request : DatabaseCall} (asks : job.request = some request) :
    request.target = some (dhtKeyText job.key) ∧
        (∀ config, (request.operation config).statements ≠ []) ∨
      ∃ errors, job.stage = .reading errors ∧ request = .candidateState (dhtKeyText job.key) := by
  unfold Processing.request at asks
  split at asks <;> cases asks
  · exact .inl ⟨rfl, fun _ => by simp [DatabaseCall.operation, Operation.map,
      Catalogue.upsertCandidateSeen]⟩
  · exact .inl ⟨rfl, fun _ => by simp [DatabaseCall.operation, Operation.map, Catalogue.markFetching]⟩
  · exact .inl ⟨rfl, fun _ => by simp [DatabaseCall.operation, Operation.map,
      Catalogue.persistTorrent]⟩
  · exact .inr ⟨_, by assumption, rfl⟩
  · exact .inl ⟨rfl, fun _ => by simp [DatabaseCall.operation, Operation.map,
      Catalogue.markFetchFailed]⟩

theorem knows_of_result (config : Config) {job : Processing} {request : DatabaseCall}
    (asks : job.request = some request) (content : Catalogue) :
    Processing.Knows config
      { job with reply := some (.result ((request.operation config).result content)) }
      (request.onRow config (content.candidate (dhtKeyText job.key))) := by
  obtain ⟨key, stage, reply⟩ := job
  cases stage with
  | upserting nowNs firstSeen lastSeen =>
      cases asks
      have read := Catalogue.candidate_insertOrSeen (dhtKeyText key) firstSeen lastSeen content
        (dhtKeyText key)
      rw [if_pos rfl] at read
      exact read.symm
  | marking nowNs =>
      cases asks
      cases found : content.candidate (dhtKeyText key) with
      | none =>
          have refused : (DatabaseCall.operation config (.markFetching (dhtKeyText key) nowNs)).result
              content = .marked false := by
            have nothing : Dict.get? (dhtKeyText key) content.candidates = none := found
            simp [DatabaseCall.operation, Operation.map, Catalogue.markFetching, nothing]
          rw [refused]
          intro row same
          cases same
      | some row =>
          have marked : (DatabaseCall.operation config (.markFetching (dhtKeyText key) nowNs)).result
              content = .marked row.isOpen := by
            have known : Dict.get? (dhtKeyText key) content.candidates = some row := found
            simp [DatabaseCall.operation, Operation.map, Catalogue.markFetching, known]
          rw [marked]
          cases free : row.isOpen with
          | true => trivial
          | false =>
              intro same taken fetching
              have kept : row = same := by
                simpa [DatabaseCall.onRow, free] using taken
              subst kept
              simp [CandidateRow.isOpen, fetching] at free
  | persisting torrent notification nowNs =>
      cases asks
      intro row same fetching
      obtain ⟨old, -, rfl⟩ := Option.map_eq_some_iff.mp same
      cases fetching
  | reading errors =>
      cases asks
      rfl
  | failing error nowNs nextAttemptNs =>
      cases asks
      intro row same fetching
      obtain ⟨old, -, rfl⟩ := Option.map_eq_some_iff.mp same
      by_cases complete : old.state = .complete
      · rw [if_pos complete, complete] at fetching
        cases fetching
      · rw [if_neg complete] at fetching
        cases fetching
  | hinting endpoint hints search => cases asks
  | lookingUp search => cases asks
  | dialing endpoint peers attempts search => cases asks

/-- What the result of an operation tells the call that asked for it. -/
theorem knows_served {config : Config} {store changed : Store} {job : Processing}
    {request : DatabaseCall} {attempts : Nat → Attempt} (asks : job.request = some request)
    (served : store.step config (.serve request attempts) = some changed)
    (synced : store.session.working.candidate (dhtKeyText job.key) =
      store.session.committed.candidate (dhtKeyText job.key)) {answer : Answer}
    (replied : ((request.operation config).run config attempts store.session).reply =
      .result answer) :
    Processing.Knows config { job with reply := some (.result answer) }
        (changed.session.committed.candidate (dhtKeyText job.key)) ∧
      changed.session.working.candidate (dhtKeyText job.key) =
        changed.session.committed.candidate (dhtKeyText job.key) := by
  obtain ⟨-, -, same⟩ := serving_of_served served
  obtain ⟨targets, writes⟩ | ⟨errors, stage, rfl⟩ := target_of_request asks
  · have free : (request.operation config).Obeys (fun _ => True) (.free Catalogue) := by
      unfold Operation.Obeys
      split
      · exact fun _ _ => ⟨trivial, trivial⟩
      · exact fun _ _ _ _ => ⟨trivial, trivial⟩
    obtain ⟨content, -, rfl, working, committed⟩ := free.run_result
      ⟨trivial, trivial, trivial⟩ replied
    have now : changed.session.committed.candidate (dhtKeyText job.key) =
        request.onRow config (content.candidate (dhtKeyText job.key)) := by
      rw [same, committed (writes config), DatabaseCall.candidate_effect, DatabaseCall.rowAfter,
        if_pos targets]
    refine ⟨?_, by rw [same, working, committed (writes config)]⟩
    rw [now]
    exact knows_of_result config asks content
  · let inv : Catalogue → Prop := fun content =>
      content.candidate (dhtKeyText job.key) =
        store.session.committed.candidate (dhtKeyText job.key)
    have reads : (DatabaseCall.operation config (.candidateState (dhtKeyText job.key))).Obeys inv
        (.free Catalogue) := Operation.obeys_of_reads rfl
    have within : store.session.Within inv (.free Catalogue) := ⟨rfl, synced, trivial⟩
    obtain ⟨content, known, rfl, -, -⟩ := reads.run_result within replied
    have kept := (reads.run config attempts within).1
    rw [← same] at kept
    refine ⟨?_, kept.working.trans kept.committed.symm⟩
    have learns := knows_of_result config asks content
    rwa [show DatabaseCall.onRow config (.candidateState (dhtKeyText job.key))
      (content.candidate (dhtKeyText job.key)) = content.candidate (dhtKeyText job.key) from rfl,
      show content.candidate (dhtKeyText job.key) =
        changed.session.committed.candidate (dhtKeyText job.key) from
          known.trans kept.committed.symm] at learns

end Crawler

namespace CrawlerEnvironment

variable {env : CrawlerEnvironment}

theorem tryHints_ne_failing (hints : List PeerHint) (search : PeerSearch) (error : String)
    (nowNs : Int) (nextAttemptNs : Option Int) :
    env.tryHints hints search ≠ .failing error nowNs nextAttemptNs := by
  induction hints generalizing search with
  | nil => exact nofun
  | cons hint hints ih =>
      simp only [tryHints]
      split
      · exact ih search
      · exact nofun

theorem tryPeers_ne_failing (peers : List Endpoint) (attempts : Int) (search : PeerSearch)
    (error : String) (nowNs : Int) (nextAttemptNs : Option Int) :
    env.tryPeers peers attempts search ≠ .failing error nowNs nextAttemptNs := by
  induction peers with
  | nil => exact nofun
  | cons endpoint peers ih =>
      simp only [tryPeers]
      split
      · exact nofun
      · split
        · exact ih
        · exact nofun

theorem index_ne_failing (key rawInfo : Bytes) (errors : List String) (wallNs : Int)
    (error : String) (nowNs : Int) (nextAttemptNs : Option Int) :
    env.index key rawInfo errors wallNs ≠ .waits (.failing error nowNs nextAttemptNs) := by
  unfold index
  split
  · split <;> exact nofun
  · exact nofun

/-- A call gives a candidate up behind `candidate_state`, and nowhere else. -/
theorem goes_failing {manager : CandidateManager} {job : Processing} {error : String}
    {nowNs : Int} {nextAttemptNs : Option Int}
    (goes : env.Goes manager job (.waits (.failing error nowNs nextAttemptNs))) :
    ∃ errors latest, job.stage = .reading errors ∧ job.reply = some (.result (.row latest)) ∧
      env.giveUp errors latest nowNs = .waits (.failing error nowNs nextAttemptNs) := by
  cases goes with
  | resumed wallNs _ goes =>
      unfold resume at goes
      split at goes
      · cases goes
      · cases goes
      · rename_i answer replied
        split at goes
        · have kept := Option.some.inj goes
          unfold Processing.admission at kept
          split at kept
          · cases kept
          · cases kept
          · split at kept
            · cases kept
            · split at kept <;> cases kept
          · cases kept
        · exact absurd (Onward.waits.inj (Option.some.inj goes))
            (tryHints_ne_failing _ _ error nowNs nextAttemptNs)
        · cases goes
        · cases goes
        · rename_i errors latest reads
          have gave := Option.some.inj goes
          have time : wallNs = nowNs := by
            unfold giveUp at gave
            dsimp only at gave
            split at gave <;> cases gave <;> rfl
          subst time
          exact ⟨errors, latest, reads, replied, gave⟩
        · cases goes
        · cases goes
  | fetched script endpoint wallNs _ dialed goes =>
      simp only [fetched] at goes
      split at goes
      · exact absurd (Onward.waits.inj (Option.some.inj goes)) (tryHints_ne_failing _ _ _ _ _)
      · exact absurd (Onward.waits.inj (Option.some.inj goes)) (tryPeers_ne_failing _ _ _ _ _ _)
      · exact absurd (Option.some.inj goes) (index_ne_failing _ _ _ _ _ _ _)
      · exact absurd (Option.some.inj goes) (index_ne_failing _ _ _ _ _ _ _)
      · cases goes
      · cases goes
      · cases goes
  | lookedUp outcome _ goes =>
      simp only [lookedUp] at goes
      split at goes
      · exact absurd (Onward.waits.inj (Option.some.inj goes)) (tryPeers_ne_failing _ _ _ _ _ _)
      · exact absurd (Onward.waits.inj (Option.some.inj goes)) (tryPeers_ne_failing _ _ _ _ _ _)
      · cases goes

/-- A call that goes on without an exception has had a result, or has waited for none. -/
theorem goes_unbroken {manager : CandidateManager} {job : Processing} {onward : Onward}
    (goes : env.Goes manager job onward) (asks : job.reply ≠ none → job.request ≠ none)
    (quiet : ∀ error, onward ≠ .raises error) : job.broken = false := by
  have silent : job.request = none → job.broken = false := by
    intro nothing
    have reply : job.reply = none := by
      by_contra replied
      exact asks replied nothing
    simp [Processing.broken, reply]
  cases goes with
  | resumed wallNs _ goes =>
      unfold resume at goes
      split at goes
      · cases goes
      · exact absurd (Option.some.inj goes).symm (quiet _)
      · rename_i replied
        simp [Processing.broken, replied]
  | fetched script endpoint wallNs _ dialed goes =>
      apply silent
      unfold Processing.endpoint at dialed
      unfold Processing.request
      split at dialed
      · rename_i stage
        simp [stage]
      · rename_i stage
        simp [stage]
      · cases dialed
  | lookedUp outcome _ goes =>
      apply silent
      unfold lookedUp at goes
      unfold Processing.request
      split at goes
      · rename_i stage
        simp [stage]
      · rename_i stage
        simp [stage]
      · cases goes

end CrawlerEnvironment

namespace Crawler

variable {env : CrawlerEnvironment} {crawler next : Crawler}

/-- The calls of `_process_candidate` that give a candidate up have counted its attempts. -/
theorem knows_of_waits {manager : CandidateManager} {job : Processing} {stage : WorkerStage}
    {row : Option CandidateRow} (goes : env.Goes manager job (.waits stage))
    (knows : job.Knows env.config.toConfig row) :
    Processing.Knows env.config.toConfig { job with stage, reply := none } row := by
  cases stage with
  | failing error nowNs nextAttemptNs =>
      cases nextAttemptNs with
      | some time => trivial
      | none =>
          obtain ⟨errors, latest, reads, replied, gave⟩ := CrawlerEnvironment.goes_failing goes
          simp only [Processing.Knows, reads, replied] at knows
          subst knows
          intro found same
          subst same
          simp only [CrawlerEnvironment.giveUp, Option.map_some, Option.getD_some] at gave
          split at gave
          · assumption
          · cases gave
  | upserting nowNs firstSeen lastSeen => trivial
  | marking nowNs => trivial
  | hinting endpoint hints search => trivial
  | lookingUp search => trivial
  | dialing endpoint peers attempts search => trivial
  | persisting torrent notification nowNs => trivial
  | reading errors => trivial

namespace Inv

theorem fresh (env : CrawlerEnvironment) : Inv env fresh where
  candidates := CandidateSystem.new_inv env.config.toConfig 0 0
  numbers _ member := absurd member List.not_mem_nil
  holders _ _ found := by cases found
  synced _ _ := rfl
  knows _ _ found := by cases found
  spent _ := by
    constructor
    · intro row found
      cases found
    · intro row found
      cases found
  asks _ _ found := by cases found
  idle _ := rfl

theorem submitted (inv : Inv env crawler) {candidates : CandidateSystem} {due : List String}
    (kept : candidates.working = crawler.candidates.working)
    (sound : CandidateSystem.Inv env.config.toConfig candidates) :
    Inv env { crawler with candidates, due } where
  candidates := sound
  numbers := kept ▸ inv.numbers
  holders := kept ▸ inv.holders
  synced text whole := by
    refine inv.synced text fun number key held => whole number key ?_
    rwa [show ({ crawler with candidates, due } : Crawler).candidates.working =
      crawler.candidates.working from kept]
  knows := inv.knows
  spent := inv.spent
  asks := inv.asks
  idle := inv.idle

theorem asked (inv : Inv env crawler) {request : DatabaseCall} {attempts : Nat → Attempt}
    {store : Store} {due : List String} (apart : request.target = none)
    (served : crawler.store.step env.config.toConfig (.serve request attempts) = some store) :
    Inv env { crawler with store, due } where
  candidates := inv.candidates
  numbers := inv.numbers
  holders := inv.holders
  synced text whole := by
    obtain ⟨working, committed⟩ := frame text (by rw [apart]; simp) served
      (inv.synced text whole)
    exact working.trans committed.symm
  knows number job found goesOn := by
    obtain ⟨-, committed⟩ := frame (dhtKeyText job.key) (by rw [apart]; simp) served
      (inv.synced _ (inv.whole found goesOn))
    have known := inv.knows number job found goesOn
    rwa [row, ← committed] at known
  spent := by
    refine spent_served served inv.spent fun text givesUp => ?_
    obtain ⟨error, nowNs, rfl⟩ := givesUp
    cases apart
  asks := inv.asks
  idle down := absurd down (serving_of_served served).2.1

theorem admitted (inv : Inv env crawler) {candidates : CandidateSystem} {key : Bytes}
    {rest : BoundedQueue Bytes} {wallNs nowNs : Int} (up : crawler.store.thread ≠ .down)
    (waits : crawler.candidates.manager.queue.get = some (key, rest))
    (taken : crawler.candidates.step env.config.toConfig (.get crawler.dequeued) =
      some candidates) :
    Inv env
      { crawler with
        candidates
        jobs := crawler.jobs ++
          [(crawler.dequeued, Processing.opening candidates.manager key wallNs nowNs)]
        dequeued := crawler.dequeued + 1 } := by
  obtain ⟨working, -⟩ := CandidateSystem.get_spec inv.candidates waits taken
  have new : crawler.dequeued ∉ Dict.keys crawler.candidates.working := by
    intro member
    have below := inv.numbers _ member
    omega
  have absent : crawler.dequeued ∉ Dict.keys crawler.jobs := by
    intro member
    obtain ⟨job, found⟩ := Option.ne_none_iff_exists'.mp
      (mt (Dict.get?_eq_none_iff _ _).mp (not_not.mpr member))
    exact new (Dict.mem_keys_of_get? (inv.holders _ job found))
  have later : ∀ number job, Dict.get? number (crawler.jobs ++
      [(crawler.dequeued, Processing.opening candidates.manager key wallNs nowNs)]) = some job →
      number ≠ crawler.dequeued ∧ Dict.get? number crawler.jobs = some job ∨
        number = crawler.dequeued ∧
          job = Processing.opening candidates.manager key wallNs nowNs := by
    intro number job found
    by_cases same : number = crawler.dequeued
    · subst same
      rw [Dict.get?_concat_self _ absent] at found
      exact .inr ⟨rfl, (Option.some.inj found).symm⟩
    · rw [Dict.get?_concat_ne same] at found
      exact .inl ⟨same, found⟩
  constructor
  · exact CandidateSystem.step_inv inv.candidates taken
  · intro number member
    dsimp only at member ⊢
    rw [working, Dict.keys, List.map_append, List.mem_append] at member
    obtain member | member := member
    · exact Nat.lt_succ_of_lt (inv.numbers number member)
    · obtain rfl := List.mem_singleton.mp member
      exact Nat.lt_succ_self _
  · intro number job found
    dsimp only
    rw [working]
    obtain ⟨different, found⟩ | ⟨rfl, rfl⟩ := later number job found
    · rw [Dict.get?_concat_ne different]
      exact inv.holders number job found
    · exact Dict.get?_concat_self key new
  · intro text whole
    refine inv.synced text fun number other held same => ?_
    have different : number ≠ crawler.dequeued := by
      intro same
      exact new (same ▸ Dict.mem_keys_of_get? held)
    obtain ⟨job, found, goesOn⟩ := whole number other
      (by dsimp only; rwa [working, Dict.get?_concat_ne different]) same
    rw [Dict.get?_concat_ne different] at found
    exact ⟨job, found, goesOn⟩
  · intro number job found goesOn
    obtain ⟨-, found⟩ | ⟨rfl, rfl⟩ := later number job found
    · exact inv.knows number job found goesOn
    · trivial
  · exact inv.spent
  · intro number job found replied
    obtain ⟨-, found⟩ | ⟨rfl, rfl⟩ := later number job found
    · exact inv.asks number job found replied
    · exact absurd rfl replied
  · exact fun down => absurd down up

/-- The calls in their places, with another one at the number of a call. -/
theorem found_set {jobs : List (Nat × Processing)} {number other : Nat} {changed job : Processing}
    (found : Dict.get? other (Dict.set number changed jobs) = some job) :
    other = number ∧ job = changed ∨ other ≠ number ∧ Dict.get? other jobs = some job := by
  by_cases same : other = number
  · subst same
    rw [Dict.get?_set_self] at found
    exact .inl ⟨rfl, (Option.some.inj found).symm⟩
  · rw [Dict.get?_set_ne same] at found
    exact .inr ⟨same, found⟩

theorem found_pop {jobs : List (Nat × Processing)} {number other : Nat} {job : Processing}
    (found : Dict.get? other (Dict.pop number jobs) = some job) :
    other ≠ number ∧ Dict.get? other jobs = some job := by
  by_cases same : other = number
  · subst same
    rw [Dict.get?_pop_self] at found
    cases found
  · rw [Dict.get?_pop_ne same] at found
    exact ⟨same, found⟩

/-- Two calls hold two keys. -/
theorem apart (inv : Inv env crawler) {number other : Nat} {job another : Processing}
    (found : Dict.get? number crawler.jobs = some job)
    (also : Dict.get? other crawler.jobs = some another) (different : other ≠ number) :
    dhtKeyText another.key ≠ dhtKeyText job.key := by
  intro same
  have left := inv.holders number job found
  have right := inv.holders other another also
  rw [dhtKeyText_injective same] at right
  exact different (inv.candidates.unique_worker (Dict.mem_of_get? right) (Dict.mem_of_get? left))

theorem served (inv : Inv env crawler) {number : Nat} {job : Processing} {request : DatabaseCall}
    {attempts : Nat → Attempt} (found : Dict.get? number crawler.jobs = some job)
    (asks : job.request = some request) (waits : job.reply = none)
    (done : crawler.serve env.config.toConfig number job request attempts = some next) :
    Inv env next := by
  obtain ⟨store, served, rfl⟩ := Option.map_eq_some_iff.mp done
  have goesOn : job.broken = false := by simp [Processing.broken, waits]
  have synced := inv.synced _ (inv.whole found goesOn)
  have known := inv.knows number job found goesOn
  have apart : ∀ text, text ≠ dhtKeyText job.key → request.target ≠ some text := by
    intro text different aims
    obtain ⟨targets, -⟩ | ⟨errors, -, rfl⟩ := target_of_request asks
    · rw [targets] at aims
      exact different (Option.some.inj aims).symm
    · cases aims
  constructor
  · exact inv.candidates
  · exact inv.numbers
  · intro other another also
    obtain ⟨rfl, rfl⟩ | ⟨different, also⟩ := found_set also
    · exact inv.holders other job found
    · exact inv.holders other another also
  · intro text whole
    dsimp only [row]
    by_cases same : text = dhtKeyText job.key
    · subst same
      obtain ⟨another, also, unbroken⟩ := whole number job.key (inv.holders number job found) rfl
      obtain ⟨-, rfl⟩ | ⟨different, -⟩ := found_set also
      · cases replied : ((request.operation env.config.toConfig).run env.config.toConfig attempts
          crawler.store.session).reply with
        | result answer => exact (knows_served asks served synced replied).2
        | exception error => simp [Processing.broken, replied] at unbroken
      · exact absurd rfl different
    · have before : crawler.Whole text := by
        intro other key held text_
        obtain ⟨another, also, unbroken⟩ := whole other key held text_
        obtain ⟨rfl, rfl⟩ | ⟨-, also⟩ := found_set also
        · exact ⟨job, found, goesOn⟩
        · exact ⟨another, also, unbroken⟩
      obtain ⟨working, committed⟩ := frame text (apart text same) served (inv.synced text before)
      exact working.trans committed.symm
  · intro other another also unbroken
    obtain ⟨rfl, rfl⟩ | ⟨different, also⟩ := found_set also
    · cases replied : ((request.operation env.config.toConfig).run env.config.toConfig attempts
          crawler.store.session).reply with
      | result answer => exact (knows_served asks served synced replied).1
      | exception error => simp [Processing.broken, replied] at unbroken
    · obtain ⟨-, committed⟩ := frame _ (apart _ (inv.apart found also different)) served
        (inv.synced _ (inv.whole also unbroken))
      have before := inv.knows other another also unbroken
      rwa [row, ← committed] at before
  · refine spent_served served inv.spent fun text givesUp => ?_
    obtain ⟨aims, exhausted⟩ := known.exhausted asks waits givesUp
    rw [aims]
    exact ⟨exhausted, synced ▸ exhausted⟩
  · intro other another also replied
    obtain ⟨rfl, rfl⟩ | ⟨-, also⟩ := found_set also
    · have asked : Processing.request { job with reply := some ((request.operation
          env.config.toConfig).run env.config.toConfig attempts crawler.store.session).reply } =
            some request := asks
      rw [asked]
      exact Option.some_ne_none request
    · exact inv.asks other another also replied
  · exact fun down => absurd down (serving_of_served served).2.1

theorem proceeded (inv : Inv env crawler) {number : Nat} {job : Processing} {onward : Onward}
    {stamp now : Int} (found : Dict.get? number crawler.jobs = some job)
    (goes : env.Goes crawler.candidates.manager job onward)
    (done : crawler.proceed env.config.toConfig number job stamp now onward = some next) :
    Inv env next := by
  have holds := inv.holders number job found
  have unbroken := CrawlerEnvironment.goes_unbroken goes (inv.asks number job found)
  cases onward with
  | waits stage =>
      cases done
      have goesOn := unbroken nofun
      refine ⟨inv.candidates, inv.numbers, ?_, ?_, ?_, inv.spent, ?_, ?_⟩
      · intro other another also
        obtain ⟨rfl, rfl⟩ | ⟨-, also⟩ := found_set also
        · exact holds
        · exact inv.holders other another also
      · intro text whole
        refine inv.synced text fun other key held same => ?_
        obtain ⟨another, also, quiet⟩ := whole other key held same
        obtain ⟨rfl, rfl⟩ | ⟨-, also⟩ := found_set also
        · exact ⟨job, found, goesOn⟩
        · exact ⟨another, also, quiet⟩
      · intro other another also quiet
        obtain ⟨rfl, rfl⟩ | ⟨-, also⟩ := found_set also
        · exact knows_of_waits goes (inv.knows other job found goesOn)
        · exact inv.knows other another also quiet
      · intro other another also replied
        obtain ⟨rfl, rfl⟩ | ⟨-, also⟩ := found_set also
        · exact absurd rfl replied
        · exact inv.asks other another also replied
      · intro down
        rw [inv.idle down] at found
        cases found
  | finishes =>
      obtain ⟨candidates, finished, rfl⟩ := Option.map_eq_some_iff.mp done
      have working := CandidateSystem.finish_spec finished
      have goesOn := unbroken nofun
      constructor
      · exact CandidateSystem.step_inv inv.candidates finished
      · intro other member
        dsimp only at member
        rw [working, Dict.mem_keys_pop] at member
        exact inv.numbers other member.1
      · intro other another also
        obtain ⟨different, also⟩ := found_pop also
        dsimp only
        rw [working, Dict.get?_pop_ne different]
        exact inv.holders other another also
      · intro text whole
        refine inv.synced text fun other key held same => ?_
        by_cases own : other = number
        · subst own
          exact ⟨job, found, goesOn⟩
        · obtain ⟨another, also, quiet⟩ := whole other key
            (by dsimp only; rwa [working, Dict.get?_pop_ne own]) same
          exact ⟨another, (found_pop also).2, quiet⟩
      · exact fun other another also => inv.knows other another (found_pop also).2
      · exact inv.spent
      · exact fun other another also => inv.asks other another (found_pop also).2
      · intro down
        rw [inv.idle down] at found
        cases found
  | raises error =>
      cases done
      refine ⟨inv.candidates, inv.numbers, ?_, ?_, ?_, inv.spent, ?_, ?_⟩
      · exact fun other another also => inv.holders other another (found_pop also).2
      · intro text whole
        refine inv.synced text fun other key held same => ?_
        obtain ⟨another, also, quiet⟩ := whole other key held same
        exact ⟨another, (found_pop also).2, quiet⟩
      · exact fun other another also => inv.knows other another (found_pop also).2
      · exact fun other another also => inv.asks other another (found_pop also).2
      · intro down
        rw [inv.idle down] at found
        cases found

theorem started (inv : Inv env crawler) {nowNs now : Int} {store : Store}
    (taken : crawler.store.step env.config.toConfig (.start nowNs) = some store) :
    Inv env { crawler with candidates := .new env.config.hashQueueSize now, store } := by
  simp only [Store.step] at taken
  split at taken
  · rename_i down
    cases taken
    have jobs := inv.idle down
    refine ⟨CandidateSystem.new_inv _ _ _, ?_, ?_, fun _ _ => rfl, ?_, ?_, ?_, ?_⟩
    · exact fun _ member => absurd member List.not_mem_nil
    · intro other another also
      dsimp only at also
      rw [jobs] at also
      cases also
    · intro other another also
      dsimp only at also
      rw [jobs] at also
      cases also
    · intro text
      have recovered := (inv.spent text).1.recovered nowNs
      rw [row, ← Catalogue.candidate_recoverInterrupted] at recovered
      exact ⟨recovered, recovered⟩
    · intro other another also
      dsimp only at also
      rw [jobs] at also
      cases also
    · exact fun _ => jobs
  · cases taken

theorem halted (inv : Inv env crawler) {event : StoreEvent} {store : Store}
    (ends : event = .stop ∨ event = .kill)
    (taken : crawler.store.step env.config.toConfig event = some store) :
    Inv env (crawler.halted store) := by
  have left : ∀ text, store.session.working.candidate text =
        store.session.committed.candidate text ∧
      Spent env.config.toConfig (store.session.committed.candidate text) := by
    intro text
    obtain rfl | rfl := ends
    · simp only [Store.step] at taken
      split at taken
      · cases taken
      · cases taken
        simp only [Session.leave]
        split
        · exact ⟨rfl, (inv.spent text).2⟩
        · exact ⟨rfl, (inv.spent text).1⟩
    · cases taken
      exact ⟨rfl, (inv.spent text).1⟩
  refine ⟨inv.candidates, inv.numbers, ?_, fun text _ => (left text).1, ?_, ?_, ?_, fun _ => rfl⟩
  · intro other another also
    cases also
  · intro other another also
    cases also
  · intro text
    exact ⟨(left text).2, (left text).1 ▸ (left text).2⟩
  · intro other another also
    cases also

end Inv

theorem step_inv (inv : Inv env crawler) {event : CrawlerEvent}
    (taken : crawler.step env event = some next) : Inv env next := by
  cases step_moved taken with
  | submitted candidates due kept sound => exact inv.submitted kept (sound inv.candidates)
  | asked request attempts store due apart served => exact inv.asked apart served
  | admitted candidates key rest wallNs nowNs up waits got => exact inv.admitted up waits got
  | served number job request attempts next found asks waits done =>
      exact inv.served found asks waits done
  | proceeded number job onward stamp now next found goes done =>
      exact inv.proceeded found goes done
  | started nowNs now store begun => exact inv.started begun
  | halted event store ends ended => exact inv.halted ends ended

/-- In every run the calls, the keys that they hold and the rows agree. -/
theorem run_inv (events : List CrawlerEvent) (final : Crawler)
    (ran : Transition.run (step env) fresh events = some final) : Inv env final :=
  Transition.invariant_run (Inv env) (fun _ _ _ inv taken => step_inv inv taken) ran (.fresh env)

/-- A key and the surroundings of the runs on fixed inputs. -/
def sampleKey : Bytes := List.replicate 20 7

def sampleEnvironment : CrawlerEnvironment :=
  { config := {}, sha1 := id, casefold := id, localIps := [], peerId := List.replicate 20 1 }

end Crawler

end PyDht
