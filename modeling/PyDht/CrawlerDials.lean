import PyDht.CandidateRelease

set_option autoImplicit false

namespace PyDht

/-- What a call of `_process_candidate` does with the peers: an endpoint is handed to
`fetch_metadata`, or `fetch_metadata` has returned the metadata. -/
inductive DialRecord where
  | dialed (endpoint : Endpoint)
  | fetched (rawInfo : Bytes)
deriving DecidableEq, Repr

/-- What `fetch_metadata` has returned goes into the log. -/
def DialRecord.ofOutcome : Except PyError Bytes → List DialRecord
  | .ok rawInfo => [.fetched rawInfo]
  | .error _ => []

def DialRecord.endpoint : DialRecord → Option Endpoint
  | .dialed endpoint => some endpoint
  | .fetched _ => none

/-- The workers with a log of their dials and of the hints that they have read after the lookup,
each with the number of the call. -/
structure LoggedCrawler where
  crawler : Crawler := .fresh
  dials : List (Nat × DialRecord) := []
  reread : List (Nat × List PeerHint) := []

def WorkerStage.endpoint : WorkerStage → Option Endpoint
  | .hinting endpoint _ _ | .dialing endpoint _ _ _ => some endpoint
  | _ => none

/-- A call that waits in this stage has just handed over the endpoint. -/
def WorkerStage.dials (stage : WorkerStage) : List DialRecord :=
  (stage.endpoint.map DialRecord.dialed).toList

/-- The call has got past the checks of the candidate's row. -/
def WorkerStage.searches : WorkerStage → Bool
  | .upserting _ _ _ | .marking _ => false
  | _ => true

/-- The call stores the torrent. -/
def WorkerStage.persists : WorkerStage → Bool
  | .persisting _ _ _ => true
  | _ => false

/-- The hints that are stored for a key. -/
def CandidateManager.hintsFor (manager : CandidateManager) (key : Bytes) : List PeerHint :=
  ((manager.stateFor key).map CandidateState.peerHints).getD []

/-- The call of `_process_candidate` that goes on with the event. -/
def CrawlerEvent.caller : CrawlerEvent → Option Nat
  | .resume number _ _ _ | .fetch number _ _ | .lookup number _ => some number
  | _ => none

/-- The budget of dials of one call. -/
def CrawlerEnvironment.budget (env : CrawlerEnvironment) : Int :=
  min env.config.maxPeersPerTorrent env.config.maxMetadataAttemptsPerTorrent

namespace LoggedCrawler

/-- What the log has of a call. -/
def record (logged : LoggedCrawler) (number : Nat) : List DialRecord :=
  (logged.dials.filter fun entry => entry.1 = number).map Prod.snd

/-- The endpoints that a call has handed to `fetch_metadata`. -/
def tried (logged : LoggedCrawler) (number : Nat) : List Endpoint :=
  (logged.record number).filterMap DialRecord.endpoint

/-- The endpoint that a numbered call has handed over, now that it waits again. -/
def newDials (after : Crawler) (number : Nat) : List DialRecord :=
  match Dict.get? number after.jobs with
  | none => []
  | some job => job.stage.dials

/-- What the call of `fetch_metadata` that an event ends has returned. -/
def answers (env : CrawlerEnvironment) (before : Crawler) : CrawlerEvent → List DialRecord
  | .fetch number script _ =>
      match Dict.get? number before.jobs with
      | none => []
      | some job =>
          match job.endpoint with
          | none => []
          | some endpoint =>
              DialRecord.ofOutcome
                (script.outcome env.config env.sha1 env.peerId endpoint job.key)
  | _ => []

/-- The hints that a call reads when its lookup has ended. -/
def hintsRead (before : Crawler) : CrawlerEvent → List (Nat × List PeerHint)
  | .lookup number _ =>
      match Dict.get? number before.jobs with
      | none => []
      | some job => [(number, before.candidates.manager.hintsFor job.key)]
  | _ => []

def step (env : CrawlerEnvironment) (logged : LoggedCrawler) (event : CrawlerEvent) :
    Option LoggedCrawler :=
  (logged.crawler.step env event).map fun crawler =>
    { crawler
      dials := logged.dials ++
        match event.caller with
        | none => []
        | some number =>
            (answers env logged.crawler event ++ newDials crawler number).map
              fun dial => (number, dial)
      reread := logged.reread ++ hintsRead logged.crawler event }

end LoggedCrawler

/-- What the log has of a call that waits in a stage. A call without metadata has tried every hint
that it read after the lookup, or it has used up its budget. -/
def WorkerStage.Tracks (env : CrawlerEnvironment) (key : Bytes) (record : List DialRecord)
    (reread : Option (List PeerHint)) : WorkerStage → Prop
  | .upserting _ _ _ | .marking _ => record = [] ∧ reread = none
  | .hinting _ _ search | .lookingUp search =>
      record = search.tried.map DialRecord.dialed ∧ reread = none
  | .dialing _ peers attempts search =>
      record = search.tried.map DialRecord.dialed ∧ attempts = search.tried.length ∧
        ∃ hints, reread = some hints ∧ ∀ hint ∈ hints,
          (hint.ip, hint.port) ∈ search.tried ∨ (hint.ip, hint.port) ∈ peers
  | .persisting _ _ _ => ∃ (tried : List Endpoint) (rawInfo : Bytes),
      record = tried.map DialRecord.dialed ++ [.fetched rawInfo]
  | .reading _ | .failing _ _ _ =>
      (∃ (tried : List Endpoint) (rawInfo : Bytes) (error : PyError),
        record = tried.map DialRecord.dialed ++ [.fetched rawInfo] ∧
        Indexer.parseValidatedInfo env.config.toConfig rawInfo ("btih:" ++ hex key) =
          .error error) ∨
      ∃ (tried : List Endpoint) (hints : List PeerHint),
        record = tried.map DialRecord.dialed ∧ reread = some hints ∧ ∀ hint ∈ hints,
          (hint.ip, hint.port) ∈ tried ∨ env.budget ≤ tried.length

namespace CrawlerEnvironment

section stages

variable {env : CrawlerEnvironment} {key : Bytes}

theorem tryHints_tracks (hints : List PeerHint) (search : PeerSearch) :
    (env.tryHints hints search).Tracks env key
      (search.tried.map DialRecord.dialed ++ (env.tryHints hints search).dials) none := by
  induction hints with
  | nil => exact ⟨List.append_nil _, rfl⟩
  | cons hint rest ih =>
      unfold tryHints
      dsimp only
      split
      · exact ih
      · exact ⟨by rw [List.map_append]; rfl, rfl⟩

theorem tryPeers_tracks {hints : List PeerHint} (peers : List Endpoint) {attempts : Int}
    {search : PeerSearch} (counted : attempts = search.tried.length)
    (covered : ∀ hint ∈ hints,
      (hint.ip, hint.port) ∈ search.tried ∨ (hint.ip, hint.port) ∈ peers) :
    (env.tryPeers peers attempts search).Tracks env key
      (search.tried.map DialRecord.dialed ++ (env.tryPeers peers attempts search).dials)
      (some hints) := by
  induction peers with
  | nil =>
      refine .inr ⟨search.tried, hints, List.append_nil _, rfl, fun hint member => .inl ?_⟩
      simpa using covered hint member
  | cons endpoint rest ih =>
      unfold tryPeers
      split
      · rename_i spent
        exact .inr ⟨search.tried, hints, List.append_nil _, rfl, fun _ _ => .inr (counted ▸ spent)⟩
      · split
        · rename_i known
          refine ih fun hint member => ?_
          obtain there | here := covered hint member
          · exact .inl there
          · obtain same | later := List.mem_cons.mp here
            · exact .inl (same ▸ known)
            · exact .inr later
        · refine ⟨by rw [List.map_append]; rfl, ?_, hints, rfl, ?_⟩
          · dsimp only
            rw [List.length_append, List.length_singleton]
            omega
          · intro hint member
            obtain there | here := covered hint member
            · exact .inl (List.mem_append_left _ there)
            · obtain same | later := List.mem_cons.mp here
              · exact .inl (List.mem_append_right _ (List.mem_singleton.mpr same))
              · exact .inr later

theorem dialPeers_tracks (manager : CandidateManager) (found : List Endpoint)
    (search : PeerSearch) :
    (env.dialPeers manager key found search).Tracks env key
      (search.tried.map DialRecord.dialed ++ (env.dialPeers manager key found search).dials)
      (some (manager.hintsFor key)) := by
  unfold dialPeers
  dsimp only
  refine tryPeers_tracks _ rfl fun hint member => ?_
  unfold CandidateManager.hintsFor at member
  cases stored : manager.stateFor key with
  | none =>
      rw [stored] at member
      cases member
  | some state =>
      rw [stored] at member
      by_cases known : (hint.ip, hint.port) ∈ search.tried
      · exact .inl known
      · refine .inr (List.mem_append_left _ (List.mem_filter.mpr ⟨?_, by simpa using known⟩))
        exact List.mem_map_of_mem (f := fun hint : PeerHint => (hint.ip, hint.port)) member

theorem index_tracks {rawInfo : Bytes} {errors : List String} {wallNs : Int}
    {stage : WorkerStage} (goes : env.index key rawInfo errors wallNs = .waits stage)
    (tried : List Endpoint) (reread : Option (List PeerHint)) :
    stage.Tracks env key (tried.map DialRecord.dialed ++ [.fetched rawInfo] ++ stage.dials)
      reread := by
  unfold index at goes
  split at goes
  · rename_i error rejected
    split at goes
    · cases goes
      exact .inl ⟨tried, rawInfo, error, List.append_nil _, rejected⟩
    · cases goes
  · cases goes
    exact ⟨tried, rawInfo, List.append_nil _⟩

variable {manager : CandidateManager} {job : Processing} {record : List DialRecord}
  {reread : Option (List PeerHint)} {stage : WorkerStage}

theorem resume_tracks (tracks : job.stage.Tracks env job.key record reread) {wallNs : Int}
    (goes : env.resume manager wallNs job = some (.waits stage)) :
    stage.Tracks env job.key (record ++ stage.dials) reread := by
  unfold resume at goes
  split at goes
  · cases goes
  · cases goes
  · split at goes
    · rename_i nowNs _ _ row here _
      rw [here] at tracks
      have isMarking : stage = .marking nowNs := by
        unfold Processing.admission at goes
        split at goes
        · cases goes
        · cases goes
        · split at goes
          · cases goes
          · split at goes
            · cases goes
            · cases goes
              rfl
        · cases goes
          rfl
      subst isMarking
      exact ⟨by rw [tracks.1]; rfl, tracks.2⟩
    · rename_i here _
      rw [here] at tracks
      cases goes
      rw [tracks.1, tracks.2]
      exact tryHints_tracks _ {}
    · cases goes
    · cases goes
    · rename_i errors latest here _
      rw [here] at tracks
      unfold giveUp at goes
      dsimp only at goes
      split at goes
      · cases goes
        rw [show WorkerStage.dials _ = [] from rfl, List.append_nil]
        exact tracks
      · cases goes
        rw [show WorkerStage.dials _ = [] from rfl, List.append_nil]
        exact tracks
    · cases goes
    · cases goes

theorem fetched_tracks (tracks : job.stage.Tracks env job.key record reread)
    {outcome : Except PyError Bytes} {wallNs : Int}
    (goes : env.fetched job outcome wallNs = some (.waits stage)) :
    stage.Tracks env job.key (record ++ DialRecord.ofOutcome outcome ++ stage.dials) reread := by
  unfold fetched at goes
  dsimp only at goes
  split at goes
  · rename_i endpoint hints search category _ text here
    rw [here] at tracks
    cases goes
    rw [tracks.1, tracks.2, DialRecord.ofOutcome, List.append_nil]
    exact tryHints_tracks hints _
  · rename_i endpoint peers attempts search category _ text here
    rw [here] at tracks
    cases goes
    obtain ⟨said, counted, hints, isReread, covered⟩ := tracks
    rw [said, isReread, DialRecord.ofOutcome, List.append_nil]
    exact tryPeers_tracks peers counted covered
  · rename_i search rawInfo here
    rw [here] at tracks
    rw [tracks.1]
    exact index_tracks (Option.some.inj goes) _ _
  · rename_i search rawInfo here
    rw [here] at tracks
    rw [tracks.1]
    exact index_tracks (Option.some.inj goes) _ _
  · cases goes
  · cases goes
  · cases goes

theorem lookedUp_tracks (tracks : job.stage.Tracks env job.key record reread)
    {outcome : Except PyError (List Endpoint)}
    (goes : env.lookedUp manager job outcome = some (.waits stage)) :
    reread = none ∧ stage.Tracks env job.key (record ++ stage.dials)
      (some (manager.hintsFor job.key)) := by
  unfold lookedUp at goes
  split at goes
  · rename_i search found here
    rw [here] at tracks
    cases goes
    rw [tracks.1]
    exact ⟨tracks.2, dialPeers_tracks manager found search⟩
  · rename_i search error here
    rw [here] at tracks
    cases goes
    rw [tracks.1]
    exact ⟨tracks.2, dialPeers_tracks manager [] _⟩
  · cases goes

end stages

end CrawlerEnvironment

/-- The call that goes on in this way, unless it ends. -/
def Onward.waiting (job : Processing) : Onward → Option Processing
  | .waits stage => some { job with stage, reply := none }
  | _ => none

namespace Crawler

/-- How a call goes on with an event. -/
inductive Calls (env : CrawlerEnvironment) (crawler : Crawler) (number : Nat) (job : Processing) :
    CrawlerEvent → Onward → Prop where
  | resumed (wallNs stamp now : Int) (onward : Onward)
      (goes : env.resume crawler.candidates.manager wallNs job = some onward) :
      Calls env crawler number job (.resume number wallNs stamp now) onward
  | fetched (script : PeerScript) (wallNs : Int) (endpoint : Endpoint) (onward : Onward)
      (dialed : job.endpoint = some endpoint)
      (goes : env.fetched job (script.outcome env.config env.sha1 env.peerId endpoint job.key)
        wallNs = some onward) :
      Calls env crawler number job (.fetch number script wallNs) onward
  | lookedUp (outcome : Except PyError (List Endpoint)) (onward : Onward)
      (goes : env.lookedUp crawler.candidates.manager job outcome = some onward) :
      Calls env crawler number job (.lookup number outcome) onward

/-- An event that no call goes on with: calls begin, or their replies come, or all end. -/
structure Aside (crawler next : Crawler) : Prop where
  dequeued : crawler.dequeued ≤ next.dequeued
  jobs : ∀ number job, Dict.get? number next.jobs = some job →
    (∃ before, Dict.get? number crawler.jobs = some before ∧ job.key = before.key ∧
      job.stage = before.stage) ∨
    crawler.dequeued ≤ number ∧ number < next.dequeued ∧
      ∃ nowNs firstSeen lastSeen, job.stage = .upserting nowNs firstSeen lastSeen

variable {env : CrawlerEnvironment} {crawler next : Crawler} {event : CrawlerEvent}

theorem Aside.same (jobs : next.jobs = crawler.jobs) (dequeued : next.dequeued = crawler.dequeued) :
    Aside crawler next := by
  refine ⟨Nat.le_of_eq dequeued.symm, fun number job found => .inl ⟨job, ?_, rfl, rfl⟩⟩
  rw [← jobs]
  exact found

theorem live_of_running (taken : (if crawler.store.thread = .down then none
    else crawler.live env event) = some next) : crawler.live env event = some next := by
  split at taken
  · cases taken
  · exact taken

theorem step_calls {number : Nat} (caller : event.caller = some number)
    (taken : crawler.step env event = some next) :
    ∃ job onward stamp now, Dict.get? number crawler.jobs = some job ∧
      Calls env crawler number job event onward ∧
      crawler.proceed env.config.toConfig number job stamp now onward = some next := by
  cases event with
  | resume other wallNs stamp now =>
      obtain rfl := Option.some.inj caller
      have lived := live_of_running taken
      simp only [live] at lived
      split at lived
      · cases lived
      · rename_i job found
        obtain ⟨onward, goes, done⟩ := Option.bind_eq_some_iff.mp lived
        exact ⟨job, onward, stamp, now, found, .resumed wallNs stamp now onward goes, done⟩
  | fetch other script wallNs =>
      obtain rfl := Option.some.inj caller
      have lived := live_of_running taken
      simp only [live] at lived
      split at lived
      · cases lived
      · rename_i job found
        split at lived
        · cases lived
        · rename_i endpoint dialed
          obtain ⟨onward, goes, done⟩ := Option.bind_eq_some_iff.mp lived
          exact ⟨job, onward, 0, 0, found, .fetched script wallNs endpoint onward dialed goes, done⟩
  | lookup other outcome =>
      obtain rfl := Option.some.inj caller
      have lived := live_of_running taken
      simp only [live] at lived
      split at lived
      · cases lived
      · rename_i job found
        obtain ⟨onward, goes, done⟩ := Option.bind_eq_some_iff.mp lived
        exact ⟨job, onward, 0, 0, found, .lookedUp outcome onward goes, done⟩
  | _ => cases caller

theorem get_aside (absent : ∀ number ∈ Dict.keys crawler.jobs, number < crawler.dequeued)
    {wallNs nowNs : Int} (lived : crawler.live env (.get wallNs nowNs) = some next) :
    Aside crawler next := by
  simp only [live] at lived
  split at lived
  · cases lived
  · rename_i key rest waits
    obtain ⟨candidates, -, rfl⟩ := Option.map_eq_some_iff.mp lived
    refine ⟨Nat.le_succ _, fun number job found => ?_⟩
    by_cases same : number = crawler.dequeued
    · subst same
      rw [Dict.get?_concat_self _ fun member => Nat.lt_irrefl _ (absent _ member)] at found
      cases found
      exact .inr ⟨Nat.le_refl _, Nat.lt_succ_self _, _, _, _, rfl⟩
    · rw [Dict.get?_concat_ne same] at found
      exact .inl ⟨job, found, rfl, rfl⟩

theorem serve_aside {number : Nat} {attempts : Nat → Attempt}
    (lived : crawler.live env (.serve number attempts) = some next) : Aside crawler next := by
  simp only [live] at lived
  split at lived
  · cases lived
  · rename_i job found
    split at lived
    · obtain ⟨store, -, rfl⟩ := Option.map_eq_some_iff.mp lived
      refine ⟨Nat.le_refl _, fun other changed there => .inl ?_⟩
      dsimp only at there
      rw [Dict.get?_set] at there
      split at there
      · rename_i same
        cases there
        exact ⟨job, same ▸ found, rfl, rfl⟩
      · exact ⟨changed, there, rfl, rfl⟩
    · cases lived

theorem step_aside (absent : ∀ number ∈ Dict.keys crawler.jobs, number < crawler.dequeued)
    (caller : event.caller = none) (taken : crawler.step env event = some next) :
    Aside crawler next := by
  have halts : ∀ store, Aside crawler (crawler.halted store) := fun store =>
    ⟨Nat.le_refl _, fun number job found => by cases found⟩
  cases event with
  | submit now wall key source peerHint =>
      obtain ⟨candidates, -, rfl⟩ := Option.map_eq_some_iff.mp (live_of_running taken)
      exact .same rfl rfl
  | scan nowNs attempts =>
      obtain ⟨store, -, rfl⟩ := Option.map_eq_some_iff.mp (live_of_running taken)
      split <;> exact .same rfl rfl
  | resubmit now wall =>
      have lived := live_of_running taken
      simp only [live] at lived
      split at lived
      · cases lived
      · split at lived
        · cases lived
          exact .same rfl rfl
        · obtain ⟨candidates, -, rfl⟩ := Option.map_eq_some_iff.mp lived
          exact .same rfl rfl
  | get wallNs nowNs => exact get_aside absent (live_of_running taken)
  | serve number attempts => exact serve_aside (live_of_running taken)
  | call request attempts =>
      have lived := live_of_running taken
      simp only [live] at lived
      split at lived
      · cases lived
      · obtain ⟨store, -, rfl⟩ := Option.map_eq_some_iff.mp lived
        exact .same rfl rfl
  | start nowNs now =>
      obtain ⟨store, -, rfl⟩ := Option.map_eq_some_iff.mp taken
      exact .same rfl rfl
  | stop =>
      obtain ⟨store, -, rfl⟩ := Option.map_eq_some_iff.mp taken
      exact halts store
  | kill =>
      cases taken
      exact halts _
  | resume number wallNs stamp now => cases caller
  | fetch number script wallNs => cases caller
  | lookup number outcome => cases caller

/-- The calls after one of them has gone on: it waits in its new stage, or it is gone. -/
theorem proceed_jobs {number : Nat} {job : Processing} {stamp now : Int} {onward : Onward}
    (done : crawler.proceed env.config.toConfig number job stamp now onward = some next) :
    next.dequeued = crawler.dequeued ∧
      Dict.get? number next.jobs = onward.waiting job ∧
      ∀ other, other ≠ number → Dict.get? other next.jobs = Dict.get? other crawler.jobs := by
  cases onward with
  | waits stage =>
      cases done
      exact ⟨rfl, Dict.get?_set_self _ _ _, fun other apart => Dict.get?_set_ne apart _ _⟩
  | finishes =>
      obtain ⟨candidates, -, rfl⟩ := Option.map_eq_some_iff.mp done
      exact ⟨rfl, Dict.get?_pop_self _ _, fun other apart => Dict.get?_pop_ne apart _⟩
  | raises error =>
      cases done
      exact ⟨rfl, Dict.get?_pop_self _ _, fun other apart => Dict.get?_pop_ne apart _⟩

end Crawler

namespace LoggedCrawler

variable {env : CrawlerEnvironment} {logged next : LoggedCrawler}

/-- The calls are numbered in turn, and the log has of each what its stage says. -/
structure Inv (env : CrawlerEnvironment) (logged : LoggedCrawler) : Prop where
  numbers : ∀ number ∈ Dict.keys logged.crawler.jobs, number < logged.crawler.dequeued
  fresh : ∀ number, logged.crawler.dequeued ≤ number →
    logged.record number = [] ∧ Dict.get? number logged.reread = none
  tracks : ∀ number job, Dict.get? number logged.crawler.jobs = some job →
    job.stage.Tracks env job.key (logged.record number) (Dict.get? number logged.reread)

theorem record_append (logged : LoggedCrawler) {number : Nat} {records : List DialRecord}
    (dials : next.dials = logged.dials ++ records.map fun dial => (number, dial)) (other : Nat) :
    next.record other =
      if other = number then logged.record other ++ records else logged.record other := by
  unfold record
  rw [dials, List.filter_append, List.map_append, List.filter_map]
  split
  · rename_i same
    simp [same, Function.comp_def]
  · rename_i different
    simp [Ne.symm different, Function.comp_def]

theorem calls_tracks {number : Nat} {job : Processing} {event : CrawlerEvent}
    {stage : WorkerStage} (found : Dict.get? number logged.crawler.jobs = some job)
    (calls : Crawler.Calls env logged.crawler number job event (.waits stage))
    {record : List DialRecord}
    (tracks : job.stage.Tracks env job.key record (Dict.get? number logged.reread)) :
    stage.Tracks env job.key (record ++ answers env logged.crawler event ++ stage.dials)
      (Dict.get? number (logged.reread ++ hintsRead logged.crawler event)) := by
  cases calls with
  | resumed wallNs stamp now _ goes =>
      simp only [answers, hintsRead, List.append_nil]
      exact CrawlerEnvironment.resume_tracks tracks goes
  | fetched script wallNs endpoint _ dialed goes =>
      simp only [answers, hintsRead, found, dialed, List.append_nil]
      exact CrawlerEnvironment.fetched_tracks tracks goes
  | lookedUp outcome _ goes =>
      obtain ⟨unread, follows⟩ := CrawlerEnvironment.lookedUp_tracks tracks goes
      simp only [answers, hintsRead, found, List.append_nil]
      rw [Dict.get?_concat_self _ ((Dict.get?_eq_none_iff _ _).mp unread)]
      exact follows

theorem hintsRead_other {event : CrawlerEvent} {number other : Nat}
    (caller : event.caller = some number) (apart : other ≠ number) (crawler : Crawler)
    (reread : List (Nat × List PeerHint)) :
    Dict.get? other (reread ++ hintsRead crawler event) = Dict.get? other reread := by
  unfold hintsRead
  split
  · obtain rfl := Option.some.inj caller
    split
    · rw [List.append_nil]
    · exact Dict.get?_concat_ne apart _ _
  · rw [List.append_nil]

theorem mem_jobs {crawler : Crawler} {number : Nat} (member : number ∈ Dict.keys crawler.jobs) :
    ∃ job, Dict.get? number crawler.jobs = some job :=
  Option.ne_none_iff_exists'.mp fun missing => (Dict.get?_eq_none_iff _ _).mp missing member

theorem Inv.aside (inv : Inv env logged) {event : CrawlerEvent} (caller : event.caller = none)
    {crawler : Crawler} (taken : logged.crawler.step env event = some crawler) :
    Inv env { logged with crawler } := by
  have aside := Crawler.step_aside inv.numbers caller taken
  refine ⟨fun number member => ?_, fun number past => ?_, fun number job found => ?_⟩
  · obtain ⟨job, found⟩ := mem_jobs member
    obtain ⟨before, known, -⟩ | ⟨-, below, -⟩ := aside.jobs number job found
    · exact Nat.lt_of_lt_of_le (inv.numbers number (Dict.mem_keys_of_get? known)) aside.dequeued
    · exact below
  · exact inv.fresh number (Nat.le_trans aside.dequeued past)
  · obtain ⟨before, known, key, stage⟩ | ⟨past, -, nowNs, firstSeen, lastSeen, stage⟩ :=
      aside.jobs number job found
    · rw [key, stage]
      exact inv.tracks number before known
    · rw [stage]
      exact inv.fresh number past

theorem Inv.called (inv : Inv env logged) {event : CrawlerEvent} {number : Nat}
    (caller : event.caller = some number) {crawler : Crawler}
    (taken : logged.crawler.step env event = some crawler)
    (dials : next.dials = logged.dials ++ (answers env logged.crawler event ++
      newDials crawler number).map fun dial => (number, dial))
    (reread : next.reread = logged.reread ++ hintsRead logged.crawler event)
    (isNext : next.crawler = crawler) : Inv env next := by
  obtain ⟨job, onward, stamp, now, found, calls, done⟩ := Crawler.step_calls caller taken
  obtain ⟨dequeued, here, elsewhere⟩ := Crawler.proceed_jobs done
  have below := inv.numbers number (Dict.mem_keys_of_get? found)
  refine ⟨fun other member => ?_, fun other past => ?_, fun other job' there => ?_⟩
  · rw [isNext] at member ⊢
    rw [dequeued]
    obtain ⟨job', there⟩ := mem_jobs member
    by_cases same : other = number
    · exact same ▸ below
    · rw [elsewhere other same] at there
      exact inv.numbers other (Dict.mem_keys_of_get? there)
  · rw [isNext, dequeued] at past
    have apart : other ≠ number := by omega
    rw [record_append logged dials, if_neg apart, reread, hintsRead_other caller apart]
    exact inv.fresh other past
  · rw [isNext] at there
    by_cases same : other = number
    · subst same
      rw [here] at there
      cases onward with
      | waits stage =>
          cases there
          have new : newDials crawler other = stage.dials := by
            unfold newDials
            rw [here]
            rfl
          rw [record_append logged dials, if_pos rfl, reread, new, ← List.append_assoc]
          exact calls_tracks found calls (inv.tracks other job found)
      | finishes => cases there
      | raises error => cases there
    · rw [elsewhere other same] at there
      rw [record_append logged dials, if_neg same, reread, hintsRead_other caller same]
      exact inv.tracks other job' there

theorem Inv.step (inv : Inv env logged) {event : CrawlerEvent}
    (taken : step env logged event = some next) : Inv env next := by
  obtain ⟨crawler, moved, rfl⟩ := Option.map_eq_some_iff.mp taken
  cases caller : event.caller with
  | none =>
      have unread : hintsRead logged.crawler event = [] := by
        cases event <;> first | rfl | cases caller
      dsimp only
      rw [unread, List.append_nil, List.append_nil]
      exact inv.aside caller moved
  | some number => exact inv.called caller moved rfl rfl rfl

theorem Inv.initial (env : CrawlerEnvironment) : Inv env {} :=
  ⟨by simp [Crawler.fresh, Dict.keys], fun _ _ => ⟨rfl, rfl⟩, by simp [Crawler.fresh, Dict.get?]⟩

theorem Inv.run {events : List CrawlerEvent}
    (ran : Transition.run (LoggedCrawler.step env) {} events = some logged) : Inv env logged :=
  Transition.invariant_run (Inv env) (fun _ _ _ inv taken => inv.step taken) ran (Inv.initial env)

/-- The endpoints of the log. -/
theorem tried_of_dialed {number : Nat} {tried : List Endpoint} {rest : List DialRecord}
    (said : logged.record number = tried.map DialRecord.dialed ++ rest)
    (nothing : rest.filterMap DialRecord.endpoint = []) : logged.tried number = tried := by
  unfold LoggedCrawler.tried
  rw [said, List.filterMap_append, nothing, List.append_nil, List.filterMap_map]
  exact List.filterMap_some

/-- Where a call stands that finishes its key. -/
theorem finishes_stage {manager : CandidateManager} {job : Processing} {wallNs : Int}
    (finishes : env.resume manager wallNs job = some .finishes) :
    job.stage.searches = false ∨ job.stage.persists = true ∨
      ∃ error nowNs nextAttemptNs, job.stage = .failing error nowNs nextAttemptNs := by
  unfold CrawlerEnvironment.resume at finishes
  split at finishes
  · cases finishes
  · cases finishes
  · split at finishes
    · rename_i here _
      exact .inl (by rw [here]; rfl)
    · cases finishes
    · rename_i here _
      exact .inl (by rw [here]; rfl)
    · rename_i here _
      exact .inr (.inl (by rw [here]; rfl))
    · obtain ⟨stage, waits⟩ := env.giveUp_waits _ _ wallNs
      rw [waits] at finishes
      cases finishes
    · rename_i here _
      exact .inr (.inr ⟨_, _, _, here⟩)
    · cases finishes

/-- In any run, when a call of `_process_candidate` finishes its key: it has not got past the checks
of the row, or it has stored the torrent, or it has metadata that cannot be indexed, or it has
handed over the endpoint of every hint that it read after the lookup, or used up its budget. -/
theorem finish_covers (env : CrawlerEnvironment) (events : List CrawlerEvent)
    (logged : LoggedCrawler)
    (ran : Transition.run (LoggedCrawler.step env) {} events = some logged)
    (number : Nat) (job : Processing) (found : Dict.get? number logged.crawler.jobs = some job)
    (wallNs : Int)
    (finishes : env.resume logged.crawler.candidates.manager wallNs job = some .finishes) :
    job.stage.searches = false ∨ job.stage.persists = true ∨
      (∃ rawInfo error, .fetched rawInfo ∈ logged.record number ∧
        Indexer.parseValidatedInfo env.config.toConfig rawInfo ("btih:" ++ hex job.key) =
          .error error) ∨
      ∃ hints, Dict.get? number logged.reread = some hints ∧ ∀ hint ∈ hints,
        (hint.ip, hint.port) ∈ logged.tried number ∨
          env.budget ≤ (logged.tried number).length := by
  have tracks := (Inv.run ran).tracks number job found
  obtain unsearched | persists | ⟨error, nowNs, nextAttemptNs, here⟩ := finishes_stage finishes
  · exact .inl unsearched
  · exact .inr (.inl persists)
  · rw [here] at tracks
    obtain ⟨tried, rawInfo, rejection, said, rejected⟩ | ⟨tried, hints, said, reread, covered⟩ :=
      tracks
    · refine .inr (.inr (.inl ⟨rawInfo, rejection, ?_, rejected⟩))
      rw [said]
      exact List.mem_append_right _ (List.mem_singleton_self _)
    · have isTried : logged.tried number = tried :=
        tried_of_dialed (said.trans (List.append_nil _).symm) rfl
      rw [isTried]
      exact .inr (.inr (.inr ⟨hints, reread, covered⟩))

/-- Every stored hint is tried, unless the torrent is stored or the budget used up. -/
def KeepsHints (env : CrawlerEnvironment) (logged : LoggedCrawler) (number : Nat)
    (job : Processing) : Prop :=
  ∀ hint ∈ logged.crawler.candidates.manager.hintsFor job.key,
    (hint.ip, hint.port) ∈ logged.tried number ∨ job.stage.persists = true ∨
      env.budget ≤ (logged.tried number).length

/-- A peer announces the key while the next attempt is not due yet. -/
def sampleAnnounced : List CrawlerEvent :=
  Crawler.sampleFailure ++ [.resume 0 11 2 2, .stop, .start 20 3,
    .submit 3 21 Crawler.sampleKey "announce_peer" (some ⟨"9.9.9.9", 6881, false⟩), .get 22 22,
    .serve 1 fun _ => {}]

/-- Every metadata has the right hash. -/
def sampleColliding : CrawlerEnvironment :=
  { Crawler.sampleEnvironment with sha1 := fun _ => Crawler.sampleKey }

/-- Metadata that is an empty dictionary. -/
def emptyPeer : PeerScript :=
  { incoming := 19 :: BT_PROTOCOL ++ [0, 0, 0, 0, 0, 0x10, 0, 0] ++ Crawler.sampleKey ++
      List.replicate 20 1 ++
      PeerWire.frame 0 (ascii "d1:md11:ut_metadatai1ee13:metadata_sizei2ee") ++
      PeerWire.frame 1 (ascii "d8:msg_typei1e5:piecei0e10:total_sizei2eede") }

/-- Two peers announce the key, and the metadata of the first one cannot be indexed. -/
def sampleUnindexed : List CrawlerEvent :=
  [.start 1 0, .submit 0 5 Crawler.sampleKey "announce_peer" (some ⟨"8.8.8.8", 6881, false⟩),
    .submit 0 5 Crawler.sampleKey "announce_peer" (some ⟨"9.9.9.9", 6881, false⟩), .get 6 6,
    .serve 0 fun _ => {}, .resume 0 7 0 0, .serve 0 fun _ => {}, .resume 0 8 0 0,
    .fetch 0 emptyPeer 9, .serve 0 fun _ => {}, .resume 0 10 0 0, .serve 0 fun _ => {}]

instance (env : CrawlerEnvironment) (logged : LoggedCrawler) (number : Nat) (job : Processing) :
    Decidable (KeepsHints env logged number job) :=
  inferInstanceAs (Decidable (∀ hint ∈ logged.crawler.candidates.manager.hintsFor job.key, _))

/-- What the end of a run on fixed inputs is checked for. -/
theorem finishing_check (env : CrawlerEnvironment) (events : List CrawlerEvent) (number : Nat)
    (wallNs : Int) (fact : LoggedCrawler → Processing → Prop)
    [∀ logged job, Decidable (fact logged job)]
    (checked : ((Transition.run (LoggedCrawler.step env) {} events).bind fun logged =>
      (Dict.get? number logged.crawler.jobs).map fun job => decide
        (env.resume logged.crawler.candidates.manager wallNs job = some .finishes ∧
          fact logged job)) = some true) :
    ∃ logged job, Transition.run (LoggedCrawler.step env) {} events = some logged ∧
      Dict.get? number logged.crawler.jobs = some job ∧
      env.resume logged.crawler.candidates.manager wallNs job = some .finishes ∧
      fact logged job := by
  obtain ⟨logged, ran, checked⟩ := Option.bind_eq_some_iff.mp checked
  obtain ⟨job, found, checked⟩ := Option.map_eq_some_iff.mp checked
  exact ⟨logged, job, ran, found, of_decide_eq_true checked⟩

/-- A hint is dropped when the next attempt is not due yet, and one that is left when the metadata
of another peer cannot be indexed. -/
theorem hints_dropped :
    (∃ logged job, Transition.run (LoggedCrawler.step Crawler.sampleEnvironment) {}
        sampleAnnounced = some logged ∧
      Dict.get? 1 logged.crawler.jobs = some job ∧
      Crawler.sampleEnvironment.resume logged.crawler.candidates.manager 23 job =
        some .finishes ∧
      ¬ KeepsHints Crawler.sampleEnvironment logged 1 job) ∧
    ∃ logged job, Transition.run (LoggedCrawler.step sampleColliding) {} sampleUnindexed =
        some logged ∧
      Dict.get? 0 logged.crawler.jobs = some job ∧
      sampleColliding.resume logged.crawler.candidates.manager 23 job = some .finishes ∧
      ¬ KeepsHints sampleColliding logged 0 job :=
  ⟨finishing_check _ _ 1 23 _ (by decide +kernel), finishing_check _ _ 0 23 _ (by decide +kernel)⟩

/-- One peer that refuses the connection, and none that the lookup has found. -/
theorem finish_covers_sample :
    ∃ logged job, Transition.run (LoggedCrawler.step Crawler.sampleEnvironment) {}
        Crawler.sampleFailure = some logged ∧
      Dict.get? 0 logged.crawler.jobs = some job ∧
      (job.stage.searches = false ∨ job.stage.persists = true ∨
        (∃ rawInfo error, .fetched rawInfo ∈ logged.record 0 ∧
          Indexer.parseValidatedInfo Crawler.sampleEnvironment.config.toConfig rawInfo
            ("btih:" ++ hex job.key) = .error error) ∨
        ∃ hints, Dict.get? 0 logged.reread = some hints ∧ ∀ hint ∈ hints,
          (hint.ip, hint.port) ∈ logged.tried 0 ∨
            Crawler.sampleEnvironment.budget ≤ (logged.tried 0).length) := by
  obtain ⟨logged, job, ran, found, finishes, -⟩ := finishing_check Crawler.sampleEnvironment
    Crawler.sampleFailure 0 11 (fun _ _ => True) (by decide +kernel)
  exact ⟨logged, job, ran, found,
    finish_covers Crawler.sampleEnvironment _ logged ran 0 job found 11 finishes⟩

end LoggedCrawler

end PyDht
