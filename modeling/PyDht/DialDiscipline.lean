import PyDht.MainProgram
import PyDht.PeerHints
import PyDht.QueryRuns

set_option autoImplicit false

namespace PyDht

namespace CrawlerEnvironment

/-- The endpoint passes `endpoint_allowed`. -/
def Dialable (env : CrawlerEnvironment) (endpoint : Endpoint) : Prop :=
  endpointAllowed env.config.toConfig env.localIps endpoint.1 endpoint.2 = true

/-- Endpoints as one call may dial them; a negative budget allows none. -/
structure Careful (env : CrawlerEnvironment) (tried : List Endpoint) : Prop where
  dialable : ∀ endpoint ∈ tried, env.Dialable endpoint
  distinct : tried.Nodup
  few : tried.length ≤ env.budget.toNat

end CrawlerEnvironment

/-- What a call has tried so far is in order, and so will be what it may still try. -/
def WorkerStage.Careful (env : CrawlerEnvironment) : WorkerStage → Prop
  | .hinting _ hints search => env.Careful search.tried ∧
      search.tried.length + hints.length ≤ env.config.maxPeerHintsPerCandidate.toNat
  | .lookingUp search => env.Careful search.tried
  | .dialing _ peers _ search => env.Careful search.tried ∧ ∀ peer ∈ peers, env.Dialable peer
  | _ => True

/-- The record of a call: dials that are in order, and metadata at most at the end. -/
def CrawlerEnvironment.Disciplined (env : CrawlerEnvironment) (record : List DialRecord) : Prop :=
  ∃ (tried : List Endpoint) (result : Option Bytes), env.Careful tried ∧
    record = tried.map DialRecord.dialed ++ (result.map DialRecord.fetched).toList

namespace CrawlerEnvironment

section stages

variable {env : CrawlerEnvironment}

theorem Careful.nil (env : CrawlerEnvironment) : env.Careful [] where
  dialable _ member := by cases member
  distinct := List.nodup_nil
  few := Nat.zero_le _

theorem Careful.add {tried : List Endpoint} (careful : env.Careful tried) {endpoint : Endpoint}
    (dialable : env.Dialable endpoint) (new : endpoint ∉ tried)
    (room : tried.length < env.budget.toNat) : env.Careful (tried ++ [endpoint]) where
  dialable other member := by
    obtain old | same := List.mem_append.mp member
    · exact careful.dialable other old
    · rw [List.mem_singleton.mp same]
      exact dialable
  distinct := by
    rw [List.nodup_append]
    refine ⟨careful.distinct, List.nodup_singleton endpoint, ?_⟩
    intro other member same isSame equal
    rw [List.mem_singleton.mp isSame] at equal
    exact new (equal ▸ member)
  few := by
    rw [List.length_append, List.length_singleton]
    omega

theorem Disciplined.ofCareful {tried : List Endpoint} (careful : env.Careful tried) :
    env.Disciplined (tried.map DialRecord.dialed) :=
  ⟨tried, none, careful, (List.append_nil _).symm⟩

theorem Disciplined.nil (env : CrawlerEnvironment) : env.Disciplined [] :=
  .ofCareful (.nil env)

/-- Nothing comes after the metadata. -/
theorem Disciplined.ends {record before after : List DialRecord} {rawInfo : Bytes}
    (disciplined : env.Disciplined record) (split : record = before ++ .fetched rawInfo :: after) :
    after = [] := by
  obtain ⟨tried, result, -, said⟩ := disciplined
  have dialed : ∀ {front : List DialRecord}, tried.map DialRecord.dialed = before ++ front →
      .fetched rawInfo ∉ front := by
    intro front same member
    have listed : DialRecord.fetched rawInfo ∈ tried.map DialRecord.dialed := by
      rw [same]
      exact List.mem_append_right _ member
    obtain ⟨endpoint, -, other⟩ := List.mem_map.mp listed
    cases other
  rw [said] at split
  obtain ⟨between, -, rest⟩ | ⟨between, front, rest⟩ := List.append_eq_append_iff.mp split
  · cases result <;> cases between <;> simp at rest
    exact rest.2
  · cases between with
    | nil =>
        cases result <;> simp at rest
        exact rest.2
    | cons first others =>
        rw [List.cons_append, List.cons.injEq] at rest
        exact absurd (by rw [rest.1]; exact List.mem_cons_self) (dialed front)

theorem tryHints_careful (fits : env.config.maxPeerHintsPerCandidate ≤ env.budget)
    (hints : List PeerHint) {search : PeerSearch} (careful : env.Careful search.tried)
    (room : search.tried.length + hints.length ≤ env.config.maxPeerHintsPerCandidate.toNat) :
    (env.tryHints hints search).Careful env := by
  induction hints with
  | nil => exact careful
  | cons hint rest ih =>
      rw [List.length_cons] at room
      unfold tryHints
      dsimp only
      split
      · exact ih (by omega)
      · rename_i untried
        obtain ⟨new, dialable⟩ := not_or.mp untried
        refine ⟨careful.add (by simpa [Dialable] using dialable) new (by omega), ?_⟩
        dsimp only
        rw [List.length_append, List.length_singleton]
        omega

theorem tryPeers_careful (peers : List Endpoint) {attempts : Int} {search : PeerSearch}
    (careful : env.Careful search.tried) (counted : attempts = search.tried.length)
    (dialable : ∀ peer ∈ peers, env.Dialable peer) :
    (env.tryPeers peers attempts search).Careful env := by
  induction peers with
  | nil => trivial
  | cons endpoint rest ih =>
      have later : ∀ peer ∈ rest, env.Dialable peer :=
        fun peer member => dialable peer (List.mem_cons_of_mem _ member)
      unfold tryPeers
      split
      · trivial
      · rename_i within
        have room : attempts < env.budget := not_le.mp within
        split
        · exact ih later
        · rename_i new
          exact ⟨careful.add (dialable endpoint List.mem_cons_self) new (by omega), later⟩

theorem dialPeers_careful {manager : CandidateManager}
    (allowed : manager.Allowed env.config.toConfig env.localIps) (key : Bytes)
    {found : List Endpoint} (dialable : ∀ peer ∈ found, env.Dialable peer) {search : PeerSearch}
    (careful : env.Careful search.tried) :
    (env.dialPeers manager key found search).Careful env := by
  unfold dialPeers
  apply tryPeers_careful _ careful rfl
  intro peer member
  split at member
  · exact dialable peer member
  · rename_i state stored
    obtain late | new := List.mem_append.mp member
    · obtain ⟨hint, listed, rfl⟩ := List.mem_map.mp (List.mem_filter.mp late).1
      exact allowed.hintsFor stored hint listed
    · exact dialable peer (List.mem_filter.mp new).1

theorem index_careful {key rawInfo : Bytes} {errors : List String} {wallNs : Int}
    {stage : WorkerStage} (goes : env.index key rawInfo errors wallNs = .waits stage) :
    stage.Careful env := by
  unfold index at goes
  split at goes
  · split at goes
    · cases goes
      trivial
    · cases goes
  · cases goes
    trivial

variable {manager : CandidateManager} {job : Processing} {stage : WorkerStage}

theorem resume_careful (fits : env.config.maxPeerHintsPerCandidate ≤ env.budget) {wallNs : Int}
    (goes : env.resume manager wallNs job = some (.waits stage)) : stage.Careful env := by
  unfold resume at goes
  split at goes
  · cases goes
  · cases goes
  · split at goes
    · rename_i nowNs _ _ row _ _
      have isMarking : stage = .marking nowNs := by
        unfold Processing.admission at goes
        split at goes
        · cases goes
        · cases goes
        · split at goes
          · cases goes
          · split at goes
            · cases goes
            · cases goes
              rfl
        · cases goes
          rfl
      rw [isMarking]
      trivial
    · cases goes
      apply tryHints_careful fits _ (.nil env)
      rw [List.length_nil, Nat.zero_add, List.length_take]
      exact Nat.min_le_left _ _
    · cases goes
    · cases goes
    · rename_i errors latest _ _
      obtain ⟨error, nowNs, nextAttemptNs, waits⟩ :
          ∃ error nowNs nextAttemptNs, stage = .failing error nowNs nextAttemptNs := by
        unfold giveUp at goes
        dsimp only at goes
        split at goes <;> cases goes <;> exact ⟨_, _, _, rfl⟩
      rw [waits]
      trivial
    · cases goes
    · cases goes

theorem fetched_careful (fits : env.config.maxPeerHintsPerCandidate ≤ env.budget)
    (careful : job.stage.Careful env) {record : List DialRecord}
    {reread : Option (List PeerHint)} (tracks : job.stage.Tracks env job.key record reread)
    {outcome : Except PyError Bytes} {wallNs : Int}
    (goes : env.fetched job outcome wallNs = some (.waits stage)) : stage.Careful env := by
  unfold fetched at goes
  dsimp only at goes
  split at goes
  · rename_i here
    rw [here] at careful
    cases goes
    exact tryHints_careful fits _ careful.1 careful.2
  · rename_i here
    rw [here] at careful tracks
    cases goes
    exact tryPeers_careful _ careful.1 tracks.2.1 careful.2
  · exact index_careful (Option.some.inj goes)
  · exact index_careful (Option.some.inj goes)
  · cases goes
  · cases goes
  · cases goes

theorem lookedUp_careful (careful : job.stage.Careful env)
    (allowed : manager.Allowed env.config.toConfig env.localIps)
    {outcome : Except PyError (List Endpoint)}
    (dialable : ∀ found, outcome = .ok found → ∀ peer ∈ found, env.Dialable peer)
    (goes : env.lookedUp manager job outcome = some (.waits stage)) : stage.Careful env := by
  unfold lookedUp at goes
  split at goes
  · rename_i search found here
    rw [here] at careful
    cases goes
    exact dialPeers_careful allowed job.key (dialable found rfl) careful
  · rename_i search error here
    rw [here] at careful
    cases goes
    exact dialPeers_careful allowed job.key (fun _ member => by cases member) careful
  · cases goes

/-- The dial of a stage that is in order. -/
theorem disciplined_of_dials {key : Bytes} {record : List DialRecord}
    {reread : Option (List PeerHint)} (before : env.Disciplined record)
    (careful : stage.Careful env)
    (tracks : stage.Tracks env key (record ++ stage.dials) reread) :
    env.Disciplined (record ++ stage.dials) := by
  cases stage with
  | hinting endpoint hints search =>
      rw [tracks.1]
      exact .ofCareful careful.1
  | dialing endpoint peers attempts search =>
      rw [tracks.1]
      exact .ofCareful careful.1
  | _ =>
      rw [show WorkerStage.dials _ = [] from rfl, List.append_nil]
      exact before

/-- What a peer has returned comes after dials that are in order. -/
theorem disciplined_of_outcome {endpoint : Endpoint} (dialed : job.endpoint = some endpoint)
    (careful : job.stage.Careful env) {record : List DialRecord}
    {reread : Option (List PeerHint)} (tracks : job.stage.Tracks env job.key record reread)
    (outcome : Except PyError Bytes) :
    env.Disciplined (record ++ DialRecord.ofOutcome outcome) := by
  obtain ⟨tried, said, inOrder⟩ : ∃ tried : List Endpoint,
      record = tried.map DialRecord.dialed ∧ env.Careful tried := by
    unfold Processing.endpoint at dialed
    split at dialed
    · rename_i here
      rw [here] at careful tracks
      exact ⟨_, tracks.1, careful.1⟩
    · rename_i here
      rw [here] at careful tracks
      exact ⟨_, tracks.1, careful.1⟩
    · cases dialed
  rw [said]
  cases outcome with
  | ok rawInfo => exact ⟨tried, some rawInfo, inOrder, rfl⟩
  | error error => exact ⟨tried, none, inOrder, rfl⟩

end stages

end CrawlerEnvironment

namespace CandidateSystem

variable {config : Config} {localIps : List String} {system next : CandidateSystem}

theorem submit_allowed (allowed : system.manager.Allowed config localIps) {now wall : Int}
    {key : Bytes} {source : String} {retry : Bool}
    (taken : system.step config (.submit now wall key source none retry) = some next) :
    next.manager.Allowed config localIps := by
  simp only [step] at taken
  split at taken
  · cases taken
    exact allowed.submit now wall key source retry fun _ none => by cases none
  · cases taken

theorem get_allowed (allowed : system.manager.Allowed config localIps) {worker : Nat}
    (taken : system.step config (.get worker) = some next) :
    next.manager.Allowed config localIps := by
  simp only [step] at taken
  split at taken
  · cases taken
  · obtain ⟨front, -, rfl⟩ := Option.map_eq_some_iff.mp taken
    exact allowed

theorem finish_allowed (allowed : system.manager.Allowed config localIps) {worker : Nat}
    {stamp now : Int} (taken : system.step config (.finish worker stamp now) = some next) :
    next.manager.Allowed config localIps := by
  simp only [step] at taken
  obtain ⟨key, -, taken⟩ := Option.bind_eq_some_iff.mp taken
  split at taken
  · cases taken
    exact allowed.finish config stamp now key true
  · cases taken

end CandidateSystem

namespace Crawler

/-- The stored hints of the workers may be dialed. -/
def Allowed (env : CrawlerEnvironment) (crawler : Crawler) : Prop :=
  crawler.candidates.manager.Allowed env.config.toConfig env.localIps

variable {env : CrawlerEnvironment} {crawler next : Crawler}

theorem Allowed.fresh (env : CrawlerEnvironment) : Crawler.fresh.Allowed env := by
  intro entry member
  cases member

theorem Allowed.proceed (allowed : crawler.Allowed env) {number : Nat} {job : Processing}
    {stamp now : Int} {onward : Onward}
    (done : crawler.proceed env.config.toConfig number job stamp now onward = some next) :
    next.Allowed env := by
  cases onward with
  | waits stage =>
      cases done
      exact allowed
  | finishes =>
      obtain ⟨candidates, finished, rfl⟩ := Option.map_eq_some_iff.mp done
      exact CandidateSystem.finish_allowed allowed finished
  | raises error =>
      cases done
      exact allowed

/-- Apart from what is submitted from outside, no event of the workers adds a hint. -/
theorem Allowed.step (allowed : crawler.Allowed env) {event : CrawlerEvent}
    (own : ∀ now wall key source peerHint, event ≠ .submit now wall key source peerHint)
    (taken : crawler.step env event = some next) : next.Allowed env := by
  cases caller : event.caller with
  | some number =>
      obtain ⟨job, onward, stamp, now, -, -, done⟩ := step_calls caller taken
      exact allowed.proceed done
  | none =>
      cases event with
      | submit now wall key source peerHint => exact absurd rfl (own now wall key source peerHint)
      | scan nowNs attempts =>
          obtain ⟨store, -, rfl⟩ := Option.map_eq_some_iff.mp (live_of_running taken)
          split <;> exact allowed
      | resubmit now wall =>
          have lived := live_of_running taken
          simp only [live] at lived
          split at lived
          · cases lived
          · split at lived
            · cases lived
              exact allowed
            · obtain ⟨candidates, submitted, rfl⟩ := Option.map_eq_some_iff.mp lived
              exact CandidateSystem.submit_allowed allowed submitted
      | get wallNs nowNs =>
          have lived := live_of_running taken
          simp only [live] at lived
          split at lived
          · cases lived
          · obtain ⟨candidates, got, rfl⟩ := Option.map_eq_some_iff.mp lived
            exact CandidateSystem.get_allowed allowed got
      | serve number attempts =>
          have lived := live_of_running taken
          simp only [live] at lived
          split at lived
          · cases lived
          · split at lived
            · obtain ⟨store, -, rfl⟩ := Option.map_eq_some_iff.mp lived
              exact allowed
            · cases lived
      | call request attempts =>
          have lived := live_of_running taken
          simp only [live] at lived
          split at lived
          · cases lived
          · obtain ⟨store, -, rfl⟩ := Option.map_eq_some_iff.mp lived
            exact allowed
      | start nowNs now =>
          obtain ⟨store, -, rfl⟩ := Option.map_eq_some_iff.mp taken
          intro entry member
          cases member
      | stop =>
          obtain ⟨store, -, rfl⟩ := Option.map_eq_some_iff.mp taken
          exact allowed
      | kill =>
          cases taken
          exact allowed
      | resume number wallNs stamp now => cases caller
      | fetch number script wallNs => cases caller
      | lookup number outcome => cases caller

/-- How a call goes on that has kept to the order so far. -/
theorem Calls.careful (fits : env.config.maxPeerHintsPerCandidate ≤ env.budget)
    (allowed : crawler.Allowed env) {number : Nat} {job : Processing} {event : CrawlerEvent}
    {stage : WorkerStage} (calls : Calls env crawler number job event (.waits stage))
    (careful : job.stage.Careful env) {record : List DialRecord}
    {reread : Option (List PeerHint)} (tracks : job.stage.Tracks env job.key record reread)
    (dialable : ∀ found, event = .lookup number (.ok found) →
      ∀ peer ∈ found, env.Dialable peer) : stage.Careful env := by
  cases calls with
  | resumed wallNs stamp now _ goes => exact CrawlerEnvironment.resume_careful fits goes
  | fetched script wallNs endpoint _ dialed goes =>
      exact CrawlerEnvironment.fetched_careful fits careful tracks goes
  | lookedUp outcome _ goes =>
      apply CrawlerEnvironment.lookedUp_careful careful allowed _ goes
      intro found isFound
      exact dialable found (by rw [isFound])

end Crawler

namespace LoggedCrawler

/-- The calls keep to the order, those that have ended included. -/
structure Ordered (env : CrawlerEnvironment) (logged : LoggedCrawler) : Prop extends
    Inv env logged where
  allowed : logged.crawler.Allowed env
  careful : ∀ number job, Dict.get? number logged.crawler.jobs = some job → job.stage.Careful env
  disciplined : ∀ number, env.Disciplined (logged.record number)

variable {env : CrawlerEnvironment} {logged next : LoggedCrawler}

theorem Ordered.initial (env : CrawlerEnvironment) : Ordered env {} where
  toInv := Inv.initial env
  allowed := Crawler.Allowed.fresh env
  careful number job found := by cases found
  disciplined _ := CrawlerEnvironment.Disciplined.nil env

/-- What the log has of a call after the answer to its last dial. -/
theorem Ordered.answered (ordered : Ordered env logged) {number : Nat} {job : Processing}
    {event : CrawlerEvent} {onward : Onward}
    (found : Dict.get? number logged.crawler.jobs = some job)
    (calls : Crawler.Calls env logged.crawler number job event onward) :
    env.Disciplined (logged.record number ++ answers env logged.crawler event) := by
  have before := ordered.disciplined number
  cases calls with
  | resumed wallNs stamp now _ goes =>
      simp only [answers, List.append_nil]
      exact before
  | fetched script wallNs endpoint _ dialed goes =>
      simp only [answers, found, dialed]
      exact CrawlerEnvironment.disciplined_of_outcome dialed (ordered.careful number job found)
        (ordered.tracks number job found) _
  | lookedUp outcome _ goes =>
      simp only [answers, List.append_nil]
      exact before

theorem Ordered.step (fits : env.config.maxPeerHintsPerCandidate ≤ env.budget)
    (ordered : Ordered env logged) {event : CrawlerEvent}
    (own : ∀ now wall key source peerHint, event ≠ .submit now wall key source peerHint)
    (dialable : ∀ number found, event = .lookup number (.ok found) →
      ∀ peer ∈ found, env.Dialable peer)
    (taken : LoggedCrawler.step env logged event = some next) : Ordered env next := by
  have inv := ordered.toInv.step taken
  obtain ⟨crawler, moved, rfl⟩ := Option.map_eq_some_iff.mp taken
  have allowed := ordered.allowed.step own moved
  cases caller : event.caller with
  | none =>
      rw [caller] at inv
      have aside := Crawler.step_aside ordered.numbers caller moved
      refine ⟨inv, allowed, fun number job found => ?_, fun number => ?_⟩
      · obtain ⟨before, known, -, stage⟩ | ⟨-, -, nowNs, firstSeen, lastSeen, stage⟩ :=
          aside.jobs number job found
        · rw [stage]
          exact ordered.careful number before known
        · rw [stage]
          trivial
      · unfold record
        dsimp only
        rw [List.append_nil]
        exact ordered.disciplined number
  | some number =>
      rw [caller] at inv
      obtain ⟨job, onward, stamp, now, found, calls, done⟩ := Crawler.step_calls caller moved
      obtain ⟨-, here, elsewhere⟩ := Crawler.proceed_jobs done
      have answered := ordered.answered found calls
      have careful : ∀ stage, onward = .waits stage → stage.Careful env := by
        intro stage waits
        rw [waits] at calls
        exact calls.careful fits ordered.allowed (ordered.careful number job found)
          (ordered.tracks number job found) (dialable number)
      refine ⟨inv, allowed, fun other job' there => ?_, fun other => ?_⟩
      · by_cases same : other = number
        · rw [same, here] at there
          cases onward with
          | waits stage =>
              cases there
              exact careful stage rfl
          | finishes => cases there
          | raises error => cases there
        · rw [elsewhere other same] at there
          exact ordered.careful other job' there
      · rw [record_append logged rfl]
        split
        · rename_i same
          rw [same]
          cases onward with
          | waits stage =>
              have new : newDials crawler number = stage.dials := by
                unfold newDials
                rw [here]
                rfl
              have tracks := inv.tracks number _ here
              rw [record_append logged rfl, if_pos rfl, new, ← List.append_assoc]
                at tracks
              rw [new, ← List.append_assoc]
              exact CrawlerEnvironment.disciplined_of_dials answered (careful stage rfl) tracks
          | finishes =>
              have none : newDials crawler number = [] := by
                unfold newDials
                rw [here]
                rfl
              rw [none, List.append_nil]
              exact answered
          | raises error =>
              have none : newDials crawler number = [] := by
                unfold newDials
                rw [here]
                rfl
              rw [none, List.append_nil]
              exact answered
        · exact ordered.disciplined other

/-- The node leaves the calls alone. -/
theorem Ordered.withManager (ordered : Ordered env logged) {manager : CandidateManager}
    (allowed : manager.Allowed env.config.toConfig env.localIps) :
    Ordered env { logged with crawler := logged.crawler.withManager manager } where
  numbers := ordered.numbers
  fresh := ordered.fresh
  tracks := ordered.tracks
  allowed := allowed
  careful := ordered.careful
  disciplined := ordered.disciplined

end LoggedCrawler

namespace MainProgram

/-- The workers keep to the order, the node uses their configuration and their local IPs, and the
lookups have found nothing that is not allowed. -/
structure Inv (env : CrawlerEnvironment) (program : MainProgram) : Prop where
  ordered : program.logged.Ordered env
  config : ∀ process, program.process = some process → process.env.config = env.config.toConfig
  localIps : ∀ process, program.process = some process →
    process.system.node.localIps = env.localIps
  lookups : ∀ number lookup, Dict.get? number program.lookups = some lookup →
    lookup.Sound env.config.toConfig env.localIps

variable {env : CrawlerEnvironment} {program next : MainProgram}

theorem Inv.initial (env : CrawlerEnvironment) : Inv env {} where
  ordered := .initial env
  config process running := by cases running
  localIps process running := by cases running
  lookups number lookup found := by cases found

theorem Inv.nodeStep (inv : Inv env program) {process : NodeProcess}
    (running : program.process = some process) {event : NodeEvent}
    (taken : program.nodeStep process event = some next) : Inv env next := by
  obtain ⟨system, moved, rfl⟩ := Option.map_eq_some_iff.mp taken
  have sameConfig := inv.config process running
  have lasting : DHTNode.Lasting process.env
      (DHTNode.Hinted process.env.config env.localIps) := DHTNode.hinted_lasting
  have hinted : DHTNode.Hinted process.env.config env.localIps system.node := by
    apply NodeSystem.node_of_step lasting _ moved
    refine ⟨inv.localIps process running, ?_⟩
    rw [sameConfig]
    exact inv.ordered.allowed
  have allowed := hinted.2
  rw [sameConfig] at allowed
  refine ⟨inv.ordered.withManager allowed, ?_, ?_, inv.lookups⟩
  · intro other isOther
    obtain rfl := Option.some.inj isOther
    exact sameConfig
  · intro other isOther
    obtain rfl := Option.some.inj isOther
    exact hinted.1

theorem Inv.answer (fits : env.config.maxPeerHintsPerCandidate ≤ env.budget)
    (inv : Inv env program) {number : Nat} {outcome : Except PyError (List Endpoint)}
    (dialable : ∀ found, outcome = .ok found → ∀ peer ∈ found, env.Dialable peer)
    (taken : program.answer env number outcome = some next) : Inv env next := by
  obtain ⟨logged, moved, rfl⟩ := Option.map_eq_some_iff.mp taken
  refine ⟨?_, inv.config, inv.localIps, fun other lookup found => ?_⟩
  · apply inv.ordered.step fits (fun _ _ _ _ _ same => by cases same) _ moved
    intro other found same
    cases same
    exact dialable found rfl
  · by_cases same : other = number
    · dsimp only at found
      rw [same, Dict.get?_pop_self] at found
      cases found
    · dsimp only at found
      rw [Dict.get?_pop_ne same] at found
      exact inv.lookups other lookup found

theorem Inv.pursue (fits : env.config.maxPeerHintsPerCandidate ≤ env.budget)
    (inv : Inv env program) {localIps : List String} (known : localIps = env.localIps)
    {number : Nat} {late : Bool} {lookup : PeerLookup}
    (sound : lookup.Sound env.config.toConfig env.localIps)
    (taken : program.pursue env localIps number late lookup = some next) : Inv env next := by
  unfold MainProgram.pursue at taken
  rw [known] at taken
  split at taken
  · exact inv.answer fits (fun _ failed => by cases failed) taken
  · apply inv.answer fits _ taken
    intro found isFound peer member
    obtain rfl := Except.ok.inj isFound
    exact sound peer (List.mem_of_mem_take member)
  · rename_i further turned
    cases taken
    refine ⟨inv.ordered, inv.config, inv.localIps, fun other changed found => ?_⟩
    dsimp only at found
    rw [Dict.get?_set] at found
    split at found
    · cases found
      exact PeerLookup.turn_sound sound turned
    · exact inv.lookups other changed found

theorem Inv.search (fits : env.config.maxPeerHintsPerCandidate ≤ env.budget)
    (inv : Inv env program) {process : NodeProcess} (running : program.process = some process)
    {number : Nat} {job : Processing} {reading : Int} {late : Bool}
    (taken : program.search env process number job reading late = some next) : Inv env next := by
  unfold MainProgram.search at taken
  split at taken
  · split at taken
    · cases taken
    · dsimp only at taken
      split at taken
      · exact inv.answer fits (fun _ failed => by cases failed) taken
      · rename_i lookup opened
        exact inv.pursue fits (inv.localIps process running) (PeerLookup.opening_sound opened) taken
  · cases taken

theorem Inv.gather (fits : env.config.maxPeerHintsPerCandidate ≤ env.budget)
    (inv : Inv env program) {process : NodeProcess} (running : program.process = some process)
    {number : Nat} {lookup : PeerLookup} (sound : lookup.Sound env.config.toConfig env.localIps)
    {results : List (Option Message)} {readings : Nat → Nat → Int} {late : Bool}
    (taken : program.gather env process number lookup results readings late = some next) :
    Inv env next := by
  have known := inv.localIps process running
  have routed : ∀ routing, Inv env
      { program with process := some (process.withRouting routing) } := by
    intro routing
    refine ⟨inv.ordered, ?_, ?_, inv.lookups⟩
    · intro other isOther
      obtain rfl := Option.some.inj isOther
      exact inv.config process running
    · intro other isOther
      obtain rfl := Option.some.inj isOther
      exact known
  have keeps : Effects.Preserves
      (fun state => PeerLookup.Sound env.config.toConfig env.localIps state.2)
      (PeerLookup.gather env.config.toConfig env.localIps readings 0 results) :=
    PeerLookup.gather_sound readings 0 results
  have gathered := keeps (process.system.node.routing, lookup) sound
  unfold MainProgram.gather at taken
  dsimp only at taken
  rw [known] at taken
  split at taken
  · exact (routed _).answer fits (fun _ failed => by cases failed) taken
  · rename_i outcome
    rw [outcome] at gathered
    exact (routed _).pursue fits rfl gathered taken

theorem Inv.step (fits : env.config.maxPeerHintsPerCandidate ≤ env.budget)
    (inv : Inv env program) {event : MainEvent}
    (taken : program.step env event = some next) : Inv env next := by
  have ended : ∀ {logged : LoggedCrawler}, logged.Ordered env → Inv env { logged } := by
    intro logged ordered
    exact { Inv.initial env with ordered }
  cases event with
  | start surroundings nodeId txCounter nowNs now =>
      obtain ⟨logged, moved, taken⟩ := Option.bind_eq_some_iff.mp taken
      have ordered := inv.ordered.step fits (fun _ _ _ _ _ same => by cases same)
        (fun _ _ same => by cases same) moved
      dsimp only at taken
      split at taken
      · cases taken
      · rename_i system made
        cases taken
        obtain ⟨-, -, routing, -, isSystem⟩ := NodeSystem.new_ok made
        refine ⟨ordered, ?_, ?_, (Inv.initial env).lookups⟩
        · intro other isOther
          obtain rfl := Option.some.inj isOther
          rfl
        · intro other isOther
          obtain rfl := Option.some.inj isOther
          rw [isSystem]
  | node event =>
      obtain ⟨process, running, taken⟩ := Option.bind_eq_some_iff.mp taken
      exact inv.nodeStep running taken
  | worker event =>
      simp only [MainProgram.step] at taken
      split at taken
      · rename_i own
        obtain ⟨logged, moved, rfl⟩ := Option.map_eq_some_iff.mp taken
        refine ⟨?_, inv.config, inv.localIps, inv.lookups⟩
        apply inv.ordered.step fits _ _ moved
        · rintro now wall key source peerHint rfl
          cases own
        · rintro number found rfl
          cases own
      · cases taken
  | search number reading late =>
      obtain ⟨process, running, taken⟩ := Option.bind_eq_some_iff.mp taken
      obtain ⟨job, -, taken⟩ := Option.bind_eq_some_iff.mp taken
      exact inv.search fits running taken
  | gather number results readings late =>
      obtain ⟨process, running, taken⟩ := Option.bind_eq_some_iff.mp taken
      obtain ⟨lookup, found, taken⟩ := Option.bind_eq_some_iff.mp taken
      split at taken
      · exact inv.gather fits running (inv.lookups number lookup found) taken
      · cases taken
  | stop =>
      obtain ⟨logged, moved, rfl⟩ := Option.map_eq_some_iff.mp taken
      exact ended (inv.ordered.step fits (fun _ _ _ _ _ same => by cases same)
        (fun _ _ same => by cases same) moved)
  | kill =>
      simp only [MainProgram.step] at taken
      obtain ⟨logged, moved, rfl⟩ := Option.map_eq_some_iff.mp taken
      exact ended (inv.ordered.step fits (fun _ _ _ _ _ same => by cases same)
        (fun _ _ same => by cases same) moved)

theorem Inv.run (fits : env.config.maxPeerHintsPerCandidate ≤ env.budget)
    {events : List MainEvent}
    (ran : Transition.run (MainProgram.step env) {} events = some program) : Inv env program :=
  Transition.invariant_run (Inv env) (fun _ _ _ inv taken => inv.step fits taken) ran
    (Inv.initial env)

/-- In any run of the node and the workers, each call of `_process_candidate` hands only endpoints
to `fetch_metadata` that may be dialed, none of them twice and no more than the budget, and none
once it has the metadata. -/
theorem run_dials (env : CrawlerEnvironment)
    (fits : env.config.maxPeerHintsPerCandidate ≤
      min env.config.maxPeersPerTorrent env.config.maxMetadataAttemptsPerTorrent)
    (events : List MainEvent) (program : MainProgram)
    (ran : Transition.run (MainProgram.step env) {} events = some program) (number : Nat) :
    (∀ endpoint ∈ program.logged.tried number,
      endpointAllowed env.config.toConfig env.localIps endpoint.1 endpoint.2 = true) ∧
    (program.logged.tried number).Nodup ∧
    (program.logged.tried number).length ≤ (min env.config.maxPeersPerTorrent
      env.config.maxMetadataAttemptsPerTorrent).toNat ∧
    ∀ before rawInfo after, program.logged.record number = before ++ .fetched rawInfo :: after →
      ∀ dial ∈ after, dial.endpoint = none := by
  have disciplined := (Inv.run fits ran).ordered.disciplined number
  obtain ⟨tried, result, careful, said⟩ := id disciplined
  have isTried : program.logged.tried number = tried := by
    apply LoggedCrawler.tried_of_dialed said
    cases result <;> rfl
  rw [isTried]
  refine ⟨careful.dialable, careful.distinct, careful.few, ?_⟩
  intro before rawInfo after split dial member
  rw [disciplined.ends split] at member
  cases member

/-- A peer asks for a key, announces it with its token, and refuses the connection; the lookup then
finds a private address and another peer. -/
def sampleSearched : List MainEvent :=
  let sender := ascii "d1:ad2:id20:abcdefghijklmnopqrst9:info_hash20:" ++ Crawler.sampleKey
  let asks := sender ++ ascii "e1:q9:get_peers1:t2:aa1:y1:qe"
  let announces := sender ++ ascii "4:porti6881e5:token5:" ++ [8, 8, 8, 8, 0] ++
    ascii "e1:q13:announce_peer1:t2:ab1:y1:qe"
  let response : Message :=
    [(ascii "values", .list [.bytes [10, 0, 0, 1, 26, 225], .bytes [9, 9, 9, 9, 26, 225]])]
  [.start NodeSystem.quietWorld (List.replicate 20 1) 7 1 0, .node .connect,
    .node (.datagram asks ("8.8.8.8", 6881)), .node (.datagram announces ("8.8.8.8", 6881)),
    .worker (.get 6 6), .worker (.serve 0 fun _ => {}), .worker (.resume 0 7 0 0),
    .worker (.serve 0 fun _ => {}), .worker (.resume 0 8 0 0),
    .worker (.fetch 0 { refused := some .timedOut } 9), .search 0 0 false,
    .gather 0 [some response] (fun _ _ => 0) false]

theorem run_dials_sample :
    ∃ program, Transition.run (MainProgram.step Crawler.sampleEnvironment) {} sampleSearched =
        some program ∧
      program.logged.tried 0 = [("8.8.8.8", 6881), ("9.9.9.9", 6881)] ∧
      (∀ endpoint ∈ program.logged.tried 0,
        endpointAllowed Crawler.sampleEnvironment.config.toConfig [] endpoint.1 endpoint.2 =
          true) ∧
      (program.logged.tried 0).Nodup ∧
      (program.logged.tried 0).length ≤ 20 ∧
      ∀ before rawInfo after, program.logged.record 0 = before ++ .fetched rawInfo :: after →
        ∀ dial ∈ after, dial.endpoint = none := by
  have checked : (Transition.run (MainProgram.step Crawler.sampleEnvironment) {}
      sampleSearched).map (fun program => program.logged.tried 0) =
        some [("8.8.8.8", 6881), ("9.9.9.9", 6881)] := by
    decide +kernel
  obtain ⟨program, ran, tried⟩ := Option.map_eq_some_iff.mp checked
  exact ⟨program, ran, tried,
    run_dials Crawler.sampleEnvironment (by decide) sampleSearched program ran 0⟩

end MainProgram

end PyDht
