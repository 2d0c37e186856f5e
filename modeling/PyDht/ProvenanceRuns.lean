import PyDht.NodeRuns
import PyDht.Provenance
import PyDht.QueryRuns
import PyDht.RoutingClosest

set_option autoImplicit false

namespace PyDht

open Effects (Ensures Preserves)

namespace DHTNode

variable {env : Environment} {localIps : List String} {told heard : Bytes → Endpoint → Prop}

theorem restoreContacts_sound (records : List SnapshotRecord) :
    Preserves (Sound env.config localIps told heard) (restoreContacts env records) := by
  induction records with
  | nil => exact Preserves.pure ()
  | cons record records ih =>
      apply Preserves.bind ((sound_quiet env.config localIps told heard).monotonicNs env)
      intro now
      apply Preserves.get
      intro node sound
      apply Ensures.raiseBind
      · intro routing restored
        have every : routing.Every (Vouched env.config localIps heard) :=
          sound.routing.restoreRecord
            (fun contact ip port vouched => vouched.refresh now (by simp))
            (fun nodeId ip port length => Vouched.candidate length now (by simp)) restored
        apply Ensures.setBind
        intro _
        exact ih.ensures (fun _ same => same ▸ { sound with routing := every })
          (fun _ _ holds => holds) fun _ _ holds => holds
      · intro fault _ state same
        exact same ▸ sound

theorem forget_sound {config : Config} (tid : Bytes) :
    Preserves (Sound config localIps told heard) (forget tid) :=
  Preserves.modify fun _ sound =>
    { sound with pending := fun entry member => sound.pending entry (Dict.mem_of_mem_pop member) }

theorem cancelFuture_sound {config : Config} (tid : Bytes) :
    Preserves (Sound config localIps told heard) (cancelFuture tid) := by
  apply Preserves.get
  intro node sound
  have keep : ∀ program : Node Unit, Preserves (Sound config localIps told heard) program →
      Ensures (· = node) program (fun _ => Sound config localIps told heard)
        (fun _ => Sound config localIps told heard) :=
    fun program preserves => preserves.ensures (fun _ same => same ▸ sound)
      (fun _ _ holds => holds) fun _ _ holds => holds
  split
  · exact keep _ (Preserves.pure ())
  · rename_i pending isPending
    have awaited := sound.pending _ (Dict.mem_of_get? isPending)
    exact keep _ (settle_sound tid .cancelled pending
      ⟨awaited.allowed, fun _ _ done => by cases done⟩)

theorem closeIngress_sound {config : Config} :
    Preserves (Sound config localIps told heard) closeIngress := by
  apply Preserves.modify
  intro node sound
  refine { sound with pending := fun entry member => ?_ }
  rcases List.mem_map.mp member with ⟨before, inside, same⟩
  have awaited := sound.pending before inside
  split at same
  · rw [← same]
    exact ⟨awaited.allowed, fun _ _ done => by cases done⟩
  · exact same ▸ awaited

theorem refreshBucket_sound {config : Config} (place : Nat) (now : Int) :
    Preserves (Sound config localIps told heard) (refreshBucket place now) := by
  apply Preserves.get
  intro node sound
  split
  · apply Ensures.pure
    intro state same
    exact same ▸ sound
  · rename_i bucket isBucket
    have routing : ∀ other ∈ node.routing.buckets.set place { bucket with lastChangedNs := now },
        ∀ contact ∈ other.entries, Vouched config localIps heard contact := by
      intro other inside contact member
      rcases List.mem_or_eq_of_mem_set inside with old | same
      · exact sound.routing other old contact member
      · rw [same] at member
        exact sound.routing bucket (List.mem_of_getElem? isBucket) contact member
    apply Ensures.setBind
    intro _
    apply Ensures.modify
    intro state same
    rw [same]
    exact { sound with routing }

theorem markFailure_sound (nodeId : Bytes) :
    Preserves (Sound env.config localIps told heard) (markFailure env nodeId) := by
  apply Preserves.bind ((sound_quiet env.config localIps told heard).monotonicNs env)
  intro now
  apply Preserves.get
  intro node sound
  apply Ensures.raiseBind
  · intro routing failed
    have every : routing.Every (Vouched env.config localIps heard) :=
      sound.routing.markFailure (fun _ vouched => vouched.failedOnce) failed
    apply Ensures.set
    intro state same
    exact { sound with routing := every }
  · intro fault _ state same
    exact same ▸ sound

theorem expire_sound (request : Request) (tid : Bytes) :
    Preserves (Sound env.config localIps told heard) (expire env request tid) := by
  apply Preserves.bind
  · apply Preserves.tryCatch
    · apply Preserves.bind (Preserves.when fun _ => markFailure_sound _)
      intro _
      exact (sound_quiet env.config localIps told heard).noting.emitError env _ _ _ _
    · intro fault
      exact (forget_sound tid).bind fun _ => Preserves.throw fault
  · intro _
    exact forget_sound tid

theorem takeNodes_sound (response : Message) :
    Preserves (Sound env.config localIps told heard) (takeNodes env response) :=
  learnContacts_sound false 0 _

theorem continueWith_sound (caller : Caller) (endpoint : Endpoint) (response : Message)
    (answered : ∀ nodeId, Value.asKey (response.get? "id") = some nodeId →
      endpointAllowed env.config localIps endpoint.1 endpoint.2 = true ∧ heard nodeId endpoint) :
    Preserves (Sound env.config localIps told heard)
      (continueWith env caller endpoint response) := by
  apply continueWith_ensures env caller endpoint response (Preserves.pure ())
  · intro nodeId named
    exact meet_sound nodeId endpoint _ fun _ => answered nodeId named
  · exact takeNodes_sound response

theorem send_sound {config : Config} (message : Message) (endpoint : Endpoint)
    (none : message.get? "r" = none) :
    Preserves (Sound config localIps told heard) (send message endpoint) := by
  apply send_preserves
  intro node payload sound
  refine { sound with sent := fun datagram member => ?_ }
  rcases List.mem_append.mp member with old | new
  · exact sound.sent datagram old
  · rw [List.mem_singleton.mp new]
    intro response raw isResponse
    simp [none, Value.asDict] at isResponse

theorem launch_sound (request : Request)
    (allowed : endpointAllowed env.config localIps request.endpoint.1 request.endpoint.2 = true) :
    Preserves (Sound env.config localIps told heard) (launch env request) := by
  have quiet := sound_quiet env.config localIps told heard
  apply Preserves.get
  intro node sound
  have keep : ∀ program : Node Bytes, Preserves (Sound env.config localIps told heard) program →
      Ensures (· = node) program (fun _ => Sound env.config localIps told heard)
        (fun _ => Sound env.config localIps told heard) :=
    fun program preserves => preserves.ensures (fun _ same => same ▸ sound)
      (fun _ _ holds => holds) fun _ _ holds => holds
  apply Ensures.raiseBind _ fun _ _ state same => same ▸ sound
  intro named _
  rcases named with ⟨tid, txCounter⟩
  apply keep
  dsimp only
  apply Preserves.bind (quiet.monotonicNs env)
  intro sentNs
  apply Preserves.bind
  · apply Preserves.modify
    intro state holds
    refine { holds with pending := fun entry member => ?_ }
    rcases Dict.mem_of_mem_set member with old | new
    · exact holds.pending entry old
    · rw [new]
      exact ⟨allowed, fun _ _ done => by cases done⟩
  · intro _
    apply Preserves.bind (Preserves.when fun _ => quiet.emit _)
    intro _
    apply Preserves.bind
    · apply Preserves.tryCatch
      · exact send_sound _ _ (queryMessage_has_no_response env node tid request)
      · intro fault
        exact (forget_sound tid).bind fun _ => Preserves.throw fault
    · intro _
      exact Preserves.pure tid

end DHTNode

namespace NodeSystem

variable {env : Environment} {start system next : NodeSystem} {events : List NodeEvent}
  {localIps : List String} {told heard more : Bytes → Endpoint → Prop}

/-- A response carrying the node ID was accepted from the endpoint for a query
that was pending to it. -/
def Heard (env : Environment) (start : NodeSystem) (events : List NodeEvent) (nodeId : Bytes)
    (endpoint : Endpoint) : Prop :=
  ∃ earlier data rest before msg pending response,
    events = earlier ++ .datagram data endpoint :: rest ∧
    Transition.run (step env) start earlier = some before ∧
    data.length ≤ env.config.dhtReceiveMaxBytes ∧ DHTNode.receive env.config data = .ok msg ∧
    DHTNode.Accepted before.node msg endpoint pending response nodeId

theorem Heard.concat (event : NodeEvent) (nodeId : Bytes) (endpoint : Endpoint)
    (here : Heard env start events nodeId endpoint) :
    Heard env start (events ++ [event]) nodeId endpoint := by
  rcases here with ⟨earlier, data, rest, before, msg, pending, response, rfl, facts⟩
  exact ⟨earlier, data, rest ++ [event], before, msg, pending, response, by simp, facts⟩

/-- The requests that have not gone out yet are for endpoints that are allowed. -/
structure Upheld (config : Config) (localIps : List String) (told heard : Bytes → Endpoint → Prop)
    (system : NodeSystem) : Prop where
  node : DHTNode.Sound config localIps told heard system.node
  waiting : ∀ entry ∈ system.waiting,
    endpointAllowed config localIps entry.2.endpoint.1 entry.2.endpoint.2 = true
  granted : ∀ entry ∈ system.granted,
    endpointAllowed config localIps entry.2.endpoint.1 entry.2.endpoint.2 = true

theorem Upheld.ofNode {config : Config} (upheld : Upheld config localIps told heard system)
    {node : DHTNode} (sound : DHTNode.Sound config localIps told more node) :
    Upheld config localIps told more { system with node } :=
  ⟨sound, upheld.waiting, upheld.granted⟩

theorem Upheld.mono {config : Config} (upheld : Upheld config localIps told heard system)
    (grows : ∀ nodeId endpoint, heard nodeId endpoint → more nodeId endpoint) :
    Upheld config localIps told more system :=
  { upheld with node := upheld.node.mono grows }

theorem Upheld.resume (upheld : Upheld env.config localIps told heard system) {limit : Int}
    {delivered : Delivered} (accounted : Accounted limit delivered system) {number : Nat}
    {flight : Flight} (found : Dict.get? number system.flying = some flight)
    (resumed : system.resumeFlight env number flight = some next) :
    Upheld env.config localIps told heard next := by
  have freed := (DHTNode.forget_sound flight.tid).after upheld.node
  unfold resumeFlight at resumed
  dsimp only at resumed
  split at resumed
  · cases resumed
    have expired := (DHTNode.expire_sound flight.request flight.tid).after upheld.node
    exact { upheld with node := expired }
  · cases resumed
    exact { upheld with node := freed }
  · split at resumed
    · cases resumed
      exact { upheld with node := freed }
    · rename_i response isResult
      cases resumed
      rcases Option.map_eq_some_iff.mp isResult with ⟨pending, isPending, done⟩
      have awaited := upheld.node.pending _ (Dict.mem_of_get? isPending)
      have sameEndpoint : pending.endpoint = flight.request.endpoint :=
        congrArg Ticket.endpoint (accounted.result found isPending done).1
      have continued := (DHTNode.continueWith_sound flight.request.caller flight.request.endpoint
        response fun nodeId named => sameEndpoint ▸
          ⟨awaited.allowed, awaited.result response nodeId done named⟩).after freed
      exact { upheld with node := continued }
    · cases resumed

/-- One event other than a datagram adds nothing to what was heard. -/
theorem Upheld.step (upheld : Upheld env.config localIps told heard system) {limit : Int}
    {delivered : Delivered} (accounted : Accounted limit delivered system) {event : NodeEvent}
    (noDatagram : ∀ data source, event ≠ .datagram data source)
    (taken : NodeSystem.step env system event = some next) :
    Upheld env.config localIps told heard next := by
  cases event with
  | datagram data source => exact absurd rfl (noDatagram data source)
  | connect =>
      cases taken
      exact upheld.ofNode { upheld.node with }
  | restore records =>
      cases taken
      exact upheld.ofNode ((DHTNode.restoreContacts_sound records).after upheld.node)
  | query request =>
      simp only [NodeSystem.step] at taken
      split at taken
      · cases taken
        exact upheld
      · rename_i isAdmitted
        cases taken
        refine { upheld with waiting := fun entry member => ?_ }
        rcases List.mem_append.mp member with old | new
        · exact upheld.waiting entry old
        · rw [List.mem_singleton.mp new]
          unfold DHTNode.admitted at isAdmitted
          split at isAdmitted
          · cases isAdmitted
          · split at isAdmitted
            · cases isAdmitted
            · rename_i allowed
              rw [upheld.node.localIps] at allowed
              simpa using allowed
  | abandon number =>
      rcases Option.map_eq_some_iff.mp taken with ⟨request, _, rfl⟩
      exact { upheld with
        waiting := fun entry member => upheld.waiting entry (Dict.mem_of_mem_pop member) }
  | grant number =>
      rcases Option.bind_eq_some_iff.mp taken with ⟨request, found, given⟩
      split at given
      · cases given
      · cases given
        refine ⟨{ upheld.node with }, fun entry member =>
          upheld.waiting entry (Dict.mem_of_mem_pop member), fun entry member => ?_⟩
        rcases List.mem_append.mp member with old | new
        · exact upheld.granted entry old
        · rw [List.mem_singleton.mp new]
          exact upheld.waiting _ (Dict.mem_of_get? found)
  | decline number =>
      rcases Option.map_eq_some_iff.mp taken with ⟨request, _, rfl⟩
      exact ⟨{ upheld.node with }, upheld.waiting, fun entry member =>
        upheld.granted entry (Dict.mem_of_mem_pop member)⟩
  | launch number =>
      rcases Option.map_eq_some_iff.mp taken with ⟨request, found, same⟩
      have allowed := upheld.granted _ (Dict.mem_of_get? found)
      have launched := DHTNode.launch_sound request allowed system.node upheld.node
      have fewer : ∀ entry ∈ Dict.pop number system.granted, endpointAllowed env.config localIps
          entry.2.endpoint.1 entry.2.endpoint.2 = true :=
        fun entry member => upheld.granted entry (Dict.mem_of_mem_pop member)
      dsimp only at same
      split at same
      · rename_i outcome
        rw [outcome] at launched
        rw [← same]
        exact ⟨launched, upheld.waiting, fewer⟩
      · rename_i outcome
        rw [outcome] at launched
        rw [← same]
        exact ⟨launched, upheld.waiting, fewer⟩
  | timeout number =>
      rcases Option.bind_eq_some_iff.mp taken with ⟨flight, _, given⟩
      split at given
      · cases given
      · cases given
        exact ⟨(DHTNode.cancelFuture_sound flight.tid).after upheld.node, upheld.waiting,
          upheld.granted⟩
  | cancel number =>
      rcases Option.map_eq_some_iff.mp taken with ⟨flight, _, rfl⟩
      exact ⟨(DHTNode.cancelFuture_sound flight.tid).after upheld.node, upheld.waiting,
        upheld.granted⟩
  | resume number =>
      rcases Option.bind_eq_some_iff.mp taken with ⟨flight, found, resumed⟩
      exact upheld.resume accounted found resumed
  | lookup place =>
      rcases Option.map_eq_some_iff.mp taken with ⟨response, _, rfl⟩
      exact ⟨(DHTNode.takeNodes_sound response).after upheld.node, upheld.waiting,
        upheld.granted⟩
  | refreshBucket place now =>
      cases taken
      exact upheld.ofNode ((DHTNode.refreshBucket_sound place now).after upheld.node)
  | closeIngress =>
      cases taken
      exact upheld.ofNode (DHTNode.closeIngress_sound.after upheld.node)

/-- One event of a run: what is told rests on what was heard before the event. -/
theorem Upheld.runStep (upheld : Upheld env.config localIps (Heard env start events)
      (Heard env start events) system) {limit : Int} {delivered : Delivered}
    (accounted : Accounted limit delivered system)
    (ran : Transition.run (NodeSystem.step env) start events = some system) {event : NodeEvent}
    (taken : NodeSystem.step env system event = some next) :
    Upheld env.config localIps (Heard env start events) (Heard env start (events ++ [event]))
      next := by
  by_cases isDatagram : ∃ data source, event = .datagram data source
  · rcases isDatagram with ⟨data, source, rfl⟩
    cases taken
    exact upheld.ofNode (DHTNode.datagramReceived_sound data source system.node upheld.node
      (Heard.concat _) fun msg pending response nodeId small received accepts =>
        ⟨events, data, [], system, msg, pending, response, rfl, ran, small, received, accepts⟩)
  · exact (upheld.step accounted (fun data source same => isDatagram ⟨data, source, same⟩)
      taken).mono (Heard.concat event)

theorem new_upheld {nodeId : Bytes} {candidates : CandidateManager} {txCounter : Nat}
    (made : new env nodeId candidates txCounter localIps = .ok start) :
    Upheld env.config localIps told heard start := by
  rcases new_ok made with ⟨_, _, routing, isRouting, rfl⟩
  unfold RoutingTable.new at isRouting
  split at isRouting
  · cases isRouting
  cases isRouting
  refine ⟨⟨rfl, ?_, by simp, by simp⟩, by simp, by simp⟩
  intro bucket inside contact member
  rw [List.mem_singleton.mp inside] at member
  simp [Bucket.entries] at member

theorem run_upheld {nodeId : Bytes} {candidates : CandidateManager} {txCounter : Nat}
    (made : new env nodeId candidates txCounter localIps = .ok start)
    (ran : Transition.run (NodeSystem.step env) start events = some system) :
    Upheld env.config localIps (Heard env start events) (Heard env start events) system := by
  have kept : ∀ inputs event state next,
      Transition.run (NodeSystem.step env) start inputs = some state →
      Upheld env.config localIps (Heard env start inputs) (Heard env start inputs) state →
      NodeSystem.step env state event = some next →
      Upheld env.config localIps (Heard env start (inputs ++ [event]))
        (Heard env start (inputs ++ [event])) next := by
    intro inputs event state next before upheld taken
    rcases run_matched made before with ⟨limit, accounted⟩
    have after := upheld.runStep accounted before taken
    refine { after with node := { after.node with sent := ?_ } }
    intro datagram member response raw isResponse isNodes
    rcases after.node.sent datagram member response raw isResponse isNodes with
      ⟨placed, parsed, known⟩
    exact ⟨placed, parsed, fun entry inside =>
      (known entry inside).imp_right (Heard.concat event _ _)⟩
  exact Transition.invariant_history
    (fun inputs => Upheld env.config localIps (Heard env start inputs) (Heard env start inputs))
    kept (new_upheld made) ran

/-- What a node that the events have led to may tell about other nodes. -/
structure Advertises (env : Environment) (localIps : List String) (start : NodeSystem)
    (events : List NodeEvent) (system : NodeSystem) : Prop where
  /-- The nodes placed in a response, by the next event at the latest. -/
  placed : ∀ event next, step env system event = some next → ∀ datagram ∈ next.node.sent,
    Truthful env.config localIps (Heard env start events) datagram.message
  /-- When a query is answered, its closest contacts can be packed. -/
  packs : ∀ msg source method remoteId now target, target.length = 20 → ∃ contacts,
    (DHTNode.greeted env msg source method remoteId system.node).routing.closest env.config now
        target DHT_K true = .ok contacts ∧
      ∀ contact ∈ contacts, ∃ packed,
        compactNode contact.nodeId (contact.ip, contact.port) = .ok packed

/-- In every run the node advertises only contacts whose endpoint is allowed and
which have answered from there before. -/
theorem run_advertises (env : Environment) (nodeId : Bytes) (candidates : CandidateManager)
    (txCounter : Nat) (localIps : List String) (start : NodeSystem)
    (made : new env nodeId candidates txCounter localIps = .ok start) (events : List NodeEvent)
    (system : NodeSystem) (ran : Transition.run (step env) start events = some system) :
    Advertises env localIps start events system := by
  have upheld := run_upheld made ran
  rcases run_matched made ran with ⟨limit, accounted⟩
  constructor
  · intro event next taken
    exact (upheld.runStep accounted ran taken).node.sent
  · intro msg source method remoteId now target length
    have met := (DHTNode.greet_sound msg source method remoteId).after upheld.node
    have vouched := met.routing.contacts
    rcases RoutingTable.closest_ok env.config (fun contact member => (vouched contact member).length) now
      length DHT_K true with ⟨contacts, found⟩
    refine ⟨contacts, found, fun contact member => ?_⟩
    have facts := RoutingTable.closest_mem found contact member
    have known := vouched contact facts.1
    have answered := known.answered (Contact.marked_of_good (facts.2.2 rfl))
    rcases compactNode_packs known.length answered.1 with ⟨packed, isPacked, _⟩
    exact ⟨packed, isPacked⟩

/-- A bootstrap node answers, and is then told to someone who looks for nodes. -/
def introduced : List NodeEvent :=
  [.connect,
    .query
      { caller := .bootstrap, endpoint := ("8.8.8.8", 6881), method := ascii "ping", args := [],
        expectedNodeId := none },
    .grant 0, .launch 0,
    .datagram (ascii "d1:rd2:id20:abcdefghijklmnopqrste1:t2:\x00\x081:y1:re") ("8.8.8.8", 6881),
    .resume 0,
    .datagram (ascii ("d1:ad2:id20:qrstuvwxyzabcdefghij6:target20:klmnopqrstuvwxyzabcde1:q9:find_node" ++
      "1:t2:aa1:y1:qe")) ("9.9.9.9", 6881)]

theorem run_advertises_sample : ∃ start system, quietNode = .ok start ∧
    Transition.run (step quietWorld) start introduced = some system ∧
    Advertises quietWorld ["127.0.0.1"] start introduced system := by
  rcases quiet_check (show (quietNode.toOption.bind fun start =>
      (Transition.run (step quietWorld) start introduced).map fun _ => true) = some true
      by decide +kernel) with ⟨start, system, made, ran, _⟩
  exact ⟨start, system, made, ran, run_advertises quietWorld _ _ _ _ start made introduced
    system ran⟩

end NodeSystem

end PyDht
