import PyDht.KrpcQueries
import PyDht.KrpcResponses
import PyDht.NodeSystem
import PyDht.RoutingEntries

set_option autoImplicit false

namespace PyDht

open Effects (Ensures Preserves)

/-- A contact with a mark of life answered from its endpoint, as far as `heard` tells. -/
structure Vouched (config : Config) (localIps : List String) (heard : Bytes → Endpoint → Prop)
    (contact : Contact) : Prop where
  length : contact.nodeId.length = 20
  answered : contact.lastResponseNs ≠ none ∨ contact.everResponded = true →
    endpointAllowed config localIps contact.ip contact.port = true ∧
      heard contact.nodeId (contact.ip, contact.port)

section vouched

variable {config : Config} {localIps : List String} {heard : Bytes → Endpoint → Prop}

/-- A sighting that is no answer leaves the endpoint and the marks of life alone. -/
theorem Contact.refresh_silent (contact : Contact) (now : Int) (ip : String) (port : Int)
    {sighting : Sighting} (silent : sighting.directResponse = false) :
    (contact.refresh now ip port sighting).ip = contact.ip ∧
      (contact.refresh now ip port sighting).port = contact.port ∧
      (contact.refresh now ip port sighting).lastResponseNs = contact.lastResponseNs ∧
      (contact.refresh now ip port sighting).everResponded = contact.everResponded := by
  by_cases same : contact.ip = ip ∧ contact.port = port
  · rcases same with ⟨rfl, rfl⟩
    by_cases asked : sighting.incomingQuery = true <;>
      simp [Contact.refresh, silent, asked]
  · by_cases asked : sighting.incomingQuery = true <;>
      simp [Contact.refresh, silent, asked, same]

theorem Contact.refresh_direct (contact : Contact) (now : Int) (ip : String) (port : Int)
    {sighting : Sighting} (direct : sighting.directResponse = true) :
    (contact.refresh now ip port sighting).ip = ip ∧
      (contact.refresh now ip port sighting).port = port := by
  by_cases asked : sighting.incomingQuery = true <;>
    simp [Contact.refresh, direct, asked]

theorem Vouched.refresh {contact : Contact} (vouched : Vouched config localIps heard contact)
    (now : Int) {ip : String} {port : Int} {sighting : Sighting}
    (direct : sighting.directResponse = true → endpointAllowed config localIps ip port = true ∧
      heard contact.nodeId (ip, port)) :
    Vouched config localIps heard (contact.refresh now ip port sighting) := by
  have sameId := contact.refresh_nodeId now ip port sighting
  refine ⟨sameId.symm ▸ vouched.length, ?_⟩
  intro marked
  rw [sameId]
  by_cases isDirect : sighting.directResponse = true
  · have moved := contact.refresh_direct now ip port isDirect
    rw [moved.1, moved.2]
    exact direct isDirect
  · have kept := contact.refresh_silent now ip port (by simpa using isDirect)
    rw [kept.2.2.1, kept.2.2.2] at marked
    rw [kept.1, kept.2.1]
    exact vouched.answered marked

theorem Vouched.candidate {nodeId : Bytes} (length : nodeId.length = 20) (now : Int) {ip : String}
    {port : Int} {sighting : Sighting}
    (direct : sighting.directResponse = true → endpointAllowed config localIps ip port = true ∧
      heard nodeId (ip, port)) :
    Vouched config localIps heard (Contact.candidate nodeId now ip port sighting) := by
  refine ⟨length, ?_⟩
  intro marked
  apply direct
  by_contra silent
  simp [Contact.candidate, silent] at marked

theorem Vouched.failedOnce {contact : Contact} (vouched : Vouched config localIps heard contact) :
    Vouched config localIps heard (RoutingTable.failedOnce contact) :=
  ⟨vouched.length, vouched.answered⟩

theorem Vouched.mono {contact : Contact} {more : Bytes → Endpoint → Prop}
    (vouched : Vouched config localIps heard contact)
    (grows : ∀ nodeId endpoint, heard nodeId endpoint → more nodeId endpoint) :
    Vouched config localIps more contact :=
  ⟨vouched.length, fun marked => (vouched.answered marked).imp_right (grows _ _)⟩

/-- Only an answer makes a contact GOOD. -/
theorem Contact.marked_of_good {contact : Contact} {now : Int}
    (good : contact.state config now = .good) :
    contact.lastResponseNs ≠ none ∨ contact.everResponded = true := by
  unfold Contact.state at good
  split at good
  · cases good
  · dsimp only at good
    split at good
    · rename_i alive
      rcases Bool.or_eq_true_iff.mp alive with responsive | asked
      · left
        intro never
        simp [recent, never] at responsive
      · exact .inr (Bool.and_eq_true_iff.mp asked).1
    · cases good

end vouched

/-- The nodes in a message are placed with endpoints that are allowed and heard of. -/
def Truthful (config : Config) (localIps : List String) (heard : Bytes → Endpoint → Prop)
    (message : Message) : Prop :=
  ∀ response raw, Value.asDict (message.get? "r") = some response →
    Value.asBytes (response.get? "nodes") = some raw →
    ∃ placed, parseCompactNodes raw = .ok placed ∧ ∀ entry ∈ placed,
      endpointAllowed config localIps entry.2.1 entry.2.2 = true ∧ heard entry.1 entry.2

/-- A pending query goes to an endpoint that is allowed, and what it was
answered with came from there. -/
structure Awaited (config : Config) (localIps : List String) (heard : Bytes → Endpoint → Prop)
    (pending : PendingQuery) : Prop where
  allowed : endpointAllowed config localIps pending.endpoint.1 pending.endpoint.2 = true
  result : ∀ response nodeId, pending.future = .result response →
    Value.asKey (response.get? "id") = some nodeId → heard nodeId pending.endpoint

namespace DHTNode

/-- The invariant of a node: `told` is what its messages rest on, `heard` what
its table rests on. -/
structure Sound (config : Config) (ips : List String) (told heard : Bytes → Endpoint → Prop)
    (node : DHTNode) : Prop where
  localIps : node.localIps = ips
  routing : node.routing.Every (Vouched config ips heard)
  pending : ∀ entry ∈ node.pending, Awaited config ips heard entry.2
  sent : ∀ datagram ∈ node.sent, Truthful config ips told datagram.message

variable {env : Environment} {localIps : List String} {told heard : Bytes → Endpoint → Prop}

theorem sound_quiet (config : Config) (localIps : List String)
    (told heard : Bytes → Endpoint → Prop) : Quiet (Sound config localIps told heard) where
  ticks _ sound := { sound with }
  emitted _ _ sound := { sound with }
  candidates _ _ sound := { sound with }

theorem Sound.mono {config : Config} {node : DHTNode} {more : Bytes → Endpoint → Prop}
    (sound : Sound config localIps told heard node)
    (grows : ∀ nodeId endpoint, heard nodeId endpoint → more nodeId endpoint) :
    Sound config localIps told more node :=
  { sound with
    routing := sound.routing.mono fun _ vouched => vouched.mono grows
    pending := fun entry member => ⟨(sound.pending entry member).allowed,
      fun response nodeId done named =>
        grows _ _ ((sound.pending entry member).result response nodeId done named)⟩ }

/-- A sighting of a node; one that answers must have been heard of. -/
theorem meet_sound (nodeId : Bytes) (endpoint : Endpoint) (sighting : Sighting)
    (direct : sighting.directResponse = true →
      endpointAllowed env.config localIps endpoint.1 endpoint.2 = true ∧ heard nodeId endpoint) :
    Preserves (Sound env.config localIps told heard) (meet env nodeId endpoint sighting) := by
  apply (sound_quiet env.config localIps told heard).noting.meet
  intro node now observed sound ran
  have routing : observed.1.Every (Vouched env.config localIps heard) :=
    sound.routing.observe
      (fun contact vouched sameId => vouched.refresh now fun isDirect => sameId ▸ direct isDirect)
      (fun length => Vouched.candidate length now direct) ran
  exact { sound with routing }

theorem learnContacts_sound (emitChildren : Bool) (index : Nat)
    (contacts : List (Bytes × String × Int)) :
    Preserves (Sound env.config localIps told heard)
      (learnContacts env emitChildren index contacts) := by
  have quiet := sound_quiet env.config localIps told heard
  induction contacts generalizing index with
  | nil => exact Preserves.pure ()
  | cons contact rest ih =>
      apply Preserves.bind (Preserves.when fun _ => quiet.emit _)
      intro _
      apply Preserves.get
      intro node sound
      have met : Preserves (Sound env.config localIps told heard) (Effects.when
          (endpointAllowed env.config node.localIps contact.2.1 contact.2.2)
          (meet env contact.1 contact.2 {})) :=
        Preserves.when fun _ => meet_sound contact.1 contact.2 {} (by simp)
      exact (met.bind fun _ => ih (index + 1)).ensures (fun _ same => same ▸ sound)
        (fun _ _ holds => holds) fun _ _ holds => holds

theorem parseResponseContacts_sound (response : Message) (emitChildren : Bool) :
    Preserves (Sound env.config localIps told heard)
      (parseResponseContacts env response emitChildren) := by
  apply Preserves.bind (learnContacts_sound emitChildren 0 _)
  intro _
  exact Preserves.when fun _ => (sound_quiet env.config localIps told heard).noting.reportContacts6 0 _

theorem settle_sound {config : Config} (tid : Bytes) (outcome : QueryFuture)
    (pending : PendingQuery)
    (awaited : Awaited config localIps heard { pending with future := outcome }) :
    Preserves (Sound config localIps told heard) (settle tid outcome pending) := by
  unfold settle
  split
  · apply Preserves.modify
    intro node sound
    refine { sound with pending := fun entry member => ?_ }
    rcases Dict.mem_of_mem_set member with old | new
    · exact sound.pending entry old
    · exact new ▸ awaited
  · exact Preserves.pure ()

theorem acceptResponse_sound (msg : Message) (endpoint : Endpoint) (tid : Bytes)
    (pending : PendingQuery) (response : Message) (remoteId : Bytes)
    (allowed : endpointAllowed env.config localIps endpoint.1 endpoint.2 = true)
    (same : pending.endpoint = endpoint) (named : Value.asKey (response.get? "id") = some remoteId)
    (told' : heard remoteId endpoint) :
    Preserves (Sound env.config localIps told heard)
      (acceptResponse env msg endpoint tid pending response remoteId) := by
  apply Preserves.get
  intro node sound
  have introduced : Preserves (Sound env.config localIps told heard) (Effects.when
      (endpointAllowed env.config node.localIps endpoint.1 endpoint.2)
      (meet env remoteId endpoint
        { directResponse := true, clientVersion := Value.asBytes (msg.get? "v") })) :=
    Preserves.when fun _ => meet_sound remoteId endpoint _ fun _ => ⟨allowed, told'⟩
  have awaited : Awaited env.config localIps heard { pending with future := .result response } := by
    refine ⟨same.symm ▸ allowed, ?_⟩
    intro other nodeId done isNamed
    cases done
    rw [named, Option.some.injEq] at isNamed
    exact same.symm ▸ isNamed ▸ told'
  have rest : ∀ important : Bool, Preserves (Sound env.config localIps told heard) (do
      parseResponseContacts env response important
      Effects.when important (emitResponseEvidence env msg endpoint pending.query .incoming)
      settle tid (.result response) pending) := by
    intro important
    apply Preserves.bind (parseResponseContacts_sound response important)
    intro _
    apply Preserves.bind (Preserves.when fun _ =>
      (sound_quiet env.config localIps told heard).emitResponseEvidence env msg endpoint _ _)
    intro _
    exact settle_sound tid _ pending awaited
  exact (introduced.bind fun _ => rest _).ensures (fun _ same => same ▸ sound)
    (fun _ _ holds => holds) fun _ _ holds => holds

theorem handleResponseOrError_sound (msg : Message) (source : Endpoint) (start : DHTNode)
    (kind : Value.asBytes (msg.get? "y") = some (ascii "r") ∨
      Value.asBytes (msg.get? "y") = some (ascii "e"))
    (sound : Sound env.config localIps told heard start)
    (accepted : ∀ pending response nodeId, Accepted start msg source pending response nodeId →
      heard nodeId source) :
    Ensures (· = start) (handleResponseOrError env msg source)
      (fun _ => Sound env.config localIps told heard)
      (fun _ => Sound env.config localIps told heard) := by
  apply handleResponseOrError_rule (sound_quiet env.config localIps told heard).noting env msg
    source start kind sound
  · intro pending error isPending _ _
    have awaited := sound.pending _ (Dict.mem_of_get? isPending)
    exact settle_sound _ _ pending ⟨awaited.allowed, fun _ _ done => by cases done⟩
  · intro pending response remoteId accepts
    have awaited := sound.pending _ (Dict.mem_of_get? accepts.awaited)
    exact acceptResponse_sound msg source _ pending response remoteId
      (accepts.origin ▸ awaited.allowed) accepts.origin accepts.named
      (accepted pending response remoteId accepts)

/-- The nodes that a response advertises are read back, allowed and heard of. -/
theorem Advertised.placed {routing : RoutingTable} {raw : Bytes}
    (advertised : Advertised env.config routing raw)
    (every : routing.Every (Vouched env.config localIps heard)) :
    ∃ placed, parseCompactNodes raw = .ok placed ∧ ∀ entry ∈ placed,
      endpointAllowed env.config localIps entry.2.1 entry.2.2 = true ∧ heard entry.1 entry.2 := by
  rcases advertised with ⟨contacts, packs, known, packed, rfl⟩
  have answered : ∀ contact ∈ contacts, contact.nodeId.length = 20 ∧
      endpointAllowed env.config localIps contact.ip contact.port = true ∧
      heard contact.nodeId (contact.ip, contact.port) := by
    intro contact member
    rcases known contact member with ⟨inside, now, good⟩
    have vouched := every.contacts contact inside
    exact ⟨vouched.length, vouched.answered (Contact.marked_of_good good)⟩
  refine ⟨contacts.map fun contact => (contact.nodeId, contact.ip, contact.port),
    parseCompactNodes_flatten ?_, ?_⟩
  · rw [List.forall₂_map_left_iff]
    clear known
    induction packed with
    | nil => exact .nil
    | @cons contact pack rest others here _ ih =>
        have facts := answered contact (by simp)
        rcases compactNode_packs facts.1 facts.2.1 with ⟨expected, isExpected, packs⟩
        have same : expected = pack := Except.ok.inj (isExpected.symm.trans here)
        exact .cons (same ▸ packs) (ih fun other member =>
          answered other (List.mem_cons_of_mem _ member))
  · intro entry member
    rcases List.mem_map.mp member with ⟨contact, inside, rfl⟩
    exact (answered contact inside).2

theorem Answered.sound {start node : DHTNode} {method : Bytes} {args : Message}
    {source : Endpoint} (sound : Sound env.config localIps heard heard start)
    (answered : Answered env start method args source node) :
    Sound env.config localIps heard heard node := by
  rcases answered with ⟨turn, responded⟩
  refine ⟨responded.localIps.trans sound.localIps, responded.routing ▸ sound.routing,
    responded.pending ▸ sound.pending, ?_⟩
  intro datagram member response raw isResponse isNodes
  rcases responded.sent datagram member with old | ⟨_, _, _, sincere⟩
  · exact sound.sent datagram old response raw isResponse isNodes
  · have advertised := (sincere response isResponse).nodes raw isNodes
    rw [responded.routing] at advertised
    exact advertised.placed sound.routing

theorem greet_sound (msg : Message) (source : Endpoint) (method remoteId : Bytes) :
    Preserves (Sound env.config localIps told heard) (greet env msg source method remoteId) :=
  (sound_quiet env.config localIps told heard).noting.greet env msg source method remoteId
    fun sighting silent => meet_sound remoteId source sighting (by simp [silent])

theorem Queried.sound {start node : DHTNode} {msg : Message} {source : Endpoint}
    (sound : Sound env.config localIps heard heard start)
    (queried : Queried env msg source start node) :
    Sound env.config localIps heard heard node := by
  rcases queried with refused | ⟨method, args, remoteId, _, answered⟩
  · exact refused.sound sound
  · exact answered.sound ((greet_sound msg source method remoteId).after sound)

/-- A datagram adds to what the table rests on only a response that is accepted;
what is sent in return rests on what was heard before. -/
theorem datagramReceived_sound {more : Bytes → Endpoint → Prop} (data : Bytes)
    (source : Endpoint) (start : DHTNode) (sound : Sound env.config localIps heard heard start)
    (grows : ∀ nodeId endpoint, heard nodeId endpoint → more nodeId endpoint)
    (accepted : ∀ msg pending response nodeId, data.length ≤ env.config.dhtReceiveMaxBytes →
      receive env.config data = .ok msg → Accepted start msg source pending response nodeId →
      more nodeId source) :
    Sound env.config localIps heard more
      (Effects.after (datagramReceived env data source) start) := by
  have grown := sound.mono grows
  have received := datagramReceived_rule (sound_quiet env.config localIps heard more).noting env
    data source start grown
    (fun msg _ _ _ _ => (handleQuery_ensures env msg source start).weaken
      (fun _ same => same) (fun _ _ holds => (Queried.sound sound holds).mono grows)
      fun _ _ holds => (Queried.sound sound holds).mono grows)
    (fun msg small isMessage kind => handleResponseOrError_sound msg source start kind grown
      fun pending response nodeId accepts =>
        accepted msg pending response nodeId small isMessage accepts)
  exact received.after rfl

end DHTNode

end PyDht
