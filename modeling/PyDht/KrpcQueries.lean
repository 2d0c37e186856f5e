import PyDht.KrpcReplies

set_option autoImplicit false

namespace PyDht

open Effects (Ensures Preserves)

namespace DHTNode

/-- The property survives that the message goes out to the endpoint. -/
def Outgoing (inv : DHTNode → Prop) (message : Message) (endpoint : Endpoint) : Prop :=
  ∀ node payload, inv node → inv { node with
    sent := node.sent ++ [{ message, payload, endpoint, tick := node.ticks }] }

theorem send_preserves {inv : DHTNode → Prop} {message : Message} {endpoint : Endpoint}
    (outgoing : Outgoing inv message endpoint) : Preserves inv (send message endpoint) := by
  apply Preserves.get
  intro node holds
  have kept : ∀ state, state = node → inv state := fun state same => same ▸ holds
  have connected : Ensures (· = node) (Effects.check node.connected
      (PyError.dhtError "UDP transport not ready")) (fun _ => (· = node)) (fun _ => inv) :=
    Ensures.check (fun _ _ same => same) fun _ => kept
  apply Ensures.bind connected
  intro _
  apply Ensures.raiseBind _ fun _ _ => kept
  intro payload _
  have small : Ensures (· = node) (Effects.check
      (decide (payload.length ≤ MAX_DHT_RESPONSE_BYTES)) (PyError.dhtError
        "outbound DHT datagram exceeds 1024-byte protocol limit"))
      (fun _ => (· = node)) (fun _ => inv) :=
    Ensures.check (fun _ _ same => same) fun _ => kept
  apply Ensures.bind small
  intro _
  exact Ensures.set fun _ _ => outgoing node payload holds

theorem error_has_no_response (env : Environment) (tid : Bytes) (value : Value) :
    ((base env tid "e").set "e" value).get? "r" = none := by
  rw [Message.get?_set_ne (by decide)]
  simp [base, Message.get?, Dict.get?, ascii]

theorem sendError_preserves {inv : DHTNode → Prop} (noting : Noting inv) {endpoint : Endpoint}
    (outgoing : ∀ message : Message, message.get? "r" = none → Outgoing inv message endpoint)
    (env : Environment) (tid : Bytes) (code : Int) (text : String)
    (associatedQuery : Option Bytes) :
    Preserves inv (sendError env tid code text endpoint associatedQuery) := by
  apply Preserves.bind
  · apply Preserves.tryCatch
    · exact send_preserves (outgoing _ (error_has_no_response env tid _))
    · intro fault
      split
      · exact Preserves.pure ()
      · exact Preserves.throw fault
  · intro _
    exact noting.emit rfl

/-- Without samples to report, the evidence of a response is only emitted. -/
theorem Idle.emitResponseEvidence {inv : DHTNode → Prop} (idle : Idle inv) (env : Environment)
    (msg : Message) (endpoint : Endpoint) {query : Bytes}
    (other : query ≠ ascii "sample_infohashes") (direction : Direction) :
    Preserves inv (DHTNode.emitResponseEvidence env msg endpoint query direction) := by
  apply Preserves.bind (Preserves.when fun sampling => absurd (by simpa using sampling) other)
  intro _
  apply Preserves.bind (idle.emitValues 0 _)
  intro _
  exact idle.emit _

/-- What the answer to a query may do to a node. The response was made by the
time `turn`, and what went out went out later. -/
structure Responded (env : Environment) (start : DHTNode) (method : Bytes) (args : Message)
    (endpoint : Endpoint) (turn : Nat) (node : DHTNode) : Prop where
  nodeId : node.nodeId = start.nodeId
  localIps : node.localIps = start.localIps
  routing : node.routing = start.routing
  pending : node.pending = start.pending
  pendingSlots : node.pendingSlots = start.pendingSlots
  connected : node.connected = start.connected
  begun : start.ticks ≤ turn
  ticks : turn ≤ node.ticks
  tokens : node.tokens = start.tokens ∨ ∃ tick, start.ticks ≤ tick ∧ tick < turn ∧
    TokenManager.rotateIfDue env (env.monotonicNs tick) start.tokens = .ok node.tokens
  store : ∀ entry ∈ node.peerStore.entries, entry ∈ start.peerStore.entries ∨
    (method = ascii "announce_peer" ∧ entry.2.1.1 = endpoint.1 ∧
      Passes env start endpoint.1 (Value.asBytes (args.get? "token")))
  untouched : method = ascii "announce_peer" →
    ¬ Passes env start endpoint.1 (Value.asBytes (args.get? "token")) → Untouched start node
  sent : ∀ datagram ∈ node.sent, datagram ∈ start.sent ∨
    (datagram.endpoint = endpoint ∧ turn ≤ datagram.tick ∧ datagram.tick ≤ node.ticks ∧
      ∀ response, Value.asDict (datagram.message.get? "r") = some response →
        Sincere env start turn node method endpoint.1 response)

section responded

variable {env : Environment} {start : DHTNode} {method : Bytes} {args : Message}
  {endpoint : Endpoint} {turn : Nat}

theorem Responded.ofReplied {node : DHTNode}
    (replied : Replied env start method args endpoint node) :
    Responded env start method args endpoint node.ticks node where
  nodeId := replied.1.nodeId
  localIps := replied.1.localIps
  routing := replied.1.routing
  pending := replied.1.pending
  pendingSlots := replied.1.pendingSlots
  connected := replied.1.connected
  begun := replied.1.ticks
  ticks := Nat.le_refl _
  tokens := replied.1.tokens
  store := replied.1.store
  untouched := replied.2
  sent _ member := .inl (replied.1.sent ▸ member)

theorem Responded.refl (env : Environment) (start : DHTNode) (method : Bytes) (args : Message)
    (endpoint : Endpoint) : Responded env start method args endpoint start.ticks start :=
  .ofReplied ⟨Working.refl env start _, fun _ _ => ⟨rfl, rfl⟩⟩

theorem Sincere.congr {node other : DHTNode} {ip : String} {response : Message}
    (sincere : Sincere env start turn node method ip response)
    (routing : other.routing = node.routing) (tokens : other.tokens = node.tokens) :
    Sincere env start turn other method ip response :=
  ⟨fun raw found => routing ▸ sincere.nodes raw found,
    fun token found => tokens ▸ sincere.token token found⟩

theorem Responded.idle (env : Environment) (start : DHTNode) (method : Bytes) (args : Message)
    (endpoint : Endpoint) (turn : Nat) :
    Idle (Responded env start method args endpoint turn) where
  ticks _ responded := { responded with
    ticks := Nat.le_succ_of_le responded.ticks
    sent := fun datagram member => (responded.sent datagram member).imp_right
      fun ⟨goal, later, before, sincere⟩ => ⟨goal, later, Nat.le_succ_of_le before,
        fun response found => (sincere response found).congr rfl rfl⟩ }
  emitted _ _ responded := { responded with
    sent := fun datagram member => (responded.sent datagram member).imp_right
      fun ⟨goal, later, before, sincere⟩ => ⟨goal, later, before,
        fun response found => (sincere response found).congr rfl rfl⟩ }

/-- Unless the query is an announcement, nothing is said about the candidates. -/
theorem Responded.quiet (env : Environment) (start : DHTNode) (method : Bytes) (args : Message)
    (endpoint : Endpoint) (turn : Nat) (other : method ≠ ascii "announce_peer") :
    Quiet (Responded env start method args endpoint turn) where
  toIdle := Responded.idle env start method args endpoint turn
  candidates _ _ responded := { responded with
    untouched := fun same => absurd same other
    sent := fun datagram member => (responded.sent datagram member).imp_right
      fun ⟨goal, later, before, sincere⟩ => ⟨goal, later, before,
        fun response found => (sincere response found).congr rfl rfl⟩ }

theorem Responded.outgoing {message : Message} {node : DHTNode} {payload : Bytes}
    (responded : Responded env start method args endpoint turn node)
    (sincere : ∀ response, Value.asDict (message.get? "r") = some response →
      Sincere env start turn node method endpoint.1 response) :
    Responded env start method args endpoint turn { node with
      sent := node.sent ++ [{ message, payload, endpoint, tick := node.ticks }] } :=
  { responded with
    sent := by
      intro datagram member
      rcases List.mem_append.mp member with old | new
      · rcases responded.sent datagram old with before | ⟨goal, later, early, told⟩
        · exact .inl before
        · exact .inr ⟨goal, later, early, fun response found =>
            (told response found).congr rfl rfl⟩
      · rw [List.mem_singleton.mp new]
        exact .inr ⟨rfl, responded.ticks, Nat.le_refl _, fun response found =>
          (sincere response found).congr rfl rfl⟩ }

theorem Responded.sendError (turn : Nat) (tid : Bytes) (code : Int) (text : String)
    (associatedQuery : Option Bytes) :
    Preserves (Responded env start method args endpoint turn)
      (sendError env tid code text endpoint associatedQuery) := by
  apply sendError_preserves (Responded.idle env start method args endpoint turn).noting
  intro message none node payload responded
  apply responded.outgoing
  intro response found
  simp [none, Value.asDict] at found

theorem response_entry (env : Environment) (tid : Bytes) (response : Message) :
    Value.asDict (((base env tid "r").set "r" (.dict response)).get? "r") = some response := by
  rw [Message.get?_set_self]
  rfl

/-- The node after the answer, for whatever time the response was made. -/
def Answered (env : Environment) (start : DHTNode) (method : Bytes) (args : Message)
    (endpoint : Endpoint) (node : DHTNode) : Prop :=
  ∃ turn, Responded env start method args endpoint turn node

theorem Answered.idle (env : Environment) (start : DHTNode) (method : Bytes) (args : Message)
    (endpoint : Endpoint) : Idle (Answered env start method args endpoint) where
  ticks node answered := by
    rcases answered with ⟨turn, responded⟩
    exact ⟨turn, (Responded.idle env start method args endpoint turn).ticks node responded⟩
  emitted node emitted answered := by
    rcases answered with ⟨turn, responded⟩
    exact ⟨turn, (Responded.idle env start method args endpoint turn).emitted node emitted
      responded⟩

theorem Answered.sendError (tid : Bytes) (code : Int) (text : String)
    (associatedQuery : Option Bytes) :
    Preserves (Answered env start method args endpoint)
      (sendError env tid code text endpoint associatedQuery) := by
  intro node answered
  rcases answered with ⟨turn, responded⟩
  exact (Responded.sendError turn tid code text associatedQuery).ensures
    (fun _ holds => holds) (fun _ _ holds => ⟨turn, holds⟩) (fun _ _ holds => ⟨turn, holds⟩)
    node responded

/-- The evidence of the response that went out concerns the candidates only
when samples were asked for. -/
theorem Answered.evidence (msg : Message) :
    Preserves (Answered env start method args endpoint)
      (emitResponseEvidence env msg endpoint method .outgoing) := by
  by_cases sampling : method = ascii "sample_infohashes"
  · intro node answered
    rcases answered with ⟨turn, responded⟩
    have other : method ≠ ascii "announce_peer" := by
      rw [sampling]
      decide
    exact ((Responded.quiet env start method args endpoint turn other).emitResponseEvidence env
      msg endpoint method .outgoing).ensures (fun _ holds => holds)
      (fun _ _ holds => ⟨turn, holds⟩) (fun _ _ holds => ⟨turn, holds⟩) node responded
  · exact (Answered.idle env start method args endpoint).emitResponseEvidence env msg endpoint
      sampling .outgoing

/-- The response is made but not sent. -/
def Ready (env : Environment) (start : DHTNode) (method : Bytes) (args : Message)
    (endpoint : Endpoint) (response : Message) (node : DHTNode) : Prop :=
  ∃ turn, Responded env start method args endpoint turn node ∧
    Sincere env start turn node method endpoint.1 response

theorem Ready.answered {response : Message} {node : DHTNode}
    (ready : Ready env start method args endpoint response node) :
    Answered env start method args endpoint node :=
  ready.imp fun _ made => made.1

theorem Ready.outgoing (tid : Bytes) (response : Message) :
    Outgoing (Ready env start method args endpoint response)
      ((base env tid "r").set "r" (.dict response)) endpoint := by
  intro node payload ready
  rcases ready with ⟨turn, responded, sincere⟩
  have told : ∀ answer, Value.asDict (((base env tid "r").set "r" (.dict response)).get? "r") =
      some answer → Sincere env start turn node method endpoint.1 answer := by
    intro answer found
    rw [response_entry, Option.some.injEq] at found
    exact found ▸ sincere
  exact ⟨turn, responded.outgoing told, sincere.congr rfl rfl⟩

theorem respond_ensures (env : Environment) (tid method : Bytes) (args : Message)
    (endpoint : Endpoint) (msg : Message) (start : DHTNode) :
    Ensures (· = start) (respond env tid method args endpoint msg)
      (fun _ => Answered env start method args endpoint)
      (fun _ => Answered env start method args endpoint) := by
  have answered : ∀ node, Replied env start method args endpoint node →
      Answered env start method args endpoint node :=
    fun node replied => ⟨node.ticks, .ofReplied replied⟩
  apply Ensures.bind ((reply_ensures env method args endpoint msg start).raises
    fun _ => answered)
  intro response
  cases response with
  | none =>
      have idle := Answered.idle env start method args endpoint
      have refuse : Preserves (Answered env start method args endpoint) (do
          Effects.when ([ascii "get", ascii "put"].contains method)
            (emit (.bep44Observation method endpoint))
          sendError env tid 204 "Method Unknown" endpoint (some method)) := by
        apply Preserves.bind (Preserves.when fun _ => idle.emit _)
        intro _
        exact Answered.sendError tid 204 "Method Unknown" (some method)
      exact refuse.ensures (fun node holds => answered node holds.1) (fun _ _ holds => holds)
        fun _ _ holds => holds
  | some response =>
      -- the message is encoded twice: once to check its size, once to send it
      let ready := Ready env start method args endpoint response
      have deliver : Ensures ready (do
          let payload ← Effects.raise
            (Bencode.encode (.dict ((base env tid "r").set "r" (.dict response))))
          Effects.check (decide (payload.length ≤ MAX_DHT_RESPONSE_BYTES))
            (.krpcError 202 "Response too large")
          send ((base env tid "r").set "r" (.dict response)) endpoint
          Effects.when (env.config.debugFullKrpcJsonl || [ascii "get_peers",
              ascii "announce_peer", ascii "sample_infohashes"].contains method)
            (emitResponseEvidence env ((base env tid "r").set "r" (.dict response)) endpoint
              method .outgoing))
          (fun _ => Answered env start method args endpoint)
          (fun _ => Answered env start method args endpoint) := by
        apply Ensures.raiseBind _ fun _ _ _ holds => holds.answered
        intro payload _
        have small : Preserves ready (Effects.check
            (decide (payload.length ≤ MAX_DHT_RESPONSE_BYTES))
            (PyError.krpcError 202 "Response too large")) := Preserves.check _ _
        apply Ensures.bind (small.returns fun _ holds => holds.answered)
        intro _
        have gone : Preserves ready
            (send ((base env tid "r").set "r" (.dict response)) endpoint) :=
          send_preserves (Ready.outgoing tid response)
        apply Ensures.bind (gone.returns fun _ holds => holds.answered)
        intro _
        have evidence : Preserves (Answered env start method args endpoint) (Effects.when
            (env.config.debugFullKrpcJsonl || [ascii "get_peers", ascii "announce_peer",
              ascii "sample_infohashes"].contains method)
            (emitResponseEvidence env ((base env tid "r").set "r" (.dict response)) endpoint
              method .outgoing)) := Preserves.when fun _ => Answered.evidence _
        exact evidence.ensures (fun _ holds => holds.answered) (fun _ _ holds => holds)
          fun _ _ holds => holds
      exact deliver.weaken
        (fun node holds => ⟨node.ticks, .ofReplied holds.1, holds.2 response rfl⟩)
        (fun _ _ holds => holds) fun _ _ holds => holds

end responded

/-- What meeting the sender of a query may do to a node. -/
structure Greeted (start node : DHTNode) : Prop where
  same : node = { start with
    routing := node.routing, ticks := node.ticks, emitted := node.emitted }
  ticks : start.ticks ≤ node.ticks

theorem Greeted.idle (start : DHTNode) : Idle (Greeted start) where
  ticks node greeted := by
    refine ⟨?_, Nat.le_succ_of_le greeted.ticks⟩
    rw [greeted.same]
  emitted node emitted greeted := by
    refine ⟨?_, greeted.ticks⟩
    rw [greeted.same]

theorem Greeted.meet (start : DHTNode) (env : Environment) (nodeId : Bytes) (endpoint : Endpoint)
    (sighting : Sighting) : Preserves (Greeted start) (meet env nodeId endpoint sighting) := by
  apply (Greeted.idle start).noting.meet
  intro node _ observed met _
  refine ⟨?_, met.ticks⟩
  rw [met.same]

theorem greet_preserves (start : DHTNode) (env : Environment) (msg : Message)
    (endpoint : Endpoint) (method remoteId : Bytes) :
    Preserves (Greeted start) (greet env msg endpoint method remoteId) :=
  (Greeted.idle start).noting.greet env msg endpoint method remoteId fun sighting _ =>
    Greeted.meet start env remoteId endpoint sighting

/-- The node that answers a query, once it has met the sender. -/
def greeted (env : Environment) (msg : Message) (endpoint : Endpoint) (method remoteId : Bytes)
    (node : DHTNode) : DHTNode :=
  Effects.after (greet env msg endpoint method remoteId) node

theorem greeted_greeted (env : Environment) (msg : Message) (endpoint : Endpoint)
    (method remoteId : Bytes) (node : DHTNode) :
    Greeted node (greeted env msg endpoint method remoteId node) :=
  (greet_preserves node env msg endpoint method remoteId).after ⟨rfl, Nat.le_refl _⟩

/-- The message is a query with the given method, arguments and sender. -/
structure Asks (msg : Message) (method : Bytes) (args : Message) (remoteId : Bytes) : Prop where
  query : Value.asBytes (msg.get? "q") = some method
  arguments : Value.asDict (msg.get? "a") = some args
  sender : Value.asKey (args.get? "id") = some remoteId

/-- What a query may do to a node. One that is refused at once does no more than
an announcement without a token. -/
def Queried (env : Environment) (msg : Message) (endpoint : Endpoint) (start node : DHTNode) :
    Prop :=
  Answered env start (ascii "announce_peer") [] endpoint node ∨
    ∃ method args remoteId, Asks msg method args remoteId ∧
      Answered env (greeted env msg endpoint method remoteId start) method args endpoint node

/-- Answering a query leaves the node's own queries alone. -/
theorem Queried.pending {env : Environment} {msg : Message} {endpoint : Endpoint}
    {start node : DHTNode} (queried : Queried env msg endpoint start node) :
    node.pending = start.pending ∧ node.pendingSlots = start.pendingSlots := by
  rcases queried with ⟨turn, responded⟩ | ⟨method, args, remoteId, _, turn, responded⟩
  · exact ⟨responded.pending, responded.pendingSlots⟩
  · have met := (greeted_greeted env msg endpoint method remoteId start).same
    have pending := responded.pending
    have pendingSlots := responded.pendingSlots
    rw [met] at pending pendingSlots
    exact ⟨pending, pendingSlots⟩

theorem Answered.refl (env : Environment) (start : DHTNode) (method : Bytes) (args : Message)
    (endpoint : Endpoint) : Answered env start method args endpoint start :=
  ⟨start.ticks, Responded.refl env start method args endpoint⟩

theorem refuse_ensures (env : Environment) (msg : Message) (endpoint : Endpoint)
    (start : DHTNode) (tid : Bytes) (code : Int) (text : String) :
    Ensures (· = start) (sendError env tid code text endpoint none)
      (fun _ => Queried env msg endpoint start) (fun _ => Queried env msg endpoint start) :=
  (Answered.sendError tid code text none).ensures
    (fun _ same => same ▸ Answered.refl env start (ascii "announce_peer") [] endpoint)
    (fun _ _ holds => .inl holds) fun _ _ holds => .inl holds

theorem handleQuery_ensures (env : Environment) (msg : Message) (endpoint : Endpoint)
    (start : DHTNode) :
    Ensures (· = start) (handleQuery env msg endpoint)
      (fun _ => Queried env msg endpoint start) (fun _ => Queried env msg endpoint start) := by
  unfold handleQuery
  dsimp only
  split
  · rename_i method args isMethod isArgs
    split
    · exact refuse_ensures env msg endpoint start _ 203 "Invalid node ID"
    · rename_i remoteId isRemoteId
      have asks : Asks msg method args remoteId := ⟨isMethod, isArgs, isRemoteId⟩
      have answers : ∀ node, Answered env (greeted env msg endpoint method remoteId start) method
          args endpoint node → Queried env msg endpoint start node :=
        fun node answered => .inr ⟨method, args, remoteId, asks, answered⟩
      have met : Ensures (· = start) (greet env msg endpoint method remoteId)
          (fun _ node => node = greeted env msg endpoint method remoteId start)
          (fun _ => Queried env msg endpoint start) :=
        (Ensures.leaves (greet env msg endpoint method remoteId) start).raises
          fun _ node same => answers node (same ▸ Answered.refl env _ method args endpoint)
      apply Ensures.bind met
      intro _
      apply Ensures.tryCatch ((respond_ensures env _ method args endpoint msg _).weaken
        (fun _ holds => holds) (fun _ => answers) (fun _ _ holds => holds))
      intro fault
      have failed : ∀ code text, Ensures
          (Answered env (greeted env msg endpoint method remoteId start) method args endpoint)
          (sendError env ((Value.asBytes (msg.get? "t")).getD []) code text endpoint (some method))
          (fun _ => Queried env msg endpoint start) (fun _ => Queried env msg endpoint start) :=
        fun code text => (Answered.sendError _ code text (some method)).ensures
          (fun _ holds => holds) (fun _ => answers) fun _ => answers
      split
      · exact failed _ _
      · split
        · exact failed _ _
        · exact Ensures.throw answers
  · exact refuse_ensures env msg endpoint start _ 203 "Protocol Error"

end DHTNode

end PyDht
