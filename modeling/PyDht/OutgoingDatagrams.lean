import PyDht.KrpcSafety

set_option autoImplicit false

namespace PyDht

open Effects (Ensures Preserves Total)

/-- The payload is the encoding of the message and fits into a DHT datagram. -/
structure Sent.Sealed (datagram : Sent) : Prop where
  encoded : Bencode.encode (.dict datagram.message) = .ok datagram.payload
  short : datagram.payload.length ≤ MAX_DHT_RESPONSE_BYTES

namespace DHTNode

/-- The message is a response or an error under this transaction ID. -/
structure Answers (env : Environment) (tid : Bytes) (message : Message) : Prop where
  tid : transaction message = tid
  kind : Value.asBytes (message.get? "y") = some (ascii "r") ∨
    Value.asBytes (message.get? "y") = some (ascii "e")
  version : Value.asBytes (message.get? "v") = some env.config.dhtClientVersion

/-- At most one datagram was sent, to the endpoint and with such a message. -/
def Posts (start : DHTNode) (endpoint : Endpoint) (letter : Message → Prop) (node : DHTNode) :
    Prop :=
  node.sent = start.sent ∨ ∃ datagram, node.sent = start.sent ++ [datagram] ∧
    datagram.Sealed ∧ datagram.endpoint = endpoint ∧ letter datagram.message

theorem Posts.quiet (start : DHTNode) (endpoint : Endpoint) (letter : Message → Prop) :
    Quiet (Posts start endpoint letter) where
  ticks _ posts := posts
  emitted _ _ posts := posts
  candidates _ _ posts := posts

theorem base_answers (env : Environment) (tid : Bytes) {kind : String}
    (isAnswer : kind = "r" ∨ kind = "e") {key : String} (value : Value)
    (other : key = "r" ∨ key = "e") : Answers env tid ((base env tid kind).set key value) := by
  have apart : ∀ name : String, name = "t" ∨ name = "y" ∨ name = "v" → ascii name ≠ ascii key := by
    intro name named
    rcases named with rfl | rfl | rfl <;> rcases other with rfl | rfl <;> decide
  constructor
  · rw [transaction, Message.get?_set_ne (apart "t" (.inl rfl))]
    rfl
  · rw [Message.get?_set_ne (apart "y" (.inr (.inl rfl)))]
    rcases isAnswer with rfl | rfl
    · exact .inl rfl
    · exact .inr rfl
  · rw [Message.get?_set_ne (apart "v" (.inr (.inr rfl)))]
    rfl

section posts

variable {env : Environment} {start : DHTNode} {endpoint : Endpoint} {tid : Bytes}
  {letter : Message → Prop}

theorem send_posts {message : Message} (fits : letter message) :
    Ensures (fun node => node.sent = start.sent) (send message endpoint)
      (fun _ => Posts start endpoint letter) (fun _ node => node.sent = start.sent) := by
  apply Ensures.get
  intro node kept
  have still : ∀ state, state = node → state.sent = start.sent := fun state same => same ▸ kept
  have connected : Ensures (· = node) (Effects.check node.connected
      (PyError.dhtError "UDP transport not ready")) (fun _ => (· = node))
      (fun _ node => node.sent = start.sent) :=
    Ensures.check (fun _ _ same => same) fun _ => still
  apply connected.bind
  intro _
  apply Ensures.raiseBind _ fun _ _ => still
  intro payload encoded
  have small : Ensures (· = node) (Effects.check
      (decide (payload.length ≤ MAX_DHT_RESPONSE_BYTES)) (PyError.dhtError
        "outbound DHT datagram exceeds 1024-byte protocol limit"))
      (fun _ state => state = node ∧ payload.length ≤ MAX_DHT_RESPONSE_BYTES)
      (fun _ node => node.sent = start.sent) :=
    Ensures.check (fun fits _ same => ⟨same, of_decide_eq_true fits⟩) fun _ => still
  apply small.bind
  intro _
  apply Ensures.set
  intro _ holds
  exact .inr ⟨_, by rw [kept], ⟨encoded, holds.2⟩, rfl, fits⟩

theorem sendError_posts (code : Int) (text : String) (associatedQuery : Option Bytes) :
    Ensures (fun node => node.sent = start.sent)
      (sendError env tid code text endpoint associatedQuery)
      (fun _ => Posts start endpoint (Answers env tid)) (fun _ node => node.sent = start.sent) := by
  apply Ensures.bind
  · apply Ensures.tryCatch (send_posts (base_answers env tid (.inr rfl) _ (.inr rfl)))
    intro fault
    split
    · exact Ensures.pure fun _ kept => .inl kept
    · exact Ensures.throw fun _ kept => kept
  · intro _
    exact ((emit_total _).keeps ((Posts.quiet start endpoint _).emit _)).raises
      fun _ _ impossible => impossible.elim

/-- An answer is sent last of all that can fail. -/
theorem respond_posts (method : Bytes) (args msg : Message) :
    Ensures (fun node => node.sent = start.sent) (respond env tid method args endpoint msg)
      (fun _ => Posts start endpoint (Answers env tid)) (fun _ node => node.sent = start.sent) := by
  have replied : Ensures (fun node => node.sent = start.sent) (reply env method args endpoint msg)
      (fun _ node => node.sent = start.sent) (fun _ node => node.sent = start.sent) := by
    intro node kept
    exact (reply_ensures env method args endpoint msg node).weaken (fun _ same => same)
      (fun _ _ holds => holds.1.1.sent.trans kept) (fun _ _ holds => holds.1.sent.trans kept)
      node rfl
  apply replied.bind
  intro response
  cases response with
  | none =>
      have noted : Ensures (fun node : DHTNode => node.sent = start.sent)
          (Effects.when ([ascii "get", ascii "put"].contains method)
            (emit (.bep44Observation method endpoint)))
          (fun _ node => node.sent = start.sent) (fun _ node => node.sent = start.sent) :=
        Preserves.when fun _ => (sent_passive start).emit _
      apply noted.bind
      intro _
      exact sendError_posts 204 "Method Unknown" (some method)
  | some response =>
      apply Ensures.raiseBind _ fun _ _ _ kept => kept
      intro payload _
      have small : Ensures (fun node : DHTNode => node.sent = start.sent)
          (Effects.check (decide (payload.length ≤ MAX_DHT_RESPONSE_BYTES))
            (PyError.krpcError 202 "Response too large"))
          (fun _ node => node.sent = start.sent) (fun _ node => node.sent = start.sent) :=
        Preserves.check _ _
      apply small.bind
      intro _
      apply (send_posts (base_answers env tid (.inl rfl) _ (.inl rfl))).bind
      intro _
      exact ((Total.when (emitResponseEvidence_total env _ endpoint method _)).keeps
        (Preserves.when fun _ => (Posts.quiet start endpoint _).emitResponseEvidence env _
          endpoint method _)).raises fun _ _ impossible => impossible.elim

/-- A query is answered at most once, under its own transaction ID. -/
theorem handleQuery_posts (msg : Message) :
    Ensures (fun node => node.sent = start.sent) (handleQuery env msg endpoint)
      (fun _ => Posts start endpoint (Answers env (transaction msg)))
      (fun _ => Posts start endpoint (Answers env (transaction msg))) := by
  have failed : ∀ code text associated, Ensures (fun node => node.sent = start.sent)
      (sendError env (transaction msg) code text endpoint associated)
      (fun _ => Posts start endpoint (Answers env (transaction msg)))
      (fun _ => Posts start endpoint (Answers env (transaction msg))) :=
    fun code text associated => (sendError_posts code text associated).raises
      fun _ _ kept => .inl kept
  unfold handleQuery
  dsimp only
  split
  · rename_i method args _ _
    split
    · exact failed 203 "Invalid node ID" none
    · rename_i remoteId _
      have greets : Preserves (fun node => node.sent = start.sent)
          (greet env msg endpoint method remoteId) :=
        (sent_passive start).aside.roaming.greet env msg endpoint method remoteId
      apply (greets.returns fun _ kept => .inl kept).bind
      intro _
      apply Ensures.tryCatch (respond_posts method args msg)
      intro fault
      split
      · exact failed _ _ (some method)
      · split
        · exact failed 203 fault.text (some method)
        · exact Ensures.throw fun _ kept => .inl kept
  · exact failed 203 "Protocol Error" none

/-- A query that goes out goes out once. -/
theorem launch_posts (request : Request) :
    Ensures (· = start) (launch env request)
      (fun _ => Posts start request.endpoint fun message =>
        ∃ tid, message = queryMessage env start tid request)
      (fun _ => Posts start request.endpoint fun message =>
        ∃ tid, message = queryMessage env start tid request) := by
  let Unsent := fun node : DHTNode => node.sent = start.sent
  let Posted := Posts start request.endpoint fun message =>
    ∃ tid, message = queryMessage env start tid request
  have passive := sent_passive start
  have plain : ∀ {α : Type} {program : Node α}, Preserves Unsent program →
      Ensures Unsent program (fun _ => Unsent) (fun _ => Posted) :=
    fun preserves => preserves.returns fun _ kept => .inl kept
  apply Ensures.get
  intro node same
  rw [same]
  apply Ensures.raiseBind _ fun _ _ _ same => same ▸ .inl rfl
  intro named _
  dsimp only
  have begun : Ensures (· = start) (monotonicNs env) (fun _ => Unsent) (fun _ => Posted) :=
    (passive.monotonicNs env).ensures (fun _ same => same ▸ rfl) (fun _ _ kept => kept)
      fun _ _ kept => .inl kept
  apply begun.bind
  intro sentNs
  have entered : ∀ pending : PendingQuery, Ensures Unsent (modify fun node : DHTNode =>
      { node with txCounter := named.2, pending := Dict.set named.1 pending node.pending })
      (fun _ => Unsent) (fun _ => Posted) :=
    fun _ => plain (Preserves.modify fun _ kept => kept)
  apply (entered _).bind
  intro _
  apply (plain (Preserves.when fun _ => passive.emit _)).bind
  intro _
  have sends : Ensures Unsent
      (tryCatch (send (queryMessage env start named.1 request) request.endpoint) fun fault => do
        forget named.1
        throw fault)
      (fun _ => Posted) (fun _ => Posted) := by
    apply Ensures.tryCatch (send_posts ⟨named.1, rfl⟩)
    intro fault
    apply (plain (passive.unbooked.forget named.1)).bind
    intro _
    exact Ensures.throw fun _ kept => .inl kept
  apply sends.bind
  intro _
  exact Ensures.pure fun _ posts => posts

end posts

def Identified (nodeId : Bytes) (localIps : List String) (node : DHTNode) : Prop :=
  node.nodeId = nodeId ∧ node.localIps = localIps

theorem identified_passive (nodeId : Bytes) (localIps : List String) :
    Passive (Identified nodeId localIps) :=
  Passive.ofStock fun stock => stock.nodeId = nodeId ∧ stock.localIps = localIps

/-- Who the node is, and which addresses are its own, never changes. -/
theorem identified_lasting (env : Environment) (nodeId : Bytes) (localIps : List String) :
    Lasting env (Identified nodeId localIps) := by
  apply (identified_passive nodeId localIps).lasting env fun _ _ _ _ _ same => same
  intro msg source start same
  have queried : ∀ node, Queried env msg source start node → Identified nodeId localIps node := by
    rintro node (⟨turn, responded⟩ | ⟨method, args, remoteId, _, turn, responded⟩)
    · exact ⟨responded.nodeId.trans same.1, responded.localIps.trans same.2⟩
    · have met := (greeted_greeted env msg source method remoteId start).same
      have nodeId := responded.nodeId
      have localIps := responded.localIps
      rw [met] at nodeId localIps
      exact ⟨nodeId.trans same.1, localIps.trans same.2⟩
  exact (handleQuery_ensures env msg source start).weaken (fun _ same => same)
    (fun _ => queried) fun _ => queried

theorem queryMessage_kind (env : Environment) (node : DHTNode) (tid : Bytes) (request : Request) :
    Value.asBytes ((queryMessage env node tid request).get? "y") = some (ascii "q") := by
  unfold queryMessage
  dsimp only
  split <;> rfl

theorem queryMessage_congr {env : Environment} {node other : DHTNode}
    (same : node.nodeId = other.nodeId) (tid : Bytes) (request : Request) :
    queryMessage env node tid request = queryMessage env other tid request := by
  rw [queryMessage, queryMessage, same]

end DHTNode

theorem DHTNode.allowed_of_admitted {env : Environment} {request : Request} {node : DHTNode}
    (isAdmitted : node.admitted env request = .ok ()) :
    endpointAllowed env.config node.localIps request.endpoint.1 request.endpoint.2 = true := by
  unfold DHTNode.admitted at isAdmitted
  split at isAdmitted
  · cases isAdmitted
  · split at isAdmitted
    · cases isAdmitted
    · rename_i allowed
      simpa using allowed

/-- The datagram is a query with this transaction ID from the endpoint that the node answers. -/
def NodeEvent.asks (env : Environment) (endpoint : Endpoint) (tid : Bytes) : NodeEvent → Bool
  | .datagram data source =>
      decide (source = endpoint) && !env.config.dhtReadOnly &&
        decide ((data.length : Int) ≤ env.config.dhtReceiveMaxBytes) &&
        match DHTNode.receive env.config data with
        | .ok msg =>
            decide (Value.asBytes (msg.get? "y") = some (ascii "q")) &&
              decide (DHTNode.transaction msg = tid)
        | .error _ => false
  | _ => false

/-- A call of `query` for the endpoint. -/
def NodeEvent.calls (endpoint : Endpoint) : NodeEvent → Bool
  | .query request => decide (request.endpoint = endpoint)
  | _ => false

/-- A response or an error to the endpoint under the transaction ID. -/
def Sent.replies (endpoint : Endpoint) (tid : Bytes) (datagram : Sent) : Bool :=
  decide (datagram.endpoint = endpoint) && decide (DHTNode.transaction datagram.message = tid) &&
    decide (Value.asBytes (datagram.message.get? "y") ≠ some (ascii "q"))

/-- A query to the endpoint. -/
def Sent.queries (endpoint : Endpoint) (datagram : Sent) : Bool :=
  decide (datagram.endpoint = endpoint) &&
    decide (Value.asBytes (datagram.message.get? "y") = some (ascii "q"))

namespace NodeSystem

section ledger

variable {env : Environment} {start system next : NodeSystem} {events : List NodeEvent}
  {event : NodeEvent}

/-- The call was made, and the endpoint may be queried. -/
def Called (env : Environment) (start : NodeSystem) (events : List NodeEvent)
    (request : Request) : Prop :=
  .query request ∈ events ∧
    endpointAllowed env.config start.node.localIps request.endpoint.1 request.endpoint.2 = true

theorem Called.concat {request : Request} (called : Called env start events request)
    (event : NodeEvent) : Called env start (events ++ [event]) request :=
  ⟨List.mem_append_left _ called.1, called.2⟩

/-- The calls for an endpoint that have not been sent yet. -/
def outstanding (endpoint : Endpoint) (system : NodeSystem) : Nat :=
  (system.waiting ++ system.granted).countP fun entry => decide (entry.2.endpoint = endpoint)

/-- Why the datagram was sent: it answers, or a call asked for it. -/
def Licensed (env : Environment) (start : NodeSystem) (events : List NodeEvent)
    (datagram : Sent) : Prop :=
  (∃ tid, DHTNode.Answers env tid datagram.message) ∨
    ∃ request tid, Called env start events request ∧ datagram.endpoint = request.endpoint ∧
      datagram.message = DHTNode.queryMessage env start.node tid request

/-- What a node has sent in a run: well formed datagrams, each with a reason;
no more responses and errors to an endpoint under a transaction ID than it has
asked queries with it, and no more queries to an endpoint than calls for it. -/
structure Correspondence (env : Environment) (start : NodeSystem) (events : List NodeEvent)
    (system : NodeSystem) : Prop where
  nodeId : system.node.nodeId = start.node.nodeId
  localIps : system.node.localIps = start.node.localIps
  pursued : ∀ entry ∈ system.waiting ++ system.granted, Called env start events entry.2
  sealed : ∀ datagram ∈ system.node.sent, datagram.Sealed
  licensed : ∀ datagram ∈ system.node.sent, Licensed env start events datagram
  replies : ∀ endpoint tid, system.node.sent.countP (Sent.replies endpoint tid) ≤
    events.countP (NodeEvent.asks env endpoint tid)
  queries : ∀ endpoint, system.node.sent.countP (Sent.queries endpoint) +
    system.outstanding endpoint ≤ events.countP (NodeEvent.calls endpoint)

namespace Correspondence

/-- A step that sends nothing and pursues no call that is not pursued already. -/
theorem still (stands : Correspondence env start events system)
    (identity : next.node.nodeId = system.node.nodeId ∧ next.node.localIps = system.node.localIps)
    (sent : next.node.sent = system.node.sent)
    (kept : ∀ entry ∈ next.waiting ++ next.granted, entry ∈ system.waiting ++ system.granted)
    (fewer : ∀ endpoint, next.outstanding endpoint ≤ system.outstanding endpoint) :
    Correspondence env start (events ++ [event]) next where
  nodeId := identity.1.trans stands.nodeId
  localIps := identity.2.trans stands.localIps
  pursued entry member := (stands.pursued entry (kept entry member)).concat event
  sealed := by
    rw [sent]
    exact stands.sealed
  licensed := by
    rw [sent]
    intro datagram member
    refine (stands.licensed datagram member).imp_right ?_
    rintro ⟨request, tid, called, rest⟩
    exact ⟨request, tid, called.concat event, rest⟩
  replies endpoint tid := by
    have known := stands.replies endpoint tid
    rw [sent, List.countP_append]
    omega
  queries endpoint := by
    have known := stands.queries endpoint
    have still := fewer endpoint
    rw [sent, List.countP_append]
    omega

/-- A step that at most answers a query which the event has asked. -/
theorem answer (stands : Correspondence env start events system) {endpoint : Endpoint}
    (identity : next.node.nodeId = system.node.nodeId ∧ next.node.localIps = system.node.localIps)
    (posts : DHTNode.Posts system.node endpoint (fun message => ∃ tid,
      DHTNode.Answers env tid message ∧ event.asks env endpoint tid = true) next.node)
    (waiting : next.waiting = system.waiting) (granted : next.granted = system.granted) :
    Correspondence env start (events ++ [event]) next := by
  have same : next.waiting ++ next.granted = system.waiting ++ system.granted := by
    rw [waiting, granted]
  have fewer : ∀ endpoint, next.outstanding endpoint ≤ system.outstanding endpoint := by
    intro endpoint
    rw [outstanding, outstanding, same]
  rcases posts with sent | ⟨datagram, sent, isSealed, reaches, tid, answers, asked⟩
  · exact stands.still identity sent (fun _ member => same ▸ member) fewer
  have kind : Value.asBytes (datagram.message.get? "y") ≠ some (ascii "q") := by
    rcases answers.kind with isResponse | isError
    · rw [isResponse]
      decide
    · rw [isError]
      decide
  have before : Correspondence env start (events ++ [event]) { next with
      node := { next.node with sent := system.node.sent } } :=
    stands.still identity rfl (fun _ member => same ▸ member) fewer
  refine ⟨before.nodeId, before.localIps, before.pursued, ?_, ?_, ?_, ?_⟩
  · rw [sent]
    intro other member
    rcases List.mem_append.mp member with old | new
    · exact before.sealed other old
    · rw [List.mem_singleton.mp new]
      exact isSealed
  · rw [sent]
    intro other member
    rcases List.mem_append.mp member with old | new
    · exact before.licensed other old
    · rw [List.mem_singleton.mp new]
      exact .inl ⟨tid, answers⟩
  · intro target name
    have known := stands.replies target name
    rw [sent, List.countP_append, List.countP_append, List.countP_singleton, List.countP_singleton]
    by_cases counted : datagram.replies target name
    · have isTarget : endpoint = target ∧ tid = name := by
        simp only [Sent.replies, Bool.and_eq_true, decide_eq_true_eq] at counted
        exact ⟨reaches.symm.trans counted.1.1, answers.tid.symm.trans counted.1.2⟩
      rw [isTarget.1, isTarget.2] at asked
      rw [if_pos counted, if_pos asked]
      omega
    · rw [if_neg counted]
      omega
  · intro target
    have known := before.queries target
    have other : datagram.queries target = false := by
      simp [Sent.queries, kind]
    rw [sent, List.countP_append, List.countP_singleton, other]
    exact known

/-- A call that goes on leaves its place, with its query sent or not. -/
theorem launch (stands : Correspondence env start events system) {number : Nat} {request : Request}
    (found : Dict.get? number system.granted = some request)
    (identity : next.node.nodeId = system.node.nodeId ∧ next.node.localIps = system.node.localIps)
    (posts : DHTNode.Posts system.node request.endpoint (fun message =>
      ∃ tid, message = DHTNode.queryMessage env system.node tid request) next.node)
    (waiting : next.waiting = system.waiting)
    (granted : next.granted = Dict.pop number system.granted) :
    Correspondence env start (events ++ [event]) next := by
  have leaves : ∀ endpoint, next.outstanding endpoint +
      (if request.endpoint = endpoint then 1 else 0) ≤ system.outstanding endpoint := by
    intro endpoint
    have popped := Dict.countP_pop_of_mem
      (fun entry : Nat × Request => decide (entry.2.endpoint = endpoint))
      (Dict.mem_of_get? found)
    simp only [decide_eq_true_eq] at popped
    rw [outstanding, outstanding, waiting, granted, List.countP_append, List.countP_append]
    omega
  have kept : ∀ entry ∈ next.waiting ++ next.granted,
      entry ∈ system.waiting ++ system.granted := by
    intro entry member
    rw [waiting, granted] at member
    exact List.mem_append.mpr ((List.mem_append.mp member).imp_right Dict.mem_of_mem_pop)
  have before : Correspondence env start (events ++ [event]) { next with
      node := { next.node with sent := system.node.sent } } :=
    stands.still identity rfl kept
      fun endpoint => (Nat.le_add_right _ _).trans (leaves endpoint)
  rcases posts with sent | ⟨datagram, sent, isSealed, reaches, tid, isMessage⟩
  · exact stands.still identity sent kept
      fun endpoint => (Nat.le_add_right _ _).trans (leaves endpoint)
  have kind : Value.asBytes (datagram.message.get? "y") = some (ascii "q") := by
    rw [isMessage]
    exact DHTNode.queryMessage_kind env system.node tid request
  have called := (stands.pursued _ (List.mem_append_right _ (Dict.mem_of_get? found))).concat event
  refine ⟨before.nodeId, before.localIps, before.pursued, ?_, ?_, ?_, ?_⟩
  · rw [sent]
    intro other member
    rcases List.mem_append.mp member with old | new
    · exact before.sealed other old
    · rw [List.mem_singleton.mp new]
      exact isSealed
  · rw [sent]
    intro other member
    rcases List.mem_append.mp member with old | new
    · exact before.licensed other old
    · rw [List.mem_singleton.mp new]
      exact .inr ⟨request, tid, called, reaches,
        isMessage.trans (DHTNode.queryMessage_congr stands.nodeId tid request)⟩
  · intro endpoint name
    have known := before.replies endpoint name
    have other : datagram.replies endpoint name = false := by
      simp [Sent.replies, kind]
    rw [sent, List.countP_append, List.countP_singleton, other]
    exact known
  · intro endpoint
    have known := stands.queries endpoint
    have left := leaves endpoint
    have counts : datagram.queries endpoint = decide (request.endpoint = endpoint) := by
      simp [Sent.queries, kind, reaches]
    rw [sent, List.countP_append, List.countP_append, List.countP_singleton, counts]
    simp only [decide_eq_true_eq]
    omega

/-- A call that is taken up. -/
theorem call (stands : Correspondence env start events system) {request : Request}
    (allowed : endpointAllowed env.config system.node.localIps request.endpoint.1
      request.endpoint.2 = true) :
    Correspondence env start (events ++ [.query request]) { system with
      calls := system.calls + 1
      waiting := system.waiting ++ [(system.calls, request)] } := by
  have before : Correspondence env start (events ++ [.query request]) system :=
    stands.still ⟨rfl, rfl⟩ rfl (fun _ member => member) fun _ => Nat.le_refl _
  refine ⟨before.nodeId, before.localIps, ?_, before.sealed, before.licensed, before.replies, ?_⟩
  · intro entry member
    simp only [List.mem_append, List.mem_singleton, or_assoc] at member
    rcases member with waits | isNew | granted
    · exact before.pursued entry (List.mem_append_left _ waits)
    · rw [isNew]
      exact ⟨List.mem_append_right _ (List.mem_singleton.mpr rfl), stands.localIps ▸ allowed⟩
    · exact before.pursued entry (List.mem_append_right _ granted)
  · intro endpoint
    have known := stands.queries endpoint
    have calls : NodeEvent.calls endpoint (.query request) = decide (request.endpoint = endpoint) :=
      rfl
    simp only [outstanding, List.countP_append, List.countP_singleton, calls] at known ⊢
    omega

/-- A call that gets a slot is pursued as before. -/
theorem grant (stands : Correspondence env start events system) {number : Nat} {request : Request}
    (found : Dict.get? number system.waiting = some request) (pendingSlots : Int) :
    Correspondence env start (events ++ [.grant number]) { system with
      node := { system.node with pendingSlots }
      waiting := Dict.pop number system.waiting
      granted := system.granted ++ [(number, request)] } := by
  have waits := Dict.mem_of_get? found
  refine stands.still ⟨rfl, rfl⟩ rfl ?_ ?_
  · intro entry member
    simp only [List.mem_append, List.mem_singleton] at member
    rcases member with waiting | granted | isNew
    · exact List.mem_append_left _ (Dict.mem_of_mem_pop waiting)
    · exact List.mem_append_right _ granted
    · rw [isNew]
      exact List.mem_append_left _ waits
  · intro endpoint
    have popped := Dict.countP_pop_of_mem
      (fun entry : Nat × Request => decide (entry.2.endpoint = endpoint)) waits
    simp only [outstanding, List.countP_append, List.countP_singleton] at popped ⊢
    omega

/-- A step that sends nothing and gives up calls at most. -/
theorem fewer (stands : Correspondence env start events system)
    (identity : next.node.nodeId = system.node.nodeId ∧ next.node.localIps = system.node.localIps)
    (sent : next.node.sent = system.node.sent)
    (sublist : (next.waiting ++ next.granted).Sublist (system.waiting ++ system.granted)) :
    Correspondence env start (events ++ [event]) next :=
  stands.still identity sent (fun _ member => sublist.subset member) fun _ => sublist.countP_le

/-- A step of which the calls and the outside see nothing. -/
theorem quiet (stands : Correspondence env start events system)
    (identity : next.node.nodeId = system.node.nodeId ∧ next.node.localIps = system.node.localIps)
    (sent : next.node.sent = system.node.sent) (waiting : next.waiting = system.waiting)
    (granted : next.granted = system.granted) :
    Correspondence env start (events ++ [event]) next := by
  apply stands.fewer identity sent
  rw [waiting, granted]

end Correspondence

theorem datagram_posts (data : Bytes) (source : Endpoint) (node : DHTNode) :
    DHTNode.Posts node source (fun message => ∃ tid, DHTNode.Answers env tid message ∧
      NodeEvent.asks env source tid (.datagram data source) = true)
      (Effects.after (DHTNode.datagramReceived env data source) node) := by
  have received : Ensures (· = node) (DHTNode.datagramReceived env data source)
      (fun _ => DHTNode.Posts node source fun message => ∃ tid, DHTNode.Answers env tid message ∧
        NodeEvent.asks env source tid (.datagram data source) = true)
      (fun _ => DHTNode.Posts node source fun message => ∃ tid, DHTNode.Answers env tid message ∧
        NodeEvent.asks env source tid (.datagram data source) = true) := by
    apply DHTNode.datagramReceived_rule (DHTNode.Posts.quiet node source _).noting env data source
      node (.inl rfl)
    · intro msg small isMessage isQuery serving
      have asked : NodeEvent.asks env source (DHTNode.transaction msg) (.datagram data source) =
          true := by
        simp only [NodeEvent.asks, isMessage]
        simp [small, isQuery, serving]
      have posted : ∀ state, DHTNode.Posts node source
          (DHTNode.Answers env (DHTNode.transaction msg)) state →
          DHTNode.Posts node source (fun message => ∃ tid, DHTNode.Answers env tid message ∧
            NodeEvent.asks env source tid (.datagram data source) = true) state := by
        rintro state (sent | ⟨datagram, sent, isSealed, reaches, answers⟩)
        · exact .inl sent
        · exact .inr ⟨datagram, sent, isSealed, reaches, _, answers, asked⟩
      exact (DHTNode.handleQuery_posts msg).weaken (fun _ same => same ▸ rfl)
        (fun _ => posted) fun _ => posted
    · intro msg _ _ kind
      exact ((DHTNode.sent_passive node).handleResponseOrError env msg source kind node rfl).weaken
        (fun _ same => same) (fun _ _ sent => .inl sent) fun _ _ sent => .inl sent
  exact received.after rfl

theorem Correspondence.step (stands : Correspondence env start events system)
    (taken : NodeSystem.step env system event = some next) :
    Correspondence env start (events ++ [event]) next := by
  have identity : next.node.nodeId = system.node.nodeId ∧
      next.node.localIps = system.node.localIps :=
    node_of_step (DHTNode.identified_lasting env system.node.nodeId system.node.localIps)
      ⟨rfl, rfl⟩ taken
  have passive := DHTNode.sent_passive system.node
  have silent : ∀ {α : Type} {program : Node α},
      Preserves (fun node => node.sent = system.node.sent) program →
      (Effects.after program system.node).sent = system.node.sent :=
    fun preserves => preserves.after rfl
  cases event with
  | connect =>
      cases taken
      exact stands.quiet identity rfl rfl rfl
  | restore records =>
      cases taken
      exact stands.quiet identity (silent (passive.aside.roaming.restoreContacts env records)) rfl rfl
  | datagram data source =>
      cases taken
      exact stands.answer identity (datagram_posts data source system.node) rfl rfl
  | query request =>
      simp only [NodeSystem.step] at taken
      split at taken
      · cases taken
        exact stands.quiet identity rfl rfl rfl
      · rename_i admitted
        cases taken
        exact stands.call (DHTNode.allowed_of_admitted admitted)
  | abandon number =>
      rcases Option.map_eq_some_iff.mp taken with ⟨_, _, rfl⟩
      refine stands.fewer identity rfl ?_
      exact List.filter_sublist.append (List.Sublist.refl _)
  | grant number =>
      rcases Option.bind_eq_some_iff.mp taken with ⟨request, found, given⟩
      split at given
      · cases given
      · cases given
        exact stands.grant found _
  | decline number =>
      rcases Option.map_eq_some_iff.mp taken with ⟨_, _, rfl⟩
      refine stands.fewer identity rfl ?_
      exact (List.Sublist.refl _).append List.filter_sublist
  | launch number =>
      rcases Option.map_eq_some_iff.mp taken with ⟨request, found, same⟩
      have posts := @DHTNode.launch_posts env system.node request system.node rfl
      dsimp only at same
      split at same
      · rename_i outcome
        cases same
        rw [outcome] at posts
        exact stands.launch found identity posts rfl rfl
      · rename_i outcome
        cases same
        rw [outcome] at posts
        exact stands.launch found identity posts rfl rfl
  | timeout number =>
      rcases Option.bind_eq_some_iff.mp taken with ⟨flight, _, given⟩
      split at given
      · cases given
      · cases given
        exact stands.quiet identity (silent (passive.unbooked.cancelFuture flight.tid)) rfl rfl
  | cancel number =>
      rcases Option.map_eq_some_iff.mp taken with ⟨flight, _, rfl⟩
      exact stands.quiet identity (silent (passive.unbooked.cancelFuture flight.tid)) rfl rfl
  | resume number =>
      rcases Option.bind_eq_some_iff.mp taken with ⟨flight, found, resumed⟩
      have freed := passive.unbooked.forget flight.tid
      have marks := passive.aside.roaming.markFailure env
      unfold resumeFlight at resumed
      dsimp only at resumed
      split at resumed
      · cases resumed
        exact stands.quiet identity
          (silent (passive.unbooked.expire env flight.request flight.tid marks)) rfl rfl
      · cases resumed
        exact stands.quiet identity (silent freed) rfl rfl
      · split at resumed
        · cases resumed
          exact stands.quiet identity (silent freed) rfl rfl
        · rename_i response _
          cases resumed
          exact stands.quiet identity ((passive.aside.roaming.continueWith env _ _ response).after
            (silent freed)) rfl rfl
        · cases resumed
  | lookup place =>
      rcases Option.map_eq_some_iff.mp taken with ⟨response, _, rfl⟩
      exact stands.quiet identity (silent (passive.aside.roaming.learnContacts env false 0 _)) rfl rfl
  | refreshBucket place now =>
      cases taken
      exact stands.quiet identity (silent (passive.aside.roaming.refreshBucket place now)) rfl rfl
  | closeIngress =>
      cases taken
      exact stands.quiet identity (silent passive.unbooked.closeIngress) rfl rfl

/-- In every run a node sends nothing but well formed datagrams; each answers a query of its
endpoint or is a query that was called for, and none is sent twice. -/
theorem run_correspondence (nodeId : Bytes) (candidates : CandidateManager) (txCounter : Nat)
    (localIps : List String) (start : NodeSystem)
    (made : new env nodeId candidates txCounter localIps = .ok start) (events : List NodeEvent)
    (system : NodeSystem) (ran : Transition.run (NodeSystem.step env) start events = some system) :
    Correspondence env start events system := by
  apply Transition.invariant_history (Correspondence env start) _ _ ran
  · exact fun _ _ _ _ _ stands taken => stands.step taken
  · obtain ⟨-, -, routing, -, rfl⟩ := new_ok made
    exact ⟨rfl, rfl, by simp, by simp, by simp, fun _ _ => Nat.zero_le _, fun _ => Nat.le_refl _⟩

end ledger

/-- A node that has sent a ping is pinged and answers. -/
theorem run_correspondence_sample : ∃ start system, quietNode = .ok start ∧
    Transition.run (step quietWorld) start (pinged ++ [.datagram
      (ascii "d1:ad2:id20:qrstuvwxyzabcdefghije1:q4:ping1:t2:aa1:y1:qe") ("9.9.9.9", 6881)]) =
        some system ∧
    system.node.sent.length = 2 ∧ Correspondence quietWorld start (pinged ++ [.datagram
      (ascii "d1:ad2:id20:qrstuvwxyzabcdefghije1:q4:ping1:t2:aa1:y1:qe") ("9.9.9.9", 6881)])
      system := by
  rcases quiet_check (show (quietNode.toOption.bind fun start =>
      (Transition.run (step quietWorld) start (pinged ++ [.datagram
        (ascii "d1:ad2:id20:qrstuvwxyzabcdefghije1:q4:ping1:t2:aa1:y1:qe")
        ("9.9.9.9", 6881)])).map fun system => decide (system.node.sent.length = 2)) =
          some true by decide +kernel) with ⟨start, system, made, ran, both⟩
  exact ⟨start, system, made, ran, of_decide_eq_true both,
    run_correspondence _ _ _ _ start made _ system ran⟩

end NodeSystem

end PyDht
