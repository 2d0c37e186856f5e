import PyDht.KrpcEnvelopes
import PyDht.PeerStoreLimits
import PyDht.QueryFlights
import PyDht.QuerySettlement
import PyDht.ResponseShapes
import PyDht.StockRuns

set_option autoImplicit false

namespace PyDht

open Effects (Ensures Preserves)

/-- What the callers of `query` ask for, each time for a key of twenty bytes. -/
inductive Asking : Bytes → Message → Prop where
  | ping : Asking (ascii "ping") []
  | findNode {target : Bytes} (length : target.length = 20) :
      Asking (ascii "find_node") [(ascii "target", .bytes target)]
  | getPeers {key : Bytes} (length : key.length = 20) :
      Asking (ascii "get_peers") [(ascii "info_hash", .bytes key)]
  | sampleInfohashes {target : Bytes} (length : target.length = 20) :
      Asking (ascii "sample_infohashes") [(ascii "target", .bytes target)]

namespace DHTNode

/-- Dictionaries of flat values in a dictionary are well within the depth that is read. -/
theorem depth_message {message : Message}
    (flat : ∀ entry ∈ message, entry.2.Flat ∨
      ∃ entries, entry.2 = .dict entries ∧ ∀ inner ∈ entries, inner.2.Flat) :
    (Value.dict message).DepthWithin 64 := by
  have deeper : ∀ {value : Value} {depth : Nat}, depth ≤ 3 → value.Flat →
      value.Every (fun level _ => (level : Int) ≤ 64) depth := by
    intro value depth shallow isFlat
    refine Value.every_imp (fun level _ within => ?_) value depth (isFlat.every depth)
    omega
  unfold Value.DepthWithin
  rw [Value.every_dict]
  refine ⟨by decide, fun entry member => ?_⟩
  rcases flat entry member with isFlat | ⟨entries, isDict, inner⟩
  · exact deeper (by decide) isFlat
  · rw [isDict, Value.every_dict]
    exact ⟨by decide, fun other inside => deeper (by decide) (inner other inside)⟩

section queries

variable {env : Environment} {node : DHTNode} {tid : Bytes} {request : Request}

theorem queryArguments_asking {method : Bytes} {args : Message} (asking : Asking method args)
    (nodeId : Bytes) : queryArguments nodeId args = (ascii "id", .bytes nodeId) :: args := by
  cases asking with
  | ping => rfl
  | findNode _ => rfl
  | getPeers _ => rfl
  | sampleInfohashes _ => rfl

theorem asking_flat {method : Bytes} {args : Message} (asking : Asking method args)
    (nodeId : Bytes) : ∀ entry ∈ queryArguments nodeId args, entry.2.Flat := by
  rw [queryArguments_asking asking]
  cases asking <;> simp [Value.Flat]

theorem asking_distinct {method : Bytes} {args : Message} (asking : Asking method args)
    (nodeId : Bytes) : (Value.dict (queryArguments nodeId args)).Distinct := by
  have alone : [ascii "id"].Nodup ∧ [ascii "id", ascii "target"].Nodup ∧
      [ascii "id", ascii "info_hash"].Nodup := by decide
  rw [queryArguments_asking asking, Value.distinct_dict]
  cases asking with
  | ping => exact ⟨alone.1, by simp [Value.distinct_bytes]⟩
  | findNode _ => exact ⟨alone.2.1, by simp [Value.distinct_bytes]⟩
  | getPeers _ => exact ⟨alone.2.2, by simp [Value.distinct_bytes]⟩
  | sampleInfohashes _ => exact ⟨alone.2.1, by simp [Value.distinct_bytes]⟩

/-- The entries of a query; a node that only reads marks it as such. -/
theorem queryMessage_entries (env : Environment) (node : DHTNode) (tid : Bytes)
    (request : Request) : ∃ mark, (mark = [] ∨ mark = [(ascii "ro", .int 1)]) ∧
      queryMessage env node tid request = [(ascii "t", .bytes tid), (ascii "y", .bytes (ascii "q")),
        (ascii "v", .bytes env.config.dhtClientVersion), (ascii "q", .bytes request.method),
        (ascii "a", .dict (queryArguments node.nodeId request.args))] ++ mark := by
  unfold queryMessage
  dsimp only
  split
  · exact ⟨_, .inr rfl, rfl⟩
  · exact ⟨[], .inl rfl, (List.append_nil _).symm⟩

theorem queryMessage_distinct (asking : Asking request.method request.args) :
    (Value.dict (queryMessage env node tid request)).Distinct := by
  have alone : [ascii "t", ascii "y", ascii "v", ascii "q", ascii "a"].Nodup ∧
      [ascii "t", ascii "y", ascii "v", ascii "q", ascii "a", ascii "ro"].Nodup := by decide
  have args := asking_distinct asking node.nodeId
  obtain ⟨mark, isMark, entries⟩ := queryMessage_entries env node tid request
  rw [entries, Value.distinct_dict]
  rcases isMark with rfl | rfl
  · refine ⟨alone.1, ?_⟩
    simpa [Value.distinct_bytes] using args
  · refine ⟨alone.2, ?_⟩
    simpa [Value.distinct_bytes, Value.distinct_int] using args

theorem queryMessage_depth (asking : Asking request.method request.args) :
    (Value.dict (queryMessage env node tid request)).DepthWithin 64 := by
  have args := asking_flat asking node.nodeId
  obtain ⟨mark, isMark, entries⟩ := queryMessage_entries env node tid request
  apply depth_message
  rw [entries]
  rcases isMark with rfl | rfl <;> simpa [Value.Flat] using args

theorem queryMessage_get (env : Environment) (node : DHTNode) (tid : Bytes) (request : Request) :
    Value.asBytes ((queryMessage env node tid request).get? "t") = some tid ∧
    Value.asBytes ((queryMessage env node tid request).get? "q") = some request.method ∧
    Value.asDict ((queryMessage env node tid request).get? "a") =
      some (queryArguments node.nodeId request.args) := by
  obtain ⟨mark, _, entries⟩ := queryMessage_entries env node tid request
  rw [entries]
  exact ⟨rfl, rfl, rfl⟩

end queries

section answers

variable {env : Environment} {tid nodeId method : Bytes} {response : Message}

theorem answer_distinct (env : Environment) (tid : Bytes)
    (distinct : (Value.dict response).Distinct) :
    (Value.dict ((base env tid "r").set "r" (.dict response))).Distinct := by
  have alone : [ascii "t", ascii "y", ascii "v", ascii "r"].Nodup := by decide
  rw [response_message, Value.distinct_dict]
  refine ⟨alone, ?_⟩
  simpa [base, Value.distinct_bytes] using distinct

theorem answer_depth (env : Environment) (tid : Bytes) (suits : Suits nodeId method response) :
    (Value.dict ((base env tid "r").set "r" (.dict response))).DepthWithin 64 := by
  apply depth_message
  rw [response_message]
  simpa [base, Value.Flat] using suits.flat

end answers

section sides

variable {env : Environment} {node start : DHTNode} {tid : Bytes} {request : Request}
  {datagram : Sent}

/-- At the other end the query is one that a node has a response for. -/
theorem receive_query {config : Config} (limits : config.DefaultLimits)
    (length : node.nodeId.length = 20)
    (dispatches : Dispatches env node.nodeId tid request datagram)
    (asking : Asking request.method request.args)
    (enabled : request.method = ascii "sample_infohashes" → config.dhtBep51Enabled = true) :
    ∃ msg args, receive config datagram.payload = .ok msg ∧
      Value.asBytes (msg.get? "y") = some (ascii "q") ∧ transaction msg = tid ∧
      Asks msg request.method args node.nodeId ∧ Supported config request.method args := by
  have message := dispatches.message node rfl
  have encoded := dispatches.isSealed.encoded
  rw [message] at encoded
  obtain ⟨isTid, isMethod, isArgs⟩ := queryMessage_get env node tid request
  have nonempty : tid ≠ [] := by
    intro empty
    have two := dispatches.two
    rw [empty] at two
    cases two
  have kind := queryMessage_kind env node tid request
  obtain ⟨msg, received, equal⟩ := receive_encoded limits (queryMessage_distinct asking) encoded
    dispatches.isSealed.short (queryMessage_depth asking) isTid nonempty kind (by decide)
  obtain ⟨args, gotArgs, same⟩ := equal.asDict isArgs
  have content := queryArguments_asking asking node.nodeId
  have sender : Value.asKey (args.get? "id") = some node.nodeId := by
    rw [same.asKey, content]
    exact asKey_bytes length
  refine ⟨msg, args, received, (equal.asBytes "y").trans kind, ?_,
    ⟨(equal.asBytes "q").trans isMethod, gotArgs, sender⟩, ?_⟩
  · rw [transaction, equal.asBytes, isTid]
    rfl
  · rw [content] at same
    generalize isMethod : request.method = method at *
    generalize request.args = sentArgs at *
    cases asking with
    | ping => exact .inl rfl
    | findNode twenty =>
        refine .inr (.inl ⟨rfl, ?_⟩)
        rw [same.asKey]
        exact Option.isSome_iff_exists.mpr ⟨_, asKey_bytes twenty⟩
    | getPeers twenty =>
        refine .inr (.inr (.inl ⟨rfl, ?_, ?_⟩))
        · rw [same.asKey]
          exact Option.isSome_iff_exists.mpr ⟨_, asKey_bytes twenty⟩
        · rw [same.absent rfl]
          rfl
    | sampleInfohashes twenty =>
        refine .inr (.inr (.inr ⟨rfl, enabled rfl, ?_⟩))
        rw [same.asKey]
        exact Option.isSome_iff_exists.mpr ⟨_, asKey_bytes twenty⟩

/-- Back at the node that has asked, the response passes all checks of its content. -/
theorem receive_answer {config : Config} (limits : config.DefaultLimits) (two : tid.length = 2)
    {endpoint : Endpoint} {method : Bytes} {response : Message} {next : DHTNode}
    (responds : Responds env start endpoint tid method response datagram next) :
    ∃ msg got, receive config datagram.payload = .ok msg ∧ transaction msg = tid ∧
      Value.asBytes (msg.get? "y") = some (ascii "r") ∧
      Value.asDict (msg.get? "r") = some got ∧ Value.asKey (got.get? "id") = some start.nodeId ∧
      responseMatchesQuery method got = true ∧ (Value.dict got).Same (.dict response) := by
  obtain ⟨_, _, isSealed, message, suits, distinct⟩ := responds
  have encoded := isSealed.encoded
  rw [message] at encoded
  have nonempty : tid ≠ [] := by
    intro empty
    rw [empty] at two
    cases two
  have isTid : Value.asBytes (((base env tid "r").set "r" (.dict response)).get? "t") = some tid := by
    rw [Message.get?_set_ne (by decide)]
    rfl
  have kind : Value.asBytes (((base env tid "r").set "r" (.dict response)).get? "y") =
      some (ascii "r") := by
    rw [Message.get?_set_ne (by decide)]
    rfl
  obtain ⟨msg, received, equal⟩ := receive_encoded limits (answer_distinct env tid distinct) encoded
    isSealed.short (answer_depth env tid suits) isTid nonempty kind (by decide)
  obtain ⟨got, isGot, same⟩ := equal.asDict (response_entry env tid response)
  refine ⟨msg, got, received, ?_, (equal.asBytes "y").trans kind, isGot,
    (same.asKey "id").trans suits.named, (same.responseMatchesQuery method).trans suits.shape,
    same.same⟩
  rw [transaction, equal.asBytes, isTid]
  rfl

/-- A response that passes all checks settles the query that waits for it. -/
theorem Accepted.settles {msg : Message} {data : Bytes} {source : Endpoint}
    {pending : PendingQuery} {response : Message} {remoteId : Bytes}
    (validConfig : 1 ≤ env.config.dhtRoutingBadAfterFailures) (upkept : Upkept env.config node)
    (accepted : Accepted node msg source pending response remoteId)
    (small : (data.length : Int) ≤ env.config.dhtReceiveMaxBytes)
    (received : receive env.config data = .ok msg) (waits : pending.future = .waiting) :
    ∃ next, datagramReceived env data source node = .ok () next ∧
      (Dict.get? (transaction msg) next.pending).map PendingQuery.future =
        some (.result response) := by
  have settling : Ensures (Upkept env.config) (settle (transaction msg) (.result response) pending)
      (fun _ next => (Dict.get? (transaction msg) next.pending).map PendingQuery.future =
        some (.result response)) (fun _ _ => False) := by
    unfold settle
    rw [waits]
    apply Ensures.modify
    intro state _
    dsimp only
    rw [Dict.get?_set_self]
    rfl
  have handled : datagramReceived env data source node =
      acceptResponse env msg source (transaction msg) pending response remoteId node := by
    have noQuery : Value.asBytes (msg.get? "y") ≠ some (ascii "q") := by
      rw [accepted.kind]
      decide
    have short : ¬ env.config.dhtReceiveMaxBytes < (data.length : Int) := by omega
    simp only [datagramReceived, short, handleDatagram, received, noQuery, if_false,
      accepted.handled]
  have outcome := acceptResponse_rule validConfig msg source (transaction msg) pending response
    remoteId settling node upkept
  rw [← handled] at outcome
  cases result : datagramReceived env data source node with
  | error fault next =>
      rw [result] at outcome
      exact outcome.elim
  | ok _ next =>
      rw [result] at outcome
      exact ⟨next, rfl, outcome⟩

end sides

end DHTNode

/-- A query and its answer: the datagram that the one node has sent comes in at the other, what
that node sends back comes in from the endpoint that was asked, and the query is settled with the
response that was built there. -/
structure Exchange (here there : Environment) (asker answerer : DHTNode) (flight : Flight)
    (source : Endpoint) (query answer : Sent) (response got : Message) : Prop where
  sent : query ∈ asker.sent
  goal : query.endpoint = flight.request.endpoint
  message : query.message = DHTNode.queryMessage here asker flight.tid flight.request
  answered : ∃ node, DHTNode.datagramReceived there query.payload source answerer = .ok () node ∧
    node.sent = answerer.sent ++ [answer]
  back : answer.endpoint = source
  reply : answer.message = (DHTNode.base there flight.tid "r").set "r" (.dict response)
  settled : ∃ node, DHTNode.datagramReceived here answer.payload flight.request.endpoint asker =
      .ok () node ∧
    (Dict.get? flight.tid node.pending).map PendingQuery.future = some (.result got)
  same : (Value.dict got).Same (.dict response)

/-- An exchange, and what becomes of the answer on the way: it is decoded, and its content passes
the check of its shape. -/
structure Resolved (here there : Environment) (asker answerer : DHTNode) (flight : Flight)
    (source : Endpoint) (query answer : Sent) (response got : Message) : Prop
    extends Exchange here there asker answerer flight source query answer response got where
  decoded : ∃ reply, DHTNode.receive here.config answer.payload = .ok reply ∧
    Value.asBytes (reply.get? "y") = some (ascii "r") ∧ Value.asDict (reply.get? "r") = some got
  shape : responseMatchesQuery flight.request.method got = true

namespace NodeSystem

/-- A state that a node with this ID can be in. -/
def Reachable (env : Environment) (nodeId : Bytes) (system : NodeSystem) : Prop :=
  ∃ candidates txCounter localIps start events,
    new env nodeId candidates txCounter localIps = .ok start ∧
      Transition.run (step env) start events = some system

/-- A query in flight still waits for its response. -/
structure Awaiting (system : NodeSystem) (number : Nat) (flight : Flight) : Prop where
  flies : Dict.get? number system.flying = some flight
  waits : (Dict.get? flight.tid system.node.pending).map PendingQuery.future = some .waiting

/-- A node that answers what it is asked, in any state that it can be in. -/
structure Serves (env : Environment) (nodeId : Bytes) (system : NodeSystem) : Prop where
  limits : env.config.DefaultLimits
  documented : env.Documented
  serving : env.config.dhtReadOnly = false
  reached : Reachable env nodeId system
  connected : system.node.connected = true

section exchange

variable {here there : Environment} {askerId answererId : Bytes}
  {askerCandidates answererCandidates : CandidateManager} {askerCounter answererCounter : Nat}
  {askerIps answererIps : List String} {askerStart asker answererStart answerer : NodeSystem}
  {askerEvents answererEvents : List NodeEvent}

/-- The pending entry of a query in flight carries its ticket. -/
theorem Accounted.pendingEntry {limit : Int} {delivered : Delivered} {system : NodeSystem}
    (accounted : Accounted limit delivered system) {number : Nat} {flight : Flight}
    (flies : Dict.get? number system.flying = some flight) :
    ∃ pending, Dict.get? flight.tid system.node.pending = some pending ∧
      pending.endpoint = flight.request.endpoint ∧ pending.query = flight.request.method ∧
      pending.expectedNodeId = flight.request.expectedNodeId := by
  have listed : flightTicket (number, flight) ∈ system.node.pending.map ticket := by
    rw [accounted.ticketed.tickets]
    exact List.mem_map_of_mem (Dict.mem_of_get? flies)
  obtain ⟨entry, inside, isTicket⟩ := List.mem_map.mp listed
  have distinct : (Dict.keys system.node.pending).Nodup := by
    rw [← map_ticket_tid, accounted.ticketed.tickets]
    exact accounted.distinct
  have sameTid : entry.1 = flight.tid := congrArg Ticket.tid isTicket
  refine ⟨entry.2, ?_, congrArg Ticket.endpoint isTicket, congrArg Ticket.query isTicket,
    congrArg Ticket.expectedNodeId isTicket⟩
  rw [← sameTid]
  exact Dict.get?_of_mem distinct inside

/-- A node keeps the ID of twenty bytes that it was made with. -/
theorem run_named {env : Environment} {nodeId : Bytes} {candidates : CandidateManager}
    {txCounter : Nat} {localIps : List String} {start system : NodeSystem}
    {events : List NodeEvent} (made : new env nodeId candidates txCounter localIps = .ok start)
    (ran : Transition.run (step env) start events = some system) :
    system.node.nodeId = nodeId ∧ system.node.nodeId.length = 20 := by
  obtain ⟨length, _, routing, _, rfl⟩ := new_ok made
  have same := (node_of_run (DHTNode.identified_lasting env nodeId localIps) ⟨rfl, rfl⟩ ran).1
  exact ⟨same, same ▸ length⟩

/-- A node is named as in every state that it can be in. -/
theorem Reachable.named {env : Environment} {nodeId : Bytes} {system : NodeSystem}
    (reached : Reachable env nodeId system) :
    system.node.nodeId = nodeId ∧ system.node.nodeId.length = 20 := by
  obtain ⟨_, _, _, _, _, made, ran⟩ := reached
  exact run_named made ran

theorem Reachable.dispatched {env : Environment} {nodeId : Bytes} {system : NodeSystem}
    (reached : Reachable env nodeId system) : Dispatched env system := by
  obtain ⟨_, _, _, _, _, made, ran⟩ := reached
  exact run_dispatched made ran

section sides

variable {flight : Flight} {query answer : Sent} {source : Endpoint}

/-- A datagram that was sent is read by nodes with the default limits. -/
theorem received_short {config : Config} (limits : config.DefaultLimits) {datagram : Sent}
    (isSealed : datagram.Sealed) :
    (datagram.payload.length : Int) ≤ config.dhtReceiveMaxBytes := by
  rw [limits]
  show (datagram.payload.length : Int) ≤ 65536
  have bound : datagram.payload.length ≤ 1024 := isSealed.short
  omega

theorem bad_after_failures {config : Config} (limits : config.DefaultLimits) :
    1 ≤ config.dhtRoutingBadAfterFailures := by
  rw [limits]
  show (1 : Int) ≤ 2
  decide

/-- The store of a node that can be reached keeps to its first limit. -/
theorem Serves.few (serves : Serves there answererId answerer) :
    answerer.node.peerStore.store.length ≤ 10000 := by
  obtain ⟨_, _, _, _, _, made, ran⟩ := serves.reached
  have bounded := (run_bounded (by rw [serves.limits]; show (1 : Int) ≤ 10000; decide)
    (by rw [serves.limits]; show (1 : Int) ≤ 50; decide) made ran).few
  rw [serves.limits] at bounded
  exact Int.ofNat_le.mp bounded

/-- The query, as it comes in, is answered with a response and never with an error. -/
theorem Serves.responds (serves : Serves there answererId answerer)
    (length : asker.node.nodeId.length = 20)
    (dispatches : DHTNode.Dispatches here asker.node.nodeId flight.tid flight.request query)
    (asking : Asking flight.request.method flight.request.args)
    (enabled : flight.request.method = ascii "sample_infohashes" →
      there.config.dhtBep51Enabled = true)
    {address : IPAddress} (parsed : ipAddress source.1 = .ok address) :
    ∃ next answer response,
      DHTNode.datagramReceived there query.payload source answerer.node = .ok () next ∧
      DHTNode.Responds there answerer.node source flight.tid flight.request.method response answer
        next := by
  obtain ⟨msg, args, received, kind, isTid, asksFor, supported⟩ :=
    DHTNode.receive_query serves.limits length dispatches asking enabled
  obtain ⟨_, _, _, _, _, made, ran⟩ := serves.reached
  obtain ⟨next, answer, response, handled, responds⟩ :=
    DHTNode.handleQuery_responds serves.limits serves.documented serves.connected
      (run_upkept (bad_after_failures serves.limits) made ran)
      (run_stocked serves.limits serves.documented made ran) serves.few parsed asksFor supported
      (by rw [isTid, dispatches.two])
  rw [isTid] at responds
  refine ⟨next, answer, response, ?_, responds⟩
  have small := received_short serves.limits dispatches.isSealed
  have short : ¬ there.config.dhtReceiveMaxBytes < (query.payload.length : Int) := by omega
  simp only [DHTNode.datagramReceived, short, DHTNode.handleDatagram, received, kind,
    serves.serving, if_false, if_true]
  exact handled

/-- The answer, as it comes back, settles the query with what it carries. -/
theorem Awaiting.settles {number : Nat} (awaiting : Awaiting asker number flight)
    (limits : here.config.DefaultLimits) (reached : Reachable here askerId asker)
    (two : flight.tid.length = 2) {response : Message} {node next : DHTNode}
    (expected : ∀ nodeId, flight.request.expectedNodeId = some nodeId → nodeId = node.nodeId)
    (responds : DHTNode.Responds there node source flight.tid flight.request.method response
      answer next) :
    ∃ reply got final, DHTNode.receive here.config answer.payload = .ok reply ∧
      Value.asBytes (reply.get? "y") = some (ascii "r") ∧
      Value.asDict (reply.get? "r") = some got ∧
      responseMatchesQuery flight.request.method got = true ∧
      DHTNode.datagramReceived here answer.payload flight.request.endpoint asker.node =
        .ok () final ∧
      (Dict.get? flight.tid final.pending).map PendingQuery.future = some (.result got) ∧
      (Value.dict got).Same (.dict response) := by
  obtain ⟨_, _, _, _, _, made, ran⟩ := reached
  obtain ⟨reply, got, back, isReply, isResponse, content, named, shape, same⟩ :=
    DHTNode.receive_answer limits two responds
  obtain ⟨pending, awaited, origin, isQuery, isExpected⟩ :=
    (run_accounted (by rw [limits]; show (200 : Int) ≤ 65536; decide) made ran).pendingEntry
      awaiting.flies
  have accepted : DHTNode.Accepted asker.node reply flight.request.endpoint pending got
      node.nodeId := by
    refine ⟨isReply ▸ awaited, origin, isResponse, content, named, ?_, isQuery ▸ shape⟩
    rw [isExpected]
    cases isNode : flight.request.expectedNodeId with
    | none => rfl
    | some nodeId =>
        rw [expected nodeId isNode]
        simp
  have waiting : pending.future = .waiting := by
    have waits := awaiting.waits
    rw [awaited] at waits
    exact Option.some.inj waits
  obtain ⟨final, handled, settled⟩ := accepted.settles (bad_after_failures limits)
    (run_upkept (bad_after_failures limits) made ran)
    (received_short limits responds.2.2.1) back waiting
  rw [isReply] at settled
  exact ⟨reply, got, final, back, isResponse, content, shape, handled, settled, same⟩

/-- The datagram of a query that waits: from any node that serves it brings a response, which
settles the query. -/
theorem Awaiting.resolves {number : Nat} (awaiting : Awaiting asker number flight)
    (limits : here.config.DefaultLimits) (reached : Reachable here askerId asker)
    (serves : Serves there answererId answerer)
    (asking : Asking flight.request.method flight.request.args)
    (enabled : flight.request.method = ascii "sample_infohashes" →
      there.config.dhtBep51Enabled = true)
    (expected : ∀ nodeId, flight.request.expectedNodeId = some nodeId → nodeId = answererId)
    (sent : query ∈ asker.node.sent)
    (dispatches : DHTNode.Dispatches here asker.node.nodeId flight.tid flight.request query)
    {address : IPAddress} (parsed : ipAddress source.1 = .ok address) :
    ∃ answer response got,
      Resolved here there asker.node answerer.node flight source query answer response got := by
  obtain ⟨next, answer, response, answered, responds⟩ :=
    serves.responds reached.named.2 dispatches asking enabled parsed
  obtain ⟨reply, got, final, back, isResponse, content, shape, handled, settled, same⟩ :=
    awaiting.settles limits reached dispatches.two
      (fun nodeId isNode => (expected nodeId isNode).trans serves.reached.named.1.symm) responds
  obtain ⟨sentBack, reaches, _, isMessage, _, _⟩ := responds
  exact ⟨answer, response, got,
    { sent := sent
      goal := dispatches.endpoint
      message := dispatches.message _ rfl
      answered := ⟨next, answered, sentBack⟩
      back := reaches
      reply := isMessage
      settled := ⟨final, handled, settled⟩
      same := same
      decoded := ⟨reply, back, isResponse, content⟩
      shape := shape }⟩

end sides

/-- Whatever the two nodes have been through: a query of one that waits for its response is
answered by the other with a response, never with an error, and that response settles it. -/
theorem exchange_settles (limits : here.config.DefaultLimits) (others : there.config.DefaultLimits)
    (documented : there.Documented) (serving : there.config.dhtReadOnly = false)
    (asks : new here askerId askerCandidates askerCounter askerIps = .ok askerStart)
    (askerRan : Transition.run (step here) askerStart askerEvents = some asker)
    (answers : new there answererId answererCandidates answererCounter answererIps =
      .ok answererStart)
    (answererRan : Transition.run (step there) answererStart answererEvents = some answerer)
    (connected : answerer.node.connected = true) {number : Nat} {flight : Flight}
    (flies : Dict.get? number asker.flying = some flight)
    (waits : (Dict.get? flight.tid asker.node.pending).map PendingQuery.future = some .waiting)
    (asking : Asking flight.request.method flight.request.args)
    (enabled : flight.request.method = ascii "sample_infohashes" →
      there.config.dhtBep51Enabled = true)
    (expected : ∀ nodeId, flight.request.expectedNodeId = some nodeId → nodeId = answererId)
    {source : Endpoint} {address : IPAddress} (parsed : ipAddress source.1 = .ok address) :
    ∃ query answer response got,
      Exchange here there asker.node answerer.node flight source query answer response got := by
  have reached : Reachable here askerId asker := ⟨_, _, _, _, _, asks, askerRan⟩
  have serves : Serves there answererId answerer :=
    { limits := others
      documented := documented
      serving := serving
      reached := ⟨_, _, _, _, _, answers, answererRan⟩
      connected := connected }
  have awaiting : Awaiting asker number flight := ⟨flies, waits⟩
  obtain ⟨query, sent, dispatches⟩ := reached.dispatched _ (Dict.mem_of_get? flies)
  obtain ⟨answer, response, got, resolved⟩ :=
    awaiting.resolves limits reached serves asking enabled expected sent dispatches parsed
  exact ⟨query, answer, response, got, resolved.toExchange⟩

/-- A query that waits for its response has gone out as a datagram that every other node with the
default configuration resolves: what this node sends back is decoded, is of the shape that is
expected, and settles the query with the response that was built there. -/
theorem query_resolved (limits : here.config.DefaultLimits) (reached : Reachable here askerId asker)
    {number : Nat} {flight : Flight} (awaiting : Awaiting asker number flight)
    (asking : Asking flight.request.method flight.request.args) :
    ∃ query ∈ asker.node.sent, ∀ (there : Environment) (answererId : Bytes) (answerer : NodeSystem),
      Serves there answererId answerer → there.config.dhtBep51Enabled = true →
      (∀ nodeId, flight.request.expectedNodeId = some nodeId → nodeId = answererId) →
      ∀ (source : Endpoint) (address : IPAddress), ipAddress source.1 = .ok address →
        ∃ answer response got, Resolved here there asker.node answerer.node flight source query
          answer response got := by
  obtain ⟨query, sent, dispatches⟩ := reached.dispatched _ (Dict.mem_of_get? awaiting.flies)
  refine ⟨query, sent, ?_⟩
  intro there answererId answerer serves sampling expected source address parsed
  exact awaiting.resolves limits reached serves asking (fun _ => sampling) expected sent dispatches
    parsed

end exchange

/-- A lookup that has asked a node for the peers of a key. -/
def looksUp : Flight → Bool
  | { request := { caller := .lookup, method, args := [(name, .bytes key)], expectedNodeId, .. }, .. } =>
      decide (method = ascii "get_peers" ∧ name = ascii "info_hash" ∧ key.length = 20 ∧
        expectedNodeId = some (List.replicate 20 2))
  | _ => false

def sought : List NodeEvent :=
  [.connect,
    .query
      { caller := .lookup, endpoint := ("8.8.8.8", 6881), method := ascii "get_peers",
        args := [(ascii "info_hash", .bytes (List.replicate 20 3))],
        expectedNodeId := some (List.replicate 20 2) },
    .grant 0, .launch 0]

/-- A node that has just been started, in the world where digests have twenty bytes. -/
def sampledNode : Except PyError NodeSystem :=
  new DHTNode.samplingWorld (List.replicate 20 2) { queue := { maxsize := 4 } } 7 ["127.0.0.1"]

theorem sampled_check {events : List NodeEvent} {test : NodeSystem → Bool}
    (checked : (sampledNode.toOption.bind fun start =>
      (Transition.run (step DHTNode.samplingWorld) start events).map test) = some true) :
    ∃ start system, sampledNode = .ok start ∧
      Transition.run (step DHTNode.samplingWorld) start events = some system ∧
      test system = true := by
  obtain ⟨start, made, tested⟩ := Option.bind_eq_some_iff.mp checked
  obtain ⟨system, ran, holds⟩ := Option.map_eq_some_iff.mp tested
  cases built : sampledNode with
  | error fault => simp [built, Except.toOption] at made
  | ok first =>
      simp only [built, Except.toOption, Option.some.injEq] at made
      exact ⟨start, system, by rw [made], ran, holds⟩

theorem looksUp_asking {flight : Flight} (looks : looksUp flight = true) :
    Asking flight.request.method flight.request.args ∧
      flight.request.method = ascii "get_peers" ∧
      flight.request.expectedNodeId = some (List.replicate 20 2) := by
  unfold looksUp at looks
  split at looks
  · obtain ⟨isMethod, isName, length, isNode⟩ := of_decide_eq_true looks
    rw [isMethod, isName]
    exact ⟨.getPeers length, rfl, isNode⟩
  · cases looks

/-- The lookup still waits for what the node that it has asked sends back. -/
theorem sought_awaits : ∃ start asker flight, quietNode = .ok start ∧
    Transition.run (step quietWorld) start sought = some asker ∧ Awaiting asker 0 flight ∧
    looksUp flight = true := by
  obtain ⟨start, asker, asks, ran, holds⟩ := quiet_check (show (quietNode.toOption.bind
      fun start => (Transition.run (step quietWorld) start sought).map fun system =>
        (Dict.get? 0 system.flying).any fun flight => looksUp flight &&
          ((Dict.get? flight.tid system.node.pending).map PendingQuery.future).any
            fun future => !future.done) = some true by decide +kernel)
  obtain ⟨flight, flies, holds⟩ := (Option.any_eq_true _ _).mp holds
  obtain ⟨looks, waiting⟩ := Bool.and_eq_true_iff.mp holds
  obtain ⟨future, isFuture, open_⟩ := (Option.any_eq_true _ _).mp waiting
  have waits : (Dict.get? flight.tid asker.node.pending).map PendingQuery.future =
      some .waiting := by
    rw [isFuture]
    cases future with
    | waiting => rfl
    | _ => cases open_
  exact ⟨start, asker, flight, asks, ran, ⟨flies, waits⟩, looks⟩

theorem exchange_settles_sample : ∃ askerStart asker answererStart answerer flight query answer
    response got,
    Transition.run (step quietWorld) askerStart sought = some asker ∧
    Transition.run (step DHTNode.samplingWorld) answererStart [.connect] = some answerer ∧
    Exchange quietWorld DHTNode.samplingWorld asker.node answerer.node flight ("9.9.9.9", 6881)
      query answer response got := by
  obtain ⟨askerStart, asker, flight, asks, askerRan, awaiting, looks⟩ := sought_awaits
  obtain ⟨asking, isMethod, isNode⟩ := looksUp_asking looks
  have other : flight.request.method ≠ ascii "sample_infohashes" := by
    rw [isMethod]
    decide
  obtain ⟨answererStart, answerer, answers, answererRan, connected⟩ := sampled_check (show
      (sampledNode.toOption.bind fun start => (Transition.run (step DHTNode.samplingWorld) start
        [.connect]).map fun system => system.node.connected) = some true by decide +kernel)
  have parsed : ipAddress "9.9.9.9" = .ok (.v4 9 9 9 9) := by decide +kernel
  have limits : quietWorld.config.DefaultLimits := rfl
  have others : DHTNode.samplingWorld.config.DefaultLimits := rfl
  obtain ⟨query, answer, response, got, exchange⟩ := exchange_settles limits others
    DHTNode.samplingWorld_documented rfl asks askerRan answers answererRan connected awaiting.flies
    awaiting.waits asking (fun same => absurd same other)
    (fun nodeId isExpected => Option.some.inj (isExpected.symm.trans isNode))
    (show ipAddress ("9.9.9.9", (6881 : Int)).1 = _ from parsed)
  exact ⟨askerStart, asker, answererStart, answerer, flight, query, answer, response, got, askerRan,
    answererRan, exchange⟩

/-- A third node asks for the key of the lookup, and announces itself with the token it got. -/
def sharing : List NodeEvent :=
  [.connect,
    .datagram (ascii "d1:ad2:id20:qrstuvwxyzabcdefghij9:info_hash20:" ++ List.replicate 20 3 ++
      ascii "e1:q9:get_peers1:t2:aa1:y1:qe") ("8.8.4.4", 6881),
    .datagram (ascii "d1:ad2:id20:qrstuvwxyzabcdefghij9:info_hash20:" ++ List.replicate 20 3 ++
      ascii ("4:porti6881e5:token8:\x08\x08\x04\x04\x00\x00\x00\x00e" ++
        "1:q13:announce_peer1:t2:ab1:y1:qe")) ("8.8.4.4", 6881)]

theorem query_resolved_sample : ∃ asker flight answererStart answerer query answer response got,
    Awaiting asker 0 flight ∧ flight.request.method = ascii "get_peers" ∧
    Transition.run (step DHTNode.samplingWorld) answererStart sharing = some answerer ∧
    answerer.node.peerStore.entries ≠ [] ∧
    Resolved quietWorld DHTNode.samplingWorld asker.node answerer.node flight ("9.9.9.9", 6881)
      query answer response got := by
  obtain ⟨askerStart, asker, flight, asks, askerRan, awaiting, looks⟩ := sought_awaits
  obtain ⟨asking, isMethod, isNode⟩ := looksUp_asking looks
  obtain ⟨answererStart, answerer, answers, answererRan, holds⟩ := sampled_check (show
      (sampledNode.toOption.bind fun start => (Transition.run (step DHTNode.samplingWorld) start
        sharing).map fun system => system.node.connected &&
          !system.node.peerStore.entries.isEmpty) = some true by decide +kernel)
  obtain ⟨connected, stored⟩ := Bool.and_eq_true_iff.mp holds
  have parsed : ipAddress "9.9.9.9" = .ok (.v4 9 9 9 9) := by decide +kernel
  have serves : Serves DHTNode.samplingWorld (List.replicate 20 2) answerer :=
    { limits := rfl
      documented := DHTNode.samplingWorld_documented
      serving := rfl
      reached := ⟨_, _, _, _, _, answers, answererRan⟩
      connected := connected }
  obtain ⟨query, _, resolves⟩ := query_resolved (show quietWorld.config.DefaultLimits from rfl)
    ⟨_, _, _, _, _, asks, askerRan⟩ awaiting asking
  obtain ⟨answer, response, got, resolved⟩ := resolves DHTNode.samplingWorld _ answerer serves rfl
    (fun nodeId isExpected => Option.some.inj (isExpected.symm.trans isNode)) ("9.9.9.9", 6881) _
    parsed
  refine ⟨asker, flight, answererStart, answerer, query, answer, response, got, awaiting,
    isMethod, answererRan, ?_, resolved⟩
  intro empty
  rw [empty] at stored
  cases stored

end NodeSystem

end PyDht
