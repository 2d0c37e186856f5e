import PyDht.Krpc
import PyDht.Lib.Transition

set_option autoImplicit false

namespace PyDht

namespace DHTNode

/-- `_next_tid`; the first argument bounds the rounds of its loop. -/
def nextTid (pending : List (Bytes × PendingQuery)) : Nat → Nat → Except PyError (Bytes × Nat)
  | 0, _ => .error (.dhtError "transaction ID space exhausted")
  | rounds + 1, counter =>
      let next := (counter + 1) % 65536
      if Dict.contains (packUInt16 next) pending then nextTid pending rounds next
      else .ok (packUInt16 next, next)

/-- The end of `query`: the entry goes and its slot is free again. -/
def forget (tid : Bytes) : Node Unit :=
  modify fun node =>
    { node with
      pending := Dict.pop tid node.pending
      pendingSlots := node.pendingSlots + 1 }

/-- `restore_contacts` of the routing table, which reads the clock for each record. -/
def restoreContacts (env : Environment) : List SnapshotRecord → Node Unit
  | [] => pure ()
  | record :: records => do
      let now ← monotonicNs env
      let node ← get
      let routing ← Effects.raise (node.routing.restoreRecord env.config now record)
      set { node with routing }
      restoreContacts env records

/-- `close_ingress`. -/
def closeIngress : Node Unit :=
  modify fun node =>
    { node with
      closing := true
      connected := false
      pending := node.pending.map fun entry =>
        match entry.2.future with
        | .waiting =>
            (entry.1, { entry.2 with future := .failed (.dhtError "DHT shutdown") })
        | _ => entry }

/-- The end of a bucket refresh in `maintenance_once`. -/
def refreshBucket (place : Nat) (now : Int) : Node Unit := do
  let node ← get
  match node.routing.buckets[place]? with
  | none => pure ()
  | some bucket =>
      let refreshed := { bucket with lastChangedNs := now }
      let routing := { node.routing with buckets := node.routing.buckets.set place refreshed }
      set { node with routing }
      emit (.bucketRefresh bucket.low (bucket.high - 1) now)

end DHTNode

/-- What the coroutine that awaits a query does with the response. -/
inductive Caller where
  | ping
  | bootstrap
  | lookup
  | bep51
  | refresh
deriving DecidableEq, Repr

/-- A call of `query`. -/
structure Request where
  caller : Caller
  endpoint : Endpoint
  method : Bytes
  args : Message
  expectedNodeId : Option Bytes

namespace DHTNode

/-- `query` up to its first `await`: what is refused at once. -/
def admitted (env : Environment) (request : Request) (node : DHTNode) : Except PyError Unit :=
  if node.closing then .error (.dhtError "DHT shutting down")
  else if !endpointAllowed env.config node.localIps request.endpoint.1 request.endpoint.2 then
    .error (.dhtError "endpoint policy rejected active DHT endpoint")
  else .ok ()

/-- `{b"id": self.node_id, **args}`. -/
def queryArguments (nodeId : Bytes) (args : Message) : Message :=
  args.foldl (fun entries entry => Dict.set entry.1 entry.2 entries) [(ascii "id", .bytes nodeId)]

/-- The message of a query. -/
def queryMessage (env : Environment) (node : DHTNode) (tid : Bytes) (request : Request) :
    Message :=
  let message := base env tid "q" ++ [(ascii "q", .bytes request.method),
    (ascii "a", .dict (queryArguments node.nodeId request.args))]
  if env.config.dhtReadOnly then message ++ [(ascii "ro", .int 1)] else message

/-- `query` from the moment it has a slot to the moment it waits for the
response; the transaction ID tells which entry it waits for. -/
def launch (env : Environment) (request : Request) : Node Bytes := do
  let node ← get
  let (tid, txCounter) ← Effects.raise (nextTid node.pending 65536 node.txCounter)
  let message := queryMessage env node tid request
  let sentNs ← monotonicNs env
  let pending : PendingQuery :=
    { transactionId := tid
      query := request.method
      endpoint := request.endpoint
      expectedNodeId := request.expectedNodeId
      sentNs
      future := .waiting }
  modify fun node => { node with txCounter, pending := Dict.set tid pending node.pending }
  Effects.when (env.config.debugFullKrpcJsonl ||
      [ascii "get_peers", ascii "sample_infohashes"].contains request.method)
    (emitQueryEvidence message request.endpoint .outgoing request.expectedNodeId)
  tryCatch (send message request.endpoint) fun fault => do
    forget tid
    throw fault
  return tid

/-- `self.routing.mark_failure(..)`. -/
def markFailure (env : Environment) (nodeId : Bytes) : Node Unit := do
  let now ← monotonicNs env
  let node ← get
  let routing ← Effects.raise (node.routing.markFailure env.config now nodeId)
  set { node with routing }

/-- The handler of a timeout in `query`. -/
def timedOut (env : Environment) (request : Request) : Node Unit := do
  let expected := request.expectedNodeId.getD []
  Effects.when (!expected.isEmpty) (markFailure env expected)
  emitError env.config "local" "krpc_timeout" (some request.endpoint)
    (decodeAscii request.method)

/-- The end of a query that has timed out. -/
def expire (env : Environment) (request : Request) (tid : Bytes) : Node Unit := do
  tryCatch (timedOut env request) fun fault => do
    forget tid
    throw fault
  forget tid

/-- `future.cancel()`, which has no effect on a future that is done. -/
def cancelFuture (tid : Bytes) : Node Unit := do
  let node ← get
  match Dict.get? tid node.pending with
  | none => pure ()
  | some pending => settle tid .cancelled pending

/-- The nodes of a response, as a lookup and a sampling round take them up. -/
def takeNodes (env : Environment) (response : Message) : Node Unit :=
  learnContacts env false 0 (returnedContacts response)

/-- What the caller of a query does with the response before it awaits again. -/
def continueWith (env : Environment) (caller : Caller) (endpoint : Endpoint)
    (response : Message) : Node Unit :=
  match caller with
  | .ping | .refresh | .lookup => pure ()
  | .bootstrap =>
      match Value.asKey (response.get? "id") with
      | none => pure ()
      | some remoteId => meet env remoteId endpoint { directResponse := true }
  | .bep51 => takeNodes env response

/-- A caller does nothing more, meets the node that answered, or takes up its nodes. -/
theorem continueWith_ensures {before : DHTNode → Prop} {returned : Unit → DHTNode → Prop}
    {raised : PyError → DHTNode → Prop} (env : Environment) (caller : Caller)
    (endpoint : Endpoint) (response : Message)
    (rests : Effects.Ensures before (pure () : Node Unit) returned raised)
    (meets : ∀ remoteId, Value.asKey (response.get? "id") = some remoteId →
      Effects.Ensures before (meet env remoteId endpoint { directResponse := true }) returned raised)
    (takes : Effects.Ensures before (takeNodes env response) returned raised) :
    Effects.Ensures before (continueWith env caller endpoint response) returned raised := by
  unfold continueWith
  split
  · exact rests
  · exact rests
  · exact rests
  · split
    · exact rests
    · rename_i remoteId named
      exact meets remoteId named
  · exact takes

end DHTNode

/-- Why a query stops waiting for its response. -/
inductive Interrupt where
  | timedOut
  | cancelled
deriving DecidableEq, Repr

/-- A call of `query` that waits for the response to its transaction; it may
have been interrupted and not have run since. -/
structure Flight where
  request : Request
  tid : Bytes
  interrupt : Option Interrupt := none

/-- The node with the coroutines that call `query`, numbered in the order of
their calls: those that wait for the rate limiter or a slot, those that have a
slot and have not gone on yet, and those in flight. `gathered` holds the
responses that a lookup has not looked at yet because it awaits a whole batch;
`returned` keeps what the queries have returned. -/
structure NodeSystem where
  node : DHTNode
  calls : Nat := 0
  waiting : List (Nat × Request) := []
  granted : List (Nat × Request) := []
  flying : List (Nat × Flight) := []
  gathered : List Message := []
  returned : List (Nat × Flight × Message) := []

inductive NodeEvent where
  | connect
  | restore (records : List SnapshotRecord)
  | datagram (data : Bytes) (source : Endpoint)
  | query (request : Request)
  | abandon (number : Nat)
  | grant (number : Nat)
  | decline (number : Nat)
  | launch (number : Nat)
  | timeout (number : Nat)
  | cancel (number : Nat)
  | resume (number : Nat)
  | lookup (place : Nat)
  | refreshBucket (place : Nat) (now : Int)
  | closeIngress

namespace NodeSystem

/-- A query that waits for its response is interrupted: its future is
cancelled, and the coroutine runs later. -/
def interruptFlight (number : Nat) (flight : Flight) (interrupt : Interrupt)
    (system : NodeSystem) : NodeSystem :=
  { system with
    node := Effects.after (DHTNode.cancelFuture flight.tid) system.node
    flying := Dict.set number { flight with interrupt := some interrupt } system.flying }

/-- A query runs on after its wait: with the exception of the interrupt, or with
what its future holds. Its caller goes on with the response up to its next `await`. -/
def resumeFlight (env : Environment) (number : Nat) (flight : Flight) (system : NodeSystem) :
    Option NodeSystem :=
  let ended := { system with flying := Dict.pop number system.flying }
  let freed := Effects.after (DHTNode.forget flight.tid) system.node
  match flight.interrupt with
  | some .timedOut =>
      some { ended with
        node := Effects.after (DHTNode.expire env flight.request flight.tid) system.node }
  | some .cancelled => some { ended with node := freed }
  | none =>
      match (Dict.get? flight.tid system.node.pending).map PendingQuery.future with
      | some (.failed _) => some { ended with node := freed }
      | some (.result response) =>
          let caller := flight.request.caller
          let continued := DHTNode.continueWith env caller flight.request.endpoint response
          some { ended with
            node := Effects.after continued freed
            gathered := system.gathered ++ if caller = .lookup then [response] else []
            returned := system.returned ++ [(number, flight, response)] }
      | _ => none

/-- One event. An exception ends the call that raised it, and the node goes on
with what had been changed by then. -/
def step (env : Environment) (system : NodeSystem) : NodeEvent → Option NodeSystem
  | .connect => some { system with node := { system.node with connected := true } }
  | .restore records =>
      some { system with node := Effects.after (DHTNode.restoreContacts env records) system.node }
  | .datagram data source =>
      some { system with
        node := Effects.after (DHTNode.datagramReceived env data source) system.node }
  | .query request =>
      match system.node.admitted env request with
      | .error _ => some system
      | .ok () =>
          some { system with
            calls := system.calls + 1
            waiting := system.waiting ++ [(system.calls, request)] }
  | .abandon number =>
      (Dict.get? number system.waiting).map fun _ =>
        { system with waiting := Dict.pop number system.waiting }
  | .grant number =>
      (Dict.get? number system.waiting).bind fun request =>
        if system.node.pendingSlots ≤ 0 then none
        else
          some { system with
            node := { system.node with pendingSlots := system.node.pendingSlots - 1 }
            waiting := Dict.pop number system.waiting
            granted := system.granted ++ [(number, request)] }
  | .decline number =>
      (Dict.get? number system.granted).map fun _ =>
        { system with
          node := { system.node with pendingSlots := system.node.pendingSlots + 1 }
          granted := Dict.pop number system.granted }
  | .launch number =>
      (Dict.get? number system.granted).map fun request =>
        let granted := Dict.pop number system.granted
        match DHTNode.launch env request system.node with
        | .ok tid node =>
            { system with node, granted, flying := system.flying ++ [(number, { request, tid })] }
        | .error _ node => { system with node, granted }
  | .timeout number =>
      (Dict.get? number system.flying).bind fun flight =>
        if flight.interrupt.isSome then none
        else some (system.interruptFlight number flight .timedOut)
  | .cancel number =>
      (Dict.get? number system.flying).map fun flight =>
        system.interruptFlight number flight .cancelled
  | .resume number =>
      (Dict.get? number system.flying).bind fun flight => system.resumeFlight env number flight
  | .lookup place =>
      system.gathered[place]?.map fun response =>
        { system with
          node := Effects.after (DHTNode.takeNodes env response) system.node
          gathered := system.gathered.eraseIdx place }
  | .refreshBucket place now =>
      some { system with node := Effects.after (DHTNode.refreshBucket place now) system.node }
  | .closeIngress =>
      some { system with node := Effects.after DHTNode.closeIngress system.node }

/-- A node that was just made, with no coroutine at work. -/
def new (env : Environment) (nodeId : Bytes) (candidates : CandidateManager) (txCounter : Nat)
    (localIps : List String) : Except PyError NodeSystem := do
  let node ← DHTNode.new env nodeId candidates txCounter localIps
  return { node }

theorem new_ok {env : Environment} {nodeId : Bytes} {candidates : CandidateManager}
    {txCounter : Nat} {localIps : List String} {start : NodeSystem}
    (made : new env nodeId candidates txCounter localIps = .ok start) :
    nodeId.length = 20 ∧ 0 ≤ env.config.dhtMaxPendingRequests ∧
      ∃ routing, RoutingTable.new nodeId (env.monotonicNs 0) = .ok routing ∧
        start = { node :=
          { nodeId, candidates, routing, tokens := TokenManager.new env (env.monotonicNs 1)
            pendingSlots := env.config.dhtMaxPendingRequests, txCounter, localIps
            ticks := 2 } } := by
  rcases bind_ok_iff.mp made with ⟨node, isNode, isStart⟩
  unfold DHTNode.new at isNode
  split at isNode
  · cases isNode
  rename_i length
  split at isNode
  · cases isNode
  rename_i positive
  rcases bind_ok_iff.mp isNode with ⟨routing, isRouting, shape⟩
  cases pure_ok_iff.mp isStart
  cases pure_ok_iff.mp shape
  exact ⟨not_not.mp length, by omega, routing, isRouting, rfl⟩

end NodeSystem

end PyDht
