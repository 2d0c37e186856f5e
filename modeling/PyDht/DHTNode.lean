import PyDht.Bencode
import PyDht.Candidates
import PyDht.PeerStore
import PyDht.RoutingTable
import PyDht.Text
import PyDht.Tokens

set_option autoImplicit false

namespace PyDht

def MAX_DHT_RESPONSE_BYTES : Nat := 1024

/-- The entries of a KRPC dictionary. -/
abbrev Message := List (Bytes × Value)

def Message.get? (key : String) (message : Message) : Option Value :=
  Dict.get? (ascii key) message

/-- `message | {key: value}`. -/
def Message.set (key : String) (value : Value) (message : Message) : Message :=
  Dict.set (ascii key) value message

namespace Value

/-- `value if isinstance(value, bytes) else None`. -/
def asBytes : Option Value → Option Bytes
  | some (.bytes text) => some text
  | _ => none

def asInt : Option Value → Option Int
  | some (.int number) => some number
  | _ => none

def asList : Option Value → Option (List Value)
  | some (.list items) => some items
  | _ => none

def asDict : Option Value → Option Message
  | some (.dict entries) => some entries
  | _ => none

/-- A byte string of the length of a node ID. -/
def asKey (value : Option Value) : Option Bytes :=
  (asBytes value).filter fun text => text.length = 20

/-- `bool(value)`. -/
def truth : Value → Bool
  | .int number => decide (number ≠ 0)
  | .bytes text => !text.isEmpty
  | .list items => !items.isEmpty
  | .dict entries => !entries.isEmpty

end Value

inductive Direction where
  | incoming
  | outgoing
deriving DecidableEq, Repr

/-- The records that the node passes to `emit`, with what tells them apart. -/
inductive NodeRecord where
  | error (source event : String) (endpoint : Option Endpoint) (detail : String)
  | krpcError (tid : Bytes) (associatedQuery : Option Bytes) (code : Int) (message : String)
      (endpoint : Endpoint)
  | query (direction : Direction) (tid : Bytes) (method : Option Bytes) (endpoint : Endpoint)
      (remoteNodeId : Option Bytes) (readOnly : Bool) (infoHash target : Option Bytes)
  | response (direction : Direction) (tid query : Bytes) (endpoint : Endpoint)
      (remoteNodeId : Option Bytes) (tokenLength : Option Nat)
      (peerCount node4Count node6Count : Nat) (sampleCount : Option Nat)
  | returnedNode (index : Nat) (nodeId : Bytes) (endpoint : Endpoint)
  | returnedNode6 (index : Nat) (nodeId address : Bytes) (port : Nat)
  | bep51Sample (index : Nat) (key : Bytes)
  | getPeersValue (index : Nat) (endpoint : Endpoint)
  | passiveGetPeers (key : Bytes)
  | announcePeer (nodeId : Option Bytes) (source : Endpoint) (key : Bytes) (portArgument : Int)
      (impliedPort : Bool) (effectivePort : Int) (tokenLength : Option Nat) (tokenValid : Bool)
      (readOnly : Bool)
  | bep44Observation (method : Bytes) (endpoint : Endpoint)
  | bucketRefresh (bucketMin bucketMax : Nat) (bucketLastChangedNs : Int)
deriving DecidableEq, Repr

/-- The records of type `discovery` or `peer`. -/
def NodeRecord.isFinding : NodeRecord → Bool
  | .bep51Sample .. | .getPeersValue .. | .passiveGetPeers _ | .announcePeer .. => true
  | _ => false

inductive QueryFuture where
  | waiting
  | result (response : Message)
  | failed (error : PyError)
  | cancelled

structure PendingQuery where
  transactionId : Bytes
  query : Bytes
  endpoint : Endpoint
  expectedNodeId : Option Bytes
  sentNs : Int
  future : QueryFuture

/-- A datagram that went out: the message, its encoding, where it went, and how
often the node had asked its surroundings before. -/
structure Sent where
  message : Message
  payload : Bytes
  endpoint : Endpoint
  tick : Nat

/-- The node with what it has sent and emitted; `ticks` counts what it has
drawn from its surroundings. -/
structure DHTNode where
  nodeId : Bytes
  candidates : CandidateManager
  connected : Bool := false
  routing : RoutingTable
  tokens : TokenManager
  peerStore : PeerStore := {}
  pendingSlots : Int
  pending : List (Bytes × PendingQuery) := []
  txCounter : Nat
  localIps : List String
  sampleCache : Option (Int × List Bytes) := none
  closing : Bool := false
  ticks : Nat
  sent : List Sent := []
  emitted : List NodeRecord := []

abbrev Node := EStateM PyError DHTNode

namespace DHTNode

/-- `DHTNode.__init__`; the table and the tokens read the clock. -/
def new (env : Environment) (nodeId : Bytes) (candidates : CandidateManager) (txCounter : Nat)
    (localIps : List String) : Except PyError DHTNode :=
  if nodeId.length ≠ 20 then .error (.valueError "node ID must be 20 bytes")
  else if env.config.dhtMaxPendingRequests < 0 then
    .error (.valueError "Semaphore initial value must be >= 0")
  else do
    let routing ← RoutingTable.new nodeId (env.monotonicNs 0)
    return { nodeId, candidates, routing, tokens := TokenManager.new env (env.monotonicNs 1)
             pendingSlots := env.config.dhtMaxPendingRequests, txCounter, localIps, ticks := 2 }

/-- `time.monotonic_ns()`. -/
def monotonicNs (env : Environment) : Node Int := do
  let node ← get
  set { node with ticks := node.ticks + 1 }
  return env.monotonicNs node.ticks

/-- `time.time_ns()`. -/
def timeNs (env : Environment) : Node Int := do
  let node ← get
  set { node with ticks := node.ticks + 1 }
  return env.timeNs node.ticks

def emit (record : NodeRecord) : Node Unit :=
  modify fun node => { node with emitted := node.emitted ++ [record] }

def emitError (config : Config) (source event : String) (endpoint : Option Endpoint)
    (detail : String) : Node Unit :=
  emit (.error source event endpoint
    (String.ofList (detail.toList.take config.maxEvidenceTextLength.toNat)))

/-- `self.routing.observe(..)`. -/
def observe (env : Environment) (nodeId : Bytes) (endpoint : Endpoint) (sighting : Sighting) :
    Node (Option Contact) := do
  let now ← monotonicNs env
  let node ← get
  let (routing, contact) ← Effects.raise
    (node.routing.observe env.config now nodeId endpoint.1 endpoint.2 sighting)
  set { node with routing }
  return contact

/-- An observation whose result nobody asks for. -/
def meet (env : Environment) (nodeId : Bytes) (endpoint : Endpoint) (sighting : Sighting) :
    Node Unit := do
  let _ ← observe env nodeId endpoint sighting

/-- `self.routing.closest(target, DHT_K, good_only=True)`. -/
def closestGood (env : Environment) (target : Bytes) : Node (List Contact) := do
  let now ← monotonicNs env
  let node ← get
  Effects.raise (node.routing.closest env.config now target DHT_K true)

/-- `self.candidates.submit(..)`. -/
def submit (env : Environment) (key : Bytes) (source : String) (peerHint : Option PeerHint) :
    Node Unit := do
  let now ← monotonicNs env
  let wall ← timeNs env
  modify fun node =>
    { node with
      candidates := (node.candidates.submit env.config now wall key source peerHint false).2 }

def onTokens {α : Type} (program : EStateM PyError TokenManager α) : Node α :=
  Effects.zoom (fun node => node.tokens) (fun tokens node => { node with tokens }) program

def onPeerStore {α : Type} (program : EStateM PyError PeerStore α) : Node α :=
  Effects.zoom (fun node => node.peerStore) (fun peerStore node => { node with peerStore }) program

/-- `_base`. -/
def base (env : Environment) (tid : Bytes) (kind : String) : Message :=
  [(ascii "t", .bytes tid), (ascii "y", .bytes (ascii kind)),
    (ascii "v", .bytes env.config.dhtClientVersion)]

/-- `_send`. -/
def send (message : Message) (endpoint : Endpoint) : Node Unit := do
  let node ← get
  Effects.check node.connected (.dhtError "UDP transport not ready")
  let payload ← Effects.raise (Bencode.encode (.dict message))
  Effects.check (decide (payload.length ≤ MAX_DHT_RESPONSE_BYTES))
    (.dhtError "outbound DHT datagram exceeds 1024-byte protocol limit")
  let datagram : Sent := { message, payload, endpoint, tick := node.ticks }
  set { node with sent := node.sent ++ [datagram] }

/-- `_send_error`. -/
def sendError (env : Environment) (tid : Bytes) (code : Int) (text : String)
    (endpoint : Endpoint) (associatedQuery : Option Bytes) : Node Unit := do
  let limit := env.config.maxEvidenceTextLength.toNat
  let message := (base env tid "e").set "e"
    (.list [.int code, .bytes ((encodeUtf8 text).take limit)])
  tryCatch (send message endpoint) fun fault =>
    if fault.isDHTError then pure () else throw fault
  emit (.krpcError tid associatedQuery code (String.ofList (text.toList.take limit)) endpoint)

end DHTNode

end PyDht
