import PyDht.DHTNode

set_option autoImplicit false

namespace PyDht

/-- `_require_20`. -/
def require20 (args : Message) (key : String) : Except PyError Bytes :=
  match Value.asKey (args.get? key) with
  | some value => .ok value
  | none => .error (.valueError (key ++ " must be 20 bytes"))

/-- `_validate_want`. -/
def validateWant (value : Option Value) : Except PyError Unit :=
  match value with
  | none => .ok ()
  | some (.list items) =>
      if items.all fun item => (Value.asBytes (some item)).isSome then .ok ()
      else .error (.valueError "want must be a list of byte strings")
  | some _ => .error (.valueError "want must be a list of byte strings")

/-- `_response_matches_query`. -/
def responseMatchesQuery (query : Bytes) (response : Message) : Bool :=
  let hasNodes := (Value.asBytes (response.get? "nodes")).isSome ||
    (Value.asBytes (response.get? "nodes6")).isSome
  if query = ascii "ping" then true
  else if query = ascii "find_node" then hasNodes
  else if query = ascii "get_peers" then
    (Value.asBytes (response.get? "token")).isSome &&
      (((Value.asList (response.get? "values")).any fun values =>
        values.all fun value => (Value.asBytes (some value)).isSome) || hasNodes)
  else if query = ascii "sample_infohashes" then
    (Value.asInt (response.get? "interval")).isSome && (Value.asInt (response.get? "num")).isSome &&
      (Value.asBytes (response.get? "samples")).isSome && hasNodes
  else true

namespace DHTNode

/-- `_safe_text`. -/
def safeText (config : Config) (raw : Bytes) : String :=
  String.ofList ((Utf8.decodeReplace raw).take config.maxEvidenceTextLength.toNat)

/-- The decoding and the envelope checks at the start of `handle_datagram`. -/
def receive (config : Config) (data : Bytes) : Except PyError Message := do
  let value ← Bencode.decode data
    { maxDepth := config.maxBencodeDepth
      maxItems := config.maxBencodeItems
      maxStringLength := min config.maxBencodeStringLength config.dhtReceiveMaxBytes }
  match value with
  | .dict entries =>
      let msg : Message := entries
      match Value.asBytes (msg.get? "t") with
      | none | some [] => throw (.bencodeError "invalid KRPC envelope")
      | some (_ :: _) =>
          match msg.get? "y" with
          -- the set of kinds cannot be asked for a list or a dictionary
          | some (.list _) => throw (.typeError "unhashable type: \x27list\x27")
          | some (.dict _) => throw (.typeError "unhashable type: \x27dict\x27")
          | some (.bytes kind) =>
              if [ascii "q", ascii "r", ascii "e"].contains kind then return msg
              else throw (.bencodeError "invalid KRPC envelope")
          | _ => throw (.bencodeError "invalid KRPC envelope")
  | _ => throw (.bencodeError "KRPC top-level value is not a dictionary")

/-- `_emit_query_evidence`. -/
def emitQueryEvidence (msg : Message) (endpoint : Endpoint) (direction : Direction)
    (expectedNodeId : Option Bytes) : Node Unit :=
  let args := (Value.asDict (msg.get? "a")).getD []
  let remoteNodeId :=
    match direction with
    | .incoming => Value.asKey (args.get? "id")
    | .outgoing => expectedNodeId.filter fun nodeId => nodeId.length = 20
  emit (.query direction ((Value.asBytes (msg.get? "t")).getD []) (Value.asBytes (msg.get? "q"))
    endpoint remoteNodeId (((msg.get? "ro").map Value.truth).getD false)
    (Value.asKey (args.get? "info_hash")) (Value.asKey (args.get? "target")))

/-- The samples of a response, each reported and submitted. -/
def emitSamples (env : Environment) : Nat → List Bytes → Node Unit
  | _, [] => pure ()
  | index, key :: rest => do
      emit (.bep51Sample index key)
      submit env key "bep51" none
      emitSamples env (index + 1) rest

def emitValue (index : Nat) (raw : Value) : Node Unit :=
  match (Value.asBytes (some raw)).map parseCompactPeer with
  | some (.ok endpoint) => emit (.getPeersValue index endpoint)
  | _ => pure ()

def emitValues : Nat → List Value → Node Unit
  | _, [] => pure ()
  | index, raw :: rest => do
      emitValue index raw
      emitValues (index + 1) rest

/-- `len(raw) // size if len(raw) % size == 0 else 0` for a field of byte strings. -/
def countSlices (size : Nat) (raw : Option Bytes) : Nat :=
  match raw with
  | some text => if text.length % size = 0 then text.length / size else 0
  | none => 0

/-- The keys in the samples of a response. -/
def sampleKeys (response : Message) : List Bytes :=
  match Value.asBytes (response.get? "samples") with
  | some text => if text.length % 20 = 0 then slices 20 (text.length / 20) text else []
  | none => []

/-- `_emit_response_evidence`. -/
def emitResponseEvidence (env : Environment) (msg : Message) (endpoint : Endpoint)
    (query : Bytes) (direction : Direction) : Node Unit := do
  let response := (Value.asDict (msg.get? "r")).getD []
  let isSampling := decide (query = ascii "sample_infohashes")
  Effects.when isSampling (emitSamples env 0 (sampleKeys response))
  let values := (Value.asList (response.get? "values")).getD []
  emitValues 0 values
  let remoteNodeId :=
    match direction with
    | .incoming => Value.asKey (response.get? "id")
    | .outgoing => none
  emit (.response direction ((Value.asBytes (msg.get? "t")).getD []) query endpoint remoteNodeId
    ((Value.asBytes (response.get? "token")).map List.length) values.length
    (countSlices COMPACT_IPV4_NODE_BYTES (Value.asBytes (response.get? "nodes")))
    (countSlices COMPACT_IPV6_NODE_BYTES (Value.asBytes (response.get? "nodes6")))
    (if isSampling then some (sampleKeys response).length else none))

/-- `_compact_closest`, given the contacts. -/
def compactContacts : List Contact → Except PyError Bytes
  | [] => .ok []
  | contact :: rest => do
      let packed ← compactNode contact.nodeId (contact.ip, contact.port)
      return packed ++ (← compactContacts rest)

def compactClosest (env : Environment) (target : Bytes) : Node Bytes := do
  let contacts ← closestGood env target
  Effects.raise (compactContacts contacts)

/-- `len(bencode.encode(self._base(b"aa", b"r") | {b"r": response}))`. -/
def trialLength (env : Environment) (response : Message) : Except PyError Nat := do
  let payload ← Bencode.encode (.dict ((base env (ascii "aa") "r").set "r" (.dict response)))
  return payload.length

/-- The loop that adds packed contacts as long as the response stays small enough. -/
def fitNodes (env : Environment) (response : Message) :
    Bytes → List Contact → Except PyError Bytes
  | nodes, [] => .ok nodes
  | nodes, contact :: rest => do
      let candidate := nodes ++ (← compactNode contact.nodeId (contact.ip, contact.port))
      if MAX_DHT_RESPONSE_BYTES < (← trialLength env (response.set "nodes" (.bytes candidate))) then
        return nodes
      else fitNodes env response candidate rest

/-- The same loop over the peers of a key; peers that are not allowed are left out. -/
def fitValues (env : Environment) (localIps : List String) (response : Message) :
    List Value → List Endpoint → Except PyError (List Value)
  | values, [] => .ok values
  | values, peer :: rest => do
      if !endpointAllowed env.config localIps peer.1 peer.2 then
        fitValues env localIps response values rest
      else
        let candidate := values ++ [.bytes (← compactPeer peer)]
        if MAX_DHT_RESPONSE_BYTES <
            (← trialLength env (response.set "values" (.list candidate))) then
          return values
        else fitValues env localIps response candidate rest

/-- `_incoming_get_peers`. -/
def incomingGetPeers (env : Environment) (args : Message) (endpoint : Endpoint) :
    Node Message := do
  let key ← Effects.raise (require20 args "info_hash")
  Effects.raise (validateWant (args.get? "want"))
  submit env key "get_peers" none
  emit (.passiveGetPeers key)
  let issuedNs ← monotonicNs env
  let token ← onTokens (TokenManager.issue env issuedNs endpoint.1)
  let node ← get
  let response : Message := [(ascii "id", .bytes node.nodeId), (ascii "token", .bytes token)]
  let now ← monotonicNs env
  let peers ← onPeerStore (modifyGet fun peerStore => peerStore.get env.config now key)
  if peers.isEmpty then
    let contacts ← closestGood env key
    let nodes ← Effects.raise (fitNodes env response [] contacts)
    return response.set "nodes" (.bytes nodes)
  else
    let values ← Effects.raise (fitValues env node.localIps response [] peers)
    return response.set "values" (.list values)

/-- `isinstance(token, bytes) and self.tokens.validate(endpoint[0], token)`. -/
def tokenValid (env : Environment) (ip : String) (token : Option Bytes) : Node Bool := do
  match token with
  | none => return false
  | some token =>
      let due ← monotonicNs env
      let now ← monotonicNs env
      onTokens (TokenManager.validate env due now ip token)

/-- The `port` of an announcement. -/
def announcePort (args : Message) : Except PyError Int :=
  match Value.asInt (args.get? "port") with
  | some port =>
      if 1 ≤ port ∧ port ≤ 65535 then .ok port
      else .error (.valueError "invalid announce port")
  | none => .error (.valueError "invalid announce port")

/-- Whether an announcement asks for the port that it was sent from. -/
def announceImplied (args : Message) : Except PyError Bool :=
  match args.get? "implied_port" with
  | none => .ok false
  | some (.int number) => .ok (decide (number ≠ 0))
  | some _ => .error (.valueError "invalid implied_port")

/-- What `_incoming_announce_peer` does with an endpoint that is allowed. -/
def storePeer (env : Environment) (key : Bytes) (peer : Endpoint) (implied : Bool) :
    Node Unit := do
  let now ← monotonicNs env
  let stamp ← monotonicNs env
  onPeerStore (PeerStore.add env.config now stamp key peer)
  submit env key "announce_peer" (some { ip := peer.1, port := peer.2, impliedPort := implied })

/-- `_incoming_announce_peer`. -/
def incomingAnnouncePeer (env : Environment) (args : Message) (endpoint : Endpoint)
    (msg : Message) : Node Message := do
  let key ← Effects.raise (require20 args "info_hash")
  let portArgument ← Effects.raise (announcePort args)
  let implied ← Effects.raise (announceImplied args)
  let effectivePort := if implied then endpoint.2 else portArgument
  let token := Value.asBytes (args.get? "token")
  let valid ← tokenValid env endpoint.1 token
  emit (.announcePeer (Value.asBytes (args.get? "id")) endpoint key portArgument implied
    effectivePort (token.map List.length) valid (((msg.get? "ro").map Value.truth).getD false))
  Effects.check valid (.krpcError 203 "Bad token")
  let node ← get
  Effects.when (endpointAllowed env.config node.localIps endpoint.1 effectivePort)
    (storePeer env key (endpoint.1, effectivePort) implied)
  return [(ascii "id", .bytes node.nodeId)]

/-- `random.sample(keys, count) if count and count < len(keys) else list(keys[:count])`. -/
def chooseSamples (env : Environment) (tick : Nat) (keys : List Bytes) :
    Except PyError (List Bytes) :=
  let count := min env.config.bep51MaxSamplesPerResponse keys.length
  if count < 0 then .error (.valueError "Sample larger than population or is negative")
  else if count ≠ 0 ∧ count < keys.length then .ok (env.sample tick keys count.toNat)
  else .ok (keys.take count.toNat)

/-- The last loop of `_incoming_sample_infohashes`: samples are dropped until
the response is small enough. The first argument bounds the rounds. -/
def trimSamples (env : Environment) : Nat → Message → List Bytes → Except PyError Message
  | 0, response, _ => .ok response
  | rounds + 1, response, samples => do
      if MAX_DHT_RESPONSE_BYTES < (← trialLength env response) ∧ samples ≠ [] then
        trimSamples env rounds
          (response.set "samples" (.bytes samples.dropLast.flatten)) samples.dropLast
      else return response

/-- The samples to answer with, drawn anew when the last ones are too old. -/
def currentSamples (env : Environment) (keys : List Bytes) : Node (List Bytes) := do
  let now ← monotonicNs env
  let node ← get
  let intervalNs := env.config.dhtBep51ResponseInterval * 1000000000
  match node.sampleCache.filter fun cache => now < cache.1 with
  | some cache => return cache.2
  | none =>
      let sampled ← Effects.raise (chooseSamples env node.ticks keys)
      set { node with sampleCache := some (now + intervalNs, sampled), ticks := node.ticks + 1 }
      return sampled

/-- `_incoming_sample_infohashes`. -/
def incomingSampleInfohashes (env : Environment) (args : Message) : Node Message := do
  let target ← Effects.raise (require20 args "target")
  let listed ← monotonicNs env
  let keys ← onPeerStore (modifyGet fun peerStore => peerStore.keys env.config listed)
  let samples ← currentSamples env keys
  let node ← get
  let response : Message :=
    [(ascii "id", .bytes node.nodeId),
      (ascii "interval", .int env.config.dhtBep51ResponseInterval),
      (ascii "num", .int keys.length), (ascii "samples", .bytes samples.flatten)]
  let contacts ← closestGood env target
  let nodes ← Effects.raise (fitNodes env response [] contacts)
  Effects.raise
    (trimSamples env (samples.length + 1) (response.set "nodes" (.bytes nodes)) samples)

/-- Observation of the querying node and the record of its query. -/
def greet (env : Environment) (msg : Message) (endpoint : Endpoint) (method remoteId : Bytes) :
    Node Unit := do
  let node ← get
  Effects.when (endpointAllowed env.config node.localIps endpoint.1 endpoint.2)
    (meet env remoteId endpoint
      { incomingQuery := true
        readOnly := ((msg.get? "ro").map Value.truth).getD false
        clientVersion := Value.asBytes (msg.get? "v") })
  Effects.when (env.config.debugFullKrpcJsonl || [ascii "get_peers", ascii "announce_peer",
      ascii "sample_infohashes", ascii "get", ascii "put"].contains method)
    (emitQueryEvidence msg endpoint .incoming none)

/-- The response to a query; `none` for a method that the node does not answer. -/
def reply (env : Environment) (method : Bytes) (args : Message) (endpoint : Endpoint)
    (msg : Message) : Node (Option Message) := do
  let node ← get
  if method = ascii "ping" then return some [(ascii "id", .bytes node.nodeId)]
  else if method = ascii "find_node" then
    let target ← Effects.raise (require20 args "target")
    let nodes ← compactClosest env target
    return some [(ascii "id", .bytes node.nodeId), (ascii "nodes", .bytes nodes)]
  else if method = ascii "get_peers" then
    return some (← incomingGetPeers env args endpoint)
  else if method = ascii "announce_peer" then
    return some (← incomingAnnouncePeer env args endpoint msg)
  else if method = ascii "sample_infohashes" ∧ env.config.dhtBep51Enabled then
    return some (← incomingSampleInfohashes env args)
  else return none

/-- The `try` block of `_handle_query`. -/
def respond (env : Environment) (tid method : Bytes) (args : Message) (endpoint : Endpoint)
    (msg : Message) : Node Unit := do
  match ← reply env method args endpoint msg with
  | none =>
      Effects.when ([ascii "get", ascii "put"].contains method)
        (emit (.bep44Observation method endpoint))
      sendError env tid 204 "Method Unknown" endpoint (some method)
  | some response =>
      let message := (base env tid "r").set "r" (.dict response)
      let payload ← Effects.raise (Bencode.encode (.dict message))
      Effects.check (decide (payload.length ≤ MAX_DHT_RESPONSE_BYTES))
        (.krpcError 202 "Response too large")
      send message endpoint
      Effects.when (env.config.debugFullKrpcJsonl || [ascii "get_peers", ascii "announce_peer",
          ascii "sample_infohashes"].contains method)
        (emitResponseEvidence env message endpoint method .outgoing)

/-- `_handle_query`. -/
def handleQuery (env : Environment) (msg : Message) (endpoint : Endpoint) : Node Unit := do
  let tid := (Value.asBytes (msg.get? "t")).getD []
  match Value.asBytes (msg.get? "q"), Value.asDict (msg.get? "a") with
  | some method, some args =>
      match Value.asKey (args.get? "id") with
      | none => sendError env tid 203 "Invalid node ID" endpoint none
      | some remoteId =>
          greet env msg endpoint method remoteId
          tryCatch (respond env tid method args endpoint msg) fun fault =>
            match fault with
            | .krpcError code message => sendError env tid code message endpoint (some method)
            | _ =>
                if fault.isValueOrTypeError then
                  sendError env tid 203 fault.text endpoint (some method)
                else throw fault
  | _, _ => sendError env tid 203 "Protocol Error" endpoint none

/-- The contacts of a list of nodes, each reported if asked for and observed if allowed. -/
def learnContacts (env : Environment) (emitChildren : Bool) :
    Nat → List (Bytes × String × Int) → Node Unit
  | _, [] => pure ()
  | index, (nodeId, endpoint) :: rest => do
      Effects.when emitChildren (emit (.returnedNode index nodeId endpoint))
      let node ← get
      Effects.when (endpointAllowed env.config node.localIps endpoint.1 endpoint.2)
        (meet env nodeId endpoint {})
      learnContacts env emitChildren (index + 1) rest

def reportContacts6 : Nat → List (Bytes × Bytes × Nat) → Node Unit
  | _, [] => pure ()
  | index, (nodeId, address, port) :: rest => do
      emit (.returnedNode6 index nodeId address port)
      reportContacts6 (index + 1) rest

/-- The contacts in the `nodes` of a response; a malformed list counts as empty. -/
def returnedContacts (response : Message) : List (Bytes × String × Int) :=
  match (Value.asBytes (response.get? "nodes")).map parseCompactNodes with
  | some (.ok contacts) => contacts
  | _ => []

def returnedContacts6 (response : Message) : List (Bytes × Bytes × Nat) :=
  match (Value.asBytes (response.get? "nodes6")).map parseCompactNodes6 with
  | some (.ok contacts) => contacts
  | _ => []

/-- `_parse_response_contacts`. -/
def parseResponseContacts (env : Environment) (response : Message) (emitChildren : Bool) :
    Node Unit := do
  learnContacts env emitChildren 0 (returnedContacts response)
  Effects.when emitChildren (reportContacts6 0 (returnedContacts6 response))

/-- The future of a pending query is done, unless it was before. -/
def settle (tid : Bytes) (outcome : QueryFuture) (pending : PendingQuery) : Node Unit :=
  match pending.future with
  | .waiting =>
      modify fun node =>
        { node with pending := Dict.set tid { pending with future := outcome } node.pending }
  | _ => pure ()

/-- The exception for an error message. -/
def remoteError (config : Config) (error : Option Value) : Int × String :=
  match error with
  | some (.list (.int code :: .bytes text :: _)) => (code, safeText config text)
  | some (.list (.int code :: _ :: _)) => (code, "remote error")
  | _ => (201, "Malformed remote error")

/-- The end of `_handle_response_or_error`, for a response that has passed all checks. -/
def acceptResponse (env : Environment) (msg : Message) (endpoint : Endpoint) (tid : Bytes)
    (pending : PendingQuery) (response : Message) (remoteId : Bytes) : Node Unit := do
  let node ← get
  Effects.when (endpointAllowed env.config node.localIps endpoint.1 endpoint.2)
    (meet env remoteId endpoint
      { directResponse := true, clientVersion := Value.asBytes (msg.get? "v") })
  let important := env.config.debugFullKrpcJsonl ||
    [ascii "get_peers", ascii "sample_infohashes"].contains pending.query
  parseResponseContacts env response important
  Effects.when important (emitResponseEvidence env msg endpoint pending.query .incoming)
  settle tid (.result response) pending

/-- `_handle_response_or_error`. -/
def handleResponseOrError (env : Environment) (msg : Message) (endpoint : Endpoint) :
    Node Unit := do
  let tid := (Value.asBytes (msg.get? "t")).getD []
  let node ← get
  match Dict.get? tid node.pending with
  | none => pure ()
  | some pending =>
      if endpoint ≠ pending.endpoint then
        emitError env.config "krpc" "response_endpoint_mismatch" (some endpoint) ""
      else if Value.asBytes (msg.get? "y") = some (ascii "e") then
        let (code, message) := remoteError env.config (msg.get? "e")
        settle tid (.failed (.krpcError code message)) pending
        emit (.krpcError tid (some pending.query) code message endpoint)
      else
        match Value.asDict (msg.get? "r") with
        | none => emitError env.config "krpc" "malformed_response" (some endpoint) ""
        | some response =>
            match Value.asKey (response.get? "id") with
            | none => emitError env.config "krpc" "response_missing_node_id" (some endpoint) ""
            | some remoteId =>
                if pending.expectedNodeId.any (· ≠ remoteId) then
                  emitError env.config "krpc" "response_node_id_mismatch" (some endpoint) ""
                else if !responseMatchesQuery pending.query response then
                  emitError env.config "krpc" "response_query_state_mismatch" (some endpoint) ""
                else
                  acceptResponse env msg endpoint tid pending response remoteId

/-- `handle_datagram`. -/
def handleDatagram (env : Environment) (data : Bytes) (endpoint : Endpoint) : Node Unit :=
  match receive env.config data with
  | .error fault =>
      if fault.isValueOrTypeError then
        emitError env.config "krpc" "malformed_krpc" (some endpoint) fault.text
      else throw fault
  | .ok msg =>
      if Value.asBytes (msg.get? "y") = some (ascii "q") then
        if env.config.dhtReadOnly then pure () else handleQuery env msg endpoint
      else handleResponseOrError env msg endpoint

/-- `DHTProtocol.datagram_received`. -/
def datagramReceived (env : Environment) (data : Bytes) (endpoint : Endpoint) : Node Unit :=
  if env.config.dhtReceiveMaxBytes < data.length then
    emitError env.config "local" "oversized_datagram" (some endpoint) (toString data.length)
  else handleDatagram env data endpoint

end DHTNode

end PyDht
