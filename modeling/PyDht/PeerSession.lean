import PyDht.Lib.Effects
import PyDht.PeerWire

set_option autoImplicit false

namespace PyDht

open Effects

/-- What ends a wait for the peer: the timer of the wait, the deadline of the session, the end of
the stream or a failure of the connection. -/
inductive PeerFault where
  | timedOut
  | deadline
  | closed
  | failed (text : String)
deriving DecidableEq, Repr

def PeerFault.error : PeerFault → PyError
  | .timedOut | .deadline => .timeoutError
  | .closed => .incompleteReadError
  | .failed text => .osError text

/-- A connection with what the peer does on it: the bytes that can still be read, what ends a read
beyond them, and how the waits for the send buffer end, one after the other. -/
structure PeerSession where
  incoming : Bytes
  ending : PeerFault
  drains : List (Option PeerFault) := []
  written : List Bytes := []
  expired : Bool := false
deriving DecidableEq, Repr

abbrev Peer := EStateM PyError PeerSession

/-- The pieces of a metadata exchange, as `_download_metadata` keeps them. -/
structure Transfer where
  remoteExtId : Int
  pieces : List (Int × Bytes) := []
  outstanding : List Int := []
  nextPiece : Int := 0
deriving DecidableEq, Repr

namespace Peer

def interrupt {α : Type} (fault : PeerFault) : Peer α := do
  modify fun session => { session with expired := session.expired || fault = .deadline }
  throw fault.error

def readExactly (size : Nat) : Peer Bytes := do
  let session ← get
  if size ≤ session.incoming.length then
    set { session with incoming := session.incoming.drop size }
    return session.incoming.take size
  else interrupt session.ending

def write (message : Bytes) : Peer Unit :=
  modify fun session => { session with written := session.written ++ [message] }

def drain : Peer Unit := do
  let session ← get
  match session.drains with
  | [] => return ()
  | none :: drains => set { session with drains }
  | some fault :: drains =>
      set { session with drains }
      interrupt fault

/-- The length in front of a message, and the message unless it is a keep-alive. -/
def readMessage (config : Config) (category stage : String) : Peer (Option Bytes) := do
  let length := fromBytes (← readExactly 4)
  if length = 0 then return none
  else if config.maxPeerMessageSize < (length : Int) then
    throw (.peerError category stage "peer message exceeds configured limit")
  else return some (← readExactly length)

/-- `_wait_extension_handshake`. The first argument bounds the messages that are read. -/
def waitExtensionHandshake (config : Config) : Nat → Peer ExtensionHandshake
  | 0 => throw .stalled
  | messages + 1 => do
      match ← readMessage config "extension_handshake_invalid" "extension_handshake" with
      | some (messageId :: extensionId :: payload) =>
          if messageId = BT_EXTENDED_MESSAGE_ID ∧ extensionId = 0 then
            raise (PeerWire.parseExtensionHandshake config payload)
          else waitExtensionHandshake config messages
      | _ => waitExtensionHandshake config messages

/-- The loop of `fill_pipeline`. The first argument bounds the requests. -/
def requestPieces (pieceCount pipelineLimit : Int) : Nat → Transfer → Peer Transfer
  | 0, transfer => return transfer
  | requests + 1, transfer => do
      if transfer.nextPiece < pieceCount ∧ (transfer.outstanding.length : Int) < pipelineLimit then
        write (← raise (PeerWire.buildMetadataRequest transfer.remoteExtId transfer.nextPiece))
        requestPieces pieceCount pipelineLimit requests
          { transfer with
            outstanding := transfer.outstanding ++ [transfer.nextPiece]
            nextPiece := transfer.nextPiece + 1 }
      else return transfer

def fillPipeline (pieceCount pipelineLimit : Int) (transfer : Transfer) : Peer Transfer := do
  let transfer ← requestPieces pieceCount pipelineLimit pipelineLimit.toNat transfer
  drain
  return transfer

/-- A further extension handshake, which may change or withdraw the ID of the metadata messages. -/
def remap (config : Config) (payload : Bytes) (transfer : Transfer) : Peer Transfer := do
  let handshake ← raise (PeerWire.parseExtensionHandshake config payload)
  match Dict.get? (ascii "ut_metadata") handshake.mapping with
  | none => return transfer
  | some updated =>
      if updated = 0 then
        throw (.peerError "ut_metadata_unavailable" "metadata"
          "peer disabled ut_metadata during metadata exchange")
      else return { transfer with remoteExtId := updated }

/-- A metadata message: a request is refused, a reject ends the exchange when it is about a
requested piece, and a piece is kept. -/
def receivePiece (config : Config) (metadataSize pieceCount pipelineLimit : Int) (payload : Bytes)
    (transfer : Transfer) : Peer Transfer := do
  let message ← raise (PeerWire.parseMetadataMessage config payload metadataSize pieceCount)
  let piece := message.piece
  if message.msgType = 0 then
    write (← raise (PeerWire.buildMetadataReject LOCAL_UT_METADATA_ID piece))
    drain
    return transfer
  else if message.msgType = 2 then
    if piece ∈ transfer.outstanding then
      throw (.peerError "metadata_rejected" "metadata" s!"peer rejected metadata piece {piece}")
    else return transfer
  else
    match Dict.get? piece transfer.pieces with
    | some known =>
        if known ≠ message.trailing then
          throw (.peerError "metadata_invalid" "metadata" "conflicting duplicate metadata piece")
        else return transfer
    | none =>
        if piece ∉ transfer.outstanding then
          throw (.peerError "metadata_invalid" "metadata" "unsolicited metadata piece")
        else
          fillPipeline pieceCount pipelineLimit
            { transfer with
              pieces := Dict.set piece message.trailing transfer.pieces
              outstanding := transfer.outstanding.filter (· ≠ piece) }

/-- The loop of `_download_metadata`. The first argument bounds the messages that are read. -/
def exchange (config : Config) (metadataSize pieceCount pipelineLimit : Int) :
    Nat → Transfer → Peer Transfer
  | 0, _ => throw .stalled
  | messages + 1, transfer => do
      if pieceCount ≤ (transfer.pieces.length : Int) then return transfer
      else
        let transfer ←
          match ← readMessage config "metadata_invalid" "metadata" with
          | some (messageId :: extensionId :: payload) =>
              if messageId ≠ BT_EXTENDED_MESSAGE_ID then pure transfer
              else if extensionId = 0 then remap config payload transfer
              else if extensionId = LOCAL_UT_METADATA_ID then
                receivePiece config metadataSize pieceCount pipelineLimit payload transfer
              else pure transfer
          | _ => pure transfer
        exchange config metadataSize pieceCount pipelineLimit messages transfer

/-- `b"".join(pieces[i] for i in range(piece_count))`. -/
def assemble (pieceCount : Int) (transfer : Transfer) : Except PyError Bytes :=
  ((List.range pieceCount.toNat).mapM fun index =>
    match Dict.get? (index : Int) transfer.pieces with
    | some piece => Except.ok piece
    | none => Except.error (PyError.keyError "pieces")).map List.flatten

/-- A message takes four bytes at least. -/
def messageBound (session : PeerSession) : Nat := session.incoming.length + 1

def downloadMetadata (config : Config) (remoteExtId metadataSize pipelineLimit : Int) :
    Peer Bytes := do
  let pieceCount := (metadataSize + BEP9_BLOCK_SIZE - 1) / BEP9_BLOCK_SIZE
  let pipelineLimit := max 1 (min config.metadataRequestPipeline
    (if pipelineLimit = 0 then config.metadataRequestPipeline else pipelineLimit))
  if pieceCount ≤ 0 ∨ config.maxMetadataSize < metadataSize then
    throw (.peerError "metadata_invalid" "metadata" "invalid metadata size")
  let transfer ← fillPipeline pieceCount pipelineLimit { remoteExtId }
  let session ← get
  let transfer ← exchange config metadataSize pieceCount pipelineLimit (messageBound session) transfer
  let raw ← raise (assemble pieceCount transfer)
  if (raw.length : Int) ≠ metadataSize then
    throw (.peerError "metadata_invalid" "metadata" "assembled metadata length mismatch")
  return raw

/-- What `_fetch` makes of a failed wait in one of its stages; a session whose deadline has passed
is cancelled, which it does not catch. -/
def inStage {α : Type} (stage timeoutCategory timeoutText failureCategory failureText : String)
    (program : Peer α) : Peer α :=
  tryCatch program fun fault => do
    let session ← get
    match fault with
    | .timeoutError =>
        if session.expired then throw .timeoutError
        else throw (.peerError timeoutCategory stage timeoutText)
    | .incompleteReadError =>
        throw (.peerError "peer_disconnected" stage s!"peer disconnected during {stage}")
    | .osError _ => throw (.peerError failureCategory stage failureText)
    | fault => throw fault

/-- `ipaddress.ip_address` and `asyncio.open_connection`. -/
def connect (endpoint : Endpoint) (refused : Option PeerFault) : Peer Unit :=
  inStage "connect" "connect_timeout" "TCP connect timeout" "connect_failed"
    "TCP connection failed" do
      let _ ← raise (ipAddress endpoint.1)
      match refused with
      | none => return ()
      | some fault => interrupt fault

def btHandshake (infoHash peerId : Bytes) : Peer PeerHandshake :=
  inStage "bt_handshake" "handshake_timeout" "timeout during bt_handshake" "peer_disconnected"
    "peer connection failed during bt_handshake" do
      write (← raise (PeerWire.buildHandshake infoHash peerId))
      drain
      let handshake ← raise (PeerWire.parseHandshake (← readExactly BT_HANDSHAKE_BYTES) infoHash)
      if !handshake.extensionProtocol then
        throw (.peerError "extension_unsupported" "extension_handshake"
          "peer does not advertise BEP-10")
      return handshake

/-- The IDs that the peer announces, the pipeline limit last. -/
def extensionHandshake (config : CrawlerConfig) : Peer (Int × Int × Int) :=
  inStage "extension_handshake" "handshake_timeout" "timeout during extension_handshake"
    "peer_disconnected" "peer connection failed during extension_handshake" do
      write (← raise (PeerWire.buildExtendedHandshake config))
      drain
      let session ← get
      let handshake ← waitExtensionHandshake config.toConfig (messageBound session)
      match handshake.utMetadataId with
      | none =>
          throw (.peerError "ut_metadata_unavailable" "extension_handshake"
            "peer does not advertise ut_metadata")
      | some remoteExtId =>
          match handshake.metadataSize with
          | none =>
              throw (.peerError "extension_handshake_invalid" "extension_handshake"
                "peer did not provide metadata_size")
          | some metadataSize =>
              let pipelineLimit :=
                match handshake.reqq with
                | some reqq =>
                    if 0 < reqq then min config.metadataRequestPipeline reqq
                    else config.metadataRequestPipeline
                | none => config.metadataRequestPipeline
              return (remoteExtId, metadataSize, pipelineLimit)

def metadata (config : CrawlerConfig) (sha1 : Bytes → Bytes) (infoHash : Bytes)
    (offered : Int × Int × Int) : Peer Bytes :=
  inStage "metadata" "metadata_timeout" "metadata exchange timeout" "peer_disconnected"
    "peer connection failed during metadata" do
      let raw ← downloadMetadata config.toConfig offered.1 offered.2.1 offered.2.2
      if sha1 raw ≠ infoHash then
        throw (.peerError "metadata_hash_mismatch" "metadata"
          "exact metadata SHA-1 does not match expected DHT key")
      return raw

/-- The `finally` of `_fetch`: the deadline may still pass while the connection is closed. -/
def closing {α : Type} (lingers : Bool) (program : Peer α) : Peer α :=
  if lingers then do
    tryCatch (discard program) fun _ => return ()
    throw .timeoutError
  else program

/-- `_fetch` on a connection that `refused` may say is not made. -/
def fetch (config : CrawlerConfig) (sha1 : Bytes → Bytes) (peerId : Bytes) (endpoint : Endpoint)
    (infoHash : Bytes) (refused : Option PeerFault) (lingers : Bool) : Peer Bytes := do
  connect endpoint refused
  closing lingers do
    let _ ← btHandshake infoHash peerId
    let offered ← extensionHandshake config
    metadata config sha1 infoHash offered

/-- `fetch_metadata`. -/
def fetchMetadata (config : CrawlerConfig) (sha1 : Bytes → Bytes) (peerId : Bytes)
    (endpoint : Endpoint) (infoHash : Bytes) (refused : Option PeerFault) (lingers : Bool) :
    Peer Bytes :=
  tryCatch (fetch config sha1 peerId endpoint infoHash refused lingers) fun fault =>
    match fault with
    | .timeoutError =>
        throw (.peerError "session_timeout" "session" "peer session deadline exceeded")
    | .bencodeError _ => throw (.peerError "protocol_invalid" "session" "malformed peer bencode")
    | .incompleteReadError | .osError _ =>
        throw (.peerError "peer_io_error" "session" "peer connection closed or failed")
    | fault => throw fault

end Peer

/-- A peer, as one call of `fetch_metadata` meets it. -/
structure PeerScript where
  refused : Option PeerFault := none
  incoming : Bytes := []
  ending : PeerFault := .closed
  drains : List (Option PeerFault) := []
  lingers : Bool := false
deriving DecidableEq, Repr

def PeerScript.session (script : PeerScript) : PeerSession :=
  { incoming := script.incoming, ending := script.ending, drains := script.drains }

def PeerScript.outcome (script : PeerScript) (config : CrawlerConfig) (sha1 : Bytes → Bytes)
    (peerId : Bytes) (endpoint : Endpoint) (infoHash : Bytes) : Except PyError Bytes :=
  match Peer.fetchMetadata config sha1 peerId endpoint infoHash script.refused script.lingers
    script.session with
  | .ok raw _ => .ok raw
  | .error fault _ => .error fault

end PyDht
