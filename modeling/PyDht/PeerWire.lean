import PyDht.BencodeErrors
import PyDht.DHTNode

set_option autoImplicit false

namespace PyDht

/-- The values of `config.py` that only the crawler around the node reads. -/
structure CrawlerConfig extends Config where
  peerClientName : Bytes := [112, 121, 68, 72, 84, 47, 48, 46, 49]
  hashQueueSize : Int := 5000
  retryScanBatchSize : Int := 32
  keywordMonitoringEnabled : Bool := false
  keywords : List String := []
  keywordCaseSensitive : Bool := false

def BT_PROTOCOL : Bytes := ascii "BitTorrent protocol"
def BT_HANDSHAKE_BYTES : Nat := 68
def BT_EXTENDED_MESSAGE_ID : UInt8 := 20
def BEP9_BLOCK_SIZE : Int := 16 * 1024
def LOCAL_UT_METADATA_ID : UInt8 := 1

structure PeerHandshake where
  protocolIdentifier : Bytes
  reserved : Bytes
  infoHash : Bytes
  peerId : Bytes
deriving DecidableEq, Repr

def PeerHandshake.extensionProtocol (handshake : PeerHandshake) : Bool :=
  handshake.reserved.getD 5 0 &&& 0x10 ≠ 0

structure ExtensionHandshake where
  mapping : List (Bytes × Int)
  utMetadataId : Option Int
  metadataSize : Option Int
  peerListenPort : Option Int
  peerClient : Option String
  yourip : Option IPAddress
  advertisedIpv4 : Option IPAddress
  advertisedIpv6 : Option IPAddress
  reqq : Option Int
deriving DecidableEq, Repr

/-- What `parse_metadata_message` returns, with the fields of the header that its caller reads. -/
structure MetadataMessage where
  header : Message
  msgType : Int
  piece : Int
  trailing : Bytes
deriving Repr

/-- `struct.pack("!I", value)` for a value in range. -/
def packUInt32 (value : Nat) : Bytes :=
  packUInt16 (value / 65536 % 65536) ++ packUInt16 (value % 65536)

namespace PeerWire

def buildHandshake (infoHash peerId : Bytes) : Except PyError Bytes :=
  if infoHash.length ≠ 20 ∨ peerId.length ≠ 20 then
    .error (.valueError "info_hash and peer_id must be 20 bytes")
  else
    .ok (UInt8.ofNat BT_PROTOCOL.length :: BT_PROTOCOL ++ [0, 0, 0, 0, 0, 0x10, 0, 0x01] ++
      infoHash ++ peerId)

def parseHandshake (data expectedInfoHash : Bytes) : Except PyError PeerHandshake :=
  let invalid := PyError.peerError "handshake_invalid" "bt_handshake"
  if data.length ≠ BT_HANDSHAKE_BYTES then
    .error (invalid "invalid BitTorrent handshake length")
  else if data.head? ≠ some (UInt8.ofNat BT_PROTOCOL.length) ∨
      (data.drop 1).take 19 ≠ BT_PROTOCOL then
    .error (invalid "unexpected BitTorrent protocol identifier")
  else if (data.drop 28).take 20 ≠ expectedInfoHash then
    .error (invalid "wire infohash mismatch")
  else
    .ok { protocolIdentifier := BT_PROTOCOL, reserved := (data.drop 20).take 8,
          infoHash := (data.drop 28).take 20, peerId := (data.drop 48).take 20 }

/-- `except bencode.BencodeError`; a plain `ValueError` goes through. -/
def normalized {α : Type} (fault : PyError) : Except PyError α → Except PyError α
  | .error (.bencodeError _) => .error fault
  | outcome => outcome

def limits (config : Config) : Bencode.DecodeLimits :=
  { maxDepth := config.maxBencodeDepth, maxItems := config.maxBencodeItems,
    maxStringLength := config.maxBencodeStringLength }

/-- `_compact_ip`. -/
def compactIp (value : Option Value) : Option IPAddress :=
  match Value.asBytes value with
  | some [first, second, third, fourth] => some (.v4 first second third fourth)
  | some packed => if packed.length = 16 then some (.v6 packed) else none
  | none => none

/-- The extension IDs of the mapping that are in range. -/
def extensionIds (value : Option Value) : List (Bytes × Int) :=
  ((Value.asDict value).getD []).filterMap fun entry =>
    ((Value.asInt (some entry.2)).filter fun number => 0 ≤ number ∧ number ≤ 255).map (entry.1, ·)

/-- The keys of the dictionary, which are those of the value that was decoded. -/
def extensionHandshake (config : Config) (value : Message) : Except PyError ExtensionHandshake :=
  let mapping := extensionIds (value.get? "m")
  let built (metadataSize : Option Int) : ExtensionHandshake :=
    { mapping, utMetadataId := (Dict.get? (ascii "ut_metadata") mapping).filter (· ≠ 0),
      metadataSize
      peerListenPort :=
        (Value.asInt (value.get? "p")).filter fun port => 1 ≤ port ∧ port ≤ 65535
      peerClient := (Value.asBytes (value.get? "v")).map fun client =>
        String.ofList ((Utf8.decodeReplace client).take config.maxEvidenceTextLength.toNat)
      yourip := compactIp (value.get? "yourip")
      advertisedIpv4 := compactIp (value.get? "ipv4")
      advertisedIpv6 := compactIp (value.get? "ipv6")
      reqq := (Value.asInt (value.get? "reqq")).filter (0 ≤ ·) }
  let excessive := PyError.peerError "extension_handshake_invalid" "extension_handshake"
    "invalid or excessive metadata_size"
  match value.get? "metadata_size" with
  | none => .ok (built none)
  | some (.int size) =>
      if size ≤ 0 ∨ config.maxMetadataSize < size then .error excessive
      else .ok (built (some size))
  | some _ => .error excessive

def parseExtensionHandshake (config : Config) (payload : Bytes) :
    Except PyError ExtensionHandshake := do
  let value ← normalized (.peerError "extension_handshake_invalid" "extension_handshake"
    "invalid BEP-10 extension handshake bencode") (Bencode.decode payload (limits config) false)
  match value with
  | .dict entries => extensionHandshake config entries
  | _ => .error (.peerError "extension_handshake_invalid" "extension_handshake"
      "BEP-10 handshake must be a dictionary")

/-- A message of the extension protocol with its length in front. -/
def frame (extensionId : UInt8) (payload : Bytes) : Bytes :=
  let body := BT_EXTENDED_MESSAGE_ID :: extensionId :: payload
  packUInt32 body.length ++ body

def buildExtendedHandshake (config : CrawlerConfig) : Except PyError Bytes := do
  let payload ← Bencode.encode (.dict [
    (ascii "m", .dict [(ascii "ut_metadata", .int LOCAL_UT_METADATA_ID.toNat)]),
    (ascii "v", .bytes config.peerClientName),
    (ascii "reqq", .int config.metadataRequestPipeline)])
  return frame 0 payload

def buildMetadataRequest (extensionId piece : Int) : Except PyError Bytes := do
  if ¬ (1 ≤ extensionId ∧ extensionId ≤ 255) ∨ piece < 0 then
    throw (.valueError "invalid extension ID or piece")
  let payload ← Bencode.encode (.dict [(ascii "msg_type", .int 0), (ascii "piece", .int piece)])
  return frame (UInt8.ofNat extensionId.toNat) payload

def buildMetadataReject (extensionId : UInt8) (piece : Int) : Except PyError Bytes := do
  let payload ← Bencode.encode (.dict [(ascii "msg_type", .int 2), (ascii "piece", .int piece)])
  return frame extensionId payload

/-- The checks of a decoded header, given what follows it in the message. -/
def metadataMessage (header : Message) (trailing : Bytes) (metadataSize expectedPieceCount : Int) :
    Except PyError MetadataMessage :=
  let invalid := PyError.peerError "metadata_invalid" "metadata"
  match header.get? "msg_type" with
  -- the set of types cannot be asked for a list or a dictionary
  | some (.list _) => .error (.typeError "unhashable type: \x27list\x27")
  | some (.dict _) => .error (.typeError "unhashable type: \x27dict\x27")
  | some (.int msgType) =>
      match header.get? "piece" with
      | some (.int piece) =>
          if ¬ (msgType = 0 ∨ msgType = 1 ∨ msgType = 2) ∨
              ¬ (0 ≤ piece ∧ piece < expectedPieceCount) then
            .error (invalid "invalid BEP-9 message type or piece")
          else if msgType = 1 then
            if Value.asInt (header.get? "total_size") ≠ some metadataSize then
              .error (invalid "BEP-9 total_size inconsistent with metadata_size")
            else if (trailing.length : Int) ≠
                min BEP9_BLOCK_SIZE (metadataSize - piece * BEP9_BLOCK_SIZE) then
              .error (invalid "invalid BEP-9 piece size")
            else .ok { header, msgType, piece, trailing }
          else if trailing ≠ [] then
            .error (invalid "unexpected payload on BEP-9 request/reject")
          else .ok { header, msgType, piece, trailing }
      | _ => .error (invalid "invalid BEP-9 message type or piece")
  | _ => .error (invalid "invalid BEP-9 message type or piece")

def parseMetadataMessage (config : Config) (payload : Bytes)
    (metadataSize expectedPieceCount : Int) : Except PyError MetadataMessage := do
  let (header, consumed) ← normalized (.peerError "metadata_invalid" "metadata"
    "invalid BEP-9 metadata message bencode")
    (Bencode.decodePrefix payload (limits config) false)
  match header with
  | .dict entries =>
      metadataMessage entries (payload.drop consumed) metadataSize expectedPieceCount
  | _ => .error (.peerError "metadata_invalid" "metadata"
      "BEP-9 message header must be a dictionary")

end PeerWire

end PyDht
