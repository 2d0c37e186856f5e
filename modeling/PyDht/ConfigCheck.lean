import PyDht.Config
import PyDht.Exceptions
import Mathlib.Algebra.Order.Field.Rat
import Mathlib.Data.Int.Cast.Lemmas
import Mathlib.Algebra.Order.Ring.Cast

set_option autoImplicit false

namespace PyDht

structure ConfigurationError where
  text : String
deriving DecidableEq, Repr

namespace ConfigCheck

/-- `_number` and `_integer`. What they test of a value's type is the type of the field here. -/
def number (name : String) (value : Rat) (allowZero : Bool) : Except ConfigurationError Unit :=
  let wanted := if allowZero then "non-negative" else "positive"
  if if allowZero then value < 0 else value ≤ 0 then
    .error { text := s!"{name} must be {wanted}" }
  else .ok ()

def ensure (condition : Bool) (text : String) : Except ConfigurationError Unit :=
  if condition then .ok () else .error { text }

/-- The loop over a tuple of names. -/
def each {α : Type} (check : α → Except ConfigurationError Unit) :
    List α → Except ConfigurationError Unit
  | [] => .ok ()
  | entry :: entries => do
    check entry
    each check entries

def integerPositive (config : Config) : List (String × Int) :=
  [("DHT_MAX_PENDING_REQUESTS", config.dhtMaxPendingRequests),
    ("DHT_LOOKUP_PARALLELISM", config.dhtLookupParallelism),
    ("MAX_DHT_QUERIES_PER_TORRENT", config.maxDhtQueriesPerTorrent),
    ("DHT_RECEIVE_MAX_BYTES", config.dhtReceiveMaxBytes),
    ("DHT_ROUTING_BAD_AFTER_FAILURES", config.dhtRoutingBadAfterFailures),
    ("MAX_PEER_HINTS_PER_CANDIDATE", config.maxPeerHintsPerCandidate),
    ("RECENT_HASH_CACHE_SIZE", config.recentHashCacheSize),
    ("MAX_METADATA_ATTEMPTS_PER_TORRENT", config.maxMetadataAttemptsPerTorrent),
    ("MAX_PEERS_PER_TORRENT", config.maxPeersPerTorrent),
    ("METADATA_REQUEST_PIPELINE", config.metadataRequestPipeline),
    ("MAX_METADATA_SIZE", config.maxMetadataSize),
    ("MAX_PEER_MESSAGE_SIZE", config.maxPeerMessageSize),
    ("MAX_BENCODE_DEPTH", config.maxBencodeDepth),
    ("MAX_BENCODE_ITEMS", config.maxBencodeItems),
    ("MAX_BENCODE_STRING_LENGTH", config.maxBencodeStringLength),
    ("MAX_FILES_PER_TORRENT", config.maxFilesPerTorrent),
    ("MAX_PATH_COMPONENTS", config.maxPathComponents),
    ("MAX_INDEX_TEXT_LENGTH", config.maxIndexTextLength),
    ("MAX_EVIDENCE_TEXT_LENGTH", config.maxEvidenceTextLength),
    ("BEP51_NODE_STATE_MAX", config.bep51NodeStateMax),
    ("BEP51_MAX_SAMPLES_PER_RESPONSE", config.bep51MaxSamplesPerResponse),
    ("DHT_PEER_STORE_MAX_INFOHASHES", config.dhtPeerStoreMaxInfohashes),
    ("DHT_PEER_STORE_MAX_PEERS_PER_HASH", config.dhtPeerStoreMaxPeersPerHash),
    ("DB_QUEUE_SIZE", config.dbQueueSize),
    ("DATABASE_MAX_BYTES", config.databaseMaxBytes),
    ("FETCH_RETRY_MAX_ATTEMPTS", config.fetchRetryMaxAttempts)]

def numericPositive (config : Config) : List (String × Rat) :=
  [("DHT_ROUTING_GOOD_TTL", config.dhtRoutingGoodTtl),
    ("RECENT_HASH_TTL", config.recentHashTtl),
    ("DHT_BEP51_GLOBAL_INTERVAL", config.dhtBep51GlobalInterval),
    ("DHT_BEP51_UNSUPPORTED_BACKOFF", config.dhtBep51UnsupportedBackoff),
    ("BEP51_NODE_STATE_TTL", config.bep51NodeStateTtl),
    ("DHT_PEER_STORE_TTL", config.dhtPeerStoreTtl),
    ("DHT_TOKEN_ROTATION_INTERVAL", config.dhtTokenRotationInterval),
    ("DHT_TOKEN_VALIDITY", config.dhtTokenValidity),
    ("FETCH_RETRY_BASE_SECONDS", config.fetchRetryBaseSeconds),
    ("FETCH_RETRY_MAX_SECONDS", config.fetchRetryMaxSeconds)]

/-- `validate_config`, for the values that the modelled code reads. -/
def validateConfig (config : Config) : Except ConfigurationError Unit := do
  ensure (config.dhtClientVersion.all (· < 128)) "DHT_CLIENT_VERSION must be ASCII text"
  ensure (config.dhtClientVersion.length = 4)
    "DHT_CLIENT_VERSION must encode to exactly 4 ASCII bytes"
  ensure (0 ≤ config.dhtBep51ResponseInterval && config.dhtBep51ResponseInterval ≤ 21600)
    "DHT_BEP51_RESPONSE_INTERVAL must be an integer in 0..21600"
  each (fun entry => number entry.1 entry.2 false) (integerPositive config)
  number "DB_REOPEN_RETRY_COUNT" config.dbReopenRetryCount true
  each (fun entry => number entry.1 entry.2 false) (numericPositive config)
  ensure (1024 ≤ config.dhtReceiveMaxBytes) "DHT_RECEIVE_MAX_BYTES must be at least 1024"
  ensure (16 * 1024 + 1024 ≤ config.maxPeerMessageSize)
    "MAX_PEER_MESSAGE_SIZE is too small for BEP-9 messages"
  ensure (0 ≤ config.bep51QueueLowWatermark &&
      config.bep51QueueLowWatermark < config.bep51QueueHighWatermark &&
      config.bep51QueueHighWatermark ≤ 1) "invalid BEP-51 queue watermarks"
  ensure (config.dhtTokenValidity ≤ 2 * config.dhtTokenRotationInterval)
    "DHT_TOKEN_VALIDITY cannot exceed two token rotation intervals"
  ensure (config.fetchRetryBaseSeconds ≤ config.fetchRetryMaxSeconds)
    "FETCH_RETRY_BASE_SECONDS cannot exceed FETCH_RETRY_MAX_SECONDS"

example : validateConfig {} = .ok () := by decide +kernel

/-- What `validate_config` lets through. -/
structure Validated (config : Config) : Prop where
  clientVersion : config.dhtClientVersion.length = 4
  ascii : ∀ byte ∈ config.dhtClientVersion, byte < 128
  responseInterval : 0 ≤ config.dhtBep51ResponseInterval ∧ config.dhtBep51ResponseInterval ≤ 21600
  integers : ∀ entry ∈ integerPositive config, 0 < entry.2
  reopenCount : 0 ≤ config.dbReopenRetryCount
  numbers : ∀ entry ∈ numericPositive config, 0 < entry.2
  receiveMax : 1024 ≤ config.dhtReceiveMaxBytes
  messageSize : 16 * 1024 + 1024 ≤ config.maxPeerMessageSize
  watermarks : 0 ≤ config.bep51QueueLowWatermark ∧
    config.bep51QueueLowWatermark < config.bep51QueueHighWatermark ∧
    config.bep51QueueHighWatermark ≤ 1
  tokens : config.dhtTokenValidity ≤ 2 * config.dhtTokenRotationInterval
  retries : config.fetchRetryBaseSeconds ≤ config.fetchRetryMaxSeconds

theorem ensure_ok_iff (condition : Bool) (text : String) :
    ensure condition text = .ok () ↔ condition = true := by
  cases condition <;> simp [ensure]

theorem positive_ok_iff (name : String) (value : Rat) :
    number name value false = .ok () ↔ 0 < value := by
  simp [number]

theorem nonNegative_ok_iff (name : String) (value : Rat) :
    number name value true = .ok () ↔ 0 ≤ value := by
  simp [number]

theorem then_ok_iff (first rest : Except ConfigurationError Unit) :
    (first >>= fun _ => rest) = .ok () ↔ first = .ok () ∧ rest = .ok () := by
  rw [bind_ok_iff]
  constructor
  · rintro ⟨⟨⟩, done, later⟩
    exact ⟨done, later⟩
  · rintro ⟨done, later⟩
    exact ⟨⟨⟩, done, later⟩

theorem each_ok_iff {α : Type} (check : α → Except ConfigurationError Unit) (entries : List α) :
    each check entries = .ok () ↔ ∀ entry ∈ entries, check entry = .ok () := by
  induction entries with
  | nil => simp [each]
  | cons entry entries ih =>
      rw [each, then_ok_iff, ih, List.forall_mem_cons]

theorem validateConfig_ok_iff (config : Config) :
    validateConfig config = .ok () ↔ Validated config := by
  simp only [validateConfig, then_ok_iff, ensure_ok_iff, each_ok_iff,
    positive_ok_iff, nonNegative_ok_iff, List.all_eq_true, decide_eq_true_eq, Bool.and_eq_true,
    Int.cast_pos, Int.cast_nonneg_iff]
  constructor
  · rintro ⟨ascii, version, interval, integers, reopens, numbers, received, message, marks, tokens,
      retries⟩
    exact ⟨version, ascii, interval, integers, reopens, numbers, received, message,
      ⟨marks.1.1, marks.1.2, marks.2⟩, tokens, retries⟩
  · intro valid
    exact ⟨valid.ascii, valid.clientVersion, valid.responseInterval, valid.integers,
      valid.reopenCount, valid.numbers, valid.receiveMax, valid.messageSize,
      ⟨⟨valid.watermarks.1, valid.watermarks.2.1⟩, valid.watermarks.2.2⟩, valid.tokens,
      valid.retries⟩

end ConfigCheck

end PyDht
