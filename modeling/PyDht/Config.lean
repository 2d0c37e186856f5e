import Mathlib.Data.Rat.Defs

set_option autoImplicit false

namespace PyDht

/-- The values of `config.py` that the modelled code reads. Durations are in
seconds; a fraction stands for a Python float. The retry durations are whole
numbers, as `_retry_delay` declares them; `validate_config` lets fractions
through as well, with which due times would be floats. -/
structure Config where
  dhtClientVersion : List UInt8 := [113, 66, 55, 75]
  dhtReadOnly : Bool := false
  allowNonGlobalEndpoints : Bool := false
  dhtReceiveMaxBytes : Int := 64 * 1024
  dhtMaxPendingRequests : Int := 200
  dhtLookupParallelism : Int := 3
  maxDhtQueriesPerTorrent : Int := 100
  dhtRoutingGoodTtl : Rat := 900
  dhtRoutingBadAfterFailures : Int := 2
  debugFullKrpcJsonl : Bool := false
  maxPeerHintsPerCandidate : Int := 4
  recentHashCacheSize : Int := 100000
  recentHashTtl : Rat := 3600
  maxMetadataAttemptsPerTorrent : Int := 20
  maxPeersPerTorrent : Int := 20
  metadataRequestPipeline : Int := 4
  maxMetadataSize : Int := 4 * 1024 * 1024
  maxPeerMessageSize : Int := 4 * 1024 * 1024 + 64 * 1024
  maxBencodeDepth : Int := 64
  maxBencodeItems : Int := 200000
  maxBencodeStringLength : Int := 4 * 1024 * 1024
  maxFilesPerTorrent : Int := 100000
  maxPathComponents : Int := 128
  maxIndexTextLength : Int := 16 * 1024
  maxEvidenceTextLength : Int := 4096
  dhtBep51Enabled : Bool := true
  dhtBep51ResponseInterval : Int := 300
  dhtBep51GlobalInterval : Rat := 1
  dhtBep51UnsupportedBackoff : Rat := 3600
  bep51QueueHighWatermark : Rat := 4 / 5
  bep51QueueLowWatermark : Rat := 3 / 10
  bep51NodeStateMax : Int := 10000
  bep51NodeStateTtl : Rat := 3600
  bep51MaxSamplesPerResponse : Int := 50
  dhtPeerStoreMaxInfohashes : Int := 10000
  dhtPeerStoreMaxPeersPerHash : Int := 50
  dhtPeerStoreTtl : Rat := 1800
  dhtTokenRotationInterval : Rat := 300
  dhtTokenValidity : Rat := 600
  dbQueueSize : Int := 64
  databaseMaxBytes : Int := 20 * 1024 * 1024 * 1024
  dbReopenRetryCount : Int := 5
  fetchRetryBaseSeconds : Int := 60
  fetchRetryMaxSeconds : Int := 6 * 3600
  fetchRetryMaxAttempts : Int := 20

/-- All values but the switches are the defaults. -/
def Config.DefaultLimits (config : Config) : Prop :=
  config =
    { dhtReadOnly := config.dhtReadOnly
      allowNonGlobalEndpoints := config.allowNonGlobalEndpoints
      debugFullKrpcJsonl := config.debugFullKrpcJsonl
      dhtBep51Enabled := config.dhtBep51Enabled }

/-- `int(seconds * 1e9)` of a duration that is not negative. -/
def nanoseconds (seconds : Rat) : Int := seconds.num * 1000000000 / seconds.den

end PyDht
