import PyDht.CandidateRuns
import PyDht.CatalogueRuns
import PyDht.Indexer
import PyDht.Monitoring
import PyDht.PeerSession

set_option autoImplicit false

namespace PyDht

/-- What the workers of one process share and never change. -/
structure CrawlerEnvironment where
  config : CrawlerConfig
  sha1 : Bytes → Bytes
  casefold : String → String
  localIps : List String
  peerId : Bytes

/-- `type(exc).__name__`. -/
def PyError.className : PyError → String
  | .assertionError _ => "AssertionError"
  | .valueError _ => "ValueError"
  | .bencodeError _ => "BencodeError"
  | .indexingError _ => "IndexingError"
  | .typeError _ => "TypeError"
  | .keyError _ => "KeyError"
  | .overflowError _ => "OverflowError"
  | .zeroDivisionError => "ZeroDivisionError"
  | .dhtError _ => "DHTError"
  | .krpcError _ _ => "KRPCError"
  | .peerError _ _ _ => "PeerError"
  | .storageError _ => "StorageError"
  | .databaseError _ => "DatabaseError"
  | .osError _ => "OSError"
  | .incompleteReadError => "IncompleteReadError"
  | .timeoutError => "TimeoutError"
  | .stalled => ""

/-- `dht_key_text` of a key with its 20 bytes. -/
def dhtKeyText (key : Bytes) : String := "dht20:" ++ hex key

/-- `_parse_dht_key`. -/
def parseDhtKey (text : String) : Option Bytes :=
  if text.startsWith "dht20:" then
    (fromHexChars (text.toList.drop 6)).filter fun key => key.length = 20
  else none

/-- `_retry_delay`. -/
def retryDelay (attempt base maximum : Int) : Int :=
  min maximum (base * 2 ^ (max 0 (min (attempt - 1) 30)).toNat)

/-- The endpoints and the errors that the search for the metadata has met. -/
structure PeerSearch where
  tried : List Endpoint := []
  errors : List String := []
deriving DecidableEq, Repr

/-- Where `_process_candidate` waits: for an operation of the database, for a peer or for the
lookup. With it stand the variables that the rest of the function still reads. -/
inductive WorkerStage where
  | upserting (nowNs firstSeen lastSeen : Int)
  | marking (nowNs : Int)
  | hinting (endpoint : Endpoint) (hints : List PeerHint) (search : PeerSearch)
  | lookingUp (search : PeerSearch)
  | dialing (endpoint : Endpoint) (peers : List Endpoint) (attempts : Int) (search : PeerSearch)
  | persisting (torrent : IndexedTorrent) (notification : Option KeywordResult) (nowNs : Int)
  | reading (errors : List String)
  | failing (error : String) (nowNs : Int) (nextAttemptNs : Option Int)
deriving DecidableEq, Repr

/-- One call of `_process_candidate`; `reply` is set when the operation it waits for is done. -/
structure Processing where
  key : Bytes
  stage : WorkerStage
  reply : Option (Reply Answer) := none
deriving DecidableEq, Repr

/-- How `_process_candidate` goes on. -/
inductive Onward where
  | waits (stage : WorkerStage)
  | finishes
  | raises (error : PyError)
deriving DecidableEq, Repr

namespace Processing

def request (job : Processing) : Option DatabaseCall :=
  match job.stage with
  | .upserting _ firstSeen lastSeen =>
      some (.upsertCandidateSeen (dhtKeyText job.key) firstSeen lastSeen)
  | .marking nowNs => some (.markFetching (dhtKeyText job.key) nowNs)
  | .persisting torrent notification nowNs =>
      some (.persistTorrent torrent (dhtKeyText job.key) notification nowNs)
  | .reading _ => some (.candidateState (dhtKeyText job.key))
  | .failing error nowNs nextAttemptNs =>
      some (.markFetchFailed (dhtKeyText job.key) error nowNs nextAttemptNs)
  | _ => none

/-- The endpoint whose metadata is being fetched. -/
def endpoint (job : Processing) : Option Endpoint :=
  match job.stage with
  | .hinting endpoint _ _ | .dialing endpoint _ _ _ => some endpoint
  | _ => none

/-- The start, up to `upsert_candidate_seen`, at two readings of the wall clock. -/
def opening (manager : CandidateManager) (key : Bytes) (wallNs nowNs : Int) : Processing :=
  let (firstSeen, lastSeen) :=
    match manager.stateFor key with
    | some memory => (memory.firstSeenWallNs, memory.lastSeenWallNs)
    | none => (wallNs, wallNs)
  { key, stage := .upserting nowNs firstSeen lastSeen }

/-- The checks of the row that `upsert_candidate_seen` has returned. -/
def admission (nowNs : Int) (row : CandidateRow) : Onward :=
  match row.state with
  | .complete | .unsupported => .finishes
  | .fetchFailed =>
      match row.nextAttemptAt with
      | none => .finishes
      | some nextAttempt => if nowNs < nextAttempt then .finishes else .waits (.marking nowNs)
  | _ => .waits (.marking nowNs)

end Processing

namespace CrawlerEnvironment

variable (env : CrawlerEnvironment)

/-- The loop over the hints, from one of them on. -/
def tryHints : List PeerHint → PeerSearch → WorkerStage
  | [], search => .lookingUp search
  | hint :: hints, search =>
      let endpoint : Endpoint := (hint.ip, hint.port)
      if endpoint ∈ search.tried ∨
          !endpointAllowed env.config.toConfig env.localIps hint.ip hint.port then
        tryHints hints search
      else .hinting endpoint hints { search with tried := search.tried ++ [endpoint] }

def search (manager : CandidateManager) (key : Bytes) : WorkerStage :=
  let hints := ((manager.stateFor key).map CandidateState.peerHints).getD []
  env.tryHints (hints.take env.config.maxPeerHintsPerCandidate.toNat) {}

/-- The loop over the peers, from one of them on. -/
def tryPeers : List Endpoint → Int → PeerSearch → WorkerStage
  | [], _, search => .reading search.errors
  | endpoint :: peers, attempts, search =>
      if min env.config.maxPeersPerTorrent env.config.maxMetadataAttemptsPerTorrent ≤ attempts then
        .reading search.errors
      else if endpoint ∈ search.tried then tryPeers peers attempts search
      else .dialing endpoint peers (attempts + 1)
        { search with tried := search.tried ++ [endpoint] }

/-- The hints that have come in meanwhile go in front of the peers that the lookup has found. -/
def dialPeers (manager : CandidateManager) (key : Bytes) (found : List Endpoint)
    (search : PeerSearch) : WorkerStage :=
  let peers :=
    match manager.stateFor key with
    | none => found
    | some state =>
        let late := (state.peerHints.map fun hint => (hint.ip, hint.port)).filter
          (· ∉ search.tried)
        late ++ found.filter (· ∉ late)
  env.tryPeers peers search.tried.length search

/-- What is done with metadata that has the right hash. -/
def index (key rawInfo : Bytes) (errors : List String) (wallNs : Int) : Onward :=
  match Indexer.parseValidatedInfo env.config.toConfig rawInfo ("btih:" ++ hex key) with
  | .error error =>
      if error.isValueError then
        .waits (.reading (errors ++ [s!"indexing {error.className}: {error.text}"]))
      else .raises error
  | .ok torrent =>
      let notification :=
        if env.config.keywordMonitoringEnabled then
          Monitoring.matchKeywords env.casefold torrent env.config.keywords
            env.config.keywordCaseSensitive
        else none
      .waits (.persisting torrent notification wallNs)

/-- The failure path behind `candidate_state`, at a reading of the wall clock. -/
def giveUp (errors : List String) (latest : Option CandidateRow) (wallNs : Int) : Onward :=
  let attemptNo := (latest.map CandidateRow.attempts).getD 1
  let joined := "; ".intercalate (errors.drop (errors.length - 8))
  let error := if joined = "" then "no usable metadata peer found" else joined
  if env.config.fetchRetryMaxAttempts ≤ attemptNo then .waits (.failing error wallNs none)
  else
    let delay := retryDelay attemptNo env.config.fetchRetryBaseSeconds
      env.config.fetchRetryMaxSeconds
    .waits (.failing error wallNs (some (wallNs + delay * 1000000000)))

/-- The way on from an operation of the database; `none` while there is no reply to it. -/
def resume (manager : CandidateManager) (wallNs : Int) (job : Processing) : Option Onward :=
  match job.reply with
  | none => none
  | some (.exception error) => some (.raises error)
  | some (.result answer) =>
      match job.stage, answer with
      | .upserting nowNs _ _, .row (some row) => some (Processing.admission nowNs row)
      | .marking _, .marked true => some (.waits (env.search manager job.key))
      | .marking _, .marked false => some .finishes
      | .persisting _ _ _, .done => some .finishes
      | .reading errors, .row latest => some (env.giveUp errors latest wallNs)
      | .failing _ _ _, .done => some .finishes
      | _, _ => none

/-- The way on from `fetch_metadata`. -/
def fetched (job : Processing) (outcome : Except PyError Bytes) (wallNs : Int) : Option Onward :=
  let failure (endpoint : Endpoint) (category text : String) (search : PeerSearch) : PeerSearch :=
    { search with
      errors := search.errors ++ [s!"{endpoint.1}:{endpoint.2} {category}: {text}"] }
  match job.stage, outcome with
  | .hinting endpoint hints search, .error (.peerError category _ text) =>
      some (.waits (env.tryHints hints (failure endpoint category text search)))
  | .dialing endpoint peers attempts search, .error (.peerError category _ text) =>
      some (.waits (env.tryPeers peers attempts (failure endpoint category text search)))
  | .hinting _ _ search, .ok rawInfo | .dialing _ _ _ search, .ok rawInfo =>
      some (env.index job.key rawInfo search.errors wallNs)
  | .hinting _ _ _, .error error | .dialing _ _ _ _, .error error => some (.raises error)
  | _, _ => none

/-- The way on from `iterative_get_peers`, whose exceptions are all caught. -/
def lookedUp (manager : CandidateManager) (job : Processing)
    (outcome : Except PyError (List Endpoint)) : Option Onward :=
  match job.stage, outcome with
  | .lookingUp search, .ok found => some (.waits (env.dialPeers manager job.key found search))
  | .lookingUp search, .error error =>
      some (.waits (env.dialPeers manager job.key [] { search with
        errors := search.errors ++ [s!"get_peers {error.className}: {error.text}"] }))
  | _, _ => none

end CrawlerEnvironment

end PyDht
