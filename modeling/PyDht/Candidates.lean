import PyDht.Bytes
import PyDht.Config
import PyDht.Lib.Collections
import PyDht.Lib.Recency

set_option autoImplicit false

namespace PyDht

/-- IP, port and whether the port was the announcing datagram's own. -/
structure PeerHint where
  ip : String
  port : Int
  impliedPort : Bool
deriving DecidableEq, Repr

structure CandidateState where
  dhtKey : Bytes
  sources : List String := []
  peerHints : List PeerHint := []
  queued : Bool := true
  firstSeenWallNs : Int
  lastSeenWallNs : Int
deriving DecidableEq, Repr

structure CandidateManager where
  queue : BoundedQueue Bytes
  states : List (Bytes × CandidateState) := []
  recent : List (Bytes × Int) := []
deriving DecidableEq, Repr

/-- A further sighting of a key that is already in work. -/
def CandidateState.merge (config : Config) (wall : Int) (source : String)
    (peerHint : Option PeerHint) (state : CandidateState) : CandidateState :=
  let hints :=
    match peerHint with
    | none => state.peerHints
    | some hint =>
        if hint ∉ state.peerHints ∧
            (state.peerHints.length : Int) < config.maxPeerHintsPerCandidate then
          state.peerHints ++ [hint]
        else state.peerHints
  { state with
    sources := if source ∈ state.sources then state.sources else state.sources ++ [source],
    lastSeenWallNs := wall, peerHints := hints }

namespace CandidateManager

def pruneRecent (config : Config) (now : Int) (manager : CandidateManager) : CandidateManager :=
  { manager with
    recent :=
      Recency.prune (now - nanoseconds config.recentHashTtl) config.recentHashCacheSize
        manager.recent }

/-- `submit` at a reading of each clock: the answer and the manager after it. -/
def submit (config : Config) (now wall : Int) (key : Bytes) (source : String)
    (peerHint : Option PeerHint) (retry : Bool) (manager : CandidateManager) :
    Bool × CandidateManager :=
  if key.length ≠ 20 then (false, manager)
  else
    let manager := manager.pruneRecent config now
    match Dict.get? key manager.states with
    | some state =>
        (true, { manager with
          states := Dict.set key (state.merge config wall source peerHint) manager.states })
    | none =>
        if !retry && Dict.contains key manager.recent then (false, manager)
        else
          let state : CandidateState :=
            { dhtKey := key, sources := [source], peerHints := peerHint.toList,
              firstSeenWallNs := wall, lastSeenWallNs := wall }
          -- reserved before the queue takes the key, given back when it is full
          let reserved := Dict.set key state manager.states
          match manager.queue.putNowait key with
          | some queue => (true, { manager with states := reserved, queue })
          | none => (false, { manager with states := Dict.pop key reserved })

def stateFor (key : Bytes) (manager : CandidateManager) : Option CandidateState :=
  Dict.get? key manager.states

/-- `finish`, which reads the clock for the entry and once more for the pruning. -/
def finish (config : Config) (stamp now : Int) (key : Bytes) (manager : CandidateManager)
    (recent : Bool := true) : CandidateManager :=
  let manager : CandidateManager := { manager with states := Dict.pop key manager.states }
  if recent then
    let noted : CandidateManager := { manager with recent := Recency.touch key stamp manager.recent }
    noted.pruneRecent config now
  else manager

end CandidateManager

end PyDht
