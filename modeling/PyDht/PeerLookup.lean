import PyDht.Shortlist

set_option autoImplicit false

namespace PyDht

/-- `iterative_get_peers` while it awaits the queries to the contacts of `batch`. -/
structure PeerLookup where
  key : Bytes
  shortlist : Shortlist
  queried : List Bytes := []
  peers : List Endpoint := []
  queryCount : Nat := 0
  previousFrontier : Option (List Bytes) := none
  batch : Shortlist := []
deriving DecidableEq, Repr

namespace PeerLookup

/-- `iterative_get_peers` up to its loop; `reading` is the clock for the routing table. -/
def opening (config : Config) (routing : RoutingTable) (reading : Int) (key : Bytes) :
    Except PyError PeerLookup := do
  if key.length ≠ 20 then throw (.valueError "target key must be 20 bytes")
  let limit := max DHT_K config.dhtLookupParallelism.toNat
  let contacts ← routing.closest config reading key limit false
  return { key, shortlist := Shortlist.ofContacts contacts }

/-- The contacts to query next: the closest ones that were not queried and are allowed. -/
def nextBatch (config : Config) (localIps : List String) (contacts : Shortlist)
    (queried : List Bytes) : Shortlist :=
  (contacts.filter fun contact =>
    contact.1 ∉ queried && endpointAllowed config localIps contact.2.1 contact.2.2).take
      config.dhtLookupParallelism.toNat

/-- The loop from its condition to the next batch of queries; `none` when it has ended. `late` says
that the deadline has passed. -/
def turn (config : Config) (localIps : List String) (late : Bool) (lookup : PeerLookup) :
    Except PyError (Option PeerLookup) :=
  if late ∨ config.maxDhtQueriesPerTorrent ≤ lookup.queryCount ∨
      config.maxPeersPerTorrent ≤ lookup.peers.length then .ok none
  else do
    let contacts ← lookup.shortlist.ordered lookup.key
    let frontier := (contacts.take DHT_K).map Prod.fst
    let batch := nextBatch config localIps contacts lookup.queried
    if batch.isEmpty then return none
    if lookup.previousFrontier = some frontier ∧ ∀ nodeId ∈ frontier, nodeId ∈ lookup.queried then
      return none
    return some { lookup with
      queried := lookup.queried ++ batch.map Prod.fst
      queryCount := lookup.queryCount + batch.length
      previousFrontier := some frontier
      batch }

/-- The peers in the `values` of a response are added until there are enough. -/
def addPeers (config : Config) (localIps : List String) :
    List Value → List Endpoint → List Endpoint
  | [], peers => peers
  | raw :: rest, peers =>
      match (Value.asBytes (some raw)).map parseCompactPeer with
      | some (.ok endpoint) =>
          if endpointAllowed config localIps endpoint.1 endpoint.2 ∧ endpoint ∉ peers then
            if config.maxPeersPerTorrent ≤ (peers.length + 1 : Nat) then peers ++ [endpoint]
            else addPeers config localIps rest (peers ++ [endpoint])
          else addPeers config localIps rest peers
      | _ => addPeers config localIps rest peers

def addResponse (config : Config) (localIps : List String) (response : Message)
    (lookup : PeerLookup) : PeerLookup :=
  match Value.asList (response.get? "values") with
  | none => lookup
  | some values => { lookup with peers := addPeers config localIps values lookup.peers }

/-- The results of a batch are taken up; `none` stands for a query that has failed. -/
def gather (config : Config) (localIps : List String) (readings : Nat → Nat → Int) :
    Nat → List (Option Message) → EStateM PyError (RoutingTable × PeerLookup) Unit
  | _, [] => pure ()
  | index, none :: rest => gather config localIps readings (index + 1) rest
  | index, some response :: rest => do
      modify fun state => (state.1, addResponse config localIps response state.2)
      Effects.zoom (fun state => (state.1, state.2.shortlist))
        (fun part state => (part.1, { state.2 with shortlist := part.2 }))
        (Shortlist.takeUp config localIps (readings index) 0
          (DHTNode.returnedContacts response))
      gather config localIps readings (index + 1) rest

/-- What the lookup returns when its loop has ended. -/
def result (config : Config) (lookup : PeerLookup) : List Endpoint :=
  lookup.peers.take config.maxPeersPerTorrent.toNat

/-- All peers that the lookup has found so far may be dialed. -/
def Sound (config : Config) (localIps : List String) (lookup : PeerLookup) : Prop :=
  ∀ peer ∈ lookup.peers, endpointAllowed config localIps peer.1 peer.2 = true

section sound

variable {config : Config} {localIps : List String}

theorem opening_sound {routing : RoutingTable} {reading : Int} {key : Bytes} {lookup : PeerLookup}
    (opened : opening config routing reading key = .ok lookup) : Sound config localIps lookup := by
  unfold opening at opened
  dsimp only at opened
  split at opened
  · cases opened
  · obtain ⟨contacts, -, opened⟩ := bind_ok_iff.mp opened
    cases opened
    intro peer member
    cases member

theorem turn_sound {late : Bool} {lookup next : PeerLookup}
    (sound : Sound config localIps lookup)
    (turned : lookup.turn config localIps late = .ok (some next)) :
    Sound config localIps next := by
  unfold turn at turned
  split at turned
  · cases turned
  · obtain ⟨contacts, -, turned⟩ := bind_ok_iff.mp turned
    dsimp only at turned
    split at turned
    · cases turned
    · split at turned
      · cases turned
      · cases turned
        exact sound

theorem addPeers_sound (values : List Value) {peers : List Endpoint}
    (sound : ∀ peer ∈ peers, endpointAllowed config localIps peer.1 peer.2 = true) :
    ∀ peer ∈ addPeers config localIps values peers,
      endpointAllowed config localIps peer.1 peer.2 = true := by
  induction values generalizing peers with
  | nil => exact sound
  | cons raw rest ih =>
      unfold addPeers
      split
      · rename_i endpoint _
        split
        · rename_i fits
          have added : ∀ peer ∈ peers ++ [endpoint],
              endpointAllowed config localIps peer.1 peer.2 = true := by
            intro peer member
            obtain old | new := List.mem_append.mp member
            · exact sound peer old
            · rw [List.mem_singleton.mp new]
              exact fits.1
          split
          · exact added
          · exact ih added
        · exact ih sound
      · exact ih sound

theorem addResponse_sound (response : Message) {lookup : PeerLookup}
    (sound : Sound config localIps lookup) :
    Sound config localIps (addResponse config localIps response lookup) := by
  unfold addResponse
  split
  · exact sound
  · exact addPeers_sound _ sound

theorem gather_sound (readings : Nat → Nat → Int) (index : Nat) (results : List (Option Message)) :
    Effects.Preserves (fun state => Sound config localIps state.2)
      (gather config localIps readings index results) := by
  induction results generalizing index with
  | nil => exact Effects.Preserves.pure ()
  | cons result rest ih =>
      cases result with
      | none => exact ih (index + 1)
      | some response =>
          apply Effects.Preserves.bind
          · exact Effects.Preserves.modify fun state sound => addResponse_sound response sound
          · intro _
            apply Effects.Preserves.bind
            · apply Effects.Preserves.zoom
              intro _ _ sound
              exact sound
            · intro _
              exact ih (index + 1)

end sound

end PeerLookup

end PyDht
