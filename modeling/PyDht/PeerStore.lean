import PyDht.Endpoints
import PyDht.Lib.Collections
import PyDht.Lib.Effects
import PyDht.Lib.Recency

set_option autoImplicit false

namespace PyDht

/-- The endpoints announced for each key, in the order of their last
announcement, each with its time. -/
structure PeerStore where
  store : List (Bytes × List (Endpoint × Int)) := []
deriving DecidableEq, Repr

namespace PeerStore

/-- `_prune` at the given clock reading. -/
def prune (config : Config) (now : Int) (peerStore : PeerStore) : PeerStore :=
  let cutoff := now - nanoseconds config.dhtPeerStoreTtl
  let fresh := peerStore.store.map fun entry =>
    (entry.1, entry.2.filter fun peer => !decide (peer.2 < cutoff))
  { store := fresh.filter fun entry => !entry.2.isEmpty }

/-- The peers of a key after an announcement, before the oldest are dropped. -/
def announced (key : Bytes) (endpoint : Endpoint) (stamp : Int) (peerStore : PeerStore) :
    List (Endpoint × Int) :=
  Recency.touch endpoint stamp ((Dict.get? key peerStore.store).getD [])

/-- A new key takes the place of the oldest one when the store is full. -/
def makeRoom (config : Config) (key : Bytes) : EStateM PyError PeerStore Unit := do
  let peerStore ← MonadState.get
  Effects.when (!Dict.contains key peerStore.store &&
      decide (config.dhtPeerStoreMaxInfohashes ≤ peerStore.store.length)) <|
    match peerStore.store with
    | [] => throw (.keyError "dictionary is empty")
    | _ :: newer => set ({ store := newer } : PeerStore)

/-- The endpoint becomes the last one of its key, and the oldest give way. -/
def record (config : Config) (stamp : Int) (key : Bytes) (endpoint : Endpoint) :
    EStateM PyError PeerStore Unit := do
  let limit := config.dhtPeerStoreMaxPeersPerHash
  modify fun peerStore =>
    let peers := peerStore.announced key endpoint stamp
    { store := Dict.pop key peerStore.store ++ [(key, peers.drop (peers.length - limit.toNat))] }
  Effects.check (decide (0 ≤ limit)) (.keyError "dictionary is empty")

/-- `add`, which reads the clock for the pruning and once more for the entry. -/
def add (config : Config) (now stamp : Int) (key : Bytes) (endpoint : Endpoint) :
    EStateM PyError PeerStore Unit := do
  modify (prune config now)
  makeRoom config key
  record config stamp key endpoint

/-- `get`: the endpoints for a key and the store after the pruning. -/
def get (config : Config) (now : Int) (key : Bytes) (peerStore : PeerStore) :
    List Endpoint × PeerStore :=
  let pruned := peerStore.prune config now
  (((Dict.get? key pruned.store).getD []).map Prod.fst, pruned)

/-- `keys`, with the store after the pruning. -/
def keys (config : Config) (now : Int) (peerStore : PeerStore) : List Bytes × PeerStore :=
  let pruned := peerStore.prune config now
  (Dict.keys pruned.store, pruned)

/-- The announcements that the store holds. -/
def entries (peerStore : PeerStore) : List (Bytes × Endpoint × Int) :=
  peerStore.store.flatMap fun entry => entry.2.map fun peer => (entry.1, peer)

theorem mem_entries {peerStore : PeerStore} {entry : Bytes × Endpoint × Int} :
    entry ∈ peerStore.entries ↔
      ∃ peers, (entry.1, peers) ∈ peerStore.store ∧ entry.2 ∈ peers := by
  unfold entries
  rw [List.mem_flatMap]
  constructor
  · rintro ⟨held, inside, member⟩
    rcases List.mem_map.mp member with ⟨peer, present, rfl⟩
    exact ⟨held.2, inside, present⟩
  · rintro ⟨peers, inside, member⟩
    exact ⟨(entry.1, peers), inside, List.mem_map_of_mem member⟩

theorem prune_entries {config : Config} {now : Int} {peerStore : PeerStore}
    {entry : Bytes × Endpoint × Int} (kept : entry ∈ (peerStore.prune config now).entries) :
    entry ∈ peerStore.entries := by
  rcases mem_entries.mp kept with ⟨peers, inside, member⟩
  rcases List.mem_map.mp (List.mem_filter.mp inside).1 with ⟨before, present, same⟩
  rcases Prod.mk.inj same with ⟨sameKey, rfl⟩
  exact mem_entries.mpr ⟨before.2, sameKey ▸ present, (List.mem_filter.mp member).1⟩

theorem announced_entries {peerStore : PeerStore} {key : Bytes} {endpoint : Endpoint}
    {stamp : Int} {peer : Endpoint × Int}
    (member : peer ∈ peerStore.announced key endpoint stamp) :
    (key, peer) ∈ peerStore.entries ∨ peer = (endpoint, stamp) := by
  unfold announced Recency.touch at member
  rcases List.mem_append.mp member with old | new
  · left
    cases found : Dict.get? key peerStore.store with
    | none => simp [found] at old
    | some peers =>
        simp only [found, Option.getD_some] at old
        exact mem_entries.mpr ⟨peers, Dict.mem_of_get? found, (List.mem_filter.mp old).1⟩
  · right
    simpa using new

/-- Only this announcement is new. -/
def Adds (start : PeerStore) (added : Bytes × Endpoint × Int) (next : PeerStore) : Prop :=
  ∀ entry ∈ next.entries, entry ∈ start.entries ∨ entry = added

theorem makeRoom_preserves (config : Config) (start : PeerStore) (key : Bytes)
    (added : Bytes × Endpoint × Int) :
    Effects.Preserves (Adds start added) (makeRoom config key) := by
  unfold makeRoom
  apply Effects.Preserves.get
  intro peerStore holds
  apply Effects.Ensures.when
  · intro _
    cases shape : peerStore.store with
    | nil =>
        apply Effects.Ensures.throw
        rintro state rfl
        exact holds
    | cons oldest newer =>
        apply Effects.Ensures.set
        rintro state rfl entry member
        rcases mem_entries.mp member with ⟨peers, inside, present⟩
        exact holds entry (mem_entries.mpr ⟨peers, by simp [shape, inside], present⟩)
  · rintro _ state rfl
    exact holds

theorem record_preserves (config : Config) (start : PeerStore) (stamp : Int) (key : Bytes)
    (endpoint : Endpoint) :
    Effects.Preserves (Adds start (key, endpoint, stamp)) (record config stamp key endpoint) := by
  unfold record
  apply Effects.Preserves.bind
  · apply Effects.Preserves.modify
    intro state holds entry member
    rcases mem_entries.mp member with ⟨peers, inside, present⟩
    rcases List.mem_append.mp inside with old | new
    · exact holds entry (mem_entries.mpr ⟨peers, (List.mem_filter.mp old).1, present⟩)
    · rcases Prod.mk.inj (List.mem_singleton.mp new) with ⟨sameKey, rfl⟩
      rcases announced_entries (List.mem_of_mem_drop present) with old | same
      · exact holds entry (by rwa [← sameKey] at old)
      · exact .inr (Prod.ext sameKey same)
  · intro _
    exact Effects.Preserves.check _ _

/-- An announcement adds its own endpoint and nothing else. -/
theorem add_ensures (config : Config) (now stamp : Int) (key : Bytes) (endpoint : Endpoint)
    (start : PeerStore) :
    Effects.Preserves (Adds start (key, endpoint, stamp))
      (add config now stamp key endpoint) := by
  unfold add
  apply Effects.Preserves.bind
  · apply Effects.Preserves.modify
    intro state holds entry member
    exact holds entry (prune_entries member)
  · intro _
    apply Effects.Preserves.bind (makeRoom_preserves config start key _)
    intro _
    exact record_preserves config start stamp key endpoint

end PeerStore

end PyDht
