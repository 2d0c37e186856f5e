import PyDht.RoutingTable
import PyDht.Lib.Bisection
import PyDht.Lib.Tiling

set_option autoImplicit false

namespace PyDht

open Tiling (Tiles Covers)
open Bisection (Block near far)

/-- The contact has failed often enough to count as BAD at every clock reading. -/
def Contact.Bad (config : Config) (contact : Contact) : Prop :=
  config.dhtRoutingBadAfterFailures ≤ contact.failures

theorem Contact.state_bad_iff (config : Config) (contact : Contact) (now : Int) :
    contact.state config now = .bad ↔ contact.Bad config := by
  unfold Contact.state Contact.Bad
  split
  · simp only [true_iff]
    assumption
  · rename_i sound
    simp only [sound, iff_false]
    split <;> simp

theorem Bucket.contains_iff (bucket : Bucket) (nodeId : Bytes) :
    bucket.contains nodeId = true ↔ Covers Bucket.low Bucket.high (fromBytes nodeId) bucket := by
  simp [Bucket.contains, Covers]

def Bucket.entries (bucket : Bucket) : List Contact := bucket.contacts ++ bucket.replacements

/-- What holds of every bucket between two calls. A cached replacement tells of
a bucket away from the local ID that is full of contacts none of which is BAD. -/
structure Bucket.Valid (config : Config) (localNodeId : Bytes) (bucket : Bucket) : Prop where
  contactsFit : bucket.contacts.length ≤ DHT_K
  replacementsFit : bucket.replacements.length ≤ DHT_K
  idLength : ∀ contact ∈ bucket.entries, contact.nodeId.length = DHT_NODE_ID_BYTES
  inRange : ∀ contact ∈ bucket.entries, bucket.contains contact.nodeId = true
  notLocal : ∀ contact ∈ bucket.entries, contact.nodeId ≠ localNodeId
  distinct : (bucket.entries.map Contact.nodeId).Nodup
  cachedFar : bucket.replacements ≠ [] → bucket.contains localNodeId = false
  cachedFull : bucket.replacements ≠ [] → bucket.contacts.length = DHT_K
  cachedSound : bucket.replacements ≠ [] → ∀ contact ∈ bucket.contacts, ¬ contact.Bad config
  fresh : ∀ contact ∈ bucket.replacements, ¬ contact.Bad config

namespace RoutingTable

def wholeSpace : Bisection.Range := (0, DHT_ID_SPACE)

/-- The invariant of the table; `depth` counts the halvings around the local ID. -/
structure Inv (config : Config) (table : RoutingTable) (depth : Nat) : Prop where
  localLength : table.localNodeId.length = DHT_NODE_ID_BYTES
  tiles : Tiles Bucket.low Bucket.high 0 table.buckets DHT_ID_SPACE
  depthLe : depth ≤ 160
  blocks : ∀ bucket ∈ table.buckets,
    Block (fromBytes table.localNodeId) wholeSpace depth (bucket.low, bucket.high)
  valid : ∀ bucket ∈ table.buckets, bucket.Valid config table.localNodeId

theorem fromBytes_lt_space {nodeId : Bytes} (length : nodeId.length = DHT_NODE_ID_BYTES) :
    fromBytes nodeId < DHT_ID_SPACE := by
  have bound := fromBytes_lt nodeId
  rw [length] at bound
  exact bound

theorem local_inside {nodeId : Bytes} (length : nodeId.length = DHT_NODE_ID_BYTES) :
    Bisection.Inside (fromBytes nodeId) wholeSpace :=
  ⟨Nat.zero_le _, fromBytes_lt_space length⟩

/-- The place in the bucket list of the bucket that a node ID belongs to. -/
structure Located (table : RoutingTable) (nodeId : Bytes) (front : List Bucket) (bucket : Bucket)
    (back : List Bucket) : Prop where
  buckets : table.buckets = front ++ bucket :: back
  holds : bucket.contains nodeId = true
  before : ∀ other ∈ front, other.contains nodeId = false
  after : ∀ other ∈ back, other.contains nodeId = false

theorem Located.member {table : RoutingTable} {nodeId : Bytes} {front back : List Bucket}
    {bucket : Bucket} (located : Located table nodeId front bucket back) :
    bucket ∈ table.buckets := by
  rw [located.buckets]
  simp

theorem Located.bucketFor_eq {table : RoutingTable} {nodeId : Bytes} {front back : List Bucket}
    {bucket : Bucket} (located : Located table nodeId front bucket back) :
    table.bucketFor nodeId = .ok bucket := by
  have absent : front.find? (·.contains nodeId) = none :=
    List.find?_eq_none.mpr (fun other member => by simp [located.before other member])
  unfold bucketFor
  rw [located.buckets, List.find?_append, absent]
  simp [located.holds]

/-- Earlier buckets are other objects: they do not even hold the node ID. -/
theorem Located.front_ne {table : RoutingTable} {nodeId : Bytes} {front back : List Bucket}
    {bucket : Bucket} (located : Located table nodeId front bucket back) :
    ∀ other ∈ front, decide (other = bucket) = false := by
  intro other member
  simp only [decide_eq_false_iff_not]
  rintro rfl
  have absent := located.before other member
  rw [located.holds] at absent
  cases absent

theorem Located.store_buckets {table : RoutingTable} {nodeId : Bytes} {front back : List Bucket}
    {bucket : Bucket} (located : Located table nodeId front bucket back) (changed : Bucket) :
    (table.store bucket changed).buckets = front ++ changed :: back := by
  simp only [store, located.buckets]
  exact FirstMatch.modify_append _ _ front back bucket located.front_ne (by simp)

theorem Inv.located {config : Config} {table : RoutingTable} {depth : Nat}
    (inv : Inv config table depth) {nodeId : Bytes} (length : nodeId.length = DHT_NODE_ID_BYTES) :
    ∃ front bucket back, Located table nodeId front bucket back := by
  obtain ⟨front, bucket, back, split, covers, before, after⟩ :=
    inv.tiles.decompose (Nat.zero_le (fromBytes nodeId)) (fromBytes_lt_space length)
  refine ⟨front, bucket, back, split, (bucket.contains_iff nodeId).mpr covers, ?_, ?_⟩
  · intro other member
    exact Bool.eq_false_iff.mpr fun hit => before other member ((other.contains_iff nodeId).mp hit)
  · intro other member
    exact Bool.eq_false_iff.mpr fun hit => after other member ((other.contains_iff nodeId).mp hit)

/-- `_bucket_for` finds a bucket for every node ID of full length. -/
theorem Inv.bucketFor_ok {config : Config} {table : RoutingTable} {depth : Nat}
    (inv : Inv config table depth) {nodeId : Bytes} (length : nodeId.length = DHT_NODE_ID_BYTES) :
    ∃ bucket ∈ table.buckets, bucket.contains nodeId = true ∧
      table.bucketFor nodeId = .ok bucket := by
  obtain ⟨front, bucket, back, located⟩ := inv.located length
  exact ⟨bucket, located.member, located.holds, located.bucketFor_eq⟩

@[simp] theorem emit_buckets (config : Config) (now : Int) (event : RoutingEvent)
    (contact : Option Contact) (bucket : Bucket) (previous : Option ContactState)
    (table : RoutingTable) :
    (table.emit config now event contact bucket previous).buckets = table.buckets := rfl

@[simp] theorem emit_localNodeId (config : Config) (now : Int) (event : RoutingEvent)
    (contact : Option Contact) (bucket : Bucket) (previous : Option ContactState)
    (table : RoutingTable) :
    (table.emit config now event contact bucket previous).localNodeId = table.localNodeId := rfl

@[simp] theorem store_localNodeId (table : RoutingTable) (bucket changed : Bucket) :
    (table.store bucket changed).localNodeId = table.localNodeId := rfl

@[simp] theorem split_localNodeId (config : Config) (now : Int) (table : RoutingTable)
    (bucket : Bucket) : (table.split config now bucket).localNodeId = table.localNodeId := rfl

/-- Records do not matter to the invariant. -/
theorem Inv.congr {config : Config} {table other : RoutingTable} {depth : Nat}
    (inv : Inv config table depth) (sameLocal : other.localNodeId = table.localNodeId)
    (sameBuckets : other.buckets = table.buckets) : Inv config other depth where
  localLength := sameLocal ▸ inv.localLength
  tiles := sameBuckets ▸ inv.tiles
  depthLe := inv.depthLe
  blocks := by rw [sameLocal, sameBuckets]; exact inv.blocks
  valid := by rw [sameLocal, sameBuckets]; exact inv.valid

/-- A bucket may be changed in place as long as its range stays and it stays valid. -/
theorem Inv.exchange {config : Config} {table other : RoutingTable} {depth : Nat}
    (inv : Inv config table depth) {front back : List Bucket} {bucket changed : Bucket}
    (buckets : table.buckets = front ++ bucket :: back)
    (sameLocal : other.localNodeId = table.localNodeId)
    (changedBuckets : other.buckets = front ++ changed :: back)
    (low : changed.low = bucket.low) (high : changed.high = bucket.high)
    (valid : changed.Valid config table.localNodeId) : Inv config other depth := by
  have old : bucket ∈ table.buckets := by rw [buckets]; simp
  have members : ∀ member ∈ other.buckets, member = changed ∨ member ∈ table.buckets := by
    intro member present
    rw [changedBuckets] at present
    rw [buckets]
    simp only [List.mem_append, List.mem_cons] at present ⊢
    tauto
  refine ⟨sameLocal ▸ inv.localLength, ?_, inv.depthLe, ?_, ?_⟩
  · rw [changedBuckets]
    have nonempty := inv.tiles.nonempty old
    have tiles := inv.tiles
    rw [buckets] at tiles
    have exchanged := tiles.exchange [changed] ⟨low, by rw [low, high]; exact nonempty, high⟩
    simpa using exchanged
  · intro member present
    rw [sameLocal]
    rcases members member present with rfl | kept
    · rw [low, high]
      exact inv.blocks bucket old
    · exact inv.blocks member kept
  · intro member present
    rw [sameLocal]
    rcases members member present with rfl | kept
    · exact valid
    · exact inv.valid member kept

end RoutingTable

end PyDht
