import PyDht.RoutingInvariant

set_option autoImplicit false

namespace PyDht

open Tiling (Tiles Covers)
open Bisection (Block near far)

/-- A part of a bucket without replacements is valid within its own range. -/
theorem Bucket.Valid.part {config : Config} {localNodeId : Bytes} {bucket part : Bucket}
    (valid : bucket.Valid config localNodeId) (contacts : part.contacts.Sublist bucket.contacts)
    (replacements : part.replacements = [])
    (inRange : ∀ contact ∈ part.contacts, part.contains contact.nodeId = true) :
    part.Valid config localNodeId := by
  have entries : part.entries = part.contacts := by simp [Bucket.entries, replacements]
  have old : ∀ contact ∈ part.entries, contact ∈ bucket.entries := by
    intro contact member
    rw [entries] at member
    exact List.mem_append_left _ (contacts.subset member)
  refine ⟨contacts.length_le.trans valid.contactsFit, by simp [replacements, DHT_K],
    fun contact member => valid.idLength contact (old contact member), ?_,
    fun contact member => valid.notLocal contact (old contact member), ?_, ?_, ?_, ?_, ?_⟩
  · intro contact member
    exact inRange contact (entries ▸ member)
  · rw [entries]
    have kept : part.contacts.Sublist bucket.entries :=
      contacts.trans (List.sublist_append_left _ _)
    exact valid.distinct.sublist (kept.map _)
  all_goals simp [replacements]

theorem Bucket.Valid.no_replacements {config : Config} {localNodeId : Bytes} {bucket : Bucket}
    (valid : bucket.Valid config localNodeId) (around : bucket.contains localNodeId = true) :
    bucket.replacements = [] := by
  apply Decidable.byContradiction
  intro cached
  rw [valid.cachedFar cached] at around
  cases around

namespace RoutingTable

def allReplacements (table : RoutingTable) : List Contact :=
  table.buckets.flatMap Bucket.replacements

theorem contains_inside (bucket : Bucket) (nodeId : Bytes) :
    bucket.contains nodeId = true ↔ Bisection.Inside (fromBytes nodeId) (bucket.low, bucket.high) :=
  bucket.contains_iff nodeId

/-- The bucket around the local ID is what the halvings have left of the space. -/
theorem Inv.near_range {config : Config} {table : RoutingTable} {depth : Nat}
    (inv : Inv config table depth) {bucket : Bucket} (member : bucket ∈ table.buckets)
    (around : bucket.contains table.localNodeId = true) :
    (bucket.low, bucket.high) = near (fromBytes table.localNodeId) wholeSpace depth :=
  (inv.blocks bucket member).eq_near (local_inside inv.localLength)
    ((contains_inside bucket _).mp around)

theorem Inv.near_width {config : Config} {table : RoutingTable} {depth : Nat}
    (inv : Inv config table depth) {bucket : Bucket} (member : bucket ∈ table.buckets)
    (around : bucket.contains table.localNodeId = true) :
    bucket.high = bucket.low + 2 ^ (160 - depth) := by
  have width := Bisection.near_width (fromBytes table.localNodeId) wholeSpace 160 (by
    simp [wholeSpace, DHT_ID_SPACE]) depth inv.depthLe
  rw [← inv.near_range member around] at width
  exact width

/-- The last range around the local ID holds nothing else, so it is never full. -/
theorem Inv.depth_lt_of_full {config : Config} {table : RoutingTable} {depth : Nat}
    (inv : Inv config table depth) {bucket : Bucket} (member : bucket ∈ table.buckets)
    (around : bucket.contains table.localNodeId = true) (full : DHT_K ≤ bucket.contacts.length) :
    depth < 160 := by
  apply Nat.lt_of_le_of_ne inv.depthLe
  rintro rfl
  have width := inv.near_width member around
  have valid := inv.valid bucket member
  obtain ⟨contact, present⟩ : ∃ contact, contact ∈ bucket.contacts :=
    List.exists_mem_of_length_pos (by unfold DHT_K at full; omega)
  have entry : contact ∈ bucket.entries := List.mem_append_left _ present
  have inside := (contains_inside bucket _).mp (valid.inRange contact entry)
  have center := (contains_inside bucket _).mp around
  unfold Bisection.Inside at inside center
  dsimp only at inside center
  apply valid.notLocal contact entry
  apply fromBytes_injective
  · rw [valid.idLength contact entry, inv.localLength]
  · omega

theorem halves_contacts_perm (bucket : Bucket) (now : Int) :
    ((halves bucket now).1.contacts ++ (halves bucket now).2.contacts).Perm bucket.contacts := by
  simp only [halves]
  exact List.filter_append_perm _ _

/-- One round of the loop: the bucket around the local ID gives way to its halves. -/
theorem Located.split_buckets {table : RoutingTable} {nodeId : Bytes} {front back : List Bucket}
    {bucket : Bucket} (located : Located table nodeId front bucket back) (config : Config)
    (now : Int) :
    (table.split config now bucket).buckets =
      front ++ [(halves bucket now).1, (halves bucket now).2] ++ back := by
  simp only [split, emit_buckets, located.buckets]
  exact FirstMatch.splice_append _ _ front back bucket located.front_ne (by simp)

theorem halves_valid {config : Config} {localNodeId : Bytes} {bucket : Bucket}
    (valid : bucket.Valid config localNodeId) (none : bucket.replacements = []) (now : Int) :
    (halves bucket now).1.Valid config localNodeId ∧
      (halves bucket now).2.Valid config localNodeId := by
  constructor
  · apply valid.part
    · exact List.filter_sublist
    · simp [halves, none]
    · intro contact member
      exact (List.mem_filter.mp member).2
  · apply valid.part
    · exact List.filter_sublist
    · simp [halves, none]
    · intro contact member
      obtain ⟨present, notLeft⟩ := List.mem_filter.mp member
      have inside := valid.inRange contact (List.mem_append_left _ present)
      simp only [Bucket.contains, halves, Bool.not_eq_true', decide_eq_false_iff_not,
        decide_eq_true_eq] at inside notLeft ⊢
      exact decide_eq_true ⟨by omega, inside.2⟩

theorem Inv.split {config : Config} {table : RoutingTable} {depth : Nat}
    (inv : Inv config table depth) {nodeId : Bytes} {front back : List Bucket} {bucket : Bucket}
    (located : Located table nodeId front bucket back)
    (around : bucket.contains table.localNodeId = true)
    (full : DHT_K ≤ bucket.contacts.length) (now : Int) :
    Inv config (table.split config now bucket) (depth + 1) := by
  have depthLt := inv.depth_lt_of_full located.member around full
  have valid := inv.valid bucket located.member
  have none := valid.no_replacements around
  have range := inv.near_range located.member around
  have width := inv.near_width located.member around
  have doubled : 2 ^ (160 - depth) = 2 * 2 ^ (160 - (depth + 1)) := by
    rw [show 160 - depth = 160 - (depth + 1) + 1 by omega, Nat.pow_succ, Nat.mul_comm]
  have positive : 0 < 2 ^ (160 - (depth + 1)) := Nat.two_pow_pos _
  have parts : ∀ part ∈ (table.split config now bucket).buckets,
      part = (halves bucket now).1 ∨ part = (halves bucket now).2 ∨
        part ∈ table.buckets ∧ part.contains table.localNodeId = false := by
    intro part member
    rw [located.split_buckets] at member
    have center := (contains_inside bucket _).mp around
    have others : ∀ other ∈ front ++ back, other.contains table.localNodeId = false := by
      intro other present
      apply Bool.eq_false_iff.mpr
      intro hit
      have place : other ∈ table.buckets := by
        rw [located.buckets]
        simp only [List.mem_append, List.mem_cons] at present ⊢
        tauto
      have same := inv.tiles.covers_unique place located.member
        ((other.contains_iff _).mp hit) ((bucket.contains_iff _).mp around)
      have absent : other.contains nodeId = false := by
        rcases List.mem_append.mp present with present | present
        · exact located.before other present
        · exact located.after other present
      rw [same, located.holds] at absent
      cases absent
    simp only [List.append_assoc, List.mem_append, List.mem_cons, List.not_mem_nil,
      or_false] at member
    rcases member with old | (left | right) | old
    · refine Or.inr (Or.inr ⟨?_, others part (List.mem_append_left _ old)⟩)
      rw [located.buckets]
      exact List.mem_append_left _ old
    · exact Or.inl left
    · exact Or.inr (Or.inl right)
    · refine Or.inr (Or.inr ⟨?_, others part (List.mem_append_right _ old)⟩)
      rw [located.buckets]
      exact List.mem_append_right _ (List.mem_cons_of_mem _ old)
  refine ⟨inv.localLength, ?_, depthLt, ?_, ?_⟩
  · have tiles := inv.tiles
    rw [located.buckets] at tiles
    rw [located.split_buckets]
    apply tiles.exchange [(halves bucket now).1, (halves bucket now).2]
    simp only [Tiling.tiles_cons, Tiling.tiles_nil, halves, true_and, and_true]
    omega
  · intro part member
    rcases parts part member with rfl | rfl | ⟨old, away⟩
    · by_cases side : fromBytes table.localNodeId < (bucket.low + bucket.high) / 2
      · left
        simp only [split_localNodeId, near, ← range, Bisection.keep, Bisection.middle, side,
          ↓reduceIte, halves]
      · right
        refine ⟨depth, Nat.lt_succ_self _, ?_⟩
        simp only [split_localNodeId, far, ← range, Bisection.drop, Bisection.middle, side,
          ↓reduceIte, halves]
    · by_cases side : fromBytes table.localNodeId < (bucket.low + bucket.high) / 2
      · right
        refine ⟨depth, Nat.lt_succ_self _, ?_⟩
        simp only [split_localNodeId, far, ← range, Bisection.drop, Bisection.middle, side,
          ↓reduceIte, halves]
      · left
        simp only [split_localNodeId, near, ← range, Bisection.keep, Bisection.middle, side,
          ↓reduceIte, halves]
    · apply (inv.blocks part old).succ
      intro same
      have center := Bisection.near_inside _ _ (local_inside inv.localLength) depth
      rw [← same, ← contains_inside, away] at center
      cases center
  · intro part member
    have sound := halves_valid valid none now
    rcases parts part member with rfl | rfl | ⟨old, -⟩
    · exact sound.1
    · exact sound.2
    · exact inv.valid part old

theorem Inv.split_contacts {config : Config} {table : RoutingTable} {depth : Nat}
    (inv : Inv config table depth) {nodeId : Bytes} {front back : List Bucket} {bucket : Bucket}
    (located : Located table nodeId front bucket back)
    (around : bucket.contains table.localNodeId = true) (now : Int) :
    (table.split config now bucket).allContacts.Perm table.allContacts ∧
      (table.split config now bucket).allReplacements = table.allReplacements := by
  have none := (inv.valid bucket located.member).no_replacements around
  constructor
  · simp only [allContacts, located.split_buckets, located.buckets, List.flatMap_append,
      List.flatMap_cons, List.flatMap_nil, List.append_nil, List.append_assoc]
    apply List.Perm.append_left
    rw [← List.append_assoc]
    exact (halves_contacts_perm bucket now).append_right _
  · simp [allReplacements, located.split_buckets, located.buckets, halves, none]

/-- What the splitting loop of `observe` ends with. -/
structure Settled (config : Config) (table : RoutingTable) (nodeId : Bytes)
    (settled : RoutingTable) (bucket : Bucket) : Prop where
  inv : ∃ depth, Inv config settled depth
  located : ∃ front back, Located settled nodeId front bucket back
  stopped : ¬ (DHT_K ≤ bucket.contacts.length ∧ bucket.contains settled.localNodeId = true)
  sameLocal : settled.localNodeId = table.localNodeId
  contacts : settled.allContacts.Perm table.allContacts
  replacements : settled.allReplacements = table.allReplacements

/-- The loop ends within one round more than the halvings that are left. -/
theorem Inv.splitWhileFull {config : Config} {nodeId : Bytes}
    (length : nodeId.length = DHT_NODE_ID_BYTES) (now : Int) (rounds : Nat) :
    ∀ {table : RoutingTable} {depth : Nat} {front back : List Bucket} {bucket : Bucket},
      Inv config table depth → Located table nodeId front bucket back → 160 - depth < rounds →
      ∃ settled final, table.splitWhileFull config now nodeId rounds bucket =
        .ok (settled, final) ∧ Settled config table nodeId settled final := by
  induction rounds with
  | zero => intro table depth front back bucket _ _ enough; omega
  | succ rounds ih =>
      intro table depth front back bucket inv located enough
      unfold RoutingTable.splitWhileFull
      by_cases again : DHT_K ≤ bucket.contacts.length ∧ bucket.contains table.localNodeId = true
      · rw [if_pos again]
        have next := inv.split located again.2 again.1 now
        have depthLt := inv.depth_lt_of_full located.member again.2 again.1
        obtain ⟨front', bucket', back', located'⟩ := next.located length
        obtain ⟨settled, final, run, result⟩ := ih next located' (by omega)
        have same := inv.split_contacts located again.2 now
        refine ⟨settled, final, ?_, result.inv, result.located, result.stopped, result.sameLocal,
          result.contacts.trans same.1, result.replacements.trans same.2⟩
        simp only [bind, Except.bind, located'.bucketFor_eq, run]
      · rw [if_neg again]
        exact ⟨table, bucket, rfl, ⟨depth, inv⟩, ⟨front, back, located⟩, again, rfl,
          List.Perm.refl _, rfl⟩

end RoutingTable

end PyDht
