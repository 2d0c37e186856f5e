import PyDht.RoutingSplit
import Mathlib.Data.List.Perm.Subperm

set_option autoImplicit false

namespace PyDht

open Tiling (Tiles Covers)

def Bucket.ids (bucket : Bucket) : List Bytes := bucket.entries.map Contact.nodeId

/-- What a node ID must satisfy to be stored in a bucket. -/
def Bucket.Admits (bucket : Bucket) (localNodeId nodeId : Bytes) : Prop :=
  nodeId.length = DHT_NODE_ID_BYTES ∧ bucket.contains nodeId = true ∧ nodeId ≠ localNodeId

theorem Bucket.Valid.admits {config : Config} {localNodeId : Bytes} {bucket : Bucket}
    (valid : bucket.Valid config localNodeId) :
    ∀ nodeId ∈ bucket.ids, bucket.Admits localNodeId nodeId := by
  intro nodeId member
  obtain ⟨contact, present, rfl⟩ := List.mem_map.mp member
  exact ⟨valid.idLength contact present, valid.inRange contact present,
    valid.notLocal contact present⟩

/-- A bucket whose node IDs come from a list of distinct admissible ones is
valid when its sizes and its cache are. -/
theorem Bucket.valid_of_ids {config : Config} {localNodeId : Bytes} {bucket : Bucket}
    (ids : List Bytes) (sub : bucket.ids.Subperm ids) (distinct : ids.Nodup)
    (admits : ∀ nodeId ∈ ids, bucket.Admits localNodeId nodeId)
    (contactsFit : bucket.contacts.length ≤ DHT_K)
    (replacementsFit : bucket.replacements.length ≤ DHT_K)
    (cached : bucket.replacements ≠ [] → bucket.contains localNodeId = false ∧
      bucket.contacts.length = DHT_K ∧ ∀ contact ∈ bucket.contacts, ¬ contact.Bad config)
    (fresh : ∀ contact ∈ bucket.replacements, ¬ contact.Bad config) :
    bucket.Valid config localNodeId := by
  have entry : ∀ contact ∈ bucket.entries, bucket.Admits localNodeId contact.nodeId :=
    fun contact member => admits _ (sub.subset (List.mem_map_of_mem member))
  have single : bucket.ids.Nodup := by
    obtain ⟨kept, perm, sublist⟩ := sub
    exact perm.nodup_iff.mp (distinct.sublist sublist)
  exact ⟨contactsFit, replacementsFit, fun contact member => (entry contact member).1,
    fun contact member => (entry contact member).2.1,
    fun contact member => (entry contact member).2.2, single, fun some => (cached some).1,
    fun some => (cached some).2.1, fun some => (cached some).2.2, fresh⟩

/-- The bucket after one of its contacts has been written to in place. -/
def Bucket.rewrite (bucket : Bucket) (nodeId : Bytes) (contact : Contact) : Bucket :=
  { bucket with
    contacts := FirstMatch.modify (·.nodeId = nodeId) (fun _ => contact) bucket.contacts }

@[simp] theorem Bucket.rewrite_low (bucket : Bucket) (nodeId : Bytes) (contact : Contact) :
    (bucket.rewrite nodeId contact).low = bucket.low := rfl

@[simp] theorem Bucket.rewrite_high (bucket : Bucket) (nodeId : Bytes) (contact : Contact) :
    (bucket.rewrite nodeId contact).high = bucket.high := rfl

@[simp] theorem Bucket.rewrite_contains (bucket : Bucket) (nodeId : Bytes) (contact : Contact)
    (other : Bytes) : (bucket.rewrite nodeId contact).contains other = bucket.contains other := rfl

@[simp] theorem Bucket.rewrite_replacements (bucket : Bucket) (nodeId : Bytes)
    (contact : Contact) : (bucket.rewrite nodeId contact).replacements = bucket.replacements := rfl

theorem Bucket.rewrite_ids (bucket : Bucket) (contact : Contact) :
    (bucket.rewrite contact.nodeId contact).ids = bucket.ids := by
  simp only [Bucket.ids, Bucket.entries, Bucket.rewrite, List.map_append]
  rw [FirstMatch.map_modify]
  intro item hit
  simpa using (of_decide_eq_true hit).symm

/-- Writing to a contact keeps a bucket valid unless the contact turns BAD
while replacements are waiting. -/
theorem Bucket.Valid.rewrite {config : Config} {localNodeId : Bytes} {bucket : Bucket}
    (valid : bucket.Valid config localNodeId) (contact : Contact)
    (sound : bucket.replacements ≠ [] → ¬ contact.Bad config) :
    (bucket.rewrite contact.nodeId contact).Valid config localNodeId := by
  apply Bucket.valid_of_ids bucket.ids
  · rw [Bucket.rewrite_ids]
  · exact valid.distinct
  · exact valid.admits
  · simpa [Bucket.rewrite] using valid.contactsFit
  · exact valid.replacementsFit
  · intro cached
    refine ⟨valid.cachedFar cached, ?_, ?_⟩
    · simpa [Bucket.rewrite] using valid.cachedFull cached
    · intro other member
      rcases FirstMatch.mem_modify member with old | ⟨_, _, _, rfl⟩
      · exact valid.cachedSound cached other old
      · exact sound cached
  · exact valid.fresh

theorem Contact.refresh_nodeId (contact : Contact) (now : Int) (ip : String) (port : Int)
    (sighting : Sighting) : (contact.refresh now ip port sighting).nodeId = contact.nodeId := by
  unfold Contact.refresh
  dsimp only
  split <;> split <;> split <;> rfl

theorem Contact.refresh_failures (contact : Contact) (now : Int) (ip : String) (port : Int)
    (sighting : Sighting) :
    (contact.refresh now ip port sighting).failures =
      if sighting.directResponse then 0 else contact.failures := by
  unfold Contact.refresh
  dsimp only
  split <;> split <;> split <;> rfl

/-- Being seen never makes a contact BAD. -/
theorem Contact.refresh_sound {config : Config} (valid : 1 ≤ config.dhtRoutingBadAfterFailures)
    (contact : Contact) (now : Int) (ip : String) (port : Int) (sighting : Sighting)
    (sound : ¬ contact.Bad config) : ¬ (contact.refresh now ip port sighting).Bad config := by
  unfold Contact.Bad at *
  rw [Contact.refresh_failures]
  split
  · simp only [Nat.cast_zero]
    omega
  · exact sound

theorem Contact.candidate_sound {config : Config}
    (valid : 1 ≤ config.dhtRoutingBadAfterFailures) (nodeId : Bytes) (now : Int) (ip : String)
    (port : Int) (sighting : Sighting) :
    ¬ (Contact.candidate nodeId now ip port sighting).Bad config := by
  simp only [Contact.Bad, Contact.candidate, Nat.cast_zero]
  omega

namespace RoutingTable

/-- The contact that `find` looks for is in the bucket it belongs to. -/
theorem find_contact {bucket : Bucket} {nodeId : Bytes} {contact : Contact}
    (found : bucket.contacts.find? (·.nodeId = nodeId) = some contact) :
    contact ∈ bucket.contacts ∧ contact.nodeId = nodeId :=
  ⟨List.mem_of_find?_eq_some found, by simpa using List.find?_some found⟩

theorem refresh_eq (config : Config) (now : Int) (table : RoutingTable) (bucket : Bucket)
    (contact : Contact) (ip : String) (port : Int) (sighting : Sighting) :
    let refreshed := contact.refresh now ip port sighting
    (table.refresh config now bucket contact ip port sighting).buckets =
        (table.store bucket (bucket.rewrite refreshed.nodeId refreshed)).buckets ∧
      (table.refresh config now bucket contact ip port sighting).localNodeId =
        table.localNodeId := by
  dsimp only
  rw [Contact.refresh_nodeId]
  unfold refresh
  dsimp only
  split <;> exact ⟨rfl, rfl⟩

theorem Inv.refresh {config : Config} (validConfig : 1 ≤ config.dhtRoutingBadAfterFailures)
    {table : RoutingTable} {depth : Nat} (inv : Inv config table depth) {nodeId : Bytes}
    {front back : List Bucket} {bucket : Bucket} (located : Located table nodeId front bucket back)
    {contact : Contact} (found : bucket.contacts.find? (·.nodeId = nodeId) = some contact)
    (now : Int) (ip : String) (port : Int) (sighting : Sighting) :
    Inv config (table.refresh config now bucket contact ip port sighting) depth := by
  have valid := inv.valid bucket located.member
  obtain ⟨buckets, sameLocal⟩ := refresh_eq config now table bucket contact ip port sighting
  apply inv.exchange located.buckets sameLocal (buckets.trans (located.store_buckets _)) rfl rfl
  apply valid.rewrite
  intro cached
  exact Contact.refresh_sound validConfig contact now ip port sighting
    (valid.cachedSound cached contact (find_contact found).1)

/-- Where `observe` puts a new contact, the bucket stays valid. -/
theorem admit_valid {config : Config} {table : RoutingTable} {nodeId : Bytes}
    {front back : List Bucket} {bucket : Bucket} (located : Located table nodeId front bucket back)
    (valid : bucket.Valid config table.localNodeId)
    (stopped : ¬ (DHT_K ≤ bucket.contacts.length ∧ bucket.contains table.localNodeId = true))
    {candidate : Contact} (admits : bucket.Admits table.localNodeId candidate.nodeId)
    (absent : ∀ contact ∈ bucket.contacts, contact.nodeId ≠ candidate.nodeId)
    (sound : ¬ candidate.Bad config) (now : Int) :
    ∃ changed, (table.insertCandidate config now bucket candidate).buckets =
        front ++ changed :: back ∧
      (table.insertCandidate config now bucket candidate).localNodeId = table.localNodeId ∧
      changed.low = bucket.low ∧ changed.high = bucket.high ∧
      changed.Valid config table.localNodeId := by
  have notContact : candidate.nodeId ∉ bucket.contacts.map Contact.nodeId := by
    intro member
    obtain ⟨contact, present, same⟩ := List.mem_map.mp member
    exact absent contact present same
  have every : ∀ nodeId ∈ candidate.nodeId :: bucket.ids,
      bucket.Admits table.localNodeId nodeId := by
    intro nodeId member
    rcases List.mem_cons.mp member with rfl | old
    · exact admits
    · exact valid.admits nodeId old
  unfold insertCandidate
  split
  · rename_i room
    have none : bucket.replacements = [] := by
      apply Decidable.byContradiction
      intro cached
      have full := valid.cachedFull cached
      omega
    refine ⟨_, located.store_buckets _, rfl, rfl, rfl, ?_⟩
    apply Bucket.valid_of_ids (candidate.nodeId :: bucket.ids)
    · simp only [Bucket.ids, Bucket.entries, none, List.append_nil, List.map_append, List.map_cons,
        List.map_nil]
      exact (List.perm_append_singleton _ _).subperm
    · apply List.Nodup.cons _ valid.distinct
      simpa [Bucket.ids, Bucket.entries, none] using notContact
    · exact every
    · simp only [List.length_append, List.length_cons, List.length_nil]
      omega
    · exact valid.replacementsFit
    · exact fun cached => absurd none cached
    · exact valid.fresh
  · rename_i full
    split
    · rename_i bad isBad
      have member : bad ∈ bucket.contacts := List.mem_of_find?_eq_some isBad
      have failed : bad.Bad config :=
        (bad.state_bad_iff config now).mp (by simpa using List.find?_some isBad)
      have none : bucket.replacements = [] := by
        apply Decidable.byContradiction
        intro cached
        exact valid.cachedSound cached bad member failed
      refine ⟨_, located.store_buckets _, rfl, rfl, rfl, ?_⟩
      apply Bucket.valid_of_ids (candidate.nodeId :: bucket.ids)
      · simp only [Bucket.ids, Bucket.entries, none, List.append_nil, List.map_append,
          List.map_cons, List.map_nil]
        have kept : (bucket.contacts.erase bad).Sublist bucket.contacts := List.erase_sublist
        exact (List.perm_append_singleton _ _).subperm.trans
          ((kept.map Contact.nodeId).cons_cons _).subperm
      · apply List.Nodup.cons _ valid.distinct
        simpa [Bucket.ids, Bucket.entries, none] using notContact
      · exact every
      · have fits := valid.contactsFit
        have shorter := List.length_erase_of_mem member
        have positive := List.length_pos_of_mem member
        simp only [List.length_append, List.length_cons, List.length_nil]
        omega
      · exact valid.replacementsFit
      · exact fun cached => absurd none cached
      · exact valid.fresh
    · rename_i noneBad
      split
      · rename_i unseen
        have notCached : candidate.nodeId ∉ bucket.replacements.map Contact.nodeId := by
          intro member
          obtain ⟨contact, present, same⟩ := List.mem_map.mp member
          have different := List.all_eq_true.mp unseen contact present
          simp [same] at different
        have kept : (if DHT_K ≤ bucket.replacements.length then bucket.replacements.tail
            else bucket.replacements).Sublist bucket.replacements := by
          split
          · exact List.tail_sublist _
          · exact List.Sublist.refl _
        refine ⟨_, located.store_buckets _, rfl, rfl, rfl, ?_⟩
        apply Bucket.valid_of_ids (candidate.nodeId :: bucket.ids)
        · simp only [Bucket.ids, Bucket.entries, List.map_append, List.map_cons, List.map_nil]
          rw [← List.append_assoc]
          exact (List.perm_append_singleton _ _).subperm.trans
            (((kept.map Contact.nodeId).append_left _).cons_cons _).subperm
        · apply List.Nodup.cons _ valid.distinct
          simp only [Bucket.entries, List.map_append, List.mem_append]
          exact fun member => member.elim notContact notCached
        · exact every
        · exact valid.contactsFit
        · have fits := valid.replacementsFit
          simp only [List.length_append, List.length_cons, List.length_nil]
          split
          · rw [List.length_tail]
            unfold DHT_K at *
            omega
          · omega
        · intro _
          refine ⟨?_, ?_, ?_⟩
          · apply Bool.eq_false_iff.mpr
            intro around
            exact stopped ⟨by omega, around⟩
          · have fits := valid.contactsFit
            dsimp only
            omega
          · intro contact member failed
            have sane := List.find?_eq_none.mp noneBad contact member
            exact sane (by simpa using (contact.state_bad_iff config now).mpr failed)
        · intro contact member
          rcases List.mem_append.mp member with old | same
          · exact valid.fresh contact (kept.subset old)
          · rw [List.mem_singleton.mp same]
            exact sound
      · exact ⟨bucket, located.buckets, rfl, rfl, rfl, valid⟩

/-- `observe` with its branches told apart, for a node ID that it does not reject. -/
theorem observe_known {config : Config} {table : RoutingTable} {nodeId : Bytes}
    {front back : List Bucket} {bucket : Bucket} (located : Located table nodeId front bucket back)
    (length : nodeId.length = DHT_NODE_ID_BYTES) (foreign : nodeId ≠ table.localNodeId)
    {contact : Contact} (found : bucket.contacts.find? (·.nodeId = nodeId) = some contact)
    (now : Int) (ip : String) (port : Int) (sighting : Sighting) :
    table.observe config now nodeId ip port sighting =
      .ok (table.refresh config now bucket contact ip port sighting,
        some (contact.refresh now ip port sighting)) := by
  simp [observe, length, foreign, located.bucketFor_eq, bind, Except.bind, found, pure,
    Except.pure]

end RoutingTable

end PyDht
