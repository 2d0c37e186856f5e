import PyDht.RoutingRuns

set_option autoImplicit false

namespace PyDht

namespace RoutingTable

/-- Every contact and every replacement of the table has the property. -/
def Every (holds : Contact → Prop) (table : RoutingTable) : Prop :=
  ∀ bucket ∈ table.buckets, ∀ contact ∈ bucket.entries, holds contact

section every

variable {holds : Contact → Prop} {config : Config} {table : RoutingTable} {bucket : Bucket}

theorem Every.mono {weaker : Contact → Prop} (every : Every holds table)
    (implies : ∀ contact, holds contact → weaker contact) : Every weaker table :=
  fun bucket inside contact member => implies contact (every bucket inside contact member)

theorem Every.contacts (every : Every holds table) :
    ∀ contact ∈ table.allContacts, holds contact := by
  intro contact member
  rcases List.mem_flatMap.mp member with ⟨bucket, inside, present⟩
  exact every bucket inside contact (List.mem_append_left _ present)

theorem bucketFor_mem {nodeId : Bytes} (found : table.bucketFor nodeId = .ok bucket) :
    bucket ∈ table.buckets := by
  unfold bucketFor at found
  split at found
  · rename_i first isFirst
    cases found
    exact List.mem_of_find?_eq_some isFirst
  · cases found

theorem Every.store (bucket : Bucket) (every : Every holds table) {changed : Bucket}
    (sound : ∀ contact ∈ changed.entries, holds contact) :
    Every holds (table.store bucket changed) := by
  intro other inside
  rcases FirstMatch.mem_modify inside with old | ⟨_, _, _, rfl⟩
  · exact every other old
  · exact sound

theorem Every.emit (bucket : Bucket) (every : Every holds table) (now : Int)
    (event : RoutingEvent) (contact : Option Contact) (previous : Option ContactState) :
    Every holds (table.emit config now event contact bucket previous) :=
  every

theorem Every.halves (bucket : Bucket) (now : Int)
    (sound : ∀ contact ∈ bucket.entries, holds contact) :
    (∀ contact ∈ (halves bucket now).1.entries, holds contact) ∧
      ∀ contact ∈ (halves bucket now).2.entries, holds contact := by
  have dealt : ∀ (keep : Contact → Bool) (contact : Contact),
      contact ∈ bucket.contacts.filter keep ++ (bucket.replacements.filter keep).take DHT_K →
      holds contact := by
    intro keep contact member
    apply sound contact
    rcases List.mem_append.mp member with known | cached
    · exact List.mem_append_left _ (List.mem_filter.mp known).1
    · exact List.mem_append_right _ (List.mem_filter.mp (List.mem_of_mem_take cached)).1
  exact ⟨dealt _, dealt _⟩

theorem Every.split (every : Every holds table) (inside : bucket ∈ table.buckets) (now : Int) :
    Every holds (table.split config now bucket) := by
  have parts := Every.halves bucket now (every bucket inside)
  have spliced : ∀ buckets : List Bucket,
      (∀ other ∈ buckets, ∀ contact ∈ other.entries, holds contact) →
      ∀ other ∈ FirstMatch.splice (· = bucket)
        (fun _ => [(RoutingTable.halves bucket now).1, (RoutingTable.halves bucket now).2]) buckets,
      ∀ contact ∈ other.entries, holds contact := by
    intro buckets sound
    induction buckets with
    | nil => simp
    | cons head rest ih =>
        intro other member
        unfold FirstMatch.splice at member
        split at member
        · rcases List.mem_append.mp member with fresh | old
          · rcases List.mem_pair.mp fresh with rfl | rfl
            · exact parts.1
            · exact parts.2
          · exact sound other (List.mem_cons_of_mem _ old)
        · rcases List.mem_cons.mp member with rfl | later
          · exact sound _ (by simp)
          · exact ih (fun part there => sound part (List.mem_cons_of_mem _ there)) other later
  exact spliced table.buckets every

/-- The splitting loop ends with a bucket of the table it ends with. -/
theorem Every.splitWhileFull {now : Int} {nodeId : Bytes} {rounds : Nat} {settled : RoutingTable}
    {final : Bucket} (every : Every holds table) (inside : bucket ∈ table.buckets)
    (ran : table.splitWhileFull config now nodeId rounds bucket = .ok (settled, final)) :
    Every holds settled ∧ final ∈ settled.buckets := by
  induction rounds generalizing table bucket with
  | zero => cases ran
  | succ rounds ih =>
      unfold RoutingTable.splitWhileFull at ran
      split at ran
      · rcases bind_ok_iff.mp ran with ⟨next, found, later⟩
        exact ih (every.split inside now) (bucketFor_mem found) later
      · cases ran
        exact ⟨every, inside⟩

theorem Every.insertCandidate (every : Every holds table) (inside : bucket ∈ table.buckets)
    (now : Int) {candidate : Contact} (sound : holds candidate) :
    Every holds (table.insertCandidate config now bucket candidate) := by
  have old := every bucket inside
  have joined : ∀ contacts : List Contact, (∀ contact ∈ contacts, contact ∈ bucket.contacts) →
      ∀ contact ∈ (contacts ++ [candidate]) ++ bucket.replacements, holds contact := by
    intro contacts kept contact member
    rcases List.mem_append.mp member with known | cached
    · rcases List.mem_append.mp known with before | new
      · exact old contact (List.mem_append_left _ (kept contact before))
      · exact List.mem_singleton.mp new ▸ sound
    · exact old contact (List.mem_append_right _ cached)
  unfold RoutingTable.insertCandidate
  split
  · exact every.store bucket (joined bucket.contacts fun _ member => member)
  · split
    · rename_i bad _
      exact every.store bucket (joined (bucket.contacts.erase bad) fun _ member =>
        List.mem_of_mem_erase member)
    · split
      · apply every.store
        intro contact member
        rcases List.mem_append.mp member with known | cached
        · exact old contact (List.mem_append_left _ known)
        · rcases List.mem_append.mp cached with before | new
          · apply old contact (List.mem_append_right _ _)
            split at before
            · exact List.mem_of_mem_tail before
            · exact before
          · exact List.mem_singleton.mp new ▸ sound
      · exact every

theorem Every.rewrite (every : Every holds table) (inside : bucket ∈ table.buckets)
    (nodeId : Bytes) {contact : Contact} (sound : holds contact) :
    ∀ other ∈ (bucket.rewrite nodeId contact).entries, holds other := by
  intro other member
  rcases List.mem_append.mp member with known | cached
  · rcases FirstMatch.mem_modify known with old | ⟨_, _, _, rfl⟩
    · exact every bucket inside other (List.mem_append_left _ old)
    · exact sound
  · exact every bucket inside other (List.mem_append_right _ cached)

/-- `observe` keeps a property of all entries that its own contact has. -/
theorem Every.observe {now : Int} {nodeId : Bytes} {ip : String} {port : Int} {sighting : Sighting}
    {result : RoutingTable × Option Contact} (every : Every holds table)
    (known : ∀ contact, holds contact → contact.nodeId = nodeId →
      holds (contact.refresh now ip port sighting))
    (unknown : nodeId.length = DHT_NODE_ID_BYTES →
      holds (Contact.candidate nodeId now ip port sighting))
    (ran : table.observe config now nodeId ip port sighting = .ok result) :
    Every holds result.1 := by
  unfold RoutingTable.observe at ran
  split at ran
  · cases ran
    exact every
  · rename_i proper
    have length : nodeId.length = DHT_NODE_ID_BYTES := by
      by_contra wrong
      exact proper (.inl wrong)
    rcases bind_ok_iff.mp ran with ⟨bucket, found, chosen⟩
    have inside := bucketFor_mem found
    split at chosen
    · rename_i contact isContact
      cases pure_ok_iff.mp chosen
      have facts := find_contact isContact
      have held := every bucket inside contact (List.mem_append_left _ facts.1)
      have changed := every.store bucket
        (every.rewrite inside contact.nodeId (known contact held facts.2))
      unfold RoutingTable.refresh
      dsimp only
      split
      · exact changed.emit _ _ _ _ _
      · exact changed
    · dsimp only at chosen
      split at chosen
      · cases pure_ok_iff.mp chosen
        exact every.emit _ _ _ _ _
      · rcases bind_ok_iff.mp chosen with ⟨⟨settled, final⟩, halved, last⟩
        cases pure_ok_iff.mp last
        have parts := (every.emit bucket now .nodeCandidate
          (some (Contact.candidate nodeId now ip port sighting)) none).splitWhileFull inside halved
        exact parts.1.insertCandidate parts.2 now (unknown length)

theorem Every.promote (every : Every holds table)
    (old : ∀ contact ∈ bucket.entries, holds contact) (now : Int) (contact : Contact) :
    Every holds (table.promote config now bucket contact) := by
  unfold RoutingTable.promote
  split
  · rename_i replacement newest
    apply Every.emit
    apply Every.emit
    apply every.store
    intro other member
    rcases List.mem_append.mp member with known | cached
    · rcases List.mem_append.mp known with before | new
      · exact old other (List.mem_append_left _ (List.mem_of_mem_erase before))
      · rw [List.mem_singleton.mp new]
        exact old replacement (List.mem_append_right _ (List.mem_of_getLast? newest))
    · exact old other (List.mem_append_right _ (List.mem_of_mem_dropLast cached))
  · exact every

/-- `mark_failure` keeps a property that does not depend on the number of failures. -/
theorem Every.markFailure {now : Int} {nodeId : Bytes} {result : RoutingTable}
    (every : Every holds table) (failing : ∀ contact, holds contact → holds (failedOnce contact))
    (ran : table.markFailure config now nodeId = .ok result) : Every holds result := by
  rcases bind_ok_iff.mp ran with ⟨known, found, chosen⟩
  rcases bind_ok_iff.mp found with ⟨holder, isHolder, isKnown⟩
  have isKnown := pure_ok_iff.mp isKnown
  cases known with
  | none => exact pure_ok_iff.mp chosen ▸ every
  | some contact =>
      rcases bind_ok_iff.mp chosen with ⟨bucket, isBucket, counted⟩
      have same : holder = bucket := Except.ok.inj (isHolder.symm.trans isBucket)
      rw [same] at isKnown
      have inside := bucketFor_mem isBucket
      have held := every bucket inside contact
        (List.mem_append_left _ (find_contact isKnown).1)
      have sound := every.rewrite inside nodeId (failing contact held)
      have stored := every.store bucket sound
      dsimp only at counted
      split at counted
      · cases pure_ok_iff.mp counted
        apply Every.promote _ sound
        split
        · exact stored.emit _ _ _ _ _
        · exact stored
      · cases pure_ok_iff.mp counted
        split
        · exact stored.emit _ _ _ _ _
        · exact stored

/-- Restoring a record keeps a property that an endpoint someone else wrote
down does not touch. -/
theorem Every.restoreRecord {now : Int} {record : SnapshotRecord} {result : RoutingTable}
    (every : Every holds table)
    (known : ∀ contact ip port, holds contact → holds (contact.refresh now ip port {}))
    (unknown : ∀ nodeId ip port, nodeId.length = DHT_NODE_ID_BYTES →
      holds (Contact.candidate nodeId now ip port {}))
    (ran : table.restoreRecord config now record = .ok result) : Every holds result := by
  unfold RoutingTable.restoreRecord at ran
  split at ran
  · exact Except.ok.inj ran ▸ every
  · split at ran
    · rename_i nodeId ip port _ _ _
      unfold Except.map at ran
      split at ran
      · cases ran
      · rename_i observed isObserved
        cases ran
        exact every.observe (fun contact held _ => known contact ip port held)
          (unknown nodeId ip port) isObserved
    · exact Except.ok.inj ran ▸ every

end every

end RoutingTable

end PyDht
