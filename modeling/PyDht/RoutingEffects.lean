import PyDht.RoutingRestore

set_option autoImplicit false

namespace PyDht

namespace RoutingTable

/-- All contacts stay as they are, but that some give way to others. -/
def Exchanged (table result : RoutingTable) (old new : List Contact) : Prop :=
  ∃ others, table.allContacts.Perm (old ++ others) ∧ result.allContacts.Perm (new ++ others)

/-- What `observe` does for a node ID that it does not reject. -/
inductive Observed (config : Config) (now : Int) (nodeId : Bytes) (ip : String) (port : Int)
    (sighting : Sighting) (table result : RoutingTable) : Prop where
  | refreshed (contact : Contact) (same : contact.nodeId = nodeId)
      (contacts : Exchanged table result [contact] [contact.refresh now ip port sighting])
      (replacements : result.allReplacements = table.allReplacements)
  | ignored (absent : ∀ contact ∈ table.allContacts, contact.nodeId ≠ nodeId)
      (contacts : Exchanged table result [] [])
      (replacements : result.allReplacements = table.allReplacements)
  | added (absent : ∀ contact ∈ table.allContacts, contact.nodeId ≠ nodeId)
      (uncached : ∀ contact ∈ table.allReplacements, contact.nodeId ≠ nodeId)
      (contacts : Exchanged table result [] [Contact.candidate nodeId now ip port sighting])
      (replacements : result.allReplacements = table.allReplacements)
  | succeeded (bad : Contact) (isBad : bad.Bad config)
      (absent : ∀ contact ∈ table.allContacts, contact.nodeId ≠ nodeId)
      (uncached : ∀ contact ∈ table.allReplacements, contact.nodeId ≠ nodeId)
      (contacts : Exchanged table result [bad] [Contact.candidate nodeId now ip port sighting])
      (replacements : result.allReplacements = table.allReplacements)
  | cached (absent : ∀ contact ∈ table.allContacts, contact.nodeId ≠ nodeId)
      (uncached : ∀ contact ∈ table.allReplacements, contact.nodeId ≠ nodeId)
      (contacts : Exchanged table result [] [])
      (replacements : ∀ contact ∈ result.allReplacements, contact ∈ table.allReplacements ∨
        contact = Contact.candidate nodeId now ip port sighting)

/-- What `mark_failure` does. -/
inductive Failed (config : Config) (nodeId : Bytes) (table result : RoutingTable) : Prop where
  | unknown (absent : ∀ contact ∈ table.allContacts, contact.nodeId ≠ nodeId)
      (same : result = table)
  | counted (contact : Contact) (same : contact.nodeId = nodeId)
      (contacts : Exchanged table result [contact] [failedOnce contact])
      (replacements : result.allReplacements = table.allReplacements)
  | promoted (contact replacement : Contact) (same : contact.nodeId = nodeId)
      (isBad : (failedOnce contact).Bad config) (waiting : replacement ∈ table.allReplacements)
      (contacts : Exchanged table result [contact] [replacement])
      (replacements : ∀ other ∈ result.allReplacements, other ∈ table.allReplacements)

section exchanged

variable {table result : RoutingTable} {old new : List Contact} {nodeId : Bytes}
  {front back : List Bucket} {bucket changed : Bucket}

theorem Exchanged.refl (table : RoutingTable) : Exchanged table table [] [] :=
  ⟨table.allContacts, List.Perm.refl _, List.Perm.refl _⟩

theorem Exchanged.after {settled : RoutingTable} (exchanged : Exchanged settled result old new)
    (same : settled.allContacts.Perm table.allContacts) : Exchanged table result old new := by
  obtain ⟨others, before, after⟩ := exchanged
  exact ⟨others, same.symm.trans before, after⟩

/-- What is exchanged in a bucket is exchanged in the table. -/
theorem Located.exchanged (located : Located table nodeId front bucket back)
    (buckets : result.buckets = front ++ changed :: back) {others : List Contact}
    (before : bucket.contacts.Perm (old ++ others))
    (after : changed.contacts.Perm (new ++ others)) : Exchanged table result old new := by
  have around : ∀ {inside part : List Contact}, inside.Perm (part ++ others) →
      (front.flatMap Bucket.contacts ++ (inside ++ back.flatMap Bucket.contacts)).Perm
        (part ++ (front.flatMap Bucket.contacts ++ (others ++ back.flatMap Bucket.contacts))) := by
    intro inside part perm
    have moved := (perm.append_right (back.flatMap Bucket.contacts)).append_left
      (front.flatMap Bucket.contacts)
    rw [List.append_assoc part] at moved
    refine moved.trans ?_
    rw [← List.append_assoc, ← List.append_assoc part]
    exact List.perm_append_comm.append_right _
  refine ⟨front.flatMap Bucket.contacts ++ (others ++ back.flatMap Bucket.contacts), ?_, ?_⟩
  · simpa only [allContacts, located.buckets, List.flatMap_append, List.flatMap_cons] using
      around before
  · simpa only [allContacts, buckets, List.flatMap_append, List.flatMap_cons] using around after

theorem Located.replacements_same (located : Located table nodeId front bucket back)
    (buckets : result.buckets = front ++ changed :: back)
    (same : changed.replacements = bucket.replacements) :
    result.allReplacements = table.allReplacements := by
  simp only [allReplacements, located.buckets, buckets, List.flatMap_append, List.flatMap_cons,
    same]

/-- The replacements of the other buckets stay. -/
theorem Located.replacements_sub (located : Located table nodeId front bucket back)
    (buckets : result.buckets = front ++ changed :: back) (fresh : Contact → Prop)
    (inside : ∀ contact ∈ changed.replacements, contact ∈ bucket.replacements ∨ fresh contact) :
    ∀ contact ∈ result.allReplacements, contact ∈ table.allReplacements ∨ fresh contact := by
  intro contact member
  simp only [allReplacements, located.buckets, buckets, List.flatMap_append, List.flatMap_cons,
    List.mem_append] at member ⊢
  obtain before | here | after := member
  · exact .inl (.inl before)
  · exact (inside contact here).imp_left fun old => .inr (.inl old)
  · exact .inl (.inr (.inr after))

/-- A replacement with the node ID is in the bucket that the ID belongs to. -/
theorem Inv.mem_replacements {config : Config} {depth : Nat} (inv : Inv config table depth)
    (located : Located table nodeId front bucket back) {contact : Contact}
    (member : contact ∈ table.allReplacements) (same : contact.nodeId = nodeId) :
    contact ∈ bucket.replacements := by
  obtain ⟨other, present, inside⟩ := List.mem_flatMap.mp member
  have covers := (inv.valid other present).inRange contact (List.mem_append_right _ inside)
  rw [same] at covers
  rwa [← inv.tiles.covers_unique present located.member ((other.contains_iff nodeId).mp covers)
    ((bucket.contains_iff nodeId).mp located.holds)]

/-- A write in place exchanges one contact. -/
theorem rewrite_perm {contact : Contact}
    (found : bucket.contacts.find? (·.nodeId = nodeId) = some contact) (written : Contact) :
    ∃ others, bucket.contacts.Perm ([contact] ++ others) ∧
      (bucket.rewrite nodeId written).contacts.Perm ([written] ++ others) := by
  obtain ⟨passed, before, after, contacts, earlier⟩ := List.find?_eq_some_iff_append.mp found
  refine ⟨before ++ after, ?_, ?_⟩
  · rw [contacts]
    exact List.perm_middle
  · unfold Bucket.rewrite
    dsimp only
    rw [contacts, FirstMatch.modify_append _ _ before after contact
      (fun other member => by simpa using earlier other member) passed]
    exact List.perm_middle

/-- Where `observe` puts a contact that the table does not know. -/
theorem Inv.insertCandidate_effect {config : Config} {depth : Nat} (inv : Inv config table depth)
    (located : Located table nodeId front bucket back)
    (absent : ∀ contact ∈ table.allContacts, contact.nodeId ≠ nodeId) (now : Int) (ip : String)
    (port : Int) (sighting : Sighting) :
    Observed config now nodeId ip port sighting table (table.insertCandidate config now bucket
      (Contact.candidate nodeId now ip port sighting)) := by
  have valid := inv.valid bucket located.member
  have uncached (none : bucket.replacements = []) :
      ∀ contact ∈ table.allReplacements, contact.nodeId ≠ nodeId := by
    intro contact member same
    have inside := inv.mem_replacements located member same
    rw [none] at inside
    cases inside
  unfold insertCandidate
  by_cases room : bucket.contacts.length < DHT_K
  · have none : bucket.replacements = [] := by
      by_contra waiting
      have full := valid.cachedFull waiting
      omega
    rw [if_pos room]
    exact .added absent (uncached none)
      (located.exchanged (located.store_buckets _) (List.Perm.refl _) List.perm_append_comm)
      (located.replacements_same (located.store_buckets _) rfl)
  · rw [if_neg room]
    split
    · rename_i bad isBad
      have member : bad ∈ bucket.contacts := List.mem_of_find?_eq_some isBad
      have failed : bad.Bad config :=
        (bad.state_bad_iff config now).mp (by simpa using List.find?_some isBad)
      have none : bucket.replacements = [] := by
        by_contra waiting
        exact valid.cachedSound waiting bad member failed
      exact .succeeded bad failed absent (uncached none)
        (located.exchanged (located.store_buckets _) (List.perm_cons_erase member)
          List.perm_append_comm)
        (located.replacements_same (located.store_buckets _) rfl)
    · split
      · rename_i unseen
        refine .cached absent ?_
          (located.exchanged (located.store_buckets _) (List.Perm.refl _) (List.Perm.refl _))
          (located.replacements_sub (located.store_buckets _) _ ?_)
        · intro contact member same
          have inside := inv.mem_replacements located member same
          have different := List.all_eq_true.mp unseen contact inside
          simp [same, Contact.candidate] at different
        · intro contact member
          obtain old | new := List.mem_append.mp member
          · split at old
            · exact .inl (List.mem_of_mem_tail old)
            · exact .inl old
          · exact .inr (List.mem_singleton.mp new)
      · exact .ignored absent (Exchanged.refl _) rfl

end exchanged

section effects

variable {config : Config} {table result : RoutingTable} {depth : Nat} {now : Int} {nodeId : Bytes}

theorem Observed.after {ip : String} {port : Int} {sighting : Sighting} {settled : RoutingTable}
    (observed : Observed config now nodeId ip port sighting settled result)
    (contacts : settled.allContacts.Perm table.allContacts)
    (replacements : settled.allReplacements = table.allReplacements) :
    Observed config now nodeId ip port sighting table result := by
  have absent (before : ∀ contact ∈ settled.allContacts, contact.nodeId ≠ nodeId) :
      ∀ contact ∈ table.allContacts, contact.nodeId ≠ nodeId :=
    fun contact member => before contact (contacts.mem_iff.mpr member)
  cases observed with
  | refreshed contact same exchanged kept =>
      exact .refreshed contact same (exchanged.after contacts) (kept.trans replacements)
  | ignored before exchanged kept =>
      exact .ignored (absent before) (exchanged.after contacts) (kept.trans replacements)
  | added before uncached exchanged kept =>
      exact .added (absent before) (replacements ▸ uncached) (exchanged.after contacts)
        (kept.trans replacements)
  | succeeded bad isBad before uncached exchanged kept =>
      exact .succeeded bad isBad (absent before) (replacements ▸ uncached)
        (exchanged.after contacts) (kept.trans replacements)
  | cached before uncached exchanged kept =>
      exact .cached (absent before) (replacements ▸ uncached) (exchanged.after contacts)
        (replacements ▸ kept)

/-- `observe` on every path. -/
theorem Inv.observe_effect (inv : Inv config table depth)
    (length : nodeId.length = DHT_NODE_ID_BYTES) (foreign : nodeId ≠ table.localNodeId)
    {ip : String} {port : Int} {sighting : Sighting} {found : Option Contact}
    (ran : table.observe config now nodeId ip port sighting = .ok (result, found)) :
    Observed config now nodeId ip port sighting table result := by
  obtain ⟨front, bucket, back, located⟩ := inv.located length
  cases known : bucket.contacts.find? (·.nodeId = nodeId) with
  | some contact =>
      rw [observe_known located length foreign known] at ran
      cases ran
      obtain ⟨buckets, -⟩ := refresh_eq config now table bucket contact ip port sighting
      have buckets := buckets.trans (located.store_buckets _)
      have same := (find_contact known).2
      rw [Contact.refresh_nodeId, same] at buckets
      obtain ⟨others, before, after⟩ := rewrite_perm known (contact.refresh now ip port sighting)
      exact .refreshed contact same (located.exchanged buckets before after)
        (located.replacements_same buckets rfl)
  | none =>
      have absent := inv.absent located known
      by_cases readOnly : sighting.readOnly = true
      · rw [observe_readOnly config located length foreign known now ip port sighting readOnly] at ran
        cases ran
        exact .ignored absent (Exchanged.refl _) rfl
      · obtain ⟨settled, final, settles, run⟩ := inv.observe_new located length foreign known now ip
          port sighting (Bool.eq_false_iff.mpr readOnly)
        rw [run] at ran
        cases ran
        obtain ⟨depth', inv'⟩ := settles.inv
        obtain ⟨front', back', located'⟩ := settles.located
        have effect := inv'.insertCandidate_effect located'
          (fun contact member => absent contact (settles.contacts.mem_iff.mp member)) now ip port
          sighting
        exact effect.after settles.contacts settles.replacements

/-- `mark_failure` on every path. -/
theorem Inv.markFailure_effect (inv : Inv config table depth)
    (ran : table.markFailure config now nodeId = .ok result) :
    Failed config nodeId table result := by
  by_cases length : nodeId.length = DHT_NODE_ID_BYTES
  · obtain ⟨front, bucket, back, located⟩ := inv.located length
    have valid := inv.valid bucket located.member
    cases known : bucket.contacts.find? (·.nodeId = nodeId) with
    | none =>
        have same : table.markFailure config now nodeId = .ok table := by
          simp [RoutingTable.markFailure, located.find_eq, known, bind, Except.bind, pure,
            Except.pure]
        rw [same] at ran
        cases ran
        exact .unknown (inv.absent located known) rfl
    | some contact =>
        have same := (find_contact known).2
        obtain ⟨counted, buckets, -, run⟩ := markFailure_known config located known now
        obtain ⟨others, before, after⟩ := rewrite_perm known (failedOnce contact)
        have plain : Failed config nodeId table counted :=
          .counted contact same (located.exchanged buckets before after)
            (located.replacements_same buckets rfl)
        rw [run] at ran
        by_cases bad : (failedOnce contact).state config now = .bad
        · rw [if_pos bad] at ran
          cases ran
          cases newest : bucket.replacements.getLast? with
          | none =>
              rw [promote_of_none config now counted (bucket.rewrite nodeId (failedOnce contact)) _
                (List.getLast?_eq_none_iff.mp newest)]
              exact plain
          | some replacement =>
              have promoted := (promote_of_newest config now counted
                (bucket.rewrite nodeId (failedOnce contact)) (failedOnce contact) newest).1
              have place : Located counted nodeId front
                  (bucket.rewrite nodeId (failedOnce contact)) back :=
                ⟨buckets, located.holds, located.before, located.after⟩
              have promoted := promoted.trans (place.store_buckets _)
              have left := after.erase (failedOnce contact)
              rw [List.singleton_append, List.erase_cons_head] at left
              refine .promoted contact replacement same
                (((failedOnce contact).state_bad_iff config now).mp bad) ?_
                (located.exchanged promoted before
                  (List.perm_append_comm.trans (left.append_left [replacement]))) ?_
              · exact List.mem_flatMap.mpr
                  ⟨bucket, located.member, List.mem_of_getLast? newest⟩
              · intro other member
                have sub := located.replacements_sub promoted (fun _ => False)
                  (fun contact inside => .inl (List.mem_of_mem_dropLast inside)) other member
                exact sub.resolve_right id
        · rw [if_neg bad] at ran
          cases ran
          exact plain
  · obtain rfl := inv.markFailure_other length ran
    refine .unknown (fun contact member same => length ?_) rfl
    obtain ⟨bucket, inside, present⟩ := List.mem_flatMap.mp member
    rw [← same]
    exact (inv.valid bucket inside).idLength contact (List.mem_append_left _ present)

end effects

end RoutingTable

end PyDht
