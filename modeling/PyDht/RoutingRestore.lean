import PyDht.RoutingRuns

set_option autoImplicit false

namespace PyDht

open Bisection (Block far)

/-- What a snapshot keeps of a contact. -/
def Contact.triple (contact : Contact) : Bytes × String × Int :=
  (contact.nodeId, contact.ip, contact.port)

/-- A contact that has neither answered nor asked nor failed yet. -/
structure Contact.Unverified (contact : Contact) : Prop where
  failures : contact.failures = 0
  lastResponse : contact.lastResponseNs = none
  lastQuery : contact.lastQueryNs = none
  everResponded : contact.everResponded = false

theorem Contact.Unverified.state {config : Config}
    (validConfig : 1 ≤ config.dhtRoutingBadAfterFailures) {contact : Contact}
    (unverified : contact.Unverified) (now : Int) :
    contact.state config now = .questionable := by
  have sound : ¬ config.dhtRoutingBadAfterFailures ≤ (contact.failures : Int) := by
    rw [unverified.failures]
    simp only [Nat.cast_zero]
    omega
  simp [Contact.state, sound, unverified.lastResponse, unverified.everResponded, recent]

/-- The triple that `restore_contacts` reads from a record, if it does not skip it. -/
def SnapshotRecord.triple? (record : SnapshotRecord) : Option (Bytes × String × Int) :=
  if record.event ≠ some "contact" then none
  else
    match record.nodeId.bind fromHex, record.ip, record.udpPort with
    | some nodeId, some ip, some port => some (nodeId, ip, port)
    | _, _, _ => none

namespace RoutingTable

theorem restoreRecord_eq (config : Config) (table : RoutingTable) (now : Int)
    (record : SnapshotRecord) :
    table.restoreRecord config now record =
      match record.triple? with
      | none => .ok table
      | some (nodeId, ip, port) => (table.observe config now nodeId ip port {}).map Prod.fst := by
  unfold restoreRecord SnapshotRecord.triple?
  split
  · rfl
  · split <;> simp_all

theorem snapshotRecords_triples (config : Config) (table : RoutingTable) (now : Int) :
    (table.snapshotRecords config now).filterMap SnapshotRecord.triple? =
      table.allContacts.map Contact.triple := by
  simp [snapshotRecords, SnapshotRecord.triple?, Contact.triple, List.filterMap_map,
    Function.comp_def]

/-- With room in its bucket a candidate is simply added. -/
theorem admit_room (config : Config) (now : Int) {table : RoutingTable} {nodeId : Bytes}
    {front back : List Bucket} {bucket : Bucket} (located : Located table nodeId front bucket back)
    (room : bucket.contacts.length < DHT_K) (candidate : Contact) :
    (table.insertCandidate config now bucket candidate).allContacts.Perm (candidate :: table.allContacts) ∧
      (table.insertCandidate config now bucket candidate).allReplacements = table.allReplacements := by
  have buckets : (table.insertCandidate config now bucket candidate).buckets =
      front ++ { bucket with
        contacts := bucket.contacts ++ [candidate], lastChangedNs := now } :: back := by
    unfold insertCandidate
    rw [if_pos room]
    exact located.store_buckets _
  constructor
  · simp only [allContacts, buckets, located.buckets, List.flatMap_append, List.flatMap_cons,
      List.append_assoc, List.singleton_append]
    rw [← List.append_assoc, ← List.append_assoc]
    exact List.perm_middle
  · simp [allReplacements, buckets, located.buckets]

theorem Inv.ids_nodup {config : Config} {table : RoutingTable} {depth : Nat}
    (inv : Inv config table depth) : (table.allContacts.map Contact.nodeId).Nodup := by
  have sub : ∀ buckets : List Bucket,
      ((buckets.flatMap Bucket.contacts).map Contact.nodeId).Sublist
        (buckets.flatMap Bucket.ids) := by
    intro buckets
    induction buckets with
    | nil => exact List.Sublist.refl _
    | cons bucket rest ih =>
        simp only [List.flatMap_cons, List.map_append]
        exact ((List.sublist_append_left _ _).map Contact.nodeId).append ih
  exact inv.wellFormed.distinct.sublist (sub table.buckets)

/-- A table whose contacts all occur in another table of the same node never
meets a full bucket away from the local ID: that bucket's range lies in one
bucket of the other table, which has room for all of them. -/
theorem Inv.room {config : Config} {source table : RoutingTable} {sourceDepth depth : Nat}
    (sourceInv : Inv config source sourceDepth) (inv : Inv config table depth)
    (sameLocal : table.localNodeId = source.localNodeId)
    (within : ∀ contact ∈ table.allContacts,
      contact.nodeId ∈ source.allContacts.map Contact.nodeId)
    {nodeId : Bytes} (length : nodeId.length = DHT_NODE_ID_BYTES)
    (known : nodeId ∈ source.allContacts.map Contact.nodeId)
    (absent : ∀ contact ∈ table.allContacts, contact.nodeId ≠ nodeId)
    {front back : List Bucket} {bucket : Bucket} (located : Located table nodeId front bucket back)
    (stopped : ¬ (DHT_K ≤ bucket.contacts.length ∧ bucket.contains table.localNodeId = true)) :
    bucket.contacts.length < DHT_K := by
  apply Nat.lt_of_not_le
  intro full
  have away : ¬ Bisection.Inside (fromBytes table.localNodeId) (bucket.low, bucket.high) :=
    fun inside => stopped ⟨full, (contains_inside bucket _).mpr inside⟩
  obtain ⟨step, -, range⟩ :=
    (inv.blocks bucket located.member).eq_far (local_inside inv.localLength) away
  obtain ⟨sourceFront, sourceBucket, sourceBack, place⟩ := sourceInv.located length
  have block := sourceInv.blocks sourceBucket place.member
  rw [← sameLocal] at block
  -- Every ID of the full bucket belongs to one bucket of the other table.
  have stored : ∀ other ∈ nodeId :: bucket.contacts.map Contact.nodeId,
      other ∈ sourceBucket.contacts.map Contact.nodeId := by
    intro other member
    have facts : other ∈ source.allContacts.map Contact.nodeId ∧
        bucket.contains other = true := by
      rcases List.mem_cons.mp member with rfl | member
      · exact ⟨known, located.holds⟩
      · obtain ⟨contact, present, rfl⟩ := List.mem_map.mp member
        refine ⟨within contact (List.mem_flatMap.mpr ⟨bucket, located.member, present⟩), ?_⟩
        exact (inv.valid bucket located.member).inRange contact (List.mem_append_left _ present)
    have inside : sourceBucket.contains other = true := by
      rw [contains_inside]
      apply block.contains_far (local_inside inv.localLength)
        ((contains_inside sourceBucket nodeId).mp place.holds)
      · rw [← range]
        exact (contains_inside bucket nodeId).mp located.holds
      · rw [← range]
        exact (contains_inside bucket other).mp facts.2
    obtain ⟨contact, present, rfl⟩ := List.mem_map.mp facts.1
    obtain ⟨otherBucket, otherMember, held⟩ := List.mem_flatMap.mp present
    have covers := (sourceInv.valid otherBucket otherMember).inRange contact
      (List.mem_append_left _ held)
    have same := sourceInv.tiles.covers_unique otherMember place.member
      ((otherBucket.contains_iff _).mp covers) ((sourceBucket.contains_iff _).mp inside)
    exact List.mem_map_of_mem (same ▸ held)
  have single : (nodeId :: bucket.contacts.map Contact.nodeId).Nodup := by
    apply List.Nodup.cons
    · intro member
      obtain ⟨contact, present, same⟩ := List.mem_map.mp member
      exact absent contact (List.mem_flatMap.mpr ⟨bucket, located.member, present⟩) same
    · have distinct := (inv.valid bucket located.member).distinct
      rw [Bucket.entries, List.map_append] at distinct
      exact (List.nodup_append.mp distinct).1
  have count := (single.subperm stored).length_le
  have fits := (sourceInv.valid sourceBucket place.member).contactsFit
  simp only [List.length_cons, List.length_map] at count
  omega

/-- What a partly restored table looks like. -/
structure Restored (config : Config) (source table : RoutingTable) : Prop where
  inv : ∃ depth, Inv config table depth
  sameLocal : table.localNodeId = source.localNodeId
  noReplacements : table.allReplacements = []
  unverified : ∀ contact ∈ table.allContacts, contact.Unverified

/-- One record: the contact it describes is added to the table. -/
theorem Restored.observe {config : Config} {source table : RoutingTable} {sourceDepth : Nat}
    (validConfig : 1 ≤ config.dhtRoutingBadAfterFailures)
    (sourceInv : Inv config source sourceDepth) (restored : Restored config source table)
    (within : ∀ contact ∈ table.allContacts,
      contact.nodeId ∈ source.allContacts.map Contact.nodeId)
    {nodeId : Bytes} (known : nodeId ∈ source.allContacts.map Contact.nodeId)
    (absent : ∀ contact ∈ table.allContacts, contact.nodeId ≠ nodeId) (now : Int) (ip : String)
    (port : Int) :
    ∃ next found, table.observe config now nodeId ip port {} = .ok (next, found) ∧
      Restored config source next ∧
      (next.allContacts.map Contact.triple).Perm
        ((nodeId, ip, port) :: table.allContacts.map Contact.triple) := by
  obtain ⟨depth, inv⟩ := restored.inv
  obtain ⟨contact, present, rfl⟩ := List.mem_map.mp known
  obtain ⟨sourceBucket, member, held⟩ := List.mem_flatMap.mp present
  have entry : contact ∈ sourceBucket.entries := List.mem_append_left _ held
  have length := (sourceInv.valid sourceBucket member).idLength contact entry
  have foreign : contact.nodeId ≠ table.localNodeId := by
    rw [restored.sameLocal]
    exact (sourceInv.valid sourceBucket member).notLocal contact entry
  obtain ⟨front, bucket, back, located⟩ := inv.located length
  have none : bucket.contacts.find? (·.nodeId = contact.nodeId) = none := by
    apply List.find?_eq_none.mpr
    intro other inside
    simpa using absent other (List.mem_flatMap.mpr ⟨bucket, located.member, inside⟩)
  obtain ⟨settled, final, result, run⟩ :=
    inv.observe_new located length foreign none now ip port {} rfl
  obtain ⟨settledDepth, settledInv⟩ := result.inv
  obtain ⟨front', back', place⟩ := result.located
  have room := sourceInv.room settledInv (result.sameLocal.trans restored.sameLocal)
    (fun other inside => within other (result.contacts.subset inside)) length known
    (fun other inside => absent other (result.contacts.subset inside)) place result.stopped
  have added := admit_room config now place room (Contact.candidate contact.nodeId now ip port {})
  obtain ⟨next, found, depth', ran, inv', sameLocal⟩ :=
    inv.observe validConfig now contact.nodeId ip port {}
  obtain ⟨rfl, rfl⟩ := Prod.mk.inj (Except.ok.inj (run.symm.trans ran))
  refine ⟨_, _, run, ⟨⟨depth', inv'⟩, sameLocal.trans restored.sameLocal, ?_, ?_⟩, ?_⟩
  · rw [added.2, result.replacements, restored.noReplacements]
  · intro other inside
    rcases List.mem_cons.mp (added.1.subset inside) with rfl | old
    · exact ⟨rfl, rfl, rfl, rfl⟩
    · exact restored.unverified other (result.contacts.subset old)
  · exact (added.1.map Contact.triple).trans ((result.contacts.map Contact.triple).cons _)

/-- Restoring, record by record. The triples still to come and those in the
table have distinct node IDs, all of them known to the source table. -/
theorem Restored.restoreContacts {config : Config} {source : RoutingTable} {sourceDepth : Nat}
    (validConfig : 1 ≤ config.dhtRoutingBadAfterFailures)
    (sourceInv : Inv config source sourceDepth) (records : List (Int × SnapshotRecord)) :
    ∀ {table : RoutingTable}, Restored config source table →
      ((table.allContacts.map Contact.triple ++
        (records.map Prod.snd).filterMap SnapshotRecord.triple?).map Prod.fst).Nodup →
      (∀ triple ∈ table.allContacts.map Contact.triple ++
        (records.map Prod.snd).filterMap SnapshotRecord.triple?,
        triple.1 ∈ source.allContacts.map Contact.nodeId) →
      ∃ result, table.restoreContacts config records = .ok result ∧
        Restored config source result ∧
        (result.allContacts.map Contact.triple).Perm (table.allContacts.map Contact.triple ++
          (records.map Prod.snd).filterMap SnapshotRecord.triple?) := by
  induction records with
  | nil =>
      intro table restored _ _
      exact ⟨table, rfl, restored, by simp⟩
  | cons record rest ih =>
      intro table restored distinct within
      cases read : record.2.triple? with
      | none =>
          simp only [List.map_cons, List.filterMap_cons, read] at distinct within ⊢
          obtain ⟨result, run, done, perm⟩ := ih restored distinct within
          refine ⟨result, ?_, done, perm⟩
          simpa [RoutingTable.restoreContacts, restoreRecord_eq, read, bind, Except.bind] using run
      | some triple =>
          obtain ⟨nodeId, ip, port⟩ := triple
          simp only [List.map_cons, List.filterMap_cons, read] at distinct within ⊢
          have moved : (table.allContacts.map Contact.triple ++ (nodeId, ip, port) ::
              (rest.map Prod.snd).filterMap SnapshotRecord.triple?).Perm
              ((nodeId, ip, port) :: (table.allContacts.map Contact.triple ++
                (rest.map Prod.snd).filterMap SnapshotRecord.triple?)) := List.perm_middle
          have absent : ∀ contact ∈ table.allContacts, contact.nodeId ≠ nodeId := by
            intro contact member same
            have split := (moved.map Prod.fst).nodup_iff.mp distinct
            rw [List.map_cons, List.nodup_cons] at split
            apply split.1
            rw [List.map_append, List.mem_append]
            left
            exact List.mem_map.mpr ⟨contact.triple, List.mem_map_of_mem member, same⟩
          have known : nodeId ∈ source.allContacts.map Contact.nodeId :=
            within (nodeId, ip, port) (by simp)
          obtain ⟨next, found, run, restored', perm⟩ := restored.observe validConfig sourceInv
            (fun contact member => within contact.triple
              (List.mem_append_left _ (List.mem_map_of_mem member)))
            known absent record.1 ip port
          have shifted : (next.allContacts.map Contact.triple ++
              (rest.map Prod.snd).filterMap SnapshotRecord.triple?).Perm
              (table.allContacts.map Contact.triple ++
                (nodeId, ip, port) :: (rest.map Prod.snd).filterMap SnapshotRecord.triple?) :=
            (perm.append_right _).trans moved.symm
          obtain ⟨result, runs, done, permuted⟩ := ih restored'
            ((shifted.map Prod.fst).nodup_iff.mpr distinct)
            (fun triple member => within triple (shifted.subset member))
          refine ⟨result, ?_, done, permuted.trans shifted⟩
          simpa [RoutingTable.restoreContacts, restoreRecord_eq, read, run, Except.map, bind,
            Except.bind] using runs

/-- `mark_failure` of an ID of another length finds nothing to mark. -/
theorem Inv.markFailure_other {config : Config} {table result : RoutingTable} {depth : Nat}
    (inv : Inv config table depth) {now : Int} {nodeId : Bytes}
    (length : nodeId.length ≠ DHT_NODE_ID_BYTES)
    (run : table.markFailure config now nodeId = .ok result) : result = table := by
  unfold RoutingTable.markFailure RoutingTable.find at run
  cases place : table.bucketFor nodeId with
  | error reason => simp [place, bind, Except.bind] at run
  | ok bucket =>
      have member : bucket ∈ table.buckets := by
        unfold RoutingTable.bucketFor at place
        split at place
        · rename_i found hit
          exact Except.ok.inj place ▸ List.mem_of_find?_eq_some hit
        · cases place
      have none : bucket.contacts.find? (·.nodeId = nodeId) = none := by
        apply List.find?_eq_none.mpr
        intro contact inside same
        apply length
        rw [← of_decide_eq_true same]
        exact (inv.valid bucket member).idLength contact (List.mem_append_left _ inside)
      simp only [place, bind, Except.bind, pure, Except.pure, none] at run
      exact (Except.ok.inj run).symm

/-- A table that calls have led to satisfies the invariant. -/
theorem Inv.of_run {config : Config} (validConfig : 1 ≤ config.dhtRoutingBadAfterFailures)
    (calls : List TableCall) :
    ∀ {table result : RoutingTable} {depth : Nat}, Inv config table depth →
      table.run config calls = .ok result →
      ∃ depth', Inv config result depth' ∧ result.localNodeId = table.localNodeId := by
  induction calls with
  | nil =>
      intro table result depth inv run
      cases run
      exact ⟨depth, inv, rfl⟩
  | cons call rest ih =>
      intro table result depth inv run
      cases first : table.apply config call with
      | error reason => simp [RoutingTable.run, first, bind, Except.bind] at run
      | ok next =>
          have remaining : next.run config rest = .ok result := by
            simpa [RoutingTable.run, first, bind, Except.bind] using run
          have step : ∃ depth', Inv config next depth' ∧
              next.localNodeId = table.localNodeId := by
            cases call with
            | observe now nodeId ip port sighting =>
                obtain ⟨found, contact, depth', ran, inv', same⟩ :=
                  inv.observe validConfig now nodeId ip port sighting
                simp only [apply, ran, Except.map] at first
                cases first
                exact ⟨depth', inv', same⟩
            | markFailure now nodeId =>
                by_cases length : nodeId.length = DHT_NODE_ID_BYTES
                · obtain ⟨found, ran, inv', same⟩ := inv.markFailure now length
                  cases (ran.symm.trans first)
                  exact ⟨depth, inv', same⟩
                · obtain rfl := inv.markFailure_other length first
                  exact ⟨depth, inv, rfl⟩
            | restoreContacts records =>
                obtain ⟨found, depth', ran, inv', same⟩ :=
                  Inv.restoreContacts validConfig records inv
                cases (ran.symm.trans first)
                exact ⟨depth', inv', same⟩
          obtain ⟨depth', inv', same⟩ := step
          obtain ⟨depth'', inv'', same'⟩ := ih inv' remaining
          exact ⟨depth'', inv'', same'.trans same⟩

/-- A snapshot of any reachable table, read back in any order into a new table
of the same node, yields exactly the contacts that were saved, none of them
in a replacement list and all of them unverified. -/
theorem restore_snapshot (config : Config) (validConfig : 1 ≤ config.dhtRoutingBadAfterFailures)
    (localNodeId : Bytes) (start taken restart : Int) (calls : List TableCall)
    (table saved : RoutingTable) (created : RoutingTable.new localNodeId start = .ok table)
    (ran : table.run config calls = .ok saved) (records : List (Int × SnapshotRecord))
    (order : (records.map Prod.snd).Perm (saved.snapshotRecords config taken)) :
    ∃ fresh restored, RoutingTable.new localNodeId restart = .ok fresh ∧
      fresh.restoreContacts config records = .ok restored ∧
      (restored.allContacts.map Contact.triple).Perm (saved.allContacts.map Contact.triple) ∧
      restored.allReplacements = [] ∧
      ∀ contact ∈ restored.allContacts, contact.failures = 0 ∧
        ∀ now, contact.state config now = .questionable := by
  have length : localNodeId.length = DHT_NODE_ID_BYTES := by
    apply Decidable.byContradiction
    intro short
    simp [RoutingTable.new, short] at created
  obtain ⟨table', created', inv, tableLocal⟩ := new_inv config length start
  obtain rfl := Except.ok.inj (created.symm.trans created')
  obtain ⟨depth, savedInv, savedLocal⟩ := Inv.of_run validConfig calls inv ran
  obtain ⟨fresh, freshCreated, freshInv, freshLocal⟩ := new_inv config length restart
  have empty : fresh.allContacts = [] ∧ fresh.allReplacements = [] := by
    simp only [RoutingTable.new, length, ne_eq, not_true_eq_false, ↓reduceIte,
      Except.ok.injEq] at freshCreated
    subst freshCreated
    exact ⟨rfl, rfl⟩
  have triples : ((records.map Prod.snd).filterMap SnapshotRecord.triple?).Perm
      (saved.allContacts.map Contact.triple) := by
    rw [← snapshotRecords_triples config saved taken]
    exact order.filterMap _
  have ids : (saved.allContacts.map Contact.triple).map Prod.fst =
      saved.allContacts.map Contact.nodeId := by
    simp [Contact.triple, Function.comp_def]
  have begin : Restored config saved fresh :=
    ⟨⟨0, freshInv⟩, freshLocal.trans (savedLocal.trans tableLocal).symm, empty.2,
      by simp [empty.1]⟩
  obtain ⟨restored, run, done, perm⟩ := begin.restoreContacts validConfig savedInv records
    (by
      simp only [empty.1, List.map_nil, List.nil_append]
      exact (triples.map Prod.fst).nodup_iff.mpr (ids ▸ savedInv.ids_nodup))
    (by
      simp only [empty.1, List.map_nil, List.nil_append]
      intro triple member
      exact ids ▸ List.mem_map_of_mem (triples.subset member))
  refine ⟨fresh, restored, freshCreated, run, ?_, done.noReplacements, ?_⟩
  · simp only [empty.1, List.map_nil, List.nil_append] at perm
    exact perm.trans triples
  · intro contact member
    have unverified := done.unverified contact member
    exact ⟨unverified.failures, unverified.state validConfig⟩

/-- Three contacts near the local ID and nine far from it: the bucket is split, and the last one of
the far contacts waits as a replacement. -/
def splitCalls : List TableCall :=
  ([1, 2, 3] ++ (List.range 9).map (· + 128)).map fun number =>
    .observe 1 (List.replicate 20 (UInt8.ofNat number)) "8.8.8.8" 6881 { directResponse := true }

theorem restore_snapshot_sample :
    ∃ table saved fresh restored, RoutingTable.new (List.replicate 20 0) 0 = .ok table ∧
      table.run {} splitCalls = .ok saved ∧
      saved.buckets.map (fun bucket => (bucket.contacts.length, bucket.replacements.length)) =
        [(3, 0), (8, 1)] ∧
      RoutingTable.new (List.replicate 20 0) 9 = .ok fresh ∧
      fresh.restoreContacts {} ((saved.snapshotRecords {} 8).reverse.map (10, ·)) = .ok restored ∧
      (restored.allContacts.map Contact.triple).Perm (saved.allContacts.map Contact.triple) ∧
      restored.allReplacements = [] ∧
      ∀ contact ∈ restored.allContacts, contact.failures = 0 ∧
        ∀ now, contact.state {} now = .questionable := by
  obtain ⟨table, created, inv, -⟩ :=
    new_inv {} (rfl : (List.replicate 20 (0 : UInt8)).length = DHT_NODE_ID_BYTES) 0
  obtain ⟨saved, depth, ran, -, -⟩ := Inv.run (by decide) splitCalls inv (by simp [splitCalls])
  have checked : ((RoutingTable.new (List.replicate 20 0) 0).bind fun table =>
      (table.run {} splitCalls).map fun saved => decide (saved.buckets.map
        (fun bucket => (bucket.contacts.length, bucket.replacements.length)) =
          [(3, 0), (8, 1)])).toOption = some true := by decide +kernel
  rw [created] at checked
  change ((table.run {} splitCalls).map _).toOption = some true at checked
  rw [ran] at checked
  obtain ⟨fresh, restored, freshCreated, restores⟩ := restore_snapshot {} (by decide)
    (List.replicate 20 0) 0 8 9 splitCalls table saved created ran
    ((saved.snapshotRecords {} 8).reverse.map (10, ·)) (by
      rw [List.map_map]
      exact (List.map_id _).symm ▸ List.reverse_perm _)
  exact ⟨table, saved, fresh, restored, created, ran, of_decide_eq_true (Option.some.inj checked),
    freshCreated, restores⟩

end RoutingTable

end PyDht
