import PyDht.RoutingOperations

set_option autoImplicit false

namespace PyDht

open Tiling (Tiles Covers)

namespace RoutingTable

/-- A contact is found in the one bucket that its node ID belongs to. -/
theorem Inv.mem_contacts_iff {config : Config} {table : RoutingTable} {depth : Nat}
    (inv : Inv config table depth) {nodeId : Bytes} {front back : List Bucket} {bucket : Bucket}
    (located : Located table nodeId front bucket back) {contact : Contact}
    (same : contact.nodeId = nodeId) :
    contact ∈ table.allContacts ↔ contact ∈ bucket.contacts := by
  constructor
  · intro member
    obtain ⟨other, present, inside⟩ := List.mem_flatMap.mp member
    have covers := (inv.valid other present).inRange contact (List.mem_append_left _ inside)
    rw [same] at covers
    rwa [← inv.tiles.covers_unique present located.member ((other.contains_iff nodeId).mp covers)
      ((bucket.contains_iff nodeId).mp located.holds)]
  · intro member
    exact List.mem_flatMap.mpr ⟨bucket, located.member, member⟩

theorem Inv.absent {config : Config} {table : RoutingTable} {depth : Nat}
    (inv : Inv config table depth) {nodeId : Bytes} {front back : List Bucket} {bucket : Bucket}
    (located : Located table nodeId front bucket back)
    (none : bucket.contacts.find? (·.nodeId = nodeId) = none) :
    ∀ contact ∈ table.allContacts, contact.nodeId ≠ nodeId := by
  intro contact member same
  have inside := (inv.mem_contacts_iff located same).mp member
  exact List.find?_eq_none.mp none contact inside (by simpa using same)

/-- `observe` of an unknown node ID that is not read-only: the loop settles on
a bucket and the candidate is admitted there. -/
theorem Inv.observe_new {config : Config} {table : RoutingTable} {depth : Nat}
    (inv : Inv config table depth) {nodeId : Bytes} {front back : List Bucket} {bucket : Bucket}
    (located : Located table nodeId front bucket back)
    (length : nodeId.length = DHT_NODE_ID_BYTES) (foreign : nodeId ≠ table.localNodeId)
    (none : bucket.contacts.find? (·.nodeId = nodeId) = none) (now : Int) (ip : String)
    (port : Int) (sighting : Sighting) (writable : sighting.readOnly = false) :
    ∃ settled final, Settled config table nodeId settled final ∧
      table.observe config now nodeId ip port sighting =
        .ok (settled.insertCandidate config now final (Contact.candidate nodeId now ip port sighting),
          some (Contact.candidate nodeId now ip port sighting)) := by
  have seen : Inv config (table.emit config now .nodeCandidate
      (Contact.candidate nodeId now ip port sighting) bucket .none) depth := inv.congr rfl rfl
  have placed : Located (table.emit config now .nodeCandidate
      (Contact.candidate nodeId now ip port sighting) bucket .none) nodeId front bucket back :=
    ⟨located.buckets, located.holds, located.before, located.after⟩
  obtain ⟨settled, final, run, result⟩ := seen.splitWhileFull length now splitRounds placed
    (by unfold splitRounds; omega)
  refine ⟨settled, final, ⟨result.inv, result.located, result.stopped, result.sameLocal,
    result.contacts, result.replacements⟩, ?_⟩
  simp [observe, length, foreign, located.bucketFor_eq, bind, Except.bind, none, pure,
    Except.pure, writable, run]

theorem observe_readOnly (config : Config) {table : RoutingTable} {nodeId : Bytes}
    {front back : List Bucket} {bucket : Bucket} (located : Located table nodeId front bucket back)
    (length : nodeId.length = DHT_NODE_ID_BYTES) (foreign : nodeId ≠ table.localNodeId)
    (none : bucket.contacts.find? (·.nodeId = nodeId) = none) (now : Int) (ip : String)
    (port : Int) (sighting : Sighting) (readOnly : sighting.readOnly = true) :
    table.observe config now nodeId ip port sighting =
      .ok (table.emit config now .nodeCandidate
          (Contact.candidate nodeId now ip port sighting) bucket .none,
        some (Contact.candidate nodeId now ip port sighting)) := by
  simp [observe, length, foreign, located.bucketFor_eq, bind, Except.bind, none, pure,
    Except.pure, readOnly]

theorem observe_rejected (config : Config) (table : RoutingTable) {nodeId : Bytes}
    (rejected : nodeId.length ≠ DHT_NODE_ID_BYTES ∨ nodeId = table.localNodeId) (now : Int)
    (ip : String) (port : Int) (sighting : Sighting) :
    table.observe config now nodeId ip port sighting = .ok (table, none) := by
  simp only [observe, rejected, ↓reduceIte]

/-- `observe` turns away no node ID but one of another length and the local one. -/
theorem observe_found {config : Config} {table result : RoutingTable} {now : Int}
    {nodeId : Bytes} {ip : String} {port : Int} {sighting : Sighting} {found : Option Contact}
    (run : table.observe config now nodeId ip port sighting = .ok (result, found)) :
    found.isSome = decide (nodeId.length = DHT_NODE_ID_BYTES ∧ nodeId ≠ table.localNodeId) := by
  unfold observe at run
  split at run
  · rename_i rejected
    cases run
    symm
    simp only [Option.isSome_none, decide_eq_false_iff_not, not_and_or, ne_eq, not_not]
    exact rejected
  · rename_i accepted
    have some_found : found.isSome = true := by
      obtain ⟨bucket, -, run⟩ := bind_ok_iff.mp run
      split at run
      · cases run
        rfl
      · split at run
        · cases run
          rfl
        · obtain ⟨settled, -, run⟩ := bind_ok_iff.mp run
          cases run
          rfl
    rw [some_found]
    symm
    rw [not_or, ne_eq, not_not] at accepted
    exact decide_eq_true accepted

/-- `observe` returns for every node ID, endpoint and flag, and keeps the invariant. -/
theorem Inv.observe {config : Config} (validConfig : 1 ≤ config.dhtRoutingBadAfterFailures)
    {table : RoutingTable} {depth : Nat} (inv : Inv config table depth) (now : Int)
    (nodeId : Bytes) (ip : String) (port : Int) (sighting : Sighting) :
    ∃ result found depth', table.observe config now nodeId ip port sighting =
        .ok (result, found) ∧ Inv config result depth' ∧
      result.localNodeId = table.localNodeId := by
  by_cases rejected : nodeId.length ≠ DHT_NODE_ID_BYTES ∨ nodeId = table.localNodeId
  · exact ⟨table, none, depth, observe_rejected config table rejected now ip port sighting, inv, rfl⟩
  · obtain ⟨length, foreign⟩ := not_or.mp rejected
    have length := not_not.mp length
    obtain ⟨front, bucket, back, located⟩ := inv.located length
    cases known : bucket.contacts.find? (·.nodeId = nodeId) with
    | some contact =>
        exact ⟨_, _, depth, observe_known located length foreign known now ip port sighting,
          inv.refresh validConfig located known now ip port sighting,
          (refresh_eq config now table bucket contact ip port sighting).2⟩
    | none =>
        cases flag : sighting.readOnly with
        | true =>
            exact ⟨_, _, depth, observe_readOnly config located length foreign known now ip port
              sighting flag, inv.congr rfl rfl, rfl⟩
        | false =>
            obtain ⟨settled, final, result, run⟩ :=
              inv.observe_new located length foreign known now ip port sighting flag
            obtain ⟨depth', inv'⟩ := result.inv
            obtain ⟨front', back', located'⟩ := result.located
            have absent : ∀ contact ∈ final.contacts, contact.nodeId ≠ nodeId := by
              intro contact member
              exact inv.absent located known contact (result.contacts.subset
                (List.mem_flatMap.mpr ⟨final, located'.member, member⟩))
            obtain ⟨changed, buckets, sameLocal, low, high, valid⟩ := admit_valid located'
              (inv'.valid final located'.member) result.stopped
              ⟨length, located'.holds, by rw [result.sameLocal]; exact foreign⟩ absent
              (Contact.candidate_sound validConfig nodeId now ip port sighting) now
            exact ⟨_, _, depth', run,
              inv'.exchange located'.buckets sameLocal buckets low high valid,
              sameLocal.trans result.sameLocal⟩

theorem Located.find_eq {table : RoutingTable} {nodeId : Bytes} {front back : List Bucket}
    {bucket : Bucket} (located : Located table nodeId front bucket back) :
    table.find nodeId = .ok (bucket.contacts.find? (·.nodeId = nodeId)) := by
  simp [find, located.bucketFor_eq, bind, Except.bind, pure, Except.pure]

/-- The bucket in which `mark_failure` has counted a failure is valid once it
has promoted a replacement for a contact that is BAD now. -/
theorem promoted_valid {config : Config} {localNodeId : Bytes} {bucket : Bucket}
    (valid : bucket.Valid config localNodeId) {contact replacement : Contact}
    (found : bucket.contacts.find? (·.nodeId = contact.nodeId) = some contact) (failed : Contact)
    (sameId : failed.nodeId = contact.nodeId)
    (newest : bucket.replacements.getLast? = some replacement) (now : Int) :
    ({ bucket with
        contacts := (bucket.rewrite contact.nodeId failed).contacts.erase failed ++ [replacement]
        replacements := bucket.replacements.dropLast
        lastChangedNs := now } : Bucket).Valid config localNodeId := by
  obtain ⟨older, split⟩ := List.getLast?_eq_some_iff.mp newest
  have cached : bucket.replacements ≠ [] := by simp [split]
  have dropped : bucket.replacements.dropLast = older := by simp [split]
  obtain ⟨passed, front, back, contacts, before⟩ := List.find?_eq_some_iff_append.mp found
  have untouched : ∀ other ∈ front, decide (other.nodeId = contact.nodeId) = false :=
    fun other member => by simpa using before other member
  have notFailed : failed ∉ front := by
    intro member
    have different := untouched failed member
    simp [sameId] at different
  have rest : (bucket.rewrite contact.nodeId failed).contacts.erase failed = front ++ back := by
    unfold Bucket.rewrite
    dsimp only
    rw [contacts, FirstMatch.modify_append _ _ front back contact untouched (by simp),
      List.erase_append_right _ notFailed, List.erase_cons_head]
  have sublist : (front ++ back).Sublist bucket.contacts := by
    rw [contacts]
    exact (List.sublist_cons_self contact back).append_left front
  rw [rest, dropped]
  apply Bucket.valid_of_ids bucket.ids
  · have perm : (front ++ back ++ [replacement] ++ older).Perm
        (front ++ back ++ (older ++ [replacement])) := by
      rw [List.append_assoc]
      exact List.Perm.append_left _ List.perm_append_comm
    have within : (front ++ back ++ (older ++ [replacement])).Sublist bucket.entries := by
      rw [← split]
      exact sublist.append_right _
    exact (perm.map Contact.nodeId).subperm.trans (within.map Contact.nodeId).subperm
  · exact valid.distinct
  · exact valid.admits
  · have fits := valid.contactsFit
    rw [contacts] at fits
    simp only [List.length_append, List.length_cons, List.length_nil] at fits ⊢
    omega
  · have fits := valid.replacementsFit
    rw [split] at fits
    simp only [List.length_append, List.length_cons, List.length_nil] at fits
    dsimp only
    omega
  · intro _
    refine ⟨valid.cachedFar cached, ?_, ?_⟩
    · have full := valid.cachedFull cached
      rw [contacts] at full
      simp only [List.length_append, List.length_cons, List.length_nil] at full ⊢
      omega
    · intro other member
      rcases List.mem_append.mp member with kept | new
      · exact valid.cachedSound cached other (sublist.subset kept)
      · rw [List.mem_singleton.mp new]
        exact valid.fresh replacement (by simp [split])
  · intro other member
    exact valid.fresh other (by rw [split]; exact List.mem_append_left _ member)

/-- The contact with one more failure. -/
def failedOnce (contact : Contact) : Contact := { contact with failures := contact.failures + 1 }

theorem promote_of_newest (config : Config) (now : Int) (table : RoutingTable) (bucket : Bucket)
    (contact : Contact) {replacement : Contact}
    (newest : bucket.replacements.getLast? = some replacement) :
    (table.promote config now bucket contact).buckets = (table.store bucket { bucket with
        contacts := bucket.contacts.erase contact ++ [replacement]
        replacements := bucket.replacements.dropLast, lastChangedNs := now }).buckets ∧
      (table.promote config now bucket contact).localNodeId = table.localNodeId := by
  simp [promote, newest]

theorem promote_of_none (config : Config) (now : Int) (table : RoutingTable) (bucket : Bucket)
    (contact : Contact) (none : bucket.replacements = []) :
    table.promote config now bucket contact = table := by
  simp [promote, none]

/-- `mark_failure` for a contact that the table holds: the failure is counted,
and a contact that is BAD now may have to leave. -/
theorem markFailure_known (config : Config) {table : RoutingTable} {nodeId : Bytes}
    {front back : List Bucket} {bucket : Bucket} (located : Located table nodeId front bucket back)
    {contact : Contact} (found : bucket.contacts.find? (·.nodeId = nodeId) = some contact)
    (now : Int) :
    ∃ counted : RoutingTable,
      counted.buckets = front ++ bucket.rewrite nodeId (failedOnce contact) :: back ∧
      counted.localNodeId = table.localNodeId ∧
      table.markFailure config now nodeId =
        .ok (if (failedOnce contact).state config now = .bad then
          counted.promote config now (bucket.rewrite nodeId (failedOnce contact))
            (failedOnce contact)
        else counted) := by
  refine ⟨if (failedOnce contact).state config now ≠ contact.state config now then
      (table.store bucket (bucket.rewrite nodeId (failedOnce contact))).emit config now
        (if (failedOnce contact).state config now = .bad then .nodeBad else .nodeQuestionable)
        (failedOnce contact) (bucket.rewrite nodeId (failedOnce contact))
        (contact.state config now)
    else table.store bucket (bucket.rewrite nodeId (failedOnce contact)), ?_, ?_, ?_⟩
  · split <;> exact located.store_buckets _
  · split <;> rfl
  · simp only [RoutingTable.markFailure, located.find_eq, found, located.bucketFor_eq, bind,
      Except.bind, pure, Except.pure]
    by_cases bad : (failedOnce contact).state config now = .bad
    · simp only [failedOnce] at bad
      simp only [bad, failedOnce, ↓reduceIte]
      rfl
    · simp only [failedOnce] at bad
      simp only [bad, failedOnce, ↓reduceIte]
      rfl

/-- `mark_failure` returns for every node ID of full length and keeps the invariant. -/
theorem Inv.markFailure {config : Config} {table : RoutingTable} {depth : Nat}
    (inv : Inv config table depth) (now : Int) {nodeId : Bytes}
    (length : nodeId.length = DHT_NODE_ID_BYTES) :
    ∃ result, table.markFailure config now nodeId = .ok result ∧ Inv config result depth ∧
      result.localNodeId = table.localNodeId := by
  obtain ⟨front, bucket, back, located⟩ := inv.located length
  have valid := inv.valid bucket located.member
  cases found : bucket.contacts.find? (·.nodeId = nodeId) with
  | none =>
      refine ⟨table, ?_, inv, rfl⟩
      simp [RoutingTable.markFailure, located.find_eq, found, bind, Except.bind, pure, Except.pure]
  | some contact =>
      obtain ⟨counted, buckets, sameLocal, run⟩ := markFailure_known config located found now
      have sameId : contact.nodeId = nodeId := (find_contact found).2
      subst sameId
      refine ⟨_, run, ?_⟩
      split
      · rename_i bad
        cases newest : bucket.replacements.getLast? with
        | some replacement =>
            have promoted := promote_of_newest config now counted
              (bucket.rewrite contact.nodeId (failedOnce contact)) (failedOnce contact) newest
            have place : Located counted contact.nodeId front
                (bucket.rewrite contact.nodeId (failedOnce contact)) back :=
              ⟨buckets, located.holds, located.before, located.after⟩
            refine ⟨?_, promoted.2.trans sameLocal⟩
            exact inv.exchange located.buckets (promoted.2.trans sameLocal)
              (promoted.1.trans (place.store_buckets _)) rfl rfl
              (promoted_valid valid found (failedOnce contact) rfl newest now)
        | none =>
            have empty := List.getLast?_eq_none_iff.mp newest
            rw [promote_of_none config now counted (bucket.rewrite contact.nodeId (failedOnce contact)) _
              empty]
            refine ⟨?_, sameLocal⟩
            exact inv.exchange located.buckets sameLocal buckets rfl rfl
              (valid.rewrite (failedOnce contact) (fun cached => absurd empty cached))
      · rename_i sound
        refine ⟨?_, sameLocal⟩
        apply inv.exchange located.buckets sameLocal buckets rfl rfl
        apply valid.rewrite (failedOnce contact)
        intro _ bad
        exact sound (((failedOnce contact).state_bad_iff config now).mpr bad)

/-- `restore_contacts` returns for all records and keeps the invariant. -/
theorem Inv.restoreRecord {config : Config} (validConfig : 1 ≤ config.dhtRoutingBadAfterFailures)
    {table : RoutingTable} {depth : Nat} (inv : Inv config table depth) (now : Int)
    (record : SnapshotRecord) :
    ∃ result depth', table.restoreRecord config now record = .ok result ∧
      Inv config result depth' ∧ result.localNodeId = table.localNodeId := by
  unfold RoutingTable.restoreRecord
  split
  · exact ⟨table, depth, rfl, inv, rfl⟩
  · split
    · rename_i nodeId ip port _ _ _
      obtain ⟨result, found, depth', run, inv', sameLocal⟩ :=
        inv.observe validConfig now nodeId ip port {}
      exact ⟨result, depth', by simp [run, Except.map], inv', sameLocal⟩
    · exact ⟨table, depth, rfl, inv, rfl⟩

theorem Inv.restoreContacts {config : Config} (validConfig : 1 ≤ config.dhtRoutingBadAfterFailures)
    (records : List (Int × SnapshotRecord)) :
    ∀ {table : RoutingTable} {depth : Nat}, Inv config table depth →
      ∃ result depth', table.restoreContacts config records = .ok result ∧
        Inv config result depth' ∧ result.localNodeId = table.localNodeId := by
  induction records with
  | nil => intro table depth inv; exact ⟨table, depth, rfl, inv, rfl⟩
  | cons record rest ih =>
      intro table depth inv
      obtain ⟨next, depth', run, inv', sameLocal⟩ :=
        inv.restoreRecord validConfig record.1 record.2
      obtain ⟨result, depth'', runs, inv'', sameLocal'⟩ := ih inv'
      refine ⟨result, depth'', ?_, inv'', sameLocal'.trans sameLocal⟩
      simpa [RoutingTable.restoreContacts, run, bind, Except.bind] using runs

theorem new_inv (config : Config) {localNodeId : Bytes}
    (length : localNodeId.length = DHT_NODE_ID_BYTES) (now : Int) :
    ∃ table, RoutingTable.new localNodeId now = .ok table ∧ Inv config table 0 ∧
      table.localNodeId = localNodeId := by
  refine ⟨{ localNodeId, buckets := [{ low := 0, high := DHT_ID_SPACE, lastChangedNs := now }] },
    by simp [RoutingTable.new, length], ⟨length, ?_, by omega, ?_, ?_⟩, rfl⟩
  · simp [DHT_ID_SPACE]
  · intro bucket member
    rw [List.mem_singleton.mp member]
    exact Or.inl rfl
  · intro bucket member
    rw [List.mem_singleton.mp member]
    constructor <;> simp [Bucket.entries, DHT_K]

end RoutingTable

/-- A call from outside, with the clock readings of the call. -/
inductive TableCall where
  | observe (now : Int) (nodeId : Bytes) (ip : String) (port : Int) (sighting : Sighting)
  | markFailure (now : Int) (nodeId : Bytes)
  | restoreContacts (records : List (Int × SnapshotRecord))

namespace RoutingTable

def apply (config : Config) (table : RoutingTable) : TableCall → Except PyError RoutingTable
  | .observe now nodeId ip port sighting =>
      (table.observe config now nodeId ip port sighting).map Prod.fst
  | .markFailure now nodeId => table.markFailure config now nodeId
  | .restoreContacts records => table.restoreContacts config records

def run (config : Config) (table : RoutingTable) (calls : List TableCall) :
    Except PyError RoutingTable :=
  calls.foldlM (apply config) table

/-- Every call returns, and the invariant outlives any number of calls. -/
theorem Inv.run {config : Config} (validConfig : 1 ≤ config.dhtRoutingBadAfterFailures)
    (calls : List TableCall) :
    ∀ {table : RoutingTable} {depth : Nat}, Inv config table depth →
      (∀ now nodeId, .markFailure now nodeId ∈ calls → nodeId.length = DHT_NODE_ID_BYTES) →
      ∃ result depth', table.run config calls = .ok result ∧ Inv config result depth' ∧
        result.localNodeId = table.localNodeId := by
  induction calls with
  | nil => intro table depth inv _; exact ⟨table, depth, rfl, inv, rfl⟩
  | cons call rest ih =>
      intro table depth inv failures
      have step : ∃ next depth', table.apply config call = .ok next ∧ Inv config next depth' ∧
          next.localNodeId = table.localNodeId := by
        cases call with
        | observe now nodeId ip port sighting =>
            obtain ⟨result, found, depth', run, inv', sameLocal⟩ :=
              inv.observe validConfig now nodeId ip port sighting
            exact ⟨result, depth', by simp [apply, run, Except.map], inv', sameLocal⟩
        | markFailure now nodeId =>
            obtain ⟨result, run, inv', sameLocal⟩ :=
              inv.markFailure now (failures now nodeId (by simp))
            exact ⟨result, depth, run, inv', sameLocal⟩
        | restoreContacts records => exact Inv.restoreContacts validConfig records inv
      obtain ⟨next, depth', run, inv', sameLocal⟩ := step
      obtain ⟨result, depth'', runs, inv'', sameLocal'⟩ := ih inv'
        (fun now nodeId member => failures now nodeId (List.mem_cons_of_mem _ member))
      refine ⟨result, depth'', ?_, inv'', sameLocal'.trans sameLocal⟩
      simpa [RoutingTable.run, run, bind, Except.bind] using runs

/-- What a caller may rely on between any two calls. -/
structure WellFormed (config : Config) (table : RoutingTable) : Prop where
  tiles : Tiles Bucket.low Bucket.high 0 table.buckets DHT_ID_SPACE
  coveredOnce : ∀ value < DHT_ID_SPACE, (table.buckets.filter
    (fun bucket => decide (bucket.low ≤ value ∧ value < bucket.high))).length = 1
  localOnce : (table.buckets.filter (·.contains table.localNodeId)).length = 1
  bucketFor : ∀ nodeId : Bytes, nodeId.length = DHT_NODE_ID_BYTES →
    ∃ bucket ∈ table.buckets, table.bucketFor nodeId = .ok bucket
  inRange : ∀ bucket ∈ table.buckets, ∀ contact ∈ bucket.entries,
    bucket.low ≤ fromBytes contact.nodeId ∧ fromBytes contact.nodeId < bucket.high
  contactsFit : ∀ bucket ∈ table.buckets, bucket.contacts.length ≤ 8
  replacementsFit : ∀ bucket ∈ table.buckets, bucket.replacements.length ≤ 8
  distinct : (table.buckets.flatMap Bucket.ids).Nodup
  notLocal : table.localNodeId ∉ table.buckets.flatMap Bucket.ids
  cached : ∀ bucket ∈ table.buckets, bucket.replacements ≠ [] →
    bucket.contains table.localNodeId = false ∧ bucket.contacts.length = 8 ∧
      ∀ contact ∈ bucket.contacts, ∀ now, contact.state config now ≠ .bad
  find : ∀ nodeId : Bytes, nodeId.length = DHT_NODE_ID_BYTES →
    ∃ found, table.find nodeId = .ok found ∧
      (found.isSome ↔ nodeId ∈ table.allContacts.map Contact.nodeId) ∧
      ∀ contact ∈ found, contact ∈ table.allContacts ∧ contact.nodeId = nodeId

theorem Inv.wellFormed {config : Config} {table : RoutingTable} {depth : Nat}
    (inv : Inv config table depth) : WellFormed config table := by
  have bounded := fromBytes_lt_space inv.localLength
  refine ⟨inv.tiles, fun value below => inv.tiles.count_covers (Nat.zero_le value) below,
    inv.tiles.count_covers (Nat.zero_le _) bounded, ?_, ?_,
    fun bucket member => (inv.valid bucket member).contactsFit,
    fun bucket member => (inv.valid bucket member).replacementsFit, ?_, ?_, ?_, ?_⟩
  · intro nodeId length
    obtain ⟨bucket, member, -, run⟩ := inv.bucketFor_ok length
    exact ⟨bucket, member, run⟩
  · intro bucket member contact present
    exact (bucket.contains_iff _).mp ((inv.valid bucket member).inRange contact present)
  · refine List.nodup_flatMap.mpr ⟨fun bucket member => (inv.valid bucket member).distinct, ?_⟩
    refine inv.tiles.pairwise_disjoint.imp_of_mem ?_
    intro first second memberFirst memberSecond apart nodeId inFirst inSecond
    exact apart (fromBytes nodeId)
      ((first.contains_iff _).mp ((inv.valid first memberFirst).admits nodeId inFirst).2.1)
      ((second.contains_iff _).mp ((inv.valid second memberSecond).admits nodeId inSecond).2.1)
  · intro member
    obtain ⟨bucket, present, inside⟩ := List.mem_flatMap.mp member
    exact ((inv.valid bucket present).admits _ inside).2.2 rfl
  · intro bucket member waiting
    have valid := inv.valid bucket member
    refine ⟨valid.cachedFar waiting, valid.cachedFull waiting, ?_⟩
    intro contact present now bad
    exact valid.cachedSound waiting contact present ((contact.state_bad_iff config now).mp bad)
  · intro nodeId length
    obtain ⟨front, bucket, back, located⟩ := inv.located length
    refine ⟨_, located.find_eq, ?_, ?_⟩
    · constructor
      · intro some
        obtain ⟨contact, found⟩ := Option.isSome_iff_exists.mp some
        obtain ⟨member, same⟩ := find_contact found
        exact List.mem_map.mpr ⟨contact, (inv.mem_contacts_iff located same).mpr member, same⟩
      · intro member
        obtain ⟨contact, present, same⟩ := List.mem_map.mp member
        exact List.find?_isSome.mpr
          ⟨contact, (inv.mem_contacts_iff located same).mp present, by simpa using same⟩
    · intro contact found
      obtain ⟨member, same⟩ := find_contact found
      exact ⟨(inv.mem_contacts_iff located same).mpr member, same⟩

/-- From a new table on, every sequence of calls returns and leaves a
well-formed table, whatever node IDs, endpoints and flags it is given. -/
theorem run_wellFormed (config : Config) (validConfig : 1 ≤ config.dhtRoutingBadAfterFailures)
    (localNodeId : Bytes) (length : localNodeId.length = DHT_NODE_ID_BYTES) (start : Int)
    (calls : List TableCall)
    (failures : ∀ now nodeId, .markFailure now nodeId ∈ calls →
      nodeId.length = DHT_NODE_ID_BYTES) :
    ∃ table result, RoutingTable.new localNodeId start = .ok table ∧
      table.run config calls = .ok result ∧ result.localNodeId = localNodeId ∧
      WellFormed config result := by
  obtain ⟨table, created, inv, sameLocal⟩ := new_inv config length start
  obtain ⟨result, depth, ran, inv', sameLocal'⟩ := Inv.run validConfig calls inv failures
  exact ⟨table, result, created, ran, sameLocal'.trans sameLocal, inv'.wellFormed⟩

theorem run_wellFormed_sample :
    ∃ table result, RoutingTable.new (List.replicate 20 0) 0 = .ok table ∧
      table.run {} [.observe 1 (List.replicate 20 1) "8.8.8.8" 6881 { directResponse := true },
        .markFailure 2 (List.replicate 20 1)] = .ok result ∧
      result.localNodeId = List.replicate 20 0 ∧ WellFormed {} result :=
  run_wellFormed {} (by decide) (List.replicate 20 0) rfl 0 _ (by
    intro now nodeId member
    simp only [List.mem_cons, reduceCtorEq, TableCall.markFailure.injEq, List.not_mem_nil,
      or_false, false_or] at member
    rw [member.2]
    rfl)

end RoutingTable

end PyDht
