import PyDht.RoutingEffects

set_option autoImplicit false

namespace PyDht

open RoutingTable

/-- What a restored record writes into the contact that it names. -/
def SnapshotRecord.touch (contact : Contact) (timed : Int × SnapshotRecord) : Contact :=
  match timed.2.triple? with
  | some (nodeId, ip, port) =>
      if nodeId = contact.nodeId then contact.refresh timed.1 ip port {} else contact
  | none => contact

/-- What a call writes into a contact while it leaves it in the table. -/
def TableCall.touch (contact : Contact) : TableCall → Contact
  | .observe now nodeId ip port sighting =>
      if nodeId = contact.nodeId then contact.refresh now ip port sighting else contact
  | .markFailure _ nodeId => if nodeId = contact.nodeId then failedOnce contact else contact
  | .restoreContacts records => records.foldl SnapshotRecord.touch contact

/-- The contact is not BAD, for `mark_failure` not even with the failure that it counts. -/
def TableCall.Spares (config : Config) (contact : Contact) (call : TableCall) : Prop :=
  match call with
  | .markFailure _ _ => ¬ (call.touch contact).Bad config
  | _ => ¬ contact.Bad config

/-- Every one of the calls, in turn, spares the contact. -/
def Contact.Spared (config : Config) : Contact → List TableCall → Prop
  | _, [] => True
  | contact, call :: rest => call.Spares config contact ∧ Spared config (call.touch contact) rest

theorem SnapshotRecord.touch_nodeId (contact : Contact) (timed : Int × SnapshotRecord) :
    (SnapshotRecord.touch contact timed).nodeId = contact.nodeId := by
  unfold SnapshotRecord.touch
  split
  · split
    · exact contact.refresh_nodeId _ _ _ _
    · rfl
  · rfl

theorem SnapshotRecord.foldl_touch_nodeId (records : List (Int × SnapshotRecord)) :
    ∀ contact : Contact,
      (records.foldl SnapshotRecord.touch contact).nodeId = contact.nodeId := by
  induction records with
  | nil => exact fun _ => rfl
  | cons record rest ih =>
      intro contact
      rw [List.foldl_cons, ih, SnapshotRecord.touch_nodeId]

theorem TableCall.touch_nodeId (contact : Contact) (call : TableCall) :
    (call.touch contact).nodeId = contact.nodeId := by
  cases call with
  | observe now nodeId ip port sighting =>
      simp only [TableCall.touch]
      split
      · exact contact.refresh_nodeId _ _ _ _
      · rfl
  | markFailure now nodeId =>
      simp only [TableCall.touch]
      split <;> rfl
  | restoreContacts records => exact SnapshotRecord.foldl_touch_nodeId records contact

namespace RoutingTable

/-- Exactly one contact of the table has the node ID, this one, and it is in every bucket that
covers the ID. -/
structure Holds (table : RoutingTable) (contact : Contact) : Prop where
  once : table.allContacts.filter (fun other => other.nodeId = contact.nodeId) = [contact]
  placed : ∀ bucket ∈ table.buckets, bucket.contains contact.nodeId = true →
    contact ∈ bucket.contacts

theorem filter_unique {α β : Type} [DecidableEq β] {view : α → β} {items : List α} {item : α}
    (distinct : (items.map view).Nodup) (member : item ∈ items) :
    items.filter (fun other => view other = view item) = [item] := by
  obtain ⟨front, back, rfl⟩ := List.append_of_mem member
  rw [List.map_append, List.map_cons, List.nodup_append, List.nodup_cons] at distinct
  obtain ⟨-, ⟨later, -⟩, apart⟩ := distinct
  have before : front.filter (fun other => view other = view item) = [] := by
    refine List.filter_eq_nil_iff.mpr fun other present same => ?_
    exact apart _ (List.mem_map_of_mem present) _ List.mem_cons_self (of_decide_eq_true same)
  have after : back.filter (fun other => view other = view item) = [] := by
    refine List.filter_eq_nil_iff.mpr fun other present same => later ?_
    rw [← of_decide_eq_true same]
    exact List.mem_map_of_mem present
  rw [List.filter_append, List.filter_cons_of_pos (by simp), before, after, List.nil_append]

section retention

variable {config : Config} {table result : RoutingTable} {depth : Nat}

theorem Inv.holds (inv : Inv config table depth) {contact : Contact}
    (member : contact ∈ table.allContacts) : Holds table contact := by
  refine ⟨filter_unique inv.ids_nodup member, fun bucket inside covers => ?_⟩
  obtain ⟨other, present, here⟩ := List.mem_flatMap.mp member
  have covered := (inv.valid other present).inRange contact (List.mem_append_left _ here)
  rwa [← inv.tiles.covers_unique present inside ((other.contains_iff _).mp covered)
    ((bucket.contains_iff _).mp covers)]

/-- The contact that is exchanged is the only one with its node ID. -/
theorem Inv.exchanged_cases (inv : Inv config table depth) {old : Contact} {new : List Contact}
    (exchanged : Exchanged table result [old] new) {contact : Contact}
    (member : contact ∈ table.allContacts) :
    contact = old ∨ contact ∈ result.allContacts ∧ contact.nodeId ≠ old.nodeId := by
  obtain ⟨others, before, after⟩ := exchanged
  have distinct := (before.map Contact.nodeId).nodup_iff.mp inv.ids_nodup
  simp only [List.singleton_append, List.map_cons, List.nodup_cons] at distinct
  obtain same | there := List.mem_cons.mp (before.mem_iff.mp member)
  · exact .inl same
  · refine .inr ⟨after.mem_iff.mpr (List.mem_append_right _ there), fun same => ?_⟩
    exact distinct.1 (same ▸ List.mem_map_of_mem there)

theorem Exchanged.mem_of_added {new : List Contact} (exchanged : Exchanged table result [] new)
    {contact : Contact} (member : contact ∈ table.allContacts) :
    contact ∈ result.allContacts := by
  obtain ⟨others, before, after⟩ := exchanged
  exact after.mem_iff.mpr (List.mem_append_right _ (before.mem_iff.mp member))

theorem Exchanged.mem_new {old new : List Contact} (exchanged : Exchanged table result old new)
    {contact : Contact} (member : contact ∈ new) : contact ∈ result.allContacts := by
  obtain ⟨others, -, after⟩ := exchanged
  exact after.mem_iff.mpr (List.mem_append_left _ member)

theorem Exchanged.length_le {old new : List Contact} (exchanged : Exchanged table result old new)
    (enough : old.length ≤ new.length) :
    table.allContacts.length ≤ result.allContacts.length := by
  obtain ⟨others, before, after⟩ := exchanged
  rw [before.length_eq, after.length_eq, List.length_append, List.length_append]
  omega

/-- A call keeps what it spares, and the table does not shrink. -/
structure Retains (config : Config) (call : TableCall) (table result : RoutingTable) : Prop where
  contacts : ∀ contact ∈ table.allContacts, call.Spares config contact →
    call.touch contact ∈ result.allContacts
  count : table.allContacts.length ≤ result.allContacts.length

theorem Inv.observe_retains (inv : Inv config table depth) {now : Int} {nodeId : Bytes}
    {ip : String} {port : Int} {sighting : Sighting} {found : Option Contact}
    (ran : table.observe config now nodeId ip port sighting = .ok (result, found)) :
    Retains config (.observe now nodeId ip port sighting) table result := by
  have elsewhere {contact : Contact} (other : contact.nodeId ≠ nodeId) :
      TableCall.touch contact (.observe now nodeId ip port sighting) = contact :=
    if_neg (Ne.symm other)
  by_cases rejected : nodeId.length ≠ DHT_NODE_ID_BYTES ∨ nodeId = table.localNodeId
  · rw [observe_rejected config table rejected] at ran
    cases ran
    refine ⟨fun contact member _ => ?_, Nat.le_refl _⟩
    rw [elsewhere]
    · exact member
    · intro same
      obtain ⟨bucket, inside, present⟩ := List.mem_flatMap.mp member
      have entry : contact ∈ bucket.entries := List.mem_append_left _ present
      have valid := inv.valid bucket inside
      obtain short | own := rejected
      · exact short (same ▸ valid.idLength contact entry)
      · exact valid.notLocal contact entry (same.trans own)
  · obtain ⟨length, foreign⟩ := not_or.mp rejected
    cases inv.observe_effect (not_not.mp length) foreign ran with
    | refreshed old same exchanged _ =>
        refine ⟨fun contact member _ => ?_, exchanged.length_le (Nat.le_refl _)⟩
        obtain rfl | ⟨kept, other⟩ := inv.exchanged_cases exchanged member
        · rw [TableCall.touch, if_pos same.symm]
          exact exchanged.mem_new List.mem_cons_self
        · rw [elsewhere (same ▸ other)]
          exact kept
    | ignored absent exchanged _ =>
        refine ⟨fun contact member _ => ?_, exchanged.length_le (Nat.le_refl _)⟩
        rw [elsewhere (absent contact member)]
        exact exchanged.mem_of_added member
    | added absent _ exchanged _ =>
        refine ⟨fun contact member _ => ?_, exchanged.length_le (Nat.zero_le _)⟩
        rw [elsewhere (absent contact member)]
        exact exchanged.mem_of_added member
    | succeeded bad isBad absent _ exchanged _ =>
        refine ⟨fun contact member sound => ?_, exchanged.length_le (Nat.le_refl _)⟩
        rw [elsewhere (absent contact member)]
        obtain rfl | ⟨kept, -⟩ := inv.exchanged_cases exchanged member
        · exact absurd isBad sound
        · exact kept
    | cached absent _ exchanged _ =>
        refine ⟨fun contact member _ => ?_, exchanged.length_le (Nat.le_refl _)⟩
        rw [elsewhere (absent contact member)]
        exact exchanged.mem_of_added member

theorem Inv.markFailure_retains (inv : Inv config table depth) {now : Int} {nodeId : Bytes}
    (ran : table.markFailure config now nodeId = .ok result) :
    Retains config (.markFailure now nodeId) table result := by
  have elsewhere {contact : Contact} (other : contact.nodeId ≠ nodeId) :
      TableCall.touch contact (.markFailure now nodeId) = contact :=
    if_neg (Ne.symm other)
  cases inv.markFailure_effect ran with
  | unknown absent same =>
      subst same
      refine ⟨fun contact member _ => ?_, Nat.le_refl _⟩
      rw [elsewhere (absent contact member)]
      exact member
  | counted old same exchanged _ =>
      refine ⟨fun contact member _ => ?_, exchanged.length_le (Nat.le_refl _)⟩
      obtain rfl | ⟨kept, other⟩ := inv.exchanged_cases exchanged member
      · rw [TableCall.touch, if_pos same.symm]
        exact exchanged.mem_new List.mem_cons_self
      · rw [elsewhere (same ▸ other)]
        exact kept
  | promoted old replacement same isBad _ exchanged _ =>
      refine ⟨fun contact member sound => ?_, exchanged.length_le (Nat.le_refl _)⟩
      obtain rfl | ⟨kept, other⟩ := inv.exchanged_cases exchanged member
      · rw [TableCall.Spares, TableCall.touch, if_pos same.symm] at sound
        exact absurd isBad sound
      · rw [elsewhere (same ▸ other)]
        exact kept

/-- A contact stays sound under the records of a snapshot. -/
theorem touch_sound (validConfig : 1 ≤ config.dhtRoutingBadAfterFailures) {contact : Contact}
    (sound : ¬ contact.Bad config) (timed : Int × SnapshotRecord) :
    ¬ (SnapshotRecord.touch contact timed).Bad config := by
  unfold SnapshotRecord.touch
  split
  · split
    · exact contact.refresh_sound validConfig _ _ _ _ sound
    · exact sound
  · exact sound

theorem foldl_touch_sound (validConfig : 1 ≤ config.dhtRoutingBadAfterFailures)
    (records : List (Int × SnapshotRecord)) :
    ∀ {contact : Contact}, ¬ contact.Bad config →
      ¬ (records.foldl SnapshotRecord.touch contact).Bad config := by
  induction records with
  | nil => exact fun sound => sound
  | cons timed rest ih => exact fun sound => ih (touch_sound validConfig sound timed)

theorem Inv.restoreRecord_retains (inv : Inv config table depth) {now : Int}
    {record : SnapshotRecord} (ran : table.restoreRecord config now record = .ok result) :
    (∀ contact ∈ table.allContacts, ¬ contact.Bad config →
      SnapshotRecord.touch contact (now, record) ∈ result.allContacts) ∧
      table.allContacts.length ≤ result.allContacts.length := by
  rw [restoreRecord_eq] at ran
  unfold SnapshotRecord.touch
  cases read : record.triple? with
  | none =>
      rw [read] at ran
      cases ran
      exact ⟨fun contact member _ => member, Nat.le_refl _⟩
  | some triple =>
      obtain ⟨nodeId, ip, port⟩ := triple
      rw [read] at ran
      cases observed : table.observe config now nodeId ip port {} with
      | error reason => simp [observed, Except.map] at ran
      | ok pair =>
          obtain ⟨next, found⟩ := pair
          simp only [observed, Except.map, Except.ok.injEq] at ran
          subst ran
          obtain ⟨contacts, count⟩ := inv.observe_retains observed
          exact ⟨contacts, count⟩

theorem Inv.restoreContacts_retains (validConfig : 1 ≤ config.dhtRoutingBadAfterFailures)
    (records : List (Int × SnapshotRecord)) :
    ∀ {table : RoutingTable} {depth : Nat}, Inv config table depth →
      table.restoreContacts config records = .ok result →
      Retains config (.restoreContacts records) table result := by
  induction records with
  | nil =>
      intro table depth inv ran
      cases ran
      exact ⟨fun contact member _ => member, Nat.le_refl _⟩
  | cons timed rest ih =>
      intro table depth inv ran
      obtain ⟨next, depth', first, inv', -⟩ := inv.restoreRecord validConfig timed.1 timed.2
      have remaining : next.restoreContacts config rest = .ok result := by
        simpa [RoutingTable.restoreContacts, first, bind, Except.bind] using ran
      obtain ⟨here, grown⟩ := inv.restoreRecord_retains first
      obtain ⟨later, more⟩ := ih inv' remaining
      refine ⟨fun contact member sound => ?_, Nat.le_trans grown more⟩
      exact later _ (here contact member sound) (touch_sound validConfig sound timed)

theorem Inv.apply_retains (validConfig : 1 ≤ config.dhtRoutingBadAfterFailures)
    (inv : Inv config table depth) (call : TableCall)
    (ran : table.apply config call = .ok result) : Retains config call table result := by
  cases call with
  | observe now nodeId ip port sighting =>
      cases observed : table.observe config now nodeId ip port sighting with
      | error reason => simp [apply, observed, Except.map] at ran
      | ok pair =>
          obtain ⟨next, found⟩ := pair
          simp only [apply, observed, Except.map, Except.ok.injEq] at ran
          subst ran
          exact inv.observe_retains observed
  | markFailure now nodeId => exact inv.markFailure_retains ran
  | restoreContacts records => exact Inv.restoreContacts_retains validConfig records inv ran

/-- Calls in a row keep what each of them spares. -/
theorem Inv.calls_retain (validConfig : 1 ≤ config.dhtRoutingBadAfterFailures)
    (calls : List TableCall) :
    ∀ {table : RoutingTable} {depth : Nat}, Inv config table depth →
      table.run config calls = .ok result →
      (∀ contact ∈ table.allContacts, contact.Spared config calls →
        calls.foldl TableCall.touch contact ∈ result.allContacts) ∧
      table.allContacts.length ≤ result.allContacts.length := by
  induction calls with
  | nil =>
      intro table depth inv ran
      cases ran
      exact ⟨fun contact member _ => member, Nat.le_refl _⟩
  | cons call rest ih =>
      intro table depth inv ran
      cases first : table.apply config call with
      | error reason => simp [RoutingTable.run, first, bind, Except.bind] at ran
      | ok next =>
          have remaining : next.run config rest = .ok result := by
            simpa [RoutingTable.run, first, bind, Except.bind] using ran
          have one : table.run config [call] = .ok next := by
            simp [RoutingTable.run, first, bind, Except.bind, pure, Except.pure]
          obtain ⟨depth', inv', -⟩ := Inv.of_run validConfig [call] inv one
          obtain ⟨here, grown⟩ := inv.apply_retains validConfig call first
          obtain ⟨later, more⟩ := ih inv' remaining
          refine ⟨fun contact member spared => ?_, Nat.le_trans grown more⟩
          exact later _ (here contact member spared.1) spared.2

end retention

/-- No call that is not `mark_failure` of its own node ID makes a contact BAD. -/
theorem spared_of_sound {config : Config} (validConfig : 1 ≤ config.dhtRoutingBadAfterFailures)
    (calls : List TableCall) :
    ∀ {contact : Contact}, ¬ contact.Bad config →
      (∀ now, .markFailure now contact.nodeId ∉ calls) → contact.Spared config calls := by
  induction calls with
  | nil => exact fun _ _ => trivial
  | cons call rest ih =>
      intro contact sound unmarked
      have later : ∀ now, .markFailure now (call.touch contact).nodeId ∉ rest := by
        intro now member
        rw [TableCall.touch_nodeId] at member
        exact unmarked now (List.mem_cons_of_mem _ member)
      have touched : ¬ (call.touch contact).Bad config := by
        cases call with
        | observe now nodeId ip port sighting =>
            simp only [TableCall.touch]
            split
            · exact contact.refresh_sound validConfig _ _ _ _ sound
            · exact sound
        | markFailure now nodeId =>
            have other : nodeId ≠ contact.nodeId := by
              intro same
              exact unmarked now (same ▸ List.mem_cons_self)
            rw [TableCall.touch, if_neg other]
            exact sound
        | restoreContacts records =>
            exact foldl_touch_sound validConfig records sound
      refine ⟨?_, ih touched later⟩
      cases call with
      | observe now nodeId ip port sighting => exact sound
      | markFailure now nodeId => exact touched
      | restoreContacts records => exact sound

theorem foldl_touchCall_nodeId (calls : List TableCall) :
    ∀ contact : Contact, (calls.foldl TableCall.touch contact).nodeId = contact.nodeId := by
  induction calls with
  | nil => exact fun _ => rfl
  | cons call rest ih =>
      intro contact
      rw [List.foldl_cons, ih, TableCall.touch_nodeId]

/-- From any reachable table on, a contact that every call spares is there after the calls, as they
have left it, exactly once and in the bucket of its ID; the table has not shrunk. A contact that is
not BAD and is not itself marked as failed is spared by every call. -/
theorem run_retains (config : Config) (validConfig : 1 ≤ config.dhtRoutingBadAfterFailures)
    (localNodeId : Bytes) (length : localNodeId.length = DHT_NODE_ID_BYTES) (start : Int)
    (earlier calls : List TableCall)
    (failures : ∀ now nodeId, .markFailure now nodeId ∈ earlier ++ calls →
      nodeId.length = DHT_NODE_ID_BYTES) :
    ∃ first table result, RoutingTable.new localNodeId start = .ok first ∧
      first.run config earlier = .ok table ∧ table.run config calls = .ok result ∧
      (∀ contact ∈ table.allContacts, contact.Spared config calls →
        Holds result (calls.foldl TableCall.touch contact) ∧
          (calls.foldl TableCall.touch contact).nodeId = contact.nodeId) ∧
      table.allContacts.length ≤ result.allContacts.length ∧
      ∀ contact ∈ table.allContacts, ¬ contact.Bad config →
        (∀ now, .markFailure now contact.nodeId ∉ calls) → contact.Spared config calls := by
  obtain ⟨first, created, fresh, -⟩ := new_inv config length start
  obtain ⟨table, depth, reached, inv, -⟩ := Inv.run validConfig earlier fresh
    fun now nodeId member => failures now nodeId (List.mem_append_left _ member)
  obtain ⟨result, depth', ran, inv', -⟩ := Inv.run validConfig calls inv
    fun now nodeId member => failures now nodeId (List.mem_append_right _ member)
  obtain ⟨kept, grown⟩ := Inv.calls_retain validConfig calls inv ran
  refine ⟨first, table, result, created, reached, ran, fun contact member spared => ?_, grown,
    fun contact _ sound unmarked => spared_of_sound validConfig calls sound unmarked⟩
  exact ⟨inv'.holds (kept contact member spared), foldl_touchCall_nodeId calls contact⟩

/-- A contact that failed once, under a flood of sightings of other node IDs. -/
theorem run_retains_sample :
    ∃ table result, RoutingTable.new (List.replicate 20 0) 0 = .ok table ∧
      table.run {} [.observe 1 (List.replicate 20 1) "8.8.8.8" 6881 {},
        .markFailure 2 (List.replicate 20 1)] = .ok result ∧
      ∃ flooded, result.run {} [.observe 3 (List.replicate 20 255) "9.9.9.9" 6881 {},
        .observe 4 (List.replicate 20 254) "9.9.9.9" 6882 { incomingQuery := true }] =
          .ok flooded ∧ result.allContacts.length ≤ flooded.allContacts.length := by
  obtain ⟨table, result, flooded, created, reached, ran, -, grown, -⟩ := run_retains {} (by decide)
    (List.replicate 20 0) rfl 0 [.observe 1 (List.replicate 20 1) "8.8.8.8" 6881 {},
      .markFailure 2 (List.replicate 20 1)]
    [.observe 3 (List.replicate 20 255) "9.9.9.9" 6881 {},
      .observe 4 (List.replicate 20 254) "9.9.9.9" 6882 { incomingQuery := true }] (by
    intro now nodeId member
    simp only [List.cons_append, List.nil_append, List.mem_cons, reduceCtorEq,
      TableCall.markFailure.injEq, List.not_mem_nil, or_false, false_or] at member
    rw [member.2]
    rfl)
  exact ⟨table, result, created, reached, flooded, ran, grown⟩

end RoutingTable

end PyDht
