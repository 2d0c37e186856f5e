import PyDht.RoutingRetention

set_option autoImplicit false

namespace PyDht

/-- The endpoint of the latest direct response of each node ID, as long as the ID is stored. -/
abbrev Answered := Bytes → Option (String × Int)

namespace RoutingTable

/-- All that the table stores of a node: contacts and replacements. -/
def stored (table : RoutingTable) : List Contact := table.allContacts ++ table.allReplacements

/-- What a call makes of the log of direct responses. -/
def note (call : TableCall) (result : RoutingTable) (answered : Answered) : Answered := fun id =>
  if id ∈ result.stored.map Contact.nodeId then
    match call with
    | .observe _ nodeId ip port sighting =>
        if nodeId = id ∧ sighting.directResponse = true then some (ip, port) else answered id
    | _ => answered id
  else none

/-- A run of calls with the log beside it. -/
def runNoted (config : Config) (table : RoutingTable) (answered : Answered) :
    List TableCall → Except PyError (RoutingTable × Answered)
  | [] => .ok (table, answered)
  | call :: rest => do
      let next ← table.apply config call
      runNoted config next (note call next answered) rest

/-- Every entry is at the endpoint from which its node has answered last. -/
def Faithful (table : RoutingTable) (answered : Answered) : Prop :=
  ∀ entry ∈ table.stored, ∀ endpoint, answered entry.nodeId = some endpoint →
    (entry.ip, entry.port) = endpoint

/-- A direct response of a node that waits as a replacement comes from the endpoint that the
replacement has. -/
def Expected (table : RoutingTable) : TableCall → Prop
  | .observe _ nodeId ip port sighting => sighting.directResponse = true →
      ∀ entry ∈ table.allReplacements, entry.nodeId = nodeId → (entry.ip, entry.port) = (ip, port)
  | _ => True

def RunExpected (config : Config) : RoutingTable → List TableCall → Prop
  | _, [] => True
  | table, call :: rest => table.Expected call ∧
      ∀ next, table.apply config call = .ok next → RunExpected config next rest

/-- The log speaks of stored nodes only. -/
def Logged (table : RoutingTable) (answered : Answered) : Prop :=
  ∀ id endpoint, answered id = some endpoint → id ∈ table.stored.map Contact.nodeId

section answers

variable {config : Config} {table result : RoutingTable} {depth : Nat} {answered : Answered}

theorem note_logged (call : TableCall) (result : RoutingTable) (answered : Answered) :
    Logged result (note call result answered) := by
  intro id endpoint noted
  by_contra missing
  unfold note at noted
  rw [if_neg missing] at noted
  cases noted

/-- A log that a call has not written to. -/
theorem note_old {call : TableCall} {id : Bytes} {endpoint : String × Int}
    (quiet : ∀ now ip port sighting, call = .observe now id ip port sighting →
      sighting.directResponse = false)
    (noted : note call result answered id = some endpoint) : answered id = some endpoint := by
  unfold note at noted
  split at noted
  · cases call with
    | observe now nodeId ip port sighting =>
        by_cases own : nodeId = id ∧ sighting.directResponse = true
        · obtain ⟨rfl, direct⟩ := own
          rw [quiet now ip port sighting rfl] at direct
          cases direct
        · dsimp only at noted
          rw [if_neg own] at noted
          exact noted
    | markFailure now nodeId => exact noted
    | restoreContacts records => exact noted
  · cases noted

theorem note_direct {now : Int} {id : Bytes} {ip : String} {port : Int} {sighting : Sighting}
    (present : id ∈ result.stored.map Contact.nodeId) (direct : sighting.directResponse = true) :
    note (.observe now id ip port sighting) result answered id = some (ip, port) := by
  unfold note
  rw [if_pos present]
  exact if_pos ⟨rfl, direct⟩

theorem mem_stored {entry : Contact} :
    entry ∈ table.stored ↔ entry ∈ table.allContacts ∨ entry ∈ table.allReplacements :=
  List.mem_append

theorem stored_id {entry : Contact} (member : entry ∈ table.stored) :
    entry.nodeId ∈ table.stored.map Contact.nodeId := List.mem_map_of_mem member

/-- An entry that the table had before is still at the endpoint of the log. -/
theorem Faithful.kept (faithful : Faithful table answered) {call : TableCall}
    (expected : table.Expected call) {entry : Contact} (member : entry ∈ table.stored)
    (untouched : (∀ now nodeId ip port sighting, call = .observe now nodeId ip port sighting →
      entry.nodeId ≠ nodeId) ∨ entry ∈ table.allReplacements)
    (present : entry.nodeId ∈ result.stored.map Contact.nodeId) {endpoint : String × Int}
    (noted : note call result answered entry.nodeId = some endpoint) :
    (entry.ip, entry.port) = endpoint := by
  by_cases own : ∃ now ip port sighting,
      call = .observe now entry.nodeId ip port sighting ∧ sighting.directResponse = true
  · obtain ⟨now, ip, port, sighting, rfl, direct⟩ := own
    rw [note_direct present direct] at noted
    cases noted
    exact expected direct entry
      (untouched.resolve_left fun apart => apart _ _ _ _ _ rfl rfl) rfl
  · refine faithful entry member endpoint (note_old (fun now ip port sighting same => ?_) noted)
    exact Bool.eq_false_iff.mpr fun direct => own ⟨now, ip, port, sighting, same, direct⟩

/-- A contact is at the endpoint of a direct response; anything else leaves it where it was. -/
theorem refresh_endpoint (contact : Contact) (now : Int) (ip : String) (port : Int)
    (sighting : Sighting) :
    ((contact.refresh now ip port sighting).ip, (contact.refresh now ip port sighting).port) =
      if sighting.directResponse then (ip, port) else (contact.ip, contact.port) := by
  unfold Contact.refresh
  cases sighting.directResponse with
  | true => cases sighting.incomingQuery <;> rfl
  | false =>
      by_cases same : contact.ip = ip ∧ contact.port = port
      · obtain ⟨rfl, rfl⟩ := same
        cases sighting.incomingQuery <;> simp
      · cases sighting.incomingQuery <;> simp [same]

theorem Inv.observe_faithful (inv : Inv config table depth) (logged : Logged table answered)
    (faithful : Faithful table answered) {now : Int} {nodeId : Bytes} {ip : String} {port : Int}
    {sighting : Sighting} (expected : table.Expected (.observe now nodeId ip port sighting))
    {found : Option Contact}
    (ran : table.observe config now nodeId ip port sighting = .ok (result, found)) :
    Faithful result (note (.observe now nodeId ip port sighting) result answered) := by
  intro entry member endpoint noted
  have present := stored_id member
  have apart (other : entry.nodeId ≠ nodeId) : ∀ now' nodeId' ip' port' sighting',
      TableCall.observe now nodeId ip port sighting = .observe now' nodeId' ip' port' sighting' →
        entry.nodeId ≠ nodeId' := by
    intro now' nodeId' ip' port' sighting' same
    cases same
    exact other
  have waiting (old : entry ∈ table.allReplacements) : (entry.ip, entry.port) = endpoint :=
    faithful.kept expected (mem_stored.mpr (.inr old)) (.inr old) present noted
  have standing (old : entry ∈ table.allContacts) (other : entry.nodeId ≠ nodeId) :
      (entry.ip, entry.port) = endpoint :=
    faithful.kept expected (mem_stored.mpr (.inl old)) (.inl (apart other)) present noted
  -- A node that was not stored before is at the endpoint of the call, and the log knows no other.
  have entered (absent : ∀ contact ∈ table.allContacts, contact.nodeId ≠ nodeId)
      (uncached : ∀ contact ∈ table.allReplacements, contact.nodeId ≠ nodeId)
      (new : entry = Contact.candidate nodeId now ip port sighting) :
      (entry.ip, entry.port) = endpoint := by
    subst new
    by_cases direct : sighting.directResponse = true
    · rw [Contact.candidate] at noted present ⊢
      rw [note_direct present direct] at noted
      exact Option.some.inj noted
    · have before := note_old (fun _ _ _ _ same => by
        cases same
        exact Bool.eq_false_iff.mpr direct) noted
      obtain ⟨old, there, same⟩ := List.mem_map.mp (logged _ _ before)
      obtain contact | replacement := mem_stored.mp there
      · exact absurd same (absent old contact)
      · exact absurd same (uncached old replacement)
  by_cases rejected : nodeId.length ≠ DHT_NODE_ID_BYTES ∨ nodeId = table.localNodeId
  · rw [observe_rejected config table rejected] at ran
    cases ran
    obtain contact | replacement := mem_stored.mp member
    · refine standing contact fun same => ?_
      obtain ⟨bucket, inside, here⟩ := List.mem_flatMap.mp contact
      have valid := inv.valid bucket inside
      obtain short | own := rejected
      · exact short (same ▸ valid.idLength entry (List.mem_append_left _ here))
      · exact valid.notLocal entry (List.mem_append_left _ here) (same.trans own)
    · exact waiting replacement
  · obtain ⟨length, foreign⟩ := not_or.mp rejected
    cases inv.observe_effect (not_not.mp length) foreign ran with
    | refreshed old same exchanged kept =>
        obtain contact | replacement := mem_stored.mp member
        · obtain ⟨others, before, after⟩ := exchanged
          obtain rfl | there := List.mem_cons.mp (after.mem_iff.mp contact)
          · rw [refresh_endpoint]
            rw [Contact.refresh_nodeId] at noted present
            have oldStored : old ∈ table.stored :=
              mem_stored.mpr (.inl (before.mem_iff.mpr List.mem_cons_self))
            by_cases direct : sighting.directResponse = true
            · rw [if_pos direct]
              rw [same] at noted present
              rw [note_direct present direct] at noted
              exact Option.some.inj noted
            · rw [if_neg direct]
              refine faithful old oldStored endpoint (note_old (fun _ _ _ _ call => ?_) noted)
              cases call
              exact Bool.eq_false_iff.mpr direct
          · have distinct := (before.map Contact.nodeId).nodup_iff.mp inv.ids_nodup
            simp only [List.singleton_append, List.map_cons, List.nodup_cons] at distinct
            refine standing (before.mem_iff.mpr (List.mem_append_right _ there)) fun equal => ?_
            exact distinct.1 (same ▸ equal ▸ List.mem_map_of_mem there)
        · exact waiting (kept ▸ replacement)
    | ignored absent exchanged kept =>
        obtain ⟨others, before, after⟩ := exchanged
        obtain contact | replacement := mem_stored.mp member
        · have old := before.mem_iff.mpr (after.mem_iff.mp contact)
          exact standing old (absent entry old)
        · exact waiting (kept ▸ replacement)
    | added absent uncached exchanged kept =>
        obtain ⟨others, before, after⟩ := exchanged
        obtain contact | replacement := mem_stored.mp member
        · obtain new | there := List.mem_cons.mp (after.mem_iff.mp contact)
          · exact entered absent uncached new
          · have old := before.mem_iff.mpr there
            exact standing old (absent entry old)
        · exact waiting (kept ▸ replacement)
    | succeeded bad isBad absent uncached exchanged kept =>
        obtain ⟨others, before, after⟩ := exchanged
        obtain contact | replacement := mem_stored.mp member
        · obtain new | there := List.mem_cons.mp (after.mem_iff.mp contact)
          · exact entered absent uncached new
          · have old := before.mem_iff.mpr (List.mem_cons_of_mem _ there)
            exact standing old (absent entry old)
        · exact waiting (kept ▸ replacement)
    | cached absent uncached exchanged kept =>
        obtain ⟨others, before, after⟩ := exchanged
        obtain contact | replacement := mem_stored.mp member
        · have old := before.mem_iff.mpr (after.mem_iff.mp contact)
          exact standing old (absent entry old)
        · obtain old | new := kept entry replacement
          · exact waiting old
          · exact entered absent uncached new

theorem Inv.markFailure_faithful (inv : Inv config table depth)
    (faithful : Faithful table answered) {now : Int} {nodeId : Bytes}
    (ran : table.markFailure config now nodeId = .ok result) :
    Faithful result (note (.markFailure now nodeId) result answered) := by
  intro entry member endpoint noted
  have before := note_old (fun _ _ _ _ same => by cases same) noted
  cases inv.markFailure_effect ran with
  | unknown absent same =>
      subst same
      exact faithful entry member endpoint before
  | counted old same exchanged kept =>
      obtain ⟨others, was, after⟩ := exchanged
      obtain contact | replacement := mem_stored.mp member
      · obtain rfl | there := List.mem_cons.mp (after.mem_iff.mp contact)
        · exact faithful old (mem_stored.mpr (.inl (was.mem_iff.mpr List.mem_cons_self))) endpoint
            before
        · exact faithful entry
            (mem_stored.mpr (.inl (was.mem_iff.mpr (List.mem_cons_of_mem _ there)))) endpoint before
      · exact faithful entry (mem_stored.mpr (.inr (kept ▸ replacement))) endpoint before
  | promoted old replacement same isBad waiting exchanged kept =>
      obtain ⟨others, was, after⟩ := exchanged
      obtain contact | cached := mem_stored.mp member
      · obtain rfl | there := List.mem_cons.mp (after.mem_iff.mp contact)
        · exact faithful entry (mem_stored.mpr (.inr waiting)) endpoint before
        · exact faithful entry
            (mem_stored.mpr (.inl (was.mem_iff.mpr (List.mem_cons_of_mem _ there)))) endpoint before
      · exact faithful entry (mem_stored.mpr (.inr (kept entry cached))) endpoint before

/-- A direct response leaves a replacement with its node ID as it is. -/
theorem Inv.observe_replacement (inv : Inv config table depth) {now : Int} {nodeId : Bytes}
    {ip : String} {port : Int} {sighting : Sighting} {found : Option Contact}
    (ran : table.observe config now nodeId ip port sighting = .ok (result, found))
    {entry : Contact} (member : entry ∈ table.allReplacements) (same : entry.nodeId = nodeId) :
    entry ∈ result.allReplacements := by
  obtain ⟨bucket, inside, here⟩ := List.mem_flatMap.mp member
  have valid := inv.valid bucket inside
  have length := valid.idLength entry (List.mem_append_right _ here)
  have foreign := valid.notLocal entry (List.mem_append_right _ here)
  rw [same] at length foreign
  cases inv.observe_effect length foreign ran with
  | refreshed old _ _ kept => exact kept.symm ▸ member
  | ignored _ _ kept => exact kept.symm ▸ member
  | added _ uncached _ _ => exact absurd same (uncached entry member)
  | succeeded _ _ _ uncached _ _ => exact absurd same (uncached entry member)
  | cached _ uncached _ _ => exact absurd same (uncached entry member)

theorem Inv.apply_faithful (inv : Inv config table depth) (logged : Logged table answered)
    (faithful : Faithful table answered) {call : TableCall} (expected : table.Expected call)
    (single : ∀ records, call ≠ .restoreContacts records)
    (ran : table.apply config call = .ok result) :
    Faithful result (note call result answered) := by
  cases call with
  | observe now nodeId ip port sighting =>
      cases observed : table.observe config now nodeId ip port sighting with
      | error reason => simp [apply, observed, Except.map] at ran
      | ok pair =>
          simp only [apply, observed, Except.map, Except.ok.injEq] at ran
          subst ran
          exact inv.observe_faithful logged faithful expected observed
  | markFailure now nodeId => exact inv.markFailure_faithful faithful ran
  | restoreContacts records => exact absurd rfl (single records)

/-- A direct response that is not expected leaves an entry at another endpoint. -/
theorem Inv.expected_of_faithful (inv : Inv config table depth) {call : TableCall}
    (ran : table.apply config call = .ok result)
    (faithful : Faithful result (note call result answered)) : table.Expected call := by
  cases call with
  | observe now nodeId ip port sighting =>
      intro direct entry member same
      cases observed : table.observe config now nodeId ip port sighting with
      | error reason => simp [apply, observed, Except.map] at ran
      | ok pair =>
          simp only [apply, observed, Except.map, Except.ok.injEq] at ran
          subst ran
          have left := mem_stored.mpr (.inr (inv.observe_replacement observed member same))
          refine faithful entry left _ ?_
          have present := stored_id left
          rw [same] at present ⊢
          exact note_direct present direct
  | markFailure now nodeId => trivial
  | restoreContacts records => trivial

/-- One step of a run with its log, and the rest. -/
theorem Inv.runNoted_faithful_iff (validConfig : 1 ≤ config.dhtRoutingBadAfterFailures)
    (calls : List TableCall) :
    ∀ {table : RoutingTable} {depth : Nat} {answered : Answered}, Inv config table depth →
      Logged table answered → Faithful table answered →
      (∀ now nodeId, .markFailure now nodeId ∈ calls → nodeId.length = DHT_NODE_ID_BYTES) →
      (∀ records, .restoreContacts records ∉ calls) →
      ((∀ seen, seen <+: calls → ∃ result noted,
          runNoted config table answered seen = .ok (result, noted) ∧ Faithful result noted) ↔
        RunExpected config table calls) := by
  induction calls with
  | nil =>
      intro table depth answered inv logged faithful failures single
      refine iff_of_true (fun seen part => ?_) trivial
      rw [List.prefix_nil.mp part]
      exact ⟨table, answered, rfl, faithful⟩
  | cons call rest ih =>
      intro table depth answered inv logged faithful failures single
      obtain ⟨next, depth', ran, inv', -⟩ := Inv.run validConfig [call] inv
        fun now nodeId member => failures now nodeId (by simpa using Or.inl (List.mem_singleton.mp member))
      have first : table.apply config call = .ok next := by
        simpa only [RoutingTable.run, List.foldlM_cons, List.foldlM_nil, bind_pure] using ran
      have goesOn (seen : List TableCall) : runNoted config table answered (call :: seen) =
          runNoted config next (note call next answered) seen := by
        rw [runNoted, first]
        rfl
      have later (expected : table.Expected call) := ih inv' (note_logged call next answered)
        (inv.apply_faithful logged faithful expected (fun records same =>
          single records (same ▸ List.mem_cons_self)) first)
        (fun now nodeId member => failures now nodeId (List.mem_cons_of_mem _ member))
        (fun records member => single records (List.mem_cons_of_mem _ member))
      constructor
      · intro throughout
        obtain ⟨result, noted, one, held⟩ := throughout [call] ⟨rest, rfl⟩
        rw [goesOn] at one
        cases one
        have expected := inv.expected_of_faithful first held
        refine ⟨expected, fun other same => ?_⟩
        rw [first] at same
        cases same
        refine (later expected).mp fun seen part => ?_
        obtain ⟨result, noted, reached, held⟩ :=
          throughout (call :: seen) (List.cons_prefix_cons.mpr ⟨rfl, part⟩)
        rw [goesOn] at reached
        exact ⟨result, noted, reached, held⟩
      · intro expected seen part
        cases seen with
        | nil => exact ⟨table, answered, rfl, faithful⟩
        | cons other seen =>
            obtain ⟨same, inner⟩ := List.cons_prefix_cons.mp part
            rw [same, goesOn]
            exact (later expected.1).mpr (expected.2 next first) seen inner

end answers

/-- In every run of `observe` and `mark_failure` every entry stays at the endpoint from which its
node has answered last, if and only if no replacement's node answers from elsewhere. -/
theorem run_faithful_iff (config : Config) (validConfig : 1 ≤ config.dhtRoutingBadAfterFailures)
    (localNodeId : Bytes) (length : localNodeId.length = DHT_NODE_ID_BYTES) (start : Int)
    (calls : List TableCall)
    (failures : ∀ now nodeId, .markFailure now nodeId ∈ calls →
      nodeId.length = DHT_NODE_ID_BYTES)
    (single : ∀ records, .restoreContacts records ∉ calls) :
    ∃ first, RoutingTable.new localNodeId start = .ok first ∧
      ((∀ seen, seen <+: calls → ∃ table answered,
          runNoted config first (fun _ => none) seen = .ok (table, answered) ∧
          Faithful table answered) ↔
        RunExpected config first calls) := by
  obtain ⟨first, created, inv, -⟩ := new_inv config length start
  refine ⟨first, created, Inv.runNoted_faithful_iff validConfig calls inv ?_ ?_ failures single⟩
  · intro id endpoint noted
    cases noted
  · intro entry _ endpoint noted
    cases noted

theorem run_faithful_iff_sample :
    ∃ first table answered, RoutingTable.new (List.replicate 20 0) 0 = .ok first ∧
      runNoted {} first (fun _ => none) [.observe 1 (List.replicate 20 1) "8.8.8.8" 6881 {},
        .observe 2 (List.replicate 20 1) "9.9.9.9" 6881 { directResponse := true }] =
          .ok (table, answered) ∧ Faithful table answered := by
  obtain ⟨first, created, faithful⟩ := run_faithful_iff {} (by decide) (List.replicate 20 0) rfl 0
    [.observe 1 (List.replicate 20 1) "8.8.8.8" 6881 {},
      .observe 2 (List.replicate 20 1) "9.9.9.9" 6881 { directResponse := true }]
    (by simp) (by simp)
  have expected : RunExpected {} first [.observe 1 (List.replicate 20 1) "8.8.8.8" 6881 {},
      .observe 2 (List.replicate 20 1) "9.9.9.9" 6881 { directResponse := true }] := by
    cases created
    refine ⟨fun direct => absurd direct (by decide), fun next ran => ?_⟩
    cases ran
    exact ⟨fun _ entry member => absurd member List.not_mem_nil, fun _ _ => trivial⟩
  obtain ⟨table, answered, ran, held⟩ := faithful.mpr expected _ (List.prefix_refl _)
  exact ⟨first, table, answered, created, ran, held⟩

/-- Eight contacts away from the local ID, and a ninth that waits as a replacement; it answers from
another endpoint and is promoted after that. -/
def promotionCalls : List TableCall :=
  ((List.range 8).map fun index =>
      .observe 1 (255 :: UInt8.ofNat index :: List.replicate 18 0) "8.8.8.8" index {}) ++
    [.observe 2 (List.replicate 20 255) "1.1.1.1" 1 {},
      .observe 3 (List.replicate 20 255) "2.2.2.2" 2 { directResponse := true },
      .markFailure 4 (255 :: 0 :: List.replicate 18 0),
      .markFailure 5 (255 :: 0 :: List.replicate 18 0)]

theorem promoted_elsewhere :
    ∃ first table answered, RoutingTable.new (List.replicate 20 0) 0 = .ok first ∧
      runNoted {} first (fun _ => none) promotionCalls = .ok (table, answered) ∧
      answered (List.replicate 20 255) = some ("2.2.2.2", 2) ∧
      (table.allContacts.find? (·.nodeId = List.replicate 20 255)).map
        (fun entry => (entry.ip, entry.port)) = some ("1.1.1.1", 1) :=
  ⟨_, _, _, rfl, rfl, by decide +kernel, by decide +kernel⟩

end RoutingTable

end PyDht
