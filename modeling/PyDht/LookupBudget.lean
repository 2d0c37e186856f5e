import PyDht.LookupLures
import Mathlib.Data.Finset.Card

set_option autoImplicit false

namespace PyDht

namespace Searching

variable {config : Config} {localIps : List String} {localNodeId : Bytes} {state next : Searching}

/-- The event brings a routing table that is in order and belongs to the same node. -/
def Tabled (config : Config) (localNodeId : Bytes) (_ : Searching) : LookupEvent → Prop
  | .turn _ => True
  | .gather _ routing _ _ =>
      (∃ depth, RoutingTable.Inv config routing depth) ∧ routing.localNodeId = localNodeId

/-- No call of `iterative_get_peers` ever issues more queries than it may, whatever the routing table
and the target are, and whatever the responders answer. -/
def Budgeted (config : Config) : Prop :=
  ∀ (localIps : List String) (routing : RoutingTable) (reading : Int) (key : Bytes)
    (lookup : PeerLookup) (events : List LookupEvent) (state : Searching),
    (∃ depth, RoutingTable.Inv config routing depth) →
    PeerLookup.opening config routing reading key = .ok lookup →
    Transition.Along (Tabled config routing.localNodeId) (step config localIps) { lookup } events →
    Transition.run (step config localIps) { lookup } events = some state →
    (state.issued.length : Int) ≤ config.maxDhtQueriesPerTorrent

/-- A turn issues as many queries as the parallelism and the contacts allow, if it issues any. -/
theorem turn_issues (config : Config) (localIps : List String) (late : Bool) (state : Searching) :
    ((state.turn config localIps late).issued = state.issued ∧
      ∀ contacts, state.lookup.shortlist.ordered state.lookup.key = .ok contacts →
        state.lookup.Goes config late → ¬ state.lookup.Settled contacts →
        min config.dhtLookupParallelism.toNat (state.lookup.unqueried config localIps).length = 0) ∨
    (state.lookup.Goes config late ∧
      (state.turn config localIps late).issued.length = state.issued.length +
        min config.dhtLookupParallelism.toNat (state.lookup.unqueried config localIps).length) := by
  rcases state.lookup.turn_cases config localIps late with
    ⟨halts, stopped⟩ | ⟨_, error, unsorted, failed⟩ |
    ⟨goes, contacts, sorted, ⟨ends, stopped⟩ | ⟨_, _, sends⟩⟩
  · left
    rw [turn, stopped]
    exact ⟨rfl, fun _ _ goes => absurd goes halts⟩
  · left
    rw [turn, failed]
    refine ⟨rfl, fun contacts sorted => ?_⟩
    rw [unsorted] at sorted
    cases sorted
  · left
    rw [turn, stopped]
    refine ⟨rfl, fun others resorted _ apart => ?_⟩
    rw [sorted] at resorted
    cases resorted
    rcases ends with empty | settled
    · rw [← PeerLookup.nextBatch_length (Shortlist.ordered_perm sorted), empty]
      rfl
    · exact absurd settled apart
  · right
    refine ⟨goes, ?_⟩
    rw [turn, sends, ← PeerLookup.nextBatch_length (Shortlist.ordered_perm sorted)]
    exact List.length_append

/-- One query at a time never goes beyond the budget. -/
theorem run_single (single : config.dhtLookupParallelism = 1)
    (inv : Inv config localIps state)
    (few : (state.issued.length : Int) ≤ config.maxDhtQueriesPerTorrent)
    {events : List LookupEvent}
    (ran : Transition.run (step config localIps) state events = some next) :
    (next.issued.length : Int) ≤ config.maxDhtQueriesPerTorrent := by
  refine (Transition.invariant_run (fun state => Inv config localIps state ∧
    (state.issued.length : Int) ≤ config.maxDhtQueriesPerTorrent) ?_ ran ⟨inv, few⟩).2
  intro before event after holds taken
  obtain ⟨kept, within⟩ := holds
  refine ⟨kept.step taken, ?_⟩
  rcases step_cases taken with ⟨late, _, _, rfl⟩ | ⟨moved, routing, results, readings, _, _, rfl⟩
  · rcases turn_issues config localIps late before with ⟨same, _⟩ | ⟨goes, count⟩
    · rw [same]
      exact within
    · have room := goes.2.1
      rw [kept.counted] at room
      rw [single] at count
      omega
  · rw [(gather_phase moved routing results readings before).1]
    exact within

/-- An ID of full length that is not the local one. -/
def Foreign (localNodeId nodeId : Bytes) : Prop := nodeId.length = 20 ∧ nodeId ≠ localNodeId

/-- A table that is in order takes in such IDs only. -/
theorem admits_foreign (fits : 1 ≤ config.dhtRoutingBadAfterFailures) (localNodeId : Bytes) :
    Shortlist.Admits config (fun table => (∃ depth, RoutingTable.Inv config table depth) ∧
      table.localNodeId = localNodeId) (Foreign localNodeId) := by
  rintro table now nodeId ip port ⟨⟨depth, inv⟩, rfl⟩
  obtain ⟨result, found, deeper, observed, kept, same⟩ := inv.observe fits now nodeId ip port {}
  refine ⟨result, found, observed, ⟨⟨deeper, kept⟩, same⟩, fun known => ?_⟩
  rw [RoutingTable.observe_found observed, decide_eq_true_eq] at known
  exact known

/-- Whom the call knows and whom it has queried: other nodes, not itself. -/
structure Abroad (localNodeId : Bytes) (state : Searching) : Prop where
  listed : ∀ contact ∈ state.lookup.shortlist, Foreign localNodeId contact.1
  issued : ∀ query ∈ state.issued, Foreign localNodeId query.1

theorem turn_abroad (abroad : Abroad localNodeId state) (late : Bool) :
    Abroad localNodeId (state.turn config localIps late) := by
  obtain ⟨listed, issued⟩ := abroad
  rcases state.lookup.turn_cases config localIps late with
    ⟨_, stopped⟩ | ⟨_, error, _, failed⟩ | ⟨_, contacts, sorted, ⟨_, stopped⟩ | ⟨_, _, sends⟩⟩
  · rw [turn, stopped]
    exact ⟨listed, issued⟩
  · rw [turn, failed]
    exact ⟨listed, issued⟩
  · rw [turn, stopped]
    exact ⟨listed, issued⟩
  · rw [turn, sends]
    refine ⟨listed, fun query member => ?_⟩
    rcases List.mem_append.mp member with old | new
    · exact issued query old
    · have known := (PeerLookup.mem_nextBatch new).1
      exact listed query ((Shortlist.ordered_perm sorted).mem_iff.mp known)

theorem abroad_of_run (fits : 1 ≤ config.dhtRoutingBadAfterFailures)
    (abroad : Abroad localNodeId state) {events : List LookupEvent}
    (along : Transition.Along (Tabled config localNodeId) (step config localIps) state events)
    (ran : Transition.run (step config localIps) state events = some next) :
    Abroad localNodeId next := by
  refine Transition.invariant_along (Abroad localNodeId) ?_ along ran abroad
  intro before event after holds allowed taken
  rcases step_cases taken with ⟨late, _, _, rfl⟩ | ⟨moved, routing, results, readings, rfl, _, rfl⟩
  · exact turn_abroad holds late
  · obtain ⟨_, listed⟩ := @gather_proper config localIps before _ _
      (admits_foreign fits localNodeId) holds.listed moved routing allowed results readings
    refine ⟨listed, ?_⟩
    rw [(gather_phase moved routing results readings before).1]
    exact holds.issued

theorem opening_abroad {routing : RoutingTable} {reading : Int} {key : Bytes} {lookup : PeerLookup}
    (orderly : ∃ depth, RoutingTable.Inv config routing depth)
    (opened : PeerLookup.opening config routing reading key = .ok lookup) :
    Abroad routing.localNodeId { lookup } := by
  obtain ⟨depth, inv⟩ := orderly
  unfold PeerLookup.opening at opened
  dsimp only at opened
  split at opened
  · cases opened
  · obtain ⟨contacts, found, opened⟩ := bind_ok_iff.mp opened
    cases opened
    refine ⟨fun entry member => ?_, fun _ none => absurd none List.not_mem_nil⟩
    obtain ⟨contact, listed, same⟩ := mem_ofContacts member
    have known := (RoutingTable.closest_mem found contact listed).1
    obtain ⟨bucket, present, inside⟩ := List.mem_flatMap.mp known
    have valid := inv.valid bucket present
    rw [same]
    exact ⟨valid.idLength contact (List.mem_append_left _ inside),
      valid.notLocal contact (List.mem_append_left _ inside)⟩

/-- There are no more IDs of full length besides the local one. -/
theorem foreign_length {ids : List Bytes} (full : localNodeId.length = DHT_NODE_ID_BYTES)
    (distinct : ids.Nodup) (foreign : ∀ nodeId ∈ ids, Foreign localNodeId nodeId) :
    ids.length ≤ DHT_ID_SPACE - 1 := by
  have numbers : (ids.map fromBytes).Nodup := by
    rw [List.nodup_map_iff_inj_on distinct]
    intro left first right second
    exact fromBytes_injective ((foreign left first).1.trans (foreign right second).1.symm)
  have inside : (ids.map fromBytes).toFinset ⊆
      (Finset.range DHT_ID_SPACE).erase (fromBytes localNodeId) := by
    intro number member
    obtain ⟨nodeId, listed, rfl⟩ := List.mem_map.mp (List.mem_toFinset.mp member)
    obtain ⟨length, other⟩ := foreign nodeId listed
    rw [Finset.mem_erase, Finset.mem_range]
    exact ⟨fun same => other (fromBytes_injective (length.trans full.symm) same),
      RoutingTable.fromBytes_lt_space length⟩
  have counted := Finset.card_le_card inside
  rwa [List.toFinset_card_of_nodup numbers, List.length_map,
    Finset.card_erase_of_mem (Finset.mem_range.mpr (RoutingTable.fromBytes_lt_space full)),
    Finset.card_range] at counted

/-- The queries of a call stay within the budget if and only if there is one query at a time, or the
budget covers all other node IDs there are: the loop looks at the budget between its rounds, and a
round may start several queries when only one is left. -/
theorem run_budget_iff (config : Config) (checked : ConfigCheck.validateConfig config = .ok ()) :
    Budgeted config ↔ config.dhtLookupParallelism = 1 ∨
      (2 : Int) ^ 160 - 1 ≤ config.maxDhtQueriesPerTorrent := by
  have valid := (ConfigCheck.validateConfig_ok_iff config).mp checked
  have parallel : 0 < config.dhtLookupParallelism := valid.integers
    ("DHT_LOOKUP_PARALLELISM", config.dhtLookupParallelism) (by simp [ConfigCheck.integerPositive])
  have failures : 0 < config.dhtRoutingBadAfterFailures := valid.integers
    ("DHT_ROUTING_BAD_AFTER_FAILURES", config.dhtRoutingBadAfterFailures)
    (by simp [ConfigCheck.integerPositive])
  have peers : 0 < config.maxPeersPerTorrent := valid.integers
    ("MAX_PEERS_PER_TORRENT", config.maxPeersPerTorrent) (by simp [ConfigCheck.integerPositive])
  have budget : 0 < config.maxDhtQueriesPerTorrent := valid.integers
    ("MAX_DHT_QUERIES_PER_TORRENT", config.maxDhtQueriesPerTorrent)
    (by simp [ConfigCheck.integerPositive])
  constructor
  · intro budgeted
    by_contra several
    obtain ⟨many, small⟩ := not_or.mp several
    obtain ⟨table, lookup, events, state, luring, opened, rounds, ran, beyond⟩ :=
      lured_beyond config (by omega) (by omega) peers budget (by unfold DHT_ID_SPACE; omega)
    have along : Transition.Along (Tabled config table.localNodeId) (step config []) { lookup }
        events := by
      apply Transition.along_of_mem
      intro event member seen
      rcases rounds event member with rfl | ⟨names, inside⟩
      · trivial
      · rcases List.mem_cons.mp inside with rfl | behind
        · trivial
        · rw [List.mem_singleton.mp behind]
          exact ⟨luring.inv, rfl⟩
    have within := budgeted [] table 0 (numbered 0) lookup events state luring.inv opened along ran
    omega
  · rintro (single | large) localIps routing reading key lookup events state orderly opened along ran
    · exact run_single single (opening_inv opened) (by simp; omega) ran
    · have abroad := abroad_of_run (by omega) (opening_abroad orderly opened) along ran
      have inv := (@opening_inv config localIps _ _ _ _ opened).run ran
      obtain ⟨depth, sound⟩ := orderly
      have few := foreign_length sound.localLength inv.once (by
        intro nodeId member
        obtain ⟨query, issued, rfl⟩ := List.mem_map.mp member
        exact abroad.issued query issued)
      rw [List.length_map] at few
      unfold DHT_ID_SPACE at few
      omega

theorem run_budget_iff_sample :
    Budgeted { dhtLookupParallelism := 1 } ∧ ¬ Budgeted {} := by
  refine ⟨(run_budget_iff _ (by decide +kernel)).mpr (.inl rfl), fun budgeted => ?_⟩
  rcases (run_budget_iff {} (by decide +kernel)).mp budgeted with single | large
  · exact absurd single (by decide)
  · exact absurd large (by decide)

/-- The one contact returns three nodes. -/
def crowdedEvents (routing : RoutingTable) : List LookupEvent :=
  [.turn false, .gather [] routing [some [(ascii "nodes", .bytes
      (List.replicate 20 7 ++ [9, 9, 9, 9, 26, 225] ++ List.replicate 20 8 ++ [9, 9, 9, 8, 26, 225] ++
        List.replicate 20 6 ++ [9, 9, 9, 7, 26, 225]))]] (fun _ _ => 3)]

/-- Two queries allowed, three at a time: one query leaves room for one, and three follow. -/
theorem budget_exceeded :
    ConfigCheck.validateConfig { maxDhtQueriesPerTorrent := 2 } = .ok () ∧
    ∃ routing lookup state,
      PeerLookup.opening { maxDhtQueriesPerTorrent := 2 } routing 2 (List.replicate 20 9) =
        .ok lookup ∧
      Transition.run (step { maxDhtQueriesPerTorrent := 2 } []) { lookup }
        (crowdedEvents routing ++ [.turn false]) = some state ∧
      state.issued.length = 4 := by
  obtain ⟨routing, lookup, state, opened, ran, checked⟩ :=
    @sampleSearch_check { maxDhtQueriesPerTorrent := 2 } 1 crowdedEvents
      (fun state => state.phase = .deciding && state.issued.length = 1 &&
        decide (state.lookup.key.length = 20 ∧
          ∀ contact ∈ state.lookup.shortlist, contact.1.length = 20) &&
        decide (state.lookup.queryCount = 1 ∧ state.lookup.peers = []) &&
        state.lookup.shortlist.length = 4 &&
        state.lookup.previousFrontier.map List.length = some 1 &&
        (state.lookup.unqueried { maxDhtQueriesPerTorrent := 2 } []).length = 3)
      (by decide +kernel)
  simp only [Bool.and_eq_true, decide_eq_true_eq] at checked
  obtain ⟨⟨⟨⟨⟨⟨deciding, issued⟩, key, lengths⟩, count, peers⟩, listed⟩, frontier⟩, left⟩ := checked
  refine ⟨by decide +kernel, routing, lookup,
    state.turn { maxDhtQueriesPerTorrent := 2 } [] false, opened, ?_, ?_⟩
  · exact Transition.run_concat.mpr ⟨state, ran, if_pos deciding⟩
  · obtain ⟨contacts, sorted⟩ := Shortlist.ordered_ok key lengths
    have goes : state.lookup.Goes { maxDhtQueriesPerTorrent := 2 } false := by
      refine ⟨rfl, ?_, ?_⟩
      · rw [count]
        decide
      · rw [peers]
        decide
    have apart : ¬ state.lookup.Settled contacts := by
      intro settled
      rw [settled.1, Option.map_some, List.length_map, List.length_take,
        (Shortlist.ordered_perm sorted).length_eq, listed] at frontier
      cases frontier
    rcases turn_issues { maxDhtQueriesPerTorrent := 2 } [] false state with
      ⟨_, idle⟩ | ⟨_, sent⟩
    · have impossible := idle contacts sorted goes apart
      rw [left] at impossible
      exact absurd impossible (by decide)
    · rw [sent, issued, left]
      rfl

end Searching

end PyDht
