import PyDht.ConfigCheck
import PyDht.Lib.Transition
import PyDht.ShortlistOrder

set_option autoImplicit false

namespace PyDht

open Effects (Ensures Preserves)

/-- Where a lookup stands: at the condition of its loop, behind `asyncio.gather`, or at its end. -/
inductive LookupPhase where
  | deciding
  | waiting
  | returned
  | raised
deriving DecidableEq, Repr

/-- A call of `iterative_get_peers` with the queries that it has issued so far. -/
structure Searching where
  lookup : PeerLookup
  phase : LookupPhase := .deciding
  issued : Shortlist := []

/-- `turn` is the loop up to the next batch. In `gather` all queries of the batch have ended; by
then the routing table is another one, and contacts of the shortlist have moved. -/
inductive LookupEvent where
  | turn (late : Bool)
  | gather (moved : List (Bytes × Endpoint)) (routing : RoutingTable)
      (results : List (Option Message)) (readings : Nat → Nat → Int)

namespace Searching

def turn (config : Config) (localIps : List String) (late : Bool) (state : Searching) :
    Searching :=
  match state.lookup.turn config localIps late with
  | .error _ => { state with phase := .raised }
  | .ok none => { state with phase := .returned }
  | .ok (some next) =>
      { lookup := next, phase := .waiting, issued := state.issued ++ next.batch }

def gather (config : Config) (localIps : List String) (moved : List (Bytes × Endpoint))
    (routing : RoutingTable) (results : List (Option Message)) (readings : Nat → Nat → Int)
    (state : Searching) : Searching :=
  let lookup := { state.lookup with shortlist := state.lookup.shortlist.relocate moved }
  match PeerLookup.gather config localIps readings 0 results (routing, lookup) with
  | .ok _ (_, next) => { state with lookup := next, phase := .deciding }
  | .error _ (_, next) => { state with lookup := next, phase := .raised }

def step (config : Config) (localIps : List String) (state : Searching) :
    LookupEvent → Option Searching
  | .turn late => if state.phase = .deciding then some (state.turn config localIps late) else none
  | .gather moved routing results readings =>
      if state.phase = .waiting ∧ results.length = state.lookup.batch.length then
        some (state.gather config localIps moved routing results readings)
      else none

end Searching

namespace PeerLookup

variable {config : Config} {localIps : List String}

/-- The contacts of the shortlist that are left to query. -/
def unqueried (config : Config) (localIps : List String) (lookup : PeerLookup) : Shortlist :=
  lookup.shortlist.filter fun contact =>
    contact.1 ∉ lookup.queried && endpointAllowed config localIps contact.2.1 contact.2.2

/-- The frontier of the sorted contacts is that of the turn before, and has been queried. -/
def Settled (contacts : Shortlist) (lookup : PeerLookup) : Prop :=
  lookup.previousFrontier = some ((contacts.take DHT_K).map Prod.fst) ∧
    ∀ nodeId ∈ (contacts.take DHT_K).map Prod.fst, nodeId ∈ lookup.queried

/-- The loop goes on: there is time, and neither the budget nor the peers are used up. -/
def Goes (config : Config) (late : Bool) (lookup : PeerLookup) : Prop :=
  late = false ∧ (lookup.queryCount : Int) < config.maxDhtQueriesPerTorrent ∧
    (lookup.peers.length : Int) < config.maxPeersPerTorrent

/-- What the loop does up to its next batch. -/
theorem turn_cases (config : Config) (localIps : List String) (late : Bool) (lookup : PeerLookup) :
    (¬ lookup.Goes config late ∧ lookup.turn config localIps late = .ok none) ∨
    (lookup.Goes config late ∧ ∃ error, lookup.shortlist.ordered lookup.key = .error error ∧
      lookup.turn config localIps late = .error error) ∨
    (lookup.Goes config late ∧ ∃ contacts, lookup.shortlist.ordered lookup.key = .ok contacts ∧
      ((nextBatch config localIps contacts lookup.queried = [] ∨ lookup.Settled contacts) ∧
        lookup.turn config localIps late = .ok none ∨
      nextBatch config localIps contacts lookup.queried ≠ [] ∧ ¬ lookup.Settled contacts ∧
        lookup.turn config localIps late = .ok (some { lookup with
          queried := lookup.queried ++
            (nextBatch config localIps contacts lookup.queried).map Prod.fst
          queryCount := lookup.queryCount +
            (nextBatch config localIps contacts lookup.queried).length
          previousFrontier := some ((contacts.take DHT_K).map Prod.fst)
          batch := nextBatch config localIps contacts lookup.queried }))) := by
  by_cases goes : lookup.Goes config late
  · right
    have enters : ¬ (late = true ∨ config.maxDhtQueriesPerTorrent ≤ lookup.queryCount ∨
        config.maxPeersPerTorrent ≤ lookup.peers.length) := by
      obtain ⟨early, budget, few⟩ := goes
      rw [early]
      simp only [Bool.false_eq_true, false_or]
      omega
    unfold turn
    rw [if_neg enters]
    cases sorted : lookup.shortlist.ordered lookup.key with
    | error error => exact .inl ⟨goes, error, rfl, rfl⟩
    | ok contacts =>
        right
        refine ⟨goes, contacts, rfl, ?_⟩
        show _ ∧ (if (nextBatch config localIps contacts lookup.queried).isEmpty then _ else _) =
          _ ∨ _ ∧ _ ∧ (if (nextBatch config localIps contacts lookup.queried).isEmpty then _
            else _) = _
        by_cases empty : nextBatch config localIps contacts lookup.queried = []
        · left
          exact ⟨.inl empty, if_pos (by rw [empty]; rfl)⟩
        · rw [if_neg (by simpa using empty)]
          by_cases settled : lookup.Settled contacts
          · left
            exact ⟨.inr settled, if_pos settled⟩
          · right
            exact ⟨empty, settled, if_neg settled⟩
  · left
    refine ⟨goes, if_pos ?_⟩
    unfold Goes at goes
    cases late with
    | true => exact .inl rfl
    | false =>
        right
        simp only [true_and, not_and] at goes
        omega

theorem nextBatch_length {contacts : Shortlist} {lookup : PeerLookup}
    (perm : contacts.Perm lookup.shortlist) :
    (nextBatch config localIps contacts lookup.queried).length =
      min config.dhtLookupParallelism.toNat (lookup.unqueried config localIps).length := by
  rw [nextBatch, List.length_take, unqueried]
  congr 1
  exact (perm.filter _).length_eq

theorem mem_nextBatch {contacts : Shortlist} {queried : List Bytes} {contact : Bytes × Endpoint}
    (member : contact ∈ nextBatch config localIps contacts queried) :
    contact ∈ contacts ∧ contact.1 ∉ queried ∧
      endpointAllowed config localIps contact.2.1 contact.2.2 = true := by
  have kept := List.mem_filter.mp (List.mem_of_mem_take member)
  simpa using kept

theorem nextBatch_nodup {contacts : Shortlist} (distinct : (Dict.keys contacts).Nodup)
    (queried : List Bytes) :
    ((nextBatch config localIps contacts queried).map Prod.fst).Nodup :=
  distinct.sublist (((List.take_sublist _ _).trans List.filter_sublist).map Prod.fst)

/-- An empty batch leaves nobody out, if queries may run at all. -/
theorem unqueried_eq_nil {contacts : Shortlist} {lookup : PeerLookup}
    (parallel : 1 ≤ config.dhtLookupParallelism) (perm : contacts.Perm lookup.shortlist)
    (empty : nextBatch config localIps contacts lookup.queried = []) :
    lookup.unqueried config localIps = [] := by
  have counted := @nextBatch_length config localIps _ _ perm
  rw [empty, List.length_nil] at counted
  apply List.eq_nil_of_length_eq_zero
  omega

theorem addPeers_nodup (values : List Value) {peers : List Endpoint} (distinct : peers.Nodup) :
    (addPeers config localIps values peers).Nodup := by
  induction values generalizing peers with
  | nil => exact distinct
  | cons raw rest ih =>
      unfold addPeers
      split
      · rename_i endpoint _
        split
        · rename_i fits
          have grown : (peers ++ [endpoint]).Nodup := by
            rw [← List.concat_eq_append]
            exact distinct.concat fits.2
          split
          · exact grown
          · exact ih grown
        · exact ih distinct
      · exact ih distinct

/-- What `gather` leaves as it was, with the properties of the shortlist and the peers. -/
structure Gathered (config : Config) (localIps : List String) (asked lookup : PeerLookup) :
    Prop where
  key : lookup.key = asked.key
  queried : lookup.queried = asked.queried
  queryCount : lookup.queryCount = asked.queryCount
  listed : (Dict.keys lookup.shortlist).Nodup
  distinct : lookup.peers.Nodup
  sound : lookup.Sound config localIps

theorem addResponse_gathered {asked lookup : PeerLookup} (response : Message)
    (gathered : Gathered config localIps asked lookup) :
    Gathered config localIps asked (addResponse config localIps response lookup) := by
  unfold addResponse
  split
  · exact gathered
  · obtain ⟨key, queried, queryCount, listed, distinct, sound⟩ := gathered
    exact ⟨key, queried, queryCount, listed, addPeers_nodup _ distinct, addPeers_sound _ sound⟩

theorem gather_gathered (asked : PeerLookup) (readings : Nat → Nat → Int) (index : Nat)
    (results : List (Option Message)) :
    Preserves (fun state => Gathered config localIps asked state.2)
      (gather config localIps readings index results) := by
  induction results generalizing index with
  | nil => exact Preserves.pure ()
  | cons result rest ih =>
      cases result with
      | none => exact ih (index + 1)
      | some response =>
          apply Preserves.bind
          · exact Preserves.modify fun state gathered => addResponse_gathered response gathered
          · intro _
            refine Preserves.bind (Ensures.zoom ?_) fun _ => ih (index + 1)
            intro state gathered
            obtain ⟨key, queried, queryCount, listed, distinct, sound⟩ := gathered
            exact (Shortlist.takeUp_keys_nodup (readings index) 0 _).weaken
              (fun _ start => by rw [start]; exact listed)
              (fun _ _ kept => ⟨key, queried, queryCount, kept, distinct, sound⟩)
              (fun _ _ kept => ⟨key, queried, queryCount, kept, distinct, sound⟩)

theorem addResponse_shortlist (response : Message) (lookup : PeerLookup) :
    (addResponse config localIps response lookup).shortlist = lookup.shortlist := by
  unfold addResponse
  split
  · rfl
  · rfl

/-- With a table that takes in every rumour `gather` raises nothing. -/
theorem gather_sane {inv : RoutingTable → Prop} {proper : Bytes → Prop}
    (admits : Shortlist.Admits config inv proper) (readings : Nat → Nat → Int) (index : Nat)
    (results : List (Option Message)) :
    Ensures (fun state => Shortlist.Sane inv proper (state.1, state.2.shortlist))
      (gather config localIps readings index results)
      (fun _ state => Shortlist.Sane inv proper (state.1, state.2.shortlist))
      (fun _ _ => False) := by
  induction results generalizing index with
  | nil => exact Ensures.pure fun _ sane => sane
  | cons result rest ih =>
      cases result with
      | none => exact ih (index + 1)
      | some response =>
          have added : Ensures
              (fun state : RoutingTable × PeerLookup =>
                Shortlist.Sane inv proper (state.1, state.2.shortlist))
              (modify fun state => (state.1, addResponse config localIps response state.2))
              (fun _ state => Shortlist.Sane inv proper (state.1, state.2.shortlist))
              (fun (_ : PyError) _ => False) := by
            apply Ensures.modify
            intro state sane
            rw [addResponse_shortlist]
            exact sane
          apply Ensures.bind added
          · intro _
            refine Ensures.bind (Ensures.zoom ?_) fun _ => ih (index + 1)
            intro state sane
            exact (Shortlist.takeUp_sane admits (readings index) 0 _).weaken
              (fun _ start => by rw [start]; exact sane) (fun _ _ kept => kept)
              (fun _ _ impossible => impossible)

end PeerLookup

namespace Searching

variable {config : Config} {localIps : List String} {state next : Searching}

/-- What holds of a call at every point of its run. -/
structure Inv (config : Config) (localIps : List String) (state : Searching) : Prop where
  listed : (Dict.keys state.lookup.shortlist).Nodup
  queried : state.lookup.queried = state.issued.map Prod.fst
  counted : state.lookup.queryCount = state.issued.length
  once : (state.issued.map Prod.fst).Nodup
  allowed : ∀ query ∈ state.issued, endpointAllowed config localIps query.2.1 query.2.2 = true
  distinct : state.lookup.peers.Nodup
  sound : state.lookup.Sound config localIps

theorem turn_inv (inv : Inv config localIps state) (late : Bool) :
    Inv config localIps (state.turn config localIps late) := by
  rcases state.lookup.turn_cases config localIps late with
    ⟨_, stopped⟩ | ⟨_, error, _, failed⟩ | ⟨_, contacts, sorted, ⟨_, stopped⟩ | ⟨_, _, goes⟩⟩
  · rw [turn, stopped]
    exact ⟨inv.listed, inv.queried, inv.counted, inv.once, inv.allowed, inv.distinct, inv.sound⟩
  · rw [turn, failed]
    exact ⟨inv.listed, inv.queried, inv.counted, inv.once, inv.allowed, inv.distinct, inv.sound⟩
  · rw [turn, stopped]
    exact ⟨inv.listed, inv.queried, inv.counted, inv.once, inv.allowed, inv.distinct, inv.sound⟩
  · rw [turn, goes]
    have listed : (Dict.keys contacts).Nodup :=
      ((Shortlist.ordered_perm sorted).map Prod.fst).nodup_iff.mpr inv.listed
    refine ⟨inv.listed, ?_, ?_, ?_, ?_, inv.distinct, inv.sound⟩
    · simp [inv.queried]
    · simp [inv.counted]
    · rw [List.map_append, List.nodup_append]
      refine ⟨inv.once, PeerLookup.nextBatch_nodup listed _, ?_⟩
      intro old before new batched same
      obtain ⟨contact, member, rfl⟩ := List.mem_map.mp batched
      have fresh := (PeerLookup.mem_nextBatch member).2.1
      rw [inv.queried, ← same] at fresh
      exact fresh before
    · intro query member
      rcases List.mem_append.mp member with old | new
      · exact inv.allowed query old
      · exact (PeerLookup.mem_nextBatch new).2.2

theorem gather_phase (moved : List (Bytes × Endpoint)) (routing : RoutingTable)
    (results : List (Option Message)) (readings : Nat → Nat → Int) (state : Searching) :
    (state.gather config localIps moved routing results readings).issued = state.issued ∧
      ((state.gather config localIps moved routing results readings).phase = .deciding ∨
        (state.gather config localIps moved routing results readings).phase = .raised) := by
  unfold gather
  dsimp only
  split
  · exact ⟨rfl, .inl rfl⟩
  · exact ⟨rfl, .inr rfl⟩

theorem gather_kept (inv : Inv config localIps state) (moved : List (Bytes × Endpoint))
    (routing : RoutingTable) (results : List (Option Message)) (readings : Nat → Nat → Int) :
    PeerLookup.Gathered config localIps state.lookup
      (state.gather config localIps moved routing results readings).lookup := by
  have kept := @PeerLookup.gather_gathered config localIps state.lookup readings 0 results
    (routing, { state.lookup with shortlist := state.lookup.shortlist.relocate moved })
    ⟨rfl, rfl, rfl, by rw [Shortlist.keys_relocate]; exact inv.listed, inv.distinct, inv.sound⟩
  unfold gather
  dsimp only
  cases outcome : PeerLookup.gather config localIps readings 0 results
      (routing, { state.lookup with shortlist := state.lookup.shortlist.relocate moved }) with
  | ok _ after =>
      rw [outcome] at kept
      exact kept
  | error _ after =>
      rw [outcome] at kept
      exact kept

theorem gather_inv (inv : Inv config localIps state) (moved : List (Bytes × Endpoint))
    (routing : RoutingTable) (results : List (Option Message)) (readings : Nat → Nat → Int) :
    Inv config localIps (state.gather config localIps moved routing results readings) := by
  have kept := gather_kept inv moved routing results readings
  have same := (@gather_phase config localIps moved routing results readings state).1
  refine ⟨kept.listed, ?_, ?_, ?_, ?_, kept.distinct, kept.sound⟩
  · rw [same, kept.queried]
    exact inv.queried
  · rw [same, kept.queryCount]
    exact inv.counted
  · rw [same]
    exact inv.once
  · rw [same]
    exact inv.allowed

theorem step_cases {event : LookupEvent} (taken : step config localIps state event = some next) :
    (∃ late, event = .turn late ∧ state.phase = .deciding ∧
      next = state.turn config localIps late) ∨
    (∃ moved routing results readings, event = .gather moved routing results readings ∧
      state.phase = .waiting ∧
      next = state.gather config localIps moved routing results readings) := by
  cases event with
  | turn late =>
      obtain ⟨deciding, same⟩ := Option.ite_none_right_eq_some.mp taken
      exact .inl ⟨late, rfl, deciding, (Option.some.inj same).symm⟩
  | gather moved routing results readings =>
      obtain ⟨waiting, same⟩ := Option.ite_none_right_eq_some.mp taken
      exact .inr ⟨moved, routing, results, readings, rfl, waiting.1, (Option.some.inj same).symm⟩

theorem Inv.step (inv : Inv config localIps state) {event : LookupEvent}
    (taken : step config localIps state event = some next) : Inv config localIps next := by
  rcases step_cases taken with ⟨late, _, _, rfl⟩ | ⟨moved, routing, results, readings, _, _, rfl⟩
  · exact turn_inv inv late
  · exact gather_inv inv moved routing results readings

theorem opening_inv {routing : RoutingTable} {reading : Int} {key : Bytes} {lookup : PeerLookup}
    (opened : PeerLookup.opening config routing reading key = .ok lookup) :
    Inv config localIps { lookup } := by
  have sound := @PeerLookup.opening_sound config localIps _ _ _ _ opened
  unfold PeerLookup.opening at opened
  dsimp only at opened
  split at opened
  · cases opened
  · obtain ⟨contacts, _, opened⟩ := bind_ok_iff.mp opened
    cases opened
    exact ⟨Shortlist.keys_ofContacts_nodup contacts, rfl, rfl, List.nodup_nil,
      fun _ none => absurd none List.not_mem_nil, List.nodup_nil, sound⟩

theorem Inv.run (inv : Inv config localIps state) {events : List LookupEvent}
    (ran : Transition.run (Searching.step config localIps) state events = some next) :
    Inv config localIps next :=
  Transition.invariant_run (Inv config localIps) (fun _ _ _ holds taken => holds.step taken) ran inv

/-- The phases of so many rounds of queries take so many events. -/
structure Paced (config : Config) (events : List LookupEvent) (state : Searching) (rounds : Nat) :
    Prop where
  asked : rounds ≤ state.issued.length
  few : rounds ≤ config.maxDhtQueriesPerTorrent.toNat
  deciding : state.phase = .deciding → events.length = 2 * rounds
  waiting : state.phase = .waiting → events.length + 1 = 2 * rounds
  short : events.length ≤ 2 * rounds + 1

theorem Paced.turn {events : List LookupEvent} {rounds : Nat} (inv : Inv config localIps state)
    (paced : Paced config events state rounds) (deciding : state.phase = .deciding)
    (event : LookupEvent) (late : Bool) :
    ∃ rounds', Paced config (events ++ [event]) (state.turn config localIps late) rounds' := by
  have even := paced.deciding deciding
  have asked := paced.asked
  rcases state.lookup.turn_cases config localIps late with
    ⟨_, stopped⟩ | ⟨_, error, _, failed⟩ | ⟨goes, contacts, sorted, ⟨_, stopped⟩ | ⟨some, _, sends⟩⟩
  · rw [Searching.turn, stopped]
    exact ⟨rounds, paced.asked, paced.few, by simp, by simp, by simp; omega⟩
  · rw [Searching.turn, failed]
    exact ⟨rounds, paced.asked, paced.few, by simp, by simp, by simp; omega⟩
  · rw [Searching.turn, stopped]
    exact ⟨rounds, paced.asked, paced.few, by simp, by simp, by simp; omega⟩
  · rw [Searching.turn, sends]
    have batch := List.length_pos_iff.mpr some
    have budget := goes.2.1
    rw [inv.counted] at budget
    refine ⟨rounds + 1, ?_, by omega, by simp, fun _ => ?_, ?_⟩
    · change rounds + 1 ≤ (state.issued ++
        PeerLookup.nextBatch config localIps contacts state.lookup.queried).length
      rw [List.length_append]
      omega
    · rw [List.length_append, List.length_singleton]
      omega
    · rw [List.length_append, List.length_singleton]
      omega

/-- A call makes no more steps than its budget has room for, with or without a deadline. -/
theorem paced_of_run {events : List LookupEvent} (inv : Inv config localIps state)
    (deciding : state.phase = .deciding)
    (ran : Transition.run (step config localIps) state events = some next) :
    ∃ rounds, Paced config events next rounds := by
  refine (Transition.invariant_history (fun events state =>
    Inv config localIps state ∧ ∃ rounds, Paced config events state rounds) ?_ ?_ ran).2
  · intro inputs event before after _ holds taken
    obtain ⟨kept, rounds, paced⟩ := holds
    refine ⟨kept.step taken, ?_⟩
    rcases step_cases taken with ⟨late, _, phase, rfl⟩ | ⟨moved, routing, results, readings, _, phase, rfl⟩
    · exact paced.turn kept phase event late
    · have odd := paced.waiting phase
      obtain ⟨same, phases⟩ := @gather_phase config localIps moved routing results readings before
      refine ⟨rounds, by rw [same]; exact paced.asked, paced.few, fun _ => ?_, ?_, ?_⟩
      · rw [List.length_append, List.length_singleton]
        omega
      · intro waiting
        rcases phases with other | other
        · rw [other] at waiting
          cases waiting
        · rw [other] at waiting
          cases waiting
      · rw [List.length_append, List.length_singleton]
        omega
  · refine ⟨inv, 0, by omega, by omega, fun _ => rfl, fun waiting => ?_, by simp⟩
    rw [deciding] at waiting
    cases waiting

/-- When the loop stops by itself, the closest allowed nodes have been queried. -/
theorem converged (parallel : 1 ≤ config.dhtLookupParallelism) (inv : Inv config localIps state)
    (goes : state.lookup.Goes config false)
    (stops : state.lookup.turn config localIps false = .ok none) :
    ∀ contact ∈ state.lookup.shortlist,
      endpointAllowed config localIps contact.2.1 contact.2.2 = true →
      state.lookup.shortlist.closer state.lookup.key contact.1 < DHT_K →
      contact.1 ∈ state.issued.map Prod.fst := by
  intro contact member allowed close
  rw [← inv.queried]
  rcases state.lookup.turn_cases config localIps false with
    ⟨halts, _⟩ | ⟨_, error, _, failed⟩ | ⟨_, contacts, sorted, ⟨ends, _⟩ | ⟨_, _, sends⟩⟩
  · exact absurd goes halts
  · rw [failed] at stops
    cases stops
  · rcases ends with empty | settled
    · have none := PeerLookup.unqueried_eq_nil parallel (Shortlist.ordered_perm sorted) empty
      by_contra fresh
      have left : contact ∈ state.lookup.unqueried config localIps :=
        List.mem_filter.mpr ⟨member, by simp [fresh, allowed]⟩
      rw [none] at left
      cases left
    · apply settled.2
      exact List.mem_map_of_mem (Shortlist.mem_take_of_closer sorted inv.listed member close)
  · rw [sends] at stops
    cases stops

/-- The event brings a routing table that is in order. -/
def Orderly (config : Config) (_ : Searching) : LookupEvent → Prop
  | .turn _ => True
  | .gather _ routing _ _ => ∃ depth, RoutingTable.Inv config routing depth

/-- All IDs have full length, and nothing was raised. -/
structure Sound (state : Searching) : Prop where
  key : state.lookup.key.length = 20
  lengths : ∀ contact ∈ state.lookup.shortlist, contact.1.length = 20
  returns : state.phase ≠ .raised

theorem turn_sound (sound : Sound state) (late : Bool) :
    Sound (state.turn config localIps late) := by
  rcases state.lookup.turn_cases config localIps late with
    ⟨_, stopped⟩ | ⟨_, error, failed, _⟩ | ⟨_, contacts, _, ⟨_, stopped⟩ | ⟨_, _, sends⟩⟩
  · rw [turn, stopped]
    exact ⟨sound.key, sound.lengths, by simp⟩
  · obtain ⟨contacts, sorted⟩ := Shortlist.ordered_ok sound.key sound.lengths
    rw [sorted] at failed
    cases failed
  · rw [turn, stopped]
    exact ⟨sound.key, sound.lengths, by simp⟩
  · rw [turn, sends]
    exact ⟨sound.key, sound.lengths, by simp⟩

theorem gather_proper {inv : RoutingTable → Prop} {proper : Bytes → Prop}
    (admits : Shortlist.Admits config inv proper)
    (listed : ∀ contact ∈ state.lookup.shortlist, proper contact.1)
    (moved : List (Bytes × Endpoint)) {routing : RoutingTable} (orderly : inv routing)
    (results : List (Option Message)) (readings : Nat → Nat → Int) :
    (state.gather config localIps moved routing results readings).phase = .deciding ∧
      ∀ contact ∈ (state.gather config localIps moved routing results readings).lookup.shortlist,
        proper contact.1 := by
  have relocated : ∀ contact ∈ state.lookup.shortlist.relocate moved, proper contact.1 := by
    intro contact member
    obtain ⟨old, before, rfl⟩ := List.mem_map.mp member
    exact listed old before
  have returned := @PeerLookup.gather_sane config localIps inv proper admits readings 0 results
    (routing, { state.lookup with shortlist := state.lookup.shortlist.relocate moved })
    ⟨orderly, relocated⟩
  unfold gather
  dsimp only
  cases outcome : PeerLookup.gather config localIps readings 0 results
      (routing, { state.lookup with shortlist := state.lookup.shortlist.relocate moved }) with
  | ok _ after =>
      rw [outcome] at returned
      exact ⟨rfl, returned.2⟩
  | error _ after =>
      rw [outcome] at returned
      exact returned.elim

theorem gather_sound (fits : 1 ≤ config.dhtRoutingBadAfterFailures) (sound : Sound state)
    (inv : Inv config localIps state) (moved : List (Bytes × Endpoint)) {routing : RoutingTable}
    (orderly : ∃ depth, RoutingTable.Inv config routing depth) (results : List (Option Message))
    (readings : Nat → Nat → Int) :
    Sound (state.gather config localIps moved routing results readings) := by
  obtain ⟨deciding, lengths⟩ := @gather_proper config localIps state _ _
    (Shortlist.admits_full fits) sound.lengths moved routing orderly results readings
  refine ⟨?_, lengths, ?_⟩
  · rw [(gather_kept inv moved routing results readings).key]
    exact sound.key
  · rw [deciding]
    simp

theorem sound_of_run (fits : 1 ≤ config.dhtRoutingBadAfterFailures) (sound : Sound state)
    (inv : Inv config localIps state) {events : List LookupEvent}
    (orderly : Transition.Along (Orderly config) (step config localIps) state events)
    (ran : Transition.run (step config localIps) state events = some next) : Sound next := by
  refine (Transition.invariant_along (fun state => Sound state ∧ Inv config localIps state)
    ?_ orderly ran ⟨sound, inv⟩).1
  intro before event after holds allowed taken
  refine ⟨?_, holds.2.step taken⟩
  rcases step_cases taken with ⟨late, _, _, rfl⟩ | ⟨moved, routing, results, readings, rfl, _, rfl⟩
  · exact turn_sound holds.1 late
  · exact gather_sound fits holds.1 holds.2 moved allowed results readings

theorem mem_ofContacts {contacts : List Contact} {entry : Bytes × Endpoint}
    (member : entry ∈ Shortlist.ofContacts contacts) :
    ∃ contact ∈ contacts, entry.1 = contact.nodeId := by
  suffices grown : ∀ start : Shortlist, entry ∈ contacts.foldl (fun shortlist contact =>
      Dict.set contact.nodeId (contact.ip, contact.port) shortlist) start →
      entry ∈ start ∨ ∃ contact ∈ contacts, entry.1 = contact.nodeId by
    exact (grown [] member).resolve_left List.not_mem_nil
  clear member
  induction contacts with
  | nil => exact fun _ member => .inl member
  | cons contact rest ih =>
      intro start member
      rcases ih _ member with early | ⟨other, later, same⟩
      · rcases Dict.mem_of_mem_set early with old | new
        · exact .inl old
        · exact .inr ⟨contact, List.mem_cons_self, by rw [new]⟩
      · exact .inr ⟨other, List.mem_cons_of_mem _ later, same⟩

theorem opening_sound {routing : RoutingTable} {reading : Int} {key : Bytes} {lookup : PeerLookup}
    (orderly : ∃ depth, RoutingTable.Inv config routing depth)
    (opened : PeerLookup.opening config routing reading key = .ok lookup) : Sound { lookup } := by
  obtain ⟨depth, inv⟩ := orderly
  unfold PeerLookup.opening at opened
  dsimp only at opened
  split at opened
  · cases opened
  · rename_i full
    obtain ⟨contacts, found, opened⟩ := bind_ok_iff.mp opened
    cases opened
    refine ⟨not_not.mp full, fun entry member => ?_, by simp⟩
    obtain ⟨contact, listed, same⟩ := mem_ofContacts member
    have known := (RoutingTable.closest_mem found contact listed).1
    obtain ⟨bucket, present, inside⟩ := List.mem_flatMap.mp known
    rw [same]
    exact (inv.valid bucket present).idLength contact (List.mem_append_left _ inside)

/-- What is promised of a call after some of its steps. -/
structure Searched (config : Config) (localIps : List String) (events : List LookupEvent)
    (state : Searching) : Prop where
  ends : events.length ≤ 2 * config.maxDhtQueriesPerTorrent.toNat + 1
  once : (state.issued.map Prod.fst).Nodup
  allowed : ∀ query ∈ state.issued, endpointAllowed config localIps query.2.1 query.2.2 = true
  few : ((state.lookup.result config).length : Int) ≤ config.maxPeersPerTorrent
  distinct : (state.lookup.result config).Nodup
  dialable : ∀ peer ∈ state.lookup.result config,
    endpointAllowed config localIps peer.1 peer.2 = true
  /-- The turn that comes now is the last one, and none of the limits is the reason. -/
  converged : ∀ last, Searching.step config localIps state (.turn false) = some last →
    last.phase = .returned →
    (state.lookup.queryCount : Int) < config.maxDhtQueriesPerTorrent →
    (state.lookup.peers.length : Int) < config.maxPeersPerTorrent →
    ∀ contact ∈ state.lookup.shortlist,
      endpointAllowed config localIps contact.2.1 contact.2.2 = true →
      state.lookup.shortlist.closer state.lookup.key contact.1 < DHT_K →
      contact.1 ∈ state.issued.map Prod.fst

theorem turn_returned {late : Bool}
    (returned : (state.turn config localIps late).phase = .returned) :
    state.lookup.turn config localIps late = .ok none := by
  unfold turn at returned
  split at returned
  · cases returned
  · assumption
  · cases returned

/-- Whatever the responders answer and whatever happens to the routing table meanwhile, a lookup
comes to its end, queries no node twice and only allowed endpoints, returns no more peers than it
may, all different and allowed, and converges unless a limit stops it. With routing tables that are
in order it raises nothing. -/
theorem run_searched (config : Config) (checked : ConfigCheck.validateConfig config = .ok ())
    (localIps : List String) (routing : RoutingTable) (reading : Int) (key : Bytes)
    (lookup : PeerLookup)
    (opened : PeerLookup.opening config routing reading key = .ok lookup)
    (events : List LookupEvent) (state : Searching)
    (ran : Transition.run (step config localIps) { lookup } events = some state) :
    Searched config localIps events state ∧
      ((∃ depth, RoutingTable.Inv config routing depth) →
        Transition.Along (Orderly config) (step config localIps) { lookup } events →
        state.phase ≠ .raised) := by
  have valid := (ConfigCheck.validateConfig_ok_iff config).mp checked
  have parallel : 0 < config.dhtLookupParallelism := valid.integers
    ("DHT_LOOKUP_PARALLELISM", config.dhtLookupParallelism) (by simp [ConfigCheck.integerPositive])
  have failures : 0 < config.dhtRoutingBadAfterFailures := valid.integers
    ("DHT_ROUTING_BAD_AFTER_FAILURES", config.dhtRoutingBadAfterFailures)
    (by simp [ConfigCheck.integerPositive])
  have peers : 0 < config.maxPeersPerTorrent := valid.integers
    ("MAX_PEERS_PER_TORRENT", config.maxPeersPerTorrent) (by simp [ConfigCheck.integerPositive])
  have start := @opening_inv config localIps _ _ _ _ opened
  have inv := start.run ran
  obtain ⟨rounds, paced⟩ := paced_of_run start rfl ran
  have few := paced.few
  have short := paced.short
  refine ⟨⟨by omega, inv.once, inv.allowed, ?_, ?_, ?_, ?_⟩, fun orderly along => ?_⟩
  · rw [PeerLookup.result, List.length_take]
    omega
  · exact inv.distinct.sublist (List.take_sublist _ _)
  · intro peer member
    exact inv.sound peer (List.mem_of_mem_take member)
  · intro last taken returned budget room
    rcases step_cases taken with ⟨late, same, _, rfl⟩ | ⟨_, _, _, _, same, _⟩
    · cases same
      exact converged (by omega) inv ⟨rfl, budget, room⟩ (turn_returned returned)
    · cases same
  · exact (sound_of_run (by omega) (opening_sound orderly opened) start along ran).returns

/-- A routing table with that many contacts. -/
def sampleTable (contacts : Nat) : Except PyError RoutingTable := do
  let table ← RoutingTable.new (List.replicate 20 0) 0
  table.run {} ((List.range contacts).map fun index =>
    .observe 1 (List.replicate 20 (UInt8.ofNat (index + 1))) "8.8.8.8" 6881 {})

/-- A call on such a table, with events that may name it. -/
def sampleSearch (config : Config) (contacts : Nat) (events : RoutingTable → List LookupEvent) :
    Option (RoutingTable × PeerLookup × Searching) :=
  (sampleTable contacts).toOption.bind fun routing =>
    (PeerLookup.opening config routing 2 (List.replicate 20 9)).toOption.bind fun lookup =>
      (Transition.run (step config []) { lookup } (events routing)).map (routing, lookup, ·)

theorem sampleSearch_check {config : Config} {contacts : Nat}
    {events : RoutingTable → List LookupEvent} {check : Searching → Bool}
    (checked : (sampleSearch config contacts events).map (fun result => check result.2.2) =
      some true) :
    ∃ routing lookup state, PeerLookup.opening config routing 2 (List.replicate 20 9) = .ok lookup ∧
      Transition.run (step config []) { lookup } (events routing) = some state ∧
      check state = true := by
  obtain ⟨result, searched, holds⟩ := Option.map_eq_some_iff.mp checked
  obtain ⟨routing, _, opened⟩ := Option.bind_eq_some_iff.mp searched
  obtain ⟨lookup, opens, ran⟩ := Option.bind_eq_some_iff.mp opened
  obtain ⟨state, reached, same⟩ := Option.map_eq_some_iff.mp ran
  cases same
  refine ⟨routing, lookup, state, ?_, reached, holds⟩
  cases outcome : PeerLookup.opening config routing 2 (List.replicate 20 9) with
  | ok found =>
      rw [outcome] at opens
      cases opens
      rfl
  | error fault =>
      rw [outcome] at opens
      cases opens

/-- The one contact returns a peer, and the lookup has converged. -/
def sampleEvents (routing : RoutingTable) : List LookupEvent :=
  [.turn false, .gather [] routing
    [some [(ascii "values", .list [.bytes [7, 7, 7, 7, 26, 225]])]] (fun _ _ => 3), .turn false]

theorem run_searched_sample : ∃ routing lookup state,
    PeerLookup.opening {} routing 2 (List.replicate 20 9) = .ok lookup ∧
    Transition.run (step {} []) { lookup } (sampleEvents routing) = some state ∧
    state.phase = .returned ∧ state.issued.length = 1 ∧
    state.lookup.result {} = [("7.7.7.7", 6881)] ∧
    Searched {} [] (sampleEvents routing) state := by
  obtain ⟨routing, lookup, state, opened, ran, checked⟩ := @sampleSearch_check {} 1 sampleEvents
    (fun state => state.phase = .returned && state.issued.length = 1 &&
      state.lookup.result {} = [("7.7.7.7", 6881)]) (by decide +kernel)
  simp only [Bool.and_eq_true, decide_eq_true_eq] at checked
  obtain ⟨⟨returned, issued⟩, result⟩ := checked
  exact ⟨routing, lookup, state, opened, ran, returned, issued, result,
    (run_searched {} (by decide +kernel) [] routing 2 (List.replicate 20 9) lookup opened
      (sampleEvents routing) state ran).1⟩

end Searching

end PyDht
