import PyDht.PeerLookup
import PyDht.RoutingRuns
import Mathlib.Data.Nat.Bitwise

set_option autoImplicit false

namespace PyDht

open Effects (Ensures Preserves)

namespace Shortlist

variable {config : Config} {localIps : List String} {target : Bytes}

/-- The distance of a node to the target, for IDs of full length. -/
def distance (target nodeId : Bytes) : Nat := fromBytes nodeId ^^^ fromBytes target

/-- How many nodes of the shortlist are closer to the target. -/
def closer (target nodeId : Bytes) (shortlist : Shortlist) : Nat :=
  (shortlist.filter fun other => distance target other.1 < distance target nodeId).length

theorem keys_ofContacts_nodup (contacts : List Contact) :
    (Dict.keys (ofContacts contacts)).Nodup := by
  suffices grown : ∀ start : Shortlist, (Dict.keys start).Nodup →
      (Dict.keys (contacts.foldl (fun shortlist contact =>
        Dict.set contact.nodeId (contact.ip, contact.port) shortlist) start)).Nodup from
    grown [] List.nodup_nil
  induction contacts with
  | nil => exact fun _ distinct => distinct
  | cons contact rest ih =>
      exact fun start distinct => ih _ (Dict.nodup_keys_set _ _ distinct)

theorem keyed_distances {shortlist : Shortlist} {keyed : List (Nat × (Bytes × Endpoint))}
    (ran : (shortlist.mapM fun contact => return (← xorDistance contact.1 target, contact)) =
      .ok keyed) :
    ∀ pair ∈ keyed, pair.1 = distance target pair.2.1 ∧ pair.2.1.length = 20 := by
  induction shortlist generalizing keyed with
  | nil =>
      rw [List.mapM_nil] at ran
      rw [← pure_ok_iff.mp ran]
      intro pair member
      cases member
  | cons contact rest ih =>
      rw [List.mapM_cons] at ran
      obtain ⟨first, here, behind⟩ := bind_ok_iff.mp ran
      obtain ⟨others, there, joined⟩ := bind_ok_iff.mp behind
      obtain ⟨measured, isMeasured, same⟩ := bind_ok_iff.mp here
      rw [← pure_ok_iff.mp joined]
      intro pair member
      rcases List.mem_cons.mp member with head | tail
      · rw [head, ← pure_ok_iff.mp same]
        unfold xorDistance at isMeasured
        split at isMeasured
        · cases isMeasured
        · rename_i lengths
          cases isMeasured
          have full : contact.1.length = 20 := by omega
          exact ⟨rfl, full⟩
      · exact ih there pair tail

/-- The contacts come in the order of their distance, and their IDs have full length. -/
theorem ordered_sorted {shortlist contacts : Shortlist}
    (sorted : shortlist.ordered target = .ok contacts) :
    contacts.Pairwise (fun left right => distance target left.1 ≤ distance target right.1) ∧
      ∀ contact ∈ contacts, contact.1.length = 20 := by
  obtain ⟨keyed, ran, result⟩ := bind_ok_iff.mp sorted
  rw [← pure_ok_iff.mp result]
  have measured := keyed_distances ran
  have ascending : (keyed.mergeSort fun left right => decide (left.1 ≤ right.1)).Pairwise
      fun left right => decide (left.1 ≤ right.1) = true := by
    apply List.pairwise_mergeSort
    · intro first second third below above
      simp only [decide_eq_true_eq] at below above ⊢
      omega
    · intro left right
      simp only [Bool.or_eq_true, decide_eq_true_eq]
      omega
  have perm := List.mergeSort_perm keyed fun left right => decide (left.1 ≤ right.1)
  constructor
  · rw [List.pairwise_map]
    refine ascending.imp_of_mem ?_
    intro left right first second below
    rw [decide_eq_true_eq] at below
    rwa [← (measured left (perm.mem_iff.mp first)).1, ← (measured right (perm.mem_iff.mp second)).1]
  · intro contact member
    obtain ⟨pair, inside, rfl⟩ := List.mem_map.mp member
    exact (measured pair (perm.mem_iff.mp inside)).2

theorem distance_injective {left right : Bytes} (first : left.length = 20)
    (second : right.length = 20) (same : distance target left = distance target right) :
    left = right := by
  apply fromBytes_injective (first.trans second.symm)
  have unmasked := congrArg (· ^^^ fromBytes target) same
  simpa only [distance, Nat.xor_xor_cancel_right] using unmasked

/-- Among sorted nodes with different IDs, those with fewer than `limit` closer ones
come first. -/
theorem mem_take_of_closer {shortlist contacts : Shortlist}
    (sorted : shortlist.ordered target = .ok contacts) (distinct : (Dict.keys shortlist).Nodup)
    {contact : Bytes × Endpoint} (member : contact ∈ shortlist) {limit : Nat}
    (close : shortlist.closer target contact.1 < limit) : contact ∈ contacts.take limit := by
  have perm := ordered_perm sorted
  obtain ⟨ascending, lengths⟩ := ordered_sorted sorted
  have listed : contact ∈ contacts := perm.mem_iff.mpr member
  by_contra later
  have behind : contact ∈ contacts.drop limit := by
    rw [← List.take_append_drop limit contacts, List.mem_append] at listed
    exact listed.resolve_left later
  rw [← List.take_append_drop limit contacts, List.pairwise_append] at ascending
  have before : ∀ other ∈ contacts.take limit,
      distance target other.1 < distance target contact.1 := by
    intro other front
    have below := ascending.2.2 other front contact behind
    have apart : distance target other.1 ≠ distance target contact.1 := by
      intro same
      have sameId := distance_injective (lengths other (List.mem_of_mem_take front))
        (lengths contact listed) same
      have unique : (contacts.map Prod.fst).Nodup := (perm.map Prod.fst).nodup_iff.mpr distinct
      have sameContact := List.inj_on_of_nodup_map unique (List.mem_of_mem_take front) listed sameId
      exact later (sameContact ▸ front)
    omega
  have full : (contacts.take limit).length = limit := by
    have some := List.length_pos_of_mem behind
    rw [List.length_drop] at some
    rw [List.length_take]
    omega
  have counted : shortlist.closer target contact.1 =
      (contacts.filter fun other =>
        distance target other.1 < distance target contact.1).length :=
    ((perm.filter _).length_eq).symm
  have front : (contacts.take limit).length ≤ (contacts.filter fun other =>
      distance target other.1 < distance target contact.1).length := by
    rw [← List.filter_eq_self.mpr fun other front => decide_eq_true (before other front)]
    exact ((List.take_sublist limit contacts).filter _).length_le
  omega

theorem ordered_ok {shortlist : Shortlist} (full : target.length = 20)
    (lengths : ∀ contact ∈ shortlist, contact.1.length = 20) :
    ∃ contacts, shortlist.ordered target = .ok contacts := by
  suffices keyed : ∃ keyed, (shortlist.mapM fun contact => do
      return (← xorDistance contact.1 target, contact)) = .ok keyed by
    obtain ⟨keyed, ran⟩ := keyed
    unfold ordered
    rw [ran]
    exact ⟨_, rfl⟩
  induction shortlist with
  | nil => exact ⟨[], rfl⟩
  | cons contact rest ih =>
      obtain ⟨others, ran⟩ := ih fun other member => lengths other (List.mem_cons_of_mem _ member)
      have here : xorDistance contact.1 target = .ok (distance target contact.1) := by
        simp [xorDistance, distance, lengths contact (by simp), full]
      refine ⟨(distance target contact.1, contact) :: others, ?_⟩
      rw [List.mapM_cons, ran, here]
      rfl

theorem takeUp_keys_nodup (readings : Nat → Int) (index : Nat)
    (nodes : List (Bytes × String × Int)) :
    Preserves (fun state : RoutingTable × Shortlist => (Dict.keys state.2).Nodup)
      (takeUp config localIps readings index nodes) := by
  induction nodes generalizing index with
  | nil => exact Preserves.pure ()
  | cons node rest ih =>
      refine Preserves.bind (Preserves.when fun _ => ?_) fun _ => ih (index + 1)
      apply Preserves.get
      rintro ⟨routing, shortlist⟩ distinct
      apply Ensures.raiseBind
      · rintro ⟨table, candidate⟩ _
        cases candidate with
        | none =>
            apply Ensures.set
            intro _ _
            exact distinct
        | some contact =>
            apply Ensures.set
            intro _ _
            exact Dict.nodup_keys_set _ _ distinct
      · intro fault _ state same
        rw [same]
        exact distinct

/-- A rumour leaves the table its property, and only proper IDs are taken in. -/
def Admits (config : Config) (inv : RoutingTable → Prop) (proper : Bytes → Prop) : Prop :=
  ∀ table now nodeId ip port, inv table →
    ∃ result found, table.observe config now nodeId ip port {} = .ok (result, found) ∧ inv result ∧
      (found.isSome = true → proper nodeId)

/-- The table has the property, and the IDs of the shortlist are proper. -/
def Sane (inv : RoutingTable → Prop) (proper : Bytes → Prop) (state : RoutingTable × Shortlist) :
    Prop :=
  inv state.1 ∧ ∀ contact ∈ state.2, proper contact.1

theorem takeUp_sane {inv : RoutingTable → Prop} {proper : Bytes → Prop}
    (admits : Admits config inv proper) (readings : Nat → Int) (index : Nat)
    (nodes : List (Bytes × String × Int)) :
    Ensures (Sane inv proper) (takeUp config localIps readings index nodes)
      (fun _ => Sane inv proper) (fun _ _ => False) := by
  induction nodes generalizing index with
  | nil => exact Ensures.pure fun _ sane => sane
  | cons node rest ih =>
      obtain ⟨nodeId, ip, port⟩ := node
      refine Ensures.bind (Ensures.when (fun _ => ?_) fun _ _ sane => sane) fun _ => ih (index + 1)
      apply Ensures.get
      rintro ⟨routing, shortlist⟩ ⟨holds, proper⟩
      obtain ⟨table, found, observed, kept, known⟩ :=
        admits routing (readings index) nodeId ip port holds
      dsimp only at observed ⊢
      rw [observed]
      apply Ensures.raiseBind
      · intro pair same
        cases same
        cases found with
        | none =>
            apply Ensures.set
            intro _ _
            exact ⟨kept, proper⟩
        | some contact =>
            apply Ensures.set
            intro _ _
            refine ⟨kept, fun entry member => ?_⟩
            rcases Dict.mem_of_mem_set member with old | new
            · exact proper entry old
            · rw [new]
              exact known rfl
      · intro fault same
        cases same

/-- Tables that are in order take in IDs of full length. -/
theorem admits_full (fits : 1 ≤ config.dhtRoutingBadAfterFailures) :
    Admits config (fun table => ∃ depth, RoutingTable.Inv config table depth)
      fun nodeId => nodeId.length = 20 := by
  rintro table now nodeId ip port ⟨depth, inv⟩
  obtain ⟨result, found, deeper, observed, kept, _⟩ := inv.observe fits now nodeId ip port {}
  refine ⟨result, found, observed, ⟨deeper, kept⟩, fun known => ?_⟩
  rw [RoutingTable.observe_found observed, decide_eq_true_eq] at known
  exact known.1

end Shortlist

end PyDht
