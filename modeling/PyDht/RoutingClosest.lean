import PyDht.RoutingTable
import Mathlib.Data.List.Sort

set_option autoImplicit false

namespace PyDht

namespace RoutingTable

theorem keyed_contacts {α ε κ : Type} {key : α → Except ε κ} {contacts : List α}
    {keyed : List (κ × α)}
    (ran : (contacts.mapM fun contact => return (← key contact, contact)) = .ok keyed) :
    keyed.map Prod.snd = contacts := by
  induction contacts generalizing keyed with
  | nil =>
      rw [List.mapM_nil] at ran
      rw [← pure_ok_iff.mp ran]
      rfl
  | cons contact rest ih =>
      rw [List.mapM_cons] at ran
      rcases bind_ok_iff.mp ran with ⟨first, here, behind⟩
      rcases bind_ok_iff.mp behind with ⟨others, there, joined⟩
      rcases bind_ok_iff.mp here with ⟨distance, _, same⟩
      rw [← pure_ok_iff.mp joined, ← pure_ok_iff.mp same, List.map_cons, ih there]

/-- Whom `closest` returns: contacts of the table that are not read-only and,
if asked for, GOOD. -/
theorem closest_mem {config : Config} {table : RoutingTable} {now : Int} {target : Bytes}
    {limit : Nat} {goodOnly : Bool} {contacts : List Contact}
    (found : table.closest config now target limit goodOnly = .ok contacts) :
    ∀ contact ∈ contacts, contact ∈ table.allContacts ∧ contact.readOnly = false ∧
      (goodOnly = true → contact.state config now = .good) := by
  intro contact member
  rcases bind_ok_iff.mp found with ⟨keyed, ran, result⟩
  rw [← pure_ok_iff.mp result] at member
  rcases List.mem_map.mp (List.mem_of_mem_take member) with ⟨pair, sorted, rfl⟩
  have unsorted : pair ∈ keyed := (List.mergeSort_perm keyed _).mem_iff.mp sorted
  have listed := List.mem_map_of_mem (f := Prod.snd) unsorted
  rw [keyed_contacts ran] at listed
  cases goodOnly with
  | false =>
      simp only [Bool.false_eq_true, if_false, List.mem_filter, Bool.not_eq_true'] at listed
      exact ⟨listed.1, listed.2, by simp⟩
  | true =>
      simp only [if_true, List.mem_filter, Bool.not_eq_true', decide_eq_true_eq] at listed
      exact ⟨listed.1.1, listed.1.2, fun _ => listed.2⟩

/-- Among contacts with proper IDs, `closest` finds its way to every proper target. -/
theorem closest_ok (config : Config) {table : RoutingTable}
    (proper : ∀ contact ∈ table.allContacts, contact.nodeId.length = 20) (now : Int)
    {target : Bytes} (length : target.length = 20) (limit : Nat) (goodOnly : Bool) :
    ∃ contacts, table.closest config now target limit goodOnly = .ok contacts := by
  have keyed : ∀ contacts : List Contact, (∀ contact ∈ contacts, contact.nodeId.length = 20) →
      ∃ keyed, (contacts.mapM fun contact => do
        return (← xorDistance contact.nodeId target, contact)) = .ok keyed := by
    intro contacts
    induction contacts with
    | nil => exact fun _ => ⟨[], rfl⟩
    | cons contact rest ih =>
        intro within
        rcases ih fun other member => within other (List.mem_cons_of_mem _ member) with
          ⟨others, there⟩
        have here : xorDistance contact.nodeId target =
            .ok (fromBytes contact.nodeId ^^^ fromBytes target) := by
          simp [xorDistance, within contact (by simp), length]
        refine ⟨(fromBytes contact.nodeId ^^^ fromBytes target, contact) :: others, ?_⟩
        rw [List.mapM_cons, there, here]
        rfl
  unfold closest
  rcases keyed (if goodOnly then
    (table.allContacts.filter (!·.readOnly)).filter (·.state config now = .good)
    else table.allContacts.filter (!·.readOnly)) (by
      intro contact member
      cases goodOnly <;> simp only [if_true, Bool.false_eq_true, if_false, List.mem_filter] at member
      · exact proper contact member.1
      · exact proper contact member.1.1) with ⟨pairs, ran⟩
  dsimp only
  rw [ran]
  exact ⟨_, rfl⟩

end RoutingTable

end PyDht
