import Mathlib.Data.List.Basic

set_option autoImplicit false

namespace FirstMatch

variable {α β : Type}

/-- The first element that passes the test gives way to a list. -/
def splice (test : α → Bool) (edit : α → List α) : List α → List α
  | [] => []
  | head :: rest => if test head then edit head ++ rest else head :: splice test edit rest

/-- The first element that passes the test is edited in place. -/
def modify (test : α → Bool) (edit : α → α) (items : List α) : List α :=
  splice test (fun item => [edit item]) items

@[simp] theorem splice_nil (test : α → Bool) (edit : α → List α) : splice test edit [] = [] := rfl

@[simp] theorem modify_nil (test : α → Bool) (edit : α → α) : modify test edit [] = [] := rfl

theorem splice_append (test : α → Bool) (edit : α → List α) (front back : List α) (item : α)
    (before : ∀ other ∈ front, test other = false) (found : test item = true) :
    splice test edit (front ++ item :: back) = front ++ edit item ++ back := by
  induction front with
  | nil => simp [splice, found]
  | cons head rest ih =>
      have skipped := before head (by simp)
      have remaining := ih (fun other member => before other (List.mem_cons_of_mem _ member))
      simp [splice, skipped, remaining]

theorem modify_append (test : α → Bool) (edit : α → α) (front back : List α) (item : α)
    (before : ∀ other ∈ front, test other = false) (found : test item = true) :
    modify test edit (front ++ item :: back) = front ++ edit item :: back := by
  simp [modify, splice_append test _ front back item before found]

@[simp] theorem length_modify (test : α → Bool) (edit : α → α) (items : List α) :
    (modify test edit items).length = items.length := by
  induction items with
  | nil => rfl
  | cons head rest ih =>
      by_cases hit : test head
      · simp [modify, splice, hit]
      · simpa [modify, splice, hit] using ih

/-- What the edit leaves alone is left alone in the whole list. -/
theorem map_modify (test : α → Bool) (edit : α → α) (view : α → β) (items : List α)
    (same : ∀ item, test item = true → view (edit item) = view item) :
    (modify test edit items).map view = items.map view := by
  induction items with
  | nil => rfl
  | cons head rest ih =>
      by_cases hit : test head
      · simp [modify, splice, hit, same head hit]
      · simpa [modify, splice, hit] using ih

/-- An edited list holds old elements and edited ones only. -/
theorem mem_modify {test : α → Bool} {edit : α → α} {items : List α} {item : α}
    (member : item ∈ modify test edit items) :
    item ∈ items ∨ ∃ old ∈ items, test old = true ∧ item = edit old := by
  induction items with
  | nil => cases member
  | cons head rest ih =>
      by_cases hit : test head
      · have shape : modify test edit (head :: rest) = edit head :: rest := by
          simp [modify, splice, hit]
        rw [shape] at member
        rcases List.mem_cons.mp member with rfl | later
        · exact Or.inr ⟨head, by simp, hit, rfl⟩
        · exact Or.inl (List.mem_cons_of_mem _ later)
      · have shape : modify test edit (head :: rest) = head :: modify test edit rest := by
          simp [modify, splice, hit]
        rw [shape] at member
        rcases List.mem_cons.mp member with rfl | later
        · exact Or.inl (by simp)
        · rcases ih later with old | ⟨old, present, passed, same⟩
          · exact Or.inl (List.mem_cons_of_mem _ old)
          · exact Or.inr ⟨old, List.mem_cons_of_mem _ present, passed, same⟩

end FirstMatch
