import Mathlib.Data.List.Induction

set_option autoImplicit false

/-! Logs that only grow at their end, where it depends on what stands before whether an entry may
come. -/

namespace Chronicle

variable {α : Type}

/-- Each entry may come where it stands. -/
def Lawful (succeeds : List α → α → Prop) (entries : List α) : Prop :=
  ∀ front entry back, entries = front ++ entry :: back → succeeds front entry

variable {succeeds : List α → α → Prop} {entries : List α} {entry : α}

theorem Lawful.nil : Lawful succeeds [] := by
  intro front entry back split
  cases front <;> cases split

theorem Lawful.concat (lawful : Lawful succeeds entries) (next : succeeds entries entry) :
    Lawful succeeds (entries ++ [entry]) := by
  intro front other back split
  rcases List.append_eq_append_iff.mp split with
    ⟨between, isFront, rest⟩ | ⟨between, isEntries, rest⟩
  · cases between with
    | nil =>
        rw [List.nil_append, List.cons.injEq] at rest
        rw [isFront, List.append_nil, ← rest.1]
        exact next
    | cons first others =>
        rw [List.cons_append, List.cons.injEq] at rest
        cases others <;> cases rest.2
  · cases between with
    | nil =>
        rw [List.nil_append, List.cons.injEq] at rest
        rw [List.append_nil] at isEntries
        rw [← isEntries, rest.1]
        exact next
    | cons first others =>
        rw [List.cons_append, List.cons.injEq] at rest
        apply lawful front other others
        rw [isEntries, rest.1]

theorem Lawful.front (lawful : Lawful succeeds (entries ++ [entry])) :
    Lawful succeeds entries := by
  intro front other back split
  apply lawful front other (back ++ [entry])
  rw [split, List.append_assoc, List.cons_append]

theorem Lawful.last (lawful : Lawful succeeds (entries ++ [entry])) : succeeds entries entry :=
  lawful entries entry [] rfl

/-- Behind an entry that nothing may follow there is nothing. -/
theorem Lawful.ends (lawful : Lawful succeeds entries) {front back : List α}
    (split : entries = front ++ entry :: back)
    (final : ∀ next, ¬ succeeds (front ++ [entry]) next) : back = [] := by
  cases back with
  | nil => rfl
  | cons next back =>
      refine absurd (lawful (front ++ [entry]) next back ?_) (final next)
      rw [split, List.append_assoc, List.singleton_append]

end Chronicle
