import PyDht.Lib.Transition
import Mathlib.Algebra.Order.Field.Basic
import Mathlib.Tactic.Linarith
import Mathlib.Tactic.Ring

set_option autoImplicit false

/-! An allowance that grows at a fixed rate up to a capacity and is reckoned anew whenever somebody
asks for a unit of it. -/

namespace Allowance

/-- How much was left at the time of the last reckoning. -/
structure Level (α : Type) where
  left : α
  reckoned : α

/-- A reckoning, with which a unit is spent or not. -/
structure Turn (α : Type) where
  now : α
  spent : Bool

/-- The units spent from `first` to `last`. -/
def spentWithin {α : Type} [LinearOrder α] (first last : α) (turns : List (Turn α)) : Nat :=
  turns.countP fun turn => turn.spent ∧ first ≤ turn.now ∧ turn.now ≤ last

section definitions

variable {α : Type} [Field α] [LinearOrder α]

def Level.refill (rate capacity now : α) (level : Level α) : Level α :=
  { left := min capacity (level.left + (now - level.reckoned) * rate), reckoned := now }

/-- Time does not run backwards, and a unit is spent only if it is there. -/
def Level.turn (rate capacity : α) (level : Level α) (turn : Turn α) : Option (Level α) :=
  if level.reckoned ≤ turn.now then
    let level := level.refill rate capacity turn.now
    if turn.spent then
      if 1 ≤ level.left then some { level with left := level.left - 1 } else none
    else some level
  else none

/-- Between nothing and the capacity. -/
def Level.Sound (capacity : α) (level : Level α) : Prop :=
  0 ≤ level.left ∧ level.left ≤ capacity

end definitions

theorem spentWithin_cons {α : Type} [LinearOrder α] (first last : α) (turn : Turn α)
    (turns : List (Turn α)) :
    spentWithin first last (turn :: turns) = spentWithin first last turns +
      if turn.spent = true ∧ first ≤ turn.now ∧ turn.now ≤ last then 1 else 0 := by
  unfold spentWithin
  rw [List.countP_cons]
  simp only [decide_eq_true_eq]

/-- A turn outside the window does not count. -/
theorem spentWithin_skip {α : Type} [LinearOrder α] {first last : α} {turn : Turn α}
    (outside : turn.now < first ∨ last < turn.now) (turns : List (Turn α)) :
    spentWithin first last (turn :: turns) = spentWithin first last turns := by
  rw [spentWithin_cons, if_neg, add_zero]
  intro inside
  obtain early | late := outside
  · exact absurd inside.2.1 (not_le.mpr early)
  · exact absurd inside.2.2 (not_le.mpr late)

variable {α : Type} [Field α] [LinearOrder α] [IsStrictOrderedRing α] {rate capacity : α}

/-- What one turn does. -/
theorem Level.turn_eq_some {level next : Level α} {turn : Turn α}
    (taken : level.turn rate capacity turn = some next) :
    level.reckoned ≤ turn.now ∧ next.reckoned = turn.now ∧
      next.left = min capacity (level.left + (turn.now - level.reckoned) * rate) -
        (if turn.spent then 1 else 0) ∧
      (turn.spent = true → 0 ≤ next.left) := by
  unfold Level.turn at taken
  split at taken
  · rename_i later
    dsimp only at taken
    split at taken
    · rename_i spent
      split at taken
      · rename_i enough
        cases taken
        exact ⟨later, rfl, by rw [if_pos spent]; rfl, fun _ => sub_nonneg.mpr enough⟩
      · cases taken
    · rename_i kept
      cases taken
      refine ⟨later, rfl, ?_, fun spent => absurd spent kept⟩
      rw [if_neg kept, sub_zero]
      rfl
  · cases taken

theorem Level.Sound.turn {level next : Level α} (sound : level.Sound capacity) (growing : 0 ≤ rate)
    {turn : Turn α} (taken : level.turn rate capacity turn = some next) : next.Sound capacity := by
  obtain ⟨later, -, left, enough⟩ := Level.turn_eq_some taken
  have grown : 0 ≤ (turn.now - level.reckoned) * rate := mul_nonneg (sub_nonneg.mpr later) growing
  have below := min_le_left capacity (level.left + (turn.now - level.reckoned) * rate)
  by_cases spent : turn.spent = true
  · refine ⟨enough spent, ?_⟩
    rw [left, if_pos spent]
    linarith
  · rw [if_neg spent, sub_zero] at left
    refine ⟨?_, by rw [left]; exact below⟩
    rw [left]
    exact le_min (le_trans sound.1 sound.2) (add_nonneg sound.1 grown)

/-- Nothing is spent before the last reckoning any more. -/
theorem spentWithin_late {first last : α} {turns : List (Turn α)} {level final : Level α}
    (ran : Transition.run (Level.turn rate capacity) level turns = some final)
    (late : last < level.reckoned) : spentWithin first last turns = 0 := by
  induction turns generalizing level with
  | nil => rfl
  | cons turn turns ih =>
      obtain ⟨next, taken, ran⟩ := Transition.run_cons.mp ran
      obtain ⟨later, reckoned, -⟩ := Level.turn_eq_some taken
      have after : last < turn.now := lt_of_lt_of_le late later
      rw [spentWithin_skip (.inr after), ih ran (by rw [reckoned]; exact after)]

theorem spentWithin_turn_late {first last : α} {turns : List (Turn α)} {turn : Turn α}
    {level final : Level α}
    (ran : Transition.run (Level.turn rate capacity) level (turn :: turns) = some final)
    (late : last < turn.now) : spentWithin first last (turn :: turns) = 0 := by
  obtain ⟨next, taken, ran⟩ := Transition.run_cons.mp ran
  obtain ⟨-, reckoned, -⟩ := Level.turn_eq_some taken
  rw [spentWithin_skip (.inr late), spentWithin_late ran (by rw [reckoned]; exact late)]

/-- A turn adds at most what it spends itself. -/
theorem spentWithin_turn_le {first last : α} {turns : List (Turn α)} {turn : Turn α}
    {level next : Level α} (taken : level.turn rate capacity turn = some next)
    (rest : (spentWithin first last turns : α) ≤ next.left + (last - next.reckoned) * rate) :
    (spentWithin first last (turn :: turns) : α) ≤
      min capacity (level.left + (turn.now - level.reckoned) * rate) +
        (last - turn.now) * rate := by
  obtain ⟨-, reckoned, left, -⟩ := Level.turn_eq_some taken
  rw [left, reckoned] at rest
  rw [spentWithin_cons]
  push_cast
  by_cases spent : turn.spent = true
  · rw [if_pos spent] at rest
    split_ifs <;> linarith
  · rw [if_neg spent] at rest
    rw [if_neg fun inside => spent inside.1]
    linarith

/-- From a reckoning on, no more is spent than was left then and has grown since. -/
theorem spentWithin_le_left {first last : α} {turns : List (Turn α)} {level final : Level α}
    (sound : level.Sound capacity) (growing : 0 ≤ rate)
    (ran : Transition.run (Level.turn rate capacity) level turns = some final)
    (before : level.reckoned ≤ last) :
    (spentWithin first last turns : α) ≤ level.left + (last - level.reckoned) * rate := by
  have some_left : 0 ≤ level.left + (last - level.reckoned) * rate :=
    add_nonneg sound.1 (mul_nonneg (sub_nonneg.mpr before) growing)
  induction turns generalizing level with
  | nil => simpa [spentWithin] using some_left
  | cons turn turns ih =>
      obtain ⟨next, taken, ran'⟩ := Transition.run_cons.mp ran
      obtain ⟨-, reckoned, -⟩ := Level.turn_eq_some taken
      have sound' := sound.turn growing taken
      by_cases inTime : turn.now ≤ last
      · have before' : next.reckoned ≤ last := by rw [reckoned]; exact inTime
        have rest := ih sound' ran' before'
          (add_nonneg sound'.1 (mul_nonneg (sub_nonneg.mpr before') growing))
        calc (spentWithin first last (turn :: turns) : α)
            ≤ min capacity (level.left + (turn.now - level.reckoned) * rate) +
                (last - turn.now) * rate := spentWithin_turn_le taken rest
          _ ≤ level.left + (turn.now - level.reckoned) * rate + (last - turn.now) * rate := by
              have below := min_le_right capacity (level.left + (turn.now - level.reckoned) * rate)
              linarith
          _ = level.left + (last - level.reckoned) * rate := by ring
      · rw [spentWithin_turn_late ran (not_le.mp inTime), Nat.cast_zero]
        exact some_left

/-- In no window is more spent than the capacity and what grows in it. -/
theorem spentWithin_le {first last : α} (ordered : first ≤ last) {turns : List (Turn α)}
    {level final : Level α} (sound : level.Sound capacity) (growing : 0 ≤ rate)
    (ran : Transition.run (Level.turn rate capacity) level turns = some final) :
    (spentWithin first last turns : α) ≤ capacity + (last - first) * rate := by
  have window : 0 ≤ capacity + (last - first) * rate :=
    add_nonneg (le_trans sound.1 sound.2) (mul_nonneg (sub_nonneg.mpr ordered) growing)
  induction turns generalizing level with
  | nil => simpa [spentWithin] using window
  | cons turn turns ih =>
      obtain ⟨next, taken, ran'⟩ := Transition.run_cons.mp ran
      obtain ⟨-, reckoned, -⟩ := Level.turn_eq_some taken
      have sound' := sound.turn growing taken
      by_cases early : turn.now < first
      · rw [spentWithin_skip (.inl early)]
        exact ih sound' ran'
      by_cases inTime : turn.now ≤ last
      · have before : next.reckoned ≤ last := by
          rw [reckoned]
          exact inTime
        have rest : (spentWithin first last turns : α) ≤
            next.left + (last - next.reckoned) * rate :=
          spentWithin_le_left sound' growing ran' before
        calc (spentWithin first last (turn :: turns) : α)
            ≤ min capacity (level.left + (turn.now - level.reckoned) * rate) +
                (last - turn.now) * rate := spentWithin_turn_le taken rest
          _ ≤ capacity + (last - first) * rate := by
              have below := min_le_left capacity (level.left + (turn.now - level.reckoned) * rate)
              have shorter : (last - turn.now) * rate ≤ (last - first) * rate :=
                mul_le_mul_of_nonneg_right (by linarith [not_lt.mp early]) growing
              linarith
      · rw [spentWithin_turn_late ran (not_le.mp inTime), Nat.cast_zero]
        exact window

end Allowance
