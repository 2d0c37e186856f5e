import Mathlib.Data.Nat.Basic
import Mathlib.Tactic.Ring

set_option autoImplicit false

namespace Bisection

/-- A half-open range of natural numbers, lower bound first. -/
abbrev Range := Nat × Nat

def Inside (point : Nat) (range : Range) : Prop := range.1 ≤ point ∧ point < range.2

instance (point : Nat) (range : Range) : Decidable (Inside point range) :=
  inferInstanceAs (Decidable (_ ∧ _))

def middle (range : Range) : Nat := (range.1 + range.2) / 2

/-- The half of the range on the side of the point. -/
def keep (point : Nat) (range : Range) : Range :=
  if point < middle range then (range.1, middle range) else (middle range, range.2)

/-- The half of the range on the other side. -/
def drop (point : Nat) (range : Range) : Range :=
  if point < middle range then (middle range, range.2) else (range.1, middle range)

/-- The range around the point after a number of halvings. -/
def near (point : Nat) (whole : Range) : Nat → Range
  | 0 => whole
  | depth + 1 => keep point (near point whole depth)

/-- The half that the halving at this depth left behind. -/
def far (point : Nat) (whole : Range) (depth : Nat) : Range := drop point (near point whole depth)

/-- The ranges into which a number of halvings around the point cuts the whole. -/
def Block (point : Nat) (whole : Range) (depth : Nat) (range : Range) : Prop :=
  range = near point whole depth ∨ ∃ step, step < depth ∧ range = far point whole step

theorem inside_iff_halves (point other : Nat) (range : Range) (ordered : range.1 ≤ range.2) :
    Inside other range ↔ Inside other (keep point range) ∨ Inside other (drop point range) := by
  have bounds : range.1 ≤ middle range ∧ middle range ≤ range.2 := by
    unfold middle
    omega
  unfold keep drop Inside
  split
  · dsimp only
    omega
  · dsimp only
    omega

theorem drop_excludes_keep (point other : Nat) (range : Range)
    (dropped : Inside other (drop point range)) : ¬ Inside other (keep point range) := by
  intro kept
  by_cases before : point < middle range
  · simp only [keep, drop, Inside, before, ↓reduceIte] at dropped kept
    omega
  · simp only [keep, drop, Inside, before, ↓reduceIte] at dropped kept
    omega

theorem keep_inside (point : Nat) (range : Range) (inside : Inside point range) :
    Inside point (keep point range) := by
  unfold keep Inside at *
  split <;> dsimp only <;> omega

theorem near_inside (point : Nat) (whole : Range) (inside : Inside point whole) (depth : Nat) :
    Inside point (near point whole depth) := by
  induction depth with
  | zero => exact inside
  | succ depth ih => exact keep_inside point _ ih

theorem near_ordered (point : Nat) (whole : Range) (inside : Inside point whole) (depth : Nat) :
    (near point whole depth).1 ≤ (near point whole depth).2 :=
  have holds := near_inside point whole inside depth
  Nat.le_of_lt (Nat.lt_of_le_of_lt holds.1 holds.2)

/-- Halving a range whose width is a power of two loses exactly one power. -/
theorem near_width (point : Nat) (whole : Range) (power : Nat)
    (width : whole.2 = whole.1 + 2 ^ power) :
    ∀ depth, depth ≤ power →
      (near point whole depth).2 = (near point whole depth).1 + 2 ^ (power - depth) := by
  intro depth
  induction depth with
  | zero => intro _; simpa [near] using width
  | succ depth ih =>
      intro bounded
      have before := ih (by omega)
      have halved : 2 ^ (power - depth) = 2 * 2 ^ (power - (depth + 1)) := by
        rw [show power - depth = power - (depth + 1) + 1 by omega, Nat.pow_succ]
        ring
      unfold near keep middle
      split <;> dsimp only <;> omega

theorem far_inside_near (point : Nat) (whole : Range) (inside : Inside point whole) (depth : Nat)
    (other : Nat) (left : Inside other (far point whole depth)) :
    Inside other (near point whole depth) :=
  (inside_iff_halves point other _ (near_ordered point whole inside depth)).mpr (Or.inr left)

theorem near_antitone (point : Nat) (whole : Range) (inside : Inside point whole) (other : Nat)
    {shallow deep : Nat} (le : shallow ≤ deep) (within : Inside other (near point whole deep)) :
    Inside other (near point whole shallow) := by
  induction le with
  | refl => exact within
  | @step deep _ ih =>
      exact ih ((inside_iff_halves point other _ (near_ordered point whole inside deep)).mpr
        (Or.inl within))

theorem far_excludes_near (point : Nat) (whole : Range) (inside : Inside point whole) (other : Nat)
    {step depth : Nat} (lt : step < depth) (left : Inside other (far point whole step)) :
    ¬ Inside other (near point whole depth) := by
  intro within
  exact drop_excludes_keep point other _ left
    (near_antitone point whole inside other (show step + 1 ≤ depth from lt) within)

theorem far_excludes_point (point : Nat) (whole : Range) (inside : Inside point whole)
    (step : Nat) : ¬ Inside point (far point whole step) := fun left =>
  far_excludes_near point whole inside point (Nat.lt_succ_self step) left
    (near_inside point whole inside (step + 1))

/-- A block around the point is the innermost range. -/
theorem Block.eq_near {point : Nat} {whole : Range} {depth : Nat} {range : Range}
    (block : Block point whole depth range) (inside : Inside point whole)
    (holds : Inside point range) : range = near point whole depth := by
  rcases block with same | ⟨step, -, rfl⟩
  · exact same
  · exact absurd holds (far_excludes_point point whole inside step)

/-- A block that does not hold the point was left behind by one of the halvings. -/
theorem Block.eq_far {point : Nat} {whole : Range} {depth : Nat} {range : Range}
    (block : Block point whole depth range) (inside : Inside point whole)
    (away : ¬ Inside point range) : ∃ step, step < depth ∧ range = far point whole step := by
  rcases block with rfl | left
  · exact absurd (near_inside point whole inside depth) away
  · exact left

/-- A block survives every further halving unless it is the one that is cut. -/
theorem Block.succ {point : Nat} {whole : Range} {depth : Nat} {range : Range}
    (block : Block point whole depth range) (uncut : range ≠ near point whole depth) :
    Block point whole (depth + 1) range := by
  rcases block with same | ⟨step, lt, same⟩
  · exact absurd same uncut
  · exact Or.inr ⟨step, by omega, same⟩

/-- The ranges left behind do not depend on how deep the cutting went: a block
of any depth that meets one of them contains all of it. -/
theorem Block.contains_far {point : Nat} {whole : Range} {depth : Nat} {range : Range}
    (block : Block point whole depth range) (inside : Inside point whole) {step shared other : Nat}
    (sharedRange : Inside shared range) (sharedFar : Inside shared (far point whole step))
    (member : Inside other (far point whole step)) : Inside other range := by
  rcases block with rfl | ⟨second, lt, rfl⟩
  · have deep : depth ≤ step := by
      apply Nat.le_of_not_lt
      intro shallow
      exact far_excludes_near point whole inside shared shallow sharedFar sharedRange
    exact near_antitone point whole inside other deep
      (far_inside_near point whole inside step other member)
  · have same : second = step := by
      rcases Nat.lt_trichotomy second step with before | same | after
      · exact absurd (far_inside_near point whole inside step shared sharedFar)
          (far_excludes_near point whole inside shared before sharedRange)
      · exact same
      · exact absurd (far_inside_near point whole inside second shared sharedRange)
          (far_excludes_near point whole inside shared after sharedFar)
    exact same ▸ member

end Bisection
