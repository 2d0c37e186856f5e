import Mathlib.Data.Nat.Find
import Mathlib.Order.Monotone.Basic

set_option autoImplicit false

/-! What grows from step to step is let grow as long as it stays within a limit. -/

namespace Greedy

variable {size other : Nat → Nat} {limit : Nat}

/-- How far a loop gets that takes a step if what comes of it is within the limit, and else stops. -/
def taken (size : Nat → Nat) (limit done : Nat) : Nat → Nat
  | 0 => done
  | left + 1 => if size (done + 1) ≤ limit then taken size limit (done + 1) left else done

/-- The most items whose size is within the limit. -/
def most (size : Nat → Nat) (limit count : Nat) : Nat :=
  Nat.findGreatest (fun index => size index ≤ limit) count

theorem most_le (size : Nat → Nat) (limit count : Nat) : most size limit count ≤ count :=
  Nat.findGreatest_le count

theorem le_most {index count : Nat} (below : index ≤ count) (fit : size index ≤ limit) :
    index ≤ most size limit count := Nat.le_findGreatest below fit

theorem most_all {count : Nat} (fit : size count ≤ limit) : most size limit count = count :=
  Nat.findGreatest_eq fit

theorem most_less {count : Nat} (large : ¬ size (count + 1) ≤ limit) :
    most size limit (count + 1) = most size limit count := Nat.findGreatest_of_not large

theorem most_none (grows : Monotone size) (large : limit < size 0) (count : Nat) :
    most size limit count = 0 := by
  rw [most, Nat.findGreatest_eq_zero_iff]
  intro index _ _ fit
  have least := grows (Nat.zero_le index)
  omega

theorem size_most {count : Nat} (some : size 0 ≤ limit) : size (most size limit count) ≤ limit :=
  @Nat.findGreatest_spec 0 (fun index => size index ≤ limit) _ count (Nat.zero_le count) some

theorem size_most_of_ne_zero {count : Nat} (some : most size limit count ≠ 0) :
    size (most size limit count) ≤ limit :=
  @Nat.findGreatest_of_ne_zero _ (fun index => size index ≤ limit) _ count rfl some

theorem taken_step {done left : Nat} (fit : size (done + 1) ≤ limit) :
    taken size limit done (left + 1) = taken size limit (done + 1) left := if_pos fit

theorem taken_stop {done left : Nat} (large : ¬ size (done + 1) ≤ limit) :
    taken size limit done (left + 1) = done := if_neg large

/-- Where the size grows, the loop gets as far as possible. -/
theorem taken_eq (grows : Monotone size) (done left : Nat) :
    taken size limit done left = max done (most size limit (done + left)) := by
  induction left generalizing done with
  | zero => exact (Nat.max_eq_left (most_le size limit done)).symm
  | succ left ih =>
      by_cases fit : size (done + 1) ≤ limit
      · have further : done + 1 ≤ most size limit (done + (left + 1)) := le_most (by omega) fit
        rw [taken_step fit, ih, Nat.add_assoc, Nat.add_comm 1 left]
        omega
      · have far : most size limit (done + (left + 1)) ≤ done := by
          by_contra beyond
          have reached := size_most_of_ne_zero
            (show most size limit (done + (left + 1)) ≠ 0 by omega)
          have least := grows (show done + 1 ≤ most size limit (done + (left + 1)) by omega)
          omega
        rw [taken_stop fit]
        omega

/-- A loop that starts with nothing takes the most items that fit. -/
theorem taken_most (grows : Monotone size) (count : Nat) :
    taken size limit 0 count = most size limit count := by
  rw [taken_eq grows, Nat.zero_add]
  exact Nat.max_eq_right (Nat.zero_le _)

/-- What is as large as the limit allows in one measure keeps it in another one if no number of
items is too large in that measure alone. -/
theorem most_fits_iff (grows : Monotone other) (least : other 0 ≤ limit) (count : Nat) :
    other (most size limit count) ≤ limit ↔
      ∀ index ≤ count, size index ≤ limit → other index ≤ limit := by
  constructor
  · intro fit index below small
    exact (grows (le_most below small)).trans fit
  · intro each
    by_cases zero : most size limit count = 0
    · rw [zero]
      exact least
    · exact each _ (most_le size limit count) (size_most_of_ne_zero zero)

section pairs

variable {size other : Nat → Nat → Nat} {limit : Nat}

/-- The most extras that fit together with all items, and then the most items that fit with them. -/
def filled (size : Nat → Nat → Nat) (limit items extras : Nat) : Nat × Nat :=
  let added := most (size items) limit extras
  (most (fun item => size item added) limit items, added)

/-- As soon as an extra fits, no item has to go. -/
theorem filled_cases (grows : ∀ item, Monotone (size item)) (items extras : Nat) :
    (size items 0 ≤ limit ∧
      filled size limit items extras = (items, most (size items) limit extras)) ∨
    (limit < size items 0 ∧
      filled size limit items extras = (most (fun item => size item 0) limit items, 0)) := by
  unfold filled
  dsimp only
  by_cases fit : size items 0 ≤ limit
  · left
    have whole : most (fun item => size item (most (size items) limit extras)) limit items =
        items := most_all (size_most fit)
    rw [whole]
    exact ⟨fit, rfl⟩
  · right
    rw [most_none (grows items) (by omega)]
    exact ⟨by omega, rfl⟩

theorem filled_fits_iff (grows : ∀ item, Monotone (size item))
    (otherGrows : ∀ item, Monotone (other item))
    (itemsGrow : ∀ extra, Monotone fun item => other item extra)
    (least : other 0 0 ≤ limit) (items extras : Nat) :
    other (filled size limit items extras).1 (filled size limit items extras).2 ≤ limit ↔
      (∀ item ≤ items, size item 0 ≤ limit → other item 0 ≤ limit) ∧
        ∀ extra ≤ extras, size items extra ≤ limit → other items extra ≤ limit := by
  obtain ⟨fit, same⟩ | ⟨large, same⟩ := @filled_cases size limit grows items extras
  · rw [same]
    constructor
    · intro fits
      have bare : other items 0 ≤ limit := (otherGrows items (Nat.zero_le _)).trans fits
      refine ⟨fun item below _ => (itemsGrow 0 below).trans bare, ?_⟩
      exact (most_fits_iff (otherGrows items) bare extras).mp fits
    · intro each
      exact (most_fits_iff (otherGrows items) (each.1 items (Nat.le_refl _) fit) extras).mpr each.2
  · rw [same]
    have outside : ∀ extra ≤ extras, size items extra ≤ limit → other items extra ≤ limit := by
      intro extra _ fits
      have bare := grows items (Nat.zero_le extra)
      omega
    have fewer : other (most (fun item => size item 0) limit items) 0 ≤ limit ↔
        ∀ item ≤ items, size item 0 ≤ limit → other item 0 ≤ limit :=
      most_fits_iff (itemsGrow 0) least items
    exact fewer.trans (and_iff_left outside).symm

end pairs

end Greedy
