import Mathlib.Data.List.Basic

set_option autoImplicit false

/-! A list in blocks of one size, the last of which may be shorter. -/

namespace Blocks

variable {α : Type} {size total count : Nat}

def block (size : Nat) (items : List α) (index : Nat) : List α :=
  (items.drop (index * size)).take size

/-- The blocks of a list, put together, are the list as far as they go. -/
theorem flatten_block (items : List α) (count : Nat) :
    ((List.range count).map (block size items)).flatten = items.take (count * size) := by
  induction count with
  | zero => simp
  | succ count ih =>
      rw [List.range_succ, List.map_append, List.flatten_append, ih, Nat.succ_mul, List.take_add]
      simp [block]

section pieces

variable {pieces : Nat → List α}

/-- Pieces of the right lengths come to the whole length. -/
theorem length_flatten (sized : ∀ index < count, (pieces index).length =
    min size (total - index * size)) :
    ((List.range count).map pieces).flatten.length = min total (count * size) := by
  induction count with
  | zero => simp
  | succ count ih =>
      have before := ih fun index below => sized index (by omega)
      have last := sized count (by omega)
      rw [List.range_succ, List.map_append, List.flatten_append, List.length_append, before]
      simp only [List.map_cons, List.map_nil, List.flatten_cons, List.flatten_nil, List.append_nil]
      rw [last, Nat.succ_mul]
      omega

/-- Pieces of the right lengths are the blocks of what they are put together to. -/
theorem block_flatten (sized : ∀ index < count, (pieces index).length =
    min size (total - index * size)) {index : Nat} (below : index < count) :
    block size ((List.range count).map pieces).flatten index = pieces index := by
  induction count with
  | zero => omega
  | succ count ih =>
      have earlier : ∀ index < count, (pieces index).length = min size (total - index * size) :=
        fun index below => sized index (by omega)
      have length := length_flatten earlier
      have last := sized count (by omega)
      rw [List.range_succ, List.map_append, List.flatten_append]
      simp only [List.map_cons, List.map_nil, List.flatten_cons, List.flatten_nil, List.append_nil]
      by_cases enough : count * size ≤ total
      · rw [Nat.min_eq_right enough] at length
        by_cases final : index = count
        · rw [final, block, ← length, List.drop_left, List.take_of_length_le (by omega)]
        · have inside : index + 1 ≤ count := by omega
          have fits := Nat.mul_le_mul_right size inside
          rw [Nat.succ_mul] at fits
          rw [← ih earlier (by omega), block, List.drop_append_of_le_length (by omega),
            List.take_append_of_le_length (by rw [List.length_drop]; omega)]
          rfl
      · have nothing : pieces count = [] := by
          apply List.eq_nil_of_length_eq_zero
          omega
        rw [nothing, List.append_nil]
        by_cases final : index = count
        · rw [final, nothing, block, List.drop_of_length_le (by omega), List.take_nil]
        · exact ih earlier (by omega)

end pieces

end Blocks
