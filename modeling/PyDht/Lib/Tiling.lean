import Mathlib.Order.Lattice
import Mathlib.Data.List.Basic

set_option autoImplicit false

namespace Tiling

variable {α β : Type} [LinearOrder α] (low high : β → α)

/-- The half-open range of a block contains a point. -/
def Covers (point : α) (block : β) : Prop := low block ≤ point ∧ point < high block

instance (point : α) (block : β) : Decidable (Covers low high point block) :=
  inferInstanceAs (Decidable (_ ∧ _))

/-- Consecutive non-empty blocks that start at the first bound and end at the second. -/
def Tiles : α → List β → α → Prop
  | lower, [], upper => lower = upper
  | lower, block :: rest, upper =>
      low block = lower ∧ low block < high block ∧ Tiles (high block) rest upper

variable {low high}

@[simp] theorem tiles_nil (lower upper : α) : Tiles low high lower [] upper ↔ lower = upper :=
  Iff.rfl

@[simp] theorem tiles_cons (lower upper : α) (block : β) (rest : List β) :
    Tiles low high lower (block :: rest) upper ↔
      low block = lower ∧ low block < high block ∧ Tiles low high (high block) rest upper :=
  Iff.rfl

theorem tiles_append (lower upper : α) (front back : List β) :
    Tiles low high lower (front ++ back) upper ↔
      ∃ middle, Tiles low high lower front middle ∧ Tiles low high middle back upper := by
  induction front generalizing lower with
  | nil => simp
  | cons block rest ih => simp [ih, and_assoc]

theorem Tiles.le {lower upper : α} {blocks : List β} (tiles : Tiles low high lower blocks upper) :
    lower ≤ upper := by
  induction blocks generalizing lower with
  | nil => exact le_of_eq tiles
  | cons block rest ih =>
      obtain ⟨start, nonempty, remaining⟩ := tiles
      exact start ▸ nonempty.le.trans (ih remaining)

/-- No block reaches outside the tiled range. -/
theorem Tiles.covers_bounds {lower upper : α} {blocks : List β}
    (tiles : Tiles low high lower blocks upper) {block : β} (member : block ∈ blocks) {point : α}
    (covers : Covers low high point block) : lower ≤ point ∧ point < upper := by
  induction blocks generalizing lower with
  | nil => cases member
  | cons first rest ih =>
      obtain ⟨start, nonempty, remaining⟩ := tiles
      rcases List.mem_cons.mp member with rfl | later
      · exact ⟨start ▸ covers.1, covers.2.trans_le remaining.le⟩
      · have inside := ih remaining later
        exact ⟨start ▸ nonempty.le.trans inside.1, inside.2⟩

/-- Every point of the range has a block that covers it, and no other block does. -/
theorem Tiles.decompose {lower upper : α} {blocks : List β}
    (tiles : Tiles low high lower blocks upper) {point : α} (above : lower ≤ point)
    (below : point < upper) :
    ∃ front block back, blocks = front ++ block :: back ∧ Covers low high point block ∧
      (∀ other ∈ front, ¬ Covers low high point other) ∧
      ∀ other ∈ back, ¬ Covers low high point other := by
  induction blocks generalizing lower with
  | nil => exact absurd (tiles ▸ above) (not_le.mpr below)
  | cons first rest ih =>
      obtain ⟨start, nonempty, remaining⟩ := tiles
      by_cases inside : point < high first
      · refine ⟨[], first, rest, rfl, ⟨start ▸ above, inside⟩, by simp, ?_⟩
        intro other member covers
        exact absurd (remaining.covers_bounds member covers).1 (not_le.mpr inside)
      · obtain ⟨front, block, back, rfl, covers, before, after⟩ := ih remaining (not_lt.mp inside)
        refine ⟨first :: front, block, back, rfl, covers, ?_, after⟩
        intro other member
        rcases List.mem_cons.mp member with rfl | later
        · exact fun hit => inside hit.2
        · exact before other later

/-- Every point of the range is covered exactly once. -/
theorem Tiles.count_covers {lower upper : α} {blocks : List β}
    (tiles : Tiles low high lower blocks upper) {point : α} (above : lower ≤ point)
    (below : point < upper) :
    (blocks.filter (fun block => decide (Covers low high point block))).length = 1 := by
  obtain ⟨front, block, back, rfl, covers, before, after⟩ := tiles.decompose above below
  have left : front.filter (fun other => decide (Covers low high point other)) = [] :=
    List.filter_eq_nil_iff.mpr (fun other member => by simpa using before other member)
  have right : back.filter (fun other => decide (Covers low high point other)) = [] :=
    List.filter_eq_nil_iff.mpr (fun other member => by simpa using after other member)
  rw [List.filter_append, List.filter_cons, left, right]
  simp [covers]

/-- Two blocks of a tiling that cover one point are the same block. -/
theorem Tiles.covers_unique {lower upper : α} {blocks : List β}
    (tiles : Tiles low high lower blocks upper) {first second : β} (memberFirst : first ∈ blocks)
    (memberSecond : second ∈ blocks) {point : α} (coversFirst : Covers low high point first)
    (coversSecond : Covers low high point second) : first = second := by
  obtain ⟨above, below⟩ := tiles.covers_bounds memberFirst coversFirst
  obtain ⟨front, block, back, rfl, -, before, after⟩ := tiles.decompose above below
  have only : ∀ other ∈ front ++ block :: back, Covers low high point other → other = block := by
    intro other member covers
    rcases List.mem_append.mp member with member | member
    · exact absurd covers (before other member)
    · rcases List.mem_cons.mp member with same | member
      · exact same
      · exact absurd covers (after other member)
  rw [only first memberFirst coversFirst, only second memberSecond coversSecond]

/-- A block may be exchanged for any tiling of its own range. -/
theorem Tiles.exchange {lower upper : α} {front back : List β} {block : β}
    (tiles : Tiles low high lower (front ++ block :: back) upper) (blocks : List β)
    (inner : Tiles low high (low block) blocks (high block)) :
    Tiles low high lower (front ++ blocks ++ back) upper := by
  obtain ⟨middle, before, start, -, after⟩ := (tiles_append _ _ _ _).mp tiles
  rw [List.append_assoc]
  exact (tiles_append _ _ _ _).mpr
    ⟨middle, before, (tiles_append _ _ _ _).mpr ⟨high block, start ▸ inner, after⟩⟩

/-- Distinct positions of a tiling have ranges without a common point. -/
theorem Tiles.pairwise_disjoint {lower upper : α} {blocks : List β}
    (tiles : Tiles low high lower blocks upper) :
    blocks.Pairwise (fun first second =>
      ∀ point, Covers low high point first → ¬ Covers low high point second) := by
  induction blocks generalizing lower with
  | nil => exact List.Pairwise.nil
  | cons first rest ih =>
      obtain ⟨-, -, remaining⟩ := tiles
      refine List.Pairwise.cons ?_ (ih remaining)
      intro second member point coversFirst coversSecond
      exact absurd (remaining.covers_bounds member coversSecond).1 (not_le.mpr coversFirst.2)

theorem Tiles.nonempty {lower upper : α} {blocks : List β}
    (tiles : Tiles low high lower blocks upper) {block : β} (member : block ∈ blocks) :
    low block < high block := by
  induction blocks generalizing lower with
  | nil => cases member
  | cons first rest ih =>
      rcases List.mem_cons.mp member with rfl | later
      · exact tiles.2.1
      · exact ih tiles.2.2 later

end Tiling
