import Mathlib.Data.List.Basic
import Mathlib.Data.List.TakeWhile

set_option autoImplicit false

/-! Lists cut at separators, and what becomes of the pieces when the list is
trimmed, mapped or reversed. -/

namespace Segments

variable {α β : Type} {separates : α → Bool}

/-- The list without what passes the test at its two ends. -/
def trim (test : α → Bool) (items : List α) : List α :=
  ((items.dropWhile test).reverse.dropWhile test).reverse

theorem mem_of_mem_trim {test : α → Bool} {items : List α} {item : α}
    (member : item ∈ trim test items) : item ∈ items := by
  rw [trim, List.mem_reverse] at member
  have inside := List.mem_reverse.mp ((List.dropWhile_suffix test).mem member)
  exact (List.dropWhile_suffix test).mem inside

/-- What a piece holds is in the list, and is no separator. -/
theorem mem_piece {items piece : List α} {item : α} (cut : piece ∈ items.splitOnP separates)
    (member : item ∈ piece) : item ∈ items ∧ separates item = false := by
  induction items generalizing piece with
  | nil =>
      rw [List.splitOnP_nil, List.mem_singleton] at cut
      rw [cut] at member
      cases member
  | cons first rest ih =>
      rw [List.splitOnP_cons_eq_if_modifyHead] at cut
      by_cases here : separates first
      · rw [if_pos here] at cut
        rcases List.mem_cons.mp cut with same | later
        · rw [same] at member
          cases member
        · have inside := ih later member
          exact ⟨List.mem_cons_of_mem _ inside.1, inside.2⟩
      · rw [if_neg here] at cut
        cases pieces : rest.splitOnP separates with
        | nil => exact absurd pieces (List.splitOnP_ne_nil _ _)
        | cons head tail =>
            rw [pieces, List.modifyHead_cons] at cut
            rw [pieces] at ih
            rcases List.mem_cons.mp cut with same | later
            · rw [same] at member
              rcases List.mem_cons.mp member with found | inner
              · rw [found]
                exact ⟨List.mem_cons_self, by simpa using here⟩
              · have inside := ih List.mem_cons_self inner
                exact ⟨List.mem_cons_of_mem _ inside.1, inside.2⟩
            · have inside := ih (List.mem_cons_of_mem _ later) member
              exact ⟨List.mem_cons_of_mem _ inside.1, inside.2⟩

theorem splitOnP_map (change : α → β) (test : β → Bool) (items : List α) :
    (items.map change).splitOnP test =
      (items.splitOnP fun item => test (change item)).map (List.map change) := by
  induction items with
  | nil => rfl
  | cons first rest ih =>
      rw [List.map_cons, List.splitOnP_cons_eq_if_modifyHead,
        List.splitOnP_cons_eq_if_modifyHead, ih]
      by_cases here : test (change first)
      · rw [if_pos here, if_pos here]
        rfl
      · rw [if_neg here, if_neg here]
        cases rest.splitOnP fun item => test (change item) with
        | nil => rfl
        | cons head tail => rfl

/-- A change that only makes other separators of separators leaves the pieces as they are. -/
theorem splitOnP_map_of_same {change : α → α} {test : α → Bool} (items : List α)
    (same : ∀ item, test (change item) = false → change item = item) :
    (items.map change).splitOnP test = items.splitOnP fun item => test (change item) := by
  rw [splitOnP_map]
  conv_rhs => rw [← List.map_id (items.splitOnP fun item => test (change item))]
  apply List.map_congr_left
  intro piece cut
  conv_rhs => rw [id, ← List.map_id piece]
  apply List.map_congr_left
  intro item member
  exact same item (mem_piece cut member).2

/-- The pieces of the reversed list are the reversed pieces. -/
theorem splitOnP_reverse (items : List α) :
    items.reverse.splitOnP separates =
      ((items.splitOnP separates).map List.reverse).reverse := by
  induction count : items.length using Nat.strongRecOn generalizing items with
  | ind count ih =>
    by_cases whole : ∀ item ∈ items, separates item = false
    · rw [List.splitOnP_eq_singleton whole, List.splitOnP_eq_singleton]
      · rfl
      · intro item member
        exact whole item (List.mem_reverse.mp member)
    · push Not at whole
      obtain ⟨separator, member, separating⟩ := whole
      obtain ⟨front, back, rfl⟩ := List.append_of_mem member
      have isSeparator : separates separator = true := by simpa using separating
      rw [List.length_append, List.length_cons] at count
      rw [List.reverse_append, List.reverse_cons, List.append_assoc, List.singleton_append,
        List.splitOnP_append_cons _ _ isSeparator, List.splitOnP_append_cons _ _ isSeparator,
        ih front.length (by omega) front rfl, ih back.length (by omega) back rfl,
        List.map_append, List.reverse_append]

theorem splitOnP_dropWhile {items : List α} {kept : α} (member : kept ∈ items)
    (apart : separates kept = false) :
    (items.dropWhile separates).splitOnP separates =
      (items.splitOnP separates).dropWhile List.isEmpty := by
  induction items with
  | nil => cases member
  | cons first rest ih =>
      rw [List.splitOnP_cons_eq_if_modifyHead]
      by_cases here : separates first
      · rw [if_pos here, List.dropWhile_cons_of_pos here, List.dropWhile_cons_of_pos rfl]
        apply ih
        rcases List.mem_cons.mp member with same | later
        · rw [same, here] at apart
          cases apart
        · exact later
      · rw [if_neg here, List.dropWhile_cons_of_neg here, List.splitOnP_cons_eq_if_modifyHead,
          if_neg here]
        cases pieces : rest.splitOnP separates with
        | nil => exact absurd pieces (List.splitOnP_ne_nil _ _)
        | cons head tail =>
            rw [List.modifyHead_cons, List.dropWhile_cons_of_neg (by simp)]

/-- Trimming the list trims the list of its pieces. -/
theorem splitOnP_trim {items : List α} {kept : α} (member : kept ∈ items)
    (apart : separates kept = false) :
    (trim separates items).splitOnP separates =
      trim List.isEmpty (items.splitOnP separates) := by
  have stays : kept ∈ (items.dropWhile separates).reverse := by
    rw [List.mem_reverse]
    have whole := List.takeWhile_append_dropWhile (p := separates) (l := items)
    rw [← whole] at member
    rcases List.mem_append.mp member with front | back
    · have passed := List.mem_takeWhile_imp front
      rw [apart] at passed
      cases passed
    · exact back
  have turned : ∀ pieces : List (List α),
      (pieces.map List.reverse).dropWhile List.isEmpty =
        (pieces.dropWhile List.isEmpty).map List.reverse := by
    intro pieces
    rw [List.dropWhile_map]
    congr 2
    funext piece
    simp
  rw [trim, splitOnP_reverse, splitOnP_dropWhile stays apart, splitOnP_reverse,
    splitOnP_dropWhile member apart,
    ← @List.map_reverse _ _ List.reverse ((items.splitOnP separates).dropWhile List.isEmpty),
    turned, List.map_map]
  simp [trim]

theorem splitOn_intercalate [DecidableEq α] (separator : α) {lists : List (List α)}
    (some : lists ≠ []) :
    ([separator].intercalate lists).splitOn separator =
      lists.flatMap (List.splitOn separator) := by
  induction lists with
  | nil => exact absurd rfl some
  | cons first rest ih =>
      by_cases last : rest = []
      · rw [last]
        simp
      · rw [List.intercalate_cons_of_ne_nil last, List.append_assoc, List.singleton_append,
          List.splitOn_append_cons_self, ih last, List.flatMap_cons]

end Segments
