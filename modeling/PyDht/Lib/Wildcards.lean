import Mathlib.Data.List.Infix

set_option autoImplicit false

/-! Patterns with a sign for any stretch of a text and a sign for any single letter, over letters
some of which count as the same. -/

/-- The two signs, and what of a letter counts. -/
structure Wildcards (α : Type) where
  many : α
  one : α
  fold : α → α

namespace Wildcards

variable {α : Type} (signs : Wildcards α)

/-- The text is the pattern with any stretch for each `many` and any letter for each `one`. -/
inductive Fills : List α → List α → Prop
  | nil : Fills [] []
  | many {pattern text : List α} (stretch : List α) (rest : Fills pattern text) :
      Fills (signs.many :: pattern) (stretch ++ text)
  | one {pattern text : List α} (letter : α) (rest : Fills pattern text) :
      Fills (signs.one :: pattern) (letter :: text)
  | same {pattern text : List α} {sign letter : α} (other : sign ≠ signs.many)
      (same : signs.fold sign = signs.fold letter) (rest : Fills pattern text) :
      Fills (sign :: pattern) (letter :: text)

/-- Somewhere in the text stands the word. -/
def Occurs (word text : List α) : Prop :=
  ∃ stretch, stretch <:+: text ∧ stretch.map signs.fold = word.map signs.fold

/-- No sign of the word is a wildcard. -/
def Plain (word : List α) : Prop := signs.many ∉ word ∧ signs.one ∉ word

section fills

variable {signs} {pattern other text word : List α}

theorem fills_nil_iff : signs.Fills [] text ↔ text = [] := by
  constructor
  · intro fills
    cases fills
    rfl
  · rintro rfl
    exact .nil

theorem fills_many_iff :
    signs.Fills (signs.many :: pattern) text ↔
      ∃ stretch rest, text = stretch ++ rest ∧ signs.Fills pattern rest := by
  constructor
  · intro fills
    generalize isShape : signs.many :: pattern = shape at fills
    cases fills with
    | nil => cases isShape
    | many stretch rest =>
        cases isShape
        exact ⟨stretch, _, rfl, rest⟩
    | one letter rest =>
        rw [List.cons.inj isShape |>.2]
        exact ⟨[letter], _, rfl, rest⟩
    | same different _ _ => exact absurd (List.cons.inj isShape).1.symm different
  · intro parts
    obtain ⟨stretch, rest, rfl, fills⟩ := parts
    exact .many stretch fills

theorem fills_cons_iff {sign : α} (letter : sign ≠ signs.many) :
    signs.Fills (sign :: pattern) text ↔
      ∃ first rest, text = first :: rest ∧
        (sign = signs.one ∨ signs.fold sign = signs.fold first) ∧ signs.Fills pattern rest := by
  constructor
  · intro fills
    cases fills with
    | many stretch rest => exact absurd rfl letter
    | one first rest => exact ⟨first, _, rfl, .inl rfl, rest⟩
    | same _ same rest => exact ⟨_, _, rfl, .inr same, rest⟩
  · intro parts
    obtain ⟨first, rest, rfl, single | same, fills⟩ := parts
    · rw [single]
      exact .one first fills
    · exact .same letter same fills

/-- A pattern behind another one fills what the other one leaves. -/
theorem fills_append_iff :
    signs.Fills (pattern ++ other) text ↔
      ∃ front back, text = front ++ back ∧ signs.Fills pattern front ∧ signs.Fills other back := by
  constructor
  · intro fills
    induction pattern generalizing text with
    | nil => exact ⟨[], text, rfl, .nil, fills⟩
    | cons sign pattern ih =>
        rw [List.cons_append] at fills
        by_cases wild : sign = signs.many
        · rw [wild] at fills ⊢
          obtain ⟨stretch, rest, rfl, behind⟩ := fills_many_iff.mp fills
          obtain ⟨front, back, rfl, first, last⟩ := ih behind
          exact ⟨stretch ++ front, back, (List.append_assoc _ _ _).symm, .many stretch first, last⟩
        · obtain ⟨letter, rest, rfl, here, behind⟩ := (fills_cons_iff wild).mp fills
          obtain ⟨front, back, rfl, first, last⟩ := ih behind
          exact ⟨letter :: front, back, rfl,
            (fills_cons_iff wild).mpr ⟨letter, front, rfl, here, first⟩, last⟩
  · intro parts
    obtain ⟨front, back, rfl, first, last⟩ := parts
    induction first with
    | nil => exact last
    | many stretch _ ih =>
        rw [List.append_assoc]
        exact .many stretch ih
    | one letter _ ih => exact .one letter ih
    | same different same _ ih => exact .same different same ih

/-- Between two signs for any stretch, a pattern fills a stretch of the text. -/
theorem fills_between_iff :
    signs.Fills (signs.many :: (pattern ++ [signs.many])) text ↔
      ∃ stretch, stretch <:+: text ∧ signs.Fills pattern stretch := by
  constructor
  · intro fills
    obtain ⟨before, rest, rfl, behind⟩ := fills_many_iff.mp fills
    obtain ⟨stretch, after, rfl, fits, _⟩ := fills_append_iff.mp behind
    exact ⟨stretch, ⟨before, after, List.append_assoc _ _ _⟩, fits⟩
  · intro found
    obtain ⟨stretch, ⟨before, after, rfl⟩, fits⟩ := found
    have trailing : signs.Fills [signs.many] after :=
      fills_many_iff.mpr ⟨after, [], (List.append_nil _).symm, .nil⟩
    rw [List.append_assoc]
    exact .many before (fills_append_iff.mpr ⟨stretch, after, rfl, fits, trailing⟩)

/-- A word fills itself, whatever signs it has. -/
theorem fills_of_same (same : text.map signs.fold = word.map signs.fold) :
    signs.Fills word text := by
  induction word generalizing text with
  | nil => exact fills_nil_iff.mpr (List.map_eq_nil_iff.mp same)
  | cons sign word ih =>
      obtain ⟨letter, rest, rfl, here, behind⟩ := List.map_eq_cons_iff.mp same
      by_cases wild : sign = signs.many
      · rw [wild]
        exact fills_many_iff.mpr ⟨[letter], rest, rfl, ih behind⟩
      · exact .same wild here.symm (ih behind)

/-- Without wildcards nothing else fills it. -/
theorem same_of_fills (plain : signs.Plain word) (fills : signs.Fills word text) :
    text.map signs.fold = word.map signs.fold := by
  induction word generalizing text with
  | nil => rw [fills_nil_iff.mp fills]
  | cons sign word ih =>
      obtain ⟨noMany, noOne⟩ := plain
      have wild : sign ≠ signs.many := fun same => noMany (same ▸ List.mem_cons_self)
      obtain ⟨letter, rest, rfl, here, behind⟩ := (fills_cons_iff wild).mp fills
      have further := ih ⟨fun member => noMany (List.mem_cons_of_mem _ member),
        fun member => noOne (List.mem_cons_of_mem _ member)⟩ behind
      obtain single | same := here
      · exact absurd (single ▸ List.mem_cons_self) noOne
      · rw [List.map_cons, List.map_cons, further, same]

variable [DecidableEq α]

/-- The word with a letter in place of each wildcard. -/
def disguised (signs : Wildcards α) (letter : α) (word : List α) : List α :=
  word.map fun sign => if sign = signs.many ∨ sign = signs.one then letter else sign

theorem disguised_fills (signs : Wildcards α) (letter : α) (word : List α) :
    signs.Fills word (disguised signs letter word) := by
  induction word with
  | nil => exact .nil
  | cons sign word ih =>
      rw [disguised, List.map_cons]
      by_cases wild : sign = signs.many
      · rw [if_pos (.inl wild), wild]
        exact .many [letter] ih
      · by_cases single : sign = signs.one
        · rw [if_pos (.inr single), single]
          exact .one letter ih
        · rw [if_neg (not_or.mpr ⟨wild, single⟩)]
          exact .same wild rfl ih

/-- A word with wildcards does not stand in its disguise. -/
theorem not_occurs_disguised {letter : α} (noMany : signs.fold letter ≠ signs.fold signs.many)
    (noOne : signs.fold letter ≠ signs.fold signs.one) (wild : ¬ signs.Plain word) :
    ¬ signs.Occurs word (disguised signs letter word) := by
  intro occurs
  obtain ⟨stretch, inside, same⟩ := occurs
  have lengths := congrArg List.length same
  rw [List.length_map, List.length_map] at lengths
  have whole : stretch = disguised signs letter word := by
    apply inside.eq_of_length
    rw [disguised, List.length_map, lengths]
  rw [whole, disguised, List.map_map, List.map_inj_left] at same
  apply wild
  constructor
  · intro member
    have here := same signs.many member
    rw [Function.comp_apply, if_pos (.inl rfl)] at here
    exact noMany here
  · intro member
    have here := same signs.one member
    rw [Function.comp_apply, if_pos (.inr rfl)] at here
    exact noOne here

end fills

end Wildcards
