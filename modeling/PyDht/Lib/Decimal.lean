import Mathlib.Data.Nat.Digits.Lemmas

set_option autoImplicit false

/-! Decimal numerals in ASCII: the numerals without a needless zero in front
are in one-to-one correspondence with the natural numbers. -/

namespace Decimal

def isDigit (byte : UInt8) : Bool := decide (48 ≤ byte ∧ byte ≤ 57)

def digit (value : Nat) : UInt8 := UInt8.ofNat (48 + value)

def digitValue (byte : UInt8) : Nat := byte.toNat - 48

def write (value : Nat) : List UInt8 :=
  if value = 0 then [48] else (Nat.digits 10 value).reverse.map digit

def read (text : List UInt8) : Nat := Nat.ofDigits 10 (text.reverse.map digitValue)

/-- Digits only, at least one, and no zero in front of another digit. -/
structure Canonical (text : List UInt8) : Prop where
  nonempty : text ≠ []
  digits : ∀ byte ∈ text, isDigit byte = true
  noLeadingZero : text.head? = some 48 → text.length = 1

theorem isDigit_iff (byte : UInt8) : isDigit byte = true ↔ 48 ≤ byte.toNat ∧ byte.toNat ≤ 57 := by
  simp [isDigit, UInt8.le_iff_toNat_le]

theorem toNat_digit {value : Nat} (small : value < 10) : (digit value).toNat = 48 + value := by
  simp only [digit, UInt8.toNat_ofNat']
  omega

theorem digitValue_digit {value : Nat} (small : value < 10) : digitValue (digit value) = value := by
  simp [digitValue, toNat_digit small]

theorem digit_digitValue {byte : UInt8} (figure : isDigit byte = true) :
    digit (digitValue byte) = byte := by
  have range := (isDigit_iff byte).mp figure
  apply UInt8.toNat_inj.mp
  have small : digitValue byte < 10 := by
    simp only [digitValue]
    omega
  rw [toNat_digit small]
  simp only [digitValue]
  omega

theorem digitValue_lt {byte : UInt8} (figure : isDigit byte = true) : digitValue byte < 10 := by
  have range := (isDigit_iff byte).mp figure
  simp only [digitValue]
  omega

theorem isDigit_digit {value : Nat} (small : value < 10) : isDigit (digit value) = true := by
  rw [isDigit_iff, toNat_digit small]
  omega

theorem read_write (value : Nat) : read (write value) = value := by
  unfold write
  split
  · rename_i zero
    subst zero
    rfl
  · have back : (Nat.digits 10 value).map (digitValue ∘ digit) = Nat.digits 10 value := by
      conv_rhs => rw [← List.map_id (Nat.digits 10 value)]
      apply List.map_congr_left
      intro figure member
      exact digitValue_digit (Nat.digits_lt_base (by omega) member)
    simp only [read, ← List.map_reverse, List.reverse_reverse, List.map_map, back]
    exact Nat.ofDigits_digits 10 value

theorem write_canonical (value : Nat) : Canonical (write value) := by
  unfold write
  split
  · refine ⟨by simp, fun byte member => ?_, fun _ => rfl⟩
    rw [List.mem_singleton.mp member]
    rfl
  · rename_i positive
    refine ⟨?_, ?_, ?_⟩
    · simpa [Nat.digits_ne_nil_iff_ne_zero] using positive
    · intro byte member
      simp only [List.mem_map, List.mem_reverse] at member
      obtain ⟨figure, inside, rfl⟩ := member
      exact isDigit_digit (Nat.digits_lt_base (by omega) inside)
    · intro leading
      have nonempty : Nat.digits 10 value ≠ [] := Nat.digits_ne_nil_iff_ne_zero.mpr positive
      have last := Nat.getLast_digit_ne_zero 10 positive
      rw [List.head?_map, List.head?_reverse, List.getLast?_eq_some_getLast nonempty,
        Option.map_some, Option.some.injEq] at leading
      have small : (Nat.digits 10 value).getLast nonempty < 10 :=
        Nat.digits_lt_base (by omega) (List.getLast_mem nonempty)
      have zero : (Nat.digits 10 value).getLast nonempty = 0 := by
        have figures := congrArg UInt8.toNat leading
        rw [toNat_digit small] at figures
        simpa using figures
      exact absurd zero last

theorem length_write_le {value figures : Nat} (positive : 0 < figures)
    (small : value < 10 ^ figures) : (write value).length ≤ figures := by
  unfold write
  split
  · exact positive
  · rw [List.length_map, List.length_reverse]
    exact (Nat.digits_length_le_iff (by omega) value).mpr small

theorem length_write_mono {smaller larger : Nat} (below : smaller ≤ larger) :
    (write smaller).length ≤ (write larger).length := by
  unfold write
  by_cases zero : larger = 0
  · rw [if_pos zero, if_pos (by omega)]
  · rw [if_neg zero]
    split
    · rw [List.length_map, List.length_reverse]
      exact List.length_pos_iff.mpr (Nat.digits_ne_nil_iff_ne_zero.mpr zero)
    · simp only [List.length_map, List.length_reverse]
      exact Nat.le_length_digits_le 10 _ _ below

/-- Reading a canonical numeral and writing the value gives the numeral back. -/
theorem write_read {text : List UInt8} (canonical : Canonical text) : write (read text) = text := by
  obtain ⟨nonempty, digits, noLeadingZero⟩ := canonical
  have small : ∀ figure ∈ text.reverse.map digitValue, figure < 10 := by
    intro figure member
    simp only [List.mem_map, List.mem_reverse] at member
    obtain ⟨byte, inside, rfl⟩ := member
    exact digitValue_lt (digits byte inside)
  by_cases leading : text.head? = some 48
  · have single : text = [48] := by
      cases text with
      | nil => exact absurd rfl nonempty
      | cons byte rest =>
          have short := noLeadingZero leading
          simp only [List.head?_cons, Option.some.injEq] at leading
          simp only [List.length_cons] at short
          rw [leading, List.length_eq_zero_iff.mp (by omega : rest.length = 0)]
    subst single
    rfl
  · have figures : Nat.digits 10 (read text) = text.reverse.map digitValue := by
      apply Nat.digits_ofDigits 10 (by omega) _ small
      intro nonzero
      rw [List.getLast_map, List.getLast_reverse]
      have first := digits (text.head nonempty) (List.head_mem nonempty)
      have range := (isDigit_iff _).mp first
      intro zero
      apply leading
      rw [List.head?_eq_some_head nonempty]
      congr 1
      apply UInt8.toNat_inj.mp
      simp only [digitValue] at zero
      have exact48 : (text.head nonempty).toNat = 48 := by omega
      simpa using exact48
    have positive : read text ≠ 0 := by
      intro zero
      rw [zero] at figures
      simp only [Nat.digits_zero] at figures
      exact nonempty (by simpa using figures.symm)
    simp only [write, positive, if_false, figures, ← List.map_reverse, List.reverse_reverse,
      List.map_map]
    conv_rhs => rw [← List.map_id text]
    apply List.map_congr_left
    intro byte member
    exact digit_digitValue (digits byte member)

/-- The numerals of signed numbers: a minus sign stands in front of a positive numeral only. -/
def writeInt (value : Int) : List UInt8 :=
  if value < 0 then 45 :: write value.natAbs else write value.natAbs

def readInt (text : List UInt8) : Int :=
  if text.head? = some 45 then -(read text.tail : Int) else read text

/-- The digits of a numeral behind its sign, if it has one. -/
def unsigned (text : List UInt8) : List UInt8 := if text.head? = some 45 then text.tail else text

structure CanonicalInt (text : List UInt8) : Prop where
  digits : Canonical (unsigned text)
  noNegativeZero : text ≠ [45, 48]

theorem not_sign {text : List UInt8} (canonical : Canonical text) : text.head? ≠ some 45 := by
  intro sign
  have inside : (45 : UInt8) ∈ text := List.mem_of_mem_head? (by simp [sign])
  exact absurd (canonical.digits 45 inside) (by decide)

theorem unsigned_writeInt (value : Int) : unsigned (writeInt value) = write value.natAbs := by
  unfold unsigned writeInt
  split <;> rename_i negative
  · simp
  · simp [not_sign (write_canonical value.natAbs)]

theorem write_eq_zero {value : Nat} (zero : write value = [48]) : value = 0 := by
  rw [← read_write value, zero]
  rfl

theorem canonicalInt_writeInt (value : Int) : CanonicalInt (writeInt value) := by
  constructor
  · rw [unsigned_writeInt]
    exact write_canonical value.natAbs
  · intro same
    unfold writeInt at same
    split at same
    · simp only [List.cons.injEq, true_and] at same
      have zero := write_eq_zero same
      omega
    · exact absurd (by rw [same]; rfl) (not_sign (write_canonical value.natAbs))

theorem readInt_writeInt (value : Int) : readInt (writeInt value) = value := by
  unfold writeInt
  split
  · simp only [readInt, List.head?_cons, if_true, List.tail_cons, read_write]
    omega
  · simp only [readInt, not_sign (write_canonical value.natAbs), if_false, read_write]
    omega

theorem writeInt_readInt {text : List UInt8} (canonical : CanonicalInt text) :
    writeInt (readInt text) = text := by
  obtain ⟨digits, noNegativeZero⟩ := canonical
  unfold readInt
  unfold unsigned at digits
  split at digits
  · rename_i sign
    obtain ⟨first, rest, rfl⟩ : ∃ first rest, text = first :: rest := by
      cases text with
      | nil => simp at sign
      | cons first rest => exact ⟨first, rest, rfl⟩
    simp only [List.head?_cons, Option.some.injEq] at sign
    subst sign
    simp only [List.tail_cons] at digits
    have positive : read rest ≠ 0 := by
      intro zero
      have spelled := write_read digits
      rw [zero] at spelled
      exact noNegativeZero (by rw [← spelled]; rfl)
    have negative : -(read rest : Int) < 0 := by omega
    simp only [List.head?_cons, if_true, List.tail_cons, writeInt, negative, Int.natAbs_neg,
      Int.natAbs_natCast, write_read digits]
  · rename_i noSign
    have natural : ¬ ((read text : Int) < 0) := by omega
    simp only [noSign, if_false, writeInt, natural, Int.natAbs_natCast, write_read digits]

theorem mem_writeInt {value : Int} {byte : UInt8} (member : byte ∈ writeInt value) :
    byte = 45 ∨ isDigit byte = true := by
  have digits := (write_canonical value.natAbs).digits
  unfold writeInt at member
  split at member
  · exact (List.mem_cons.mp member).imp_right (digits byte)
  · exact .inr (digits byte member)

end Decimal
