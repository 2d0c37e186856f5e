import Mathlib.Data.Nat.Digits.Lemmas

set_option autoImplicit false

namespace PyDht

abbrev Bytes := List UInt8

instance : LawfulBEq Bytes := inferInstance

/-- `int.from_bytes(value, "big")`. -/
def fromBytes (value : Bytes) : Nat := Nat.ofDigits 256 (value.reverse.map UInt8.toNat)

theorem fromBytes_lt (value : Bytes) : fromBytes value < 256 ^ value.length := by
  have bound : ∀ digit ∈ value.reverse.map UInt8.toNat, digit < 256 := by
    intro digit member
    obtain ⟨byte, -, rfl⟩ := List.mem_map.mp member
    exact byte.toNat_lt
  simpa [fromBytes] using Nat.ofDigits_lt_base_pow_length (by omega) bound

/-- Byte strings of one length are told apart by the numbers they spell. -/
theorem fromBytes_injective {left right : Bytes} (length : left.length = right.length)
    (same : fromBytes left = fromBytes right) : left = right := by
  have digits : left.reverse.map UInt8.toNat = right.reverse.map UInt8.toNat := by
    apply Nat.ofDigits_inj_of_len_eq (b := 256) (by omega) (by simpa using length)
    · intro digit member
      obtain ⟨byte, -, rfl⟩ := List.mem_map.mp member
      exact byte.toNat_lt
    · intro digit member
      obtain ⟨byte, -, rfl⟩ := List.mem_map.mp member
      exact byte.toNat_lt
    · exact same
  exact List.reverse_injective
    (List.map_injective_iff.mpr (fun _ _ equal => UInt8.toNat_inj.mp equal) digits)

/-- `struct.pack("!H", value)` for a value in range. -/
def packUInt16 (value : Nat) : Bytes := [UInt8.ofNat (value / 256), UInt8.ofNat (value % 256)]

def hexDigit (value : Nat) : Char :=
  if value < 10 then Char.ofNat (48 + value) else Char.ofNat (87 + value)

/-- `bytes.hex()` as characters. -/
def hexChars (value : Bytes) : List Char :=
  value.flatMap (fun byte => [hexDigit (byte.toNat / 16), hexDigit (byte.toNat % 16)])

def hex (value : Bytes) : String := String.ofList (hexChars value)

def hexValue (digit : Char) : Option Nat :=
  if '0' ≤ digit ∧ digit ≤ '9' then some (digit.toNat - 48)
  else if 'a' ≤ digit ∧ digit ≤ 'f' then some (digit.toNat - 87)
  else if 'A' ≤ digit ∧ digit ≤ 'F' then some (digit.toNat - 55)
  else none

def isAsciiSpace (digit : Char) : Bool :=
  digit = ' ' || digit = '\t' || digit = '\n' || digit = '\r' || digit.toNat = 11 ||
    digit.toNat = 12

/-- `bytes.fromhex`: ASCII white space may stand before a pair, never inside one. -/
def fromHexChars : List Char → Option Bytes
  | [] => some []
  | high :: rest =>
      if isAsciiSpace high then fromHexChars rest
      else
        match rest with
        | [] => none
        | low :: remaining =>
            match hexValue high, hexValue low with
            | some top, some bottom =>
                (fromHexChars remaining).map (UInt8.ofNat (16 * top + bottom) :: ·)
            | _, _ => none

def fromHex (text : String) : Option Bytes := fromHexChars text.toList

theorem hexValue_hexDigit : ∀ value < 16, hexValue (hexDigit value) = some value := by
  decide

theorem hexDigit_visible : ∀ value < 16, isAsciiSpace (hexDigit value) = false := by
  decide

theorem fromHexChars_hexChars (value : Bytes) : fromHexChars (hexChars value) = some value := by
  induction value with
  | nil => rfl
  | cons byte rest ih =>
      have range := byte.toNat_lt
      have high : byte.toNat / 16 < 16 := by omega
      have low : byte.toNat % 16 < 16 := by omega
      have whole : 16 * (byte.toNat / 16) + byte.toNat % 16 = byte.toNat := by omega
      have pair : hexChars (byte :: rest) =
          hexDigit (byte.toNat / 16) :: hexDigit (byte.toNat % 16) :: hexChars rest := rfl
      rw [pair, fromHexChars, hexDigit_visible _ high]
      simp [hexValue_hexDigit _ high, hexValue_hexDigit _ low, ih, whole]

@[simp] theorem fromHex_hex (value : Bytes) : fromHex (hex value) = some value := by
  simp [fromHex, hex, String.toList_ofList, fromHexChars_hexChars]

end PyDht
