import Mathlib.Data.Bool.AllAny
import Mathlib.Data.List.TakeWhile
import Mathlib.Tactic.Conv

set_option autoImplicit false

/-! Percent-encoded text and the forms that are written with it. -/

namespace Percent

/-- A hexadecimal figure, in capitals. -/
def figure (value : Nat) : Char := Char.ofNat (if value < 10 then 48 + value else 55 + value)

def figureValue (char : Char) : Option Nat :=
  if '0' ≤ char ∧ char ≤ '9' then some (char.toNat - 48)
  else if 'A' ≤ char ∧ char ≤ 'F' then some (char.toNat - 55)
  else if 'a' ≤ char ∧ char ≤ 'f' then some (char.toNat - 87)
  else none

/-- The bytes that stand for themselves everywhere. -/
def unreserved (byte : UInt8) : Bool :=
  decide (48 ≤ byte ∧ byte ≤ 57) || decide (65 ≤ byte ∧ byte ≤ 90) ||
    decide (97 ≤ byte ∧ byte ≤ 122) || [45, 46, 95, 126].contains byte

def letter (byte : UInt8) : Char := Char.ofNat byte.toNat

def escape (byte : UInt8) : List Char :=
  ['%', figure (byte.toNat / 16), figure (byte.toNat % 16)]

/-- The bytes that are not kept are escaped. -/
def quote (kept : UInt8 → Bool) (bytes : List UInt8) : List Char :=
  bytes.flatMap fun byte => if kept byte then [letter byte] else escape byte

/-- A percent sign without two figures behind it stands for itself. -/
def unquote : List Char → List UInt8
  | [] => []
  | [char] => [UInt8.ofNat char.toNat]
  | [char, next] => [UInt8.ofNat char.toNat, UInt8.ofNat next.toNat]
  | char :: high :: low :: rest =>
      match figureValue high, figureValue low with
      | some upper, some lower =>
          if char = '%' then UInt8.ofNat (16 * upper + lower) :: unquote rest
          else UInt8.ofNat char.toNat :: unquote (high :: low :: rest)
      | _, _ => UInt8.ofNat char.toNat :: unquote (high :: low :: rest)

/-- A component of a form, with a plus sign for a blank. -/
def quotePlus (bytes : List UInt8) : List Char :=
  (quote (fun byte => unreserved byte || byte = 32) bytes).map
    fun char => if char = ' ' then '+' else char

def unquotePlus (text : List Char) : List UInt8 :=
  unquote (text.map fun char => if char = '+' then ' ' else char)

def urlencode (fields : List (List UInt8 × List UInt8)) : List Char :=
  ['&'].intercalate (fields.map fun field => quotePlus field.1 ++ '=' :: quotePlus field.2)

/-- The fields of a form. -/
def parse (text : List Char) : List (List UInt8 × List UInt8) :=
  (text.splitOn '&').map fun piece =>
    (unquotePlus (piece.takeWhile (· ≠ '=')), unquotePlus ((piece.dropWhile (· ≠ '=')).drop 1))

/-- The letters of a quoted text: no separator of a URI, a form or a line is among them. -/
def Plain (char : Char) : Prop :=
  char.isAlphanum = true ∨ char = '-' ∨ char = '.' ∨ char = '_' ∨ char = '~' ∨ char = '%'

instance (char : Char) : Decidable (Plain char) := by
  unfold Plain
  infer_instance

end Percent
