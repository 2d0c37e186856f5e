import PyDht.Bytes

set_option autoImplicit false

namespace PyDht

/-- A byte-string literal. -/
def ascii (text : String) : Bytes := text.toList.map fun char => UInt8.ofNat char.toNat

/-- `text.encode("utf-8")`. -/
def encodeUtf8 (text : String) : Bytes := text.toList.flatMap String.utf8EncodeChar

namespace Utf8

def replacement : Char := Char.ofNat 0xFFFD

def isTail (byte : UInt8) : Bool := decide (0x80 ≤ byte ∧ byte ≤ 0xBF)

/-- Whether `second` may follow `first` in a sequence of three or four bytes. -/
def isSecond (first second : UInt8) : Bool :=
  if first = 0xE0 then decide (0xA0 ≤ second ∧ second ≤ 0xBF)
  else if first = 0xED then decide (0x80 ≤ second ∧ second ≤ 0x9F)
  else if first = 0xF0 then decide (0x90 ≤ second ∧ second ≤ 0xBF)
  else if first = 0xF4 then decide (0x80 ≤ second ∧ second ≤ 0x8F)
  else isTail second

/-- The six low bits of a byte that continues a sequence. -/
def low (byte : UInt8) : Nat := byte.toNat % 64

/-- `bytes.decode("utf-8", errors="replace")`: each longest start of a sequence
that is not completed gives one replacement character. -/
def decodeReplace : Bytes → List Char
  | [] => []
  | first :: rest =>
      if first < 0x80 then Char.ofNat first.toNat :: decodeReplace rest
      else if 0xC2 ≤ first ∧ first ≤ 0xDF then
        match rest with
        | second :: after =>
            if isTail second then
              Char.ofNat (first.toNat % 32 * 64 + low second) :: decodeReplace after
            else replacement :: decodeReplace (second :: after)
        | [] => [replacement]
      else if 0xE0 ≤ first ∧ first ≤ 0xF4 then
        match rest with
        | second :: after =>
            if isSecond first second then
              match after with
              | third :: behind =>
                  if isTail third then
                    if first ≤ 0xEF then
                      Char.ofNat ((first.toNat % 16 * 64 + low second) * 64 + low third) ::
                        decodeReplace behind
                    else
                      match behind with
                      | fourth :: last =>
                          if isTail fourth then
                            Char.ofNat (((first.toNat % 8 * 64 + low second) * 64 + low third) * 64 +
                              low fourth) :: decodeReplace last
                          else replacement :: decodeReplace (fourth :: last)
                      | [] => [replacement]
                  else replacement :: decodeReplace (third :: behind)
              | [] => [replacement]
            else replacement :: decodeReplace (second :: after)
        | [] => [replacement]
      else replacement :: decodeReplace rest

end Utf8

/-- `bytes.decode("ascii", "replace")`. -/
def decodeAscii (text : Bytes) : String :=
  String.ofList (text.map fun byte =>
    if byte < 0x80 then Char.ofNat byte.toNat else Utf8.replacement)

end PyDht
