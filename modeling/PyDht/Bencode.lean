import PyDht.Bytes
import PyDht.Exceptions
import PyDht.Lib.Decimal
import Mathlib.Data.List.Sort

set_option autoImplicit false

namespace PyDht

/-- The values that bencode can hold. A dictionary lists its entries in insertion order. -/
inductive Value where
  | int (number : Int)
  | bytes (text : Bytes)
  | list (items : List Value)
  | dict (entries : List (Bytes × Value))
deriving Repr

namespace Bencode

/-- CPython's default bound on the digits that `int` and `str` convert. -/
def maxStrDigits : Nat := 4300

/-- `int(text)` of a numeral, with or without a minus sign. -/
def pyInt (text : Bytes) : Except PyError Int :=
  if maxStrDigits < (Decimal.unsigned text).length then
    .error (.valueError "Exceeds the limit (4300 digits) for integer string conversion")
  else .ok (Decimal.readInt text)

/-- `str(value).encode("ascii")`. -/
def pyStr (value : Int) : Except PyError Bytes :=
  if maxStrDigits < (Decimal.write value.natAbs).length then
    .error (.valueError "Exceeds the limit (4300 digits) for integer string conversion")
  else .ok (Decimal.writeInt value)

structure DecodeLimits where
  maxDepth : Int
  maxItems : Int
  maxStringLength : Int
deriving DecidableEq, Repr

/-- What `_Decoder` holds fixed while it parses: the positions in its error
texts are counted from `size`, the length of the data. -/
structure Decoder where
  size : Nat
  limits : DecodeLimits
  requireSortedKeys : Bool
deriving DecidableEq, Repr

/-- The bytes before the first `stop` and the bytes after it. -/
def cut (stop : UInt8) : Bytes → Option (Bytes × Bytes)
  | [] => none
  | byte :: rest =>
      if byte = stop then some ([], rest)
      else (cut stop rest).map fun parts => (byte :: parts.1, parts.2)

/-- `bytes.isdigit()`. -/
def isDigits (text : Bytes) : Bool := !text.isEmpty && text.all Decimal.isDigit

namespace Decoder

def count (decoder : Decoder) (items : Nat) : Except PyError Nat :=
  if decoder.limits.maxItems < (items + 1 : Nat) then
    .error (.bencodeError "maximum bencode item count exceeded")
  else .ok (items + 1)

/-- `_parse_int`, given what follows the marker. -/
def parseInt (tail : Bytes) : Except PyError (Int × Bytes) :=
  match cut 101 tail with
  | none => .error (.bencodeError "unterminated integer")
  | some (raw, rest) =>
      if raw = [] then .error (.bencodeError "empty integer")
      else if raw = [45, 48] ∨ (raw.head? = some 48 ∧ 1 < raw.length) ∨
          ([45, 48].isPrefixOf raw ∧ 2 < raw.length) then
        .error (.bencodeError "non-canonical integer")
      else if raw = [45] then .error (.bencodeError "invalid integer")
      else if !isDigits (Decimal.unsigned raw) then
        .error (.bencodeError "invalid integer digits")
      else do
        let value ← pyInt raw
        return (value, rest)

/-- `_parse_bytes`, given the data from its position on. -/
def parseBytes (decoder : Decoder) (rest : Bytes) : Except PyError (Bytes × Bytes) :=
  match cut 58 rest with
  | none => .error (.bencodeError "missing byte-string colon")
  | some (rawLen, after) =>
      if rawLen = [] ∨ !isDigits rawLen then
        .error (.bencodeError "invalid byte-string length")
      else if 1 < rawLen.length ∧ rawLen.head? = some 48 then
        .error (.bencodeError "non-canonical byte-string length")
      else do
        let size ← pyInt rawLen
        if decoder.limits.maxStringLength < size then
          .error (.bencodeError "maximum bencode string length exceeded")
        else if (after.length : Int) < size then .error (.bencodeError "truncated byte string")
        else return (after.take size.toNat, after.drop size.toNat)

mutual

/-- `parse` on what is left of the data. The first argument bounds the steps;
with each value come the data after it and the new item count. -/
def parse (decoder : Decoder) :
    Nat → Bytes → Nat → Nat → Except PyError (Value × Bytes × Nat)
  | 0, _, _, _ => .error .stalled
  | steps + 1, rest, depth, items =>
      if decoder.limits.maxDepth < depth then
        .error (.bencodeError "maximum bencode depth exceeded")
      else
        match rest with
        | [] => .error (.bencodeError "unexpected end of bencode")
        | marker :: tail => do
            let items ← decoder.count items
            if marker = 105 then
              let (number, rest) ← parseInt tail
              return (.int number, rest, items)
            else if marker = 108 then decoder.parseItems steps tail depth items []
            else if marker = 100 then decoder.parseEntries steps tail depth items [] none
            else if Decimal.isDigit marker then
              let (text, rest) ← decoder.parseBytes (marker :: tail)
              return (.bytes text, rest, items)
            else
              .error (.bencodeError
                s!"invalid bencode marker at offset {decoder.size - rest.length}")
termination_by structural steps => steps

/-- The loop over the elements of a list. -/
def parseItems (decoder : Decoder) :
    Nat → Bytes → Nat → Nat → List Value → Except PyError (Value × Bytes × Nat)
  | 0, _, _, _, _ => .error .stalled
  | _ + 1, [], _, _, _ => .error (.bencodeError "unterminated list")
  | steps + 1, byte :: tail, depth, items, out =>
      if byte = 101 then .ok (.list out, tail, items)
      else do
        let (value, rest, items) ← decoder.parse steps (byte :: tail) (depth + 1) items
        decoder.parseItems steps rest depth items (out ++ [value])
termination_by structural steps => steps

/-- The loop over the entries of a dictionary. -/
def parseEntries (decoder : Decoder) :
    Nat → Bytes → Nat → Nat → List (Bytes × Value) → Option Bytes →
      Except PyError (Value × Bytes × Nat)
  | 0, _, _, _, _, _ => .error .stalled
  | _ + 1, [], _, _, _, _ => .error (.bencodeError "unterminated dictionary")
  | steps + 1, byte :: tail, depth, items, out, previous =>
      if byte = 101 then .ok (.dict out, tail, items)
      else do
        let items ← decoder.count items
        let (key, rest) ← decoder.parseBytes (byte :: tail)
        if key ∈ out.map Prod.fst then .error (.bencodeError "duplicate dictionary key")
        else if decoder.requireSortedKeys ∧ previous.any (key < ·) then
          .error (.bencodeError "dictionary keys must be strictly sorted")
        else
          let (value, rest, items) ← decoder.parse steps rest (depth + 1) items
          decoder.parseEntries steps rest depth items (out ++ [(key, value)]) (some key)
termination_by structural steps => steps

end

end Decoder

/-- A bound on the steps of a parse: two for each byte are enough. -/
def stepBound (data : Bytes) : Nat := 2 * data.length + 2

/-- `decode_prefix`: the value and the number of bytes it took. -/
def decodePrefix (data : Bytes) (limits : DecodeLimits) (requireSortedKeys : Bool := true) :
    Except PyError (Value × Nat) := do
  let decoder : Decoder := { size := data.length, limits, requireSortedKeys }
  let (value, rest, _) ← decoder.parse (stepBound data) data 0 0
  return (value, data.length - rest.length)

def decode (data : Bytes) (limits : DecodeLimits) (requireSortedKeys : Bool := true) :
    Except PyError Value := do
  let (value, consumed) ← decodePrefix data limits requireSortedKeys
  if consumed ≠ data.length then .error (.bencodeError "trailing data after bencode value")
  else return value

/-- `pairs.sort(key=lambda pair: pair[0])`, a stable sort. -/
def sortPairs {α : Type} (pairs : List (Bytes × α)) : List (Bytes × α) :=
  pairs.insertionSort (fun left right => left.1 ≤ right.1)

def encodeBytes (text : Bytes) : Except PyError Bytes := do
  let size ← pyStr text.length
  return size ++ 58 :: text

/-- The loop of `encode` over the sorted pairs, each with the outcome of encoding its item. -/
def encodePairs : Option Bytes → List (Bytes × Except PyError Bytes) → Except PyError Bytes
  | _, [] => .ok []
  | previous, (key, encoded) :: pairs =>
      if previous = some key then
        .error (.valueError "duplicate dictionary key after encoding")
      else do
        let name ← encodeBytes key
        let item ← encoded
        let remaining ← encodePairs (some key) pairs
        return name ++ item ++ remaining

mutual

/-- `encode` on the values that bencode can hold. -/
def encode : Value → Except PyError Bytes
  | .int number => do
      let digits ← pyStr number
      return 105 :: digits ++ [101]
  | .bytes text => encodeBytes text
  | .list items => do
      let body ← encodeItems items
      return 108 :: body ++ [101]
  | .dict entries => do
      let body ← encodePairs none (sortPairs (encodeEntries entries))
      return 100 :: body ++ [101]

def encodeItems : List Value → Except PyError Bytes
  | [] => .ok []
  | item :: items => do
      let first ← encode item
      let remaining ← encodeItems items
      return first ++ remaining

def encodeEntries : List (Bytes × Value) → List (Bytes × Except PyError Bytes)
  | [] => []
  | (key, item) :: entries => (key, encode item) :: encodeEntries entries

end

end Bencode

end PyDht
