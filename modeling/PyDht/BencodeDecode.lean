import PyDht.BencodeEncode

set_option autoImplicit false

namespace PyDht

namespace Bencode

open Value

theorem cut_eq_some_iff (stop : UInt8) (text before after : Bytes) :
    cut stop text = some (before, after) ↔ text = before ++ stop :: after ∧ stop ∉ before := by
  induction text generalizing before after with
  | nil => simp [cut]
  | cons byte rest ih =>
      by_cases here : byte = stop
      · subst here
        cases before with
        | nil => simp [cut]
        | cons first more =>
            simp only [cut, if_true, List.cons_append, List.cons.injEq, List.mem_cons]
            constructor
            · intro impossible
              simp at impossible
            · rintro ⟨⟨same, -⟩, absent⟩
              exact absurd (.inl same) absent
      · simp only [cut, here, if_false, Option.map_eq_some_iff, Prod.mk.injEq, Prod.exists, ih]
        cases before with
        | nil => simp [here]
        | cons first more =>
            simp only [List.cons.injEq, List.cons_append, List.mem_cons]
            constructor
            · rintro ⟨_, _, ⟨split, absent⟩, ⟨rfl, rfl⟩, rfl⟩
              exact ⟨⟨rfl, split⟩, not_or.mpr ⟨fun same => here same.symm, absent⟩⟩
            · rintro ⟨⟨rfl, split⟩, absent⟩
              exact ⟨more, after, ⟨split, (not_or.mp absent).2⟩, ⟨rfl, rfl⟩, rfl⟩

theorem pyInt_ok_iff {text : Bytes} {value : Int} :
    pyInt text = .ok value ↔
      (Decimal.unsigned text).length ≤ maxStrDigits ∧ Decimal.readInt text = value := by
  unfold pyInt
  split
  · rename_i long
    simp only [reduceCtorEq, false_iff]
    omega
  · simp only [Except.ok.injEq, iff_and_self]
    omega

theorem isDigits_iff (text : Bytes) :
    isDigits text = true ↔ text ≠ [] ∧ ∀ byte ∈ text, Decimal.isDigit byte = true := by
  simp [isDigits]

/-- The tests of `_parse_int` single out the canonical numerals. -/
theorem canonicalInt_iff (raw : Bytes) :
    Decimal.CanonicalInt raw ↔
      raw ≠ [] ∧ ¬ (raw = [45, 48] ∨ (raw.head? = some 48 ∧ 1 < raw.length) ∨
        ([45, 48].isPrefixOf raw ∧ 2 < raw.length)) ∧ raw ≠ [45] ∧
        isDigits (Decimal.unsigned raw) = true := by
  rw [isDigits_iff]
  by_cases sign : raw.head? = some 45
  · obtain ⟨rest, rfl⟩ : ∃ rest, raw = 45 :: rest := by
      cases raw with
      | nil => simp at sign
      | cons first rest =>
          simp only [List.head?_cons, Option.some.injEq] at sign
          exact ⟨rest, by rw [sign]⟩
    constructor
    · rintro ⟨⟨nonempty, digits, noLeadingZero⟩, noNegativeZero⟩
      simp only [Decimal.unsigned, List.head?_cons, if_true, List.tail_cons] at *
      cases rest with
      | nil => exact absurd rfl nonempty
      | cons first more =>
          simp only [List.head?_cons, Option.some.injEq, List.length_cons] at noLeadingZero
          refine ⟨by simp, ?_, by simp, by simp, digits⟩
          rintro (same | ⟨zero, -⟩ | ⟨leading, long⟩)
          · exact noNegativeZero same
          · simp at zero
          · simp at leading long
            have := noLeadingZero leading.symm
            omega
    · rintro ⟨-, canonical, -, nonempty, digits⟩
      simp only [Decimal.unsigned, List.head?_cons, if_true, List.tail_cons, not_or] at *
      obtain ⟨noNegativeZero, -, noLeadingZero⟩ := canonical
      refine ⟨⟨?_, ?_, ?_⟩, noNegativeZero⟩
      · simpa [Decimal.unsigned] using nonempty
      · simpa [Decimal.unsigned] using digits
      · intro leading
        simp only [Decimal.unsigned, List.head?_cons, if_true, List.tail_cons] at leading ⊢
        cases rest with
        | nil => exact absurd rfl nonempty
        | cons first more =>
            simp only [List.head?_cons, Option.some.injEq] at leading
            subst leading
            simp at noLeadingZero noNegativeZero ⊢
            exact noLeadingZero
  · have whole : Decimal.unsigned raw = raw := by simp [Decimal.unsigned, sign]
    have noMinus : ¬ ([45, 48].isPrefixOf raw = true) := by
      intro minus
      cases raw with
      | nil => simp at minus
      | cons first rest =>
          simp only [List.isPrefixOf, Bool.and_eq_true, beq_iff_eq] at minus
          exact sign (by rw [← minus.1]; rfl)
    rw [whole]
    constructor
    · rintro ⟨digits, noNegativeZero⟩
      rw [whole] at digits
      refine ⟨digits.nonempty, ?_, ?_, digits.nonempty, digits.digits⟩
      · rintro (same | ⟨leading, long⟩ | ⟨minus, -⟩)
        · exact noNegativeZero same
        · have := digits.noLeadingZero leading
          omega
        · exact noMinus minus
      · rintro rfl
        exact sign rfl
    · rintro ⟨nonempty, canonical, -, -, digits⟩
      refine ⟨?_, fun same => canonical (.inl same)⟩
      rw [whole]
      refine ⟨nonempty, digits, ?_⟩
      intro leading
      have positive := List.length_pos_iff.mpr nonempty
      have short : ¬ 1 < raw.length := fun long => canonical (.inr (.inl ⟨leading, long⟩))
      omega

namespace Decoder

theorem parseInt_ok_iff (tail rest : Bytes) (number : Int) :
    parseInt tail = .ok (number, rest) ↔
      (Value.int number).ShortInteger ∧ tail = Decimal.writeInt number ++ 101 :: rest := by
  unfold parseInt
  constructor
  · intro parsed
    split at parsed
    · simp at parsed
    · rename_i raw after found
      have tests := canonicalInt_iff raw
      split at parsed <;> try contradiction
      rename_i nonempty
      split at parsed <;> try contradiction
      rename_i canonical
      split at parsed <;> try contradiction
      rename_i notSign
      split at parsed <;> try contradiction
      rename_i digits
      have isCanonical := tests.mpr ⟨nonempty, canonical, notSign, by simpa using digits⟩
      simp only [bind_ok_iff, pure_ok_iff, pyInt_ok_iff, Prod.mk.injEq] at parsed
      obtain ⟨_, ⟨short, rfl⟩, rfl, rfl⟩ := parsed
      have spelled := Decimal.writeInt_readInt isCanonical
      refine ⟨?_, ?_⟩
      · rw [← spelled, Decimal.unsigned_writeInt] at short
        exact short
      · rw [spelled]
        exact ((cut_eq_some_iff _ _ _ _).mp found).1
  · rintro ⟨short, rfl⟩
    have noStop : (101 : UInt8) ∉ Decimal.writeInt number := by
      intro member
      rcases Decimal.mem_writeInt member with same | digit
      · exact absurd same (by decide)
      · exact absurd digit (by decide)
    have found := (cut_eq_some_iff 101 _ _ rest).mpr ⟨rfl, noStop⟩
    obtain ⟨nonempty, canonical, notSign, digits⟩ :=
      (canonicalInt_iff _).mp (Decimal.canonicalInt_writeInt number)
    have read : pyInt (Decimal.writeInt number) = .ok number :=
      pyInt_ok_iff.mpr ⟨by rw [Decimal.unsigned_writeInt]; exact short,
        Decimal.readInt_writeInt number⟩
    simp only [found, nonempty, canonical, notSign, digits, if_false, Bool.not_true,
      Bool.false_eq_true, read]
    rfl

theorem parseBytes_ok_iff (decoder : Decoder) (data text rest : Bytes) :
    decoder.parseBytes data = .ok (text, rest) ↔
      ShortLength text ∧ (text.length : Int) ≤ decoder.limits.maxStringLength ∧
        data = writeBytes text ++ rest := by
  unfold parseBytes
  constructor
  · intro parsed
    split at parsed
    · simp at parsed
    · rename_i raw after found
      split at parsed <;> try contradiction
      rename_i figures
      split at parsed <;> try contradiction
      rename_i canonical
      rw [not_or, Bool.not_eq_true', Bool.not_eq_false] at figures
      rw [not_and'] at canonical
      have digits := (isDigits_iff raw).mp figures.2
      have isCanonical : Decimal.Canonical raw := by
        refine ⟨figures.1, digits.2, ?_⟩
        intro leading
        have positive := List.length_pos_iff.mpr figures.1
        have := canonical leading
        omega
      have natural := Decimal.not_sign isCanonical
      have value : Decimal.readInt raw = Decimal.read raw := by
        simp [Decimal.readInt, natural]
      have whole : Decimal.unsigned raw = raw := by
        simp [Decimal.unsigned, natural]
      simp only [bind_ok_iff, pyInt_ok_iff, value, whole] at parsed
      obtain ⟨_, ⟨short, rfl⟩, parsed⟩ := parsed
      split at parsed <;> try contradiction
      rename_i fits
      split at parsed <;> try contradiction
      rename_i complete
      simp only [pure_ok_iff, Int.toNat_natCast, Prod.mk.injEq] at parsed
      obtain ⟨rfl, rfl⟩ := parsed
      have length : (after.take (Decimal.read raw)).length = Decimal.read raw := by
        rw [List.length_take]
        omega
      refine ⟨?_, by omega, ?_⟩
      · rw [ShortLength, length, Decimal.write_read isCanonical]
        exact short
      · rw [writeBytes, length, Decimal.write_read isCanonical, List.append_assoc,
          List.cons_append, List.take_append_drop]
        exact ((cut_eq_some_iff _ _ _ _).mp found).1
  · rintro ⟨short, fits, rfl⟩
    have canonical := Decimal.write_canonical text.length
    have natural := Decimal.not_sign canonical
    have noStop : (58 : UInt8) ∉ Decimal.write text.length := by
      intro member
      exact absurd (canonical.digits 58 member) (by decide)
    have found := (cut_eq_some_iff 58 _ _ (text ++ rest)).mpr ⟨rfl, noStop⟩
    have digits := (isDigits_iff _).mpr ⟨canonical.nonempty, canonical.digits⟩
    have read : pyInt (Decimal.write text.length) = .ok (text.length : Int) := by
      apply pyInt_ok_iff.mpr
      simp only [Decimal.unsigned, Decimal.readInt, natural, if_false, Decimal.read_write,
        and_true]
      exact short
    have single : ¬ (1 < (Decimal.write text.length).length ∧
        (Decimal.write text.length).head? = some 48) := by
      rintro ⟨long, leading⟩
      have := canonical.noLeadingZero leading
      omega
    have within : ¬ decoder.limits.maxStringLength < (text.length : Int) := by omega
    have complete : ¬ (((text ++ rest).length : Int) < (text.length : Int)) := by
      rw [List.length_append]
      omega
    simp only [writeBytes, List.append_assoc, List.cons_append, found, canonical.nonempty, digits,
      single, if_false, Bool.not_true, Bool.false_eq_true, or_self, read, bind, Except.bind,
      within, complete, Int.toNat_natCast, List.take_left, List.drop_left]
    rfl

theorem count_ok_iff (decoder : Decoder) (items counted : Nat) :
    decoder.count items = .ok counted ↔
      (counted : Int) ≤ decoder.limits.maxItems ∧ counted = items + 1 := by
  unfold count
  split
  · simp only [reduceCtorEq, false_iff]
    omega
  · simp only [Except.ok.injEq]
    omega

/-- What the decoder demands of a value at the given depth, the item count apart. -/
def Admits (decoder : Decoder) (depth : Nat) (node : Value) : Prop :=
  (depth : Int) ≤ decoder.limits.maxDepth ∧ Convertible node ∧
    (∀ text ∈ node.texts, (text.length : Int) ≤ decoder.limits.maxStringLength) ∧
    node.keys.Nodup ∧ (decoder.requireSortedKeys → node.keys.Pairwise (· ≤ ·))

theorem isDigit_not_marker {byte : UInt8} (digit : Decimal.isDigit byte = true) :
    byte ≠ 105 ∧ byte ≠ 108 ∧ byte ≠ 100 ∧ byte ≠ 101 := by
  refine ⟨?_, ?_, ?_, ?_⟩ <;> rintro rfl <;> exact absurd digit (by decide)

theorem writeBytes_head (text : Bytes) :
    ∃ first rest, writeBytes text = first :: rest ∧ Decimal.isDigit first = true := by
  have canonical := Decimal.write_canonical text.length
  cases spelled : Decimal.write text.length with
  | nil => exact absurd spelled canonical.nonempty
  | cons first rest =>
      refine ⟨first, rest ++ 58 :: text, by simp [writeBytes, spelled], ?_⟩
      exact canonical.digits first (by simp [spelled])

theorem write_head (value : Value) :
    ∃ first rest, value.write = first :: rest ∧ first ≠ 101 := by
  cases value with
  | int number => exact ⟨105, _, rfl, by decide⟩
  | bytes text =>
      obtain ⟨first, rest, spelled, digit⟩ := writeBytes_head text
      exact ⟨first, rest, spelled, (isDigit_not_marker digit).2.2.2⟩
  | list items => exact ⟨108, _, rfl, by decide⟩
  | dict entries => exact ⟨100, _, rfl, by decide⟩

theorem pairwise_concat {keys : List Bytes} {key : Bytes} (ordered : keys.Pairwise (· ≤ ·))
    (last : ∀ previous, keys.getLast? = some previous → previous ≤ key) :
    (keys ++ [key]).Pairwise (· ≤ ·) := by
  rw [List.pairwise_append]
  refine ⟨ordered, List.pairwise_singleton _ _, ?_⟩
  intro earlier member other isKey
  rw [List.mem_singleton.mp isKey]
  rcases List.eq_nil_or_concat keys with rfl | ⟨front, previous, rfl⟩
  · simp at member
  · have below := last previous (by simp)
    rw [List.concat_eq_append] at ordered member
    rcases List.mem_append.mp member with inFront | isLast
    · have step := (List.pairwise_append.mp ordered).2.2 earlier inFront previous (by simp)
      exact List.le_trans step below
    · rw [List.mem_singleton.mp isLast]
      exact below

/-- The keys a dictionary loop adds to the ones it has are all different, and
in strict mode they go on in ascending order. -/
structure Extends (decoder : Decoder) (out more : List (Bytes × Value)) : Prop where
  distinct : (out.map Prod.fst).Nodup → ((out ++ more).map Prod.fst).Nodup
  sorted : decoder.requireSortedKeys → (out.map Prod.fst).Pairwise (· ≤ ·) →
    ((out ++ more).map Prod.fst).Pairwise (· ≤ ·)

theorem Extends.cons {decoder : Decoder} {out more : List (Bytes × Value)} {key : Bytes}
    {item : Value} (fresh : key ∉ out.map Prod.fst)
    (inOrder : ¬ (decoder.requireSortedKeys = true ∧
      ((out.getLast?).map Prod.fst).any (key < ·) = true))
    (later : Extends decoder (out ++ [(key, item)]) more) :
    Extends decoder out ((key, item) :: more) := by
  obtain ⟨distinct, sorted⟩ := later
  simp only [List.append_assoc, List.singleton_append] at distinct sorted
  constructor
  · intro before
    apply distinct
    rw [List.map_append, List.nodup_append]
    refine ⟨before, by simp, ?_⟩
    rintro other member _ isKey rfl
    simp only [List.map_cons, List.map_nil, List.mem_singleton] at isKey
    exact fresh (isKey ▸ member)
  · intro strict before
    apply sorted strict
    rw [List.map_append]
    apply pairwise_concat before
    intro previous isLast
    rw [List.getLast?_map] at isLast
    rw [isLast] at inOrder
    simp only [strict, Option.any_some, decide_eq_true_eq, true_and] at inOrder
    exact List.not_lt.mp inOrder

mutual

theorem parse_sound (decoder : Decoder) :
    ∀ (steps : Nat) (data : Bytes) (depth items : Nat) (value : Value) (rest : Bytes)
      (counted : Nat), decoder.parse steps data depth items = .ok (value, rest, counted) →
      data = value.write ++ rest ∧ counted = items + value.count ∧
        (counted : Int) ≤ decoder.limits.maxItems ∧ value.Every decoder.Admits depth
  | 0, _, _, _, _, _, _, parsed => by simp [parse] at parsed
  | steps + 1, [], depth, _, _, _, _, parsed => by
      unfold parse at parsed
      split at parsed <;> simp at parsed
  | steps + 1, marker :: tail, depth, items, value, rest, counted, parsed => by
      unfold parse at parsed
      split at parsed
      · simp at parsed
      rename_i shallow
      simp only [bind_ok_iff, count_ok_iff] at parsed
      obtain ⟨_, ⟨room, rfl⟩, parsed⟩ := parsed
      split at parsed
      · rename_i integer
        simp only [bind_ok_iff, pure_ok_iff, Prod.mk.injEq] at parsed
        obtain ⟨⟨number, after⟩, numeral, rfl, rfl, rfl⟩ := parsed
        obtain ⟨short, rfl⟩ := (parseInt_ok_iff _ _ _).mp numeral
        refine ⟨by simp [write, integer], rfl, room, ?_⟩
        exact ⟨by omega, ⟨short, by simp [texts, keys]⟩, by simp [texts, keys],
          List.Pairwise.nil, fun _ => List.Pairwise.nil⟩
      split at parsed
      · rename_i list
        obtain ⟨more, rfl, rfl, rfl, within, every⟩ :=
          parseItems_sound decoder steps tail depth _ [] value rest counted parsed room
        refine ⟨by simp [write, list], ?_, within, ?_, every⟩
        · simp only [Value.count, List.nil_append]
          omega
        · exact ⟨by omega, ⟨trivial, by simp [texts, keys]⟩, by simp [texts, keys],
            List.Pairwise.nil, fun _ => List.Pairwise.nil⟩
      split at parsed
      · rename_i dict
        obtain ⟨more, rfl, rfl, rfl, within, added, names, every⟩ :=
          parseEntries_sound decoder steps tail depth _ [] none value rest counted parsed room rfl
        refine ⟨by simp [write, dict], ?_, within, ?_, every⟩
        · simp only [Value.count, List.nil_append]
          omega
        · refine ⟨by omega, ⟨trivial, ?_⟩, ?_, added.distinct List.nodup_nil,
            fun strict => added.sorted strict List.Pairwise.nil⟩
          · simpa [texts, keys] using fun text item member => (names (text, item) member).1
          · simpa [texts, keys] using fun text item member => (names (text, item) member).2
      split at parsed
      · rename_i digit
        simp only [bind_ok_iff, pure_ok_iff, Prod.mk.injEq] at parsed
        obtain ⟨⟨text, after⟩, string, rfl, rfl, rfl⟩ := parsed
        obtain ⟨short, fits, spelled⟩ := (parseBytes_ok_iff _ _ _ _).mp string
        refine ⟨spelled, rfl, room, ?_⟩
        refine ⟨by omega, ⟨trivial, ?_⟩, ?_, List.Pairwise.nil, fun _ => List.Pairwise.nil⟩
        · simpa [texts] using short
        · simpa [texts] using fits
      · simp at parsed

theorem parseItems_sound (decoder : Decoder) :
    ∀ (steps : Nat) (data : Bytes) (depth items : Nat) (out : List Value) (value : Value)
      (rest : Bytes) (counted : Nat),
      decoder.parseItems steps data depth items out = .ok (value, rest, counted) →
      (items : Int) ≤ decoder.limits.maxItems →
      ∃ more, value = .list (out ++ more) ∧ data = writeItems more ++ 101 :: rest ∧
        counted = items + countItems more ∧ (counted : Int) ≤ decoder.limits.maxItems ∧
        EveryItem decoder.Admits (depth + 1) more
  | 0, _, _, _, _, _, _, _, parsed, _ => by simp [parseItems] at parsed
  | _ + 1, [], _, _, _, _, _, _, parsed, _ => by simp [parseItems] at parsed
  | steps + 1, byte :: tail, depth, items, out, value, rest, counted, parsed, room => by
      unfold parseItems at parsed
      split at parsed
      · rename_i close
        simp only [Except.ok.injEq, Prod.mk.injEq] at parsed
        obtain ⟨rfl, rfl, rfl⟩ := parsed
        exact ⟨[], by simp, by simp [writeItems, close], by simp [countItems], room, trivial⟩
      · simp only [bind_ok_iff] at parsed
        obtain ⟨⟨item, after, reached⟩, first, parsed⟩ := parsed
        obtain ⟨spelled, rfl, within, every⟩ :=
          parse_sound decoder steps _ _ _ item after reached first
        obtain ⟨more, rfl, rfl, rfl, final, others⟩ :=
          parseItems_sound decoder steps after depth _ _ value rest counted parsed within
        refine ⟨item :: more, by simp, ?_, ?_, final, every, others⟩
        · simp [writeItems, spelled]
        · simp only [countItems]
          omega

theorem parseEntries_sound (decoder : Decoder) :
    ∀ (steps : Nat) (data : Bytes) (depth items : Nat) (out : List (Bytes × Value))
      (previous : Option Bytes) (value : Value) (rest : Bytes) (counted : Nat),
      decoder.parseEntries steps data depth items out previous = .ok (value, rest, counted) →
      (items : Int) ≤ decoder.limits.maxItems → previous = out.getLast?.map Prod.fst →
      ∃ more, value = .dict (out ++ more) ∧ data = writeEntries more ++ 101 :: rest ∧
        counted = items + countEntries more ∧ (counted : Int) ≤ decoder.limits.maxItems ∧
        Extends decoder out more ∧
        (∀ entry ∈ more, ShortLength entry.1 ∧
          (entry.1.length : Int) ≤ decoder.limits.maxStringLength) ∧
        EveryEntry decoder.Admits (depth + 1) more
  | 0, _, _, _, _, _, _, _, _, parsed, _, _ => by simp [parseEntries] at parsed
  | _ + 1, [], _, _, _, _, _, _, _, parsed, _, _ => by simp [parseEntries] at parsed
  | steps + 1, byte :: tail, depth, items, out, previous, value, rest, counted, parsed, room,
      last => by
      unfold parseEntries at parsed
      split at parsed
      · rename_i close
        simp only [Except.ok.injEq, Prod.mk.injEq] at parsed
        obtain ⟨rfl, rfl, rfl⟩ := parsed
        refine ⟨[], by simp, by simp [writeEntries, close], by simp [countEntries], room, ?_,
          by simp, trivial⟩
        exact ⟨by simp, by simp⟩
      · simp only [bind_ok_iff, count_ok_iff] at parsed
        obtain ⟨_, ⟨_, rfl⟩, ⟨key, afterKey⟩, name, parsed⟩ := parsed
        obtain ⟨short, fits, spelledKey⟩ := (parseBytes_ok_iff _ _ _ _).mp name
        split at parsed
        · simp at parsed
        rename_i fresh
        split at parsed
        · simp at parsed
        rename_i inOrder
        simp only [bind_ok_iff] at parsed
        obtain ⟨⟨item, after, reached⟩, first, parsed⟩ := parsed
        obtain ⟨rfl, rfl, within, every⟩ :=
          parse_sound decoder steps _ _ _ item after reached first
        obtain ⟨more, rfl, rfl, rfl, final, added, names, others⟩ :=
          parseEntries_sound decoder steps after depth _ _ _ value rest counted parsed within
            (by simp)
        rw [last] at inOrder
        refine ⟨(key, item) :: more, by simp, ?_, ?_, final, added.cons fresh inOrder, ?_,
          every, others⟩
        · simp [writeEntries, spelledKey]
        · simp only [countEntries]
          omega
        · simpa using ⟨⟨short, fits⟩, fun key item member => names (key, item) member⟩

end

theorem count_ok {decoder : Decoder} {items : Nat}
    (room : ((items + 1 : Nat) : Int) ≤ decoder.limits.maxItems) :
    decoder.count items = .ok (items + 1) := (count_ok_iff decoder items _).mpr ⟨room, rfl⟩

/-- The decoder reads back what `write` spells, given room for its values and steps. -/
def ReadsBack (decoder : Decoder) (depth : Nat) (value : Value) : Prop :=
  ∀ (steps items : Nat) (rest : Bytes),
    ((items + value.count : Nat) : Int) ≤ decoder.limits.maxItems → value.write.length ≤ steps →
      decoder.parse steps (value.write ++ rest) depth items =
        .ok (value, rest, items + value.count)

theorem write_pos (value : Value) : 1 ≤ value.write.length := by
  obtain ⟨first, others, written, -⟩ := write_head value
  rw [written, List.length_cons]
  omega

theorem length_le_writeItems (items : List Value) : items.length ≤ (writeItems items).length := by
  induction items with
  | nil => exact Nat.le_refl 0
  | cons item items ih =>
      have here := write_pos item
      rw [writeItems, List.length_append, List.length_cons]
      omega

theorem length_le_writeEntries (entries : List (Bytes × Value)) :
    entries.length ≤ (writeEntries entries).length := by
  induction entries with
  | nil => exact Nat.le_refl 0
  | cons entry entries ih =>
      have here := write_pos entry.2
      rw [writeEntries, List.length_append, List.length_append, List.length_cons]
      omega

/-- The loop of a list steps over the items that are spelled there. -/
theorem parseItems_open {decoder : Decoder} {depth : Nat} {more : List Value}
    (each : ∀ item ∈ more, decoder.ReadsBack (depth + 1) item) (steps items : Nat)
    (out : List Value) (rest : Bytes)
    (room : ((items + countItems more : Nat) : Int) ≤ decoder.limits.maxItems)
    (enough : (writeItems more).length < steps) :
    ∃ left, steps = left + more.length ∧
      decoder.parseItems steps (writeItems more ++ rest) depth items out =
        decoder.parseItems left rest depth (items + countItems more) (out ++ more) := by
  induction more generalizing steps items out with
  | nil => exact ⟨steps, rfl, by simp [writeItems, countItems]⟩
  | cons item more ih =>
      simp only [List.forall_mem_cons] at each
      simp only [countItems, writeItems, List.length_append] at room enough ⊢
      obtain ⟨first, spelling, spelled, notClose⟩ := write_head item
      have positive := write_pos item
      cases steps with
      | zero => omega
      | succ steps =>
          have head := each.1 steps items (writeItems more ++ rest) (by omega) (by omega)
          obtain ⟨left, rfl, tail⟩ :=
            ih each.2 steps (items + item.count) (out ++ [item]) (by omega) (by omega)
          refine ⟨left, by rw [List.length_cons]; omega, ?_⟩
          rw [spelled] at head ⊢
          simp only [List.cons_append, List.append_assoc] at head ⊢
          rw [parseItems, if_neg notClose, head]
          simp only [Bind.bind, Except.bind, tail, List.append_assoc, List.singleton_append,
            Nat.add_assoc]

theorem parseItems_write {decoder : Decoder} {depth : Nat} {more : List Value}
    (each : ∀ item ∈ more, decoder.ReadsBack (depth + 1) item) (steps items : Nat)
    (out : List Value) (rest : Bytes)
    (room : ((items + countItems more : Nat) : Int) ≤ decoder.limits.maxItems)
    (enough : (writeItems more).length < steps) :
    decoder.parseItems steps (writeItems more ++ 101 :: rest) depth items out =
      .ok (.list (out ++ more), rest, items + countItems more) := by
  obtain ⟨left, rfl, opened⟩ := parseItems_open each steps items out (101 :: rest) room enough
  have short := length_le_writeItems more
  obtain ⟨left, rfl⟩ := Nat.exists_eq_add_of_lt (show 0 < left by omega)
  rw [opened]
  simp [parseItems]

/-- The loop of a dictionary steps over the entries that are spelled there. -/
theorem parseEntries_open {decoder : Decoder} {depth : Nat} {more : List (Bytes × Value)}
    (each : ∀ entry ∈ more, decoder.ReadsBack (depth + 1) entry.2)
    (names : ∀ entry ∈ more, ShortLength entry.1 ∧
      (entry.1.length : Int) ≤ decoder.limits.maxStringLength)
    (steps items : Nat) (out : List (Bytes × Value)) (rest : Bytes)
    (distinct : ((out ++ more).map Prod.fst).Nodup)
    (sorted : decoder.requireSortedKeys → ((out ++ more).map Prod.fst).Pairwise (· ≤ ·))
    (room : ((items + countEntries more : Nat) : Int) ≤ decoder.limits.maxItems)
    (enough : (writeEntries more).length < steps) :
    ∃ left, steps = left + more.length ∧
      decoder.parseEntries steps (writeEntries more ++ rest) depth items out
          (out.getLast?.map Prod.fst) =
        decoder.parseEntries left rest depth (items + countEntries more) (out ++ more)
          ((out ++ more).getLast?.map Prod.fst) := by
  induction more generalizing steps items out with
  | nil => exact ⟨steps, rfl, by simp [writeEntries, countEntries]⟩
  | cons entry more ih =>
      obtain ⟨key, item⟩ := entry
      simp only [List.forall_mem_cons] at each names
      simp only [countEntries, writeEntries, List.length_append] at room enough ⊢
      obtain ⟨first, spelling, spelled, digit⟩ := writeBytes_head key
      have positive : 0 < (writeBytes key).length := by simp [spelled]
      have name := (parseBytes_ok_iff decoder (writeBytes key ++
        (item.write ++ (writeEntries more ++ rest))) key _).mpr
          ⟨names.1.1, names.1.2, rfl⟩
      have fresh : key ∉ out.map Prod.fst := by
        rw [List.map_append, List.nodup_append] at distinct
        exact fun member => distinct.2.2 key member key (by simp) rfl
      have inOrder : ¬ (decoder.requireSortedKeys = true ∧
          (out.getLast?.map Prod.fst).any (key < ·) = true) := by
        rintro ⟨strict, below⟩
        have ordered := sorted strict
        rw [List.map_append, List.pairwise_append] at ordered
        cases isLast : out.getLast?.map Prod.fst with
        | none => simp [isLast] at below
        | some last =>
            simp only [isLast, Option.any_some, decide_eq_true_eq] at below
            rw [← List.getLast?_map] at isLast
            exact List.not_lt.mpr (ordered.2.2 last (List.mem_of_getLast? isLast) key (by simp))
              below
      cases steps with
      | zero => omega
      | succ steps =>
          have counted : decoder.count items = .ok (items + 1) := count_ok (by omega)
          have head := each.1 steps (items + 1) (writeEntries more ++ rest) (by omega) (by omega)
          obtain ⟨left, rfl, tail⟩ := ih each.2 names.2 steps (items + 1 + item.count)
            (out ++ [(key, item)]) (by simpa using distinct) (by simpa using sorted) (by omega)
            (by omega)
          refine ⟨left, by rw [List.length_cons]; omega, ?_⟩
          have last : (out ++ [(key, item)]).getLast?.map Prod.fst = some key := by simp
          rw [last] at tail
          rw [spelled] at name ⊢
          simp only [List.cons_append, List.append_assoc] at name ⊢
          rw [parseEntries, if_neg (isDigit_not_marker digit).2.2.2]
          simp only [counted, Bind.bind, Except.bind, name, fresh, inOrder, if_false, head, tail]
          simp only [List.append_assoc, List.singleton_append, Nat.add_assoc]

theorem parseEntries_write {decoder : Decoder} {depth : Nat} {more : List (Bytes × Value)}
    (each : ∀ entry ∈ more, decoder.ReadsBack (depth + 1) entry.2)
    (names : ∀ entry ∈ more, ShortLength entry.1 ∧
      (entry.1.length : Int) ≤ decoder.limits.maxStringLength)
    (steps items : Nat) (out : List (Bytes × Value)) (rest : Bytes)
    (distinct : ((out ++ more).map Prod.fst).Nodup)
    (sorted : decoder.requireSortedKeys → ((out ++ more).map Prod.fst).Pairwise (· ≤ ·))
    (room : ((items + countEntries more : Nat) : Int) ≤ decoder.limits.maxItems)
    (enough : (writeEntries more).length < steps) :
    decoder.parseEntries steps (writeEntries more ++ 101 :: rest) depth items out
        (out.getLast?.map Prod.fst) =
      .ok (.dict (out ++ more), rest, items + countEntries more) := by
  obtain ⟨left, rfl, opened⟩ := parseEntries_open each names steps items out (101 :: rest) distinct
    sorted room enough
  have short := length_le_writeEntries more
  obtain ⟨left, rfl⟩ := Nat.exists_eq_add_of_lt (show 0 < left by omega)
  rw [opened]
  simp [parseEntries]

theorem parse_marker {decoder : Decoder} {depth items : Nat} (marker : UInt8) (tail : Bytes)
    (steps : Nat) (shallow : (depth : Int) ≤ decoder.limits.maxDepth)
    (room : ((items + 1 : Nat) : Int) ≤ decoder.limits.maxItems) :
    decoder.parse (steps + 1) (marker :: tail) depth items =
      if marker = 105 then do
        let (number, rest) ← parseInt tail
        return (.int number, rest, items + 1)
      else if marker = 108 then decoder.parseItems steps tail depth (items + 1) []
      else if marker = 100 then decoder.parseEntries steps tail depth (items + 1) [] none
      else if Decimal.isDigit marker then do
        let (text, rest) ← decoder.parseBytes (marker :: tail)
        return (.bytes text, rest, items + 1)
      else
        .error (.bencodeError
          s!"invalid bencode marker at offset {decoder.size - (marker :: tail).length}") := by
  rw [parse, if_neg (Int.not_lt.mpr shallow)]
  simp only [count_ok room]
  rfl

theorem parse_write {decoder : Decoder} {value : Value} {depth : Nat}
    (admitted : value.Every decoder.Admits depth) : decoder.ReadsBack depth value := by
  induction value using Value.induct generalizing depth with
  | int number =>
      intro steps items rest room enough
      obtain ⟨shallow, ⟨short, -⟩, -⟩ := admitted
      simp only [write, List.length_append, List.length_cons] at enough
      obtain ⟨steps, rfl⟩ := Nat.exists_eq_add_of_lt (show 0 < steps by omega)
      have numeral := (parseInt_ok_iff _ rest number).mpr ⟨short, rfl⟩
      simp only [write, Value.count, List.cons_append, List.append_assoc, List.nil_append]
        at room ⊢
      rw [Nat.zero_add, parse_marker _ _ _ shallow room, if_pos rfl, numeral]
      rfl
  | bytes text =>
      intro steps items rest room enough
      obtain ⟨shallow, ⟨-, short⟩, fits, -⟩ := admitted
      simp only [texts, List.mem_singleton, forall_eq] at short fits
      obtain ⟨first, spelling, spelled, digit⟩ := writeBytes_head text
      have string := (parseBytes_ok_iff decoder _ text rest).mpr ⟨short, fits, rfl⟩
      simp only [write, spelled, Value.count, List.length_cons, List.cons_append] at *
      obtain ⟨steps, rfl⟩ := Nat.exists_eq_add_of_lt (show 0 < steps by omega)
      obtain ⟨notInt, notList, notDict, -⟩ := isDigit_not_marker digit
      rw [Nat.zero_add, parse_marker _ _ _ shallow room, if_neg notInt, if_neg notList,
        if_neg notDict, if_pos digit, string]
      rfl
  | list items ih =>
      intro steps counted rest room enough
      rw [every_list] at admitted
      obtain ⟨⟨shallow, -⟩, inner⟩ := admitted
      simp only [write, Value.count, List.length_append, List.length_cons, List.length_nil,
        List.cons_append, List.append_assoc, List.nil_append]
        at room enough ⊢
      obtain ⟨steps, rfl⟩ := Nat.exists_eq_add_of_lt (show 0 < steps by omega)
      rw [Nat.zero_add, parse_marker _ _ _ shallow (by omega), if_neg (by decide), if_pos rfl,
        parseItems_write (fun item member => ih item member (inner item member)) _ _ _ _
          (by omega) (by omega), List.nil_append, Nat.add_assoc]
  | dict entries ih =>
      intro steps counted rest room enough
      rw [every_dict] at admitted
      obtain ⟨⟨shallow, ⟨-, short⟩, fits, distinct, sorted⟩, inner⟩ := admitted
      simp only [texts, keys, List.forall_mem_map] at short fits
      simp only [write, Value.count, List.length_append, List.length_cons, List.length_nil,
        List.cons_append, List.append_assoc, List.nil_append]
        at room enough ⊢
      obtain ⟨steps, rfl⟩ := Nat.exists_eq_add_of_lt (show 0 < steps by omega)
      have loop := parseEntries_write (fun entry member => ih entry member (inner entry member))
        (fun entry member => ⟨short entry member, fits entry member⟩) steps (counted + 1) [] rest
        distinct sorted (by omega) (by omega)
      rw [Nat.zero_add, parse_marker _ _ _ shallow (by omega), if_neg (by decide),
        if_neg (by decide), if_pos rfl]
      simp only [List.getLast?_nil, Option.map_none] at loop
      rw [loop, List.nil_append, Nat.add_assoc]

end Decoder

end Bencode

end PyDht
