import PyDht.BencodeDecode

set_option autoImplicit false

namespace PyDht

namespace Bencode

open Value

/-- What a value must satisfy to be read: the limits, numbers that `int` takes
and distinct keys, in strict mode in ascending order. -/
structure Acceptable (limits : DecodeLimits) (requireSortedKeys : Bool) (value : Value) :
    Prop where
  depth : value.DepthWithin limits.maxDepth
  items : (value.count : Int) ≤ limits.maxItems
  texts : value.TextsWithin limits.maxStringLength
  convertible : value.All Convertible
  distinct : value.Distinct
  ordered : requireSortedKeys → value.Ordered

theorem every_admits_iff (decoder : Decoder) (value : Value) :
    value.Every decoder.Admits 0 ∧ (value.count : Int) ≤ decoder.limits.maxItems ↔
      Acceptable decoder.limits decoder.requireSortedKeys value := by
  constructor
  · rintro ⟨every, items⟩
    refine ⟨every_imp (fun _ _ admits => admits.1) value 0 every, items,
      every_imp (fun _ _ admits => admits.2.2.1) value 0 every,
      every_imp (fun _ _ admits => admits.2.1) value 0 every,
      every_imp (fun _ _ admits => admits.2.2.2.1) value 0 every, ?_⟩
    intro strict
    exact every_imp (fun _ _ admits => admits.2.2.2.2 strict) value 0 every
  · rintro ⟨depth, items, fits, convertible, distinct, ordered⟩
    refine ⟨?_, items⟩
    have together := (every_and value 0).mpr ⟨depth, (every_and value 0).mpr
      ⟨convertible, (every_and value 0).mpr ⟨fits, distinct⟩⟩⟩
    by_cases strict : decoder.requireSortedKeys = true
    · refine every_imp ?_ value 0 ((every_and value 0).mpr ⟨together, ordered strict⟩)
      rintro _ _ ⟨⟨shallow, good, short, different⟩, ascending⟩
      exact ⟨shallow, good, short, different, fun _ => ascending⟩
    · refine every_imp ?_ value 0 together
      rintro _ _ ⟨shallow, good, short, different⟩
      exact ⟨shallow, good, short, different, fun isStrict => absurd isStrict strict⟩

/-- `decode_prefix` reads exactly the spellings of acceptable values, whatever follows them. -/
theorem decodePrefix_ok_iff (data : Bytes) (limits : DecodeLimits) (requireSortedKeys : Bool)
    (value : Value) (consumed : Nat) :
    decodePrefix data limits requireSortedKeys = .ok (value, consumed) ↔
      Acceptable limits requireSortedKeys value ∧
        ∃ rest, data = value.write ++ rest ∧ consumed = value.write.length := by
  have admits := every_admits_iff { size := data.length, limits, requireSortedKeys } value
  simp only [decodePrefix, bind_ok_iff, pure_ok_iff, Prod.mk.injEq, Prod.exists]
  rw [← admits]
  constructor
  · rintro ⟨_, rest, counted, parsed, rfl, rfl⟩
    obtain ⟨spelled, rfl, within, every⟩ := Decoder.parse_sound _ _ _ _ _ _ _ _ parsed
    refine ⟨⟨every, by simpa using within⟩, rest, spelled, ?_⟩
    simp [spelled]
  · rintro ⟨⟨every, items⟩, rest, rfl, rfl⟩
    refine ⟨value, rest, 0 + value.count, ?_, rfl, by simp⟩
    apply Decoder.parse_write every _ 0 rest (by simpa using items)
    simp only [stepBound, List.length_append]
    omega

theorem decode_ok_iff (data : Bytes) (limits : DecodeLimits) (requireSortedKeys : Bool)
    (value : Value) :
    decode data limits requireSortedKeys = .ok value ↔
      Acceptable limits requireSortedKeys value ∧ data = value.write := by
  simp only [decode, bind_ok_iff, Prod.exists, decodePrefix_ok_iff]
  constructor
  · rintro ⟨_, consumed, ⟨acceptable, rest, rfl, rfl⟩, whole⟩
    split at whole
    · simp at whole
    · rename_i complete
      simp only [pure_ok_iff] at whole
      subst whole
      have empty : rest = [] := by simpa using complete
      exact ⟨acceptable, by simp [empty]⟩
  · rintro ⟨acceptable, rfl⟩
    exact ⟨value, _, ⟨acceptable, [], by simp, rfl⟩, by simp [pure_ok_iff]⟩

theorem texts_canonical (node : Value) (text : Bytes) :
    text ∈ node.canonical.texts ↔ text ∈ node.texts := by
  cases node with
  | int number => exact Iff.rfl
  | bytes own => exact Iff.rfl
  | list items => exact Iff.rfl
  | dict entries => exact (keys_canonical (.dict entries)).mem_iff

theorem convertible_canonical (node : Value) : Convertible node.canonical ↔ Convertible node := by
  have numbers : node.canonical.ShortInteger ↔ node.ShortInteger := by
    cases node <;> exact Iff.rfl
  simp only [Convertible, numbers, texts_canonical]

/-- Strict mode reads the canonical forms of what tolerant mode reads. -/
theorem acceptable_canonical (limits : DecodeLimits) (value : Value) :
    Acceptable limits true value.canonical ↔ Acceptable limits false value := by
  have depth : value.canonical.DepthWithin limits.maxDepth ↔ value.DepthWithin limits.maxDepth :=
    every_canonical (fun _ _ => Iff.rfl) value 0
  have fits : value.canonical.TextsWithin limits.maxStringLength ↔
      value.TextsWithin limits.maxStringLength :=
    all_canonical (fun node => forall_congr' fun text => by rw [texts_canonical]) value
  have converts := all_canonical convertible_canonical value
  constructor
  · intro accepted
    exact ⟨depth.mp accepted.depth, by simpa [count_canonical] using accepted.items,
      fits.mp accepted.texts, converts.mp accepted.convertible,
      (distinct_canonical value).mp accepted.distinct, by simp⟩
  · intro accepted
    exact ⟨depth.mpr accepted.depth, by simpa [count_canonical] using accepted.items,
      fits.mpr accepted.texts, converts.mpr accepted.convertible,
      (distinct_canonical value).mpr accepted.distinct, fun _ => ordered_canonical value⟩

theorem strict_canonical {limits : DecodeLimits} {value : Value}
    (accepted : Acceptable limits true value) : value.canonical = value :=
  canonical_of_ordered accepted.distinct (accepted.ordered rfl)

/-- Strict decoding gives a value exactly on its encoding, within the limits. -/
theorem decode_same_iff (data : Bytes) (limits : DecodeLimits) {value : Value}
    (distinct : value.Distinct) :
    (∃ decoded, decode data limits = .ok decoded ∧ decoded.Same value) ↔
      encode value = .ok data ∧ value.DepthWithin limits.maxDepth ∧
        (value.count : Int) ≤ limits.maxItems ∧ value.TextsWithin limits.maxStringLength := by
  simp only [decode_ok_iff, encode_ok_iff distinct]
  constructor
  · rintro ⟨decoded, ⟨accepted, rfl⟩, same⟩
    have form : decoded = value.canonical := by
      rw [← canonical_eq_of_same accepted.distinct distinct same, strict_canonical accepted]
    subst form
    have loose := (acceptable_canonical limits value).mp accepted
    exact ⟨⟨loose.convertible, rfl⟩, loose.depth, loose.items, loose.texts⟩
  · rintro ⟨⟨converts, rfl⟩, depth, items, fits⟩
    refine ⟨value.canonical, ⟨?_, rfl⟩, same_canonical value⟩
    exact (acceptable_canonical limits value).mpr
      ⟨depth, items, fits, converts, distinct, by simp⟩

theorem encode_decoded {data : Bytes} {limits : DecodeLimits} {decoded : Value}
    (read : decode data limits = .ok decoded) :
    decoded.Distinct ∧ decoded.ShortIntegers ∧ encode decoded = .ok data := by
  obtain ⟨accepted, rfl⟩ := (decode_ok_iff data limits true decoded).mp read
  refine ⟨accepted.distinct, every_imp (fun _ _ good => good.1) decoded 0 accepted.convertible, ?_⟩
  exact (encode_ok_iff accepted.distinct _).mpr
    ⟨accepted.convertible, by rw [strict_canonical accepted]⟩

theorem encode_congr {left right : Value} (distinctLeft : left.Distinct)
    (distinctRight : right.Distinct) (same : left.Same right) (data : Bytes) :
    encode left = .ok data ↔ encode right = .ok data := by
  rw [encode_ok_iff distinctLeft, encode_ok_iff distinctRight, ← all_canonical convertible_canonical,
    canonical_eq_of_same distinctLeft distinctRight same, all_canonical convertible_canonical]

/-- Strict `decode` and `encode` are inverse to each other: a value is read from its one encoding
only, what was read is encoded as it stood, no two byte strings are read as equal values, and the
order of the entries makes no difference to the encoding. -/
theorem strict_codec :
    (∀ (data : Bytes) (limits : DecodeLimits) (value : Value), value.Distinct →
      ((∃ decoded, decode data limits = .ok decoded ∧ decoded.Same value) ↔
        encode value = .ok data ∧ value.DepthWithin limits.maxDepth ∧
          (value.count : Int) ≤ limits.maxItems ∧ value.TextsWithin limits.maxStringLength)) ∧
    (∀ (data : Bytes) (limits : DecodeLimits) (decoded : Value),
      decode data limits = .ok decoded →
        decoded.Distinct ∧ decoded.ShortIntegers ∧ encode decoded = .ok data) ∧
    (∀ (first second : Bytes) (limits others : DecodeLimits) (left right : Value),
      decode first limits = .ok left → decode second others = .ok right → left.Same right →
        first = second) ∧
    (∀ (left right : Value), left.Distinct → right.Distinct → left.Same right →
      ∀ data, encode left = .ok data ↔ encode right = .ok data) := by
  refine ⟨fun data limits value distinct => decode_same_iff data limits distinct,
    fun data limits decoded read => encode_decoded read, ?_,
    fun left right distinctLeft distinctRight same data =>
      encode_congr distinctLeft distinctRight same data⟩
  intro first second limits others left right readFirst readSecond same
  obtain ⟨distinctLeft, -, written⟩ := encode_decoded readFirst
  obtain ⟨distinctRight, -, rewritten⟩ := encode_decoded readSecond
  rw [encode_congr distinctLeft distinctRight same, rewritten] at written
  exact (Except.ok.inj written).symm

/-- `d1:a1:x1:bi7ee`, against a dictionary that was filled in the other order. -/
theorem strict_codec_sample :
    (∃ decoded, decode [100, 49, 58, 97, 49, 58, 120, 49, 58, 98, 105, 55, 101, 101] ⟨4, 9, 9⟩ =
        .ok decoded ∧ decoded.Same (.dict [([98], .int 7), ([97], .bytes [120])])) ∧
    encode (.dict [([97], .bytes [120]), ([98], .int 7)]) =
      .ok [100, 49, 58, 97, 49, 58, 120, 49, 58, 98, 105, 55, 101, 101] ∧
    (∀ second, decode second ⟨4, 9, 9⟩ = .ok (.dict [([97], .bytes [120]), ([98], .int 7)]) →
      [100, 49, 58, 97, 49, 58, 120, 49, 58, 98, 105, 55, 101, 101] = second) ∧
    (∀ data, encode (.dict [([97], .bytes [120]), ([98], .int 7)]) = .ok data ↔
      encode (.dict [([98], .int 7), ([97], .bytes [120])]) = .ok data) := by
  have read : decode [100, 49, 58, 97, 49, 58, 120, 49, 58, 98, 105, 55, 101, 101] ⟨4, 9, 9⟩ =
      .ok (.dict [([97], .bytes [120]), ([98], .int 7)]) := rfl
  have filled : (Value.dict [([98], .int 7), ([97], .bytes [120])]).Distinct := by
    simp [Distinct, keys]
  have sorted : (Value.dict [([97], .bytes [120]), ([98], .int 7)]).Distinct := by
    simp [Distinct, keys]
  have same : (Value.dict [([97], .bytes [120]), ([98], .int 7)]).Same
      (.dict [([98], .int 7), ([97], .bytes [120])]) :=
    ⟨rfl, ⟨.bytes [120], by simp, rfl⟩, ⟨.int 7, by simp, rfl⟩, trivial⟩
  have itself : (Value.dict [([97], .bytes [120]), ([98], .int 7)]).Same
      (.dict [([97], .bytes [120]), ([98], .int 7)]) :=
    ⟨rfl, ⟨.bytes [120], by simp, rfl⟩, ⟨.int 7, by simp, rfl⟩, trivial⟩
  refine ⟨(strict_codec.1 _ _ _ filled).mpr ⟨rfl, ?_, by decide, ?_⟩,
    (strict_codec.2.1 _ _ _ read).2.2,
    fun second other => strict_codec.2.2.1 _ second _ _ _ _ read other itself,
    strict_codec.2.2.2 _ _ sorted filled same⟩
  · simp [DepthWithin]
  · simp [TextsWithin, texts, keys]

/-- Tolerant mode judges a dictionary by its entries, not by their order. -/
theorem acceptable_congr (limits : DecodeLimits) {left right : Value}
    (distinctLeft : left.Distinct) (distinctRight : right.Distinct) (same : left.Same right) :
    Acceptable limits false left ↔ Acceptable limits false right := by
  rw [← acceptable_canonical limits left, canonical_eq_of_same distinctLeft distinctRight same,
    acceptable_canonical]

theorem tolerant_ok_iff (data : Bytes) (limits : DecodeLimits) (decoded : Value) :
    decode data limits false = .ok decoded ↔
      decoded.Distinct ∧ decoded.All Convertible ∧ decoded.DepthWithin limits.maxDepth ∧
        (decoded.count : Int) ≤ limits.maxItems ∧ decoded.TextsWithin limits.maxStringLength ∧
        data = decoded.write := by
  rw [decode_ok_iff]
  constructor
  · rintro ⟨accepted, written⟩
    exact ⟨accepted.distinct, accepted.convertible, accepted.depth, accepted.items,
      accepted.texts, written⟩
  · rintro ⟨distinct, converts, depth, items, fits, written⟩
    exact ⟨⟨depth, items, fits, converts, distinct, by simp⟩, written⟩

/-- The byte strings that tolerant mode reads as a given value are the spellings of
its arrangements. -/
theorem tolerant_same_iff (data : Bytes) (limits : DecodeLimits) {value : Value}
    (distinct : value.Distinct) :
    (∃ decoded, decode data limits false = .ok decoded ∧ decoded.Same value) ↔
      value.All Convertible ∧ value.DepthWithin limits.maxDepth ∧
        (value.count : Int) ≤ limits.maxItems ∧ value.TextsWithin limits.maxStringLength ∧
        ∃ arranged : Value, arranged.Distinct ∧ arranged.Same value ∧ data = arranged.write := by
  simp only [decode_ok_iff]
  constructor
  · rintro ⟨decoded, ⟨accepted, written⟩, same⟩
    have whole := (acceptable_congr limits accepted.distinct distinct same).mp accepted
    exact ⟨whole.convertible, whole.depth, whole.items, whole.texts,
      decoded, accepted.distinct, same, written⟩
  · rintro ⟨converts, depth, items, fits, arranged, separate, same, written⟩
    have whole : Acceptable limits false value := ⟨depth, items, fits, converts, distinct, by simp⟩
    exact ⟨arranged, ⟨(acceptable_congr limits separate distinct same).mpr whole, written⟩, same⟩

theorem tolerant_of_strict {data : Bytes} {limits : DecodeLimits} {value : Value}
    (read : decode data limits = .ok value) : decode data limits false = .ok value := by
  rw [decode_ok_iff] at read ⊢
  obtain ⟨accepted, written⟩ := read
  exact ⟨⟨accepted.depth, accepted.items, accepted.texts, accepted.convertible,
    accepted.distinct, by simp⟩, written⟩

/-- What tolerant mode has read is encoded to something that strict mode reads, as an
equal value. -/
theorem strict_of_tolerant {data : Bytes} {limits : DecodeLimits} {value : Value}
    (read : decode data limits false = .ok value) :
    ∃ again decoded, encode value = .ok again ∧ decode again limits = .ok decoded ∧
      decoded.Same value := by
  obtain ⟨accepted, -⟩ := (decode_ok_iff _ _ _ _).mp read
  refine ⟨value.canonical.write, value.canonical, ?_, ?_, same_canonical value⟩
  · exact (encode_ok_iff accepted.distinct _).mpr ⟨accepted.convertible, rfl⟩
  · exact (decode_ok_iff _ _ _ _).mpr ⟨(acceptable_canonical limits value).mpr accepted, rfl⟩

theorem length_writeItems {items : List Value} {item : Value} (member : item ∈ items) :
    item.write.length ≤ (writeItems items).length := by
  induction items with
  | nil => simp at member
  | cons head tail ih =>
      simp only [writeItems, List.length_append]
      cases member with
      | head => omega
      | tail _ later =>
          have inner := ih later
          omega

theorem length_writeEntries {entries : List (Bytes × Value)} {entry : Bytes × Value}
    (member : entry ∈ entries) :
    entry.1.length + entry.2.write.length ≤ (writeEntries entries).length := by
  induction entries with
  | nil => simp at member
  | cons head tail ih =>
      simp only [writeEntries, writeBytes, List.length_append, List.length_cons]
      cases member with
      | head => omega
      | tail _ later =>
          have inner := ih later
          omega

/-- A byte string is no longer than the spelling of what it occurs in. -/
theorem text_length_le (value : Value) {bound : Nat} (within : value.write.length ≤ bound) :
    value.All fun node => ∀ text ∈ node.texts, text.length ≤ bound := by
  induction value using induct with
  | int number => simp [texts, keys]
  | bytes text =>
      simp only [write, writeBytes, List.length_append, List.length_cons] at within
      simp only [all_bytes, texts, List.mem_singleton, forall_eq]
      omega
  | list items ih =>
      simp only [write, List.length_append, List.length_cons] at within
      simp only [all_list, texts, keys, List.not_mem_nil, false_implies, implies_true, true_and]
      intro item member
      have inner := length_writeItems member
      exact ih item member (by omega)
  | dict entries ih =>
      simp only [write, List.length_append, List.length_cons] at within
      simp only [all_dict, texts, keys, List.forall_mem_map]
      constructor
      · intro entry member
        have inner := length_writeEntries member
        omega
      · intro entry member
        have inner := length_writeEntries member
        exact ih entry member (by omega)

/-- Lengths are no obstacle in what fits into memory. -/
theorem convertible_iff_short {value : Value} (small : value.write.length < 10 ^ 20) :
    value.All Convertible ↔ value.ShortIntegers := by
  constructor
  · intro converts
    exact every_imp (fun _ _ good => good.1) value 0 converts
  · intro short
    have together := (every_and value 0).mpr ⟨short, text_length_le value le_rfl⟩
    refine every_imp ?_ value 0 together
    intro _ node ⟨number, lengths⟩
    exact ⟨number, fun text member => shortLength_of_lt ((lengths text member).trans_lt small)⟩

/-- `decode` with `require_sorted_keys=False` reads exactly the spellings of values within the
limits, the entries of each dictionary in any order. It agrees with strict mode where that accepts;
and what it reads, encoded again, strict mode reads as an equal value. -/
theorem tolerant_codec (limits : DecodeLimits) :
    (∀ (data : Bytes) (decoded : Value), decode data limits false = .ok decoded ↔
      decoded.Distinct ∧ decoded.All Convertible ∧ decoded.DepthWithin limits.maxDepth ∧
        (decoded.count : Int) ≤ limits.maxItems ∧ decoded.TextsWithin limits.maxStringLength ∧
        data = decoded.write) ∧
    (∀ (data : Bytes) (value : Value), value.Distinct →
      ((∃ decoded, decode data limits false = .ok decoded ∧ decoded.Same value) ↔
        value.All Convertible ∧ value.DepthWithin limits.maxDepth ∧
          (value.count : Int) ≤ limits.maxItems ∧ value.TextsWithin limits.maxStringLength ∧
          ∃ arranged : Value,
            arranged.Distinct ∧ arranged.Same value ∧ data = arranged.write)) ∧
    (∀ value : Value, value.write.length < 10 ^ 20 →
      (value.All Convertible ↔ value.ShortIntegers)) ∧
    (∀ (data : Bytes) (value : Value), decode data limits = .ok value →
      decode data limits false = .ok value) ∧
    (∀ (data : Bytes) (value : Value), decode data limits false = .ok value →
      ∃ again decoded, encode value = .ok again ∧ decode again limits = .ok decoded ∧
        decoded.Same value) :=
  ⟨fun data decoded => tolerant_ok_iff data limits decoded,
    fun data _ distinct => tolerant_same_iff data limits distinct,
    fun _ small => convertible_iff_short small, fun _ _ read => tolerant_of_strict read,
    fun _ _ read => strict_of_tolerant read⟩

/-- `d1:bi7e1:a1:xe`, which strict mode rejects, and the same dictionary in order. -/
theorem tolerant_codec_sample :
    (∃ decoded, decode [100, 49, 58, 98, 105, 55, 101, 49, 58, 97, 49, 58, 120, 101] ⟨4, 9, 9⟩
        false = .ok decoded ∧ decoded.Same (.dict [([97], .bytes [120]), ([98], .int 7)])) ∧
    ((Value.dict [([98], .int 7), ([97], .bytes [120])]).All Convertible ↔
      (Value.dict [([98], .int 7), ([97], .bytes [120])]).ShortIntegers) ∧
    decode [100, 49, 58, 97, 49, 58, 120, 49, 58, 98, 105, 55, 101, 101] ⟨4, 9, 9⟩ false =
      .ok (.dict [([97], .bytes [120]), ([98], .int 7)]) ∧
    (∃ again decoded, encode (.dict [([98], .int 7), ([97], .bytes [120])]) = .ok again ∧
      decode again ⟨4, 9, 9⟩ = .ok decoded ∧
        decoded.Same (.dict [([98], .int 7), ([97], .bytes [120])])) := by
  have sorted : (Value.dict [([97], .bytes [120]), ([98], .int 7)]).Distinct := by
    simp [Distinct, keys]
  have filled : (Value.dict [([98], .int 7), ([97], .bytes [120])]).Distinct := by
    simp [Distinct, keys]
  have same : (Value.dict [([98], .int 7), ([97], .bytes [120])]).Same
      (.dict [([97], .bytes [120]), ([98], .int 7)]) :=
    ⟨rfl, ⟨.int 7, by simp, rfl⟩, ⟨.bytes [120], by simp, rfl⟩, trivial⟩
  have small : (Value.dict [([98], .int 7), ([97], .bytes [120])]).write.length < 10 ^ 20 := by
    decide
  have read : decode [100, 49, 58, 97, 49, 58, 120, 49, 58, 98, 105, 55, 101, 101] ⟨4, 9, 9⟩ =
      .ok (.dict [([97], .bytes [120]), ([98], .int 7)]) := rfl
  have converts := ((decode_ok_iff _ _ _ _).mp read).1.convertible
  refine ⟨((tolerant_codec ⟨4, 9, 9⟩).2.1 _ _ sorted).mpr ⟨converts, ?_, ?_, ?_, _, filled,
    same, rfl⟩, (tolerant_codec ⟨4, 9, 9⟩).2.2.1 _ small,
    (tolerant_codec ⟨4, 9, 9⟩).2.2.2.1 _ _ read,
    (tolerant_codec ⟨4, 9, 9⟩).2.2.2.2
      [100, 49, 58, 98, 105, 55, 101, 49, 58, 97, 49, 58, 120, 101] _ rfl⟩
  · simp [DepthWithin]
  · decide
  · simp [TextsWithin, texts, keys]

end Bencode

end PyDht
