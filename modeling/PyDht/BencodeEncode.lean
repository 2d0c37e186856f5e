import PyDht.BencodeValue

set_option autoImplicit false

namespace PyDht

namespace Bencode

open Value

/-- `str` writes the length of the text. -/
def ShortLength (text : Bytes) : Prop := (Decimal.write text.length).length ≤ maxStrDigits

/-- A node whose numbers and lengths `str` and `int` convert. -/
def Convertible (node : Value) : Prop :=
  node.ShortInteger ∧ ∀ text ∈ node.texts, ShortLength text

/-- Texts of any length that occurs are short. -/
theorem shortLength_of_lt {text : Bytes} (small : text.length < 10 ^ 20) : ShortLength text :=
  (Decimal.length_write_le (by omega) small).trans (by decide)

/-- Every number and length in the value can be written. -/
abbrev Converts (value : Value) : Prop := value.All Convertible

theorem converts_int {number : Int} (small : number.natAbs < 10 ^ 20) : Converts (.int number) :=
  ⟨(Decimal.length_write_le (by omega) small).trans (by decide), by simp [texts, keys]⟩

theorem converts_bytes (text : Bytes) : Converts (.bytes text) ↔ ShortLength text := by
  simp [Converts, Convertible, ShortInteger, texts]

theorem converts_list (items : List Value) :
    Converts (.list items) ↔ ∀ item ∈ items, Converts item := by
  simp [Converts, Convertible, ShortInteger, texts, keys]

theorem converts_dict (entries : List (Bytes × Value)) :
    Converts (.dict entries) ↔ ∀ entry ∈ entries, ShortLength entry.1 ∧ Converts entry.2 := by
  simp only [Converts, all_dict, Convertible, ShortInteger, texts, keys, true_and,
    List.forall_mem_map, ← forall₂_and]

theorem pyStr_ok_iff (value : Int) (digits : Bytes) :
    pyStr value = .ok digits ↔
      (Decimal.write value.natAbs).length ≤ maxStrDigits ∧ Decimal.writeInt value = digits := by
  unfold pyStr
  split
  · rename_i long
    simp only [reduceCtorEq, false_iff]
    omega
  · rename_i short
    simp only [Except.ok.injEq, iff_and_self]
    omega

theorem encodeBytes_ok_iff (text data : Bytes) :
    encodeBytes text = .ok data ↔ ShortLength text ∧ writeBytes text = data := by
  have natural : Decimal.writeInt (text.length : Int) = Decimal.write text.length := by
    simp [Decimal.writeInt, show ¬ ((text.length : Int) < 0) by omega]
  unfold encodeBytes
  simp only [bind_ok_iff, pyStr_ok_iff, pure_ok_iff, Int.natAbs_natCast, natural, ShortLength,
    writeBytes]
  constructor
  · rintro ⟨digits, ⟨short, rfl⟩, written⟩
    exact ⟨short, written⟩
  · rintro ⟨short, written⟩
    exact ⟨_, ⟨short, rfl⟩, written⟩

theorem encodeItems_ok_iff {items : List Value}
    (each : ∀ item ∈ items, ∀ data, encode item = .ok data ↔
      item.All Convertible ∧ item.canonical.write = data) (data : Bytes) :
    encodeItems items = .ok data ↔
      (∀ item ∈ items, item.All Convertible) ∧ writeItems (canonicalItems items) = data := by
  induction items generalizing data with
  | nil => simp [encodeItems, canonicalItems, writeItems]
  | cons item items ih =>
      simp only [List.forall_mem_cons] at each ⊢
      simp only [encodeItems, bind_ok_iff, pure_ok_iff, each.1, ih each.2, canonicalItems,
        writeItems]
      constructor
      · rintro ⟨first, ⟨good, rfl⟩, remaining, ⟨goods, rfl⟩, joined⟩
        exact ⟨⟨good, goods⟩, joined⟩
      · rintro ⟨⟨good, goods⟩, joined⟩
        exact ⟨_, ⟨good, rfl⟩, _, ⟨goods, rfl⟩, joined⟩

/-- The loop over pairs in ascending order meets no key twice. -/
theorem encodePairs_ok_iff {entries : List (Bytes × Value)}
    (each : ∀ entry ∈ entries, ∀ data, encode entry.2 = .ok data ↔
      entry.2.All Convertible ∧ entry.2.canonical.write = data)
    (previous : Option Bytes) (distinct : (entries.map Prod.fst).Nodup)
    (unseen : ∀ entry ∈ entries, previous ≠ some entry.1) (data : Bytes) :
    encodePairs previous (entries.map fun entry => (entry.1, encode entry.2)) = .ok data ↔
      (∀ entry ∈ entries, ShortLength entry.1 ∧ entry.2.All Convertible) ∧
        writeEntries (canonicalEntries entries) = data := by
  induction entries generalizing previous data with
  | nil => simp [encodePairs, canonicalEntries, writeEntries]
  | cons entry entries ih =>
      simp only [List.forall_mem_cons, List.map_cons, List.nodup_cons] at each distinct unseen ⊢
      have later : ∀ other ∈ entries, some entry.1 ≠ some other.1 := by
        intro other member same
        exact distinct.1 (List.mem_map.mpr ⟨other, member, (Option.some.inj same).symm⟩)
      simp only [encodePairs, unseen.1, if_false, bind_ok_iff, pure_ok_iff, encodeBytes_ok_iff,
        each.1, ih each.2 (some entry.1) distinct.2 later, canonicalEntries, writeEntries]
      constructor
      · rintro ⟨name, ⟨short, rfl⟩, first, ⟨good, rfl⟩, remaining, ⟨goods, rfl⟩, joined⟩
        exact ⟨⟨⟨short, good⟩, goods⟩, joined⟩
      · rintro ⟨⟨⟨short, good⟩, goods⟩, joined⟩
        exact ⟨_, ⟨short, rfl⟩, _, ⟨good, rfl⟩, _, ⟨goods, rfl⟩, joined⟩

theorem encodeEntries_eq (entries : List (Bytes × Value)) :
    encodeEntries entries = entries.map fun entry => (entry.1, encode entry.2) := by
  induction entries with
  | nil => rfl
  | cons entry entries ih => simp [encodeEntries, ih]

/-- `encode` spells the canonical form, provided that every number and length can be written. -/
theorem encode_ok_iff {value : Value} (distinct : value.Distinct) (data : Bytes) :
    encode value = .ok data ↔ value.All Convertible ∧ value.canonical.write = data := by
  induction value using Value.induct generalizing data with
  | int number =>
      simp only [encode, bind_ok_iff, pyStr_ok_iff, pure_ok_iff, all_int, Convertible,
        ShortInteger, texts, keys, List.not_mem_nil, false_implies, implies_true, and_true,
        canonical, write]
      constructor
      · rintro ⟨digits, ⟨short, rfl⟩, written⟩
        exact ⟨short, written⟩
      · rintro ⟨short, written⟩
        exact ⟨_, ⟨short, rfl⟩, written⟩
  | bytes text =>
      simp [encode, encodeBytes_ok_iff, Convertible, ShortInteger, texts, canonical, write]
  | list items ih =>
      simp only [Distinct, all_list] at distinct
      have each := fun item member => ih item member (distinct.2 item member)
      simp only [encode, bind_ok_iff, encodeItems_ok_iff each, pure_ok_iff, all_list, Convertible,
        ShortInteger, texts, keys, List.not_mem_nil, false_implies, implies_true, true_and,
        canonical, write]
      constructor
      · rintro ⟨body, ⟨goods, rfl⟩, joined⟩
        exact ⟨goods, joined⟩
      · rintro ⟨goods, joined⟩
        exact ⟨_, ⟨goods, rfl⟩, joined⟩
  | dict entries ih =>
      simp only [Distinct, all_dict] at distinct
      have each : ∀ entry ∈ sortPairs entries, ∀ data, encode entry.2 = .ok data ↔
          entry.2.All Convertible ∧ entry.2.canonical.write = data := by
        intro entry member
        have inside := (mem_sortPairs entries entry).mp member
        exact ih entry inside (distinct.2 entry inside)
      have sortedDistinct : ((sortPairs entries).map Prod.fst).Nodup :=
        ((sortPairs_perm entries).map Prod.fst).nodup_iff.mpr distinct.1
      have spelled : sortPairs (canonicalEntries entries) =
          canonicalEntries (sortPairs entries) := by
        rw [canonicalEntries_eq, canonicalEntries_eq, map_sortPairs]
      simp only [encode, encodeEntries_eq, ← map_sortPairs, bind_ok_iff,
        encodePairs_ok_iff each none sortedDistinct (by simp), pure_ok_iff, all_dict,
        Convertible, ShortInteger, texts, keys, mem_sortPairs, List.forall_mem_map, true_and,
        canonical, write, spelled, forall₂_and]
      constructor
      · rintro ⟨body, ⟨goods, rfl⟩, joined⟩
        exact ⟨goods, joined⟩
      · rintro ⟨goods, joined⟩
        exact ⟨_, ⟨goods, rfl⟩, joined⟩

end Bencode

end PyDht
