import PyDht.KrpcSafety
import PyDht.Lib.Greedy

set_option autoImplicit false

namespace PyDht

/-- The length of a byte string of the given length in bencode. -/
def textLength (length : Nat) : Nat := (Decimal.write length).length + 1 + length

theorem textLength_mono : Monotone textLength := by
  intro smaller larger below
  have digits := Decimal.length_write_mono below
  unfold textLength
  omega

namespace Value

@[simp] theorem length_writeBytes (text : Bytes) : (writeBytes text).length = textLength text.length := by
  simp [writeBytes, textLength, Nat.add_assoc, Nat.add_comm 1]

theorem length_write_bytes (text : Bytes) : (write (.bytes text)).length = textLength text.length :=
  length_writeBytes text

theorem length_write_dict (entries : List (Bytes × Value)) :
    (write (.dict entries)).length = (writeEntries entries).length + 2 := by
  simp [write]

theorem length_writeItems_eq (items : List Value) :
    (writeItems items).length = (items.map fun item => item.write.length).sum := by
  induction items with
  | nil => rfl
  | cons item items ih => simp [writeItems, ih]

theorem length_writeEntries_eq (entries : List (Bytes × Value)) :
    (writeEntries entries).length =
      (entries.map fun entry => textLength entry.1.length + entry.2.write.length).sum := by
  induction entries with
  | nil => rfl
  | cons entry entries ih =>
      obtain ⟨key, value⟩ := entry
      simp [writeEntries, ih, Nat.add_assoc]

/-- The order of the entries makes no difference to the length. -/
theorem length_canonical (value : Value) : value.canonical.write.length = value.write.length := by
  induction value using induct with
  | int number => rfl
  | bytes text => rfl
  | list items ih =>
      have same : items.map (fun item => item.canonical.write.length) =
          items.map fun item => item.write.length := List.map_congr_left ih
      simp only [canonical, write, List.length_cons, List.length_append, length_writeItems_eq,
        canonicalItems_eq, List.map_map, Function.comp_def, same]
  | dict entries ih =>
      have same : entries.map (fun entry => textLength entry.1.length + entry.2.canonical.write.length) =
          entries.map fun entry => textLength entry.1.length + entry.2.write.length :=
        List.map_congr_left fun entry member => by rw [ih entry member]
      have sorted := ((Bencode.sortPairs_perm (canonicalEntries entries)).map
        fun entry => textLength entry.1.length + entry.2.write.length).sum_eq
      simp only [canonical, write, List.length_cons, List.length_append, length_writeEntries_eq,
        sorted]
      rw [canonicalEntries_eq, List.map_map]
      simp only [Function.comp_def, same]

theorem distinct_dict (entries : List (Bytes × Value)) :
    (Value.dict entries).Distinct ↔
      (entries.map Prod.fst).Nodup ∧ ∀ entry ∈ entries, entry.2.Distinct := all_dict _ entries

theorem distinct_list (items : List Value) :
    (Value.list items).Distinct ↔ ∀ item ∈ items, item.Distinct := by
  rw [Distinct, all_list]
  exact and_iff_right List.nodup_nil

theorem distinct_bytes (text : Bytes) : (Value.bytes text).Distinct := List.nodup_nil

theorem distinct_int (number : Int) : (Value.int number).Distinct := List.nodup_nil

end Value

namespace Bencode

theorem length_encode {value : Value} (distinct : value.Distinct) {data : Bytes}
    (encoded : encode value = .ok data) : data.length = value.write.length := by
  obtain ⟨_, written⟩ := (encode_ok_iff distinct data).mp encoded
  rw [← written, Value.length_canonical]

end Bencode

namespace DHTNode

/-- The length of a response with a transaction ID and with entries of the given lengths. -/
def responseLength (tid entries : Nat) : Nat := 25 + textLength tid + entries

theorem responseLength_mono (tid : Nat) : Monotone (responseLength tid) :=
  fun _ _ below => Nat.add_le_add_left below _

section responses

variable {env : Environment} {response : Message}

theorem response_message (env : Environment) (tid : Bytes) (value : Value) :
    (base env tid "r").set "r" value = base env tid "r" ++ [(ascii "r", value)] := by
  apply Dict.set_new
  simp [base, Dict.keys, ascii]

theorem version_length (limits : env.config.DefaultLimits) :
    env.config.dhtClientVersion.length = 4 := by
  rw [limits]
  rfl

theorem length_response (limits : env.config.DefaultLimits) (tid : Bytes) :
    (Value.write (.dict ((base env tid "r").set "r" (.dict response)))).length =
      responseLength tid.length (Value.writeEntries response).length := by
  have version := version_length limits
  have names : textLength 1 = 3 ∧ textLength 4 = 6 := by decide
  rw [response_message, Value.length_write_dict, Value.length_writeEntries_eq]
  simp only [base, List.cons_append, List.nil_append, List.map_cons, List.map_nil, List.sum_cons,
    List.sum_nil, Value.length_write_bytes, Value.length_write_dict, version]
  have single : ∀ name : String, name.toList.length = 1 → (ascii name).length = 1 := by
    intro name length
    rw [ascii, List.length_map, length]
  rw [single "t" rfl, single "y" rfl, single "v" rfl, single "r" rfl, names.1, names.2]
  unfold responseLength
  omega

/-- A response whose entries can be encoded can be sent, and its length is known. -/
theorem encode_response (limits : env.config.DefaultLimits) {tid : Bytes}
    (short : Bencode.ShortLength tid) (distinct : (Value.dict response).Distinct)
    (converts : Bencode.Converts (.dict response)) :
    ∃ payload, Bencode.encode (.dict ((base env tid "r").set "r" (.dict response))) = .ok payload ∧
      payload.length = responseLength tid.length (Value.writeEntries response).length := by
  have version : Bencode.ShortLength env.config.dhtClientVersion := by
    apply Bencode.shortLength_of_lt
    rw [version_length limits]
    omega
  have names : ∀ name : String, name.toList.length = 1 → Bencode.ShortLength (ascii name) := by
    intro name length
    apply Bencode.shortLength_of_lt
    rw [ascii, List.length_map, length]
    omega
  have separate : (Value.dict ((base env tid "r").set "r" (.dict response))).Distinct := by
    rw [response_message, Value.distinct_dict]
    simp only [base, List.cons_append, List.nil_append, List.forall_mem_cons, List.map_cons,
      List.map_nil]
    exact ⟨by decide, Value.distinct_bytes _, Value.distinct_bytes _, Value.distinct_bytes _, distinct,
      by simp⟩
  have sound : Bencode.Converts (.dict ((base env tid "r").set "r" (.dict response))) := by
    rw [response_message]
    simp only [base, List.cons_append, List.nil_append, Bencode.converts_dict,
      List.forall_mem_cons, Bencode.converts_bytes]
    exact ⟨⟨names "t" rfl, short⟩, ⟨names "y" rfl, names "r" rfl⟩, ⟨names "v" rfl, version⟩,
      ⟨names "r" rfl, (Bencode.converts_dict response).mp converts⟩, by simp⟩
  obtain ⟨payload, encoded⟩ := Bencode.encode_ok separate sound
  exact ⟨payload, encoded, (Bencode.length_encode separate encoded).trans
    (length_response limits tid)⟩

/-- What the builders measure. -/
theorem trialLength_eq (limits : env.config.DefaultLimits)
    (distinct : (Value.dict response).Distinct) (converts : Bencode.Converts (.dict response)) :
    trialLength env response =
      .ok (responseLength 2 (Value.writeEntries response).length) := by
  have short : Bencode.ShortLength (ascii "aa") := Bencode.shortLength_of_lt (by decide)
  obtain ⟨payload, encoded, length⟩ := encode_response limits short distinct converts
  unfold trialLength
  rw [encoded]
  exact congrArg Except.ok length

end responses

end DHTNode

end PyDht
