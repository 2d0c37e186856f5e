import PyDht.BencodeRoundTrip
import PyDht.ResponseLengths
import Mathlib.Algebra.Order.BigOperators.Group.List

set_option autoImplicit false

namespace PyDht

namespace Value

/-- Every value takes up two bytes at least, and so does every key. -/
theorem count_le_length (value : Value) : value.count ≤ value.write.length := by
  induction value using induct with
  | int number => simp [count, write]
  | bytes text =>
      simp only [count, length_write_bytes, textLength]
      omega
  | list items ih =>
      have within : (items.map count).sum ≤ (items.map fun item => item.write.length).sum :=
        List.sum_le_sum ih
      simp only [count, countItems_eq, write, List.length_cons, List.length_append,
        length_writeItems_eq]
      omega
  | dict entries ih =>
      have within : (entries.map fun entry => 1 + entry.2.count).sum ≤
          (entries.map fun entry => textLength entry.1.length + entry.2.write.length).sum := by
        apply List.sum_le_sum
        intro entry member
        have inner := ih entry member
        unfold textLength
        omega
      simp only [count, countEntries_eq, length_write_dict, length_writeEntries_eq]
      omega

/-- Equal byte strings, numbers, lists and dictionaries are seen as such. -/
theorem asBytes_same {left right : Option Value} (same : Option.Rel Same left right) :
    asBytes left = asBytes right := by
  cases same with
  | none => rfl
  | @some left right same => cases left <;> cases right <;> simp_all [asBytes, Same]

theorem of_asBytes {value : Option Value} {text : Bytes} (found : asBytes value = some text) :
    value = some (.bytes text) := by
  cases value with
  | none => cases found
  | some value =>
      cases value with
      | bytes _ => rw [Option.some.inj found]
      | _ => cases found

theorem asInt_same {left right : Option Value} (same : Option.Rel Same left right) :
    asInt left = asInt right := by
  cases same with
  | none => rfl
  | @some left right same => cases left <;> cases right <;> simp_all [asInt, Same]

theorem asKey_same {left right : Option Value} (same : Option.Rel Same left right) :
    asKey left = asKey right := by
  rw [asKey, asKey, asBytes_same same]

theorem asList_same {left right : Option Value} (same : Option.Rel Same left right) :
    Option.Rel (List.Forall₂ Same) (asList left) (asList right) := by
  cases same with
  | none => exact .none
  | @some left right same =>
      cases left <;> cases right <;> try exact .none
      all_goals simp only [Same] at same
      exact .some ((sameItems_iff _ _).mp same)

/-- Of two equal lists both hold byte strings only, or neither does. -/
theorem allTexts_same {lefts rights : List Value} (same : List.Forall₂ Same lefts rights) :
    (lefts.all fun value => (asBytes (some value)).isSome) =
      rights.all fun value => (asBytes (some value)).isSome := by
  induction same with
  | nil => rfl
  | cons alike _ ih => rw [List.all_cons, List.all_cons, ih, asBytes_same (.some alike)]

end Value

/-- The dictionaries are equal in Python, and each has every key once. -/
structure Message.Equal (left right : Message) : Prop where
  same : (Value.dict left).Same (.dict right)
  left : (Value.dict left).Distinct
  right : (Value.dict right).Distinct

namespace Message.Equal

variable {left right : Message}

theorem keys_perm (equal : Equal left right) : (Dict.keys left).Perm (Dict.keys right) := by
  have first := ((Value.distinct_dict left).mp equal.left).1
  have same := equal.same
  simp only [Value.Same, Value.sameEntries_iff] at same
  have included : Dict.keys left ⊆ Dict.keys right := by
    intro key member
    obtain ⟨entry, inside, rfl⟩ := List.mem_map.mp member
    obtain ⟨value, found, _⟩ := same.2 entry inside
    exact List.mem_map.mpr ⟨_, found, rfl⟩
  apply (List.subperm_of_subset first included).perm_of_length_le
  simp [Dict.keys, same.1]

/-- Equal dictionaries have equal values under each key. -/
theorem get? (equal : Equal left right) (key : String) :
    Option.Rel Value.Same (left.get? key) (right.get? key) := by
  have second := ((Value.distinct_dict right).mp equal.right).1
  have same := equal.same
  simp only [Value.Same, Value.sameEntries_iff] at same
  unfold Message.get?
  cases found : Dict.get? (ascii key) left with
  | none =>
      have absent : ascii key ∉ Dict.keys right := fun member =>
        (Dict.get?_eq_none_iff _ _).mp found (equal.keys_perm.mem_iff.mpr member)
      rw [(Dict.get?_eq_none_iff _ _).mpr absent]
      exact .none
  | some value =>
      obtain ⟨other, inside, alike⟩ := same.2 _ (Dict.mem_of_get? found)
      rw [Dict.get?_of_mem second inside]
      exact .some alike

theorem asBytes (equal : Equal left right) (key : String) :
    Value.asBytes (left.get? key) = Value.asBytes (right.get? key) :=
  Value.asBytes_same (equal.get? key)

theorem asKey (equal : Equal left right) (key : String) :
    Value.asKey (left.get? key) = Value.asKey (right.get? key) :=
  Value.asKey_same (equal.get? key)

theorem absent (equal : Equal left right) {key : String} (missing : right.get? key = none) :
    left.get? key = none := by
  have alike := equal.get? key
  rw [missing] at alike
  cases found : left.get? key with
  | none => rfl
  | some value =>
      rw [found] at alike
      cases alike

/-- Equal dictionaries hold equal dictionaries. -/
theorem asDict (equal : Equal left right) {key : String} {entries : Message}
    (found : Value.asDict (right.get? key) = some entries) :
    ∃ got, Value.asDict (left.get? key) = some got ∧ Equal got entries := by
  have held : right.get? key = some (.dict entries) := by
    cases other : right.get? key with
    | none =>
        rw [other] at found
        cases found
    | some value =>
        rw [other] at found
        cases value with
        | dict _ => rw [Option.some.inj found]
        | _ => cases found
  have alike := equal.get? key
  rw [held] at alike
  cases isLeft : left.get? key with
  | none =>
      rw [isLeft] at alike
      cases alike
  | some value =>
      rw [isLeft] at alike
      cases alike with
      | some same =>
          cases value with
          | dict got =>
              have inLeft := Dict.mem_of_get? isLeft
              have inRight := Dict.mem_of_get? held
              exact ⟨got, rfl, same, ((Value.distinct_dict left).mp equal.left).2 _ inLeft,
                ((Value.distinct_dict right).mp equal.right).2 _ inRight⟩
          | _ => exact same.elim

/-- Equal responses have the same shape. -/
theorem responseMatchesQuery (equal : Equal left right) (query : Bytes) :
    responseMatchesQuery query left = responseMatchesQuery query right := by
  have values : (Value.asList (left.get? "values")).any (fun values =>
        values.all fun value => (Value.asBytes (some value)).isSome) =
      (Value.asList (right.get? "values")).any fun values =>
        values.all fun value => (Value.asBytes (some value)).isSome := by
    have lists := Value.asList_same (equal.get? "values")
    revert lists
    generalize Value.asList (left.get? "values") = first
    generalize Value.asList (right.get? "values") = second
    intro lists
    cases lists with
    | none => rfl
    | some alike => exact Value.allTexts_same alike
  unfold PyDht.responseMatchesQuery
  rw [equal.asBytes "nodes", equal.asBytes "nodes6", equal.asBytes "token",
    equal.asBytes "samples", Value.asInt_same (equal.get? "interval"),
    Value.asInt_same (equal.get? "num"), values]

end Message.Equal

namespace DHTNode

/-- A message that was encoded is received as it was. -/
theorem receive_encoded {config : Config} (limits : config.DefaultLimits) {message : Message}
    (distinct : (Value.dict message).Distinct) {payload : Bytes}
    (encoded : Bencode.encode (.dict message) = .ok payload)
    (short : payload.length ≤ MAX_DHT_RESPONSE_BYTES)
    (shallow : (Value.dict message).DepthWithin 64) {tid kind : Bytes}
    (named : Value.asBytes (message.get? "t") = some tid) (nonempty : tid ≠ [])
    (isKind : Value.asBytes (message.get? "y") = some kind)
    (known : [ascii "q", ascii "r", ascii "e"].contains kind = true) :
    ∃ got, receive config payload = .ok got ∧ Message.Equal got message := by
  have whole := Bencode.length_encode distinct encoded
  have bound : (Value.dict message).write.length ≤ 1024 := whole ▸ short
  have counted := (Value.count_le_length (.dict message)).trans bound
  have depth : config.maxBencodeDepth = 64 := by rw [limits]
  have items : config.maxBencodeItems = 200000 := by rw [limits]
  have room : min config.maxBencodeStringLength config.dhtReceiveMaxBytes = 65536 := by
    rw [limits]
    rfl
  have texts : (Value.dict message).TextsWithin 65536 := by
    refine Value.every_imp (fun _ node lengths text member => ?_) _ 0
      (Bencode.text_length_le _ bound)
    have length := lengths text member
    omega
  obtain ⟨decoded, read, same⟩ := (Bencode.decode_same_iff payload ⟨64, 200000, 65536⟩ distinct).mpr
    ⟨encoded, shallow, by show _ ≤ (200000 : Int); omega, texts⟩
  cases decoded with
  | int _ => exact same.elim
  | bytes _ => exact same.elim
  | list _ => exact same.elim
  | dict got =>
      have equal : Message.Equal got message :=
        ⟨same, (Bencode.encode_decoded read).1, distinct⟩
      refine ⟨got, ?_, equal⟩
      have isTid := (equal.asBytes "t").trans named
      have sort := (equal.asBytes "y").trans isKind
      cases tid with
      | nil => exact absurd rfl nonempty
      | cons byte rest =>
          unfold receive
          rw [depth, items, room, read]
          simp only [bind, Except.bind, isTid, Value.of_asBytes sort, known, if_true]
          rfl

end DHTNode

end PyDht
