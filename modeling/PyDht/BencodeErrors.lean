import PyDht.BencodeDecode

set_option autoImplicit false

namespace PyDht

namespace Bencode

open Value

/-- What `except ValueError` catches. -/
abbrev ValueFault (fault : PyError) : Prop := fault.isValueError = true

theorem pyInt_raises (text : Bytes) : Raises ValueFault (pyInt text) := by
  unfold pyInt
  split
  · exact Raises.error rfl
  · exact Raises.ok _

namespace Decoder

theorem count_raises (decoder : Decoder) (items : Nat) :
    Raises ValueFault (decoder.count items) := by
  unfold count
  split
  · exact Raises.error rfl
  · exact Raises.ok _

theorem parseInt_raises (tail : Bytes) : Raises ValueFault (parseInt tail) := by
  unfold parseInt
  split
  · exact Raises.error rfl
  · split
    · exact Raises.error rfl
    · split
      · exact Raises.error rfl
      · split
        · exact Raises.error rfl
        · split
          · exact Raises.error rfl
          · exact (pyInt_raises _).bind fun _ _ => Raises.pure _

theorem parseBytes_raises (decoder : Decoder) (rest : Bytes) :
    Raises ValueFault (decoder.parseBytes rest) := by
  unfold parseBytes
  split
  · exact Raises.error rfl
  · split
    · exact Raises.error rfl
    · split
      · exact Raises.error rfl
      · apply (pyInt_raises _).bind
        intro size _
        split
        · exact Raises.error rfl
        · split
          · exact Raises.error rfl
          · exact Raises.pure _

/-- What is left of the data after a value is shorter than before. -/
theorem parse_shorter {decoder : Decoder} {steps depth items counted : Nat} {data rest : Bytes}
    {value : Value} (parsed : decoder.parse steps data depth items = .ok (value, rest, counted)) :
    rest.length < data.length := by
  have spelled := (parse_sound decoder steps data depth items value rest counted parsed).1
  rcases write_head value with ⟨first, others, written, _⟩
  rw [spelled, written, List.length_append, List.length_cons]
  omega

theorem parseBytes_shorter {decoder : Decoder} {data text rest : Bytes}
    (parsed : decoder.parseBytes data = .ok (text, rest)) : rest.length < data.length := by
  rcases (parseBytes_ok_iff decoder data text rest).mp parsed with ⟨_, _, spelled⟩
  rcases writeBytes_head text with ⟨first, others, written, _⟩
  rw [spelled, written, List.length_append, List.length_cons]
  omega

mutual

/-- With two steps for each byte a parse does not run out of steps. -/
theorem parse_raises (decoder : Decoder) :
    ∀ (steps : Nat) (data : Bytes) (depth items : Nat), 2 * data.length + 1 ≤ steps →
      Raises ValueFault (decoder.parse steps data depth items)
  | 0, _, _, _, enough => by omega
  | steps + 1, [], depth, items, _ => by
      unfold parse
      split <;> exact Raises.error rfl
  | steps + 1, marker :: tail, depth, items, enough => by
      rw [List.length_cons] at enough
      unfold parse
      split
      · exact Raises.error rfl
      · apply (count_raises decoder items).bind
        intro counted _
        split
        · exact (parseInt_raises tail).bind fun _ _ => Raises.pure _
        · split
          · exact parseItems_raises decoder steps tail depth counted [] (by omega)
          · split
            · exact parseEntries_raises decoder steps tail depth counted [] none (by omega)
            · split
              · exact (parseBytes_raises decoder _).bind fun _ _ => Raises.pure _
              · exact Raises.error rfl

theorem parseItems_raises (decoder : Decoder) :
    ∀ (steps : Nat) (data : Bytes) (depth items : Nat) (out : List Value),
      2 * data.length + 2 ≤ steps →
      Raises ValueFault (decoder.parseItems steps data depth items out)
  | 0, _, _, _, _, enough => by omega
  | steps + 1, [], _, _, _, _ => Raises.error rfl
  | steps + 1, byte :: tail, depth, items, out, enough => by
      unfold parseItems
      split
      · exact Raises.ok _
      · apply (parse_raises decoder steps (byte :: tail) (depth + 1) items (by omega)).bind
        intro parsed isParsed
        rcases parsed with ⟨value, rest, counted⟩
        have shorter := parse_shorter isParsed
        exact parseItems_raises decoder steps rest depth counted _ (by omega)

theorem parseEntries_raises (decoder : Decoder) :
    ∀ (steps : Nat) (data : Bytes) (depth items : Nat) (out : List (Bytes × Value))
      (previous : Option Bytes), 2 * data.length + 2 ≤ steps →
      Raises ValueFault (decoder.parseEntries steps data depth items out previous)
  | 0, _, _, _, _, _, enough => by omega
  | steps + 1, [], _, _, _, _, _ => Raises.error rfl
  | steps + 1, byte :: tail, depth, items, out, previous, enough => by
      unfold parseEntries
      split
      · exact Raises.ok _
      · apply (count_raises decoder items).bind
        intro counted _
        apply (parseBytes_raises decoder (byte :: tail)).bind
        intro named isNamed
        rcases named with ⟨key, rest⟩
        have shortened := parseBytes_shorter isNamed
        dsimp only
        split
        · exact Raises.error rfl
        · split
          · exact Raises.error rfl
          · apply (parse_raises decoder steps rest (depth + 1) counted (by omega)).bind
            intro parsed isParsed
            rcases parsed with ⟨value, after, reached⟩
            have shorter := parse_shorter isParsed
            exact parseEntries_raises decoder steps after depth reached _ _ (by omega)

end

end Decoder

theorem decodePrefix_raises (data : Bytes) (limits : DecodeLimits) (requireSortedKeys : Bool) :
    Raises ValueFault (decodePrefix data limits requireSortedKeys) := by
  unfold decodePrefix
  have parsed := Decoder.parse_raises ⟨data.length, limits, requireSortedKeys⟩ (stepBound data) data
    0 0 (by unfold stepBound; omega)
  exact parsed.bind fun _ _ => Raises.pure _

/-- Whatever the data, `decode` raises nothing that `except ValueError` does not catch. -/
theorem decode_raises (data : Bytes) (limits : DecodeLimits) (requireSortedKeys : Bool) :
    Raises ValueFault (decode data limits requireSortedKeys) := by
  apply (decodePrefix_raises data limits requireSortedKeys).bind
  intro found _
  rcases found with ⟨value, consumed⟩
  dsimp only
  split
  · exact Raises.error rfl
  · exact Raises.pure _

theorem pyStr_raises (value : Int) : Raises ValueFault (pyStr value) := by
  unfold pyStr
  split
  · exact Raises.error rfl
  · exact Raises.ok _

theorem encodeBytes_raises (text : Bytes) : Raises ValueFault (encodeBytes text) :=
  (pyStr_raises _).bind fun _ _ => Raises.pure _

theorem encodeItems_raises {items : List Value}
    (each : ∀ item ∈ items, Raises ValueFault (encode item)) :
    Raises ValueFault (encodeItems items) := by
  induction items with
  | nil => exact Raises.ok _
  | cons item items ih =>
      rw [List.forall_mem_cons] at each
      exact each.1.bind fun _ _ => (ih each.2).bind fun _ _ => Raises.pure _

theorem encodePairs_raises {pairs : List (Bytes × Except PyError Bytes)}
    (each : ∀ pair ∈ pairs, Raises ValueFault pair.2) (previous : Option Bytes) :
    Raises ValueFault (encodePairs previous pairs) := by
  induction pairs generalizing previous with
  | nil => exact Raises.ok _
  | cons pair pairs ih =>
      rw [List.forall_mem_cons] at each
      unfold encodePairs
      split
      · exact Raises.error rfl
      · exact (encodeBytes_raises _).bind fun _ _ => each.1.bind fun _ _ =>
          (ih each.2 _).bind fun _ _ => Raises.pure _

/-- Whatever the value, `encode` raises nothing but a `ValueError`. -/
theorem encode_raises (value : Value) : Raises ValueFault (encode value) := by
  induction value using Value.induct with
  | int number => exact (pyStr_raises number).bind fun _ _ => Raises.pure _
  | bytes text => exact encodeBytes_raises text
  | list items ih => exact (encodeItems_raises ih).bind fun _ _ => Raises.pure _
  | dict entries ih =>
      apply (encodePairs_raises _ none).bind fun _ _ => Raises.pure _
      intro pair member
      rw [mem_sortPairs, encodeEntries_eq] at member
      rcases List.mem_map.mp member with ⟨entry, inside, rfl⟩
      exact ih entry inside

end Bencode

end PyDht
