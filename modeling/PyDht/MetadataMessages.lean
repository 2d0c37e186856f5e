import PyDht.BencodeRoundTrip
import PyDht.PeerWire

set_option autoImplicit false

namespace PyDht

open Value

namespace Bencode

section prefixes

variable {data : Bytes} {limits : DecodeLimits} {requireSortedKeys : Bool} {value : Value}
  {consumed : Nat}

/-- What was read is the spelling of the value, which has at least one byte. -/
theorem decodePrefix_spelled
    (read : decodePrefix data limits requireSortedKeys = .ok (value, consumed)) :
    data.take consumed = value.write ∧ 0 < consumed ∧ consumed ≤ data.length := by
  obtain ⟨-, rest, rfl, rfl⟩ := (decodePrefix_ok_iff _ _ _ _ _).mp read
  obtain ⟨first, others, written, -⟩ := Decoder.write_head value
  refine ⟨by simp, ?_, by simp⟩
  rw [written, List.length_cons]
  omega

/-- The bytes behind a value make no difference to it. -/
theorem decodePrefix_append
    (read : decodePrefix data limits requireSortedKeys = .ok (value, consumed)) (suffix : Bytes) :
    decodePrefix (data.take consumed ++ suffix) limits requireSortedKeys =
      .ok (value, consumed) := by
  obtain ⟨spelled, -, -⟩ := decodePrefix_spelled read
  obtain ⟨acceptable, rest, -, rfl⟩ := (decodePrefix_ok_iff _ _ _ _ _).mp read
  rw [spelled]
  exact (decodePrefix_ok_iff _ _ _ _ _).mpr ⟨acceptable, suffix, rfl, rfl⟩

theorem decode_prefix
    (read : decodePrefix data limits requireSortedKeys = .ok (value, consumed)) :
    decode (data.take consumed) limits requireSortedKeys = .ok value := by
  obtain ⟨spelled, -, -⟩ := decodePrefix_spelled read
  obtain ⟨acceptable, -⟩ := (decodePrefix_ok_iff _ _ _ _ _).mp read
  exact (decode_ok_iff _ _ _ _).mpr ⟨acceptable, spelled⟩

/-- A shorter prefix is no value: it would be read with any suffix, so also within the longer one. -/
theorem decodePrefix_shorter
    (read : decodePrefix data limits requireSortedKeys = .ok (value, consumed)) {shorter : Nat}
    (proper : shorter < consumed) (other : Value × Nat) :
    decodePrefix (data.take shorter) limits requireSortedKeys ≠ .ok other := by
  intro early
  obtain ⟨found, count⟩ := other
  obtain ⟨-, -, within⟩ := decodePrefix_spelled early
  have again := decodePrefix_append early (data.drop count)
  rw [List.length_take] at within
  rw [List.take_take, Nat.min_eq_left (by omega), List.take_append_drop, read] at again
  cases again
  omega

theorem decode_shorter
    (read : decodePrefix data limits requireSortedKeys = .ok (value, consumed)) {shorter : Nat}
    (proper : shorter < consumed) (other : Value) :
    decode (data.take shorter) limits requireSortedKeys ≠ .ok other := by
  intro early
  unfold decode at early
  rw [bind_ok_iff] at early
  obtain ⟨found, early, -⟩ := early
  exact decodePrefix_shorter read proper found early

end prefixes

end Bencode

namespace PeerWire

/-- The header of a BEP-9 data message. -/
def dataHeader (piece metadataSize : Int) : Message :=
  [(ascii "msg_type", .int 1), (ascii "piece", .int piece),
    (ascii "total_size", .int metadataSize)]

theorem dataHeader_distinct (piece metadataSize : Int) :
    (Value.dict (dataHeader piece metadataSize)).Distinct := by
  simp only [dataHeader, Distinct, All, Every, EveryEntry, keys, List.map_cons, List.map_nil]
  decide

theorem dataHeader_ordered (piece metadataSize : Int) :
    (Value.dict (dataHeader piece metadataSize)).Ordered := by
  simp only [dataHeader, Ordered, All, Every, EveryEntry, keys, List.map_cons, List.map_nil]
  decide

theorem dataHeader_convertible {piece metadataSize : Int} (positive : 0 ≤ piece)
    (within : piece ≤ metadataSize) (small : metadataSize < 10 ^ Bencode.maxStrDigits) :
    (Value.dict (dataHeader piece metadataSize)).All Bencode.Convertible := by
  have numeral : ∀ number : Int, 0 ≤ number → number ≤ metadataSize →
      (Decimal.write number.natAbs).length ≤ Bencode.maxStrDigits := by
    intro number above below
    apply Decimal.length_write_le (by decide)
    zify
    rw [abs_of_nonneg above]
    omega
  have first := numeral piece positive within
  have second := numeral metadataSize (by omega) (by omega)
  have names : ∀ key ∈ [ascii "msg_type", ascii "piece", ascii "total_size"],
      Bencode.ShortLength key := by
    unfold Bencode.ShortLength
    decide +kernel
  simp only [List.forall_mem_cons, List.not_mem_nil, false_implies, implies_true, and_true]
    at names
  simp only [dataHeader, all_dict, List.forall_mem_cons, all_int, Bencode.Convertible,
    ShortInteger, texts, keys, List.map_cons, List.map_nil, List.not_mem_nil, false_implies,
    implies_true, and_true, true_and]
  exact ⟨names, by decide +kernel, first, second⟩

/-- Room for the header of a BEP-9 data message, in depth, items and key lengths. -/
structure HeaderFits (config : Config) : Prop where
  depth : 1 ≤ config.maxBencodeDepth
  items : 7 ≤ config.maxBencodeItems
  texts : 10 ≤ config.maxBencodeStringLength

theorem dataHeader_acceptable {config : Config} (fits : HeaderFits config)
    {piece metadataSize : Int}
    (converts : (Value.dict (dataHeader piece metadataSize)).All Bencode.Convertible) :
    Bencode.Acceptable (limits config) false (.dict (dataHeader piece metadataSize)) := by
  obtain ⟨depth, items, long⟩ := fits
  refine ⟨?_, ?_, ?_, converts, dataHeader_distinct _ _, fun strict => by cases strict⟩
  · simp only [dataHeader, DepthWithin, Every, EveryEntry, limits]
    exact ⟨by omega, by omega, by omega, by omega, trivial⟩
  · simp only [dataHeader, count, countEntries, limits]
    omega
  · have names : ∀ key ∈ [ascii "msg_type", ascii "piece", ascii "total_size"],
        key.length ≤ 10 := by decide
    simp only [dataHeader, TextsWithin, all_dict, List.forall_mem_cons, all_int, texts, keys,
      List.map_cons, List.map_nil, List.not_mem_nil, false_implies, implies_true, and_true, limits]
      at names ⊢
    omega

/-- A BEP-9 data message is read as its header and its block, whatever the block's bytes. -/
theorem parseMetadataMessage_data {config : Config} (fits : HeaderFits config)
    {piece metadataSize pieceCount : Int} {block : Bytes} (positive : 0 ≤ piece)
    (inside : piece < pieceCount) (small : metadataSize < 10 ^ Bencode.maxStrDigits)
    (sized : (block.length : Int) =
      min BEP9_BLOCK_SIZE (metadataSize - piece * BEP9_BLOCK_SIZE)) :
    ∃ header, Bencode.encode (.dict (dataHeader piece metadataSize)) = .ok header ∧
      parseMetadataMessage config (header ++ block) metadataSize pieceCount =
        .ok { header := dataHeader piece metadataSize, msgType := 1, piece, trailing := block } := by
  have distinct := dataHeader_distinct piece metadataSize
  have within : piece ≤ metadataSize := by
    simp only [BEP9_BLOCK_SIZE] at sized
    omega
  have converts := dataHeader_convertible positive within small
  refine ⟨_, (Bencode.encode_ok_iff distinct _).mpr ⟨converts, rfl⟩, ?_⟩
  rw [canonical_of_ordered distinct (dataHeader_ordered piece metadataSize)]
  have read := (Bencode.decodePrefix_ok_iff
    ((Value.dict (dataHeader piece metadataSize)).write ++ block) (limits config) false _ _).mpr
    ⟨dataHeader_acceptable fits converts, block, rfl, rfl⟩
  unfold parseMetadataMessage
  rw [read]
  simp only [normalized, bind, Except.bind, List.drop_left]
  have types : (dataHeader piece metadataSize).get? "msg_type" = some (.int 1) := rfl
  have pieces : (dataHeader piece metadataSize).get? "piece" = some (.int piece) := rfl
  have sizes : (dataHeader piece metadataSize).get? "total_size" = some (.int metadataSize) := rfl
  unfold metadataMessage
  rw [types, pieces, sizes]
  simp [Value.asInt, positive, inside, sized]

end PeerWire

/-- What `decode_prefix` reads is delimited by itself; so the header of a metadata message ends
where it must, whatever the bytes of the block behind it. -/
theorem self_delimiting (config : Config) (fits : PeerWire.HeaderFits config)
    (small : config.maxMetadataSize < 10 ^ Bencode.maxStrDigits) :
    (∀ (data : Bytes) (limits : Bencode.DecodeLimits) (requireSortedKeys : Bool) (value : Value)
        (consumed : Nat),
      Bencode.decodePrefix data limits requireSortedKeys = .ok (value, consumed) →
        0 < consumed ∧ consumed ≤ data.length ∧
        (∀ suffix, Bencode.decodePrefix (data.take consumed ++ suffix) limits requireSortedKeys =
          .ok (value, consumed)) ∧
        Bencode.decode (data.take consumed) limits requireSortedKeys = .ok value ∧
        ∀ shorter < consumed,
          (∀ other, Bencode.decode (data.take shorter) limits requireSortedKeys ≠ .ok other) ∧
          ∀ other, Bencode.decodePrefix (data.take shorter) limits requireSortedKeys ≠ .ok other) ∧
    (∀ (metadataSize piece pieceCount : Int) (block : Bytes),
      1 ≤ metadataSize → metadataSize ≤ config.maxMetadataSize → 0 ≤ piece → piece < pieceCount →
      (block.length : Int) = min BEP9_BLOCK_SIZE (metadataSize - piece * BEP9_BLOCK_SIZE) →
        ∃ header,
          Bencode.encode (.dict [(ascii "msg_type", .int 1), (ascii "piece", .int piece),
            (ascii "total_size", .int metadataSize)]) = .ok header ∧
          PeerWire.parseMetadataMessage config (header ++ block) metadataSize pieceCount =
            .ok { header := [(ascii "msg_type", .int 1), (ascii "piece", .int piece),
                    (ascii "total_size", .int metadataSize)],
                  msgType := 1, piece, trailing := block }) := by
  constructor
  · intro data limits requireSortedKeys value consumed read
    obtain ⟨-, positive, within⟩ := Bencode.decodePrefix_spelled read
    refine ⟨positive, within, Bencode.decodePrefix_append read, Bencode.decode_prefix read, ?_⟩
    intro shorter proper
    exact ⟨Bencode.decode_shorter read proper, Bencode.decodePrefix_shorter read proper⟩
  · intro metadataSize piece pieceCount block _ allowed positive inside sized
    exact PeerWire.parseMetadataMessage_data fits positive inside (by omega) sized

/-- The default limits, a block that looks like bencode itself. -/
theorem self_delimiting_sample :
    (∀ suffix, Bencode.decodePrefix ((ascii "i7eie").take 3 ++ suffix) ⟨4, 9, 9⟩ true =
      .ok (.int 7, 3)) ∧
    ∃ header, Bencode.encode (.dict [(ascii "msg_type", .int 1), (ascii "piece", .int 1),
        (ascii "total_size", .int 16389)]) = .ok header ∧
      PeerWire.parseMetadataMessage {} (header ++ ascii "e1:ee") 16389 2 =
        .ok { header := [(ascii "msg_type", .int 1), (ascii "piece", .int 1),
                (ascii "total_size", .int 16389)],
              msgType := 1, piece := 1, trailing := ascii "e1:ee" } := by
  have fits : PeerWire.HeaderFits {} := ⟨by decide, by decide, by decide⟩
  have small : ({} : Config).maxMetadataSize < 10 ^ Bencode.maxStrDigits := by
    calc ({} : Config).maxMetadataSize < 10 ^ 7 := by decide
      _ ≤ 10 ^ Bencode.maxStrDigits := pow_le_pow_right₀ (by decide) (by decide)
  refine ⟨((self_delimiting {} fits small).1 _ _ _ (.int 7) 3 rfl).2.2.1, ?_⟩
  exact (self_delimiting {} fits small).2 16389 1 2 (ascii "e1:ee") (by decide) (by decide)
    (by decide) (by decide) (by decide)

end PyDht
