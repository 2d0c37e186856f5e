import PyDht.BencodeNumerals

set_option autoImplicit false

namespace PyDht

namespace PeerWire

/-- The header and the block behind it are those of a request, a data message or a reject. -/
structure Conforming (header : Message) (trailing : Bytes) (metadataSize expectedPieceCount : Int)
    (message : MetadataMessage) : Prop where
  sameHeader : message.header = header
  sameTrailing : message.trailing = trailing
  msgType : header.get? "msg_type" = some (.int message.msgType)
  piece : header.get? "piece" = some (.int message.piece)
  known : message.msgType = 0 ∨ message.msgType = 1 ∨ message.msgType = 2
  inside : 0 ≤ message.piece ∧ message.piece < expectedPieceCount
  block : message.msgType = 1 → header.get? "total_size" = some (.int metadataSize) ∧
    (trailing.length : Int) =
      min BEP9_BLOCK_SIZE (metadataSize - message.piece * BEP9_BLOCK_SIZE)
  bare : message.msgType ≠ 1 → trailing = []

/-- A header whose type Python cannot look up in a set. -/
def Unhashable (header : Message) : Prop :=
  (∃ items, header.get? "msg_type" = some (.list items)) ∨
    ∃ entries, header.get? "msg_type" = some (.dict entries)

section checks

variable {header : Message} {trailing : Bytes} {metadataSize expectedPieceCount : Int}

theorem asInt_eq_some_iff (value : Option Value) (number : Int) :
    Value.asInt value = some number ↔ value = some (.int number) := by
  cases value with
  | none => simp [Value.asInt]
  | some found => cases found <;> simp [Value.asInt]

theorem metadataMessage_ok_iff (message : MetadataMessage) :
    metadataMessage header trailing metadataSize expectedPieceCount = .ok message ↔
      Conforming header trailing metadataSize expectedPieceCount message := by
  constructor
  · intro parsed
    unfold metadataMessage at parsed
    dsimp only at parsed
    split at parsed
    · cases parsed
    · cases parsed
    · rename_i msgType isType
      split at parsed
      · rename_i piece isPiece
        by_cases invalid : ¬ (msgType = 0 ∨ msgType = 1 ∨ msgType = 2) ∨
            ¬ (0 ≤ piece ∧ piece < expectedPieceCount)
        · rw [if_pos invalid] at parsed
          cases parsed
        rw [if_neg invalid] at parsed
        have known : msgType = 0 ∨ msgType = 1 ∨ msgType = 2 := by omega
        have inside : 0 ≤ piece ∧ piece < expectedPieceCount := by omega
        by_cases data : msgType = 1
        · rw [if_pos data] at parsed
          by_cases size : Value.asInt (header.get? "total_size") ≠ some metadataSize
          · rw [if_pos size] at parsed
            cases parsed
          rw [if_neg size] at parsed
          by_cases length : (trailing.length : Int) ≠
              min BEP9_BLOCK_SIZE (metadataSize - piece * BEP9_BLOCK_SIZE)
          · rw [if_pos length] at parsed
            cases parsed
          rw [if_neg length] at parsed
          cases parsed
          rw [not_not] at size length
          exact ⟨rfl, rfl, isType, isPiece, known, inside,
            fun _ => ⟨(asInt_eq_some_iff _ _).mp size, length⟩, fun other => absurd data other⟩
        · rw [if_neg data] at parsed
          by_cases more : trailing ≠ []
          · rw [if_pos more] at parsed
            cases parsed
          rw [if_neg more] at parsed
          cases parsed
          exact ⟨rfl, rfl, isType, isPiece, known, inside, fun same => absurd same data,
            fun _ => not_not.mp more⟩
      · cases parsed
    · cases parsed
  · intro conforming
    obtain ⟨found, msgType, piece, rest⟩ := message
    obtain ⟨rfl, rfl, isType, isPiece, known, inside, block, bare⟩ := conforming
    dsimp only at isType isPiece known inside block bare
    unfold metadataMessage
    rw [isType]
    dsimp only
    rw [isPiece]
    dsimp only
    rw [if_neg (by omega)]
    by_cases data : msgType = 1
    · obtain ⟨size, length⟩ := block data
      rw [if_pos data, if_neg (not_not.mpr ((asInt_eq_some_iff _ _).mpr size)),
        if_neg (not_not.mpr length)]
    · rw [if_neg data, if_neg (not_not.mpr (bare data))]

theorem metadataMessage_error {fault : PyError}
    (failed : metadataMessage header trailing metadataSize expectedPieceCount = .error fault) :
    (∃ text, fault = .peerError "metadata_invalid" "metadata" text) ∨
      Unhashable header := by
  unfold metadataMessage at failed
  dsimp only at failed
  split at failed
  · rename_i items listed
    exact .inr (.inl ⟨items, listed⟩)
  · rename_i entries listed
    exact .inr (.inr ⟨entries, listed⟩)
  · left
    split at failed
    · split at failed
      · cases failed
        exact ⟨_, rfl⟩
      split at failed
      · split at failed
        · cases failed
          exact ⟨_, rfl⟩
        split at failed
        · cases failed
          exact ⟨_, rfl⟩
        · cases failed
      split at failed
      · cases failed
        exact ⟨_, rfl⟩
      · cases failed
    · cases failed
      exact ⟨_, rfl⟩
  · cases failed
    exact .inl ⟨_, rfl⟩

theorem metadataMessage_unhashable (unhashable : Unhashable header) :
    ∃ text, metadataMessage header trailing metadataSize expectedPieceCount =
      .error (.typeError text) := by
  unfold metadataMessage
  rcases unhashable with ⟨items, listed⟩ | ⟨entries, listed⟩
  · rw [listed]
    exact ⟨_, rfl⟩
  · rw [listed]
    exact ⟨_, rfl⟩

end checks

section messages

variable {config : Config} {payload : Bytes} {metadataSize expectedPieceCount : Int}

theorem normalized_settles {α : Type} {outcome : Except PyError α}
    (settles : Bencode.Settles outcome) (fault : PyError) :
    (∃ result, outcome = .ok result ∧ normalized fault outcome = .ok result) ∨
      (∃ text, outcome = .error (.bencodeError text) ∧
        normalized fault outcome = .error fault) := by
  rcases settles with ⟨result, same⟩ | ⟨text, same⟩
  · rw [same]
    exact .inl ⟨result, rfl, rfl⟩
  · rw [same]
    exact .inr ⟨text, rfl, rfl⟩

/-- The payload is a header in tolerant bencode and a block, which fit each other. -/
def Wellformed (config : Config) (payload : Bytes) (metadataSize expectedPieceCount : Int)
    (message : MetadataMessage) : Prop :=
  ∃ entries consumed,
    Bencode.decodePrefix payload (limits config) false = .ok (.dict entries, consumed) ∧
      Conforming entries (payload.drop consumed) metadataSize expectedPieceCount message

/-- What the decoder makes of the payload has a list or a dictionary for its type. -/
def UnhashableType (config : Config) (payload : Bytes) : Prop :=
  ∃ entries consumed,
    Bencode.decodePrefix payload (limits config) false = .ok (.dict entries, consumed) ∧
      Unhashable entries

theorem parseMetadataMessage_cases
    (settles : Bencode.Settles (Bencode.decodePrefix payload (limits config) false)) :
    (∃ entries consumed,
      Bencode.decodePrefix payload (limits config) false = .ok (.dict entries, consumed) ∧
      parseMetadataMessage config payload metadataSize expectedPieceCount =
        metadataMessage entries (payload.drop consumed) metadataSize expectedPieceCount) ∨
    ((∀ entries consumed,
      Bencode.decodePrefix payload (limits config) false ≠ .ok (.dict entries, consumed)) ∧
      ∃ text, parseMetadataMessage config payload metadataSize expectedPieceCount =
        .error (.peerError "metadata_invalid" "metadata" text)) := by
  unfold parseMetadataMessage
  rcases normalized_settles settles (.peerError "metadata_invalid" "metadata"
    "invalid BEP-9 metadata message bencode") with ⟨result, read, passed⟩ | ⟨text, read, passed⟩
  · rw [passed]
    obtain ⟨value, consumed⟩ := result
    cases value with
    | dict entries => exact .inl ⟨entries, consumed, read, rfl⟩
    | int number => exact .inr ⟨by simp [read], _, rfl⟩
    | bytes text => exact .inr ⟨by simp [read], _, rfl⟩
    | list items => exact .inr ⟨by simp [read], _, rfl⟩
  · rw [passed]
    exact .inr ⟨by simp [read], _, rfl⟩

theorem parseMetadataMessage_ok_iff
    (settles : Bencode.Settles (Bencode.decodePrefix payload (limits config) false))
    (message : MetadataMessage) :
    parseMetadataMessage config payload metadataSize expectedPieceCount = .ok message ↔
      Wellformed config payload metadataSize expectedPieceCount message := by
  rcases parseMetadataMessage_cases settles with ⟨entries, consumed, read, same⟩ | ⟨none, text, failed⟩
  · rw [same, metadataMessage_ok_iff]
    constructor
    · intro conforming
      exact ⟨entries, consumed, read, conforming⟩
    · rintro ⟨others, count, reread, conforming⟩
      rw [read] at reread
      cases reread
      exact conforming
  · rw [failed]
    constructor
    · intro impossible
      cases impossible
    · rintro ⟨entries, consumed, read, _⟩
      exact absurd read (none entries consumed)

end messages

/-- `parse_metadata_message` returns the well-formed messages, and raises nothing but a `PeerError`
for all others, if and only if the type in the header is no list and no dictionary. -/
theorem parseMetadataMessage_settles_iff (config : Config) (payload : Bytes)
    (metadataSize expectedPieceCount : Int)
    (settles : Bencode.Settles (Bencode.decodePrefix payload (limits config) false)) :
    ((∀ message, parseMetadataMessage config payload metadataSize expectedPieceCount =
        .ok message ↔ Wellformed config payload metadataSize expectedPieceCount message) ∧
      ((∀ message, ¬ Wellformed config payload metadataSize expectedPieceCount message) →
        ∃ category stage text,
          parseMetadataMessage config payload metadataSize expectedPieceCount =
            .error (.peerError category stage text))) ↔
      ¬ UnhashableType config payload := by
  constructor
  · rintro ⟨_, others⟩ ⟨entries, consumed, read, unhashable⟩
    rcases @parseMetadataMessage_cases _ _ metadataSize expectedPieceCount settles with
      ⟨found, count, reread, same⟩ | ⟨none, _⟩
    · rw [read] at reread
      cases reread
      obtain ⟨cause, failed⟩ := @metadataMessage_unhashable _ (payload.drop consumed) metadataSize
        expectedPieceCount unhashable
      have none : ∀ message,
          ¬ Wellformed config payload metadataSize expectedPieceCount message := by
        intro message wellformed
        rw [← parseMetadataMessage_ok_iff settles, same, failed] at wellformed
        cases wellformed
      obtain ⟨category, stage, text, raised⟩ := others none
      rw [same, failed] at raised
      cases raised
    · exact none entries consumed read
  · intro hashable
    refine ⟨parseMetadataMessage_ok_iff settles, fun none => ?_⟩
    rcases @parseMetadataMessage_cases _ _ metadataSize expectedPieceCount settles with
      ⟨entries, consumed, read, same⟩ | ⟨_, text, failed⟩
    · cases outcome : metadataMessage entries (payload.drop consumed) metadataSize
          expectedPieceCount with
      | ok message =>
          exact absurd ((parseMetadataMessage_ok_iff settles message).mp (same.trans outcome))
            (none message)
      | error fault =>
          rcases metadataMessage_error outcome with ⟨text, expected⟩ | unhashable
          · rw [same, outcome, expected]
            exact ⟨_, _, _, rfl⟩
          · exact absurd ⟨entries, consumed, read, unhashable⟩ hashable
    · exact ⟨_, _, _, failed⟩

/-- A header about piece 0. -/
def typedHeader (msgType : Value) : Message :=
  [(ascii "msg_type", msgType), (ascii "piece", .int 0)]

theorem typedHeader_acceptable {msgType : Value}
    (known : msgType = .int 0 ∨ msgType = .int 2 ∨ msgType = .list []) :
    Bencode.Acceptable (limits {}) false (.dict (typedHeader msgType)) := by
  rcases known with rfl | rfl | rfl
  all_goals
    refine ⟨?_, ?_, ?_, ?_, ?_, by simp⟩
    · simp [typedHeader, Value.DepthWithin, limits]
    · simp [typedHeader, Value.count, Value.countEntries, Value.countItems, limits]
    · simp [typedHeader, Value.TextsWithin, Value.texts, Value.keys, limits, ascii]
    · simp only [typedHeader, Value.All, Value.Every, Value.EveryEntry, Value.EveryItem,
        Bencode.Convertible, Bencode.ShortLength, Value.texts, Value.keys, Value.ShortInteger]
      decide +kernel
    · simp only [typedHeader, Value.Distinct, Value.All, Value.Every, Value.EveryEntry,
        Value.EveryItem, Value.keys]
      decide

theorem reject_read : Bencode.decodePrefix (ascii "d8:msg_typei2e5:piecei0ee") (limits {}) false =
    .ok (.dict (typedHeader (.int 2)), 25) :=
  (Bencode.decodePrefix_ok_iff _ _ _ _ _).mpr
    ⟨typedHeader_acceptable (.inr (.inl rfl)), [], by decide +kernel, by decide +kernel⟩

theorem listType_read : Bencode.decodePrefix (ascii "d8:msg_typele5:piecei0ee") (limits {}) false =
    .ok (.dict (typedHeader (.list [])), 24) :=
  (Bencode.decodePrefix_ok_iff _ _ _ _ _).mpr
    ⟨typedHeader_acceptable (.inr (.inr rfl)), [], by decide +kernel, by decide +kernel⟩

theorem parseMetadataMessage_settles_iff_sample :
    ((∀ message, parseMetadataMessage {} (ascii "d8:msg_typei2e5:piecei0ee") 1 1 =
        .ok message ↔ Wellformed {} (ascii "d8:msg_typei2e5:piecei0ee") 1 1 message) ∧
      ((∀ message, ¬ Wellformed {} (ascii "d8:msg_typei2e5:piecei0ee") 1 1 message) →
        ∃ category stage text,
          parseMetadataMessage {} (ascii "d8:msg_typei2e5:piecei0ee") 1 1 =
            .error (.peerError category stage text))) ↔
      ¬ UnhashableType {} (ascii "d8:msg_typei2e5:piecei0ee") :=
  parseMetadataMessage_settles_iff {} (ascii "d8:msg_typei2e5:piecei0ee") 1 1
    (.inl ⟨_, reject_read⟩)

/-- With a list for its type a message is rejected with a `TypeError`. -/
theorem unhashable_escapes :
    Bencode.decodePrefix (ascii "d8:msg_typele5:piecei0ee") (limits {}) false =
        .ok (.dict (typedHeader (.list [])), 24) ∧
      (∀ message, ¬ Wellformed {} (ascii "d8:msg_typele5:piecei0ee") 1 1 message) ∧
      parseMetadataMessage {} (ascii "d8:msg_typele5:piecei0ee") 1 1 =
        .error (.typeError "unhashable type: \x27list\x27") := by
  have raised : parseMetadataMessage {} (ascii "d8:msg_typele5:piecei0ee") 1 1 =
      .error (.typeError "unhashable type: \x27list\x27") := by
    unfold parseMetadataMessage
    rw [listType_read]
    rfl
  refine ⟨listType_read, fun message wellformed => ?_, raised⟩
  rw [← parseMetadataMessage_ok_iff (.inl ⟨_, listType_read⟩), raised] at wellformed
  cases wellformed

end PeerWire

end PyDht
