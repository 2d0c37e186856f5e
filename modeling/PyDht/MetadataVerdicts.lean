import PyDht.MetadataExchange
import PyDht.MetadataHeaders

set_option autoImplicit false

namespace PyDht

namespace PeerWire

section answers

variable {config : Config} {payload : Bytes} {metadataSize pieceCount : Int}
  {message : MetadataMessage}

/-- What `parse_metadata_message` returns comes from a header that could be decoded. -/
theorem parseMetadataMessage_wellformed
    (parsed : parseMetadataMessage config payload metadataSize pieceCount = .ok message) :
    Wellformed config payload metadataSize pieceCount message := by
  unfold parseMetadataMessage at parsed
  obtain ⟨found, read, checked⟩ := bind_ok_iff.mp parsed
  obtain ⟨value, consumed⟩ := found
  have decoded : Bencode.decodePrefix payload (limits config) false = .ok (value, consumed) := by
    cases outcome : Bencode.decodePrefix payload (limits config) false with
    | ok result =>
        rw [outcome] at read
        exact read
    | error fault =>
        rw [outcome] at read
        cases fault <;> cases read
  cases value with
  | dict entries => exact ⟨entries, consumed, decoded, (metadataMessage_ok_iff message).mp checked⟩
  | int number => cases checked
  | bytes text => cases checked
  | list items => cases checked

/-- The numbers of a header that was decoded can be written again. -/
theorem Wellformed.converts (wellformed : Wellformed config payload metadataSize pieceCount message)
    {key : String} {number : Int} (entry : message.header.get? key = some (.int number)) :
    Bencode.Converts (.int number) := by
  obtain ⟨entries, consumed, read, conforming⟩ := wellformed
  obtain ⟨acceptable, _⟩ := (Bencode.decodePrefix_ok_iff _ _ _ _ _).mp read
  rw [conforming.sameHeader] at entry
  exact ((Bencode.converts_dict entries).mp acceptable.convertible _ (Dict.mem_of_get? entry)).2

/-- A message about a piece, without a block. -/
theorem encode_bare (msgType piece : Int) (small : msgType.natAbs < 10 ^ 20)
    (converts : Bencode.Converts (.int piece)) :
    ∃ data, Bencode.encode (.dict [(ascii "msg_type", .int msgType), (ascii "piece", .int piece)]) =
      .ok data := by
  have distinct : (Value.dict [(ascii "msg_type", .int msgType),
      (ascii "piece", .int piece)]).Distinct := by
    simp only [Value.Distinct, Value.All, Value.Every, Value.EveryEntry, Value.keys, List.map_cons,
      List.map_nil]
    decide
  refine ⟨_, (Bencode.encode_ok_iff distinct _).mpr ⟨?_, rfl⟩⟩
  rw [← Bencode.Converts, Bencode.converts_dict]
  simp only [List.forall_mem_cons, List.not_mem_nil, false_implies, implies_true, and_true]
  exact ⟨⟨Bencode.shortLength_of_lt (by decide), Bencode.converts_int small⟩,
    Bencode.shortLength_of_lt (by decide), converts⟩

/-- What the peer asks for can be refused. -/
theorem buildMetadataReject_of_parsed
    (parsed : parseMetadataMessage config payload metadataSize pieceCount = .ok message)
    (extensionId : UInt8) :
    ∃ data, buildMetadataReject extensionId message.piece = .ok data := by
  have wellformed := parseMetadataMessage_wellformed parsed
  have piece : message.header.get? "piece" = some (.int message.piece) := by
    obtain ⟨entries, consumed, _, conforming⟩ := wellformed
    rw [conforming.sameHeader]
    exact conforming.piece
  obtain ⟨data, encoded⟩ := encode_bare 2 message.piece (by decide) (wellformed.converts piece)
  refine ⟨frame extensionId data, ?_⟩
  rw [buildMetadataReject, encoded]
  rfl

theorem buildMetadataRequest_range {extensionId piece : Int} {data : Bytes}
    (built : buildMetadataRequest extensionId piece = .ok data) :
    1 ≤ extensionId ∧ extensionId ≤ 255 := by
  by_cases invalid : ¬ (1 ≤ extensionId ∧ extensionId ≤ 255) ∨ piece < 0
  · unfold buildMetadataRequest at built
    rw [if_pos invalid] at built
    cases built
  · omega

/-- Two messages at the front of the same bytes are the same. -/
theorem wire_injective {one other : Option Bytes} {rest behind : Bytes} (framed : Framed config one)
    (also : Framed config other) (same : wire one ++ rest = wire other ++ behind) :
    one = other := by
  rw [wire, List.append_assoc] at same
  obtain ⟨count, tail⟩ := wire_head also (length_packUInt32 _) same
  have short : (one.getD []).length < 2 ^ 32 := by
    cases one with
    | none => decide
    | some body => exact (framed body rfl).2.2
  rw [fromBytes_packUInt32 short] at count
  have bodies := (List.append_inj tail count).1
  cases one with
  | none =>
      cases other with
      | none => rfl
      | some body => exact absurd bodies.symm (also body rfl).1
  | some body =>
      cases other with
      | none => exact absurd bodies (framed body rfl).1
      | some second => exact congrArg some bodies

end answers

section faults

/-- The complaint of `_download_metadata` about the size of what it has put together. -/
def lengthMismatch : PyError :=
  .peerError "metadata_invalid" "metadata" "assembled metadata length mismatch"

theorem valueFault_ne {fault : PyError} (known : Bencode.ValueFault fault) :
    fault ≠ lengthMismatch := by
  rintro rfl
  cases known

theorem normalized_raises {α : Type} {outcome : Except PyError α} {fault : PyError}
    {allowed : PyError → Prop} (raises : Raises Bencode.ValueFault outcome) (here : allowed fault)
    (others : ∀ fault, Bencode.ValueFault fault → allowed fault) :
    Raises allowed (normalized fault outcome) := by
  intro other failed
  cases outcome with
  | ok value => cases failed
  | error raised =>
      have known := raises raised rfl
      cases raised with
      | bencodeError text =>
          cases failed
          exact here
      | _ =>
          cases failed
          exact others _ known

theorem metadataMessage_raises (header : Message) (trailing : Bytes)
    (metadataSize expectedPieceCount : Int) :
    Raises (· ≠ lengthMismatch)
      (metadataMessage header trailing metadataSize expectedPieceCount) := by
  have complaint : ∀ text, text ≠ "assembled metadata length mismatch" →
      PyError.peerError "metadata_invalid" "metadata" text ≠ lengthMismatch := by
    intro text other same
    cases same
    exact other rfl
  unfold metadataMessage
  dsimp only
  split
  · exact Raises.error (by simp [lengthMismatch])
  · exact Raises.error (by simp [lengthMismatch])
  · split
    · split
      · exact Raises.error (complaint _ (by decide))
      split
      · split
        · exact Raises.error (complaint _ (by decide))
        split
        · exact Raises.error (complaint _ (by decide))
        · exact Raises.ok _
      split
      · exact Raises.error (complaint _ (by decide))
      · exact Raises.ok _
    · exact Raises.error (complaint _ (by decide))
  · exact Raises.error (complaint _ (by decide))

theorem parseMetadataMessage_raises (config : Config) (payload : Bytes)
    (metadataSize expectedPieceCount : Int) :
    Raises (· ≠ lengthMismatch)
      (parseMetadataMessage config payload metadataSize expectedPieceCount) := by
  unfold parseMetadataMessage
  have header := @normalized_raises _ _ (.peerError "metadata_invalid" "metadata"
    "invalid BEP-9 metadata message bencode") (· ≠ lengthMismatch)
    (Bencode.decodePrefix_raises payload (limits config) false) (by simp [lengthMismatch])
    fun _ known => valueFault_ne known
  apply header.bind
  intro found _
  obtain ⟨value, consumed⟩ := found
  cases value with
  | dict entries => exact metadataMessage_raises _ _ _ _
  | _ => exact Raises.error (by simp [lengthMismatch])

theorem parseExtensionHandshake_raises (config : Config) (payload : Bytes) :
    Raises (· ≠ lengthMismatch) (parseExtensionHandshake config payload) := by
  unfold parseExtensionHandshake
  have value := @normalized_raises _ _ (.peerError "extension_handshake_invalid"
    "extension_handshake" "invalid BEP-10 extension handshake bencode") (· ≠ lengthMismatch)
    (Bencode.decode_raises payload (limits config) false) (by simp [lengthMismatch])
    fun _ known => valueFault_ne known
  apply value.bind
  intro found _
  cases found with
  | dict entries =>
      show Raises _ (extensionHandshake config entries)
      unfold extensionHandshake
      dsimp only
      split
      · exact Raises.ok _
      · split
        · exact Raises.error (by simp [lengthMismatch])
        · exact Raises.ok _
      · exact Raises.error (by simp [lengthMismatch])
  | _ => exact Raises.error (by simp [lengthMismatch])

theorem buildMetadataRequest_raises (extensionId piece : Int) :
    Raises (· ≠ lengthMismatch) (buildMetadataRequest extensionId piece) := by
  unfold buildMetadataRequest
  split
  · exact Raises.error (by simp [lengthMismatch])
  · exact ((Bencode.encode_raises _).mono fun _ known => valueFault_ne known).bind
      fun _ _ => Raises.pure _

theorem buildMetadataReject_raises (extensionId : UInt8) (piece : Int) :
    Raises (· ≠ lengthMismatch) (buildMetadataReject extensionId piece) := by
  unfold buildMetadataReject
  exact ((Bencode.encode_raises _).mono fun _ known => valueFault_ne known).bind
    fun _ _ => Raises.pure _

end faults

end PeerWire

theorem PeerFault.error_ne (fault : PeerFault) : fault.error ≠ PeerWire.lengthMismatch := by
  cases fault <;> simp [PeerFault.error, PeerWire.lengthMismatch]

namespace Verdict

/-- A message is a handshake, about metadata, or of no interest. -/
theorem ofMessage_cases (config : Config) (metadataSize pieceCount : Int) (transfer : Transfer)
    (message : Option Bytes) :
    (∃ payload, message = some (BT_EXTENDED_MESSAGE_ID :: 0 :: payload) ∧
      ofMessage config metadataSize pieceCount transfer message = ofHandshake config payload) ∨
    (∃ payload, message = some (BT_EXTENDED_MESSAGE_ID :: LOCAL_UT_METADATA_ID :: payload) ∧
      ofMessage config metadataSize pieceCount transfer message =
        ofMetadata config metadataSize pieceCount transfer payload) ∨
    ((∀ payload, message ≠ some (BT_EXTENDED_MESSAGE_ID :: 0 :: payload)) ∧
      (∀ payload, message ≠ some (BT_EXTENDED_MESSAGE_ID :: LOCAL_UT_METADATA_ID :: payload)) ∧
      ofMessage config metadataSize pieceCount transfer message = .ignore) := by
  match message with
  | none | some [] | some [_] => exact .inr (.inr ⟨by simp, by simp, rfl⟩)
  | some (messageId :: extensionId :: payload) =>
      unfold ofMessage
      dsimp only
      by_cases other : messageId ≠ BT_EXTENDED_MESSAGE_ID
      · rw [if_pos other]
        exact .inr (.inr ⟨by simp [other], by simp [other], rfl⟩)
      rw [if_neg other]
      rw [not_not] at other
      by_cases handshake : extensionId = 0
      · rw [if_pos handshake, other, handshake]
        exact .inl ⟨payload, rfl, rfl⟩
      rw [if_neg handshake]
      by_cases metadata : extensionId = LOCAL_UT_METADATA_ID
      · rw [if_pos metadata, other, metadata]
        exact .inr (.inl ⟨payload, rfl, rfl⟩)
      · rw [if_neg metadata]
        exact .inr (.inr ⟨by simp [handshake], by simp [metadata], rfl⟩)

theorem ofHandshake_cases (config : Config) (payload : Bytes) :
    (∃ fault, PeerWire.parseExtensionHandshake config payload = .error fault ∧
      ofHandshake config payload = .fail fault) ∨
    ∃ handshake, PeerWire.parseExtensionHandshake config payload = .ok handshake ∧
      ((Dict.get? (ascii "ut_metadata") handshake.mapping = none ∧
          ofHandshake config payload = .ignore) ∨
        (Dict.get? (ascii "ut_metadata") handshake.mapping = some 0 ∧
          ofHandshake config payload = .fail (.peerError "ut_metadata_unavailable" "metadata"
            "peer disabled ut_metadata during metadata exchange")) ∨
        ∃ updated, updated ≠ 0 ∧
          Dict.get? (ascii "ut_metadata") handshake.mapping = some updated ∧
          ofHandshake config payload = .remap updated) := by
  unfold ofHandshake
  cases PeerWire.parseExtensionHandshake config payload with
  | error fault => exact .inl ⟨fault, rfl, rfl⟩
  | ok handshake =>
      refine .inr ⟨handshake, rfl, ?_⟩
      dsimp only
      cases Dict.get? (ascii "ut_metadata") handshake.mapping with
      | none => exact .inl ⟨rfl, rfl⟩
      | some updated =>
          by_cases withdrawn : updated = 0
          · exact .inr (.inl ⟨congrArg some withdrawn, if_pos withdrawn⟩)
          · exact .inr (.inr ⟨updated, withdrawn, rfl, if_neg withdrawn⟩)

/-- What is made of a message about metadata. -/
theorem ofMetadata_cases (config : Config) (metadataSize pieceCount : Int) (transfer : Transfer)
    (payload : Bytes) :
    (∃ fault, PeerWire.parseMetadataMessage config payload metadataSize pieceCount =
        .error fault ∧
      ofMetadata config metadataSize pieceCount transfer payload = .fail fault) ∨
    ∃ message, PeerWire.parseMetadataMessage config payload metadataSize pieceCount =
        .ok message ∧
      ((message.msgType = 0 ∧
          ofMetadata config metadataSize pieceCount transfer payload = .refuse message.piece) ∨
        (message.msgType = 2 ∧ message.piece ∈ transfer.outstanding ∧
          ofMetadata config metadataSize pieceCount transfer payload =
            .fail (.peerError "metadata_rejected" "metadata"
              s!"peer rejected metadata piece {message.piece}")) ∨
        (message.msgType = 2 ∧ message.piece ∉ transfer.outstanding ∧
          ofMetadata config metadataSize pieceCount transfer payload = .ignore) ∨
        (message.msgType = 1 ∧ ∃ known, Dict.get? message.piece transfer.pieces = some known ∧
          (known ≠ message.trailing ∧
            ofMetadata config metadataSize pieceCount transfer payload =
              .fail (.peerError "metadata_invalid" "metadata"
                "conflicting duplicate metadata piece") ∨
          known = message.trailing ∧
            ofMetadata config metadataSize pieceCount transfer payload = .ignore)) ∨
        (message.msgType = 1 ∧ Dict.get? message.piece transfer.pieces = none ∧
          (message.piece ∉ transfer.outstanding ∧
            ofMetadata config metadataSize pieceCount transfer payload =
              .fail (.peerError "metadata_invalid" "metadata" "unsolicited metadata piece") ∨
          message.piece ∈ transfer.outstanding ∧
            ofMetadata config metadataSize pieceCount transfer payload =
              .keep message.piece message.trailing))) := by
  unfold ofMetadata
  cases parsed : PeerWire.parseMetadataMessage config payload metadataSize pieceCount with
  | error fault => exact .inl ⟨fault, rfl, rfl⟩
  | ok message =>
      refine .inr ⟨message, rfl, ?_⟩
      dsimp only
      by_cases asks : message.msgType = 0
      · exact .inl ⟨asks, if_pos asks⟩
      rw [if_neg asks]
      right
      by_cases rejects : message.msgType = 2
      · rw [if_pos rejects]
        by_cases wanted : message.piece ∈ transfer.outstanding
        · exact .inl ⟨rejects, wanted, if_pos wanted⟩
        · exact .inr (.inl ⟨rejects, wanted, if_neg wanted⟩)
      rw [if_neg rejects]
      have data : message.msgType = 1 := by
        obtain ⟨_, _, _, conforming⟩ := PeerWire.parseMetadataMessage_wellformed parsed
        have known := conforming.known
        omega
      right
      right
      cases Dict.get? message.piece transfer.pieces with
      | some known =>
          by_cases conflict : known ≠ message.trailing
          · exact .inl ⟨data, known, rfl, .inl ⟨conflict, if_pos conflict⟩⟩
          · exact .inl ⟨data, known, rfl, .inr ⟨not_not.mp conflict, if_neg conflict⟩⟩
      | none =>
          by_cases wanted : message.piece ∉ transfer.outstanding
          · exact .inr ⟨data, rfl, .inl ⟨wanted, if_pos wanted⟩⟩
          · exact .inr ⟨data, rfl, .inr ⟨not_not.mp wanted, if_neg wanted⟩⟩

variable {config : Config} {metadataSize pieceCount : Int} {transfer : Transfer}

/-- Requests, and nothing else, are refused. -/
theorem ofMessage_refuse {message : Option Bytes} {piece : Int}
    (refused : ofMessage config metadataSize pieceCount transfer message = .refuse piece) :
    ∃ payload request,
      message = some (BT_EXTENDED_MESSAGE_ID :: LOCAL_UT_METADATA_ID :: payload) ∧
      PeerWire.parseMetadataMessage config payload metadataSize pieceCount = .ok request ∧
      request.msgType = 0 ∧ request.piece = piece := by
  rcases ofMessage_cases config metadataSize pieceCount transfer message with
    ⟨payload, rfl, same⟩ | ⟨payload, rfl, same⟩ | ⟨_, _, same⟩
  · rw [same] at refused
    rcases ofHandshake_cases config payload with
      ⟨_, _, other⟩ | ⟨_, _, ⟨_, other⟩ | ⟨_, other⟩ | ⟨_, _, _, other⟩⟩
    all_goals
      rw [other] at refused
      cases refused
  · rw [same] at refused
    rcases ofMetadata_cases config metadataSize pieceCount transfer payload with
      ⟨_, _, other⟩ | ⟨request, parsed, ⟨asks, other⟩ | ⟨_, _, other⟩ | ⟨_, _, other⟩ |
        ⟨_, _, _, ⟨_, other⟩ | ⟨_, other⟩⟩ | ⟨_, _, ⟨_, other⟩ | ⟨_, other⟩⟩⟩
    all_goals
      rw [other] at refused
      cases refused
    exact ⟨payload, request, rfl, parsed, asks, rfl⟩
  · rw [same] at refused
    cases refused

theorem ofMessage_request {payload : Bytes} {request : MetadataMessage}
    (parsed : PeerWire.parseMetadataMessage config payload metadataSize pieceCount = .ok request)
    (asks : request.msgType = 0) :
    ofMessage config metadataSize pieceCount transfer
      (some (BT_EXTENDED_MESSAGE_ID :: LOCAL_UT_METADATA_ID :: payload)) =
        .refuse request.piece := by
  show ofMetadata config metadataSize pieceCount transfer payload = _
  unfold ofMetadata
  rw [parsed]
  exact if_pos asks

/-- What is kept is the block of a piece that is waited for. -/
theorem ofMessage_keep {message : Option Bytes} {piece : Int} {block : Bytes}
    (kept : ofMessage config metadataSize pieceCount transfer message = .keep piece block) :
    piece ∈ transfer.outstanding := by
  rcases ofMessage_cases config metadataSize pieceCount transfer message with
    ⟨payload, rfl, same⟩ | ⟨payload, rfl, same⟩ | ⟨_, _, same⟩
  · rw [same] at kept
    rcases ofHandshake_cases config payload with
      ⟨_, _, other⟩ | ⟨_, _, ⟨_, other⟩ | ⟨_, other⟩ | ⟨_, _, _, other⟩⟩
    all_goals
      rw [other] at kept
      cases kept
  · rw [same] at kept
    rcases ofMetadata_cases config metadataSize pieceCount transfer payload with
      ⟨_, _, other⟩ | ⟨_, _, ⟨_, other⟩ | ⟨_, _, other⟩ | ⟨_, _, other⟩ |
        ⟨_, _, _, ⟨_, other⟩ | ⟨_, other⟩⟩ | ⟨_, _, ⟨_, other⟩ | ⟨wanted, other⟩⟩⟩
    all_goals
      rw [other] at kept
      cases kept
    exact wanted
  · rw [same] at kept
    cases kept

theorem ofMessage_fail {message : Option Bytes} {fault : PyError}
    (failed : ofMessage config metadataSize pieceCount transfer message = .fail fault) :
    fault ≠ PeerWire.lengthMismatch := by
  rcases ofMessage_cases config metadataSize pieceCount transfer message with
    ⟨payload, rfl, same⟩ | ⟨payload, rfl, same⟩ | ⟨_, _, same⟩
  · rw [same] at failed
    rcases ofHandshake_cases config payload with
      ⟨_, unread, other⟩ | ⟨_, _, ⟨_, other⟩ | ⟨_, other⟩ | ⟨_, _, _, other⟩⟩
    all_goals
      rw [other] at failed
      cases failed
    · exact PeerWire.parseExtensionHandshake_raises config payload _ unread
    · simp [PeerWire.lengthMismatch]
  · rw [same] at failed
    rcases ofMetadata_cases config metadataSize pieceCount transfer payload with
      ⟨_, unread, other⟩ | ⟨_, _, ⟨_, other⟩ | ⟨_, _, other⟩ | ⟨_, _, other⟩ |
        ⟨_, _, _, ⟨_, other⟩ | ⟨_, other⟩⟩ | ⟨_, _, ⟨_, other⟩ | ⟨_, other⟩⟩⟩
    all_goals
      rw [other] at failed
      cases failed
    · exact PeerWire.parseMetadataMessage_raises config payload _ _ _ unread
    · simp [PeerWire.lengthMismatch]
    · simp [PeerWire.lengthMismatch]
    · simp [PeerWire.lengthMismatch]
  · rw [same] at failed
    cases failed

end Verdict

end PyDht
