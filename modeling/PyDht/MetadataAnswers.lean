import PyDht.MetadataMessages
import PyDht.MetadataTransfers

set_option autoImplicit false

namespace PyDht

namespace PeerWire

/-- The extension IDs that a handshake maps are bytes. -/
theorem parseExtensionHandshake_range {config : Config} {payload key : Bytes}
    {handshake : ExtensionHandshake} {extensionId : Int}
    (parsed : parseExtensionHandshake config payload = .ok handshake)
    (mapped : Dict.get? key handshake.mapping = some extensionId) :
    0 ≤ extensionId ∧ extensionId ≤ 255 := by
  obtain ⟨value, _, built⟩ := bind_ok_iff.mp parsed
  cases value with
  | dict entries =>
      change extensionHandshake config entries = .ok handshake at built
      have mapping : handshake.mapping = extensionIds (Message.get? "m" entries) := by
        unfold extensionHandshake at built
        dsimp only at built
        split at built
        · cases built
          rfl
        · split at built
          · cases built
          · cases built
            rfl
        · cases built
      rw [mapping] at mapped
      obtain ⟨entry, _, passed⟩ := List.mem_filterMap.mp (Dict.mem_of_get? mapped)
      obtain ⟨number, kept, same⟩ := Option.map_eq_some_iff.mp passed
      cases same
      have inside := (Option.filter_eq_some_iff.mp kept).2
      exact of_decide_eq_true inside
  | _ => cases built

/-- A number that can be written, and a smaller one. -/
theorem converts_smaller {smaller larger : Int} (positive : 0 ≤ smaller) (below : smaller ≤ larger)
    (converts : Bencode.Converts (.int larger)) : Bencode.Converts (.int smaller) := by
  obtain ⟨short, _⟩ := (Value.all_int _ _).mp converts
  refine (Value.all_int _ _).mpr ⟨?_, by simp [Value.texts, Value.keys]⟩
  exact (Decimal.length_write_mono (by omega)).trans short

/-- A request for a piece can be built. -/
theorem buildMetadataRequest_ok {extensionId piece : Int}
    (inside : 1 ≤ extensionId ∧ extensionId ≤ 255) (positive : 0 ≤ piece)
    (converts : Bencode.Converts (.int piece)) :
    ∃ data, buildMetadataRequest extensionId piece = .ok data := by
  obtain ⟨payload, encoded⟩ := encode_bare 0 piece (by decide) converts
  refine ⟨frame (UInt8.ofNat extensionId.toNat) payload, ?_⟩
  unfold buildMetadataRequest
  rw [if_neg (by omega), encoded]
  rfl

end PeerWire

namespace Downloading

/-- A message that has nothing to do with the pieces, and leaves `ut_metadata` enabled. -/
inductive Harmless (config : Config) (metadataSize pieceCount : Int) : Option Bytes → Prop where
  | keepAlive : Harmless config metadataSize pieceCount none
  | bare (messageId : UInt8) : Harmless config metadataSize pieceCount (some [messageId])
  | unknown (messageId : UInt8) (body : Bytes) (other : messageId ≠ BT_EXTENDED_MESSAGE_ID) :
      Harmless config metadataSize pieceCount (some (messageId :: body))
  | unknownExtension (extensionId : UInt8) (payload : Bytes) (notHandshake : extensionId ≠ 0)
      (notMetadata : extensionId ≠ LOCAL_UT_METADATA_ID) :
      Harmless config metadataSize pieceCount
        (some (BT_EXTENDED_MESSAGE_ID :: extensionId :: payload))
  | handshake (payload : Bytes) (handshake : ExtensionHandshake)
      (parsed : PeerWire.parseExtensionHandshake config payload = .ok handshake)
      (enabled : Dict.get? (ascii "ut_metadata") handshake.mapping ≠ some 0) :
      Harmless config metadataSize pieceCount (some (BT_EXTENDED_MESSAGE_ID :: 0 :: payload))
  | request (payload : Bytes) (request : MetadataMessage)
      (parsed : PeerWire.parseMetadataMessage config payload metadataSize pieceCount = .ok request)
      (asks : request.msgType = 0) :
      Harmless config metadataSize pieceCount
        (some (BT_EXTENDED_MESSAGE_ID :: LOCAL_UT_METADATA_ID :: payload))

/-- The message delivers the piece of the metadata. -/
def Delivers (config : Config) (metadata : Bytes) (piece : Int) (message : Option Bytes) : Prop :=
  dataFor config metadata.length (pieces metadata.length) piece message =
    some (Blocks.block BEP9_BLOCK_SIZE.toNat metadata piece.toNat)

/-- A peer with these messages answers the client's requests: it delivers what was asked for, after
it was asked for it and perhaps again, and nothing that is asked for goes without an answer. -/
structure Answers (config : Config) (metadata : Bytes) (pipelineLimit : Int)
    (initial : Downloading) (stream : List (Option Bytes)) : Prop where
  framed : ∀ message ∈ stream, PeerWire.Framed config message
  proper : ∀ message ∈ stream,
    Harmless config metadata.length (pieces metadata.length) message ∨
      ∃ piece, Delivers config metadata piece message
  causal : ∀ before message behind piece, stream = before ++ message :: behind →
    Delivers config metadata piece message → ∀ state,
    Reaches config metadata.length (pieces metadata.length) (pipeline config pipelineLimit) initial
      state → state.phase = .receiving → state.received = before → piece ∈ state.requests
  complete : ∀ state,
    Reaches config metadata.length (pieces metadata.length) (pipeline config pipelineLimit) initial
      state → ∀ piece ∈ state.requests, ∃ message ∈ stream, Delivers config metadata piece message

section serving

variable {config : Config} {metadata : Bytes} {pipelineLimit : Int} {initial state : Downloading}
  {stream : List (Option Bytes)} {behind : Bytes}

theorem Harmless.silent {metadataSize pieceCount : Int} {message : Option Bytes}
    (harmless : Harmless config metadataSize pieceCount message) (piece : Int) :
    dataFor config metadataSize pieceCount piece message = none := by
  cases harmless with
  | keepAlive => rfl
  | bare messageId => rfl
  | unknown messageId body other =>
      apply dataFor_other
      intro payload same
      cases same
      exact other rfl
  | unknownExtension extensionId payload notHandshake notMetadata =>
      apply dataFor_other
      intro other same
      cases same
      exact notMetadata rfl
  | handshake payload handshake parsed enabled =>
      exact dataFor_other piece (handshake_ne_metadata payload)
  | request payload request parsed asks =>
      rw [dataFor_metadata piece parsed, if_neg (by omega)]

/-- A block that was delivered is the block of the metadata. -/
theorem Answers.block (answers : Answers config metadata pipelineLimit initial stream)
    {message : Option Bytes} (sent : message ∈ stream) {piece : Int} {block : Bytes}
    (delivered : dataFor config metadata.length (pieces metadata.length) piece message =
      some block) : block = Blocks.block BEP9_BLOCK_SIZE.toNat metadata piece.toNat := by
  rcases answers.proper message sent with harmless | ⟨other, delivers⟩
  · rw [harmless.silent] at delivered
    cases delivered
  · obtain ⟨payload, parsed, rfl, read, _, rfl, rfl⟩ := dataFor_parsed delivered
    obtain ⟨again, found, same, reread, _, rfl, trailing⟩ := dataFor_parsed delivers
    cases same
    rw [read] at reread
    cases reread
    exact trailing

/-- Messages of such a peer are ignored, remap the ID, are refused or kept. -/
inductive Served : Verdict → Prop where
  | ignore : Served .ignore
  | remap (extensionId : Int) (inside : 1 ≤ extensionId ∧ extensionId ≤ 255) :
      Served (.remap extensionId)
  | refuse (piece : Int) (data : Bytes)
      (built : PeerWire.buildMetadataReject LOCAL_UT_METADATA_ID piece = .ok data) :
      Served (.refuse piece)
  | keep (piece : Int) (block : Bytes) : Served (.keep piece block)

theorem Harmless.served {metadataSize pieceCount : Int} {message : Option Bytes}
    (harmless : Harmless config metadataSize pieceCount message) (transfer : Transfer) :
    Served (.ofMessage config metadataSize pieceCount transfer message) := by
  cases harmless with
  | keepAlive => exact .ignore
  | bare messageId => exact .ignore
  | unknown messageId body other =>
      cases body with
      | nil => exact .ignore
      | cons extensionId payload =>
          unfold Verdict.ofMessage
          dsimp only
          rw [if_pos other]
          exact .ignore
  | unknownExtension extensionId payload notHandshake notMetadata =>
      unfold Verdict.ofMessage
      dsimp only
      rw [if_neg (by simp), if_neg notHandshake, if_neg notMetadata]
      exact .ignore
  | handshake payload handshake parsed enabled =>
      show Served (.ofHandshake config payload)
      rcases Verdict.ofHandshake_cases config payload with
        ⟨fault, failed, _⟩ | ⟨other, again, ⟨_, verdict⟩ | ⟨withdrawn, _⟩ |
          ⟨updated, some, mapped, verdict⟩⟩
      · rw [parsed] at failed
        cases failed
      · rw [verdict]
        exact .ignore
      · rw [parsed] at again
        cases again
        exact absurd withdrawn enabled
      · have inside := PeerWire.parseExtensionHandshake_range again mapped
        rw [verdict]
        exact .remap updated (by omega)
  | request payload request parsed asks =>
      obtain ⟨data, built⟩ :=
        PeerWire.buildMetadataReject_of_parsed parsed LOCAL_UT_METADATA_ID
      rw [Verdict.ofMessage_request parsed asks]
      exact .refuse request.piece data built

/-- A piece that was asked for is waited for or was received. -/
theorem Balanced.asked {pieceCount limit : Int} (balanced : Balanced pieceCount limit state)
    (piece : Int) : piece ∈ state.requests ↔
      piece ∈ state.transfer.outstanding ∨ piece ∈ Dict.keys state.transfer.pieces := by
  rw [balanced.union, balanced.once]
  constructor
  · intro member
    obtain ⟨index, below, rfl⟩ := List.mem_map.mp member
    have inside := List.mem_range.mp below
    exact ⟨Int.natCast_nonneg index, by simp only [Int.ofNat_eq_natCast]; omega⟩
  · intro inside
    exact List.mem_map.mpr ⟨piece.toNat, List.mem_range.mpr (by omega),
      Int.toNat_of_nonneg inside.1⟩

theorem Balanced.settled {pieceCount limit : Int} (balanced : Balanced pieceCount limit state)
    (none : state.transfer.outstanding = []) :
    state.transfer.nextPiece ≤ (state.transfer.pieces.length : Int) := by
  have apart : ((List.range state.transfer.nextPiece.toNat).map Int.ofNat).Nodup :=
    List.nodup_range.map fun _ _ same => Int.ofNat.inj same
  have within : (List.range state.transfer.nextPiece.toNat).map Int.ofNat ⊆
      Dict.keys state.transfer.pieces := by
    intro piece member
    rw [← balanced.once, balanced.asked, none] at member
    exact member.resolve_left List.not_mem_nil
  have count := (apart.subperm within).length_le
  have length : (Dict.keys state.transfer.pieces).length = state.transfer.pieces.length :=
    List.length_map _
  rw [length, List.length_map, List.length_range] at count
  omega

theorem Answers.served (answers : Answers config metadata pipelineLimit initial stream)
    (reached : Reaches config metadata.length (pieces metadata.length)
      (pipeline config pipelineLimit) initial state)
    (balanced : Balanced (pieces metadata.length) (pipeline config pipelineLimit) state)
    (blocks : ∀ piece, Dict.get? piece state.transfer.pieces =
      firstData config metadata.length (pieces metadata.length) piece state.received)
    (receiving : state.phase = .receiving) {message : Option Bytes} {left : List (Option Bytes)}
    (ahead : stream = state.received ++ message :: left) :
    Served (.ofMessage config metadata.length (pieces metadata.length) state.transfer message) := by
  have sent : message ∈ stream := by simp [ahead]
  rcases answers.proper message sent with harmless | ⟨piece, delivers⟩
  · exact harmless.served state.transfer
  have asked := answers.causal state.received message left piece ahead delivers state reached
    receiving rfl
  rw [balanced.asked] at asked
  obtain ⟨payload, parsed, rfl, read, data, rfl, trailing⟩ := dataFor_parsed delivers
  show Served (.ofMetadata config metadata.length (pieces metadata.length) state.transfer payload)
  rcases Verdict.ofMetadata_cases config metadata.length (pieces metadata.length) state.transfer
      payload with ⟨fault, failed, _⟩ | ⟨other, again, outcome⟩
  · rw [read] at failed
    cases failed
  rw [read] at again
  cases again
  rcases outcome with ⟨asks, _⟩ | ⟨rejects, _⟩ | ⟨rejects, _⟩ |
    ⟨_, known, found, ⟨conflict, _⟩ | ⟨_, verdict⟩⟩ | ⟨_, fresh, ⟨unwanted, _⟩ | ⟨_, verdict⟩⟩
  · omega
  · omega
  · omega
  · rw [blocks] at found
    obtain ⟨earlier, before, delivered⟩ := List.exists_of_findSome?_eq_some found
    have same := answers.block (by simp [ahead, before]) delivered
    exact absurd (same.trans trailing.symm) conflict
  · rw [verdict]
    exact .ignore
  · have absent := (Dict.get?_eq_none_iff _ _).mp fresh
    exact absurd (asked.resolve_right absent) unwanted
  · rw [verdict]
    exact .keep _ _

/-- Nothing has gone wrong, and the rest of the peer's messages is still to come. -/
structure Serving (stream : List (Option Bytes)) (behind : Bytes) (state : Downloading) : Prop where
  drains : ∀ ending ∈ state.session.drains, ending = none
  goes : ∀ fault, state.phase ≠ .raised fault
  ids : 1 ≤ state.transfer.remoteExtId ∧ state.transfer.remoteExtId ≤ 255
  ahead : ∃ left, stream = state.received ++ left ∧
    state.session.incoming = left.flatMap PeerWire.wire ++ behind

theorem Serving.follow (serving : Serving stream behind state) {verdict : Verdict}
    (served : Served verdict) : Serving stream behind (follow verdict state) := by
  cases served with
  | ignore => exact serving
  | remap extensionId inside => exact ⟨serving.drains, serving.goes, inside, serving.ahead⟩
  | refuse piece data built =>
      rcases refuse_cases piece state with
        ⟨_, _, ⟨drains, less, same⟩ | ⟨fault, _, _, one, _⟩⟩ | ⟨fault, failed, _⟩
      · rw [same]
        exact ⟨fun ending member => serving.drains ending (less ending member), serving.goes,
          serving.ids, serving.ahead⟩
      · exact absurd (serving.drains _ one) (by simp)
      · rw [built] at failed
        cases failed
  | keep piece block =>
      refine ⟨serving.drains, fun fault raised => ?_, serving.ids, serving.ahead⟩
      cases raised

/-- The number of the next piece can be written: the peer has written the size in an answer. -/
theorem Answers.converts (answers : Answers config metadata pipelineLimit initial stream)
    (reached : Reaches config metadata.length (pieces metadata.length)
      (pipeline config pipelineLimit) initial state)
    (balanced : Balanced (pieces metadata.length) (pipeline config pipelineLimit) state)
    (more : state.transfer.nextPiece < pieces metadata.length) :
    Bencode.Converts (.int state.transfer.nextPiece) := by
  have range := balanced.range
  by_cases first : state.transfer.nextPiece = 0
  · rw [first]
    exact Bencode.converts_int (by decide)
  · have asked : (0 : Int) ∈ state.requests := by
      rw [balanced.asked, balanced.union]
      omega
    obtain ⟨message, _, delivers⟩ := answers.complete state reached 0 asked
    obtain ⟨payload, parsed, _, read, data, _⟩ := dataFor_parsed delivers
    have wellformed := PeerWire.parseMetadataMessage_wellformed read
    have size : parsed.header.get? "total_size" = some (.int metadata.length) := by
      obtain ⟨_, _, _, conforming⟩ := wellformed
      rw [conforming.sameHeader]
      exact (conforming.block data).1
    refine PeerWire.converts_smaller range.1 ?_ (wellformed.converts size)
    simp only [pieces, BEP9_BLOCK_SIZE] at more
    omega

theorem fill_serving (answers : Answers config metadata pipelineLimit initial stream)
    (reached : Reaches config metadata.length (pieces metadata.length)
      (pipeline config pipelineLimit) initial state)
    (balanced : Balanced (pieces metadata.length) (pipeline config pipelineLimit) state)
    (serving : Serving stream behind state) :
    Serving stream behind
      (state.fill (pieces metadata.length) (pipeline config pipelineLimit)) := by
  rcases fill_cases (pieces metadata.length) (pipeline config pipelineLimit) state with
    ⟨room, ⟨message, _, same⟩ | ⟨fault, failed, _⟩⟩ |
    ⟨_, ⟨drains, less, same⟩ | ⟨fault, _, _, one, _⟩⟩
  · rw [same]
    refine ⟨serving.drains, fun fault => ?_, serving.ids, serving.ahead⟩
    exact serving.goes fault
  · obtain ⟨data, built⟩ := PeerWire.buildMetadataRequest_ok serving.ids balanced.range.1
      (answers.converts reached balanced room.1)
    rw [built] at failed
    cases failed
  · rw [same]
    exact ⟨fun ending member => serving.drains ending (less ending member), by simp, serving.ids,
      serving.ahead⟩
  · exact absurd (serving.drains _ one) (by simp)

/-- While pieces are missing the peer has something left to send. -/
theorem Answers.pending (answers : Answers config metadata pipelineLimit initial stream)
    (reached : Reaches config metadata.length (pieces metadata.length)
      (pipeline config pipelineLimit) initial state)
    (balanced : Balanced (pieces metadata.length) (pipeline config pipelineLimit) state)
    (blocks : ∀ piece, Dict.get? piece state.transfer.pieces =
      firstData config metadata.length (pieces metadata.length) piece state.received)
    (full : ¬ Room (pieces metadata.length) (pipeline config pipelineLimit) state.transfer)
    (missing : ¬ pieces metadata.length ≤ (state.transfer.pieces.length : Int)) :
    stream ≠ state.received := by
  intro ended
  have none : state.transfer.outstanding = [] := by
    apply List.eq_nil_iff_forall_not_mem.mpr
    intro piece waiting
    have asked := (balanced.asked piece).mpr (.inl waiting)
    obtain ⟨message, sent, delivers⟩ := answers.complete state reached piece asked
    rw [ended] at sent
    have found : firstData config metadata.length (pieces metadata.length) piece
        state.received ≠ none := by
      rw [firstData, ne_eq, List.findSome?_eq_none_iff]
      intro nothing
      rw [Delivers, nothing message sent] at delivers
      cases delivers
    rw [← blocks, ne_eq, Dict.get?_eq_none_iff, not_not] at found
    exact balanced.disjoint piece waiting found
  have limit : 1 ≤ pipeline config pipelineLimit := le_max_left _ _
  have settled := balanced.settled none
  apply full
  refine ⟨by omega, ?_⟩
  rw [none, List.length_nil]
  omega

theorem receive_serving (positive : 1 ≤ (metadata.length : Int))
    (answers : Answers config metadata pipelineLimit initial stream) {session : PeerSession}
    (reached : Reaches config metadata.length (pieces metadata.length)
      (pipeline config pipelineLimit) initial state)
    (balanced : Balanced (pieces metadata.length) (pipeline config pipelineLimit) state)
    (held : Held config metadata.length (pieces metadata.length) (pipeline config pipelineLimit)
      session state)
    (serving : Serving stream behind state) (receiving : state.phase = .receiving) :
    Serving stream behind (state.receive config metadata.length (pieces metadata.length)) := by
  have blocks := held.blocks serving.goes
  obtain ⟨left, ahead, unread⟩ := serving.ahead
  rcases receive_cases config metadata.length (pieces metadata.length) state with
    ⟨complete, ⟨raw, _, same⟩ | ⟨fault, failed, _⟩⟩ | ⟨missing, turn⟩
  · rw [same]
    exact ⟨serving.drains, by simp, serving.ids, serving.ahead⟩
  · obtain ⟨raw, finished, _⟩ := finish_ok positive balanced complete blocks
    rw [finished] at failed
    cases failed
  have pending := answers.pending reached balanced blocks (held.full receiving) missing
  cases left with
  | nil => exact absurd (ahead.trans (List.append_nil _)) pending
  | cons message left =>
      have framed := answers.framed message (by simp [ahead])
      rw [List.flatMap_cons, List.append_assoc] at unread
      rcases turn with ⟨other, rest, also, spelled, same⟩ | ⟨none, _⟩
      · have equal := PeerWire.wire_injective framed also (unread.symm.trans spelled)
        subst equal
        have remaining := List.append_cancel_left (spelled.symm.trans unread)
        rw [same]
        have heard : Serving stream behind (state.heard message rest) :=
          ⟨serving.drains, serving.goes, serving.ids, left, by simp [ahead, Downloading.heard],
            remaining⟩
        exact heard.follow (answers.served reached balanced blocks receiving ahead)
      · exact absurd unread (none message _ framed)

end serving

/-- What `_download_metadata` returns, and how it came to it. -/
structure Assembled (config : Config) (metadataSize pipelineLimit : Int) (initial : Downloading)
    (raw : Bytes) (after : PeerSession) (state : Downloading) : Prop where
  reached : Reaches config metadataSize (pieces metadataSize) (pipeline config pipelineLimit) initial
    state
  phase : state.phase = .returned raw
  session : state.session = after
  requested : state.requests = (List.range (pieces metadataSize).toNat).map Int.ofNat
  read : initial.session.incoming = state.received.flatMap PeerWire.wire ++ after.incoming
  length : (raw.length : Int) = metadataSize
  blocks : ∀ index < (pieces metadataSize).toNat,
    firstData config metadataSize (pieces metadataSize) index state.received =
      some (Blocks.block BEP9_BLOCK_SIZE.toNat raw index)

section assembly

variable {config : Config} {remoteExtId metadataSize pipelineLimit : Int} {session : PeerSession}
  {state : Downloading}

theorem pieces_positive (positive : 1 ≤ metadataSize) : 1 ≤ pieces metadataSize := by
  simp only [pieces, BEP9_BLOCK_SIZE]
  omega

theorem reaches_balanced (positive : 1 ≤ metadataSize)
    (reached : Reaches config metadataSize (pieces metadataSize) (pipeline config pipelineLimit)
      (start remoteExtId session) state) :
    Balanced (pieces metadataSize) (pipeline config pipelineLimit) state := by
  obtain ⟨events, ran⟩ := reached
  have some := pieces_positive positive
  have limit : 1 ≤ pipeline config pipelineLimit := le_max_left _ _
  exact Transition.invariant_run (Balanced (pieces metadataSize) (pipeline config pipelineLimit))
    (fun _ _ _ holds taken => step_balanced holds taken) ran
    (.start (by omega) limit remoteExtId session)

theorem reaches_held (positive : 1 ≤ metadataSize)
    (reached : Reaches config metadataSize (pieces metadataSize) (pipeline config pipelineLimit)
      (start remoteExtId session) state) :
    Held config metadataSize (pieces metadataSize) (pipeline config pipelineLimit) session state := by
  obtain ⟨events, ran⟩ := reached
  have some := pieces_positive positive
  have limit : 1 ≤ pipeline config pipelineLimit := le_max_left _ _
  refine (Transition.invariant_run (fun state =>
    Balanced (pieces metadataSize) (pipeline config pipelineLimit) state ∧
      Held config metadataSize (pieces metadataSize) (pipeline config pipelineLimit) session state)
    (fun _ _ _ holds taken => ⟨step_balanced holds.1 taken, step_held positive holds.1 holds.2 taken⟩)
    ran ⟨.start (by omega) limit remoteExtId session, ?_⟩).2
  exact ⟨fun _ _ => rfl, fun _ => rfl, by simp [start], by simp [start], by simp [start]⟩

theorem reaches_assembled (positive : 1 ≤ metadataSize)
    (reached : Reaches config metadataSize (pieces metadataSize) (pipeline config pipelineLimit)
      (start remoteExtId session) state) {raw : Bytes} (returned : state.phase = .returned raw) :
    Assembled config metadataSize pipelineLimit (start remoteExtId session) raw state.session
      state := by
  have balanced := reaches_balanced positive reached
  have held := reaches_held positive reached
  have goes : ∀ fault, state.phase ≠ .raised fault := by simp [returned]
  obtain ⟨complete, finished⟩ := held.ended raw returned
  obtain ⟨other, again, length, blocks⟩ := finish_ok positive balanced complete (held.blocks goes)
  rw [finished] at again
  cases again
  refine ⟨reached, returned, rfl, ?_, held.unread goes, length, blocks⟩
  rw [balanced.once, (balanced.complete complete).1]

/-- A connection to a peer that answers is never disturbed. -/
theorem reaches_serving {metadata : Bytes} (positive : 1 ≤ (metadata.length : Int))
    {stream : List (Option Bytes)} {behind : Bytes} (inside : 1 ≤ remoteExtId ∧ remoteExtId ≤ 255)
    (drains : ∀ ending ∈ session.drains, ending = none)
    (incoming : session.incoming = stream.flatMap PeerWire.wire ++ behind)
    (answers : Answers config metadata pipelineLimit (start remoteExtId session) stream)
    (reached : Reaches config metadata.length (pieces metadata.length)
      (pipeline config pipelineLimit) (start remoteExtId session) state) :
    Serving stream behind state := by
  obtain ⟨events, ran⟩ := reached
  have initial : Serving stream behind (start remoteExtId session) :=
    ⟨drains, by simp [start], inside, stream, rfl, incoming⟩
  refine (Transition.invariant_run (fun state => Reaches config metadata.length
    (pieces metadata.length) (pipeline config pipelineLimit) (start remoteExtId session) state ∧
      Serving stream behind state) ?_ ran ⟨.refl _, initial⟩).2
  intro before event after holds taken
  obtain ⟨reached, serving⟩ := holds
  have balanced := reaches_balanced positive reached
  have held := reaches_held positive reached
  refine ⟨reached.next taken, ?_⟩
  rcases step_cases taken with ⟨_, _, filled⟩ | ⟨_, receiving, received⟩
  · rw [filled]
    exact fill_serving answers reached balanced serving
  · rw [received]
    exact receive_serving positive answers reached balanced held serving receiving

/-- What a message delivers is one of the pieces. -/
theorem Delivers.inside {metadata : Bytes} {piece : Int} {message : Option Bytes}
    (delivers : Delivers config metadata piece message) :
    0 ≤ piece ∧ piece < pieces metadata.length := by
  obtain ⟨payload, parsed, _, read, _, rfl, _⟩ := dataFor_parsed delivers
  obtain ⟨_, _, _, conforming⟩ := PeerWire.parseMetadataMessage_wellformed read
  exact conforming.inside

/-- A client that has room for all requests has made them all before it reads. -/
theorem Balanced.all {pieceCount limit : Int} (balanced : Balanced pieceCount limit state)
    (enough : pieceCount ≤ limit) (full : ¬ Room pieceCount limit state.transfer) :
    state.transfer.nextPiece = pieceCount := by
  have within : state.transfer.outstanding ⊆
      (List.range state.transfer.nextPiece.toNat).map Int.ofNat := by
    intro piece member
    have inside := (balanced.union piece).mp (.inl member)
    exact List.mem_map.mpr ⟨piece.toNat, List.mem_range.mpr (by omega),
      Int.toNat_of_nonneg inside.1⟩
  have count := (balanced.waited.subperm within).length_le
  have range := balanced.range
  rw [List.length_map, List.length_range] at count
  rw [Room, not_and_or] at full
  omega

/-- Where all requests go out at once, a peer may answer them in any order. -/
theorem answers_of_room {metadata : Bytes} {stream : List (Option Bytes)}
    (positive : 1 ≤ (metadata.length : Int))
    (enough : pieces metadata.length ≤ pipeline config pipelineLimit)
    (framed : ∀ message ∈ stream, PeerWire.Framed config message)
    (proper : ∀ message ∈ stream,
      Harmless config metadata.length (pieces metadata.length) message ∨
        ∃ piece, Delivers config metadata piece message)
    (all : ∀ piece, 0 ≤ piece → piece < pieces metadata.length →
      ∃ message ∈ stream, Delivers config metadata piece message) :
    Answers config metadata pipelineLimit (start remoteExtId session) stream := by
  refine ⟨framed, proper, ?_, ?_⟩
  · intro before message behind piece same delivers state reached receiving heard
    have balanced := reaches_balanced positive reached
    have full := (reaches_held positive reached).full receiving
    rw [balanced.asked, balanced.union, balanced.all enough full]
    exact delivers.inside
  · intro state reached piece asked
    have balanced := reaches_balanced positive reached
    rw [balanced.asked, balanced.union] at asked
    have range := balanced.range
    exact all piece asked.1 (by omega)

/-- What was put together from the blocks of the metadata is the metadata. -/
theorem Assembled.metadata {metadata raw : Bytes} {after : PeerSession} {initial : Downloading}
    {stream : List (Option Bytes)} {left : List (Option Bytes)}
    (answers : Answers config metadata pipelineLimit initial stream)
    (assembled : Assembled config metadata.length pipelineLimit initial raw after state)
    (ahead : stream = state.received ++ left) : raw = metadata := by
  have whole : (metadata.length : Int) ≤ pieces metadata.length * BEP9_BLOCK_SIZE := by
    simp only [pieces, BEP9_BLOCK_SIZE]
    omega
  have enough : metadata.length ≤ (pieces metadata.length).toNat * BEP9_BLOCK_SIZE.toNat := by
    change _ ≤ _ * 16384
    simp only [BEP9_BLOCK_SIZE] at whole
    omega
  have length := assembled.length
  have same : ∀ index ∈ List.range (pieces metadata.length).toNat,
      Blocks.block BEP9_BLOCK_SIZE.toNat raw index =
        Blocks.block BEP9_BLOCK_SIZE.toNat metadata index := by
    intro index below
    obtain ⟨message, sent, delivered⟩ :=
      List.exists_of_findSome?_eq_some (assembled.blocks index (List.mem_range.mp below))
    have among : message ∈ stream := by simp [ahead, sent]
    have whole := answers.block among delivered
    rwa [Int.toNat_natCast] at whole
  have flattened := congrArg List.flatten (List.map_congr_left same)
  rwa [Blocks.flatten_block, Blocks.flatten_block, List.take_of_length_le (by omega),
    List.take_of_length_le enough] at flattened

end assembly

/-- Throughout `_download_metadata` the pieces are waited for or received, and asked for once and in
order. What it returns has the announced size and consists of the blocks that were delivered first,
and the check of the size never fails. From a peer that answers it gets the metadata. -/
theorem downloadMetadata_assembles (config : Config)
    (remoteExtId metadataSize pipelineLimit : Int) (session : PeerSession)
    (positive : 1 ≤ metadataSize) (allowed : metadataSize ≤ config.maxMetadataSize) :
    (∀ state, Reaches config metadataSize (pieces metadataSize) (pipeline config pipelineLimit)
        (start remoteExtId session) state →
      Balanced (pieces metadataSize) (pipeline config pipelineLimit) state) ∧
    (∀ raw after,
      Peer.downloadMetadata config remoteExtId metadataSize pipelineLimit session = .ok raw after →
        ∃ state, Assembled config metadataSize pipelineLimit (start remoteExtId session) raw after
          state) ∧
    (∀ after, Peer.downloadMetadata config remoteExtId metadataSize pipelineLimit session ≠
      .error (.peerError "metadata_invalid" "metadata" "assembled metadata length mismatch")
        after) ∧
    (∀ metadata stream behind, (metadata.length : Int) = metadataSize →
      1 ≤ remoteExtId → remoteExtId ≤ 255 → (∀ ending ∈ session.drains, ending = none) →
      session.incoming = stream.flatMap PeerWire.wire ++ behind →
      Answers config metadata pipelineLimit (start remoteExtId session) stream →
        ∃ after, Peer.downloadMetadata config remoteExtId metadataSize pipelineLimit session =
          .ok metadata after) := by
  have some := pieces_positive positive
  have ends := downloadMetadata_ends config remoteExtId metadataSize pipelineLimit session
    (by omega) session rfl
  refine ⟨fun state reached => reaches_balanced positive reached, ?_, ?_, ?_⟩
  · intro raw after returned
    rw [returned] at ends
    obtain ⟨state, reached, phase, rfl⟩ := ends
    exact ⟨state, reaches_assembled positive reached phase⟩
  · intro after raised
    rw [raised] at ends
    obtain ⟨state, reached, phase, _⟩ := ends
    exact (reaches_held positive reached).fits _ phase rfl
  · intro metadata stream behind size low high drains incoming answers
    subst size
    cases outcome : Peer.downloadMetadata config remoteExtId metadata.length pipelineLimit
        session with
    | ok raw after =>
        rw [outcome] at ends
        obtain ⟨state, reached, phase, rfl⟩ := ends
        have serving := reaches_serving positive ⟨low, high⟩ drains incoming answers reached
        obtain ⟨left, ahead, _⟩ := serving.ahead
        have same := (reaches_assembled positive reached phase).metadata answers ahead
        exact ⟨state.session, by rw [same]⟩
    | error fault after =>
        rw [outcome] at ends
        obtain ⟨state, reached, phase, _⟩ := ends
        have serving := reaches_serving positive ⟨low, high⟩ drains incoming answers reached
        exact absurd phase (serving.goes fault)

/-- The request that a peer makes for the first piece. -/
def askingMessage : Option Bytes :=
  some (BT_EXTENDED_MESSAGE_ID :: LOCAL_UT_METADATA_ID :: ascii "d8:msg_typei0e5:piecei0ee")

/-- The only piece of five bytes. -/
def deliveredPiece : Option Bytes :=
  some (BT_EXTENDED_MESSAGE_ID :: LOCAL_UT_METADATA_ID ::
    (ascii "d8:msg_typei1e5:piecei0e10:total_sizei5ee" ++ ascii "hello"))

/-- A peer that tells its DHT port and asks for the metadata itself before it delivers it. -/
def servingMessages : List (Option Bytes) :=
  [none, some [9, 26, 225], askingMessage, deliveredPiece]

theorem downloadMetadata_assembles_sample : ∃ after,
    Peer.downloadMetadata {} 3 5 0
        { incoming := servingMessages.flatMap PeerWire.wire, ending := .closed } =
      .ok (ascii "hello") after := by
  have delivers : Delivers {} (ascii "hello") 0 deliveredPiece := by
    unfold Delivers
    decide +kernel
  have asks : Harmless {} (ascii "hello").length (pieces (ascii "hello").length) askingMessage := by
    have parsed : (PeerWire.parseMetadataMessage {} (ascii "d8:msg_typei0e5:piecei0ee")
        (ascii "hello").length (pieces (ascii "hello").length)).toOption.map
          MetadataMessage.msgType = some 0 := by decide +kernel
    obtain ⟨request, read, asked⟩ := Option.map_eq_some_iff.mp parsed
    exact .request _ request (toOption_some_iff.mp read) asked
  refine (downloadMetadata_assembles {} 3 5 0
    { incoming := servingMessages.flatMap PeerWire.wire, ending := .closed }
    (by decide) (by decide)).2.2.2 (ascii "hello") servingMessages []
      (by decide) (by decide) (by decide) (by simp) (by simp) ?_
  refine answers_of_room (by decide) (by decide) ?_ ?_ ?_
  · intro message sent body same
    simp only [servingMessages, List.mem_cons, List.not_mem_nil, or_false] at sent
    rcases sent with rfl | rfl | rfl | rfl
    all_goals cases same
    all_goals decide
  · simp only [servingMessages, List.forall_mem_cons, List.not_mem_nil, false_implies,
      implies_true, and_true]
    refine ⟨.inl .keepAlive, .inl (.unknown 9 _ ?_), .inl asks, .inr ⟨0, delivers⟩⟩
    decide
  · intro piece low high
    have one : pieces (ascii "hello").length = 1 := by decide
    have only : piece = 0 := by omega
    refine ⟨deliveredPiece, by simp [servingMessages], ?_⟩
    rw [only]
    exact delivers

end Downloading

end PyDht
