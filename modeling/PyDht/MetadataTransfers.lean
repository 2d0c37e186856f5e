import PyDht.Lib.Blocks
import PyDht.MetadataVerdicts

set_option autoImplicit false

namespace PyDht

namespace Downloading

/-- The block that a message delivers for the piece. -/
def dataFor (config : Config) (metadataSize pieceCount piece : Int) : Option Bytes → Option Bytes
  | some (messageId :: extensionId :: payload) =>
      if messageId = BT_EXTENDED_MESSAGE_ID ∧ extensionId = LOCAL_UT_METADATA_ID then
        (PeerWire.parseMetadataMessage config payload metadataSize pieceCount).toOption.bind
          fun message =>
            if message.msgType = 1 ∧ message.piece = piece then some message.trailing else none
      else none
  | _ => none

/-- The first block that was delivered for the piece. -/
def firstData (config : Config) (metadataSize pieceCount piece : Int)
    (received : List (Option Bytes)) : Option Bytes :=
  received.findSome? (dataFor config metadataSize pieceCount piece)

/-- The pieces that were asked for, in the order of the requests. -/
def requests (state : Downloading) : List Int :=
  (state.sent.filter fun message => !message.refusal).map Outgoing.piece

/-- The invariant of the transfer. -/
structure Balanced (pieceCount pipelineLimit : Int) (state : Downloading) : Prop where
  disjoint : ∀ piece ∈ state.transfer.outstanding, piece ∉ Dict.keys state.transfer.pieces
  union : ∀ piece, piece ∈ state.transfer.outstanding ∨ piece ∈ Dict.keys state.transfer.pieces ↔
    0 ≤ piece ∧ piece < state.transfer.nextPiece
  few : (state.transfer.outstanding.length : Int) ≤ pipelineLimit
  once : state.requests = (List.range state.transfer.nextPiece.toNat).map Int.ofNat
  range : 0 ≤ state.transfer.nextPiece ∧ state.transfer.nextPiece ≤ pieceCount
  waited : state.transfer.outstanding.Nodup
  listed : (Dict.keys state.transfer.pieces).Nodup

section balance

variable {config : Config} {metadataSize pieceCount pipelineLimit : Int}
  {state next : Downloading}

theorem Balanced.start (some : 0 ≤ pieceCount) (positive : 1 ≤ pipelineLimit) (remoteExtId : Int)
    (session : PeerSession) : Balanced pieceCount pipelineLimit (start remoteExtId session) := by
  refine ⟨?_, ?_, ?_, rfl, ?_, List.nodup_nil, List.nodup_nil⟩
  · intro piece member
    cases member
  · intro piece
    simp [Downloading.start, Dict.keys]
  · change (0 : Int) ≤ pipelineLimit
    omega
  · change (0 : Int) ≤ 0 ∧ (0 : Int) ≤ pieceCount
    omega

/-- What does not touch the pieces keeps the balance. -/
theorem Balanced.same (balanced : Balanced pieceCount pipelineLimit state)
    (pieces : next.transfer.pieces = state.transfer.pieces)
    (outstanding : next.transfer.outstanding = state.transfer.outstanding)
    (nextPiece : next.transfer.nextPiece = state.transfer.nextPiece)
    (requests : next.requests = state.requests) : Balanced pieceCount pipelineLimit next := by
  obtain ⟨disjoint, union, few, once, range, waited, listed⟩ := balanced
  refine ⟨?_, ?_, ?_, ?_, ?_, ?_, ?_⟩
  · rwa [pieces, outstanding]
  · rwa [pieces, outstanding, nextPiece]
  · rwa [outstanding]
  · rwa [requests, nextPiece]
  · rwa [nextPiece]
  · rwa [outstanding]
  · rwa [pieces]

/-- The next piece is asked for. -/
theorem Balanced.ask (balanced : Balanced pieceCount pipelineLimit state)
    (room : Room pieceCount pipelineLimit state.transfer) (extensionId : Int) (message : Bytes) :
    Balanced pieceCount pipelineLimit
      (state.wrote false extensionId state.transfer.nextPiece message).ask := by
  obtain ⟨disjoint, union, few, once, range, waited, listed⟩ := balanced
  obtain ⟨more, fits⟩ := room
  have fresh : state.transfer.nextPiece ∉ state.transfer.outstanding ∧
      state.transfer.nextPiece ∉ Dict.keys state.transfer.pieces := by
    have outside : ¬ (0 ≤ state.transfer.nextPiece ∧
        state.transfer.nextPiece < state.transfer.nextPiece) := by omega
    rw [← union, not_or] at outside
    exact outside
  refine ⟨?_, ?_, ?_, ?_, ?_, ?_, listed⟩
  · intro piece member
    rcases List.mem_append.mp member with old | new
    · exact disjoint piece old
    · rw [List.mem_singleton.mp new]
      exact fresh.2
  · intro piece
    change piece ∈ state.transfer.outstanding ++ [state.transfer.nextPiece] ∨
      piece ∈ Dict.keys state.transfer.pieces ↔
        0 ≤ piece ∧ piece < state.transfer.nextPiece + 1
    rw [List.mem_append, List.mem_singleton, or_right_comm, union]
    omega
  · change ((state.transfer.outstanding ++ [state.transfer.nextPiece]).length : Int) ≤ _
    rw [List.length_append, List.length_singleton]
    omega
  · obtain ⟨count, same⟩ := Int.eq_ofNat_of_zero_le range.1
    have asked : (state.wrote false extensionId state.transfer.nextPiece message).ask.requests =
        state.requests ++ [state.transfer.nextPiece] := by
      simp [requests, wrote, Downloading.ask]
    rw [asked, once]
    change _ = (List.range (state.transfer.nextPiece + 1).toNat).map Int.ofNat
    rw [same, Int.toNat_natCast, Int.toNat_natCast_add_one, List.range_succ, List.map_append]
    rfl
  · change 0 ≤ state.transfer.nextPiece + 1 ∧ state.transfer.nextPiece + 1 ≤ pieceCount
    omega
  · change (state.transfer.outstanding ++ [state.transfer.nextPiece]).Nodup
    rw [← List.concat_eq_append]
    exact waited.concat fresh.1

/-- A piece that was asked for is kept. -/
theorem Balanced.keep (balanced : Balanced pieceCount pipelineLimit state) {piece : Int}
    (wanted : piece ∈ state.transfer.outstanding) (block : Bytes) :
    Balanced pieceCount pipelineLimit (follow (.keep piece block) state) := by
  obtain ⟨disjoint, union, few, once, range, waited, listed⟩ := balanced
  have keys : ∀ other, other ∈ Dict.keys (Dict.set piece block state.transfer.pieces) ↔
      other ∈ Dict.keys state.transfer.pieces ∨ other = piece := by
    intro other
    rw [Dict.set_new block (disjoint piece wanted)]
    simp [Dict.keys]
  refine ⟨?_, ?_, ?_, once, range, waited.filter _, Dict.nodup_keys_set _ _ listed⟩
  · intro other member
    obtain ⟨old, apart⟩ := List.mem_filter.mp member
    rw [decide_eq_true_eq] at apart
    change other ∉ Dict.keys (Dict.set piece block state.transfer.pieces)
    rw [keys, not_or]
    exact ⟨disjoint other old, apart⟩
  · intro other
    change other ∈ state.transfer.outstanding.filter (· ≠ piece) ∨
      other ∈ Dict.keys (Dict.set piece block state.transfer.pieces) ↔
        0 ≤ other ∧ other < state.transfer.nextPiece
    rw [keys, ← union, List.mem_filter, decide_eq_true_eq]
    by_cases same : other = piece
    · rw [same]
      simp [wanted]
    · simp [same]
  · have shorter := List.length_filter_le (· ≠ piece) state.transfer.outstanding
    change ((state.transfer.outstanding.filter (· ≠ piece)).length : Int) ≤ _
    omega

theorem Balanced.follow (balanced : Balanced pieceCount pipelineLimit state) (verdict : Verdict)
    (wanted : ∀ piece block, verdict = .keep piece block → piece ∈ state.transfer.outstanding) :
    Balanced pieceCount pipelineLimit (follow verdict state) := by
  cases verdict with
  | ignore => exact balanced
  | remap extensionId => exact balanced.same rfl rfl rfl rfl
  | refuse piece =>
      rcases refuse_cases piece state with ⟨_, _, ⟨_, _, same⟩ | ⟨_, _, _, _, same⟩⟩ | ⟨_, _, same⟩
      · rw [same]
        exact balanced.same rfl rfl rfl (by simp [requests, wrote])
      · rw [same]
        exact balanced.same rfl rfl rfl (by simp [requests, wrote])
      · rw [same]
        exact balanced.same rfl rfl rfl rfl
  | keep piece block => exact balanced.keep (wanted piece block rfl) block
  | fail fault => exact balanced.same rfl rfl rfl rfl

theorem step_balanced (balanced : Balanced pieceCount pipelineLimit state) {event : DownloadEvent}
    (taken : step config metadataSize pieceCount pipelineLimit state event = some next) :
    Balanced pieceCount pipelineLimit next := by
  rcases step_cases taken with ⟨_, _, rfl⟩ | ⟨_, _, rfl⟩
  · rcases fill_cases pieceCount pipelineLimit state with
      ⟨room, ⟨message, _, same⟩ | ⟨_, _, same⟩⟩ | ⟨_, ⟨_, _, same⟩ | ⟨_, _, _, _, same⟩⟩
    · rw [same]
      exact balanced.ask room _ message
    · rw [same]
      exact balanced.same rfl rfl rfl rfl
    · rw [same]
      exact balanced.same rfl rfl rfl rfl
    · rw [same]
      exact balanced.same rfl rfl rfl rfl
  · rcases receive_cases config metadataSize pieceCount state with
      ⟨_, ⟨_, _, same⟩ | ⟨_, _, same⟩⟩ |
      ⟨_, ⟨message, rest, _, _, same⟩ | ⟨_, _, _, _, _, same⟩⟩
    · rw [same]
      exact balanced.same rfl rfl rfl rfl
    · rw [same]
      exact balanced.same rfl rfl rfl rfl
    · rw [same]
      have heard : Balanced pieceCount pipelineLimit (state.heard message rest) :=
        balanced.same rfl rfl rfl rfl
      exact heard.follow _ fun piece block kept => Verdict.ofMessage_keep kept
    · rw [same]
      exact balanced.same rfl rfl rfl rfl

/-- When there are as many pieces as there have to be, they are all there. -/
theorem Balanced.complete (balanced : Balanced pieceCount pipelineLimit state)
    (complete : pieceCount ≤ (state.transfer.pieces.length : Int)) :
    state.transfer.nextPiece = pieceCount ∧
      ∀ piece, 0 ≤ piece → piece < pieceCount → piece ∈ Dict.keys state.transfer.pieces := by
  obtain ⟨disjoint, union, few, once, range, waited, listed⟩ := balanced
  have within : Dict.keys state.transfer.pieces ⊆
      (List.range state.transfer.nextPiece.toNat).map Int.ofNat := by
    intro piece member
    have bounds := (union piece).mp (.inr member)
    exact List.mem_map.mpr ⟨piece.toNat, List.mem_range.mpr (by omega),
      Int.toNat_of_nonneg bounds.1⟩
  have apart := listed.subperm within
  have count := apart.length_le
  have length : (Dict.keys state.transfer.pieces).length = state.transfer.pieces.length :=
    List.length_map _
  rw [length, List.length_map, List.length_range] at count
  have all : state.transfer.nextPiece = pieceCount := by omega
  refine ⟨all, fun piece positive below => ?_⟩
  have perm := apart.perm_of_length_le (by
    rw [length, List.length_map, List.length_range]
    omega)
  rw [perm.mem_iff]
  exact List.mem_map.mpr ⟨piece.toNat, List.mem_range.mpr (by omega), Int.toNat_of_nonneg positive⟩

end balance

section blocks

variable {config : Config} {metadataSize pieceCount pipelineLimit : Int}
  {state next : Downloading}

theorem dataFor_metadata {payload : Bytes} {message : MetadataMessage} (piece : Int)
    (parsed : PeerWire.parseMetadataMessage config payload metadataSize pieceCount = .ok message) :
    dataFor config metadataSize pieceCount piece
        (some (BT_EXTENDED_MESSAGE_ID :: LOCAL_UT_METADATA_ID :: payload)) =
      if message.msgType = 1 ∧ message.piece = piece then some message.trailing else none := by
  show (PeerWire.parseMetadataMessage config payload metadataSize pieceCount).toOption.bind _ = _
  rw [parsed]
  rfl

theorem dataFor_other {message : Option Bytes} (piece : Int)
    (other : ∀ payload, message ≠
      some (BT_EXTENDED_MESSAGE_ID :: LOCAL_UT_METADATA_ID :: payload)) :
    dataFor config metadataSize pieceCount piece message = none := by
  match message with
  | none | some [] | some [_] => rfl
  | some (messageId :: extensionId :: payload) =>
      apply if_neg
      rintro ⟨rfl, rfl⟩
      exact other payload rfl

/-- A block that a message delivers has the length of the piece. -/
theorem dataFor_parsed {message : Option Bytes} {piece : Int} {block : Bytes}
    (delivers : dataFor config metadataSize pieceCount piece message = some block) :
    ∃ payload parsed, message =
        some (BT_EXTENDED_MESSAGE_ID :: LOCAL_UT_METADATA_ID :: payload) ∧
      PeerWire.parseMetadataMessage config payload metadataSize pieceCount = .ok parsed ∧
      parsed.msgType = 1 ∧ parsed.piece = piece ∧ parsed.trailing = block := by
  by_cases other : ∀ payload, message ≠
      some (BT_EXTENDED_MESSAGE_ID :: LOCAL_UT_METADATA_ID :: payload)
  · rw [dataFor_other piece other] at delivers
    cases delivers
  · push Not at other
    obtain ⟨payload, rfl⟩ := other
    cases outcome : PeerWire.parseMetadataMessage config payload metadataSize pieceCount with
    | error fault =>
        change (PeerWire.parseMetadataMessage config payload metadataSize
          pieceCount).toOption.bind _ = _ at delivers
        rw [outcome] at delivers
        cases delivers
    | ok parsed =>
        rw [dataFor_metadata piece outcome] at delivers
        split at delivers
        · rename_i found
          cases delivers
          exact ⟨payload, parsed, rfl, outcome, found.1, found.2, rfl⟩
        · cases delivers

theorem length_firstData {received : List (Option Bytes)} {piece : Int} {block : Bytes}
    (first : firstData config metadataSize pieceCount piece received = some block) :
    (block.length : Int) = min BEP9_BLOCK_SIZE (metadataSize - piece * BEP9_BLOCK_SIZE) := by
  obtain ⟨message, _, delivers⟩ := List.exists_of_findSome?_eq_some first
  obtain ⟨payload, parsed, _, read, data, rfl, rfl⟩ := dataFor_parsed delivers
  obtain ⟨_, _, _, conforming⟩ := PeerWire.parseMetadataMessage_wellformed read
  rw [conforming.sameTrailing]
  exact (conforming.block data).2

theorem firstData_concat (piece : Int) (received : List (Option Bytes)) (message : Option Bytes) :
    firstData config metadataSize pieceCount piece (received ++ [message]) =
      (firstData config metadataSize pieceCount piece received).or
        (dataFor config metadataSize pieceCount piece message) := by
  rw [firstData, List.findSome?_append]
  congr 1
  simp

theorem assemble_ok {transfer : Transfer} {blocks : Nat → Bytes} {count : Nat}
    (present : ∀ index < count, Dict.get? (index : Int) transfer.pieces = some (blocks index)) :
    Peer.assemble count transfer = .ok ((List.range count).map blocks).flatten := by
  have indices : (do let index ← List.range count; pure (index : Int)) =
      (List.range count).map Int.ofNat := by
    rw [bind_pure_comp]
    rfl
  have flattened : ((List.range count).map blocks) =
      ((List.range count).map Int.ofNat).map fun index => blocks index.toNat := by
    rw [List.map_map]
    rfl
  unfold Peer.assemble
  rw [Int.toNat_natCast, indices, flattened, mapM_returns]
  · rfl
  · intro index member
    obtain ⟨number, below, rfl⟩ := List.mem_map.mp member
    have here := present number (List.mem_range.mp below)
    rw [← Int.ofNat_eq_natCast] at here
    rw [here]
    rfl

/-- With all pieces there the metadata is put together, and has the right size. -/
theorem finish_ok (positive : 1 ≤ metadataSize)
    (balanced : Balanced (pieces metadataSize) pipelineLimit state)
    (complete : pieces metadataSize ≤ (state.transfer.pieces.length : Int))
    (blocks : ∀ piece, Dict.get? piece state.transfer.pieces =
      firstData config metadataSize (pieces metadataSize) piece state.received) :
    ∃ raw, finish metadataSize (pieces metadataSize) state.transfer = .ok raw ∧
      (raw.length : Int) = metadataSize ∧
      ∀ index < (pieces metadataSize).toNat,
        firstData config metadataSize (pieces metadataSize) index state.received =
          some (Blocks.block BEP9_BLOCK_SIZE.toNat raw index) := by
  have whole : metadataSize ≤ pieces metadataSize * BEP9_BLOCK_SIZE ∧ 0 ≤ pieces metadataSize := by
    simp only [pieces, BEP9_BLOCK_SIZE]
    omega
  obtain ⟨count, counted⟩ := Int.eq_ofNat_of_zero_le whole.2
  obtain ⟨_, all⟩ := balanced.complete complete
  have found : ∀ index < count, Dict.get? (index : Int) state.transfer.pieces =
      some ((Dict.get? (index : Int) state.transfer.pieces).getD []) := by
    intro index below
    have member := all index (by omega) (by omega)
    cases outcome : Dict.get? (index : Int) state.transfer.pieces with
    | none => exact absurd member ((Dict.get?_eq_none_iff _ _).mp outcome)
    | some block => rfl
  have sized : ∀ index < count, ((Dict.get? (index : Int) state.transfer.pieces).getD []).length =
      min BEP9_BLOCK_SIZE.toNat (metadataSize.toNat - index * BEP9_BLOCK_SIZE.toNat) := by
    intro index below
    have here := found index below
    rw [blocks] at here
    have length := length_firstData here
    rw [← blocks] at length
    change _ = min 16384 (metadataSize.toNat - index * 16384)
    simp only [BEP9_BLOCK_SIZE] at length
    omega
  have assembled := assemble_ok found
  have length := Blocks.length_flatten sized
  have exactly : ((List.range count).map fun index : Nat =>
      (Dict.get? (index : Int) state.transfer.pieces).getD []).flatten.length =
        metadataSize.toNat := by
    rw [length]
    rw [counted] at whole
    change min metadataSize.toNat (count * 16384) = _
    simp only [BEP9_BLOCK_SIZE] at whole
    omega
  refine ⟨((List.range count).map fun index : Nat =>
    (Dict.get? (index : Int) state.transfer.pieces).getD []).flatten, ?_, ?_, ?_⟩
  · unfold finish
    rw [counted, assembled]
    exact if_neg (not_not.mpr (by omega))
  · omega
  · intro index below
    rw [counted, Int.toNat_natCast] at below
    rw [← blocks, Blocks.block_flatten sized below]
    exact found index below

end blocks

/-- What the call holds of the bytes that it has read. -/
structure Held (config : Config) (metadataSize pieceCount pipelineLimit : Int)
    (session : PeerSession) (state : Downloading) : Prop where
  blocks : (∀ fault, state.phase ≠ .raised fault) → ∀ piece,
    Dict.get? piece state.transfer.pieces =
      firstData config metadataSize pieceCount piece state.received
  unread : (∀ fault, state.phase ≠ .raised fault) →
    session.incoming = state.received.flatMap PeerWire.wire ++ state.session.incoming
  full : state.phase = .receiving → ¬ Room pieceCount pipelineLimit state.transfer
  ended : ∀ raw, state.phase = .returned raw → pieceCount ≤ (state.transfer.pieces.length : Int) ∧
    finish metadataSize pieceCount state.transfer = .ok raw
  fits : ∀ fault, state.phase = .raised fault → fault ≠ PeerWire.lengthMismatch

section held

variable {config : Config} {metadataSize pieceCount pipelineLimit : Int}
  {session : PeerSession} {state next : Downloading}

/-- A call that raises needs to show nothing but that its lengths did fit. -/
theorem Held.raised {fault : PyError} (phase : next.phase = .raised fault)
    (other : fault ≠ PeerWire.lengthMismatch) :
    Held config metadataSize pieceCount pipelineLimit session next := by
  refine ⟨fun goes => absurd phase (goes fault), fun goes => absurd phase (goes fault), ?_, ?_, ?_⟩
  · intro receiving
    rw [phase] at receiving
    cases receiving
  · intro raw returned
    rw [phase] at returned
    cases returned
  · intro again raised
    rw [phase] at raised
    cases raised
    exact other

theorem follow_pieces {verdict : Verdict} (other : ∀ piece block, verdict ≠ .keep piece block)
    (state : Downloading) :
    (follow verdict state).transfer.pieces = state.transfer.pieces := by
  cases verdict with
  | refuse piece =>
      rcases refuse_cases piece state with ⟨_, _, ⟨_, _, same⟩ | ⟨_, _, _, _, same⟩⟩ | ⟨_, _, same⟩
      · rw [same]
        rfl
      · rw [same]
        rfl
      · rw [same]
  | keep piece block => exact absurd rfl (other piece block)
  | _ => rfl

theorem handshake_ne_metadata (payload other : Bytes) :
    some (BT_EXTENDED_MESSAGE_ID :: 0 :: payload) ≠
      some (BT_EXTENDED_MESSAGE_ID :: LOCAL_UT_METADATA_ID :: other) := by
  simp [LOCAL_UT_METADATA_ID]

/-- The state after the verdict on a message holds the blocks that were delivered. -/
theorem follow_blocks (message : Option Bytes) (rest : Bytes)
    (blocks : ∀ piece, Dict.get? piece state.transfer.pieces =
      firstData config metadataSize pieceCount piece state.received)
    (goes : ∀ fault, (follow (.ofMessage config metadataSize pieceCount state.transfer message)
      (state.heard message rest)).phase ≠ .raised fault) (piece : Int) :
    Dict.get? piece (follow (.ofMessage config metadataSize pieceCount state.transfer message)
        (state.heard message rest)).transfer.pieces =
      firstData config metadataSize pieceCount piece (state.received ++ [message]) := by
  rw [firstData_concat, ← blocks]
  have unchanged : ∀ verdict : Verdict, (∀ piece block, verdict ≠ .keep piece block) →
      dataFor config metadataSize pieceCount piece message = none →
      Dict.get? piece (follow verdict (state.heard message rest)).transfer.pieces =
        (Dict.get? piece state.transfer.pieces).or
          (dataFor config metadataSize pieceCount piece message) := by
    intro verdict other none
    rw [follow_pieces other, none, Option.or_none]
    rfl
  rcases Verdict.ofMessage_cases config metadataSize pieceCount state.transfer message with
    ⟨payload, rfl, same⟩ | ⟨payload, rfl, same⟩ | ⟨_, other, same⟩
  · have silent := @dataFor_other config metadataSize pieceCount _ piece
      (handshake_ne_metadata payload)
    rw [same]
    apply unchanged _ _ silent
    rcases Verdict.ofHandshake_cases config payload with
      ⟨_, _, verdict⟩ | ⟨_, _, ⟨_, verdict⟩ | ⟨_, verdict⟩ | ⟨_, _, _, verdict⟩⟩
    all_goals
      rw [verdict]
      simp
  · rw [same] at goes ⊢
    rcases Verdict.ofMetadata_cases config metadataSize pieceCount state.transfer payload with
      ⟨fault, _, verdict⟩ | ⟨parsed, read, outcome⟩
    · rw [verdict] at goes
      exact absurd rfl (goes fault)
    have delivers := @dataFor_metadata config metadataSize pieceCount _ _ piece read
    rcases outcome with ⟨asks, verdict⟩ | ⟨_, _, verdict⟩ | ⟨rejects, _, verdict⟩ |
      ⟨data, known, found, ⟨_, verdict⟩ | ⟨equal, verdict⟩⟩ |
      ⟨data, fresh, ⟨_, verdict⟩ | ⟨wanted, verdict⟩⟩
    · rw [verdict]
      apply unchanged _ (by simp)
      rw [delivers, if_neg (by omega)]
    · rw [verdict] at goes
      exact absurd rfl (goes _)
    · rw [verdict]
      apply unchanged _ (by simp)
      rw [delivers, if_neg (by omega)]
    · rw [verdict] at goes
      exact absurd rfl (goes _)
    · rw [verdict, delivers]
      change Dict.get? piece state.transfer.pieces = _
      by_cases here : parsed.piece = piece
      · rw [← here, found]
        rfl
      · rw [if_neg (by tauto), Option.or_none]
    · rw [verdict] at goes
      exact absurd rfl (goes _)
    · rw [verdict, delivers]
      change Dict.get? piece (Dict.set parsed.piece parsed.trailing state.transfer.pieces) = _
      by_cases here : parsed.piece = piece
      · rw [← here, Dict.get?_set_self, fresh, if_pos ⟨data, rfl⟩]
        rfl
      · rw [Dict.get?_set_ne (Ne.symm here), if_neg (by tauto), Option.or_none]
  · rw [same]
    exact unchanged _ (by simp) (dataFor_other piece other)

/-- A verdict leaves the rest of the bytes, and the loop over the messages goes on with the pipeline
full, unless a piece was kept or something raised. -/
theorem follow_rest (verdict : Verdict) (state : Downloading) :
    (follow verdict state).session.incoming = state.session.incoming ∧
      (follow verdict state).received = state.received ∧
      ((follow verdict state).phase = .receiving →
        (follow verdict state).transfer.outstanding = state.transfer.outstanding ∧
        (follow verdict state).transfer.nextPiece = state.transfer.nextPiece) ∧
      ((follow verdict state).phase = state.phase ∨ (follow verdict state).phase = .filling ∨
        ∃ fault, (follow verdict state).phase = .raised fault ∧
          (verdict = .fail fault ∨ fault ≠ PeerWire.lengthMismatch)) := by
  cases verdict with
  | ignore => exact ⟨rfl, rfl, fun _ => ⟨rfl, rfl⟩, .inl rfl⟩
  | remap extensionId => exact ⟨rfl, rfl, fun _ => ⟨rfl, rfl⟩, .inl rfl⟩
  | refuse piece =>
      rcases refuse_cases piece state with
        ⟨_, _, ⟨_, _, same⟩ | ⟨fault, _, _, _, same⟩⟩ | ⟨fault, failed, same⟩
      · rw [same]
        exact ⟨rfl, rfl, fun _ => ⟨rfl, rfl⟩, .inl rfl⟩
      · rw [same]
        exact ⟨rfl, rfl, fun _ => ⟨rfl, rfl⟩, .inr (.inr ⟨_, rfl, .inr fault.error_ne⟩)⟩
      · rw [same]
        exact ⟨rfl, rfl, fun _ => ⟨rfl, rfl⟩, .inr (.inr ⟨fault, rfl,
          .inr (PeerWire.buildMetadataReject_raises _ _ fault failed)⟩)⟩
  | keep piece block =>
      refine ⟨rfl, rfl, fun receiving => ?_, .inr (.inl rfl)⟩
      cases receiving
  | fail fault => exact ⟨rfl, rfl, fun _ => ⟨rfl, rfl⟩, .inr (.inr ⟨fault, rfl, .inl rfl⟩)⟩

theorem fill_held (held : Held config metadataSize pieceCount pipelineLimit session state)
    (filling : state.phase = .filling) :
    Held config metadataSize pieceCount pipelineLimit session
      (state.fill pieceCount pipelineLimit) := by
  have goes : ∀ fault, state.phase ≠ .raised fault := by simp [filling]
  have blocks := held.blocks goes
  have unread := held.unread goes
  rcases fill_cases pieceCount pipelineLimit state with
    ⟨_, ⟨message, _, same⟩ | ⟨fault, failed, same⟩⟩ |
    ⟨full, ⟨_, _, same⟩ | ⟨fault, _, _, _, same⟩⟩
  · rw [same]
    refine ⟨fun _ => blocks, fun _ => unread, ?_, ?_, ?_⟩
    all_goals simp [ask, wrote, filling]
  · rw [same]
    exact .raised rfl (PeerWire.buildMetadataRequest_raises _ _ fault failed)
  · rw [same]
    exact ⟨fun _ => blocks, fun _ => unread, fun _ => full, by simp, by simp⟩
  · rw [same]
    exact .raised rfl fault.error_ne

theorem receive_held (positive : 1 ≤ metadataSize)
    (balanced : Balanced (pieces metadataSize) pipelineLimit state)
    (held : Held config metadataSize (pieces metadataSize) pipelineLimit session state)
    (receiving : state.phase = .receiving) :
    Held config metadataSize (pieces metadataSize) pipelineLimit session
      (state.receive config metadataSize (pieces metadataSize)) := by
  have goes : ∀ fault, state.phase ≠ .raised fault := by simp [receiving]
  have blocks := held.blocks goes
  have unread := held.unread goes
  rcases receive_cases config metadataSize (pieces metadataSize) state with
    ⟨complete, ⟨raw, finished, same⟩ | ⟨fault, failed, same⟩⟩ |
    ⟨_, ⟨message, rest, _, spelled, same⟩ | ⟨_, fault, _, _, known, same⟩⟩
  · rw [same]
    refine ⟨fun _ => blocks, fun _ => unread, by simp, ?_, by simp⟩
    intro other returned
    cases returned
    exact ⟨complete, finished⟩
  · obtain ⟨raw, finished, _⟩ := finish_ok positive balanced complete blocks
    rw [finished] at failed
    cases failed
  · rw [same]
    obtain ⟨left, heard, kept, phases⟩ := follow_rest
      (.ofMessage config metadataSize (pieces metadataSize) state.transfer message)
      (state.heard message rest)
    refine ⟨fun goes piece => ?_, fun _ => ?_, fun receives => ?_, fun raw returned => ?_,
      fun fault raised => ?_⟩
    · rw [follow_blocks message rest blocks goes, heard]
      rfl
    · rw [left, heard, unread, spelled]
      simp [Downloading.heard]
    · obtain ⟨outstanding, nextPiece⟩ := kept receives
      have full := held.full receiving
      unfold Room at full ⊢
      rw [outstanding, nextPiece]
      exact full
    · rcases phases with same | same | ⟨_, same, _⟩
      · rw [returned] at same
        change _ = state.phase at same
        rw [receiving] at same
        cases same
      · rw [returned] at same
        cases same
      · rw [returned] at same
        cases same
    · rcases phases with same | same | ⟨other, same, verdict | different⟩
      · rw [raised] at same
        change _ = state.phase at same
        rw [receiving] at same
        cases same
      · rw [raised] at same
        cases same
      · rw [raised] at same
        cases same
        exact Verdict.ofMessage_fail verdict
      · rw [raised] at same
        cases same
        exact different
  · rw [same]
    refine .raised rfl ?_
    rcases known with rfl | rfl
    · exact PeerFault.error_ne _
    · simp [PeerWire.lengthMismatch]

theorem step_held (positive : 1 ≤ metadataSize)
    (balanced : Balanced (pieces metadataSize) pipelineLimit state)
    (held : Held config metadataSize (pieces metadataSize) pipelineLimit session state)
    {event : DownloadEvent}
    (taken : step config metadataSize (pieces metadataSize) pipelineLimit state event =
      some next) : Held config metadataSize (pieces metadataSize) pipelineLimit session next := by
  rcases step_cases taken with ⟨_, filling, rfl⟩ | ⟨_, receiving, rfl⟩
  · exact fill_held held filling
  · exact receive_held positive balanced held receiving

end held

end Downloading

end PyDht
