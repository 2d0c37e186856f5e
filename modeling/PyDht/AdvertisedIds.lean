import PyDht.MetadataVerdicts

set_option autoImplicit false

namespace PyDht

/-- The bytes of an outgoing message. -/
def Outgoing.build (message : Outgoing) : Except PyError Bytes :=
  if message.refusal then
    PeerWire.buildMetadataReject (UInt8.ofNat message.extensionId.toNat) message.piece
  else PeerWire.buildMetadataRequest message.extensionId message.piece

namespace Downloading

/-- The ID that a message of the peer advertises for `ut_metadata`. -/
def announced (config : Config) : Option Bytes → Option Int
  | some (messageId :: extensionId :: payload) =>
      if messageId = BT_EXTENDED_MESSAGE_ID ∧ extensionId = 0 then
        (PeerWire.parseExtensionHandshake config payload).toOption.bind fun handshake =>
          Dict.get? (ascii "ut_metadata") handshake.mapping
      else none
  | _ => none

/-- The ID that was advertised last, after these messages. -/
def advertised (config : Config) (remoteExtId : Int) (received : List (Option Bytes)) : Int :=
  received.foldl (fun current message => (announced config message).getD current) remoteExtId

/-- Each message that was written carries the ID that was advertised last at the time, and that
ID is not zero. -/
def Identified (config : Config) (remoteExtId : Int) (state : Downloading) : Prop :=
  ∀ message ∈ state.sent,
    message.extensionId = advertised config remoteExtId (state.received.take message.heard) ∧
      message.extensionId ≠ 0

/-- If a request of the peer is read now, the peer has advertised the client's own ID. -/
def Answerable (config : Config) (remoteExtId metadataSize pieceCount : Int)
    (state : Downloading) : DownloadEvent → Prop
  | .fill => True
  | .receive => ∀ payload request rest,
      (state.transfer.pieces.length : Int) < pieceCount →
      PeerWire.Framed config (some (BT_EXTENDED_MESSAGE_ID :: LOCAL_UT_METADATA_ID :: payload)) →
      state.session.incoming = PeerWire.wire
        (some (BT_EXTENDED_MESSAGE_ID :: LOCAL_UT_METADATA_ID :: payload)) ++ rest →
      PeerWire.parseMetadataMessage config payload metadataSize pieceCount = .ok request →
      request.msgType = 0 →
      advertised config remoteExtId state.received = LOCAL_UT_METADATA_ID.toNat

/-- What a turn adds to the messages that were read and written. -/
structure Adds (state next : Downloading) (read : List (Option Bytes)) (said : List Outgoing) :
    Prop where
  received : next.received = state.received ++ read
  sent : next.sent = state.sent ++ said
  written : ∃ bytes, next.session.written = state.session.written ++ bytes ∧
    List.Forall₂ (fun message bytes => message.build = .ok bytes) said bytes

section turns

variable {config : Config} {remoteExtId metadataSize pieceCount pipelineLimit : Int}
  {session : PeerSession} {state next : Downloading}

theorem Adds.nothing (received : next.received = state.received) (sent : next.sent = state.sent)
    (written : next.session.written = state.session.written) : Adds state next [] [] :=
  ⟨by simpa using received, by simpa using sent, [], by simpa using written, .nil⟩

theorem fill_adds (pieceCount pipelineLimit : Int) (state : Downloading) :
    (state.fill pieceCount pipelineLimit).transfer.remoteExtId = state.transfer.remoteExtId ∧
    (Adds state (state.fill pieceCount pipelineLimit) [] [] ∨
      1 ≤ state.transfer.remoteExtId ∧
        Adds state (state.fill pieceCount pipelineLimit) []
          [⟨false, state.transfer.remoteExtId, state.transfer.nextPiece, state.received.length⟩]) := by
  rcases fill_cases pieceCount pipelineLimit state with
    ⟨_, ⟨message, built, same⟩ | ⟨fault, _, same⟩⟩ |
    ⟨_, ⟨drains, _, same⟩ | ⟨fault, drains, expired, _, same⟩⟩
  · rw [same]
    refine ⟨rfl, .inr ⟨(PeerWire.buildMetadataRequest_range built).1, ?_, rfl, [message], rfl, ?_⟩⟩
    · exact (List.append_nil _).symm
    · exact .cons built .nil
  · rw [same]
    exact ⟨rfl, .inl (.nothing rfl rfl rfl)⟩
  · rw [same]
    exact ⟨rfl, .inl (.nothing rfl rfl rfl)⟩
  · rw [same]
    exact ⟨rfl, .inl (.nothing rfl rfl rfl)⟩

/-- A verdict that refuses nothing lets nothing be written. -/
theorem follow_silent {verdict : Verdict} (silent : ∀ piece, verdict ≠ .refuse piece)
    (state : Downloading) : Adds state (follow verdict state) [] [] := by
  cases verdict with
  | ignore => exact .nothing rfl rfl rfl
  | remap extensionId => exact .nothing rfl rfl rfl
  | refuse piece => exact absurd rfl (silent piece)
  | keep piece block => exact .nothing rfl rfl rfl
  | fail fault => exact .nothing rfl rfl rfl

theorem follow_refuse {piece : Int} {message : Bytes}
    (built : PeerWire.buildMetadataReject LOCAL_UT_METADATA_ID piece = .ok message)
    (state : Downloading) :
    Adds state (follow (.refuse piece) state) []
        [⟨true, LOCAL_UT_METADATA_ID.toNat, piece, state.received.length⟩] ∧
      (follow (.refuse piece) state).transfer = state.transfer := by
  rcases refuse_cases piece state with
    ⟨other, again, ⟨drains, _, same⟩ | ⟨fault, drains, expired, _, same⟩⟩ | ⟨fault, failed, _⟩
  · rw [built] at again
    cases again
    rw [same]
    exact ⟨⟨(List.append_nil _).symm, rfl, [message], rfl, .cons built .nil⟩, rfl⟩
  · rw [built] at again
    cases again
    rw [same]
    exact ⟨⟨(List.append_nil _).symm, rfl, [message], rfl, .cons built .nil⟩, rfl⟩
  · rw [built] at failed
    cases failed

theorem follow_unmapped {verdict : Verdict} (unmapped : ∀ extensionId, verdict ≠ .remap extensionId)
    (state : Downloading) :
    (follow verdict state).transfer.remoteExtId = state.transfer.remoteExtId := by
  cases verdict with
  | ignore => rfl
  | remap extensionId => exact absurd rfl (unmapped extensionId)
  | refuse piece =>
      rcases refuse_cases piece state with ⟨_, _, ⟨_, _, same⟩ | ⟨_, _, _, _, same⟩⟩ | ⟨_, _, same⟩
      · rw [same]
        rfl
      · rw [same]
        rfl
      · rw [same]
  | keep piece block => rfl
  | fail fault => rfl

theorem announced_other {message : Option Bytes}
    (other : ∀ payload, message ≠ some (BT_EXTENDED_MESSAGE_ID :: 0 :: payload)) :
    announced config message = none := by
  match message with
  | none | some [] | some [_] => rfl
  | some (messageId :: extensionId :: payload) =>
      apply if_neg
      rintro ⟨rfl, rfl⟩
      exact other payload rfl

/-- The client takes over the ID that a message advertises. -/
theorem follow_remoteExtId (config : Config) (metadataSize pieceCount : Int)
    (message : Option Bytes) (transfer : Transfer) (state : Downloading)
    (goes : ∀ fault, (follow (.ofMessage config metadataSize pieceCount transfer message)
      state).phase ≠ .raised fault) :
    (follow (.ofMessage config metadataSize pieceCount transfer message)
      state).transfer.remoteExtId = (announced config message).getD state.transfer.remoteExtId := by
  rcases Verdict.ofMessage_cases config metadataSize pieceCount transfer message with
    ⟨payload, rfl, same⟩ | ⟨payload, rfl, same⟩ | ⟨other, _, same⟩
  · rw [same] at goes ⊢
    have reads : announced config (some (BT_EXTENDED_MESSAGE_ID :: 0 :: payload)) =
        (PeerWire.parseExtensionHandshake config payload).toOption.bind fun handshake =>
          Dict.get? (ascii "ut_metadata") handshake.mapping := rfl
    rcases Verdict.ofHandshake_cases config payload with
      ⟨fault, _, verdict⟩ | ⟨handshake, parsed, cases⟩
    · rw [verdict] at goes
      exact absurd rfl (goes fault)
    · rw [reads, parsed]
      change _ = (Dict.get? (ascii "ut_metadata") handshake.mapping).getD _
      rcases cases with ⟨same, verdict⟩ | ⟨_, verdict⟩ | ⟨updated, _, same, verdict⟩
      · rw [same, verdict]
        rfl
      · rw [verdict] at goes
        exact absurd rfl (goes _)
      · rw [same, verdict]
        rfl
  · have unmapped : ∀ extensionId,
        Verdict.ofMetadata config metadataSize pieceCount transfer payload ≠ .remap extensionId := by
      intro extensionId remapped
      rcases Verdict.ofMetadata_cases config metadataSize pieceCount transfer payload with
        ⟨_, _, other⟩ | ⟨request, parsed, ⟨asks, other⟩ | ⟨_, _, other⟩ | ⟨_, _, other⟩ |
          ⟨_, _, _, ⟨_, other⟩ | ⟨_, other⟩⟩ | ⟨_, _, ⟨_, other⟩ | ⟨_, other⟩⟩⟩
      all_goals
        rw [other] at remapped
        cases remapped
    rw [same, follow_unmapped unmapped]
    rfl
  · rw [same, announced_other other]
    rfl

/-- A turn of the loop over the messages writes nothing, or refuses the request that it reads. -/
theorem receive_adds (config : Config) (metadataSize pieceCount : Int) (state : Downloading) :
    (∃ read, Adds state (state.receive config metadataSize pieceCount) read [] ∧
      (∀ payload request rest, (state.transfer.pieces.length : Int) < pieceCount →
        PeerWire.Framed config (some (BT_EXTENDED_MESSAGE_ID :: LOCAL_UT_METADATA_ID :: payload)) →
        state.session.incoming = PeerWire.wire
          (some (BT_EXTENDED_MESSAGE_ID :: LOCAL_UT_METADATA_ID :: payload)) ++ rest →
        PeerWire.parseMetadataMessage config payload metadataSize pieceCount = .ok request →
        request.msgType ≠ 0)) ∨
    ∃ payload request rest, (state.transfer.pieces.length : Int) < pieceCount ∧
      PeerWire.Framed config (some (BT_EXTENDED_MESSAGE_ID :: LOCAL_UT_METADATA_ID :: payload)) ∧
      state.session.incoming = PeerWire.wire
        (some (BT_EXTENDED_MESSAGE_ID :: LOCAL_UT_METADATA_ID :: payload)) ++ rest ∧
      PeerWire.parseMetadataMessage config payload metadataSize pieceCount = .ok request ∧
      request.msgType = 0 ∧
      Adds state (state.receive config metadataSize pieceCount)
        [some (BT_EXTENDED_MESSAGE_ID :: LOCAL_UT_METADATA_ID :: payload)]
        [⟨true, LOCAL_UT_METADATA_ID.toNat, request.piece, state.received.length + 1⟩] := by
  rcases receive_cases config metadataSize pieceCount state with
    ⟨complete, ⟨raw, _, same⟩ | ⟨fault, _, same⟩⟩ |
    ⟨open_, ⟨message, rest, framed, unread, same⟩ | ⟨none, fault, incoming, expired, _, same⟩⟩
  · rw [same]
    exact .inl ⟨[], .nothing rfl rfl rfl, fun _ _ _ more => by omega⟩
  · rw [same]
    exact .inl ⟨[], .nothing rfl rfl rfl, fun _ _ _ more => by omega⟩
  · have heard : ∀ said, Adds (state.heard message rest)
        (follow (.ofMessage config metadataSize pieceCount state.transfer message)
          (state.heard message rest)) [] said →
        Adds state (state.receive config metadataSize pieceCount) [message] said := by
      intro said adds
      rw [same]
      exact ⟨by rw [adds.received, List.append_nil]; rfl, adds.sent, adds.written⟩
    cases verdict : Verdict.ofMessage config metadataSize pieceCount state.transfer message with
    | refuse piece =>
        right
        obtain ⟨payload, request, shape, parsed, asks, rfl⟩ := Verdict.ofMessage_refuse verdict
        obtain ⟨data, built⟩ :=
          PeerWire.buildMetadataReject_of_parsed parsed LOCAL_UT_METADATA_ID
        have refusal := (follow_refuse built (state.heard message rest)).1
        rw [show (state.heard message rest).received.length = state.received.length + 1 from
          List.length_append, ← verdict] at refusal
        subst shape
        exact ⟨payload, request, rest, by omega, framed, unread, parsed, asks, heard _ refusal⟩
    | _ =>
        left
        refine ⟨[message], heard [] ?_, ?_⟩
        · rw [verdict]
          exact follow_silent (by simp) _
        · intro payload request behind _ also again parsed asks
          have same := PeerWire.wire_injective framed also (unread.symm.trans again)
          rw [same, Verdict.ofMessage_request parsed asks] at verdict
          cases verdict
  · rw [same]
    exact .inl ⟨[], .nothing rfl rfl rfl,
      fun _ _ _ _ framed unread => absurd unread (none _ _ framed)⟩

theorem follow_received (verdict : Verdict) (state : Downloading) :
    (follow verdict state).received = state.received := by
  cases verdict with
  | refuse piece =>
      rcases refuse_cases piece state with ⟨_, _, ⟨_, _, same⟩ | ⟨_, _, _, _, same⟩⟩ | ⟨_, _, same⟩
      · rw [same]
        rfl
      · rw [same]
        rfl
      · rw [same]
  | _ => rfl

theorem advertised_concat (config : Config) (remoteExtId : Int) (received : List (Option Bytes))
    (message : Option Bytes) :
    advertised config remoteExtId (received ++ [message]) =
      (announced config message).getD (advertised config remoteExtId received) := by
  rw [advertised, List.foldl_append]
  rfl

theorem receive_follows
    (follows : state.transfer.remoteExtId = advertised config remoteExtId state.received)
    (goes : ∀ fault, (state.receive config metadataSize pieceCount).phase ≠ .raised fault) :
    (state.receive config metadataSize pieceCount).transfer.remoteExtId =
      advertised config remoteExtId (state.receive config metadataSize pieceCount).received := by
  rcases receive_cases config metadataSize pieceCount state with
    ⟨_, ⟨raw, _, same⟩ | ⟨fault, _, same⟩⟩ |
    ⟨_, ⟨message, rest, _, _, same⟩ | ⟨_, fault, incoming, expired, _, same⟩⟩
  · rw [same]
    exact follows
  · rw [same] at goes
    exact absurd rfl (goes fault)
  · rw [same] at goes ⊢
    rw [follow_remoteExtId config metadataSize pieceCount message state.transfer _ goes,
      follow_received]
    show (announced config message).getD state.transfer.remoteExtId =
      advertised config remoteExtId (state.received ++ [message])
    rw [advertised_concat, follows]
  · rw [same] at goes
    exact absurd rfl (goes fault)

end turns

section ids

variable {config : Config} {remoteExtId metadataSize pieceCount pipelineLimit : Int}
  {session : PeerSession} {state next : Downloading}

/-- The client follows the handshakes, and the messages were written before now. -/
structure Aware (config : Config) (remoteExtId : Int) (session : PeerSession)
    (state : Downloading) : Prop where
  follows : (∀ fault, state.phase ≠ .raised fault) →
    state.transfer.remoteExtId = advertised config remoteExtId state.received
  before : ∀ message ∈ state.sent, message.heard ≤ state.received.length
  spelled : ∃ written, state.session.written = session.written ++ written ∧
    List.Forall₂ (fun message bytes => message.build = .ok bytes) state.sent written

theorem Aware.adds (aware : Aware config remoteExtId session state) {read : List (Option Bytes)}
    {said : List Outgoing} (adds : Adds state next read said)
    (now : ∀ message ∈ said, message.heard ≤ next.received.length)
    (follows : (∀ fault, next.phase ≠ .raised fault) →
      next.transfer.remoteExtId = advertised config remoteExtId next.received) :
    Aware config remoteExtId session next := by
  refine ⟨follows, ?_, ?_⟩
  · intro message member
    rw [adds.sent] at member
    rcases List.mem_append.mp member with old | new
    · rw [adds.received, List.length_append]
      exact (aware.before message old).trans (Nat.le_add_right _ _)
    · exact now message new
  · obtain ⟨written, same, spelled⟩ := aware.spelled
    obtain ⟨bytes, more, spells⟩ := adds.written
    refine ⟨written ++ bytes, by rw [more, same, List.append_assoc], ?_⟩
    rw [adds.sent]
    exact List.rel_append spelled spells

theorem Aware.identified_iff (aware : Aware config remoteExtId session state)
    {read : List (Option Bytes)} {said : List Outgoing} (adds : Adds state next read said) :
    Identified config remoteExtId next ↔ Identified config remoteExtId state ∧
      ∀ message ∈ said,
        message.extensionId = advertised config remoteExtId (next.received.take message.heard) ∧
          message.extensionId ≠ 0 := by
  unfold Identified
  rw [adds.sent, List.forall_mem_append]
  apply and_congr_left
  intro _
  apply forall₂_congr
  intro message member
  rw [adds.received, List.take_append_of_le_length (aware.before message member)]

theorem step_aware (aware : Aware config remoteExtId session state) {event : DownloadEvent}
    (taken : step config metadataSize pieceCount pipelineLimit state event = some next) :
    Aware config remoteExtId session next := by
  rcases step_cases taken with ⟨_, filling, rfl⟩ | ⟨_, receiving, rfl⟩
  · have follows := aware.follows (by simp [filling])
    obtain ⟨same, adds | ⟨_, adds⟩⟩ := fill_adds pieceCount pipelineLimit state
    · exact aware.adds adds (by simp) fun _ => by
        rw [same, follows, adds.received, List.append_nil]
    · refine aware.adds adds (by simp [adds.received]) fun _ => ?_
      rw [same, follows, adds.received, List.append_nil]
  · have follows := aware.follows (by simp [receiving])
    rcases receive_adds config metadataSize pieceCount state with
      ⟨read, adds, _⟩ | ⟨payload, request, rest, _, _, _, _, _, adds⟩
    · exact aware.adds adds (by simp) (receive_follows follows)
    · exact aware.adds adds (by simp [adds.received]) (receive_follows follows)

theorem step_identified (aware : Aware config remoteExtId session state) {event : DownloadEvent}
    (taken : step config metadataSize pieceCount pipelineLimit state event = some next) :
    Identified config remoteExtId next ↔ Identified config remoteExtId state ∧
      Answerable config remoteExtId metadataSize pieceCount state event := by
  rcases step_cases taken with ⟨rfl, filling, rfl⟩ | ⟨rfl, receiving, rfl⟩
  · have follows := aware.follows (by simp [filling])
    obtain ⟨_, adds | ⟨positive, adds⟩⟩ := fill_adds pieceCount pipelineLimit state
    · rw [aware.identified_iff adds]
      exact and_congr_right fun _ => ⟨fun _ => trivial, fun _ => by simp⟩
    · rw [aware.identified_iff adds]
      refine and_congr_right fun _ => ⟨fun _ => trivial, fun _ => ?_⟩
      rw [List.forall_mem_singleton, adds.received, List.append_nil, List.take_length, ← follows]
      exact ⟨rfl, by dsimp only; omega⟩
  · rcases receive_adds config metadataSize pieceCount state with
      ⟨read, adds, silent⟩ | ⟨payload, request, rest, more, framed, unread, parsed, asks, adds⟩
    · rw [aware.identified_iff adds]
      refine and_congr_right fun _ => ⟨fun _ => ?_, fun _ => by simp⟩
      intro payload request rest more framed unread parsed asks
      exact absurd asks (silent payload request rest more framed unread parsed)
    · rw [aware.identified_iff adds]
      apply and_congr_right
      intro _
      have quiet : announced config
          (some (BT_EXTENDED_MESSAGE_ID :: LOCAL_UT_METADATA_ID :: payload)) = none := rfl
      have unchanged : advertised config remoteExtId
          ((state.receive config metadataSize pieceCount).received.take
            (state.received.length + 1)) = advertised config remoteExtId state.received := by
        rw [adds.received, List.take_of_length_le (by simp), advertised_concat, quiet]
        rfl
      rw [List.forall_mem_singleton]
      dsimp only
      rw [unchanged]
      constructor
      · rintro ⟨same, _⟩ _ _ _ _ _ _ _ _
        exact same.symm
      · intro answerable
        exact ⟨(answerable payload request rest more framed unread parsed asks).symm, by decide⟩

end ids

/-- Requests always carry the ID that the peer has advertised last, refusals carry the client's own:
all messages are marked as the peer wants them, if and only if its requests are only read while the
two IDs are equal. -/
theorem run_identifies_iff (config : Config) (remoteExtId metadataSize pipelineLimit : Int)
    (session : PeerSession) (events : List DownloadEvent) (state : Downloading)
    (ran : Transition.run (step config metadataSize (pieces metadataSize)
      (pipeline config pipelineLimit)) (start remoteExtId session) events = some state) :
    (∃ written, state.session.written = session.written ++ written ∧
      List.Forall₂ (fun message bytes => message.build = .ok bytes) state.sent written) ∧
    (Identified config remoteExtId state ↔
      Transition.Along (Answerable config remoteExtId metadataSize (pieces metadataSize))
        (step config metadataSize (pieces metadataSize) (pipeline config pipelineLimit))
        (start remoteExtId session) events) := by
  have initial : Aware config remoteExtId session (start remoteExtId session) :=
    ⟨fun _ => rfl, by simp [start], [], (List.append_nil _).symm, .nil⟩
  have aware := Transition.invariant_run (Aware config remoteExtId session)
    (fun _ _ _ holds taken => step_aware holds taken) ran initial
  refine ⟨aware.spelled, ?_⟩
  rw [Transition.along_iff (Aware config remoteExtId session) (Identified config remoteExtId)
    (fun _ _ _ holds taken => step_aware holds taken)
    (fun _ _ _ holds taken => step_identified holds taken) ran initial]
  exact and_iff_right (by simp [Identified, start])

/-- A peer that asks for piece 0. -/
def askingPeer : PeerSession :=
  { incoming := PeerWire.wire (some (BT_EXTENDED_MESSAGE_ID :: LOCAL_UT_METADATA_ID ::
      ascii "d8:msg_typei0e5:piecei0ee"))
    ending := .closed }

theorem askingPeer_check {remoteExtId : Int} {check : Downloading → Bool}
    (checked : (Transition.run (step {} 5 (pieces 5) (pipeline {} 0))
      (start remoteExtId askingPeer) [.fill, .fill, .receive]).map check = some true) :
    ∃ state, Transition.run (step {} 5 (pieces 5) (pipeline {} 0)) (start remoteExtId askingPeer)
      [.fill, .fill, .receive] = some state ∧ check state = true := by
  obtain ⟨state, ran, holds⟩ := Option.map_eq_some_iff.mp checked
  exact ⟨state, ran, holds⟩

/-- Where both sides use the ID 1. -/
theorem run_identifies_iff_sample : ∃ state,
    Transition.run (step {} 5 (pieces 5) (pipeline {} 0)) (start 1 askingPeer)
      [.fill, .fill, .receive] = some state ∧
    state.sent = [⟨false, 1, 0, 0⟩, ⟨true, 1, 0, 1⟩] ∧
    (Identified {} 1 state ↔
      Transition.Along (Answerable {} 1 5 (pieces 5)) (step {} 5 (pieces 5) (pipeline {} 0))
        (start 1 askingPeer) [.fill, .fill, .receive]) := by
  obtain ⟨state, ran, checked⟩ := @askingPeer_check 1
    (fun state => state.sent = [⟨false, 1, 0, 0⟩, ⟨true, 1, 0, 1⟩]) (by decide +kernel)
  exact ⟨state, ran, of_decide_eq_true checked,
    (run_identifies_iff {} 1 5 0 askingPeer [.fill, .fill, .receive] state ran).2⟩

/-- A peer whose ID is 3 gets the refusal of its request with the client's ID, which is 1. -/
theorem refusal_misdirected : ∃ state,
    Transition.run (step {} 5 (pieces 5) (pipeline {} 0)) (start 3 askingPeer)
      [.fill, .fill, .receive] = some state ∧
    state.session.written.map (·.drop 4 |>.take 2) = [[20, 3], [20, 1]] ∧
    advertised {} 3 state.received = 3 ∧ ¬ Identified {} 3 state := by
  obtain ⟨state, ran, checked⟩ := @askingPeer_check 3
    (fun state => state.sent = [⟨false, 3, 0, 0⟩, ⟨true, 1, 0, 1⟩] &&
      state.session.written.map (·.drop 4 |>.take 2) = [[20, 3], [20, 1]] &&
      advertised {} 3 state.received = 3 && advertised {} 3 (state.received.take 1) = 3)
    (by decide +kernel)
  simp only [Bool.and_eq_true, decide_eq_true_eq] at checked
  obtain ⟨⟨⟨sent, written⟩, advertises⟩, before⟩ := checked
  refine ⟨state, ran, written, advertises, fun identified => ?_⟩
  have refusal := (identified ⟨true, 1, 0, 1⟩ (by simp [sent])).1
  rw [before] at refusal
  cases refusal

end Downloading

end PyDht
