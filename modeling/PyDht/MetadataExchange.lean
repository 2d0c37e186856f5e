import PyDht.Lib.Transition
import PyDht.PeerFraming

set_option autoImplicit false

namespace PyDht

open Effects (Ensures raise)

/-- Where `_download_metadata` stands: in the loop of `fill_pipeline`, at the condition of its own
loop, or at its end. -/
inductive DownloadPhase where
  | filling
  | receiving
  | returned (raw : Bytes)
  | raised (fault : PyError)
deriving DecidableEq, Repr

/-- A metadata message that was written, a request or the refusal of one, when so many messages of
the peer had been read. -/
structure Outgoing where
  refusal : Bool
  extensionId : Int
  piece : Int
  heard : Nat
deriving DecidableEq, Repr

/-- A call of `_download_metadata`, with the messages that it has read and written so far. -/
structure Downloading where
  transfer : Transfer
  session : PeerSession
  phase : DownloadPhase := .filling
  received : List (Option Bytes) := []
  sent : List Outgoing := []
deriving DecidableEq, Repr

/-- What a message of the peer leads to. -/
inductive Verdict where
  | ignore
  | remap (extensionId : Int)
  | refuse (piece : Int)
  | keep (piece : Int) (block : Bytes)
  | fail (fault : PyError)
deriving DecidableEq, Repr

/-- A turn of the loop of `fill_pipeline`, or of the loop over the messages. -/
inductive DownloadEvent where
  | fill
  | receive
deriving DecidableEq, Repr

namespace Verdict

def ofHandshake (config : Config) (payload : Bytes) : Verdict :=
  match PeerWire.parseExtensionHandshake config payload with
  | .error fault => .fail fault
  | .ok handshake =>
      match Dict.get? (ascii "ut_metadata") handshake.mapping with
      | none => .ignore
      | some updated =>
          if updated = 0 then
            .fail (.peerError "ut_metadata_unavailable" "metadata"
              "peer disabled ut_metadata during metadata exchange")
          else .remap updated

def ofMetadata (config : Config) (metadataSize pieceCount : Int) (transfer : Transfer)
    (payload : Bytes) : Verdict :=
  match PeerWire.parseMetadataMessage config payload metadataSize pieceCount with
  | .error fault => .fail fault
  | .ok message =>
      if message.msgType = 0 then .refuse message.piece
      else if message.msgType = 2 then
        if message.piece ∈ transfer.outstanding then
          .fail (.peerError "metadata_rejected" "metadata"
            s!"peer rejected metadata piece {message.piece}")
        else .ignore
      else
        match Dict.get? message.piece transfer.pieces with
        | some known =>
            if known ≠ message.trailing then
              .fail (.peerError "metadata_invalid" "metadata" "conflicting duplicate metadata piece")
            else .ignore
        | none =>
            if message.piece ∉ transfer.outstanding then
              .fail (.peerError "metadata_invalid" "metadata" "unsolicited metadata piece")
            else .keep message.piece message.trailing

/-- What the loop over the messages makes of one of them; `none` is a keep-alive. -/
def ofMessage (config : Config) (metadataSize pieceCount : Int) (transfer : Transfer) :
    Option Bytes → Verdict
  | some (messageId :: extensionId :: payload) =>
      if messageId ≠ BT_EXTENDED_MESSAGE_ID then .ignore
      else if extensionId = 0 then ofHandshake config payload
      else if extensionId = LOCAL_UT_METADATA_ID then
        ofMetadata config metadataSize pieceCount transfer payload
      else .ignore
  | _ => .ignore

end Verdict

namespace Downloading

/-- A part of the call, which goes on behind it unless it raises. -/
def perform {α : Type} (program : Peer α) (next : α → Downloading → Downloading)
    (state : Downloading) : Downloading :=
  match program state.session with
  | .ok value session => next value { state with session }
  | .error fault session => { state with session, phase := .raised fault }

/-- The message has been written. -/
def wrote (refusal : Bool) (extensionId piece : Int) (message : Bytes) (state : Downloading) :
    Downloading :=
  { state with
    session := { state.session with written := state.session.written ++ [message] }
    sent := state.sent ++ [{ refusal, extensionId, piece, heard := state.received.length }] }

/-- A message is built and written. -/
def say (refusal : Bool) (extensionId piece : Int) (message : Except PyError Bytes)
    (next : Downloading → Downloading) (state : Downloading) : Downloading :=
  match message with
  | .ok message => next (state.wrote refusal extensionId piece message)
  | .error fault => { state with phase := .raised fault }

/-- A message has been read, and this is left to read. -/
def heard (message : Option Bytes) (rest : Bytes) (state : Downloading) : Downloading :=
  { state with
    session := { state.session with incoming := rest }
    received := state.received ++ [message] }

/-- The next piece has been asked for. -/
def ask (state : Downloading) : Downloading :=
  { state with transfer := { state.transfer with
      outstanding := state.transfer.outstanding ++ [state.transfer.nextPiece]
      nextPiece := state.transfer.nextPiece + 1 } }

def fill (pieceCount pipelineLimit : Int) (state : Downloading) : Downloading :=
  let transfer := state.transfer
  if transfer.nextPiece < pieceCount ∧ (transfer.outstanding.length : Int) < pipelineLimit then
    state.say false transfer.remoteExtId transfer.nextPiece
      (PeerWire.buildMetadataRequest transfer.remoteExtId transfer.nextPiece) ask
  else state.perform Peer.drain fun _ state => { state with phase := .receiving }

def follow (verdict : Verdict) (state : Downloading) : Downloading :=
  match verdict with
  | .ignore => state
  | .remap extensionId =>
      { state with transfer := { state.transfer with remoteExtId := extensionId } }
  | .refuse piece =>
      state.say true LOCAL_UT_METADATA_ID.toNat piece
        (PeerWire.buildMetadataReject LOCAL_UT_METADATA_ID piece) fun state =>
          state.perform Peer.drain fun _ state => state
  | .keep piece block =>
      { state with
        transfer := { state.transfer with
          pieces := Dict.set piece block state.transfer.pieces
          outstanding := state.transfer.outstanding.filter (· ≠ piece) }
        phase := .filling }
  | .fail fault => { state with phase := .raised fault }

/-- What stands behind the loop over the messages. -/
def finish (metadataSize pieceCount : Int) (transfer : Transfer) : Except PyError Bytes :=
  match Peer.assemble pieceCount transfer with
  | .error fault => .error fault
  | .ok raw =>
      if (raw.length : Int) ≠ metadataSize then
        .error (.peerError "metadata_invalid" "metadata" "assembled metadata length mismatch")
      else .ok raw

def receive (config : Config) (metadataSize pieceCount : Int) (state : Downloading) :
    Downloading :=
  if pieceCount ≤ (state.transfer.pieces.length : Int) then
    match finish metadataSize pieceCount state.transfer with
    | .ok raw => { state with phase := .returned raw }
    | .error fault => { state with phase := .raised fault }
  else
    state.perform (Peer.readMessage config "metadata_invalid" "metadata") fun message state =>
      follow (.ofMessage config metadataSize pieceCount state.transfer message)
        { state with received := state.received ++ [message] }

def step (config : Config) (metadataSize pieceCount pipelineLimit : Int) (state : Downloading) :
    DownloadEvent → Option Downloading
  | .fill => if state.phase = .filling then some (state.fill pieceCount pipelineLimit) else none
  | .receive =>
      if state.phase = .receiving then some (state.receive config metadataSize pieceCount) else none

/-- There are pieces to ask for, and room for another request. -/
def Room (pieceCount pipelineLimit : Int) (transfer : Transfer) : Prop :=
  transfer.nextPiece < pieceCount ∧ (transfer.outstanding.length : Int) < pipelineLimit

section turns

variable {config : Config} {metadataSize pieceCount pipelineLimit : Int}

theorem fill_room {state : Downloading} (room : Room pieceCount pipelineLimit state.transfer) :
    state.fill pieceCount pipelineLimit =
      state.say false state.transfer.remoteExtId state.transfer.nextPiece
        (PeerWire.buildMetadataRequest state.transfer.remoteExtId state.transfer.nextPiece) ask :=
  if_pos room

theorem fill_full {state : Downloading} (full : ¬ Room pieceCount pipelineLimit state.transfer) :
    state.fill pieceCount pipelineLimit =
      state.perform Peer.drain fun _ state => { state with phase := .receiving } :=
  if_neg full

/-- What a turn of `fill_pipeline` may do. -/
theorem fill_cases (pieceCount pipelineLimit : Int) (state : Downloading) :
    (Room pieceCount pipelineLimit state.transfer ∧
      ((∃ message, PeerWire.buildMetadataRequest state.transfer.remoteExtId
          state.transfer.nextPiece = .ok message ∧
        state.fill pieceCount pipelineLimit = (state.wrote false state.transfer.remoteExtId
          state.transfer.nextPiece message).ask) ∨
      ∃ fault, PeerWire.buildMetadataRequest state.transfer.remoteExtId
          state.transfer.nextPiece = .error fault ∧
        state.fill pieceCount pipelineLimit = { state with phase := .raised fault })) ∨
    (¬ Room pieceCount pipelineLimit state.transfer ∧
      ((∃ drains, (∀ ending ∈ drains, ending ∈ state.session.drains) ∧
        state.fill pieceCount pipelineLimit =
          { state with session := { state.session with drains }, phase := .receiving }) ∨
      ∃ fault drains expired, some fault ∈ state.session.drains ∧
        state.fill pieceCount pipelineLimit =
          { state with
            session := { state.session with drains, expired }
            phase := .raised fault.error })) := by
  by_cases room : Room pieceCount pipelineLimit state.transfer
  · left
    refine ⟨room, ?_⟩
    rw [fill_room room]
    unfold say
    cases PeerWire.buildMetadataRequest state.transfer.remoteExtId state.transfer.nextPiece with
    | ok message => exact .inl ⟨message, rfl, rfl⟩
    | error fault => exact .inr ⟨fault, rfl, rfl⟩
  · right
    refine ⟨room, ?_⟩
    rw [fill_full room]
    unfold perform
    rcases Peer.drain_cases state.session with ⟨drains, less, ran⟩ | ⟨fault, drains, expired, one, ran⟩
    · rw [ran]
      exact .inl ⟨drains, less, rfl⟩
    · rw [ran]
      exact .inr ⟨fault, drains, expired, one, rfl⟩

/-- What a turn of the loop over the messages may do. -/
theorem receive_cases (config : Config) (metadataSize pieceCount : Int) (state : Downloading) :
    (pieceCount ≤ (state.transfer.pieces.length : Int) ∧
      ((∃ raw, finish metadataSize pieceCount state.transfer = .ok raw ∧
        state.receive config metadataSize pieceCount = { state with phase := .returned raw }) ∨
      ∃ fault, finish metadataSize pieceCount state.transfer = .error fault ∧
        state.receive config metadataSize pieceCount = { state with phase := .raised fault })) ∨
    (¬ pieceCount ≤ (state.transfer.pieces.length : Int) ∧
      ((∃ message rest, PeerWire.Framed config message ∧
        state.session.incoming = PeerWire.wire message ++ rest ∧
        state.receive config metadataSize pieceCount =
          follow (.ofMessage config metadataSize pieceCount state.transfer message)
            (state.heard message rest)) ∨
      (∀ message behind, PeerWire.Framed config message →
        state.session.incoming ≠ PeerWire.wire message ++ behind) ∧
      ∃ fault incoming expired,
        (fault = state.session.ending.error ∨
          fault = .peerError "metadata_invalid" "metadata"
            "peer message exceeds configured limit") ∧
        state.receive config metadataSize pieceCount =
          { state with
            session := { state.session with incoming, expired }
            phase := .raised fault })) := by
  unfold receive
  by_cases complete : pieceCount ≤ (state.transfer.pieces.length : Int)
  · left
    refine ⟨complete, ?_⟩
    rw [if_pos complete]
    cases finish metadataSize pieceCount state.transfer with
    | ok raw => exact .inl ⟨raw, rfl, rfl⟩
    | error fault => exact .inr ⟨fault, rfl, rfl⟩
  · right
    refine ⟨complete, ?_⟩
    rw [if_neg complete]
    unfold perform
    rcases Peer.readMessage_cases config "metadata_invalid" "metadata" state.session with
      ⟨message, rest, framed, unread, read⟩ | ⟨none, fault, incoming, expired, known, failed⟩
    · rw [read]
      exact .inl ⟨message, rest, framed, unread, rfl⟩
    · rw [failed]
      exact .inr ⟨none, fault, incoming, expired, known, rfl⟩

/-- A request of the peer is refused, if the refusal can be built and sent. -/
theorem refuse_cases (piece : Int) (state : Downloading) :
    (∃ message, PeerWire.buildMetadataReject LOCAL_UT_METADATA_ID piece = .ok message ∧
      ((∃ drains, (∀ ending ∈ drains, ending ∈ state.session.drains) ∧
        follow (.refuse piece) state =
          let wrote := state.wrote true LOCAL_UT_METADATA_ID.toNat piece message
          { wrote with session := { wrote.session with drains } }) ∨
      ∃ fault drains expired, some fault ∈ state.session.drains ∧
        follow (.refuse piece) state =
          let wrote := state.wrote true LOCAL_UT_METADATA_ID.toNat piece message
          { wrote with
            session := { wrote.session with drains, expired }
            phase := .raised fault.error })) ∨
    ∃ fault, PeerWire.buildMetadataReject LOCAL_UT_METADATA_ID piece = .error fault ∧
      follow (.refuse piece) state = { state with phase := .raised fault } := by
  dsimp only [follow]
  cases PeerWire.buildMetadataReject LOCAL_UT_METADATA_ID piece with
  | error fault => exact .inr ⟨fault, rfl, rfl⟩
  | ok message =>
      left
      refine ⟨message, rfl, ?_⟩
      dsimp only [say, perform]
      rcases Peer.drain_cases (state.wrote true LOCAL_UT_METADATA_ID.toNat piece message).session with
        ⟨drains, less, ran⟩ | ⟨fault, drains, expired, one, ran⟩
      · rw [ran]
        exact .inl ⟨drains, less, rfl⟩
      · rw [ran]
        exact .inr ⟨fault, drains, expired, one, rfl⟩

theorem step_cases {state next : Downloading} {event : DownloadEvent}
    (taken : step config metadataSize pieceCount pipelineLimit state event = some next) :
    (event = .fill ∧ state.phase = .filling ∧ next = state.fill pieceCount pipelineLimit) ∨
    (event = .receive ∧ state.phase = .receiving ∧
      next = state.receive config metadataSize pieceCount) := by
  cases event with
  | fill =>
      obtain ⟨filling, same⟩ := Option.ite_none_right_eq_some.mp taken
      exact .inl ⟨rfl, filling, (Option.some.inj same).symm⟩
  | receive =>
      obtain ⟨receiving, same⟩ := Option.ite_none_right_eq_some.mp taken
      exact .inr ⟨rfl, receiving, (Option.some.inj same).symm⟩

end turns

section reaching

variable (config : Config) (metadataSize pieceCount pipelineLimit : Int)

/-- The state can be reached. -/
def Reaches (state target : Downloading) : Prop :=
  ∃ events, Transition.run (step config metadataSize pieceCount pipelineLimit) state events =
    some target

/-- The call comes to the loop over the messages, with these pieces and this connection. -/
def Arrives (state : Downloading) (transfer : Transfer) (session : PeerSession) : Prop :=
  ∃ target, Reaches config metadataSize pieceCount pipelineLimit state target ∧
    target.phase = .receiving ∧ target.transfer = transfer ∧ target.session = session

/-- The call raises the exception. -/
def Fails (state : Downloading) (fault : PyError) (session : PeerSession) : Prop :=
  ∃ target, Reaches config metadataSize pieceCount pipelineLimit state target ∧
    target.phase = .raised fault ∧ target.session = session

end reaching

section simulation

variable {config : Config} {metadataSize pieceCount pipelineLimit : Int}

theorem Reaches.refl (state : Downloading) :
    Reaches config metadataSize pieceCount pipelineLimit state state :=
  ⟨[], rfl⟩

theorem Reaches.step {state next target : Downloading} {event : DownloadEvent}
    (taken : Downloading.step config metadataSize pieceCount pipelineLimit state event = some next)
    (further : Reaches config metadataSize pieceCount pipelineLimit next target) :
    Reaches config metadataSize pieceCount pipelineLimit state target := by
  obtain ⟨events, ran⟩ := further
  exact ⟨event :: events, Transition.run_cons.mpr ⟨next, taken, ran⟩⟩

theorem Reaches.trans {state middle target : Downloading}
    (first : Reaches config metadataSize pieceCount pipelineLimit state middle)
    (further : Reaches config metadataSize pieceCount pipelineLimit middle target) :
    Reaches config metadataSize pieceCount pipelineLimit state target := by
  obtain ⟨before, ran⟩ := first
  obtain ⟨after, goes⟩ := further
  exact ⟨before ++ after, Transition.run_append.mpr ⟨middle, ran, goes⟩⟩

theorem Reaches.next {state middle target : Downloading} {event : DownloadEvent}
    (first : Reaches config metadataSize pieceCount pipelineLimit state middle)
    (taken : Downloading.step config metadataSize pieceCount pipelineLimit middle event =
      some target) :
    Reaches config metadataSize pieceCount pipelineLimit state target :=
  first.trans (.step taken (.refl target))

theorem Arrives.after {state middle : Downloading} {transfer : Transfer} {session : PeerSession}
    (reaches : Reaches config metadataSize pieceCount pipelineLimit state middle)
    (arrives : Arrives config metadataSize pieceCount pipelineLimit middle transfer session) :
    Arrives config metadataSize pieceCount pipelineLimit state transfer session := by
  obtain ⟨target, further, there⟩ := arrives
  exact ⟨target, reaches.trans further, there⟩

theorem Fails.after {state middle : Downloading} {fault : PyError} {session : PeerSession}
    (reaches : Reaches config metadataSize pieceCount pipelineLimit state middle)
    (fails : Fails config metadataSize pieceCount pipelineLimit middle fault session) :
    Fails config metadataSize pieceCount pipelineLimit state fault session := by
  obtain ⟨target, further, there⟩ := fails
  exact ⟨target, reaches.trans further, there⟩

theorem reaches_fill {state : Downloading} (filling : state.phase = .filling) :
    Reaches config metadataSize pieceCount pipelineLimit state
      (state.fill pieceCount pipelineLimit) :=
  @Reaches.step _ _ _ _ _ _ _ .fill (if_pos filling) (.refl _)

theorem reaches_receive {state : Downloading} (receiving : state.phase = .receiving) :
    Reaches config metadataSize pieceCount pipelineLimit state
      (state.receive config metadataSize pieceCount) :=
  @Reaches.step _ _ _ _ _ _ _ .receive (if_pos receiving) (.refl _)

theorem requestPieces_reaches (requests : Nat) (state : Downloading)
    (filling : state.phase = .filling)
    (enough : pipelineLimit ≤ (state.transfer.outstanding.length : Int) + requests) :
    Ensures (· = state.session)
      (Peer.requestPieces pieceCount pipelineLimit requests state.transfer)
      (fun transfer session => ∃ target,
        Reaches config metadataSize pieceCount pipelineLimit state target ∧
        target.phase = .filling ∧ target.transfer = transfer ∧ target.session = session ∧
        ¬ Room pieceCount pipelineLimit transfer ∧ session.incoming = state.session.incoming)
      (Fails config metadataSize pieceCount pipelineLimit state) := by
  induction requests generalizing state with
  | zero =>
      apply Ensures.pure
      intro session same
      refine ⟨state, .refl state, filling, rfl, same.symm, fun room => ?_, by rw [same]⟩
      have more := room.2
      omega
  | succ requests ih =>
      unfold Peer.requestPieces
      by_cases room : Room pieceCount pipelineLimit state.transfer
      · have moves := @reaches_fill config metadataSize pieceCount pipelineLimit state filling
        rw [fill_room room] at moves
        unfold Room at room
        rw [if_pos room]
        cases built : PeerWire.buildMetadataRequest state.transfer.remoteExtId
            state.transfer.nextPiece with
        | error fault =>
            rw [built] at moves
            intro session same
            exact ⟨_, moves, rfl, same.symm⟩
        | ok message =>
            rw [built] at moves
            have asked := ih (state.wrote false state.transfer.remoteExtId
              state.transfer.nextPiece message).ask filling
              (by simp [ask, wrote]; omega)
            apply Ensures.raiseBind
            · intro value same
              cases same
              refine Ensures.bind (Ensures.modify ?_)
                (fun _ => asked.weaken (fun _ same => same) ?_ ?_)
              · intro session same
                rw [same]
                rfl
              · intro transfer session there
                obtain ⟨target, further, there⟩ := there
                exact ⟨target, moves.trans further, there⟩
              · intro fault session fails
                exact fails.after moves
            · intro fault same
              cases same
      · unfold Room at room
        rw [if_neg room]
        apply Ensures.pure
        intro session same
        exact ⟨state, .refl state, filling, rfl, same.symm, room, by rw [same]⟩

theorem fillPipeline_arrives (state : Downloading) (filling : state.phase = .filling)
    (positive : 1 ≤ pipelineLimit) :
    Ensures (· = state.session) (Peer.fillPipeline pieceCount pipelineLimit state.transfer)
      (fun transfer session => Arrives config metadataSize pieceCount pipelineLimit state transfer
        session ∧ session.incoming = state.session.incoming)
      (Fails config metadataSize pieceCount pipelineLimit state) := by
  unfold Peer.fillPipeline
  have requests := @requestPieces_reaches config metadataSize pieceCount pipelineLimit
    pipelineLimit.toNat state filling (by omega)
  apply Ensures.bind requests
  intro transfer session there
  obtain ⟨target, reaches, phase, same, rfl, full, unread⟩ := there
  have moves := @reaches_fill config metadataSize pieceCount pipelineLimit target phase
  rw [fill_full (same ▸ full), perform] at moves
  suffices drained : Ensures (· = target.session) (do Peer.drain; return transfer) _ _ from
    drained _ rfl
  rcases Peer.drain_cases target.session with ⟨drains, _, drained⟩ | ⟨fault, drains, expired, _, drained⟩
  · rw [drained] at moves
    apply Ensures.bindOk drained
    apply Ensures.pure
    rintro _ rfl
    exact ⟨⟨_, reaches.trans moves, rfl, same, rfl⟩, unread⟩
  · rw [drained] at moves
    exact Ensures.bindError drained ⟨_, reaches.trans moves, rfl, rfl⟩

/-- What `exchange` does with a message that it has read. -/
def listen (config : Config) (metadataSize pieceCount pipelineLimit : Int) (transfer : Transfer)
    (message : Option Bytes) : Peer Transfer :=
  match message with
  | some (messageId :: extensionId :: payload) =>
      if messageId ≠ BT_EXTENDED_MESSAGE_ID then pure transfer
      else if extensionId = 0 then Peer.remap config payload transfer
      else if extensionId = LOCAL_UT_METADATA_ID then
        Peer.receivePiece config metadataSize pieceCount pipelineLimit payload transfer
      else pure transfer
  | _ => pure transfer

theorem exchange_succ (messages : Nat) (transfer : Transfer) :
    Peer.exchange config metadataSize pieceCount pipelineLimit (messages + 1) transfer =
      if pieceCount ≤ (transfer.pieces.length : Int) then pure transfer
      else (do
        let message ← Peer.readMessage config "metadata_invalid" "metadata"
        let transfer ← listen config metadataSize pieceCount pipelineLimit transfer message
        Peer.exchange config metadataSize pieceCount pipelineLimit messages transfer) := by
  conv_lhs => unfold Peer.exchange
  split
  · rfl
  · congr 1
    funext message
    unfold listen
    match message with
    | none | some [] | some [_] => rfl
    | some (messageId :: extensionId :: payload) =>
        dsimp only
        by_cases other : messageId ≠ BT_EXTENDED_MESSAGE_ID
        · rw [if_pos other, if_pos other]
        rw [if_neg other, if_neg other]
        by_cases handshake : extensionId = 0
        · rw [if_pos handshake, if_pos handshake]
        rw [if_neg handshake, if_neg handshake]
        by_cases metadata : extensionId = LOCAL_UT_METADATA_ID
        · rw [if_pos metadata, if_pos metadata]
        · rw [if_neg metadata, if_neg metadata]

section listening

variable (state : Downloading) (receiving : state.phase = .receiving)

/-- The verdict leads to what the program does. -/
def Agrees (config : Config) (metadataSize pieceCount pipelineLimit : Int) (state : Downloading)
    (program : Peer Transfer) (verdict : Verdict) : Prop :=
  Ensures (· = state.session) program
    (fun transfer session => Arrives config metadataSize pieceCount pipelineLimit
      (follow verdict state) transfer session ∧ session.incoming = state.session.incoming)
    (Fails config metadataSize pieceCount pipelineLimit (follow verdict state))

include receiving in
theorem agrees_ignore :
    Agrees config metadataSize pieceCount pipelineLimit state (pure state.transfer) .ignore :=
  Ensures.pure fun _ same => ⟨⟨state, .refl state, receiving, rfl, same.symm⟩, by rw [same]⟩

theorem agrees_fail (fault : PyError) :
    Agrees config metadataSize pieceCount pipelineLimit state (throw fault) (.fail fault) :=
  Ensures.throw fun _ same => ⟨_, .refl _, rfl, same.symm⟩

theorem agrees_raise {α : Type} {fault : PyError} (next : α → Peer Transfer) :
    Agrees config metadataSize pieceCount pipelineLimit state (raise (.error fault) >>= next)
      (.fail fault) :=
  Ensures.bindError rfl ⟨_, .refl _, rfl, rfl⟩

include receiving in
theorem agrees_remap (payload : Bytes) :
    Agrees config metadataSize pieceCount pipelineLimit state
      (Peer.remap config payload state.transfer) (.ofHandshake config payload) := by
  unfold Peer.remap Verdict.ofHandshake
  cases PeerWire.parseExtensionHandshake config payload with
  | error fault => exact agrees_raise state _
  | ok handshake =>
      apply Ensures.bindOk rfl
      dsimp only
      cases Dict.get? (ascii "ut_metadata") handshake.mapping with
      | none => exact agrees_ignore state receiving
      | some updated =>
          dsimp only
          split
          · exact agrees_fail state _
          · exact Ensures.pure fun _ same =>
              ⟨⟨_, .refl _, receiving, rfl, same.symm⟩, by rw [same]⟩

include receiving in
theorem agrees_refuse (piece : Int) :
    Agrees config metadataSize pieceCount pipelineLimit state
      (do
        Peer.write (← raise (PeerWire.buildMetadataReject LOCAL_UT_METADATA_ID piece))
        Peer.drain
        return state.transfer) (.refuse piece) := by
  unfold Agrees
  dsimp only [follow]
  cases PeerWire.buildMetadataReject LOCAL_UT_METADATA_ID piece with
  | error fault => exact agrees_raise state _
  | ok message =>
      refine Ensures.bindOk rfl (Ensures.bindOk rfl ?_)
      dsimp only [say, perform]
      rcases Peer.drain_cases (state.wrote true LOCAL_UT_METADATA_ID.toNat piece message).session with
        ⟨drains, _, drained⟩ | ⟨fault, drains, expired, _, drained⟩
      · rw [drained]
        apply Ensures.bindOk drained
        exact Ensures.pure fun _ same => ⟨⟨_, .refl _, receiving, rfl, same.symm⟩, by rw [same]; rfl⟩
      · rw [drained]
        exact Ensures.bindError drained ⟨_, .refl _, rfl, rfl⟩

include receiving in
theorem agrees_receivePiece (positive : 1 ≤ pipelineLimit) (payload : Bytes) :
    Agrees config metadataSize pieceCount pipelineLimit state
      (Peer.receivePiece config metadataSize pieceCount pipelineLimit payload state.transfer)
      (.ofMetadata config metadataSize pieceCount state.transfer payload) := by
  unfold Peer.receivePiece Verdict.ofMetadata
  cases PeerWire.parseMetadataMessage config payload metadataSize pieceCount with
  | error fault => exact agrees_raise state _
  | ok message =>
      apply Ensures.bindOk rfl
      dsimp only
      split
      · exact agrees_refuse state receiving message.piece
      split
      · split
        · exact agrees_fail state _
        · exact agrees_ignore state receiving
      cases Dict.get? message.piece state.transfer.pieces with
      | some known =>
          dsimp only
          split
          · exact agrees_fail state _
          · exact agrees_ignore state receiving
      | none =>
          dsimp only
          split
          · exact agrees_fail state _
          · exact @fillPipeline_arrives config metadataSize pieceCount pipelineLimit
              (follow (.keep message.piece message.trailing) state) rfl positive

end listening

/-- The call does with a message what `_download_metadata` does with it. -/
theorem listen_arrives (positive : 1 ≤ pipelineLimit) (message : Option Bytes)
    (state : Downloading) (receiving : state.phase = .receiving) :
    Agrees config metadataSize pieceCount pipelineLimit state
      (listen config metadataSize pieceCount pipelineLimit state.transfer message)
      (.ofMessage config metadataSize pieceCount state.transfer message) := by
  unfold listen Verdict.ofMessage
  split
  · split
    · exact agrees_ignore state receiving
    split
    · exact agrees_remap state receiving _
    split
    · exact agrees_receivePiece state receiving positive _
    · exact agrees_ignore state receiving
  · exact agrees_ignore state receiving

theorem exchange_arrives (positive : 1 ≤ pipelineLimit) (messages : Nat) (state : Downloading)
    (receiving : state.phase = .receiving) (enough : state.session.incoming.length < messages) :
    Ensures (· = state.session)
      (Peer.exchange config metadataSize pieceCount pipelineLimit messages state.transfer)
      (fun transfer session =>
        Arrives config metadataSize pieceCount pipelineLimit state transfer session ∧
          pieceCount ≤ (transfer.pieces.length : Int))
      (Fails config metadataSize pieceCount pipelineLimit state) := by
  induction messages generalizing state with
  | zero => omega
  | succ messages ih =>
      rw [exchange_succ]
      by_cases complete : pieceCount ≤ (state.transfer.pieces.length : Int)
      · rw [if_pos complete]
        exact Ensures.pure fun _ same =>
          ⟨⟨state, .refl state, receiving, rfl, same.symm⟩, complete⟩
      have moves := @reaches_receive config metadataSize pieceCount pipelineLimit state receiving
      rw [receive, if_neg complete, perform] at moves
      rw [if_neg complete]
      rcases Peer.readMessage_cases config "metadata_invalid" "metadata" state.session with
        ⟨message, rest, _, unread, read⟩ | ⟨_, fault, incoming, expired, _, failed⟩
      · rw [read] at moves
        apply Ensures.bindOk read
        have listens := @listen_arrives config metadataSize pieceCount pipelineLimit positive
          message (state.heard message rest) receiving
        apply Ensures.bind (listens.raises fun fault session fails => fails.after moves)
        · intro transfer session there
          obtain ⟨⟨target, further, phase, rfl, rfl⟩, left⟩ := there
          change target.session.incoming = rest at left
          have shorter : target.session.incoming.length < messages := by
            rw [unread, List.length_append, PeerWire.length_wire] at enough
            rw [left]
            omega
          have onward := moves.trans further
          apply (ih target phase shorter).weaken (fun _ same => same) _ _ target.session rfl
          · rintro transfer session ⟨arrives, complete⟩
            exact ⟨arrives.after onward, complete⟩
          · intro fault session fails
            exact fails.after onward
      · rw [failed] at moves
        exact Ensures.bindError failed ⟨_, moves, rfl, rfl⟩

end simulation

/-- The number of pieces, and the number of requests that may be open at a time. -/
def pieces (metadataSize : Int) : Int := (metadataSize + BEP9_BLOCK_SIZE - 1) / BEP9_BLOCK_SIZE

def pipeline (config : Config) (pipelineLimit : Int) : Int :=
  max 1 (min config.metadataRequestPipeline
    (if pipelineLimit = 0 then config.metadataRequestPipeline else pipelineLimit))

/-- A call of `_download_metadata` whose sizes have been checked. -/
def start (remoteExtId : Int) (session : PeerSession) : Downloading :=
  { transfer := { remoteExtId }, session }

theorem finish_raised (metadataSize pieceCount : Int) (transfer : Transfer) :
    (do
      let raw ← raise (Peer.assemble pieceCount transfer)
      if (raw.length : Int) ≠ metadataSize then
        throw (.peerError "metadata_invalid" "metadata" "assembled metadata length mismatch")
      return raw : Peer Bytes) = raise (finish metadataSize pieceCount transfer) := by
  unfold finish
  cases Peer.assemble pieceCount transfer with
  | error fault => rfl
  | ok raw =>
      dsimp only
      by_cases short : (raw.length : Int) ≠ metadataSize
      · rw [if_pos short]
        show (if (raw.length : Int) ≠ metadataSize then _ else _) = _
        rw [if_pos short]
        rfl
      · rw [if_neg short]
        show (if (raw.length : Int) ≠ metadataSize then _ else _) = _
        rw [if_neg short]
        rfl

/-- `_download_metadata` ends as the call does. -/
theorem downloadMetadata_ends (config : Config) (remoteExtId metadataSize pipelineLimit : Int)
    (session : PeerSession)
    (valid : ¬ (pieces metadataSize ≤ 0 ∨ config.maxMetadataSize < metadataSize)) :
    Ensures (· = session)
      (Peer.downloadMetadata config remoteExtId metadataSize pipelineLimit)
      (fun raw after => ∃ target,
        Reaches config metadataSize (pieces metadataSize) (pipeline config pipelineLimit)
          (start remoteExtId session) target ∧
        target.phase = .returned raw ∧ target.session = after)
      (Fails config metadataSize (pieces metadataSize) (pipeline config pipelineLimit)
        (start remoteExtId session)) := by
  have positive : 1 ≤ pipeline config pipelineLimit := le_max_left _ _
  unfold Peer.downloadMetadata
  change Ensures _ (if pieces metadataSize ≤ 0 ∨ config.maxMetadataSize < metadataSize then _
    else _) _ _
  rw [if_neg valid]
  have fills := @fillPipeline_arrives config metadataSize (pieces metadataSize) _
    (start remoteExtId session) rfl positive
  apply Ensures.bind (fills.weaken (fun _ same => same) (fun _ _ there => there.1)
    fun _ _ fails => fails)
  intro transfer filled there
  obtain ⟨target, reaches, phase, rfl, rfl⟩ := there
  refine Ensures.get (fun seen same => ?_) target.session rfl
  cases same
  refine Ensures.bind ((@exchange_arrives config metadataSize (pieces metadataSize) _ positive
    (Peer.messageBound target.session) target phase (Nat.lt_succ_self _)).raises
      fun fault session fails => fails.after reaches) ?_
  intro transfer last there
  obtain ⟨⟨last, further, receiving, rfl, rfl⟩, complete⟩ := there
  have moves := @reaches_receive config metadataSize (pieces metadataSize)
    (pipeline config pipelineLimit) last receiving
  rw [receive, if_pos complete] at moves
  have ended := (reaches.trans further).trans moves
  suffices finished : Ensures (· = last.session)
      (raise (finish metadataSize (pieces metadataSize) last.transfer))
      (fun raw after => ∃ target, Reaches config metadataSize (pieces metadataSize)
        (pipeline config pipelineLimit) (start remoteExtId session) target ∧
        target.phase = .returned raw ∧ target.session = after)
      (Fails config metadataSize (pieces metadataSize) (pipeline config pipelineLimit)
        (start remoteExtId session)) by
    rw [← finish_raised] at finished
    exact finished last.session rfl
  apply Ensures.raise
  · intro raw returned session same
    rw [returned] at ended
    exact ⟨_, ended, rfl, same.symm⟩
  · intro fault failed session same
    rw [failed] at ended
    exact ⟨_, ended, rfl, same.symm⟩

end Downloading

end PyDht
