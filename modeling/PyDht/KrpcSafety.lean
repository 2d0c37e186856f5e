import PyDht.BencodeRoundTrip
import PyDht.KrpcFaults
import PyDht.KrpcQueries
import PyDht.ProvenanceRuns
import PyDht.QueryFrames

set_option autoImplicit false

namespace PyDht

open Effects (Ensures Preserves Total Raising)

namespace Bencode

theorem encode_ok {value : Value} (distinct : value.Distinct) (converts : Converts value) :
    ∃ data, encode value = .ok data :=
  ⟨_, (encode_ok_iff distinct _).mpr ⟨converts, rfl⟩⟩

end Bencode

namespace DHTNode

/-- Nothing was sent, and the transport is as it was. -/
def Silent (start node : DHTNode) : Prop :=
  node.sent = start.sent ∧ node.connected = start.connected

/-- Nothing was sent, or one datagram that is short enough, to the given endpoint. -/
def Replies (start : DHTNode) (endpoint : Endpoint) (node : DHTNode) : Prop :=
  node.sent = start.sent ∨ ∃ datagram, node.sent = start.sent ++ [datagram] ∧
    datagram.endpoint = endpoint ∧ datagram.payload.length ≤ MAX_DHT_RESPONSE_BYTES

theorem silent_quiet (start : DHTNode) : Quiet (Silent start) where
  ticks _ silent := silent
  emitted _ _ silent := silent
  candidates _ _ silent := silent

theorem replies_quiet (start : DHTNode) (endpoint : Endpoint) : Quiet (Replies start endpoint) where
  ticks _ replies := replies
  emitted _ _ replies := replies
  candidates _ _ replies := replies

/-- A message that can be encoded goes out unless it is too long. -/
theorem send_replies {start : DHTNode} (connected : start.connected = true) {message : Message}
    {payload : Bytes} (encoded : Bencode.encode (.dict message) = .ok payload)
    (endpoint : Endpoint) :
    Ensures (Silent start) (send message endpoint) (fun _ => Replies start endpoint)
      (fun fault node => Silent start node ∧ fault.isDHTError = true ∧
        MAX_DHT_RESPONSE_BYTES < payload.length) := by
  apply Ensures.get
  intro node silent
  have ready : node.connected = true := silent.2.trans connected
  rw [ready, encoded]
  have small : Ensures (· = node) (Effects.check
      (decide (payload.length ≤ MAX_DHT_RESPONSE_BYTES)) (PyError.dhtError
        "outbound DHT datagram exceeds 1024-byte protocol limit"))
      (fun _ state => state = node ∧ payload.length ≤ MAX_DHT_RESPONSE_BYTES)
      (fun fault state => Silent start state ∧ fault.isDHTError = true ∧
        MAX_DHT_RESPONSE_BYTES < payload.length) :=
    Ensures.check (fun fits _ same => ⟨same, of_decide_eq_true fits⟩) fun long _ same =>
      ⟨same ▸ silent, rfl, Nat.lt_of_not_le (of_decide_eq_false long)⟩
  apply small.bind
  intro _
  apply Ensures.set
  intro state holds
  exact .inr ⟨_, by rw [silent.1], rfl, holds.2⟩

/-- The entries of an error message. -/
theorem error_message (env : Environment) (tid : Bytes) (value : Value) :
    (base env tid "e").set "e" value = base env tid "e" ++ [(ascii "e", value)] := by
  apply Dict.set_new
  simp [base, Dict.keys, ascii]

/-- What an error message says, whose text is cut. -/
def errorMessage (env : Environment) (tid : Bytes) (code : Int) (text : String) : Message :=
  (base env tid "e").set "e"
    (.list [.int code, .bytes ((encodeUtf8 text).take env.config.maxEvidenceTextLength.toNat)])

theorem error_distinct (env : Environment) (tid : Bytes) (code : Int) (text : String) :
    (Value.dict (errorMessage env tid code text)).Distinct := by
  rw [errorMessage, error_message]
  simp [Value.Distinct, Value.keys, base, ascii]

/-- An error message with a short ID and code can be encoded. -/
theorem error_encodes {env : Environment} (limits : env.config.DefaultLimits) {tid : Bytes}
    (short : Bencode.ShortLength tid) {code : Int} (small : Short code) (text : String) :
    ∃ payload, Bencode.encode (.dict (errorMessage env tid code text)) = .ok payload := by
  have version : Bencode.ShortLength env.config.dhtClientVersion := by
    apply Bencode.shortLength_of_lt
    rw [limits]
    show 4 < 10 ^ 20
    omega
  have detail : Bencode.ShortLength
      ((encodeUtf8 text).take env.config.maxEvidenceTextLength.toNat) := by
    apply Bencode.shortLength_of_lt
    have limit : env.config.maxEvidenceTextLength.toNat = 4096 := by
      rw [limits]
      rfl
    rw [List.length_take, limit]
    omega
  have names : ∀ name : String, name.toList.length = 1 → Bencode.ShortLength (ascii name) := by
    intro name length
    apply Bencode.shortLength_of_lt
    rw [ascii, List.length_map, length]
    omega
  apply Bencode.encode_ok (error_distinct env tid code text)
  have content : Bencode.Converts (.list [.int code, .bytes ((encodeUtf8 text).take
      env.config.maxEvidenceTextLength.toNat)]) := by
    rw [Bencode.converts_list, List.forall_mem_cons, List.forall_mem_singleton]
    exact ⟨Bencode.converts_int small, (Bencode.converts_bytes _).mpr detail⟩
  rw [errorMessage, error_message]
  simp only [base, List.cons_append, List.nil_append, Bencode.converts_dict,
    List.forall_mem_cons, Bencode.converts_bytes]
  exact ⟨⟨names "t" rfl, short⟩, ⟨names "y" rfl, names "e" rfl⟩, ⟨names "v" rfl, version⟩,
    ⟨names "e" rfl, content⟩, by simp⟩

theorem sendError_replies {env : Environment} (limits : env.config.DefaultLimits)
    {start : DHTNode} (connected : start.connected = true) {tid : Bytes}
    (short : Bencode.ShortLength tid) {code : Int} (small : Short code) (text : String)
    (endpoint : Endpoint) (associatedQuery : Option Bytes) :
    Ensures (Silent start) (sendError env tid code text endpoint associatedQuery)
      (fun _ => Replies start endpoint) (fun _ _ => False) := by
  obtain ⟨payload, encoded⟩ := error_encodes limits short small text
  apply Ensures.bind
  · apply Ensures.tryCatch (send_replies connected encoded endpoint)
    intro fault
    split
    · exact Ensures.pure fun _ holds => .inl holds.1.1
    · rename_i other
      exact Ensures.throw fun _ holds => absurd holds.2.1 other
  · intro _
    exact (emit_total _).keeps ((replies_quiet start endpoint).emit _)

/-- Making a response sends nothing. -/
theorem reply_silent {env : Environment} (limits : env.config.DefaultLimits) (method : Bytes)
    (args : Message) (endpoint : Endpoint) (msg : Message) (start : DHTNode) :
    Ensures (Silent start) (reply env method args endpoint msg) (fun _ => Silent start)
      (fun fault node => Silent start node ∧ Answerable fault) := by
  intro state silent
  have working : ∀ node, Replied env state method args endpoint node → Silent start node :=
    fun node replied => ⟨replied.1.sent.trans silent.1, replied.1.connected.trans silent.2⟩
  exact ((reply_ensures env method args endpoint msg state).raising
    (reply_raising limits method args endpoint msg)).weaken (fun _ same => same)
    (fun _ node holds => working node holds.1) (fun _ node holds => ⟨working node holds.1, holds.2⟩)
    state rfl

/-- The answer to a query is one datagram; nothing is raised once it is sent. -/
theorem respond_replies {env : Environment} (limits : env.config.DefaultLimits)
    {start : DHTNode} (connected : start.connected = true) {tid : Bytes}
    (short : Bencode.ShortLength tid) (method : Bytes) (args : Message) (endpoint : Endpoint)
    (msg : Message) :
    Ensures (Silent start) (respond env tid method args endpoint msg)
      (fun _ => Replies start endpoint)
      (fun fault node => Silent start node ∧ Answerable fault) := by
  apply Ensures.bind (reply_silent limits method args endpoint msg start)
  intro response
  cases response with
  | none =>
      have unknown : Short 204 := by
        show (204 : Int).natAbs < 10 ^ 20
        decide
      have noted : Ensures (Silent start) (Effects.when ([ascii "get", ascii "put"].contains method)
          (emit (.bep44Observation method endpoint))) (fun _ => Silent start)
          (fun fault node => Silent start node ∧ Answerable fault) :=
        ((Total.when (emit_total _)).keeps (Preserves.when fun _ =>
          (silent_quiet start).emit _)).raises fun _ _ impossible => impossible.elim
      apply noted.bind
      intro _
      exact (sendError_replies limits connected short unknown "Method Unknown" endpoint
        (some method)).raises fun _ _ impossible => impossible.elim
  | some response =>
      apply Ensures.raiseBind
      · intro payload encoded
        have tooLarge : Answerable (.krpcError 202 "Response too large") := by
          show (202 : Int).natAbs < 10 ^ 20
          decide
        have fits : Ensures (Silent start) (Effects.check
            (decide (payload.length ≤ MAX_DHT_RESPONSE_BYTES))
            (PyError.krpcError 202 "Response too large"))
            (fun _ node => Silent start node ∧ payload.length ≤ MAX_DHT_RESPONSE_BYTES)
            (fun fault node => Silent start node ∧ Answerable fault) :=
          Ensures.check (fun fits _ silent => ⟨silent, of_decide_eq_true fits⟩)
            fun _ _ silent => ⟨silent, tooLarge⟩
        apply fits.bind
        intro _
        have sent : Ensures (fun node => Silent start node ∧
            payload.length ≤ MAX_DHT_RESPONSE_BYTES)
            (send ((base env tid "r").set "r" (.dict response)) endpoint)
            (fun _ => Replies start endpoint)
            (fun fault node => Silent start node ∧ Answerable fault) := by
          intro node holds
          exact (send_replies connected encoded endpoint).weaken (fun _ silent => silent)
            (fun _ _ replies => replies)
            (fun _ _ failed => absurd failed.2.2 (Nat.not_lt.mpr holds.2)) node holds.1
        apply sent.bind
        intro _
        exact ((Total.when (emitResponseEvidence_total env _ endpoint method _)).keeps
          (Preserves.when fun _ => (replies_quiet start endpoint).emitResponseEvidence env _
            endpoint method _)).raises fun _ _ impossible => impossible.elim
      · intro fault failed node silent
        exact ⟨silent, Answerable.of_value (Bencode.encode_raises _ fault failed)⟩

/-- Meeting the sender of a query sends nothing, and is never the end of it. -/
theorem greet_silent {env : Environment} (limits : env.config.DefaultLimits) {start : DHTNode}
    (upkept : Upkept env.config start) (msg : Message) (endpoint : Endpoint)
    (method remoteId : Bytes) :
    Ensures (· = start) (greet env msg endpoint method remoteId)
      (fun _ node => Silent start node ∧ node = greeted env msg endpoint method remoteId start)
      (fun _ _ => False) := by
  have valid : 1 ≤ env.config.dhtRoutingBadAfterFailures := by
    rw [limits]
    show (1 : Int) ≤ 2
    decide
  have returns : Ensures (· = start) (greet env msg endpoint method remoteId)
      (fun _ _ => True) (fun _ _ => False) :=
    (greet_upkept valid msg endpoint method remoteId).weaken (fun _ same => same ▸ upkept)
      (fun _ _ _ => trivial) fun _ _ impossible => impossible
  apply ((Ensures.leaves (greet env msg endpoint method remoteId) start).and returns).weaken
    (fun _ same => same)
  · intro _ node holds
    have met : node = greeted env msg endpoint method remoteId start := holds.1
    have same := (greeted_greeted env msg endpoint method remoteId start).same
    refine ⟨?_, met⟩
    rw [met, same]
    exact ⟨rfl, rfl⟩
  · exact fun _ _ holds => holds.2

/-- A query is answered with one datagram at most, and nothing is raised. -/
theorem handleQuery_replies {env : Environment} (limits : env.config.DefaultLimits)
    {start : DHTNode} (connected : start.connected = true) (upkept : Upkept env.config start)
    {msg : Message} (short : Bencode.ShortLength (transaction msg)) (endpoint : Endpoint) :
    Ensures (· = start) (handleQuery env msg endpoint) (fun _ => Replies start endpoint)
      (fun _ _ => False) := by
  have silent : Silent start start := ⟨rfl, rfl⟩
  have refuse : ∀ text associated, Ensures (Silent start)
      (sendError env (transaction msg) 203 text endpoint associated)
      (fun _ => Replies start endpoint) (fun _ _ => False) := by
    intro text associated
    have code : Short 203 := by
      show (203 : Int).natAbs < 10 ^ 20
      decide
    exact sendError_replies limits connected short code text endpoint associated
  have begin : ∀ program : Node Unit, Ensures (Silent start) program
      (fun _ => Replies start endpoint) (fun _ _ => False) → Ensures (· = start) program
      (fun _ => Replies start endpoint) (fun _ _ => False) :=
    fun program ensures => ensures.weaken (fun _ same => same ▸ silent) (fun _ _ holds => holds)
      fun _ _ holds => holds
  unfold handleQuery
  dsimp only
  split
  · rename_i method args _ _
    split
    · exact begin _ (refuse "Invalid node ID" none)
    · rename_i remoteId _
      apply ((greet_silent limits upkept msg endpoint method remoteId).weaken (fun _ same => same)
        (fun _ _ holds => holds.1) fun _ _ impossible => impossible).bind
      intro _
      apply Ensures.tryCatch
        ((respond_replies limits connected short method args endpoint msg).weaken
          (fun _ holds => holds) (fun _ _ holds => holds) fun _ _ holds => holds)
      intro fault
      split
      · rename_i code text
        intro node holds
        exact sendError_replies limits connected short holds.2 text endpoint (some method) node
          holds.1
      · rename_i other
        split
        · exact (refuse fault.text (some method)).weaken (fun _ holds => holds.1)
            (fun _ _ holds => holds) fun _ _ holds => holds
        · rename_i unknown
          apply Ensures.throw
          intro node holds
          have known := holds.2
          cases fault with
          | krpcError code text => exact other code text rfl
          | _ => exact unknown known
  · exact begin _ (refuse "Protocol Error" none)

/-- The transaction ID of a message that was read can be written again. -/
theorem transaction_short {config : Config} {data : Bytes} {msg : Message}
    (received : receive config data = .ok msg) : Bencode.ShortLength (transaction msg) := by
  rcases bind_ok_iff.mp received with ⟨value, decoded, envelope⟩
  have accepted := ((Bencode.decode_ok_iff _ _ _ _).mp decoded).1
  split at envelope
  · rename_i entries
    have same : entries = msg := by
      dsimp only at envelope
      split at envelope
      · cases envelope
      · cases envelope
      · split at envelope
        · cases envelope
        · cases envelope
        · split at envelope
          · exact pure_ok_iff.mp envelope
          · cases envelope
        · cases envelope
    have converts := (Bencode.converts_dict entries).mp accepted.convertible
    unfold transaction
    cases found : Value.asBytes (msg.get? "t") with
    | none => exact Bencode.shortLength_of_lt (by simp)
    | some tid =>
        have entry : msg.get? "t" = some (.bytes tid) := by
          unfold Value.asBytes at found
          split at found
          · rename_i text isText
            exact isText.trans (by rw [Option.some.inj found])
          · cases found
        have member : (ascii "t", Value.bytes tid) ∈ entries := same ▸ Dict.mem_of_get? entry
        exact (Bencode.converts_bytes tid).mp (converts _ member).2
  · cases envelope

/-- What handling a datagram may do to the outside: it is answered, if at all,
with one short datagram, and a response or an error is not answered. -/
structure Handled (config : Config) (start : DHTNode) (data : Bytes) (source : Endpoint)
    (node : DHTNode) : Prop where
  replies : Replies start source node
  silent : ∀ msg, receive config data = .ok msg →
    Value.asBytes (msg.get? "y") = some (ascii "r") ∨
      Value.asBytes (msg.get? "y") = some (ascii "e") → node.sent = start.sent

theorem sent_passive (start : DHTNode) : Passive fun node => node.sent = start.sent :=
  Passive.ofStock fun stock => stock.sent = start.sent

theorem handleDatagram_handled {env : Environment} (limits : env.config.DefaultLimits)
    {start : DHTNode} (connected : start.connected = true) (upkept : Upkept env.config start)
    (data : Bytes) (source : Endpoint) :
    Ensures (· = start) (handleDatagram env data source)
      (fun _ => Handled env.config start data source) (fun _ _ => False) := by
  have valid : 1 ≤ env.config.dhtRoutingBadAfterFailures := by
    rw [limits]
    show (1 : Int) ≤ 2
    decide
  have idle : Idle (Handled env.config start data source) :=
    ⟨fun _ handled => ⟨handled.replies, handled.silent⟩,
      fun _ _ handled => ⟨handled.replies, handled.silent⟩⟩
  apply handleDatagram_rule idle.noting env data source start ⟨.inl rfl, fun _ _ _ => rfl⟩
  · intro msg received isQuery _
    apply (handleQuery_replies limits connected upkept (transaction_short received)
      source).weaken (fun _ same => same)
    · intro _ node replies
      refine ⟨replies, fun other isOther kind => ?_⟩
      rw [received] at isOther
      rw [← Except.ok.inj isOther, isQuery] at kind
      exact absurd kind (by decide)
    · exact fun _ _ impossible => impossible
  · intro msg _ kind
    apply ((sent_passive start).handleResponseOrError env msg source kind start rfl).and
      (handleResponseOrError_upkept valid msg source start kind upkept) |>.weaken
      (fun _ same => same)
    · exact fun _ _ holds => ⟨.inl holds.1, fun _ _ _ => holds.1⟩
    · exact fun _ _ holds => holds.2

end DHTNode

namespace NodeSystem

/-- In every state of every run with an open transport a datagram is handled
without an exception and answered with one short datagram at most, which goes
back to its source; responses and errors are never answered. -/
theorem run_handles_datagram (env : Environment) (limits : env.config.DefaultLimits)
    (nodeId : Bytes) (candidates : CandidateManager) (txCounter : Nat) (localIps : List String)
    (start : NodeSystem) (made : new env nodeId candidates txCounter localIps = .ok start)
    (events : List NodeEvent) (system : NodeSystem)
    (ran : Transition.run (step env) start events = some system)
    (connected : system.node.connected = true) (data : Bytes) (source : Endpoint) :
    ∃ node, DHTNode.handleDatagram env data source system.node = .ok () node ∧
      DHTNode.Handled env.config system.node data source node := by
  have valid : 1 ≤ env.config.dhtRoutingBadAfterFailures := by
    rw [limits]
    show (1 : Int) ≤ 2
    decide
  have upkept := run_upkept valid made ran
  have handled := DHTNode.handleDatagram_handled limits connected upkept data source system.node rfl
  cases outcome : DHTNode.handleDatagram env data source system.node with
  | ok value node =>
      rw [outcome] at handled
      exact ⟨node, rfl, handled⟩
  | error fault node =>
      rw [outcome] at handled
      exact handled.elim

/-- A node that has been pinged before gets a query with an argument missing. -/
theorem run_handles_datagram_sample : ∃ start system, quietNode = .ok start ∧
    Transition.run (step quietWorld) start pinged = some system ∧
    ∃ node, DHTNode.handleDatagram quietWorld
        (ascii "d1:ad2:id20:qrstuvwxyzabcdefghije1:q9:find_node1:t2:aa1:y1:qe")
        ("9.9.9.9", 6881) system.node = .ok () node ∧
      DHTNode.Handled quietWorld.config system.node
        (ascii "d1:ad2:id20:qrstuvwxyzabcdefghije1:q9:find_node1:t2:aa1:y1:qe")
        ("9.9.9.9", 6881) node := by
  rcases quiet_check (show (quietNode.toOption.bind fun start =>
      (Transition.run (step quietWorld) start pinged).map fun system => system.node.connected) =
        some true by decide +kernel) with ⟨start, system, made, ran, connected⟩
  exact ⟨start, system, made, ran, run_handles_datagram quietWorld rfl _ _ _ _ start made pinged
    system ran connected _ _⟩

end NodeSystem

end PyDht
