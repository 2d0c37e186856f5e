import PyDht.KrpcQueries
import PyDht.NodeRuns
import PyDht.QueryRuns

set_option autoImplicit false

namespace PyDht

open Effects (Ensures Preserves)

/-- The records for the samples and the values of a response. -/
def NodeRecord.isHarvest : NodeRecord → Bool
  | .bep51Sample .. | .getPeersValue .. => true
  | _ => false

namespace DHTNode

/-- The values of a response. -/
def responseValues (response : Message) : List Value :=
  (Value.asList (response.get? "values")).getD []

/-- The findings that a response to the given query is evidence of: its samples,
where samples were asked for, and the peers among its values. -/
def Reports (query : Bytes) (response : Message) : NodeRecord → Prop
  | .bep51Sample _ key => query = ascii "sample_infohashes" ∧ key ∈ sampleKeys response
  | .getPeersValue _ peer => ∃ raw ∈ responseValues response,
      (Value.asBytes (some raw)).map parseCompactPeer = some (.ok peer)
  | _ => False

/-- The response holds no finding. -/
def Barren (query : Bytes) (response : Message) : Prop :=
  ∀ record, ¬ Reports query response record

/-- The keys are submitted one after the other. -/
def Submitted (config : Config) : List Bytes → CandidateManager → CandidateManager → Prop
  | [], before, after => after = before
  | key :: rest, before, after => ∃ now wall,
      Submitted config rest (before.submit config now wall key "bep51" none false).2 after

theorem Submitted.snoc {config : Config} {keys : List Bytes}
    {before after : CandidateManager} (submitted : Submitted config keys before after)
    (key : Bytes) (now wall : Int) : Submitted config (keys ++ [key]) before
      (after.submit config now wall key "bep51" none false).2 := by
  induction keys generalizing before with
  | nil =>
      cases submitted
      exact ⟨now, wall, rfl⟩
  | cons first rest ih =>
      rcases submitted with ⟨firstNow, firstWall, others⟩
      exact ⟨firstNow, firstWall, ih others⟩

/-- Since the start only these findings were recorded, and the candidates have the property. -/
def Kept (finding : NodeRecord → Prop) (candidates : CandidateManager → Prop)
    (start node : DHTNode) : Prop :=
  (∃ said, node.emitted = start.emitted ++ said ∧
      ∀ record ∈ said, record.isFinding = true → finding record) ∧
    candidates node.candidates

section kept

variable {finding : NodeRecord → Prop} {candidates : CandidateManager → Prop}
  {start node : DHTNode}

theorem Kept.mono {wider : NodeRecord → Prop} {weaker : CandidateManager → Prop}
    (kept : Kept finding candidates start node)
    (records : ∀ record, finding record → wider record)
    (manager : candidates node.candidates → weaker node.candidates) :
    Kept wider weaker start node := by
  rcases kept with ⟨⟨said, emitted, sound⟩, holds⟩
  exact ⟨⟨said, emitted, fun record member isFinding =>
    records record (sound record member isFinding)⟩, manager holds⟩

theorem Kept.refl (holds : candidates start.candidates) : Kept finding candidates start start :=
  ⟨⟨[], by simp, by simp⟩, holds⟩

theorem Kept.record (kept : Kept finding candidates start node) (record : NodeRecord)
    (sound : record.isFinding = true → finding record) :
    Kept finding candidates start { node with emitted := node.emitted ++ [record] } := by
  rcases kept with ⟨⟨said, emitted, before⟩, holds⟩
  refine ⟨⟨said ++ [record], by simp [emitted], fun other member isFinding => ?_⟩, holds⟩
  rcases List.mem_append.mp member with old | new
  · exact before other old isFinding
  · rw [List.mem_singleton.mp new] at isFinding ⊢
    exact sound isFinding

theorem kept_noting (finding : NodeRecord → Prop) (candidates : CandidateManager → Prop)
    (start : DHTNode) : Noting (Kept finding candidates start) where
  ticks _ kept := kept
  note _ record plain kept := kept.record record fun isFinding => by
    rw [plain] at isFinding
    cases isFinding

theorem kept_roaming (finding : NodeRecord → Prop) (candidates : CandidateManager → Prop)
    (start : DHTNode) : Roaming (Kept finding candidates start) :=
  { kept_noting finding candidates start with routing := fun _ _ kept => kept }

theorem kept_unbooked (finding : NodeRecord → Prop) (candidates : CandidateManager → Prop)
    (start : DHTNode) : Unbooked (Kept finding candidates start) :=
  { kept_noting finding candidates start with
    pending := fun _ _ kept => kept
    pendingSlots := fun _ _ kept => kept
    txCounter := fun _ _ kept => kept
    connected := fun _ _ kept => kept
    closing := fun _ _ kept => kept }

theorem kept_outgoing (message : Message) (endpoint : Endpoint) :
    Outgoing (Kept finding candidates start) message endpoint :=
  fun _ _ kept => kept

/-- A submission, for whatever the times are. -/
theorem submit_kept {later : CandidateManager → Prop} (env : Environment) (key : Bytes)
    (origin : String) (hint : Option PeerHint)
    (moves : ∀ manager now wall, candidates manager →
      later (manager.submit env.config now wall key origin hint false).2) :
    Ensures (Kept finding candidates start) (submit env key origin hint)
      (fun _ => Kept finding later start) (fun _ _ => False) := by
  intro node kept
  exact ⟨kept.1, moves _ _ _ kept.2⟩

theorem emit_kept (record : NodeRecord) (sound : record.isFinding = true → finding record) :
    Preserves (Kept finding candidates start) (emit record) :=
  Preserves.modify fun _ kept => kept.record record sound

theorem emitValues_kept (index : Nat) (values : List Value)
    (sound : ∀ raw ∈ values, ∀ place peer,
      (Value.asBytes (some raw)).map parseCompactPeer = some (.ok peer) →
      finding (.getPeersValue place peer)) :
    Preserves (Kept finding candidates start) (emitValues index values) := by
  induction values generalizing index with
  | nil => exact Preserves.pure ()
  | cons raw rest ih =>
      apply Preserves.bind
      · unfold emitValue
        split
        · rename_i peer parsed
          exact emit_kept _ fun _ => sound raw (by simp) index peer parsed
        · exact Preserves.pure ()
      · intro _
        exact ih (index + 1) fun other member => sound other (List.mem_cons_of_mem _ member)

theorem emitSamples_kept {before : CandidateManager} (env : Environment) (index : Nat)
    (done rest : List Bytes) (sound : ∀ key ∈ rest, ∀ place, finding (.bep51Sample place key)) :
    Ensures (Kept finding (Submitted env.config done before) start)
      (emitSamples env index rest)
      (fun _ => Kept finding (Submitted env.config (done ++ rest) before) start)
      (fun _ _ => False) := by
  induction rest generalizing index done with
  | nil =>
      rw [List.append_nil]
      exact Ensures.pure fun _ kept => kept
  | cons key rest ih =>
      have joined : done ++ key :: rest = (done ++ [key]) ++ rest := by simp
      rw [joined]
      apply Ensures.bind
      · exact (emit_total _).keeps (emit_kept _ fun _ => sound key (by simp) index)
      intro _
      apply Ensures.bind (submit_kept env key "bep51" none fun manager now wall submitted =>
        submitted.snoc key now wall)
      intro _
      exact ih (index + 1) (done ++ [key]) fun other member =>
        sound other (List.mem_cons_of_mem _ member)

/-- What accepting a response that was asked for may add. -/
def Harvest (config : Config) (query : Bytes) (response : Message) (start node : DHTNode) : Prop :=
  Kept (Reports query response) (fun manager => manager = start.candidates ∨
    query = ascii "sample_infohashes" ∧
      Submitted config (sampleKeys response) start.candidates manager) start node

theorem emitResponseEvidence_harvest (env : Environment) {msg response : Message}
    (content : Value.asDict (msg.get? "r") = some response) (endpoint : Endpoint) (query : Bytes)
    (direction : Direction) :
    Ensures (Kept (fun _ => False) (· = start.candidates) start)
      (emitResponseEvidence env msg endpoint query direction)
      (fun _ => Harvest env.config query response start)
      (fun _ => Harvest env.config query response start) := by
  have begin : ∀ node, Kept (fun _ => False) (· = start.candidates) start node →
      Kept (Reports query response) (Submitted env.config [] start.candidates) start node :=
    fun node kept => kept.mono (fun _ impossible => impossible.elim) fun same => same
  have sampled : Ensures (Kept (fun _ => False) (· = start.candidates) start)
      (Effects.when (decide (query = ascii "sample_infohashes"))
        (emitSamples env 0 (sampleKeys response)))
      (fun _ => Harvest env.config query response start)
      (fun _ => Harvest env.config query response start) := by
    apply Ensures.when
    · intro sampling
      have sampling : query = ascii "sample_infohashes" := of_decide_eq_true sampling
      exact (emitSamples_kept env 0 [] (sampleKeys response) fun key member place =>
        ⟨sampling, member⟩).weaken begin (fun _ _ kept => ⟨kept.1, .inr ⟨sampling, kept.2⟩⟩)
        fun _ _ impossible => impossible.elim
    · intro _ node kept
      exact ⟨(begin node kept).1, .inl kept.2⟩
  unfold emitResponseEvidence
  rw [content]
  dsimp only [Option.getD_some]
  apply sampled.bind
  intro _
  apply Preserves.bind
  · exact emitValues_kept 0 _ fun raw member place peer parsed => ⟨raw, member, parsed⟩
  · intro _
    exact emit_kept _ fun isFinding => by cases isFinding

/-- The evidence of a response without findings reports none. -/
theorem emitResponseEvidence_barren (env : Environment) {msg response : Message} {query : Bytes}
    (content : Value.asDict (msg.get? "r") = some response) (barren : Barren query response)
    (endpoint : Endpoint) (direction : Direction) :
    Preserves (Kept finding candidates start)
      (emitResponseEvidence env msg endpoint query direction) := by
  unfold emitResponseEvidence
  rw [content]
  dsimp only [Option.getD_some]
  apply Preserves.bind
  · apply Preserves.when
    intro sampling
    have sampling : query = ascii "sample_infohashes" := of_decide_eq_true sampling
    have none : sampleKeys response = [] := by
      apply List.eq_nil_iff_forall_not_mem.mpr
      intro key member
      exact barren (.bep51Sample 0 key) ⟨sampling, member⟩
    rw [none]
    exact Preserves.pure ()
  · intro _
    apply Preserves.bind
    · exact emitValues_kept 0 _ fun raw member place peer parsed =>
        absurd ⟨raw, member, parsed⟩ (barren (.getPeersValue place peer))
    · intro _
      exact emit_kept _ fun isFinding => by cases isFinding

end kept

section queries

variable {finding : NodeRecord → Prop} {candidates : CandidateManager → Prop} {start : DHTNode}

/-- Once a message has gone out, the transport was open. -/
theorem send_kept {fact : Prop} (message : Message) (endpoint : Endpoint) :
    Ensures (fun node => Kept finding candidates start node ∧ (node.connected = true → fact))
      (send message endpoint) (fun _ node => Kept finding candidates start node ∧ fact)
      (fun _ => Kept finding candidates start) := by
  apply Ensures.get
  intro node holds
  have kept : ∀ state, state = node → Kept finding candidates start state :=
    fun _ same => same ▸ holds.1
  have ready : Ensures (· = node) (Effects.check node.connected
      (PyError.dhtError "UDP transport not ready")) (fun _ state => state = node ∧ fact)
      (fun _ => Kept finding candidates start) :=
    Ensures.check (fun connected _ same => ⟨same, holds.2 connected⟩) fun _ => kept
  apply ready.bind
  intro _
  apply Ensures.raiseBind _ fun _ _ state after => kept state after.1
  intro payload _
  have small : Ensures (fun state => state = node ∧ fact) (Effects.check
      (decide (payload.length ≤ MAX_DHT_RESPONSE_BYTES)) (PyError.dhtError
        "outbound DHT datagram exceeds 1024-byte protocol limit"))
      (fun _ state => state = node ∧ fact) (fun _ => Kept finding candidates start) :=
    Ensures.check (fun _ _ after => after) fun _ state after => kept state after.1
  apply small.bind
  intro _
  exact Ensures.set fun state after => ⟨holds.1, after.2⟩

/-- A query whose response holds no finding, if it can go out, leaves what making
the response left. -/
theorem respond_kept {env : Environment} {tid method : Bytes} {args : Message}
    {endpoint : Endpoint} {msg : Message} {met : DHTNode}
    (replies : Ensures (· = met) (reply env method args endpoint msg)
      (fun response node => Kept finding candidates start node ∧
        ∀ answer, response = some answer → met.connected = true → Barren method answer)
      (fun _ => Kept finding candidates start)) :
    Ensures (· = met) (respond env tid method args endpoint msg)
      (fun _ => Kept finding candidates start) (fun _ => Kept finding candidates start) := by
  have noting := kept_noting finding candidates start
  apply Ensures.bind (((reply_ensures env method args endpoint msg met).and replies).raises
    fun _ _ holds => holds.2)
  intro response
  cases response with
  | none =>
      have refuse : Preserves (Kept finding candidates start) (do
          Effects.when ([ascii "get", ascii "put"].contains method)
            (emit (.bep44Observation method endpoint))
          sendError env tid 204 "Method Unknown" endpoint (some method)) := by
        apply Preserves.bind (Preserves.when fun _ => noting.emit rfl)
        intro _
        exact sendError_preserves noting (fun message _ => kept_outgoing message endpoint) env tid
          204 "Method Unknown" (some method)
      exact refuse.ensures (fun _ holds => holds.2.1) (fun _ _ after => after)
        fun _ _ after => after
  | some response =>
      let ready := fun node => Kept finding candidates start node ∧
        (node.connected = true → Barren method response)
      have deliver : Ensures ready (do
          let payload ← Effects.raise
            (Bencode.encode (.dict ((base env tid "r").set "r" (.dict response))))
          Effects.check (decide (payload.length ≤ MAX_DHT_RESPONSE_BYTES))
            (.krpcError 202 "Response too large")
          send ((base env tid "r").set "r" (.dict response)) endpoint
          Effects.when (env.config.debugFullKrpcJsonl || [ascii "get_peers",
              ascii "announce_peer", ascii "sample_infohashes"].contains method)
            (emitResponseEvidence env ((base env tid "r").set "r" (.dict response)) endpoint
              method .outgoing))
          (fun _ => Kept finding candidates start) (fun _ => Kept finding candidates start) := by
        apply Ensures.raiseBind _ fun _ _ _ holds => holds.1
        intro payload _
        have small : Preserves ready (Effects.check
            (decide (payload.length ≤ MAX_DHT_RESPONSE_BYTES))
            (PyError.krpcError 202 "Response too large")) := Preserves.check _ _
        apply Ensures.bind (small.returns fun _ holds => holds.1)
        intro _
        apply Ensures.bind (send_kept _ endpoint)
        intro _ node holds
        have evidence : Preserves (Kept finding candidates start) (Effects.when
            (env.config.debugFullKrpcJsonl || [ascii "get_peers", ascii "announce_peer",
              ascii "sample_infohashes"].contains method)
            (emitResponseEvidence env ((base env tid "r").set "r" (.dict response)) endpoint
              method .outgoing)) := Preserves.when fun _ =>
          emitResponseEvidence_barren env (response_entry env tid response) holds.2 endpoint _
        exact evidence node holds.1
      intro node holds
      exact deliver node ⟨holds.2.1, fun connected =>
        holds.2.2 response rfl (holds.1.1.1.connected ▸ connected)⟩

theorem handleQuery_kept (env : Environment) (msg : Message) (endpoint : Endpoint)
    (holds : candidates start.candidates)
    (replies : ∀ method args remoteId, Asks msg method args remoteId →
      Kept (fun _ => False) (· = start.candidates) start
        (greeted env msg endpoint method remoteId start) →
      Ensures (· = greeted env msg endpoint method remoteId start)
        (reply env method args endpoint msg)
        (fun response node => Kept finding candidates start node ∧
          ∀ answer, response = some answer →
            (greeted env msg endpoint method remoteId start).connected = true →
            Barren method answer)
        (fun _ => Kept finding candidates start)) :
    Ensures (· = start) (handleQuery env msg endpoint)
      (fun _ => Kept finding candidates start) (fun _ => Kept finding candidates start) := by
  have noting := kept_noting finding candidates start
  have failed : ∀ code text associated, Preserves (Kept finding candidates start)
      (sendError env ((Value.asBytes (msg.get? "t")).getD []) code text endpoint associated) :=
    fun code text associated => sendError_preserves noting
      (fun message _ => kept_outgoing message endpoint) env _ code text associated
  have begin : ∀ node, node = start → Kept finding candidates start node := by
    intro node same
    rw [same]
    exact Kept.refl holds
  have refuse : ∀ code text, Ensures (· = start)
      (sendError env ((Value.asBytes (msg.get? "t")).getD []) code text endpoint none)
      (fun _ => Kept finding candidates start) (fun _ => Kept finding candidates start) :=
    fun code text => (failed code text none).ensures begin
      (fun _ _ after => after) fun _ _ after => after
  unfold handleQuery
  dsimp only
  split
  · rename_i method args isMethod isArgs
    split
    · exact refuse 203 "Invalid node ID"
    · rename_i remoteId isRemoteId
      have met := ((kept_roaming (fun _ => False) (· = start.candidates) start).greet env msg
        endpoint method remoteId).after (Kept.refl rfl)
      have greets : Ensures (· = start) (greet env msg endpoint method remoteId)
          (fun _ node => node = greeted env msg endpoint method remoteId start)
          (fun _ => Kept finding candidates start) :=
        (Ensures.leaves (greet env msg endpoint method remoteId) start).raises fun _ node same =>
          same ▸ met.mono (fun _ impossible => impossible.elim) fun same => same ▸ holds
      apply Ensures.bind greets
      intro _
      apply Ensures.tryCatch
        (respond_kept (replies method args remoteId ⟨isMethod, isArgs, isRemoteId⟩ met))
      intro fault
      split
      · exact failed _ _ _
      · split
        · exact failed _ _ _
        · exact Preserves.throw fault
  · exact refuse 203 "Protocol Error"

theorem barren_of {query : Bytes} {response : Message}
    (samples : query = ascii "sample_infohashes" → sampleKeys response = [])
    (values : responseValues response = []) : Barren query response := by
  intro record report
  cases record with
  | bep51Sample place key =>
      have member := report.2
      rw [samples report.1] at member
      exact List.not_mem_nil member
  | getPeersValue place peer =>
      rcases report with ⟨raw, member, _⟩
      rw [values] at member
      exact List.not_mem_nil member
  | _ => exact report

theorem barren_ofId (query nodeId : Bytes) : Barren query [(ascii "id", .bytes nodeId)] :=
  barren_of (fun _ => by simp [sampleKeys, Message.get?, Dict.get?, Value.asBytes, ascii])
    (by simp [responseValues, Message.get?, Dict.get?, Value.asList, ascii])

/-- Findings and candidates do not depend on the tokens and the peer store. -/
theorem onTokens_kept {α : Type} (program : EStateM PyError TokenManager α) :
    Preserves (Kept finding candidates start) (onTokens program) := by
  unfold onTokens
  apply Preserves.zoom
  intro _ _ kept
  exact kept

theorem onPeerStore_kept {α : Type} (program : EStateM PyError PeerStore α) :
    Preserves (Kept finding candidates start) (onPeerStore program) := by
  unfold onPeerStore
  apply Preserves.zoom
  intro _ _ kept
  exact kept

theorem tokenValid_kept (env : Environment) (ip : String) (token : Option Bytes) :
    Preserves (Kept finding candidates start) (tokenValid env ip token) := by
  have noting := kept_noting finding candidates start
  cases token with
  | none => exact Preserves.pure false
  | some token =>
      apply Preserves.bind (noting.monotonicNs env)
      intro due
      apply Preserves.bind (noting.monotonicNs env)
      intro now
      exact onTokens_kept _

/-- The candidates are what they were, or the key that was asked for was submitted. -/
def Observed (config : Config) (args : Message) (before after : CandidateManager) : Prop :=
  after = before ∨ ∃ key now wall origin hint, Value.asKey (args.get? "info_hash") = some key ∧
    after = (before.submit config now wall key origin hint false).2

theorem incomingAnnouncePeer_kept (env : Environment) (args : Message) (endpoint : Endpoint)
    (msg : Message) (before : CandidateManager)
    (announces : ∀ record : NodeRecord, record.isHarvest = false → finding record) :
    Ensures (Kept finding (· = before) start) (incomingAnnouncePeer env args endpoint msg)
      (fun response node => Kept finding (Observed env.config args before) start node ∧
        Barren (ascii "announce_peer") response)
      (fun _ => Kept finding (Observed env.config args before) start) := by
  have observed : ∀ node, Kept finding (· = before) start node →
      Kept finding (Observed env.config args before) start node :=
    fun node kept => ⟨kept.1, .inl kept.2⟩
  unfold incomingAnnouncePeer
  apply Ensures.raiseBind _ fun _ _ => observed
  intro key isKey
  apply Ensures.raiseBind _ fun _ _ => observed
  intro portArgument _
  apply Ensures.raiseBind _ fun _ _ => observed
  intro implied _
  generalize (if implied = true then endpoint.2 else portArgument) = effectivePort
  apply Ensures.bind ((tokenValid_kept env endpoint.1 _).raises fun _ => observed)
  intro valid
  apply Ensures.bind ((emit_kept _ fun _ => announces _ rfl).raises fun _ => observed)
  intro _
  apply Ensures.bind ((Preserves.check valid _).raises fun _ => observed)
  intro _
  apply Ensures.get
  intro seen kept
  have stored : Ensures (Kept finding (· = before) start)
      (storePeer env key (endpoint.1, effectivePort) implied)
      (fun _ => Kept finding (Observed env.config args before) start)
      (fun _ => Kept finding (Observed env.config args before) start) := by
    have noting := kept_noting finding (· = before) start
    apply Ensures.bind ((noting.monotonicNs env).raises fun _ => observed)
    intro now
    apply Ensures.bind ((noting.monotonicNs env).raises fun _ => observed)
    intro stamp
    apply Ensures.bind ((onPeerStore_kept _).raises fun _ => observed)
    intro _
    exact (submit_kept env key _ _ fun manager now wall same =>
      .inr ⟨key, now, wall, _, _, require20_ok isKey, by rw [same]⟩).raises fun _ _ impossible => impossible.elim
  have maybe : Ensures (· = seen) (Effects.when
      (endpointAllowed env.config seen.localIps endpoint.1 effectivePort)
      (storePeer env key (endpoint.1, effectivePort) implied))
      (fun _ => Kept finding (Observed env.config args before) start)
      (fun _ => Kept finding (Observed env.config args before) start) :=
    (Ensures.when (fun _ => stored) fun _ => observed).weaken (fun _ same => same ▸ kept)
      (fun _ _ after => after) fun _ _ after => after
  apply maybe.bind
  intro _
  exact Ensures.pure fun node after => ⟨after, barren_ofId _ _⟩

/-- The node holds samples to answer with: those of its last draw, or keys to draw from. -/
def HoldsSamples (env : Environment) (node : DHTNode) : Prop :=
  match node.sampleCache.filter fun cache => env.monotonicNs (node.ticks + 1) < cache.1 with
  | some cache => cache.2 ≠ []
  | none => (node.peerStore.keys env.config (env.monotonicNs node.ticks)).1 ≠ [] ∧
      1 ≤ env.config.bep51MaxSamplesPerResponse

/-- The node holds a peer for the key that it may answer with. -/
def HoldsPeers (env : Environment) (node : DHTNode) (key : Bytes) : Prop :=
  ∃ peer ∈ (node.peerStore.get env.config (env.monotonicNs (node.ticks + 3)) key).1,
    endpointAllowed env.config node.localIps peer.1 peer.2 = true

theorem fitValues_none {env : Environment} {localIps : List String} {response : Message}
    {peers : List Endpoint} {values found : List Value}
    (refused : ∀ peer ∈ peers, endpointAllowed env.config localIps peer.1 peer.2 = false)
    (fitted : fitValues env localIps response values peers = .ok found) : found = values := by
  induction peers with
  | nil => exact (Except.ok.inj fitted).symm
  | cons peer rest ih =>
      unfold fitValues at fitted
      rw [refused peer (by simp)] at fitted
      exact ih (fun other member => refused other (List.mem_cons_of_mem _ member)) fitted

/-- The node so many readings of the surroundings after another one, with the same peers. -/
structure Later (met : DHTNode) (draws : Nat) (node : DHTNode) : Prop where
  ticks : node.ticks = met.ticks + draws
  peerStore : node.peerStore = met.peerStore
  localIps : node.localIps = met.localIps

/-- One more reading, which is the one the clock shows then. -/
theorem monotonicNs_later (env : Environment) (met : DHTNode) (draws : Nat) :
    Ensures (fun node => Kept finding candidates start node ∧ Later met draws node)
      (monotonicNs env)
      (fun now node => (Kept finding candidates start node ∧ Later met (draws + 1) node) ∧
        now = env.monotonicNs (met.ticks + draws))
      (fun _ => Kept finding candidates start) := by
  intro node holds
  exact ⟨⟨holds.1, congrArg (· + 1) holds.2.ticks, holds.2.peerStore, holds.2.localIps⟩,
    congrArg env.monotonicNs holds.2.ticks⟩

theorem onTokens_later {α : Type} (met : DHTNode) (draws : Nat)
    (program : EStateM PyError TokenManager α) :
    Ensures (fun node => Kept finding candidates start node ∧ Later met draws node)
      (onTokens program)
      (fun _ node => Kept finding candidates start node ∧ Later met draws node)
      (fun _ => Kept finding candidates start) := by
  intro node holds
  unfold onTokens Effects.zoom
  split
  · rename_i outcome
    split at outcome <;> cases outcome
    exact ⟨holds.1, ⟨holds.2.ticks, holds.2.peerStore, holds.2.localIps⟩⟩
  · rename_i outcome
    split at outcome <;> cases outcome
    exact holds.1

theorem incomingGetPeers_kept (env : Environment) (args : Message) (endpoint : Endpoint)
    (met : DHTNode) (before : CandidateManager)
    (kept : Kept finding (· = before) start met)
    (observes : ∀ record : NodeRecord, record.isHarvest = false → finding record)
    {fact : Prop} (holdsNone : fact → ∀ key, Value.asKey (args.get? "info_hash") = some key →
      validateWant (args.get? "want") = .ok () → ¬ HoldsPeers env met key) :
    Ensures (· = met) (incomingGetPeers env args endpoint)
      (fun response node => Kept finding (Observed env.config args before) start node ∧
        (fact → Barren (ascii "get_peers") response))
      (fun _ => Kept finding (Observed env.config args before) start) := by
  have begin : ∀ node, node = met → Kept finding (Observed env.config args before) start node := by
    intro node same
    rw [same]
    exact ⟨kept.1, .inl kept.2⟩
  have quiet : ascii "get_peers" = ascii "sample_infohashes" → False := by decide
  unfold incomingGetPeers
  apply Ensures.raiseBind _ fun _ _ => begin
  intro key isKey
  apply Ensures.raiseBind _ fun _ _ => begin
  intro _ wanted
  have holdsNo := fun holds : fact => holdsNone holds key (require20_ok isKey) wanted
  have submitted : Ensures (· = met) (submit env key "get_peers" none)
      (fun _ node => Kept finding (Observed env.config args before) start node ∧ Later met 2 node)
      (fun _ => Kept finding (Observed env.config args before) start) := by
    intro node same
    rw [same]
    exact ⟨⟨kept.1, .inr ⟨key, _, _, _, _, require20_ok isKey, by rw [← kept.2]⟩⟩, rfl, rfl, rfl⟩
  apply submitted.bind
  intro _
  have noted : Ensures (fun node => Kept finding (Observed env.config args before) start node ∧
      Later met 2 node) (emit (.passiveGetPeers key))
      (fun _ node => Kept finding (Observed env.config args before) start node ∧ Later met 2 node)
      (fun _ => Kept finding (Observed env.config args before) start) :=
    Ensures.modify fun node holds => ⟨holds.1.record _ fun _ => observes _ rfl,
      holds.2.ticks, holds.2.peerStore, holds.2.localIps⟩
  apply noted.bind
  intro _
  apply Ensures.bind (monotonicNs_later env met 2)
  intro issuedNs
  apply Ensures.bind ((onTokens_later met 3 _).weaken (fun _ holds => holds.1)
    (fun _ _ holds => holds) fun _ _ holds => holds)
  intro token
  apply Ensures.get
  intro seen holds
  have localIps := holds.2.localIps
  apply Ensures.bind ((monotonicNs_later env met 3).weaken (fun _ same => same ▸ holds)
    (fun _ _ holds => holds) fun _ _ holds => holds)
  intro now
  have read : Ensures (fun node => (Kept finding (Observed env.config args before) start node ∧
        Later met 4 node) ∧ now = env.monotonicNs (met.ticks + 3))
      (onPeerStore (modifyGet fun peerStore => peerStore.get env.config now key))
      (fun peers node => Kept finding (Observed env.config args before) start node ∧
        peers = (met.peerStore.get env.config (env.monotonicNs (met.ticks + 3)) key).1)
      (fun _ => Kept finding (Observed env.config args before) start) := by
    intro node holds
    refine ⟨holds.1.1, ?_⟩
    rw [← holds.2, ← holds.1.2.peerStore]
    rfl
  apply read.bind
  intro peers
  apply Ensures.ite
  · intro _
    apply Ensures.bind ((closestGood_ensures
      (kept_noting finding (Observed env.config args before) start) env key).weaken
      (fun _ holds => holds.1) (fun _ _ holds => holds.1) fun _ _ holds => holds)
    intro contacts
    apply Ensures.raiseBind _ fun _ _ _ holds => holds
    intro nodes _
    apply Ensures.pure
    intro node holds
    refine ⟨holds, fun _ => barren_of (fun same => (quiet same).elim) ?_⟩
    unfold responseValues
    rw [Message.get?_set_ne (by decide)]
    rfl
  · intro _
    apply Ensures.raiseBind _ fun _ _ _ holds => holds.1
    intro values fitted
    apply Ensures.pure
    intro node holds
    refine ⟨holds.1, fun isFact => barren_of (fun same => (quiet same).elim) ?_⟩
    have refused : ∀ peer ∈ peers,
        endpointAllowed env.config seen.localIps peer.1 peer.2 = false := by
      intro peer member
      rw [localIps]
      by_contra allowed
      exact holdsNo isFact ⟨peer, holds.2 ▸ member, by simpa using allowed⟩
    unfold responseValues
    rw [Message.get?_set_self, fitValues_none refused fitted]
    rfl

/-- Without keys, or where none may be sent, no samples are drawn. -/
theorem chooseSamples_none {env : Environment} {tick : Nat} {keys samples : List Bytes}
    (nothing : ¬ (keys ≠ [] ∧ 1 ≤ env.config.bep51MaxSamplesPerResponse))
    (chosen : chooseSamples env tick keys = .ok samples) : samples = [] := by
  unfold chooseSamples at chosen
  have count : min env.config.bep51MaxSamplesPerResponse keys.length ≤ 0 := by
    by_cases some : keys = []
    · rw [some]
      exact min_le_right _ _
    · have few := not_and.mp nothing some
      omega
  dsimp only at chosen
  split at chosen
  · cases chosen
  · rename_i nonneg
    have zero : min env.config.bep51MaxSamplesPerResponse (keys.length : Int) = 0 := by omega
    rw [zero] at chosen
    exact (Except.ok.inj chosen).symm

theorem currentSamples_none (env : Environment) (met : DHTNode) (keys : List Bytes)
    (isKeys : keys = (met.peerStore.keys env.config (env.monotonicNs met.ticks)).1)
    {fact : Prop} (holdsNone : fact → ¬ HoldsSamples env met) :
    Ensures (fun node => Kept finding candidates start node ∧ node.ticks = met.ticks + 1 ∧
        node.sampleCache = met.sampleCache)
      (currentSamples env keys)
      (fun samples node => Kept finding candidates start node ∧ (fact → samples = []))
      (fun _ => Kept finding candidates start) := by
  unfold HoldsSamples at holdsNone
  have read : Ensures (fun node => Kept finding candidates start node ∧
        node.ticks = met.ticks + 1 ∧ node.sampleCache = met.sampleCache) (monotonicNs env)
      (fun now node => (Kept finding candidates start node ∧ node.sampleCache = met.sampleCache) ∧
        now = env.monotonicNs (met.ticks + 1))
      (fun _ => Kept finding candidates start) := by
    intro node holds
    exact ⟨⟨holds.1, holds.2.2⟩, congrArg env.monotonicNs holds.2.1⟩
  apply read.bind
  intro now
  apply Ensures.get
  intro node holds
  rcases holds with ⟨⟨kept, sameCache⟩, isNow⟩
  rw [isNow, sameCache]
  split
  · rename_i cache valid
    rw [valid] at holdsNone
    apply Ensures.pure
    intro state same
    rw [same]
    exact ⟨kept, fun isFact => not_not.mp (holdsNone isFact)⟩
  · rename_i stale
    rw [stale] at holdsNone
    apply Ensures.raiseBind
    · intro sampled chosen
      apply Ensures.setBind
      intro _
      apply Ensures.pure
      intro state same
      rw [same]
      exact ⟨kept, fun isFact => chooseSamples_none (isKeys ▸ holdsNone isFact) chosen⟩
    · intro fault _ state same
      rw [same]
      exact kept

theorem incomingSampleInfohashes_kept (env : Environment) (args : Message) (met : DHTNode)
    (kept : Kept finding candidates start met) {fact : Prop}
    (holdsNone : fact → (Value.asKey (args.get? "target")).isSome → ¬ HoldsSamples env met) :
    Ensures (· = met) (incomingSampleInfohashes env args)
      (fun response node => Kept finding candidates start node ∧
        (fact → Barren (ascii "sample_infohashes") response))
      (fun _ => Kept finding candidates start) := by
  unfold incomingSampleInfohashes
  apply Ensures.raiseBind
  · intro target isTarget
    have named : (Value.asKey (args.get? "target")).isSome := by
      rw [require20_ok isTarget]
      rfl
    have listing : Ensures (· = met) (monotonicNs env)
        (fun listed node => node = { met with ticks := met.ticks + 1 } ∧
          listed = env.monotonicNs met.ticks)
        (fun _ => Kept finding candidates start) := by
      intro node same
      rw [same]
      exact ⟨rfl, rfl⟩
    apply listing.bind
    intro listed
    have reading : Ensures (fun node => node = { met with ticks := met.ticks + 1 } ∧
          listed = env.monotonicNs met.ticks)
        (onPeerStore (modifyGet fun peerStore => peerStore.keys env.config listed))
        (fun keys node => (Kept finding candidates start node ∧ node.ticks = met.ticks + 1 ∧
            node.sampleCache = met.sampleCache) ∧
          keys = (met.peerStore.keys env.config (env.monotonicNs met.ticks)).1)
        (fun _ => Kept finding candidates start) := by
      intro node holds
      rw [holds.1, holds.2]
      exact ⟨⟨kept, rfl, rfl⟩, rfl⟩
    apply reading.bind
    intro keys
    have drawing : Ensures (fun node => (Kept finding candidates start node ∧
          node.ticks = met.ticks + 1 ∧ node.sampleCache = met.sampleCache) ∧
          keys = (met.peerStore.keys env.config (env.monotonicNs met.ticks)).1)
        (currentSamples env keys)
        (fun samples node => Kept finding candidates start node ∧ (fact → samples = []))
        (fun _ => Kept finding candidates start) :=
      fun node holds => currentSamples_none env met keys holds.2
        (fun isFact => holdsNone isFact named) node holds.1
    apply drawing.bind
    intro samples
    apply Ensures.get
    intro seen holds
    have begin : ∀ node, node = seen → Kept finding candidates start node :=
      fun _ same => same ▸ holds.1
    apply Ensures.bind ((closestGood_ensures (kept_noting finding candidates start) env
      target).weaken begin (fun _ _ after => after.1) fun _ _ after => after)
    intro contacts
    apply Ensures.raiseBind _ fun _ _ _ after => after
    intro nodes _
    apply Ensures.raise _ fun _ _ _ after => after
    intro response trimmed node after
    refine ⟨after, fun isFact => barren_of (fun _ => ?_) ?_⟩
    · rw [holds.2 isFact] at trimmed
      rcases bind_ok_iff.mp trimmed with ⟨size, _, chosen⟩
      simp only [ne_eq, not_true_eq_false, and_false, if_false] at chosen
      rw [← pure_ok_iff.mp chosen]
      unfold sampleKeys
      rw [Message.get?_set_ne (by decide)]
      rfl
    · unfold responseValues
      rw [trimSamples_ok trimmed "values" (by decide), Message.get?_set_ne (by decide)]
      rfl
  · intro fault _ node same
    rw [same]
    exact kept

/-- What the evidence of an answer would report: the samples or the peers that
the node holds itself. -/
def Holds (env : Environment) (method : Bytes) (args : Message) (node : DHTNode) : Prop :=
  (method = ascii "sample_infohashes" ∧ env.config.dhtBep51Enabled = true ∧
      (Value.asKey (args.get? "target")).isSome ∧ HoldsSamples env node) ∨
    (method = ascii "get_peers" ∧ validateWant (args.get? "want") = .ok () ∧
      ∃ key, Value.asKey (args.get? "info_hash") = some key ∧ HoldsPeers env node key)

/-- The response to a query that is neither a request for peers nor an announcement. -/
theorem reply_unobserved (env : Environment) (method : Bytes) (args : Message)
    (endpoint : Endpoint) (msg : Message) (met : DHTNode)
    (kept : Kept finding candidates start met) (noGet : method ≠ ascii "get_peers")
    (noAnnounce : method ≠ ascii "announce_peer")
    (holdsNone : met.connected = true → ¬ Holds env method args met) :
    Ensures (· = met) (reply env method args endpoint msg)
      (fun response node => Kept finding candidates start node ∧
        ∀ answer, response = some answer → met.connected = true → Barren method answer)
      (fun _ => Kept finding candidates start) := by
  have begin : ∀ node, node = met → Kept finding candidates start node :=
    fun _ same => same ▸ kept
  unfold reply
  apply Ensures.get
  intro seen same
  rw [same]
  apply Ensures.ite
  · intro _
    apply Ensures.pure
    intro node same
    refine ⟨begin node same, fun answer isAnswer _ => ?_⟩
    cases isAnswer
    exact barren_ofId _ _
  intro _
  apply Ensures.ite
  · intro isFindNode
    apply Ensures.raiseBind _ fun _ _ => begin
    intro target _
    apply Ensures.bind ((compactClosest_ensures (kept_noting finding candidates start) env
      target).weaken begin (fun _ _ after => after.1) fun _ _ after => after)
    intro nodes
    apply Ensures.pure
    intro node after
    refine ⟨after, fun answer isAnswer _ => ?_⟩
    cases isAnswer
    rw [isFindNode]
    apply barren_of
    · exact fun same => absurd same (by decide)
    · simp [responseValues, Message.get?, Dict.get?, Value.asList, ascii]
  intro _
  rw [if_neg noGet, if_neg noAnnounce]
  apply Ensures.ite
  · intro sampling
    have holdsNo : met.connected = true → (Value.asKey (args.get? "target")).isSome →
        ¬ HoldsSamples env met :=
      fun connected named holds =>
        holdsNone connected (.inl ⟨sampling.1, sampling.2, named, holds⟩)
    apply Ensures.bind (incomingSampleInfohashes_kept env args met kept holdsNo)
    intro response
    apply Ensures.pure
    intro node after
    refine ⟨after.1, fun answer isAnswer connected => ?_⟩
    cases isAnswer
    rw [sampling.1]
    exact after.2 connected
  · intro _
    apply Ensures.pure
    intro node same
    exact ⟨begin node same, fun answer isAnswer => by cases isAnswer⟩

/-- The response to a request for peers or to an announcement. -/
theorem reply_observed (env : Environment) (method : Bytes) (args : Message)
    (endpoint : Endpoint) (msg : Message) (met : DHTNode) (before : CandidateManager)
    (kept : Kept finding (· = before) start met)
    (observing : method = ascii "get_peers" ∨ method = ascii "announce_peer")
    (observes : ∀ record : NodeRecord, record.isHarvest = false → finding record)
    (holdsNone : met.connected = true → ¬ Holds env method args met) :
    Ensures (· = met) (reply env method args endpoint msg)
      (fun response node => Kept finding (Observed env.config args before) start node ∧
        ∀ answer, response = some answer → met.connected = true → Barren method answer)
      (fun _ => Kept finding (Observed env.config args before) start) := by
  have noPing : method ≠ ascii "ping" := by
    rcases observing with same | same <;> rw [same] <;> decide
  have noFindNode : method ≠ ascii "find_node" := by
    rcases observing with same | same <;> rw [same] <;> decide
  unfold reply
  apply Ensures.get
  intro seen same
  rw [same, if_neg noPing, if_neg noFindNode]
  apply Ensures.ite
  · intro isGetPeers
    have holdsNo : met.connected = true → ∀ key, Value.asKey (args.get? "info_hash") = some key →
        validateWant (args.get? "want") = .ok () → ¬ HoldsPeers env met key :=
      fun connected key named wanted holds =>
        holdsNone connected (.inr ⟨isGetPeers, wanted, key, named, holds⟩)
    apply Ensures.bind (incomingGetPeers_kept env args endpoint met before kept observes holdsNo)
    intro response
    apply Ensures.pure
    intro node after
    refine ⟨after.1, fun answer isAnswer connected => ?_⟩
    cases isAnswer
    rw [isGetPeers]
    exact after.2 connected
  · intro noGetPeers
    rw [if_pos (observing.resolve_left noGetPeers)]
    apply Ensures.bind ((incomingAnnouncePeer_kept env args endpoint msg before observes).weaken
      (fun node same => same ▸ kept) (fun _ _ after => after) fun _ _ after => after)
    intro response
    apply Ensures.pure
    intro node after
    refine ⟨after.1, fun answer isAnswer _ => ?_⟩
    cases isAnswer
    rw [observing.resolve_left noGetPeers]
    exact after.2

end queries

/-- A query that a node answers without taking anything up from it. -/
def Probe (msg : Message) : Prop :=
  Value.asBytes (msg.get? "y") = some (ascii "q") ∧
    (Value.asBytes (msg.get? "q") = some (ascii "ping") ∨
      Value.asBytes (msg.get? "q") = some (ascii "find_node") ∨
      Value.asBytes (msg.get? "q") = some (ascii "sample_infohashes"))

/-- A query from which a node takes up the key that it names. -/
def Observes (msg args : Message) : Prop :=
  Value.asBytes (msg.get? "y") = some (ascii "q") ∧
    (Value.asBytes (msg.get? "q") = some (ascii "get_peers") ∨
      Value.asBytes (msg.get? "q") = some (ascii "announce_peer")) ∧
    Value.asDict (msg.get? "a") = some args

/-- What a datagram may make a node record and submit: a probe adds neither a
finding nor a candidate, and samples and values come from a response that was
accepted for one of the node's own queries. -/
structure Discreet (env : Environment) (data : Bytes) (source : Endpoint) (start node : DHTNode)
    (said : List NodeRecord) : Prop where
  emitted : node.emitted = start.emitted ++ said
  probes : ∀ msg, receive env.config data = .ok msg → Probe msg →
    node.candidates = start.candidates ∧ ∀ record ∈ said, record.isFinding = false
  reports : ∀ record ∈ said, record.isHarvest = true → ∃ msg pending response remoteId,
    receive env.config data = .ok msg ∧
      Accepted start msg source pending response remoteId ∧ Reports pending.query response record
  submits : node.candidates = start.candidates ∨ ∃ msg, receive env.config data = .ok msg ∧
    ((∃ args, Observes msg args ∧ Observed env.config args start.candidates node.candidates) ∨
      ∃ pending response remoteId, Accepted start msg source pending response remoteId ∧
        pending.query = ascii "sample_infohashes" ∧
        Submitted env.config (sampleKeys response) start.candidates node.candidates)

/-- The datagram is a query, and its answer holds samples or peers of the node's own. -/
def Discloses (env : Environment) (data : Bytes) (source : Endpoint) (node : DHTNode) : Prop :=
  (data.length : Int) ≤ env.config.dhtReceiveMaxBytes ∧ env.config.dhtReadOnly = false ∧
    node.connected = true ∧ ∃ msg method args remoteId,
      receive env.config data = .ok msg ∧ Value.asBytes (msg.get? "y") = some (ascii "q") ∧
        Asks msg method args remoteId ∧
        Holds env method args (greeted env msg source method remoteId node)

section discreet

variable {env : Environment} {data : Bytes} {source : Endpoint} {start node : DHTNode}

theorem isFinding_of_isHarvest {record : NodeRecord} (harvest : record.isHarvest = true) :
    record.isFinding = true := by
  cases record <;> first | rfl | cases harvest

/-- A node that has recorded no finding and submitted nothing. -/
theorem Discreet.ofKept (kept : Kept (fun _ => False) (· = start.candidates) start node) :
    ∃ said, Discreet env data source start node said := by
  rcases kept with ⟨⟨said, emitted, plain⟩, same⟩
  have plainly : ∀ record ∈ said, record.isFinding = false := by
    intro record member
    by_contra finding
    exact plain record member (by simpa using finding)
  refine ⟨said, emitted, fun _ _ _ => ⟨same, plainly⟩, fun record member harvest => ?_, .inl same⟩
  exact (plain record member (isFinding_of_isHarvest harvest)).elim

theorem discreet_noting : Noting fun node => ∃ said, Discreet env data source start node said where
  ticks node discreet := by
    rcases discreet with ⟨said, holds⟩
    exact ⟨said, holds.emitted, holds.probes, holds.reports, holds.submits⟩
  note node record plain discreet := by
    rcases discreet with ⟨said, holds⟩
    have one : ∀ other ∈ said ++ [record], other ∈ said ∨ other = record := by simp
    refine ⟨said ++ [record], by simp [holds.emitted], ?_, ?_, holds.submits⟩
    · intro msg received probe
      refine ⟨(holds.probes msg received probe).1, fun other member => ?_⟩
      rcases one other member with old | new
      · exact (holds.probes msg received probe).2 other old
      · exact new ▸ plain
    · intro other member harvest
      rcases one other member with old | new
      · exact holds.reports other old harvest
      · rw [new] at harvest
        rw [isFinding_of_isHarvest harvest] at plain
        cases plain

/-- What follows from what a query that is taken up adds. -/
theorem Discreet.ofObserved {msg args : Message} (received : receive env.config data = .ok msg)
    (observes : Observes msg args)
    (kept : Kept (fun record => record.isHarvest = false)
      (Observed env.config args start.candidates) start node) :
    ∃ said, Discreet env data source start node said := by
  rcases kept with ⟨⟨said, emitted, plain⟩, observed⟩
  have noProbe : ∀ other, receive env.config data = .ok other → ¬ Probe other := by
    intro other isOther probe
    rw [received] at isOther
    rw [← Except.ok.inj isOther] at probe
    rcases probe with ⟨_, ping | findNode | sampling⟩
    · rcases observes.2.1 with same | same <;> exact absurd (same.symm.trans ping) (by decide)
    · rcases observes.2.1 with same | same <;> exact absurd (same.symm.trans findNode) (by decide)
    · rcases observes.2.1 with same | same <;> exact absurd (same.symm.trans sampling) (by decide)
  refine ⟨said, emitted, fun other isOther probe => absurd probe (noProbe other isOther),
    fun record member harvest => ?_, .inr ⟨msg, received, .inl ⟨args, observes, observed⟩⟩⟩
  have none : record.isHarvest = false := plain record member (isFinding_of_isHarvest harvest)
  rw [harvest] at none
  cases none

theorem handleQuery_discreet {msg : Message} (received : receive env.config data = .ok msg)
    (isQuery : Value.asBytes (msg.get? "y") = some (ascii "q"))
    (holdsNone : start.connected = true → ∀ method args remoteId, Asks msg method args remoteId →
      ¬ Holds env method args (greeted env msg source method remoteId start)) :
    Ensures (· = start) (handleQuery env msg source)
      (fun _ node => ∃ said, Discreet env data source start node said)
      (fun _ node => ∃ said, Discreet env data source start node said) := by
  have connected : ∀ method remoteId,
      (greeted env msg source method remoteId start).connected = start.connected := by
    intro method remoteId
    rw [(greeted_greeted env msg source method remoteId start).same]
  by_cases observing : ∃ args, Observes msg args
  · rcases observing with ⟨args, observes⟩
    have handled : Ensures (· = start) (handleQuery env msg source)
        (fun _ => Kept (fun record => record.isHarvest = false)
          (Observed env.config args start.candidates) start)
        (fun _ => Kept (fun record => record.isHarvest = false)
          (Observed env.config args start.candidates) start) := by
      apply handleQuery_kept env msg source (.inl rfl)
      intro method others remoteId asks kept
      have sameArgs : others = args := Option.some.inj (asks.arguments.symm.trans observes.2.2)
      rw [sameArgs] at asks ⊢
      have observing : method = ascii "get_peers" ∨ method = ascii "announce_peer" :=
        observes.2.1.imp (fun same => Option.some.inj (asks.query.symm.trans same))
          fun same => Option.some.inj (asks.query.symm.trans same)
      exact reply_observed env method args source msg _ start.candidates
        (kept.mono (fun _ impossible => impossible.elim) fun same => same) observing
        (fun _ plain => plain) fun isConnected =>
          holdsNone ((connected method remoteId).symm.trans isConnected) method args remoteId asks
    exact handled.weaken (fun _ same => same)
      (fun _ _ kept => Discreet.ofObserved received observes kept)
      fun _ _ kept => Discreet.ofObserved received observes kept
  · have handled : Ensures (· = start) (handleQuery env msg source)
        (fun _ => Kept (fun _ => False) (· = start.candidates) start)
        (fun _ => Kept (fun _ => False) (· = start.candidates) start) := by
      apply handleQuery_kept
      · rfl
      intro method args remoteId asks kept
      have noGet : method ≠ ascii "get_peers" := fun same =>
        observing ⟨args, isQuery, .inl (same ▸ asks.query), asks.arguments⟩
      have noAnnounce : method ≠ ascii "announce_peer" := fun same =>
        observing ⟨args, isQuery, .inr (same ▸ asks.query), asks.arguments⟩
      exact reply_unobserved env method args source msg _ kept noGet noAnnounce fun isConnected =>
        holdsNone ((connected method remoteId).symm.trans isConnected) method args remoteId asks
    exact handled.weaken (fun _ same => same) (fun _ _ kept => Discreet.ofKept kept)
      fun _ _ kept => Discreet.ofKept kept

theorem handleResponseOrError_discreet {msg : Message}
    (received : receive env.config data = .ok msg)
    (kind : Value.asBytes (msg.get? "y") = some (ascii "r") ∨
      Value.asBytes (msg.get? "y") = some (ascii "e")) :
    Ensures (· = start) (handleResponseOrError env msg source)
      (fun _ node => ∃ said, Discreet env data source start node said)
      (fun _ node => ∃ said, Discreet env data source start node said) := by
  have begin : ∀ node, node = start → Kept (fun _ => False) (· = start.candidates) start node :=
    fun _ same => same ▸ Kept.refl rfl
  have noProbe : ∀ other, receive env.config data = .ok other → ¬ Probe other := by
    intro other isOther probe
    rw [received] at isOther
    rw [← Except.ok.inj isOther] at probe
    rcases kind with same | same <;> exact absurd (same.symm.trans probe.1) (by decide)
  apply handleResponseOrError_ensures discreet_noting env msg source start kind
    (Discreet.ofKept (begin start rfl))
  · intro pending error _ _ _
    exact ((kept_unbooked (fun _ => False) (· = start.candidates) start).settle _ _
      pending).ensures begin (fun _ _ kept => Discreet.ofKept kept)
      fun _ _ kept => Discreet.ofKept kept
  · intro pending response remoteId accepted
    have taken := (kept_roaming (fun _ => False) (· = start.candidates) start).acceptResponse env
      msg source (transaction msg) pending response remoteId
      (fun node kept => (kept.mono (fun _ impossible => impossible.elim) .inl :
        Harvest env.config pending.query response start node))
      (emitResponseEvidence_harvest env accepted.content source pending.query .incoming)
      ((kept_unbooked _ _ start).settle _ _ pending)
    have harvested : ∀ node, Harvest env.config pending.query response start node →
        ∃ said, Discreet env data source start node said := by
      intro node harvest
      rcases harvest with ⟨⟨said, emitted, reports⟩, submits⟩
      refine ⟨said, emitted, fun other isOther probe => absurd probe (noProbe other isOther),
        fun record member isHarvest => ⟨msg, pending, response, remoteId, received, accepted,
          reports record member (isFinding_of_isHarvest isHarvest)⟩, ?_⟩
      exact submits.imp_right fun submitted => ⟨msg, received,
        .inr ⟨pending, response, remoteId, accepted, submitted⟩⟩
    exact taken.weaken begin (fun _ => harvested) fun _ => harvested

/-- A datagram whose answer holds nothing of the node's own is handled discreetly. -/
theorem datagramReceived_discreet (quiet : ¬ Discloses env data source start) :
    ∃ said, Discreet env data source start
      (Effects.after (datagramReceived env data source) start) said := by
  have begin : ∃ said, Discreet env data source start start said :=
    Discreet.ofKept (Kept.refl rfl)
  have handled : Ensures (· = start) (datagramReceived env data source)
      (fun _ node => ∃ said, Discreet env data source start node said)
      (fun _ node => ∃ said, Discreet env data source start node said) := by
    apply datagramReceived_rule discreet_noting env data source start begin
    · intro msg small received isQuery readWrite
      apply handleQuery_discreet received isQuery
      intro connected method args remoteId asks holds
      exact quiet ⟨small, readWrite, connected, msg, method, args, remoteId, received, isQuery,
        asks, holds⟩
    · intro msg _ received kind
      exact handleResponseOrError_discreet received kind
  exact handled.after rfl

end discreet

end DHTNode

namespace NodeSystem

variable {env : Environment} {start system next : NodeSystem}

/-- What an event may make the node record and submit. -/
def Discreet (env : Environment) (event : NodeEvent) (before after : DHTNode) : Prop :=
  match event with
  | .datagram data source => ∃ said, DHTNode.Discreet env data source before after said
  | _ => after.candidates = before.candidates ∧ ∃ said, after.emitted = before.emitted ++ said ∧
      ∀ record ∈ said, record.isFinding = false

/-- The event is not a query whose answer holds samples or peers of the node's own. -/
def Reticent (env : Environment) (system : NodeSystem) (event : NodeEvent) : Prop :=
  ∀ data source, event = .datagram data source → ¬ DHTNode.Discloses env data source system.node

theorem step_discreet {event : NodeEvent} (reticent : Reticent env system event)
    (taken : step env system event = some next) : Discreet env event system.node next.node := by
  by_cases isDatagram : ∃ data source, event = .datagram data source
  · rcases isDatagram with ⟨data, source, same⟩
    rw [same] at taken ⊢
    cases taken
    exact DHTNode.datagramReceived_discreet (reticent data source same)
  · have enduring := (DHTNode.kept_roaming (fun _ => False) (· = system.node.candidates)
      system.node).enduring (DHTNode.kept_unbooked _ _ system.node) env
      fun message endpoint _ => DHTNode.kept_outgoing message endpoint
    have kept := node_of_event enduring
      (fun data source same => absurd ⟨data, source, same⟩ isDatagram) (DHTNode.Kept.refl rfl) taken
    rcases kept with ⟨⟨said, emitted, plain⟩, same⟩
    have plainly : ∀ record ∈ said, record.isFinding = false := by
      intro record member
      by_contra finding
      exact plain record member (by simpa using finding)
    cases event with
    | datagram data source => exact absurd ⟨data, source, rfl⟩ isDatagram
    | _ => exact ⟨same, said, emitted, plainly⟩

/-- A query for samples. -/
def sampling : Bytes :=
  ascii ("d1:ad2:id20:qrstuvwxyzabcdefghij6:target20:klmnopqrstuvwxyzabcde" ++
    "1:q17:sample_infohashes1:t2:aa1:y1:qe")

/-- An announcement with the token that the node of the quiet world would issue. -/
def announced : List NodeEvent :=
  [.connect,
    .datagram (ascii ("d1:ad2:id20:qrstuvwxyzabcdefghij9:info_hash20:ABCDEFGHIJKLMNOPQRST" ++
      "4:porti6881e5:token5:\x09\x09\x09\x09\x00e1:q13:announce_peer1:t2:aa1:y1:qe"))
      ("9.9.9.9", 6881)]

/-- After an announcement the node records the samples of its own answer as a discovery. -/
theorem samples_disclosed : ∃ start system, quietNode = .ok start ∧
    Transition.run (step quietWorld) start announced = some system ∧
    ¬ Discreet quietWorld (.datagram sampling ("9.9.9.9", 6881)) system.node
      (Effects.after (DHTNode.datagramReceived quietWorld sampling ("9.9.9.9", 6881))
        system.node) := by
  have probing : (DHTNode.receive quietWorld.config sampling).toOption.map (fun msg =>
      (Value.asBytes (msg.get? "y"), Value.asBytes (msg.get? "q"))) =
      some (some (ascii "q"), some (ascii "sample_infohashes")) := by decide +kernel
  rcases quiet_check (show (quietNode.toOption.bind fun start =>
      (Transition.run (step quietWorld) start announced).map fun system =>
        ((Effects.after (DHTNode.datagramReceived quietWorld sampling ("9.9.9.9", 6881))
          system.node).emitted.drop system.node.emitted.length).any NodeRecord.isFinding) =
        some true by decide +kernel) with ⟨start, system, made, ran, found⟩
  refine ⟨start, system, made, ran, fun discreet => ?_⟩
  rcases discreet with ⟨said, discreet⟩
  rcases Option.map_eq_some_iff.mp probing with ⟨msg, received, kind⟩
  have received : DHTNode.receive quietWorld.config sampling = .ok msg := by
    cases outcome : DHTNode.receive quietWorld.config sampling with
    | error fault => simp [outcome, Except.toOption] at received
    | ok other => simpa [outcome, Except.toOption] using received
  have plain := (discreet.probes msg received
    ⟨congrArg Prod.fst kind, .inr (.inr (congrArg Prod.snd kind))⟩).2
  rw [discreet.emitted, List.drop_left] at found
  rcases List.any_eq_true.mp found with ⟨record, member, isFinding⟩
  rw [plain record member] at isFinding
  cases isFinding

/-- In every run in which no answer holds samples or peers of the node's own,
every event is handled discreetly. -/
theorem run_discreet (env : Environment) (start : NodeSystem) (events : List NodeEvent)
    (reticent : Transition.Along (Reticent env) (step env) start events)
    (earlier : List NodeEvent) (event : NodeEvent) (rest : List NodeEvent)
    (split : events = earlier ++ event :: rest) (system : NodeSystem)
    (ran : Transition.run (step env) start earlier = some system) (next : NodeSystem)
    (taken : step env system event = some next) : Discreet env event system.node next.node := by
  rw [split] at reticent
  exact step_discreet (reticent.at ran) taken

/-- A query that is answered with no more than the ID of the node. -/
def pinging : Bytes := ascii "d1:ad2:id20:qrstuvwxyzabcdefghije1:q4:ping1:t2:aa1:y1:qe"

theorem pinging_reticent (env : Environment) (config : env.config = {}) (system : NodeSystem)
    (source : Endpoint) : Reticent env system (.datagram pinging source) := by
  intro data origin same discloses
  cases same
  rcases discloses with ⟨_, _, _, msg, method, args, remoteId, received, _, asks, holds⟩
  have query : (DHTNode.receive {} pinging).toOption.map (fun msg => Value.asBytes (msg.get? "q")) =
      some (some (ascii "ping")) := by decide +kernel
  rw [config] at received
  rw [received] at query
  have isPing : method = ascii "ping" :=
    Option.some.inj (asks.query.symm.trans (Option.some.inj query))
  rcases holds with ⟨same, _⟩ | ⟨same, _⟩ <;> exact absurd (isPing.symm.trans same) (by decide)

theorem run_discreet_sample : ∃ start system next, quietNode = .ok start ∧
    step quietWorld start .connect = some system ∧
    step quietWorld system (.datagram pinging ("9.9.9.9", 6881)) = some next ∧
    Discreet quietWorld (.datagram pinging ("9.9.9.9", 6881)) system.node next.node := by
  rcases quiet_check (show (quietNode.toOption.bind fun start =>
      (Transition.run (step quietWorld) start []).map fun _ => true) = some true
      by decide +kernel) with ⟨start, _, made, _, _⟩
  have reticent : Transition.Along (Reticent quietWorld) (step quietWorld) start
      [.connect, .datagram pinging ("9.9.9.9", 6881)] := by
    constructor
    · intro _ _ same
      cases same
    · intro next _
      exact ⟨pinging_reticent quietWorld rfl next _, fun _ _ => trivial⟩
  exact ⟨start, _, _, made, rfl, rfl, run_discreet quietWorld start _ reticent [.connect] _ [] rfl
    _ rfl _ rfl⟩

end NodeSystem

end PyDht
