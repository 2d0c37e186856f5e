import PyDht.ResponseOffers
import PyDht.QueryRuns

set_option autoImplicit false

namespace PyDht

open Effects (Ensures Preserves Total)

namespace DHTNode

/-- One datagram with such a message went to the endpoint, and it is short enough. -/
def Delivers (start : DHTNode) (endpoint : Endpoint) (message : Message → Prop)
    (node : DHTNode) : Prop :=
  ∃ datagram, node.sent = start.sent ++ [datagram] ∧ datagram.endpoint = endpoint ∧
    datagram.payload.length ≤ MAX_DHT_RESPONSE_BYTES ∧ message datagram.message

/-- The message is a response. -/
def IsResponse (message : Message) : Prop := Value.asBytes (message.get? "y") = some (ascii "r")

/-- The code and the text of an error. -/
def errorOf (message : Message) : Option (Int × Bytes) :=
  match message.get? "e" with
  | some (.list [.int code, .bytes text]) => some (code, text)
  | _ => none

/-- The message is the error that says that the response would be too large. -/
def IsTooLarge (message : Message) : Prop :=
  Value.asBytes (message.get? "y") = some (ascii "e") ∧
    errorOf message = some (202, ascii "Response too large")

theorem Delivers.quiet (start : DHTNode) (endpoint : Endpoint) (message : Message → Prop) :
    Quiet (Delivers start endpoint message) where
  ticks _ delivers := delivers
  emitted _ _ delivers := delivers
  candidates _ _ delivers := delivers

section room

variable {env : Environment} {start met : DHTNode} {endpoint : Endpoint} {tid : Bytes}

/-- A message that is short enough goes out. -/
theorem send_delivers (connected : start.connected = true) {message : Message} {payload : Bytes}
    (encoded : Bencode.encode (.dict message) = .ok payload)
    (fits : payload.length ≤ MAX_DHT_RESPONSE_BYTES) (endpoint : Endpoint) :
    Ensures (Silent start) (send message endpoint)
      (fun _ => Delivers start endpoint (· = message)) (fun _ _ => False) := by
  apply Ensures.get
  intro node silent
  have ready : node.connected = true := silent.2.trans connected
  rw [ready, encoded]
  have small : Ensures (· = node) (Effects.check
      (decide (payload.length ≤ MAX_DHT_RESPONSE_BYTES)) (PyError.dhtError
        "outbound DHT datagram exceeds 1024-byte protocol limit"))
      (fun _ => (· = node)) (fun _ _ => False) :=
    Ensures.check (fun _ _ same => same) fun long => absurd fits (of_decide_eq_false long)
  apply small.bind
  intro _
  apply Ensures.set
  intro _ _
  exact ⟨_, by rw [silent.1], rfl, fits, rfl⟩

/-- The length of the error message. -/
theorem tooLarge_length (limits : env.config.DefaultLimits) (tid : Bytes) :
    (Value.write (.dict (errorMessage env tid 202 "Response too large"))).length =
      51 + textLength tid.length := by
  have version := version_length limits
  have limit : env.config.maxEvidenceTextLength.toNat = 4096 := by
    rw [limits]
    rfl
  have fixed : textLength 1 = 3 ∧ textLength 4 = 6 ∧ (Value.write (.list [.int 202,
      .bytes ((encodeUtf8 "Response too large").take 4096)])).length = 28 := by decide +kernel
  have single : ∀ name : String, name.toList.length = 1 → (ascii name).length = 1 := by
    intro name length
    rw [ascii, List.length_map, length]
  rw [errorMessage, error_message, Value.length_write_dict, Value.length_writeEntries_eq, limit]
  simp only [base, List.cons_append, List.nil_append, List.map_cons, List.map_nil, List.sum_cons,
    List.sum_nil, Value.length_write_bytes, version]
  rw [single "t" rfl, single "y" rfl, single "v" rfl, single "e" rfl, fixed.1, fixed.2.1,
    fixed.2.2]
  omega

theorem errorMessage_tooLarge (limits : env.config.DefaultLimits) (tid : Bytes) :
    IsTooLarge (errorMessage env tid 202 "Response too large") := by
  have limit : env.config.maxEvidenceTextLength.toNat = 4096 := by
    rw [limits]
    rfl
  have text : (encodeUtf8 "Response too large").take 4096 = ascii "Response too large" := by
    decide +kernel
  unfold IsTooLarge errorOf errorMessage
  rw [Message.get?_set_ne (by decide), Message.get?_set_self, limit, text]
  exact ⟨rfl, rfl⟩

theorem sendError_delivers (limits : env.config.DefaultLimits) (connected : start.connected = true)
    (short : Bencode.ShortLength tid) (room : 51 + textLength tid.length ≤ MAX_DHT_RESPONSE_BYTES)
    (endpoint : Endpoint) (associatedQuery : Option Bytes) :
    Ensures (Silent start) (sendError env tid 202 "Response too large" endpoint associatedQuery)
      (fun _ => Delivers start endpoint IsTooLarge) (fun _ _ => False) := by
  have small : Short 202 := by
    show (202 : Int).natAbs < 10 ^ 20
    decide
  obtain ⟨payload, encoded⟩ := error_encodes limits short small "Response too large"
  have fits : payload.length ≤ MAX_DHT_RESPONSE_BYTES := by
    rw [Bencode.length_encode (error_distinct env tid 202 _) encoded, tooLarge_length limits]
    exact room
  apply Ensures.bind
  · apply Ensures.tryCatch (send_delivers connected encoded fits endpoint)
    exact fun _ _ impossible => impossible.elim
  · intro _
    apply ((emit_total _).keeps ((Delivers.quiet start endpoint
      (· = errorMessage env tid 202 "Response too large")).emit _)).weaken (fun _ holds => holds) _
      fun _ _ impossible => impossible
    intro _ node delivers
    obtain ⟨datagram, sent, same, fits, message⟩ := delivers
    exact ⟨datagram, sent, same, fits, message ▸ errorMessage_tooLarge limits tid⟩

/-- What the two builders ask of the arguments. -/
def ValidArguments (config : Config) (method : Bytes) (args : Message) : Prop :=
  method = ascii "get_peers" ∧ (Value.asKey (args.get? "info_hash")).isSome ∧
      validateWant (args.get? "want") = .ok () ∨
    method = ascii "sample_infohashes" ∧ config.dhtBep51Enabled = true ∧
      (Value.asKey (args.get? "target")).isSome

theorem Offer.least_length (tid : Nat) (offer : Offer) :
    responseLength tid 44 ≤ offer.least.length tid := by
  cases offer with
  | nodes contacts => exact responseLength_mono tid (by omega)
  | values peers => exact responseLength_mono tid (by omega)
  | samples held drawn contacts => exact responseLength_mono tid (by omega)

theorem Offer.held_digits (tid held drawn contacts : Nat) :
    (Decimal.write held).length ≤ (Offer.samples held drawn contacts).least.length tid := by
  show (Decimal.write held).length ≤ 25 + textLength tid +
    (65 + (Decimal.write held).length + textLength (20 * 0) + textLength (26 * 0))
  omega

/-- Valid queries are answered with what the node has, as far as it fits with an ID of two
bytes. -/
theorem reply_offers (limits : env.config.DefaultLimits) (documented : env.Documented)
    (stocked : Stocked env.config met) {method : Bytes} {args : Message} {address : IPAddress}
    (parsed : ipAddress endpoint.1 = .ok address) (valid : ValidArguments env.config method args)
    {tid : Nat} (fits : (offer env met method args).least.length tid ≤ MAX_DHT_RESPONSE_BYTES)
    (msg : Message) :
    Ensures (· = met) (reply env method args endpoint msg)
      (fun response _ => ∃ entries, response = some entries ∧
        Carries entries (offer env met method args).kept)
      (fun _ _ => False) := by
  unfold reply
  apply Ensures.get
  intro seen isMet
  subst isMet
  obtain ⟨rfl, named, wanted⟩ | ⟨rfl, enabled, named⟩ := valid
  · obtain ⟨key, isKey⟩ := Option.isSome_iff_exists.mp named
    rw [if_neg (by decide), if_neg (by decide), if_pos rfl]
    apply (incomingGetPeers_offers limits documented stocked parsed isKey wanted).bind
    intro response
    exact Ensures.pure fun _ carries => ⟨response, rfl, carries⟩
  · obtain ⟨target, isTarget⟩ := Option.isSome_iff_exists.mp named
    have digits : (Decimal.write (seen.peerStore.keys env.config
        (env.monotonicNs seen.ticks)).1.length).length ≤ Bencode.maxStrDigits := by
      have bounded : (Decimal.write (seen.peerStore.keys env.config
          (env.monotonicNs seen.ticks)).1.length).length ≤ MAX_DHT_RESPONSE_BYTES := by
        rw [offer_samples env seen isTarget] at fits
        split at fits
        · exact (Offer.held_digits _ _ _ _).trans fits
        · exact (Offer.held_digits _ _ _ _).trans fits
      exact bounded.trans (by decide)
    rw [if_neg (by decide), if_neg (by decide), if_neg (by decide), if_neg (by decide),
      if_pos ⟨rfl, enabled⟩]
    apply (incomingSampleInfohashes_offers limits documented stocked isTarget digits).bind
    intro response
    exact Ensures.pure fun _ carries => ⟨response, rfl, carries⟩

/-- The response goes out exactly if what was kept leaves room for the ID. -/
theorem respond_room (limits : env.config.DefaultLimits) (documented : env.Documented)
    (stocked : Stocked env.config met) (connected : met.connected = true) {method : Bytes}
    {args : Message} {address : IPAddress} (parsed : ipAddress endpoint.1 = .ok address)
    (valid : ValidArguments env.config method args)
    (fits : (offer env met method args).least.length tid.length ≤ MAX_DHT_RESPONSE_BYTES)
    (msg : Message) :
    Ensures (· = met) (respond env tid method args endpoint msg)
      (fun _ node => (offer env met method args).Spares tid.length ∧
        Delivers met endpoint IsResponse node)
      (fun fault node => ¬ (offer env met method args).Spares tid.length ∧ Silent met node ∧
        fault = .krpcError 202 "Response too large") := by
  have short : Bencode.ShortLength tid := by
    have least := Offer.least_length tid.length (offer env met method args)
    have room : tid.length ≤ responseLength tid.length 44 := by
      show _ ≤ 25 + ((Decimal.write tid.length).length + 1 + tid.length) + 44
      omega
    have small : tid.length ≤ MAX_DHT_RESPONSE_BYTES := room.trans (least.trans fits)
    exact Bencode.shortLength_of_lt (small.trans_lt (by decide))
  have silent : Ensures (· = met) (reply env method args endpoint msg) (fun _ => Silent met)
      (fun fault node => Silent met node ∧ Answerable fault) :=
    (reply_silent limits method args endpoint msg met).weaken (fun _ same => same ▸ ⟨rfl, rfl⟩)
      (fun _ _ holds => holds) fun _ _ holds => holds
  have replied : Ensures (· = met) (reply env method args endpoint msg)
      (fun response node => Silent met node ∧ ∃ entries, response = some entries ∧
        Carries entries (offer env met method args).kept)
      (fun fault node => ¬ (offer env met method args).Spares tid.length ∧ Silent met node ∧
        fault = .krpcError 202 "Response too large") :=
    (silent.and (reply_offers limits documented stocked parsed valid fits msg)).raises
      fun _ _ holds => holds.2.elim
  apply replied.bind
  intro response node holds
  obtain ⟨still, entries, isResponse, carries⟩ := holds
  obtain ⟨payload, encoded, length⟩ := encode_response limits short carries.distinct carries.converts
  rw [carries.length] at length
  have spared : (decide (payload.length ≤ MAX_DHT_RESPONSE_BYTES) = true) ↔
      (offer env met method args).Spares tid.length := by
    rw [decide_eq_true_eq, length]
    exact Offer.kept_fits_iff fits
  have deliver : Ensures (Silent met) (do
      let payload ← Effects.raise
        (Bencode.encode (.dict ((base env tid "r").set "r" (.dict entries))))
      Effects.check (decide (payload.length ≤ MAX_DHT_RESPONSE_BYTES))
        (PyError.krpcError 202 "Response too large")
      send ((base env tid "r").set "r" (.dict entries)) endpoint
      Effects.when (env.config.debugFullKrpcJsonl || [ascii "get_peers", ascii "announce_peer",
          ascii "sample_infohashes"].contains method)
        (emitResponseEvidence env ((base env tid "r").set "r" (.dict entries)) endpoint method
          .outgoing))
      (fun _ node => (offer env met method args).Spares tid.length ∧
        Delivers met endpoint IsResponse node)
      (fun fault node => ¬ (offer env met method args).Spares tid.length ∧ Silent met node ∧
        fault = .krpcError 202 "Response too large") := by
    rw [encoded]
    have measured : Ensures (Silent met) (Effects.check
        (decide (payload.length ≤ MAX_DHT_RESPONSE_BYTES))
        (PyError.krpcError 202 "Response too large"))
        (fun _ node => Silent met node ∧ payload.length ≤ MAX_DHT_RESPONSE_BYTES)
        (fun fault node => ¬ (offer env met method args).Spares tid.length ∧ Silent met node ∧
          fault = .krpcError 202 "Response too large") :=
      Ensures.check (fun fits _ silent => ⟨silent, of_decide_eq_true fits⟩)
        fun long _ silent => ⟨fun spares => by simp [spared.mpr spares] at long, silent, rfl⟩
    apply measured.bind
    intro _
    apply Ensures.given
    intro small
    apply ((send_delivers connected encoded small endpoint).raises
      fun _ _ impossible => impossible.elim).bind
    intro _
    apply ((Total.when (emitResponseEvidence_total env _ endpoint method _)).keeps
      (Preserves.when fun _ => (Delivers.quiet met endpoint
        (· = (base env tid "r").set "r" (.dict entries))).emitResponseEvidence env _ endpoint
          method _)).weaken (fun _ holds => holds) _ fun _ _ impossible => impossible.elim
    intro _ node delivers
    obtain ⟨datagram, sent, same, fits, message⟩ := delivers
    refine ⟨spared.mp (decide_eq_true small), datagram, sent, same, fits, ?_⟩
    rw [message, IsResponse, Message.get?_set_ne (by decide)]
    rfl
  rw [isResponse]
  exact deliver node still

/-- What a node holds is sound also once it has met the sender of a query. -/
theorem Stocked.greeted (stocked : Stocked env.config start) (msg : Message) (endpoint : Endpoint)
    (method remoteId : Bytes) :
    Stocked env.config (greeted env msg endpoint method remoteId start) := by
  have same := (greeted_greeted env msg endpoint method remoteId start).same
  have noting : Noting fun node : DHTNode =>
      node.routing.Every (Vouched env.config start.localIps fun _ _ => True) :=
    { ticks := fun _ every => every, note := fun _ _ _ every => every }
  have contacts := (noting.greet env msg endpoint method remoteId fun sighting silent =>
    noting.meet env remoteId endpoint sighting fun node now observed every ran =>
      every.observe
        (fun contact vouched _ => vouched.refresh now fun direct => by simp [silent] at direct)
        (fun length => Vouched.candidate length now fun direct => by simp [silent] at direct)
        ran).after stocked.contacts
  refine ⟨?_, ?_, ?_, ?_⟩
  · rw [same]
    exact stocked.nodeId
  · rw [same]
    exact contacts
  · rw [same]
    exact stocked.keys
  · rw [same]
    exact stocked.cached

/-- One datagram is not both. -/
theorem Delivers.exclusive {node : DHTNode} (response : Delivers start endpoint IsResponse node) :
    ¬ Delivers start endpoint IsTooLarge node := by
  intro tooLarge
  obtain ⟨first, sent, _, _, answers⟩ := response
  obtain ⟨second, same, _, _, refuses⟩ := tooLarge
  have one : [first] = [second] := List.append_cancel_left (sent.symm.trans same)
  rw [List.cons.inj one |>.1] at answers
  exact absurd (Option.some.inj (answers.symm.trans refuses.1)) (by decide)

/-- A valid query whose minimal response fits is answered with a response exactly if no portion
that fits with an ID of two bytes is too long with the ID of the query, else with the error that
the response is too large. -/
theorem handleQuery_room (limits : env.config.DefaultLimits) (documented : env.Documented)
    (connected : start.connected = true) (upkept : Upkept env.config start)
    (stocked : Stocked env.config start) {address : IPAddress}
    (parsed : ipAddress endpoint.1 = .ok address) {msg args : Message} {method remoteId : Bytes}
    (asks : Asks msg method args remoteId) (valid : ValidArguments env.config method args)
    (fits : (offer env (greeted env msg endpoint method remoteId start) method args).least.length
      (transaction msg).length ≤ MAX_DHT_RESPONSE_BYTES) :
    ∃ node, handleQuery env msg endpoint start = .ok () node ∧
      (Delivers start endpoint IsResponse node ↔
        (offer env (greeted env msg endpoint method remoteId start) method args).Spares
          (transaction msg).length) ∧
      (Delivers start endpoint IsTooLarge node ↔
        ¬ (offer env (greeted env msg endpoint method remoteId start) method args).Spares
          (transaction msg).length) := by
  generalize isOffer : offer env (greeted env msg endpoint method remoteId start) method args =
    offered
  have room : 51 + textLength (transaction msg).length ≤ MAX_DHT_RESPONSE_BYTES := by
    refine le_trans ?_ ((Offer.least_length (transaction msg).length _).trans fits)
    unfold responseLength
    omega
  have short : Bencode.ShortLength (transaction msg) := by
    have bounded : (transaction msg).length < 1024 := by
      refine lt_of_lt_of_le ?_ room
      unfold textLength
      omega
    exact Bencode.shortLength_of_lt (bounded.trans (by decide))
  have outcome : Ensures (· = start) (handleQuery env msg endpoint)
      (fun _ node => (offered.Spares (transaction msg).length ∧
          Delivers start endpoint IsResponse node) ∨
        (¬ offered.Spares (transaction msg).length ∧ Delivers start endpoint IsTooLarge node))
      (fun _ _ => False) := by
    unfold handleQuery
    dsimp only
    rw [asks.query, asks.arguments]
    dsimp only
    rw [asks.sender]
    apply (greet_silent limits upkept msg endpoint method remoteId).bind
    intro _
    have answered : Ensures
        (fun node => Silent start node ∧ node = greeted env msg endpoint method remoteId start)
        (respond env (transaction msg) method args endpoint msg)
        (fun _ node => offered.Spares (transaction msg).length ∧
          Delivers start endpoint IsResponse node)
        (fun fault node => ¬ offered.Spares (transaction msg).length ∧ Silent start node ∧
          fault = .krpcError 202 "Response too large") := by
      intro node holds
      obtain ⟨silent, isMet⟩ := holds
      have responded := respond_room limits documented
        (stocked.greeted msg endpoint method remoteId) (isMet ▸ silent.2.trans connected) parsed
        valid fits msg node isMet
      rw [isOffer, ← isMet] at responded
      unfold Delivers Silent at responded
      rw [silent.1, silent.2] at responded
      exact responded
    apply Ensures.tryCatch (answered.weaken (fun _ holds => holds)
      (fun _ _ holds => .inl holds) fun _ _ holds => holds)
    intro fault next failed
    obtain ⟨tight, still, rfl⟩ := failed
    exact (sendError_delivers limits connected short room endpoint (some method)).weaken
      (fun _ holds => holds) (fun _ _ holds => .inr ⟨tight, holds⟩)
      (fun _ _ impossible => impossible) next still
  have ran := outcome start rfl
  cases result : handleQuery env msg endpoint start with
  | error fault node =>
      rw [result] at ran
      exact ran.elim
  | ok _ node =>
      rw [result] at ran
      refine ⟨node, rfl, ?_⟩
      obtain ⟨spares, response⟩ | ⟨tight, tooLarge⟩ := ran
      · exact ⟨iff_of_true response spares, iff_of_false response.exclusive fun tight => tight spares⟩
      · exact ⟨iff_of_false (fun response => response.exclusive tooLarge) tight,
          iff_of_true tooLarge tight⟩

end room

/-- The quiet world with digests of twenty bytes. -/
def samplingWorld : Environment :=
  { NodeSystem.quietWorld with sha1 := fun text => (text ++ List.replicate 20 0).take 20 }

/-- A node that knows nobody and holds so many keys. -/
def samplingNode (held : Nat) : DHTNode where
  nodeId := List.replicate 20 1
  candidates := { queue := { maxsize := 4 } }
  connected := true
  routing :=
    { localNodeId := List.replicate 20 1
      buckets := [{ low := 0, high := DHT_ID_SPACE, lastChangedNs := 0 }] }
  tokens := TokenManager.new samplingWorld 1
  peerStore :=
    { store := (List.range held).map fun key =>
        (List.replicate 20 (UInt8.ofNat key), [(("8.8.8.8", 6881), 1)]) }
  pendingSlots := 4
  txCounter := 7
  localIps := ["127.0.0.1"]
  ticks := 2

def samplingArguments : Message :=
  [(ascii "id", .bytes (List.replicate 20 2)), (ascii "target", .bytes (List.replicate 20 3))]

def samplingQuery (tid : Bytes) : Message :=
  [(ascii "a", .dict samplingArguments), (ascii "q", .bytes (ascii "sample_infohashes")),
    (ascii "t", .bytes tid), (ascii "y", .bytes (ascii "q"))]

theorem samplingWorld_documented : samplingWorld.Documented where
  digest text := by
    show ((text ++ List.replicate 20 0).take 20).length = 20
    rw [List.length_take, List.length_append, List.length_replicate]
    omega
  sample tick keys count few := by
    refine ⟨?_, fun key member => List.mem_of_mem_take member⟩
    show (keys.take count).length = count
    rw [List.length_take]
    omega

theorem samplingNode_stocked (held : Nat) : Stocked samplingWorld.config (samplingNode held) where
  nodeId := rfl
  contacts := by
    intro bucket member contact inside
    rw [List.mem_singleton.mp member] at inside
    exact absurd inside List.not_mem_nil
  keys := by
    intro key member
    obtain ⟨entry, isEntry, rfl⟩ := List.mem_map.mp member
    obtain ⟨number, _, rfl⟩ := List.mem_map.mp isEntry
    exact List.length_replicate
  cached := by
    intro cache isCache
    cases isCache

theorem samplingNode_upkept (held : Nat) : Upkept samplingWorld.config (samplingNode held) := by
  obtain ⟨table, made, inv, _⟩ := RoutingTable.new_inv samplingWorld.config
    (show (List.replicate 20 (1 : UInt8)).length = DHT_NODE_ID_BYTES from rfl) 0
  have same : (samplingNode held).routing = table := Except.ok.inj made
  exact ⟨0, same ▸ inv⟩

theorem handleQuery_room_sample : ∃ node,
    handleQuery samplingWorld (samplingQuery (ascii "abcd")) ("8.8.4.4", 6881) (samplingNode 3) =
      .ok () node ∧
    Delivers (samplingNode 3) ("8.8.4.4", 6881) IsResponse node := by
  have limits : samplingWorld.config.DefaultLimits := rfl
  have parsed : ipAddress "8.8.4.4" = .ok (.v4 8 8 4 4) := by decide +kernel
  have asks : Asks (samplingQuery (ascii "abcd")) (ascii "sample_infohashes") samplingArguments
      (List.replicate 20 2) := ⟨rfl, rfl, rfl⟩
  have valid : ValidArguments samplingWorld.config (ascii "sample_infohashes") samplingArguments :=
    .inr ⟨rfl, rfl, rfl⟩
  obtain ⟨node, ran, answered, _⟩ := @handleQuery_room samplingWorld (samplingNode 3)
    ("8.8.4.4", 6881) limits samplingWorld_documented rfl (samplingNode_upkept 3)
    (samplingNode_stocked 3) _ parsed _ _ _ _ asks valid (by decide +kernel)
  exact ⟨node, ran, answered.mpr (by decide +kernel)⟩

/-- The only datagram of a node that sent nothing before. -/
def onlyDatagram : EStateM.Result PyError DHTNode Unit → Option Sent
  | .ok _ node =>
      match node.sent with
      | [datagram] => some datagram
      | _ => none
  | .error _ _ => none

theorem delivers_of_onlyDatagram {program : Node Unit} {start : DHTNode} {endpoint : Endpoint}
    {message : Message → Prop} [DecidablePred message] (none : start.sent = [])
    (checked : (onlyDatagram (program start)).any (fun datagram =>
      decide (datagram.endpoint = endpoint ∧
        datagram.payload.length ≤ MAX_DHT_RESPONSE_BYTES ∧ message datagram.message)) = true) :
    ∃ node, program start = .ok () node ∧ Delivers start endpoint message node := by
  cases result : program start with
  | error fault node =>
      rw [result] at checked
      cases checked
  | ok _ node =>
      rw [result] at checked
      unfold onlyDatagram at checked
      dsimp only at checked
      split at checked
      · rename_i datagram one
        obtain ⟨same, fits, holds⟩ := of_decide_eq_true checked
        exact ⟨node, rfl, datagram, by rw [one, none, List.nil_append], same, fits, holds⟩
      · cases checked

instance : DecidablePred IsTooLarge := fun _ => inferInstanceAs (Decidable (_ ∧ _))

/-- Of a hundred keys 46 are kept, which leaves room for three bytes at most: a query with an ID
of four gets no response. -/
theorem sampleInfohashes_tooLarge :
    Asks (samplingQuery (ascii "abcd")) (ascii "sample_infohashes") samplingArguments
      (List.replicate 20 2) ∧
    ValidArguments samplingWorld.config (ascii "sample_infohashes") samplingArguments ∧
    (offer samplingWorld (greeted samplingWorld (samplingQuery (ascii "abcd")) ("8.8.4.4", 6881)
      (ascii "sample_infohashes") (List.replicate 20 2) (samplingNode 100))
      (ascii "sample_infohashes") samplingArguments).least.length 4 ≤ MAX_DHT_RESPONSE_BYTES ∧
    ∃ node, handleQuery samplingWorld (samplingQuery (ascii "abcd")) ("8.8.4.4", 6881)
        (samplingNode 100) = .ok () node ∧
      Delivers (samplingNode 100) ("8.8.4.4", 6881) IsTooLarge node ∧
      ¬ Delivers (samplingNode 100) ("8.8.4.4", 6881) IsResponse node := by
  obtain ⟨node, ran, tooLarge⟩ := @delivers_of_onlyDatagram
    (handleQuery samplingWorld (samplingQuery (ascii "abcd")) ("8.8.4.4", 6881)) (samplingNode 100)
    ("8.8.4.4", 6881) IsTooLarge _ rfl (by decide +kernel)
  exact ⟨⟨rfl, rfl, rfl⟩, .inr ⟨rfl, rfl, rfl⟩, by decide +kernel, node, ran, tooLarge,
    fun response => response.exclusive tooLarge⟩

end DHTNode

end PyDht
