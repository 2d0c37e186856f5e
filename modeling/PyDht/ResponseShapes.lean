import PyDht.OutgoingDatagrams
import PyDht.ResponseRoom

set_option autoImplicit false

namespace PyDht

open Effects (Ensures Preserves Total)

/-- A number, a byte string, or a list of byte strings. -/
def Value.Flat : Value → Prop
  | .int _ | .bytes _ => True
  | .list items => ∀ item ∈ items, ∃ text, item = .bytes text
  | .dict _ => False

/-- The value is within three levels of the one that holds it. -/
theorem Value.Flat.every {value : Value} (flat : value.Flat) (depth : Nat) :
    value.Every (fun level _ => (level : Int) ≤ depth + 1) depth := by
  cases value with
  | int number => simp only [every_int]; omega
  | bytes text => simp only [every_bytes]; omega
  | list items =>
      rw [every_list]
      refine ⟨by omega, fun item member => ?_⟩
      obtain ⟨text, rfl⟩ := flat item member
      simp only [every_bytes]
      omega
  | dict entries => exact flat.elim

namespace DHTNode

/-- The response is one that the method asks for, in the name of the node. -/
structure Suits (nodeId method : Bytes) (response : Message) : Prop where
  named : Value.asKey (response.get? "id") = some nodeId
  shape : responseMatchesQuery method response = true
  flat : ∀ entry ∈ response, entry.2.Flat

section shapes

variable {env : Environment} {nodeId token nodes samples : Bytes} {response : Message}

theorem asKey_bytes (length : nodeId.length = 20) : Value.asKey (some (.bytes nodeId)) = some nodeId := by
  simp [Value.asKey, Value.asBytes, Option.filter, length]

theorem suits_ping (length : nodeId.length = 20) :
    Suits nodeId (ascii "ping") [(ascii "id", .bytes nodeId)] :=
  ⟨asKey_bytes length, rfl, by simp [Value.Flat]⟩

theorem suits_findNode (length : nodeId.length = 20) (nodes : Bytes) :
    Suits nodeId (ascii "find_node")
      [(ascii "id", .bytes nodeId), (ascii "nodes", .bytes nodes)] :=
  ⟨asKey_bytes length, rfl, by simp [Value.Flat]⟩

theorem suits_getPeers_nodes (length : nodeId.length = 20) (token nodes : Bytes) :
    Suits nodeId (ascii "get_peers") (Message.set "nodes" (.bytes nodes)
      [(ascii "id", .bytes nodeId), (ascii "token", .bytes token)]) :=
  ⟨asKey_bytes length, rfl, by
    show ∀ entry ∈ [(ascii "id", Value.bytes nodeId), (ascii "token", .bytes token),
      (ascii "nodes", .bytes nodes)], entry.2.Flat
    simp [Value.Flat]⟩

theorem suits_getPeers_values (length : nodeId.length = 20) (token : Bytes) {values : List Value}
    (texts : ∀ value ∈ values, ∃ text, value = .bytes text) :
    Suits nodeId (ascii "get_peers") (Message.set "values" (.list values)
      [(ascii "id", .bytes nodeId), (ascii "token", .bytes token)]) := by
  have whole : (values.all fun value => (Value.asBytes (some value)).isSome) = true := by
    rw [List.all_eq_true]
    intro value member
    obtain ⟨text, rfl⟩ := texts value member
    rfl
  generalize isResponse : Message.set "values" (.list values)
    [(ascii "id", .bytes nodeId), (ascii "token", .bytes token)] = response
  have issued : Value.asBytes (response.get? "token") = some token := by
    rw [← isResponse]
    rfl
  have listed : Value.asList (response.get? "values") = some values := by
    rw [← isResponse]
    rfl
  refine ⟨?_, ?_, ?_⟩
  · rw [← isResponse]
    exact asKey_bytes length
  · unfold responseMatchesQuery
    dsimp only
    rw [if_neg (by decide), if_neg (by decide), if_pos rfl, issued, listed, Option.any_some, whole]
    rfl
  · rw [← isResponse]
    show ∀ entry ∈ [(ascii "id", Value.bytes nodeId), (ascii "token", .bytes token),
      (ascii "values", .list values)], entry.2.Flat
    simpa [Value.Flat] using texts

theorem suits_samples (length : nodeId.length = 20) (interval : Int) (held : Nat)
    (samples nodes : Bytes) :
    Suits nodeId (ascii "sample_infohashes")
      (sampleResponse nodeId interval held samples nodes) :=
  ⟨asKey_bytes length, rfl, by
    show ∀ entry ∈ [(ascii "id", Value.bytes nodeId), (ascii "interval", .int interval),
      (ascii "num", .int held), (ascii "samples", .bytes samples),
      (ascii "nodes", .bytes nodes)], entry.2.Flat
    simp [Value.Flat]⟩

/-- However many samples are dropped, the response stays what it is. -/
theorem trimSamples_suits (length : nodeId.length = 20) {interval : Int} {held rounds : Nat}
    {samples : Bytes} {keys : List Bytes} {trimmed : Message}
    (ran : trimSamples env rounds (sampleResponse nodeId interval held samples nodes) keys =
      .ok trimmed) : Suits nodeId (ascii "sample_infohashes") trimmed := by
  induction rounds generalizing samples keys with
  | zero =>
      cases ran
      exact suits_samples length interval held samples nodes
  | succ rounds ih =>
      obtain ⟨size, _, chosen⟩ := bind_ok_iff.mp ran
      split at chosen
      · rw [sampleResponse_set] at chosen
        exact ih chosen
      · cases pure_ok_iff.mp chosen
        exact suits_samples length interval held samples nodes

/-- The values of a response are packed peers. -/
theorem fitValues_texts {localIps : List String} {peers : List Endpoint} {values found : List Value}
    (ran : fitValues env localIps response values peers = .ok found)
    (texts : ∀ value ∈ values, ∃ text, value = .bytes text) :
    ∀ value ∈ found, ∃ text, value = .bytes text := by
  induction peers generalizing values with
  | nil =>
      cases ran
      exact texts
  | cons peer peers ih =>
      unfold fitValues at ran
      split at ran
      · exact ih ran texts
      · obtain ⟨packed, _, behind⟩ := bind_ok_iff.mp ran
        obtain ⟨size, _, chosen⟩ := bind_ok_iff.mp behind
        split at chosen
        · cases pure_ok_iff.mp chosen
          exact texts
        · apply ih chosen
          rw [List.forall_mem_append, List.forall_mem_singleton]
          exact ⟨texts, packed, rfl⟩

end shapes

section replies

variable {env : Environment} {met : DHTNode} {nodeId : Bytes} {args msg : Message}
  {endpoint : Endpoint}

theorem nodeId_quiet (nodeId : Bytes) : Quiet fun node => node.nodeId = nodeId where
  ticks _ same := same
  emitted _ _ same := same
  candidates _ _ same := same

theorem incomingGetPeers_suits (length : nodeId.length = 20) :
    Ensures (fun node => node.nodeId = nodeId) (incomingGetPeers env args endpoint)
      (fun response _ => Suits nodeId (ascii "get_peers") response) (fun _ _ => True) := by
  have quiet := nodeId_quiet nodeId
  have keeps : ∀ {α : Type} {program : Node α}, Preserves (fun node => node.nodeId = nodeId) program →
      Ensures (fun node => node.nodeId = nodeId) program (fun _ node => node.nodeId = nodeId)
        (fun _ _ => True) := fun preserves => preserves.returns fun _ _ => trivial
  apply (keeps (Preserves.raise _)).bind
  intro key
  apply (keeps (Preserves.raise _)).bind
  intro _
  apply (keeps (quiet.submit env key _ _)).bind
  intro _
  apply (keeps (quiet.emit _)).bind
  intro _
  apply (keeps (quiet.monotonicNs env)).bind
  intro issuedNs
  have issues : Preserves (fun node => node.nodeId = nodeId)
      (onTokens (TokenManager.issue env issuedNs endpoint.1)) := by
    refine Preserves.zoom ?_ _
    exact fun _ _ same => same
  apply (keeps issues).bind
  intro token
  apply Ensures.get
  intro seen same
  apply (Ensures.regardless (monotonicNs env)).bind
  intro now
  apply (Ensures.regardless (onPeerStore (modifyGet _))).bind
  intro peers
  apply Ensures.ite
  · intro _
    apply (Ensures.regardless (closestGood env key)).bind
    intro contacts
    apply (Ensures.regardless (Effects.raise (fitNodes env _ [] contacts))).bind
    intro nodes
    apply Ensures.pure
    intro _ _
    rw [same]
    exact suits_getPeers_nodes length token nodes
  · intro _
    apply Ensures.raiseBind _ fun _ _ _ _ => trivial
    intro values fitted
    apply Ensures.pure
    intro _ _
    rw [same] at fitted ⊢
    exact suits_getPeers_values length token (fitValues_texts fitted (by simp))

theorem incomingSampleInfohashes_suits (length : nodeId.length = 20) :
    Ensures (fun node => node.nodeId = nodeId) (incomingSampleInfohashes env args)
      (fun response _ => Suits nodeId (ascii "sample_infohashes") response) (fun _ _ => True) := by
  have keeps : ∀ {α : Type} {program : Node α}, Preserves (fun node => node.nodeId = nodeId) program →
      Ensures (fun node => node.nodeId = nodeId) program (fun _ node => node.nodeId = nodeId)
        (fun _ _ => True) := fun preserves => preserves.returns fun _ _ => trivial
  apply (keeps (Preserves.raise _)).bind
  intro target
  apply (keeps ((nodeId_quiet nodeId).monotonicNs env)).bind
  intro listed
  have looked : Preserves (fun node => node.nodeId = nodeId)
      (onPeerStore (modifyGet fun peerStore => peerStore.keys env.config listed)) := by
    refine Preserves.zoom ?_ _
    exact fun _ _ same => same
  apply (keeps looked).bind
  intro keys
  have drawn : Preserves (fun node => node.nodeId = nodeId) (currentSamples env keys) := by
    apply Preserves.bind ((nodeId_quiet nodeId).monotonicNs env)
    intro now
    apply Preserves.get
    intro seen same
    split
    · exact Ensures.pure fun _ isSeen => isSeen ▸ same
    · apply Ensures.raiseBind _ fun _ _ _ isSeen => isSeen ▸ same
      intro samples _
      apply Ensures.setBind
      intro _
      exact Ensures.pure fun _ isNext => isNext ▸ same
  apply (keeps drawn).bind
  intro samples
  apply Ensures.get
  intro seen same
  apply (Ensures.regardless (closestGood env target)).bind
  intro contacts
  apply (Ensures.regardless (Effects.raise (fitNodes env _ [] contacts))).bind
  intro nodes
  apply Ensures.raise _ fun _ _ _ _ => trivial
  intro trimmed ran _ _
  rw [same] at ran
  exact trimSamples_suits length ran

/-- The queries that a node has a response for. -/
def Supported (config : Config) (method : Bytes) (args : Message) : Prop :=
  method = ascii "ping" ∨
    method = ascii "find_node" ∧ (Value.asKey (args.get? "target")).isSome ∨
    ValidArguments config method args

/-- Whatever is answered to such a query suits it. -/
theorem reply_suits (length : met.nodeId.length = 20) {method : Bytes}
    (supported : Supported env.config method args) :
    Ensures (· = met) (reply env method args endpoint msg)
      (fun response _ => ∀ entries, response = some entries → Suits met.nodeId method entries)
      (fun _ _ => True) := by
  have wrapped : ∀ {program : Node Message}, Ensures (fun node => node.nodeId = met.nodeId) program
      (fun response _ => Suits met.nodeId method response) (fun _ _ => True) →
      Ensures (· = met) (do return some (← program))
        (fun response _ => ∀ entries, response = some entries → Suits met.nodeId method entries)
        (fun _ _ => True) := by
    intro program suits
    have begun : Ensures (· = met) program (fun response _ => Suits met.nodeId method response)
        (fun _ _ => True) :=
      suits.weaken (fun _ same => congrArg DHTNode.nodeId same) (fun _ _ holds => holds)
        fun _ _ holds => holds
    apply begun.bind
    intro response
    apply Ensures.pure
    intro _ holds entries same
    exact Option.some.inj same ▸ holds
  unfold reply
  apply Ensures.get
  intro seen isMet
  subst isMet
  obtain rfl | ⟨rfl, named⟩ | ⟨rfl, _⟩ | ⟨rfl, enabled, _⟩ := supported
  · rw [if_pos rfl]
    apply Ensures.pure
    intro _ _ entries same
    rw [← Option.some.inj same]
    exact suits_ping length
  · rw [if_neg (by decide), if_pos rfl]
    apply (Ensures.regardless (Effects.raise (require20 args "target"))).bind
    intro target
    apply (Ensures.regardless (compactClosest env target)).bind
    intro nodes
    apply Ensures.pure
    intro _ _ entries same
    rw [← Option.some.inj same]
    exact suits_findNode length nodes
  · rw [if_neg (by decide), if_neg (by decide), if_pos rfl]
    exact wrapped (incomingGetPeers_suits length)
  · rw [if_neg (by decide), if_neg (by decide), if_neg (by decide), if_neg (by decide),
      if_pos ⟨rfl, enabled⟩]
    exact wrapped (incomingSampleInfohashes_suits length)

/-- The response can be sent next to an ID of at most two bytes. -/
structure Sendable (response : Message) : Prop where
  distinct : (Value.dict response).Distinct
  converts : Bencode.Converts (.dict response)
  fits : ∀ tid, tid ≤ 2 →
    responseLength tid (Value.writeEntries response).length ≤ MAX_DHT_RESPONSE_BYTES

theorem responseLength_short {tid entries : Nat} (short : tid ≤ 2) (small : entries ≤ 995) :
    responseLength tid entries ≤ MAX_DHT_RESPONSE_BYTES := by
  have grows := textLength_mono short
  have two : textLength 2 = 4 := by decide
  show 25 + textLength tid + entries ≤ 1024
  omega

/-- What is measured with an ID of two bytes fits next to every shorter one. -/
theorem Carries.sendable {response : Message} {offered : Offer}
    (carries : Carries response offered.kept)
    (least : ∀ tid, tid ≤ 2 → offered.least.length tid ≤ MAX_DHT_RESPONSE_BYTES) :
    Sendable response := by
  refine ⟨carries.distinct, carries.converts, fun tid short => ?_⟩
  rw [carries.length tid]
  exact (Offer.kept_fits_iff (least tid short)).mpr (Offer.spares_of_short short offered)

/-- As long as no more keys are held than a node may hold, the minimal response fits. -/
theorem offer_least (few : met.peerStore.store.length ≤ 10000) (method : Bytes) (args : Message)
    {tid : Nat} (short : tid ≤ 2) :
    (offer env met method args).least.length tid ≤ MAX_DHT_RESPONSE_BYTES := by
  have fixed : textLength (26 * 0) = 2 ∧ textLength (20 * 0) = 2 := by decide
  have digits : (Decimal.write (met.peerStore.keys env.config
      (env.monotonicNs met.ticks)).1.length).length ≤ 5 := by
    have held := (PeerStore.prune_keys_sublist env.config (env.monotonicNs met.ticks)
      met.peerStore).length_le
    have all : (Dict.keys met.peerStore.store).length ≤ 10000 := by
      simpa [Dict.keys] using few
    exact Decimal.length_write_mono (held.trans all)
  have samples : ∀ drawn contacts, (Offer.samples (met.peerStore.keys env.config
      (env.monotonicNs met.ticks)).1.length drawn contacts).least.length tid ≤
        MAX_DHT_RESPONSE_BYTES := by
    intro drawn contacts
    exact responseLength_short short (by omega)
  unfold offer
  dsimp only
  split
  · split
    · exact responseLength_short short (by omega)
    · exact responseLength_short short (by omega)
  · split
    · exact samples _ _
    · exact samples _ _

theorem compactContacts_packs {contacts : List Contact}
    (packable : ∀ contact ∈ contacts, Packable contact) :
    ∃ raw, compactContacts contacts = .ok raw ∧ raw.length = 26 * contacts.length := by
  induction contacts with
  | nil => exact ⟨[], rfl, rfl⟩
  | cons contact contacts ih =>
      obtain ⟨packed, isPacked, size⟩ := packable contact List.mem_cons_self
      obtain ⟨raw, others, length⟩ := ih fun other member =>
        packable other (List.mem_cons_of_mem _ member)
      refine ⟨packed ++ raw, ?_, ?_⟩
      · rw [compactContacts, isPacked, others]
        rfl
      · rw [List.length_append, List.length_cons]
        omega

theorem sendable_ping (length : nodeId.length = 20) : Sendable [(ascii "id", .bytes nodeId)] := by
  have short : Bencode.ShortLength nodeId := Bencode.shortLength_of_lt (by omega)
  have name : Bencode.ShortLength (ascii "id") := Bencode.shortLength_of_lt (by decide)
  refine ⟨?_, ?_, fun tid isShort => responseLength_short isShort ?_⟩
  · rw [Value.distinct_dict, List.forall_mem_singleton]
    exact ⟨List.nodup_singleton _, Value.distinct_bytes _⟩
  · rw [Bencode.converts_dict, List.forall_mem_singleton]
    exact ⟨name, (Bencode.converts_bytes nodeId).mpr short⟩
  · have fixed : textLength (ascii "id").length = 4 ∧ textLength 20 = 23 := by decide
    simp only [Value.length_writeEntries_eq, List.map_cons, List.map_nil, List.sum_cons,
      List.sum_nil, Value.length_write_bytes, length]
    omega

theorem sendable_findNode (length : nodeId.length = 20) {nodes : Bytes}
    (few : nodes.length ≤ 208) :
    Sendable [(ascii "id", .bytes nodeId), (ascii "nodes", .bytes nodes)] := by
  have short : ∀ text : Bytes, text.length ≤ 208 → Bencode.ShortLength text :=
    fun text small => Bencode.shortLength_of_lt (by omega)
  refine ⟨?_, ?_, fun tid isShort => responseLength_short isShort ?_⟩
  · rw [Value.distinct_dict]
    simp only [List.forall_mem_cons, List.map_cons, List.map_nil]
    exact ⟨by decide, Value.distinct_bytes _, Value.distinct_bytes _, by simp⟩
  · simp only [Bencode.converts_dict, List.forall_mem_cons, Bencode.converts_bytes]
    exact ⟨⟨short _ (by decide), short _ (by omega)⟩, ⟨short _ (by decide), short _ few⟩, by simp⟩
  · have fixed : textLength (ascii "id").length = 4 ∧ textLength 20 = 23 ∧
        textLength (ascii "nodes").length = 7 ∧ textLength 208 = 212 := by decide
    have grows := textLength_mono few
    simp only [Value.length_writeEntries_eq, List.map_cons, List.map_nil, List.sum_cons,
      List.sum_nil, Value.length_write_bytes, length]
    omega

/-- Such a query is never refused, and its response can be sent. -/
theorem reply_sendable (limits : env.config.DefaultLimits) (documented : env.Documented)
    (stocked : Stocked env.config met) (few : met.peerStore.store.length ≤ 10000)
    {address : IPAddress} (parsed : ipAddress endpoint.1 = .ok address) {method : Bytes}
    (supported : Supported env.config method args) (msg : Message) :
    Ensures (· = met) (reply env method args endpoint msg)
      (fun response _ => ∃ entries, response = some entries ∧ Sendable entries)
      (fun _ _ => False) := by
  obtain rfl | ⟨rfl, named⟩ | valid := supported
  · unfold reply
    apply Ensures.get
    intro seen isMet
    rw [if_pos rfl]
    apply Ensures.pure
    intro _ _
    exact ⟨_, rfl, sendable_ping (isMet ▸ stocked.nodeId)⟩
  · obtain ⟨target, isTarget⟩ := Option.isSome_iff_exists.mp named
    have required : require20 args "target" = .ok target := by
      unfold require20
      rw [isTarget]
    have length : target.length = 20 := of_decide_eq_true (Option.filter_eq_some_iff.mp isTarget).2
    unfold reply
    apply Ensures.get
    intro seen isMet
    subst isMet
    rw [if_neg (by decide), if_pos rfl, required]
    apply Ensures.bindOk rfl
    have found : Ensures (· = seen) (compactClosest env target)
        (fun nodes _ => nodes.length ≤ 208) (fun _ _ => False) := by
      have undrawn : ∀ node, node = seen → Drawn seen 0 node := by
        intro node isSeen
        rw [isSeen]
        exact ⟨rfl, rfl, rfl, rfl⟩
      have close : Ensures (· = seen) (closestGood env target)
          (fun contacts _ => contacts.length ≤ DHT_K ∧ ∀ contact ∈ contacts, Packable contact)
          (fun _ _ => False) :=
        (closestGood_drawn stocked length).weaken undrawn (fun _ _ holds => holds.2)
          fun _ _ impossible => impossible
      apply close.bind
      intro contacts node holds
      obtain ⟨few, packable⟩ := holds
      obtain ⟨raw, packed, size⟩ := compactContacts_packs packable
      rw [packed]
      have eight : contacts.length ≤ 8 := few
      show raw.length ≤ 208
      omega
    apply found.bind
    intro nodes
    apply Ensures.pure
    intro _ small
    exact ⟨_, rfl, sendable_findNode stocked.nodeId small⟩
  · have least : ∀ tid, tid ≤ 2 →
        (offer env met method args).least.length tid ≤ MAX_DHT_RESPONSE_BYTES :=
      fun tid short => offer_least few method args short
    apply (reply_offers limits documented stocked parsed valid (least 2 (Nat.le_refl 2)) msg).weaken
      (fun _ same => same) _ fun _ _ impossible => impossible
    intro response _ carried
    obtain ⟨entries, isResponse, carries⟩ := carried
    exact ⟨entries, isResponse, carries.sendable least⟩

/-- The node has sent one datagram more: the response to the query, as it was encoded. -/
def Responds (env : Environment) (start : DHTNode) (endpoint : Endpoint) (tid method : Bytes)
    (response : Message) (datagram : Sent) (node : DHTNode) : Prop :=
  node.sent = start.sent ++ [datagram] ∧ datagram.endpoint = endpoint ∧ datagram.Sealed ∧
    datagram.message = (base env tid "r").set "r" (.dict response) ∧
    Suits start.nodeId method response ∧ (Value.dict response).Distinct

theorem respond_delivers (limits : env.config.DefaultLimits) (documented : env.Documented)
    (stocked : Stocked env.config met) (few : met.peerStore.store.length ≤ 10000)
    (connected : met.connected = true) {address : IPAddress}
    (parsed : ipAddress endpoint.1 = .ok address) {method tid : Bytes}
    (supported : Supported env.config method args) (short : tid.length ≤ 2) (msg : Message) :
    Ensures (· = met) (respond env tid method args endpoint msg)
      (fun _ node => ∃ response, Suits met.nodeId method response ∧
        (Value.dict response).Distinct ∧
        Delivers met endpoint (· = (base env tid "r").set "r" (.dict response)) node)
      (fun _ _ => False) := by
  have silent : Ensures (· = met) (reply env method args endpoint msg) (fun _ => Silent met)
      (fun _ _ => True) :=
    (reply_silent limits method args endpoint msg met).weaken (fun _ same => same ▸ ⟨rfl, rfl⟩)
      (fun _ _ holds => holds) fun _ _ _ => trivial
  have replied := ((reply_suits stocked.nodeId supported).and silent).and
    (reply_sendable limits documented stocked few parsed supported msg)
  apply (replied.raises fun _ _ holds => holds.2.elim).bind
  intro response node holds
  obtain ⟨⟨suits, still⟩, entries, isResponse, sendable⟩ := holds
  have small : Bencode.ShortLength tid := Bencode.shortLength_of_lt (by omega)
  obtain ⟨payload, encoded, length⟩ :=
    encode_response limits small sendable.distinct sendable.converts
  have fits : payload.length ≤ MAX_DHT_RESPONSE_BYTES := length ▸ sendable.fits tid.length short
  rw [isResponse]
  have deliver : Ensures (Silent met) (do
      let payload ← Effects.raise
        (Bencode.encode (.dict ((base env tid "r").set "r" (.dict entries))))
      Effects.check (decide (payload.length ≤ MAX_DHT_RESPONSE_BYTES))
        (PyError.krpcError 202 "Response too large")
      send ((base env tid "r").set "r" (.dict entries)) endpoint
      Effects.when (env.config.debugFullKrpcJsonl || [ascii "get_peers", ascii "announce_peer",
          ascii "sample_infohashes"].contains method)
        (emitResponseEvidence env ((base env tid "r").set "r" (.dict entries)) endpoint method
          .outgoing))
      (fun _ => Delivers met endpoint (· = (base env tid "r").set "r" (.dict entries)))
      (fun _ _ => False) := by
    rw [encoded]
    have measured : Ensures (Silent met) (Effects.check
        (decide (payload.length ≤ MAX_DHT_RESPONSE_BYTES))
        (PyError.krpcError 202 "Response too large")) (fun _ => Silent met) (fun _ _ => False) :=
      Ensures.check (fun _ _ silent => silent) fun long => absurd fits (of_decide_eq_false long)
    apply measured.bind
    intro _
    apply (send_delivers connected encoded fits endpoint).bind
    intro _
    exact ((Total.when (emitResponseEvidence_total env _ endpoint method _)).keeps
      (Preserves.when fun _ => (Delivers.quiet met endpoint
        (· = (base env tid "r").set "r" (.dict entries))).emitResponseEvidence env _ endpoint
          method _)).raises fun _ _ impossible => impossible.elim
  exact (deliver.weaken (fun _ holds => holds)
    (fun _ _ delivers => ⟨entries, suits entries isResponse, sendable.distinct, delivers⟩)
    fun _ _ impossible => impossible) node still

/-- A query that a node has a response for is answered with that response, whatever the node
holds. -/
theorem handleQuery_responds (limits : env.config.DefaultLimits) (documented : env.Documented)
    {start : DHTNode} (connected : start.connected = true) (upkept : Upkept env.config start)
    (stocked : Stocked env.config start) (few : start.peerStore.store.length ≤ 10000)
    {address : IPAddress} (parsed : ipAddress endpoint.1 = .ok address) {msg args : Message}
    {method remoteId : Bytes} (asks : Asks msg method args remoteId)
    (supported : Supported env.config method args) (short : (transaction msg).length ≤ 2) :
    ∃ node datagram response, handleQuery env msg endpoint start = .ok () node ∧
      Responds env start endpoint (transaction msg) method response datagram node := by
  have same := (greeted_greeted env msg endpoint method remoteId start).same
  generalize isMet : greeted env msg endpoint method remoteId start = met at same
  have identity : met.nodeId = start.nodeId := by rw [same]
  have outcome : Ensures (· = start) (handleQuery env msg endpoint)
      (fun _ node => ∃ response, Suits start.nodeId method response ∧
        (Value.dict response).Distinct ∧ Delivers start endpoint
          (· = (base env (transaction msg) "r").set "r" (.dict response)) node)
      (fun _ _ => False) := by
    unfold handleQuery
    dsimp only
    rw [asks.query, asks.arguments]
    dsimp only
    rw [asks.sender]
    apply (greet_silent limits upkept msg endpoint method remoteId).bind
    intro _
    have answered : Ensures (fun node => Silent start node ∧
          node = greeted env msg endpoint method remoteId start)
        (respond env (transaction msg) method args endpoint msg)
        (fun _ node => ∃ response, Suits start.nodeId method response ∧
          (Value.dict response).Distinct ∧ Delivers start endpoint
            (· = (base env (transaction msg) "r").set "r" (.dict response)) node)
        (fun _ _ => False) := by
      intro node holds
      obtain ⟨silent, isNode⟩ := holds
      rw [isMet] at isNode
      have few : node.peerStore.store.length ≤ 10000 := by
        rw [isNode, same]
        exact few
      have sound := stocked.greeted msg endpoint method remoteId
      rw [isMet, ← isNode] at sound
      have responded := respond_delivers limits documented sound few
        (silent.2.trans connected) parsed supported short msg node rfl
      unfold Delivers at responded
      rw [silent.1, show node.nodeId = start.nodeId from isNode ▸ identity] at responded
      exact responded
    exact Ensures.tryCatch answered fun _ _ impossible => impossible.elim
  have posted := @handleQuery_posts env start endpoint msg start rfl
  have ran := outcome start rfl
  cases result : handleQuery env msg endpoint start with
  | error fault node =>
      rw [result] at ran
      exact ran.elim
  | ok _ node =>
      rw [result] at ran posted
      obtain ⟨response, suits, distinct, datagram, sent, reaches, _, message⟩ := ran
      rcases posted with none | ⟨other, also, isSealed, _⟩
      · rw [none] at sent
        simp at sent
      · have one : [datagram] = [other] := List.append_cancel_left (sent.symm.trans also)
        rw [← (List.cons.inj one).1] at isSealed
        exact ⟨node, datagram, response, rfl, sent, reaches, isSealed, message, suits, distinct⟩

end replies

end DHTNode

end PyDht
