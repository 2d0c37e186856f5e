import PyDht.ResponseTrimming
import PyDht.TokenLifetime
import PyDht.PeerStoreRuns

set_option autoImplicit false

namespace PyDht

open Effects (Ensures Preserves Total)

/-- What a node has for a response: contacts, peers, or samples of so many keys and contacts. -/
inductive Offer where
  | nodes (contacts : Nat)
  | values (peers : Nat)
  | samples (held drawn contacts : Nat)
deriving DecidableEq, Repr

namespace Offer

/-- The length of the response that comes with all of it, if the ID of the query has that length. -/
def length (tid : Nat) : Offer → Nat
  | .nodes contacts => DHTNode.withNodes tid 44 contacts
  | .values peers => DHTNode.withValues tid 44 peers
  | .samples held drawn contacts => DHTNode.withSamples tid held drawn contacts

/-- What the minimal response comes with. -/
def least : Offer → Offer
  | .nodes _ => .nodes 0
  | .values _ => .values 0
  | .samples held _ _ => .samples held 0 0

/-- The first contacts, the first peers, or the first samples and all samples with the first
contacts. -/
def portions : Offer → List Offer
  | .nodes contacts => (List.range (contacts + 1)).map .nodes
  | .values peers => (List.range (peers + 1)).map .values
  | .samples held drawn contacts =>
      (List.range (drawn + 1)).map (.samples held · 0) ++
        (List.range (contacts + 1)).map (.samples held drawn ·)

/-- No portion that fits with an ID of two bytes is too long with one of the given length. -/
def Spares (tid : Nat) (offer : Offer) : Prop :=
  ∀ portion ∈ offer.portions, portion.length 2 ≤ MAX_DHT_RESPONSE_BYTES →
    portion.length tid ≤ MAX_DHT_RESPONSE_BYTES

instance (tid : Nat) (offer : Offer) : Decidable (offer.Spares tid) :=
  inferInstanceAs (Decidable (∀ portion ∈ offer.portions, _))

/-- The portion that is left when the response is measured with an ID of two bytes. -/
def kept : Offer → Offer
  | .nodes contacts =>
      .nodes (Greedy.most (DHTNode.withNodes 2 44) MAX_DHT_RESPONSE_BYTES contacts)
  | .values peers =>
      .values (Greedy.most (DHTNode.withValues 2 44) MAX_DHT_RESPONSE_BYTES peers)
  | .samples held drawn contacts =>
      let filled := Greedy.filled (DHTNode.withSamples 2 held) MAX_DHT_RESPONSE_BYTES drawn contacts
      .samples held filled.1 filled.2

/-- What is kept leaves room for another ID exactly if every portion does. -/
theorem kept_fits_iff {tid : Nat} {offer : Offer}
    (fits : offer.least.length tid ≤ MAX_DHT_RESPONSE_BYTES) :
    offer.kept.length tid ≤ MAX_DHT_RESPONSE_BYTES ↔ offer.Spares tid := by
  cases offer with
  | nodes contacts =>
      have kept := @Greedy.most_fits_iff (DHTNode.withNodes 2 44) (DHTNode.withNodes tid 44)
        MAX_DHT_RESPONSE_BYTES (DHTNode.withNodes_mono tid 44) fits contacts
      simp only [Spares, portions, List.forall_mem_map, List.mem_range, Nat.lt_succ_iff]
      exact kept
  | values peers =>
      have kept := @Greedy.most_fits_iff (DHTNode.withValues 2 44) (DHTNode.withValues tid 44)
        MAX_DHT_RESPONSE_BYTES (DHTNode.withValues_mono tid 44) fits peers
      simp only [Spares, portions, List.forall_mem_map, List.mem_range, Nat.lt_succ_iff]
      exact kept
  | samples held drawn contacts =>
      have kept := @Greedy.filled_fits_iff (DHTNode.withSamples 2 held)
        (DHTNode.withSamples tid held) MAX_DHT_RESPONSE_BYTES
        (DHTNode.withSamples_nodes_mono 2 held) (DHTNode.withSamples_nodes_mono tid held)
        (DHTNode.withSamples_samples_mono tid held) fits drawn contacts
      simp only [Spares, portions, List.forall_mem_append, List.forall_mem_map, List.mem_range,
        Nat.lt_succ_iff]
      exact kept

/-- An ID of at most two bytes always finds room. -/
theorem spares_of_short {tid : Nat} (short : tid ≤ 2) (offer : Offer) : offer.Spares tid := by
  intro portion _ fits
  have less : ∀ entries, DHTNode.responseLength tid entries ≤ DHTNode.responseLength 2 entries := by
    intro entries
    have grows := textLength_mono short
    unfold DHTNode.responseLength
    omega
  cases portion with
  | nodes contacts => exact (less _).trans fits
  | values peers => exact (less _).trans fits
  | samples held drawn contacts => exact (less _).trans fits

end Offer

/-- What the standard library promises of `hashlib.sha1` and of `random.sample`. -/
structure Environment.Documented (env : Environment) : Prop where
  digest : ∀ text, (env.sha1 text).length = 20
  sample : ∀ tick keys count, count ≤ keys.length →
    (env.sample tick keys count).length = count ∧ ∀ key ∈ env.sample tick keys count, key ∈ keys

namespace TokenManager

/-- A token has eight bytes, and can be issued to every address. -/
theorem issue_length {env : Environment} (limits : env.config.DefaultLimits)
    (documented : env.Documented) {ip : String} {address : IPAddress}
    (parsed : ipAddress ip = .ok address) (now : Int) (tokens : TokenManager) :
    Ensures (· = tokens) (issue env now ip) (fun token _ => token.length = 8)
      (fun _ _ => False) := by
  have positive : 0 < interval env := by
    rw [interval, limits]
    show 0 < nanoseconds 300
    decide
  unfold issue
  apply Ensures.get
  intro seen same
  apply Ensures.raiseBind
  · intro rotated turned
    apply Ensures.setBind
    intro _
    apply Ensures.get
    intro current _
    rw [derive_total parsed]
    apply Ensures.pure
    intro state _
    rw [List.length_take, documented.digest]
    decide
  · intro fault failed state _
    rcases rotate_cases now seen positive with ⟨_, turned⟩ | ⟨_, next, turned, _⟩
    · rw [turned] at failed
      cases failed
    · rw [turned] at failed
      cases failed

end TokenManager

namespace DHTNode

/-- The number of GOOD contacts next to the target, at the given reading of the clock. -/
def goodContacts (env : Environment) (node : DHTNode) (tick : Nat) (target : Bytes) : Nat :=
  match node.routing.closest env.config (env.monotonicNs tick) target DHT_K true with
  | .ok contacts => contacts.length
  | .error _ => 0

/-- What the node has for the response to a `get_peers`, or else a `sample_infohashes`. -/
def offer (env : Environment) (node : DHTNode) (method : Bytes) (args : Message) : Offer :=
  if method = ascii "get_peers" then
    let key := (Value.asKey (args.get? "info_hash")).getD []
    let peers := (node.peerStore.get env.config (env.monotonicNs (node.ticks + 3)) key).1
    if peers.isEmpty then .nodes (goodContacts env node (node.ticks + 4) key)
    else .values (allowedPeers env.config node.localIps peers)
  else
    let target := (Value.asKey (args.get? "target")).getD []
    let held := (node.peerStore.keys env.config (env.monotonicNs node.ticks)).1.length
    match node.sampleCache.filter fun cache => env.monotonicNs (node.ticks + 1) < cache.1 with
    | some cache => .samples held cache.2.length (goodContacts env node (node.ticks + 2) target)
    | none => .samples held (min env.config.bep51MaxSamplesPerResponse.toNat held)
        (goodContacts env node (node.ticks + 3) target)

theorem offer_peers (env : Environment) (node : DHTNode) {args : Message} {key : Bytes}
    (named : Value.asKey (args.get? "info_hash") = some key) :
    offer env node (ascii "get_peers") args =
      if (node.peerStore.get env.config (env.monotonicNs (node.ticks + 3)) key).1.isEmpty then
        .nodes (goodContacts env node (node.ticks + 4) key)
      else .values (allowedPeers env.config node.localIps
        (node.peerStore.get env.config (env.monotonicNs (node.ticks + 3)) key).1) := by
  rw [offer, if_pos rfl, named]
  rfl

/-- What a node holds is as its own operations leave it. -/
structure Stocked (config : Config) (node : DHTNode) : Prop where
  nodeId : node.nodeId.length = 20
  contacts : node.routing.Every (Vouched config node.localIps fun _ _ => True)
  keys : ∀ key ∈ Dict.keys node.peerStore.store, key.length = 20
  cached : ∀ cache, node.sampleCache = some cache →
    (cache.2.length : Int) ≤ config.bep51MaxSamplesPerResponse ∧ ∀ key ∈ cache.2, key.length = 20

/-- The node so many readings of the surroundings later, but for what it holds for others. -/
structure Drawn (met : DHTNode) (draws : Nat) (node : DHTNode) : Prop where
  ticks : node.ticks = met.ticks + draws
  nodeId : node.nodeId = met.nodeId
  routing : node.routing = met.routing
  localIps : node.localIps = met.localIps

/-- What the node holds for others is still there. -/
def Stored (met node : DHTNode) : Prop :=
  node.peerStore = met.peerStore ∧ node.sampleCache = met.sampleCache

section drawing

variable {env : Environment} {met : DHTNode} {draws : Nat}

theorem monotonicNs_drawn (env : Environment) (met : DHTNode) (draws : Nat) :
    Ensures (Drawn met draws) (monotonicNs env)
      (fun now node => Drawn met (draws + 1) node ∧ now = env.monotonicNs (met.ticks + draws))
      (fun _ _ => False) := by
  intro node drawn
  obtain ⟨ticks, nodeId, routing, localIps⟩ := drawn
  exact ⟨⟨congrArg (· + 1) ticks, nodeId, routing, localIps⟩, congrArg env.monotonicNs ticks⟩

/-- The clock is read, which leaves what is held alone. -/
theorem monotonicNs_stored (env : Environment) (met : DHTNode) (draws : Nat) :
    Ensures (fun node => Drawn met draws node ∧ Stored met node) (monotonicNs env)
      (fun now node => (Drawn met (draws + 1) node ∧ Stored met node) ∧
        now = env.monotonicNs (met.ticks + draws))
      (fun _ _ => False) := by
  intro node holds
  have reading := monotonicNs_drawn env met draws node holds.1
  exact ⟨⟨reading.1, holds.2⟩, reading.2⟩

/-- Contacts that a node finds in its table can be packed, and they are few. -/
theorem closestGood_drawn (stocked : Stocked env.config met) {target : Bytes}
    (length : target.length = 20) :
    Ensures (Drawn met draws) (closestGood env target)
      (fun contacts _ => contacts.length = goodContacts env met (met.ticks + draws) target ∧
        contacts.length ≤ DHT_K ∧ ∀ contact ∈ contacts, Packable contact)
      (fun _ _ => False) := by
  have vouched := stocked.contacts.contacts
  obtain ⟨contacts, found⟩ := RoutingTable.closest_ok env.config
    (fun contact member => (vouched contact member).length) (env.monotonicNs (met.ticks + draws))
      length DHT_K true
  apply Ensures.bind (monotonicNs_drawn env met draws)
  intro now
  apply Ensures.get
  intro node holds
  obtain ⟨drawn, isNow⟩ := holds
  rw [isNow, drawn.routing, found]
  apply Ensures.pure
  intro state _
  refine ⟨by rw [goodContacts, found], ?_, ?_⟩
  · obtain ⟨keyed, _, taken⟩ := bind_ok_iff.mp found
    rw [← pure_ok_iff.mp taken]
    exact List.length_take_le _ _
  · intro contact member
    obtain ⟨inside, _, good⟩ := RoutingTable.closest_mem found contact member
    have known := vouched contact inside
    have answered := known.answered (Contact.marked_of_good (good rfl))
    obtain ⟨packed, isPacked, packs⟩ := compactNode_packs known.length answered.1
    exact ⟨packed, isPacked, packs.length⟩

end drawing

/-- The response can be encoded, and is as long as the one with this portion. -/
structure Carries (response : Message) (portion : Offer) : Prop where
  distinct : (Value.dict response).Distinct
  converts : Bencode.Converts (.dict response)
  length : ∀ tid, responseLength tid (Value.writeEntries response).length = portion.length tid

section peers

variable {env : Environment} {met : DHTNode} {nodeId token : Bytes}

/-- How every response to a `get_peers` begins. -/
theorem tokenResponse_opened (identity : nodeId.length = 20) (eight : token.length = 8)
    (name : String) (small : name.toList.length < 10 ^ 20)
    (other : ascii name ∉ [ascii "id", ascii "token"]) :
    Opened [(ascii "id", .bytes nodeId), (ascii "token", .bytes token)] name ∧
      (Value.writeEntries [(ascii "id", .bytes nodeId), (ascii "token", .bytes token)]).length =
        44 := by
  have short : ∀ text : Bytes, text.length < 100 → Bencode.ShortLength text :=
    fun text length => Bencode.shortLength_of_lt (by omega)
  have fixed : textLength (ascii "id").length = 4 ∧ textLength (ascii "token").length = 7 ∧
      textLength 20 = 23 ∧ textLength 8 = 10 := by decide
  constructor
  · refine ⟨other, ?_, ?_, ?_⟩
    · rw [Value.distinct_dict]
      simp only [List.forall_mem_cons, List.map_cons, List.map_nil]
      exact ⟨by decide, Value.distinct_bytes _, Value.distinct_bytes _, by simp⟩
    · simp only [Bencode.converts_dict, List.forall_mem_cons, Bencode.converts_bytes]
      exact ⟨⟨short _ (by decide), short _ (by omega)⟩, ⟨short _ (by decide), short _ (by omega)⟩,
        by simp⟩
    · apply Bencode.shortLength_of_lt
      rw [ascii, List.length_map]
      exact small
  · obtain ⟨name, word, key, mark⟩ := fixed
    rw [Value.length_writeEntries_eq]
    simp only [List.map_cons, List.map_nil, List.sum_cons, List.sum_nil, Value.length_write_bytes,
      identity, eight, name, word, key, mark]
    rfl

/-- The response with the packed contacts. -/
theorem Opened.nodes_carry (limits : env.config.DefaultLimits) {response : Message}
    (opened : Opened response "nodes") (before : (Value.writeEntries response).length = 44)
    {contacts : List Contact} (few : contacts.length ≤ DHT_K)
    (packable : ∀ contact ∈ contacts, Packable contact) :
    ∃ nodes, fitNodes env response [] contacts = .ok nodes ∧
      Carries (response.set "nodes" (.bytes nodes)) (Offer.nodes contacts.length).kept := by
  have bound : contacts.length ≤ 8 := few
  obtain ⟨nodes, fitted, sized⟩ := fitNodes_takes limits opened packable
    (show ([] : Bytes).length = 26 * 0 from rfl) (by omega)
  rw [before, Greedy.taken_most (withNodes_mono 2 44)] at sized
  have least := Greedy.most_le (withNodes 2 44) MAX_DHT_RESPONSE_BYTES contacts.length
  have short : Bencode.ShortLength nodes := Bencode.shortLength_of_lt (by omega)
  obtain ⟨distinct, converts⟩ := opened.filled (Value.distinct_bytes nodes)
    ((Bencode.converts_bytes nodes).mpr short)
  refine ⟨nodes, fitted, distinct, converts, fun tid => ?_⟩
  rw [opened.nodes_length tid sized, before]
  rfl

/-- The response with the packed peers. -/
theorem Opened.values_carry (limits : env.config.DefaultLimits) {response : Message}
    (opened : Opened response "values") (before : (Value.writeEntries response).length = 44)
    (localIps : List String) (peers : List Endpoint) :
    ∃ values, fitValues env localIps response [] peers = .ok values ∧
      Carries (response.set "values" (.list values))
        (Offer.values (allowedPeers env.config localIps peers)).kept := by
  obtain ⟨values, fitted, packed⟩ := fitValues_takes limits opened localIps peers
    (show Packed [] 0 from ⟨rfl, by simp⟩)
  rw [before, Greedy.taken_most (withValues_mono 2 44)] at packed
  obtain ⟨listed, sound⟩ := packed.encodable
  obtain ⟨distinct, converts⟩ := opened.filled listed sound
  refine ⟨values, fitted, distinct, converts, fun tid => ?_⟩
  rw [opened.values_length tid packed, before]
  rfl

/-- The response to a `get_peers` comes with as many entries as fit with an ID of two bytes. -/
theorem incomingGetPeers_offers (limits : env.config.DefaultLimits) (documented : env.Documented)
    (stocked : Stocked env.config met) {args : Message} {endpoint : Endpoint}
    {address : IPAddress} (parsed : ipAddress endpoint.1 = .ok address) {key : Bytes}
    (named : Value.asKey (args.get? "info_hash") = some key)
    (wanted : validateWant (args.get? "want") = .ok ()) :
    Ensures (· = met) (incomingGetPeers env args endpoint)
      (fun response _ => Carries response (offer env met (ascii "get_peers") args).kept)
      (fun _ _ => False) := by
  have required : require20 args "info_hash" = .ok key := by
    unfold require20
    rw [named]
  have length : key.length = 20 := of_decide_eq_true (Option.filter_eq_some_iff.mp named).2
  unfold incomingGetPeers
  rw [required, wanted]
  apply Ensures.bindOk rfl
  apply Ensures.bindOk rfl
  have submitted : Ensures (· = met) (submit env key "get_peers" none)
      (fun _ node => Drawn met 2 node ∧ Stored met node) (fun _ _ => False) := by
    intro node same
    rw [same]
    exact ⟨⟨rfl, rfl, rfl, rfl⟩, rfl, rfl⟩
  apply submitted.bind
  intro _
  have noted : Ensures (fun node => Drawn met 2 node ∧ Stored met node)
      (emit (.passiveGetPeers key))
      (fun _ node => Drawn met 2 node ∧ Stored met node) (fun _ _ => False) :=
    Ensures.modify fun _ holds => ⟨⟨holds.1.ticks, holds.1.nodeId, holds.1.routing,
      holds.1.localIps⟩, holds.2⟩
  apply noted.bind
  intro _
  apply Ensures.bind (monotonicNs_stored env met 2)
  intro issuedNs
  have issued : Ensures (fun node => (Drawn met 3 node ∧ Stored met node) ∧
        issuedNs = env.monotonicNs (met.ticks + 2))
      (onTokens (TokenManager.issue env issuedNs endpoint.1))
      (fun token node => (Drawn met 3 node ∧ Stored met node) ∧ token.length = 8)
      (fun _ _ => False) := by
    apply Ensures.zoom
    intro node holds
    obtain ⟨⟨drawn, same⟩, _⟩ := holds
    exact (TokenManager.issue_length limits documented parsed issuedNs node.tokens).weaken
      (fun _ same => same)
      (fun _ _ eight => ⟨⟨⟨drawn.ticks, drawn.nodeId, drawn.routing, drawn.localIps⟩, same⟩, eight⟩)
      fun _ _ impossible => impossible
  apply issued.bind
  intro token
  apply Ensures.get
  intro seen holds
  obtain ⟨⟨drawn, same⟩, eight⟩ := holds
  have identity : seen.nodeId.length = 20 := by
    rw [drawn.nodeId]
    exact stocked.nodeId
  have read : Ensures (· = seen) (monotonicNs env)
      (fun now node => (Drawn met 4 node ∧ Stored met node) ∧
        now = env.monotonicNs (met.ticks + 3)) (fun _ _ => False) :=
    (monotonicNs_stored env met 3).weaken (fun _ isSeen => isSeen ▸ ⟨drawn, same⟩)
      (fun _ _ holds => holds) fun _ _ impossible => impossible
  apply read.bind
  intro now
  have looked : Ensures (fun node => (Drawn met 4 node ∧ Stored met node) ∧
        now = env.monotonicNs (met.ticks + 3))
      (onPeerStore (modifyGet fun peerStore => peerStore.get env.config now key))
      (fun peers node => Drawn met 4 node ∧
        peers = (met.peerStore.get env.config (env.monotonicNs (met.ticks + 3)) key).1)
      (fun _ _ => False) := by
    intro node holds
    obtain ⟨⟨⟨ticks, nodeId, routing, localIps⟩, store⟩, isNow⟩ := holds
    refine ⟨⟨ticks, nodeId, routing, localIps⟩, ?_⟩
    rw [← isNow, ← store.1]
    rfl
  apply looked.bind
  intro peers
  apply Ensures.given
  intro isPeers
  apply Ensures.ite
  · intro none
    obtain ⟨opened, before⟩ :=
      tokenResponse_opened identity eight "nodes" (by decide) (by decide)
    have offered : offer env met (ascii "get_peers") args =
        .nodes (goodContacts env met (met.ticks + 4) key) := by
      rw [offer_peers env met named, ← isPeers, if_pos none]
    rw [offered]
    apply (closestGood_drawn stocked length).bind
    intro contacts node found
    obtain ⟨count, few, packable⟩ := found
    obtain ⟨nodes, fitted, carries⟩ := opened.nodes_carry limits before few packable
    rw [fitted, ← count]
    exact carries
  · intro some
    obtain ⟨opened, before⟩ :=
      tokenResponse_opened identity eight "values" (by decide) (by decide)
    have offered : offer env met (ascii "get_peers") args =
        .values (allowedPeers env.config met.localIps peers) := by
      rw [offer_peers env met named, ← isPeers, if_neg some]
    obtain ⟨values, fitted, carries⟩ := opened.values_carry limits before seen.localIps peers
    rw [offered, fitted, ← drawn.localIps]
    intro node _
    exact carries

end peers

section samples

variable {env : Environment} {met : DHTNode}

theorem offer_samples (env : Environment) (node : DHTNode) {args : Message} {target : Bytes}
    (named : Value.asKey (args.get? "target") = some target) :
    offer env node (ascii "sample_infohashes") args =
      match node.sampleCache.filter fun cache => env.monotonicNs (node.ticks + 1) < cache.1 with
      | some cache =>
          .samples (node.peerStore.keys env.config (env.monotonicNs node.ticks)).1.length
            cache.2.length (goodContacts env node (node.ticks + 2) target)
      | none =>
          .samples (node.peerStore.keys env.config (env.monotonicNs node.ticks)).1.length
            (min env.config.bep51MaxSamplesPerResponse.toNat
              (node.peerStore.keys env.config (env.monotonicNs node.ticks)).1.length)
            (goodContacts env node (node.ticks + 3) target) := by
  have other : ascii "sample_infohashes" ≠ ascii "get_peers" := by decide
  rw [offer, if_neg other, named]
  rfl

/-- As many keys are drawn as there are, up to the limit. -/
theorem chooseSamples_draws (limits : env.config.DefaultLimits) (documented : env.Documented)
    (tick : Nat) (keys : List Bytes) :
    ∃ samples, chooseSamples env tick keys = .ok samples ∧
      samples.length = min env.config.bep51MaxSamplesPerResponse.toNat keys.length ∧
      ∀ key ∈ samples, key ∈ keys := by
  have fifty : env.config.bep51MaxSamplesPerResponse = 50 := by
    rw [limits]
  unfold chooseSamples
  dsimp only
  rw [fifty, if_neg (by omega)]
  by_cases drawn : min (50 : Int) keys.length ≠ 0 ∧ min (50 : Int) keys.length < keys.length
  · obtain ⟨length, among⟩ := documented.sample tick keys (min (50 : Int) keys.length).toNat
      (by omega)
    exact ⟨_, if_pos drawn, by rw [length]; omega, among⟩
  · refine ⟨_, if_neg drawn, ?_, fun key member => List.mem_of_mem_take member⟩
    rw [List.length_take]
    omega

/-- The samples are those of the last draw, if it is not too old, or drawn anew. -/
theorem currentSamples_drawn (limits : env.config.DefaultLimits) (documented : env.Documented)
    (met : DHTNode) (keys : List Bytes) :
    Ensures (fun node => Drawn met 1 node ∧ node.sampleCache = met.sampleCache)
      (currentSamples env keys)
      (fun samples node =>
        (∃ cache, (met.sampleCache.filter fun cache =>
            env.monotonicNs (met.ticks + 1) < cache.1) = some cache ∧
          samples = cache.2 ∧ Drawn met 2 node) ∨
        ((met.sampleCache.filter fun cache => env.monotonicNs (met.ticks + 1) < cache.1) = none ∧
          samples.length = min env.config.bep51MaxSamplesPerResponse.toNat keys.length ∧
          (∀ key ∈ samples, key ∈ keys) ∧ Drawn met 3 node))
      (fun _ _ => False) := by
  have reading : Ensures (fun node => Drawn met 1 node ∧ node.sampleCache = met.sampleCache)
      (monotonicNs env)
      (fun now node => (Drawn met 2 node ∧ node.sampleCache = met.sampleCache) ∧
        now = env.monotonicNs (met.ticks + 1)) (fun _ _ => False) := by
    intro node holds
    have read := monotonicNs_drawn env met 1 node holds.1
    exact ⟨⟨read.1, holds.2⟩, read.2⟩
  apply reading.bind
  intro now
  apply Ensures.get
  intro node holds
  obtain ⟨⟨drawn, same⟩, isNow⟩ := holds
  rw [isNow, same]
  cases fresh : met.sampleCache.filter fun cache => env.monotonicNs (met.ticks + 1) < cache.1 with
  | some cache =>
      apply Ensures.pure
      intro state isState
      rw [isState]
      exact .inl ⟨cache, rfl, rfl, drawn⟩
  | none =>
      obtain ⟨samples, chosen, count, among⟩ := chooseSamples_draws limits documented node.ticks keys
      dsimp only
      rw [chosen]
      apply Ensures.bindOk rfl
      apply Ensures.setBind
      intro _
      apply Ensures.pure
      intro state isState
      rw [isState]
      exact .inr ⟨rfl, count, among, congrArg (· + 1) drawn.ticks, drawn.nodeId, drawn.routing,
        drawn.localIps⟩

/-- The response with the packed contacts and the samples that fit. -/
theorem samples_carry (limits : env.config.DefaultLimits) {nodeId : Bytes} {held : Nat}
    (identity : nodeId.length = 20)
    (digits : (Decimal.write held).length ≤ Bencode.maxStrDigits) {samples : List Bytes}
    (keys : ∀ key ∈ samples, key.length = 20) (bounded : samples.length ≤ 50)
    {contacts : List Contact} (few : contacts.length ≤ DHT_K)
    (packable : ∀ contact ∈ contacts, Packable contact) :
    ∃ nodes response, fitNodes env (sampleHead nodeId 300 held samples.flatten) [] contacts =
        .ok nodes ∧
      trimSamples env (samples.length + 1) (sampleResponse nodeId 300 held samples.flatten nodes)
        samples = .ok response ∧
      Carries response (Offer.samples held samples.length contacts.length).kept := by
  have bound : contacts.length ≤ 8 := few
  have whole := flatten_length keys
  have fine : Bencode.ShortLength samples.flatten := Bencode.shortLength_of_lt (by omega)
  have opened := sampleHead_opened identity digits fine
  have measure : withNodes 2 (Value.writeEntries (sampleHead nodeId 300 held samples.flatten)).length =
      withSamples 2 held samples.length := by
    funext count
    rw [sampleHead_length identity whole, withNodes, withSamples]
    congr 1
    omega
  obtain ⟨nodes, fitted, sized⟩ := fitNodes_takes limits opened packable
    (show ([] : Bytes).length = 26 * 0 from rfl) (by omega)
  rw [measure, Greedy.taken_most (withSamples_nodes_mono 2 held samples.length)] at sized
  have added := Greedy.most_le (withSamples 2 held samples.length) MAX_DHT_RESPONSE_BYTES
    contacts.length
  have short : Bencode.ShortLength nodes := Bencode.shortLength_of_lt (by omega)
  obtain ⟨kept, left, trimmed⟩ := trimSamples_keeps limits identity digits sized short keys
    (by omega) (Nat.lt_succ_self samples.length)
  have most := Greedy.most_le (fun count => withSamples 2 held count
    (Greedy.most (withSamples 2 held samples.length) MAX_DHT_RESPONSE_BYTES contacts.length))
    MAX_DHT_RESPONSE_BYTES samples.length
  have small : Bencode.ShortLength kept := Bencode.shortLength_of_lt (by omega)
  obtain ⟨distinct, converts⟩ := (sampleHead_opened identity digits small).filled
    (Value.distinct_bytes nodes) ((Bencode.converts_bytes nodes).mpr short)
  refine ⟨nodes, _, fitted, trimmed, distinct, converts, fun tid => ?_⟩
  exact sampleResponse_length tid identity digits small left sized

/-- The response to a `sample_infohashes` comes with as many entries as fit with an ID of two
bytes. -/
theorem incomingSampleInfohashes_offers (limits : env.config.DefaultLimits)
    (documented : env.Documented) (stocked : Stocked env.config met) {args : Message}
    {target : Bytes} (named : Value.asKey (args.get? "target") = some target)
    (digits : (Decimal.write (met.peerStore.keys env.config
      (env.monotonicNs met.ticks)).1.length).length ≤ Bencode.maxStrDigits) :
    Ensures (· = met) (incomingSampleInfohashes env args)
      (fun response _ => Carries response (offer env met (ascii "sample_infohashes") args).kept)
      (fun _ _ => False) := by
  have required : require20 args "target" = .ok target := by
    unfold require20
    rw [named]
  have length : target.length = 20 := of_decide_eq_true (Option.filter_eq_some_iff.mp named).2
  have fifty : env.config.bep51MaxSamplesPerResponse = 50 := by
    rw [limits]
  have interval : env.config.dhtBep51ResponseInterval = 300 := by
    rw [limits]
  unfold incomingSampleInfohashes
  rw [required]
  apply Ensures.bindOk rfl
  have listing : Ensures (· = met) (monotonicNs env)
      (fun listed node => (Drawn met 1 node ∧ Stored met node) ∧
        listed = env.monotonicNs met.ticks) (fun _ _ => False) := by
    intro node same
    rw [same]
    exact ⟨⟨⟨rfl, rfl, rfl, rfl⟩, rfl, rfl⟩, rfl⟩
  apply listing.bind
  intro listed
  have looked : Ensures (fun node => (Drawn met 1 node ∧ Stored met node) ∧
        listed = env.monotonicNs met.ticks)
      (onPeerStore (modifyGet fun peerStore => peerStore.keys env.config listed))
      (fun keys node => (Drawn met 1 node ∧ node.sampleCache = met.sampleCache) ∧
        keys = (met.peerStore.keys env.config (env.monotonicNs met.ticks)).1)
      (fun _ _ => False) := by
    intro node holds
    obtain ⟨⟨⟨ticks, nodeId, routing, localIps⟩, store, cache⟩, isListed⟩ := holds
    refine ⟨⟨⟨ticks, nodeId, routing, localIps⟩, cache⟩, ?_⟩
    rw [← isListed, ← store]
    rfl
  apply looked.bind
  intro keys
  apply Ensures.given
  intro isKeys
  have sound : ∀ key ∈ keys, key.length = 20 := by
    intro key member
    rw [isKeys] at member
    exact stocked.keys key ((PeerStore.prune_keys_sublist _ _ _).subset member)
  have drawing : Ensures (fun node => Drawn met 1 node ∧ node.sampleCache = met.sampleCache)
      (currentSamples env keys)
      (fun samples node => ∃ draws, Drawn met draws node ∧
        offer env met (ascii "sample_infohashes") args =
          .samples keys.length samples.length (goodContacts env met (met.ticks + draws) target) ∧
        samples.length ≤ 50 ∧ ∀ key ∈ samples, key.length = 20)
      (fun _ _ => False) := by
    apply (currentSamples_drawn limits documented met keys).weaken (fun _ holds => holds) _
      fun _ _ impossible => impossible
    intro samples node outcome
    rw [offer_samples env met named, ← isKeys]
    rcases outcome with ⟨cache, fresh, rfl, drawn⟩ | ⟨stale, count, among, drawn⟩
    · obtain ⟨few, cached⟩ := stocked.cached cache (Option.filter_eq_some_iff.mp fresh).1
      rw [fresh]
      exact ⟨2, drawn, rfl, by omega, cached⟩
    · rw [stale]
      exact ⟨3, drawn, by rw [count], by omega, fun key member => sound key (among key member)⟩
  apply drawing.bind
  intro samples
  apply Ensures.get
  intro seen holds
  obtain ⟨draws, drawn, offered, bounded, lengths⟩ := holds
  have identity : seen.nodeId.length = 20 := by
    rw [drawn.nodeId]
    exact stocked.nodeId
  rw [offered, interval]
  have searched : Ensures (· = seen) (closestGood env target)
      (fun contacts _ => contacts.length = goodContacts env met (met.ticks + draws) target ∧
        contacts.length ≤ DHT_K ∧ ∀ contact ∈ contacts, Packable contact)
      (fun _ _ => False) :=
    (closestGood_drawn stocked length).weaken (fun _ isSeen => isSeen ▸ drawn)
      (fun _ _ found => found) fun _ _ impossible => impossible
  apply searched.bind
  intro contacts node found
  obtain ⟨count, few, packable⟩ := found
  obtain ⟨nodes, response, fitted, trimmed, carries⟩ :=
    samples_carry limits identity (isKeys ▸ digits) lengths bounded few packable
  rw [← count]
  have packing : fitNodes env [(ascii "id", .bytes seen.nodeId), (ascii "interval", .int 300),
      (ascii "num", .int keys.length), (ascii "samples", .bytes samples.flatten)] [] contacts =
        .ok nodes := fitted
  rw [packing]
  have sent : Ensures (fun _ => True) (Effects.raise (trimSamples env (samples.length + 1)
        (sampleResponse seen.nodeId 300 keys.length samples.flatten nodes) samples))
      (fun response (_ : DHTNode) => Carries response
        (Offer.samples keys.length samples.length contacts.length).kept) (fun _ _ => False) := by
    rw [trimmed]
    exact fun _ _ => carries
  exact sent node trivial

end samples

end DHTNode

end PyDht
