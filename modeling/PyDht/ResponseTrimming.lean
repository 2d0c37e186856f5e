import PyDht.ResponseLengths

set_option autoImplicit false

namespace PyDht

namespace DHTNode

variable {env : Environment} {response : Message}

/-- A response of which only the entries under one key are not there yet. -/
structure Opened (response : Message) (key : String) : Prop where
  fresh : ascii key ∉ Dict.keys response
  distinct : (Value.dict response).Distinct
  converts : Bencode.Converts (.dict response)
  shortKey : Bencode.ShortLength (ascii key)

theorem Opened.set_eq {key : String} (opened : Opened response key) (value : Value) :
    response.set key value = response ++ [(ascii key, value)] := Dict.set_new value opened.fresh

theorem Opened.length {key : String} (opened : Opened response key) (value : Value) :
    (Value.writeEntries (response.set key value)).length =
      (Value.writeEntries response).length + textLength (ascii key).length + value.write.length := by
  rw [opened.set_eq, Value.length_writeEntries_eq, Value.length_writeEntries_eq, List.map_append,
    List.sum_append]
  simp [Nat.add_assoc]

theorem Opened.filled {key : String} (opened : Opened response key) {value : Value}
    (distinct : value.Distinct) (converts : Bencode.Converts value) :
    (Value.dict (response.set key value)).Distinct ∧
      Bencode.Converts (.dict (response.set key value)) := by
  rw [opened.set_eq]
  constructor
  · obtain ⟨nodup, values⟩ := (Value.distinct_dict response).mp opened.distinct
    rw [Value.distinct_dict, List.map_append, List.forall_mem_append]
    refine ⟨?_, values, by simpa using distinct⟩
    exact nodup.append (List.nodup_singleton _) (by simpa [Dict.keys] using opened.fresh)
  · rw [Bencode.converts_dict, List.forall_mem_append]
    refine ⟨(Bencode.converts_dict response).mp opened.converts, ?_⟩
    simpa using ⟨opened.shortKey, converts⟩

/-- The length of a response with so many packed contacts behind entries of the given length. -/
def withNodes (tid before nodes : Nat) : Nat :=
  responseLength tid (before + (7 + textLength (26 * nodes)))

theorem withNodes_mono (tid before : Nat) : Monotone (withNodes tid before) := by
  intro smaller larger below
  have grows := textLength_mono (show 26 * smaller ≤ 26 * larger by omega)
  exact responseLength_mono tid (by omega)

/-- The length of a response with so many packed peers behind entries of the given length. -/
def withValues (tid before values : Nat) : Nat := responseLength tid (before + (10 + 8 * values))

theorem withValues_mono (tid before : Nat) : Monotone (withValues tid before) := by
  intro smaller larger below
  exact responseLength_mono tid (by omega)

/-- The contact can be packed. -/
def Packable (contact : Contact) : Prop :=
  ∃ packed, compactNode contact.nodeId (contact.ip, contact.port) = .ok packed ∧
    packed.length = 26

theorem Opened.nodes_length (opened : Opened response "nodes") (tid : Nat) {nodes : Bytes}
    {count : Nat} (length : nodes.length = 26 * count) :
    responseLength tid (Value.writeEntries (response.set "nodes" (.bytes nodes))).length =
      withNodes tid (Value.writeEntries response).length count := by
  rw [opened.length, Value.length_write_bytes, length, show textLength (ascii "nodes").length = 7
    by decide, withNodes, Nat.add_assoc]

theorem fitNodes_step {contact : Contact} {contacts : List Contact} {nodes packed : Bytes}
    {size : Nat} (isPacked : compactNode contact.nodeId (contact.ip, contact.port) = .ok packed)
    (measured : trialLength env (response.set "nodes" (.bytes (nodes ++ packed))) = .ok size) :
    fitNodes env response nodes (contact :: contacts) =
      if size ≤ MAX_DHT_RESPONSE_BYTES then fitNodes env response (nodes ++ packed) contacts
      else .ok nodes := by
  rw [fitNodes, isPacked]
  simp only [bind, Except.bind, measured]
  by_cases fit : size ≤ MAX_DHT_RESPONSE_BYTES
  · rw [if_pos fit, if_neg (by omega)]
  · rw [if_neg fit, if_pos (by omega)]
    rfl

/-- The loop over the contacts takes them as long as the response fits with an ID of two bytes. -/
theorem fitNodes_takes (limits : env.config.DefaultLimits) (opened : Opened response "nodes")
    {contacts : List Contact} (packable : ∀ contact ∈ contacts, Packable contact)
    {nodes : Bytes} {done : Nat} (length : nodes.length = 26 * done)
    (few : 26 * (done + contacts.length) < 10 ^ 20) :
    ∃ raw, fitNodes env response nodes contacts = .ok raw ∧
      raw.length = 26 * Greedy.taken (withNodes 2 (Value.writeEntries response).length)
        MAX_DHT_RESPONSE_BYTES done contacts.length := by
  induction contacts generalizing nodes done with
  | nil => exact ⟨nodes, rfl, length⟩
  | cons contact contacts ih =>
      obtain ⟨packed, isPacked, size⟩ := packable contact (by simp)
      have longer : (nodes ++ packed).length = 26 * (done + 1) := by
        rw [List.length_append]
        omega
      rw [List.length_cons] at few ⊢
      have short : Bencode.ShortLength (nodes ++ packed) :=
        Bencode.shortLength_of_lt (by omega)
      have measured : trialLength env (response.set "nodes" (.bytes (nodes ++ packed))) =
          .ok (withNodes 2 (Value.writeEntries response).length (done + 1)) := by
        obtain ⟨separate, sound⟩ := opened.filled (Value.distinct_bytes (nodes ++ packed))
          ((Bencode.converts_bytes _).mpr short)
        rw [trialLength_eq limits separate sound, opened.nodes_length 2 longer]
      rw [fitNodes_step isPacked measured]
      by_cases fit : withNodes 2 (Value.writeEntries response).length (done + 1) ≤
          MAX_DHT_RESPONSE_BYTES
      · obtain ⟨raw, taken, count⟩ := ih (fun other member =>
          packable other (List.mem_cons_of_mem _ member)) longer (by omega)
        refine ⟨raw, (if_pos fit).trans taken, ?_⟩
        rw [Greedy.taken_step fit]
        exact count
      · refine ⟨nodes, if_neg fit, ?_⟩
        rw [Greedy.taken_stop fit]
        exact length

/-- Packed peers, so many of them. -/
def Packed (values : List Value) (count : Nat) : Prop :=
  values.length = count ∧ ∀ value ∈ values, ∃ text, value = .bytes text ∧ text.length = 6

theorem Packed.concat {values : List Value} {count : Nat} (packed : Packed values count)
    {text : Bytes} (length : text.length = 6) :
    Packed (values ++ [.bytes text]) (count + 1) := by
  refine ⟨by rw [List.length_append, packed.1, List.length_singleton], ?_⟩
  rw [List.forall_mem_append, List.forall_mem_singleton]
  exact ⟨packed.2, text, rfl, length⟩

theorem Packed.length {values : List Value} {count : Nat} (packed : Packed values count) :
    (Value.write (.list values)).length = 8 * count + 2 := by
  have each : ∀ value ∈ values, value.write.length = 8 := by
    intro value member
    obtain ⟨text, rfl, length⟩ := packed.2 value member
    rw [Value.length_write_bytes, length]
    decide
  have total : (values.map fun value => value.write.length).sum = 8 * count := by
    rw [List.map_congr_left each, List.map_const', List.sum_replicate_nat, packed.1, Nat.mul_comm]
  simp [Value.write, Value.length_writeItems_eq, total]

theorem Packed.encodable {values : List Value} {count : Nat} (packed : Packed values count) :
    (Value.list values).Distinct ∧ Bencode.Converts (.list values) := by
  rw [Value.distinct_list, Bencode.converts_list]
  constructor
  · intro value member
    obtain ⟨text, rfl, _⟩ := packed.2 value member
    exact Value.distinct_bytes text
  · intro value member
    obtain ⟨text, rfl, length⟩ := packed.2 value member
    exact (Bencode.converts_bytes text).mpr (Bencode.shortLength_of_lt (by omega))

theorem Opened.values_length (opened : Opened response "values") (tid : Nat) {values : List Value}
    {count : Nat} (packed : Packed values count) :
    responseLength tid (Value.writeEntries (response.set "values" (.list values))).length =
      withValues tid (Value.writeEntries response).length count := by
  rw [opened.length, packed.length, show textLength (ascii "values").length = 8 by decide,
    withValues]
  congr 1
  omega

theorem compactPeer_allowed {config : Config} {localIps : List String} {peer : Endpoint}
    (allowed : endpointAllowed config localIps peer.1 peer.2 = true) :
    ∃ text, compactPeer peer = .ok text ∧ text.length = 6 := by
  obtain ⟨low, high, first, second, third, fourth, address⟩ := endpointAllowed_v4 allowed
  refine ⟨[first, second, third, fourth] ++ packUInt16 peer.2.toNat, ?_, rfl⟩
  unfold compactPeer
  rw [address]
  exact if_pos ⟨low, high⟩

theorem fitValues_step {localIps : List String} {peer : Endpoint} {peers : List Endpoint}
    {values : List Value} {text : Bytes} {size : Nat}
    (allowed : endpointAllowed env.config localIps peer.1 peer.2 = true)
    (isText : compactPeer peer = .ok text)
    (measured : trialLength env (response.set "values" (.list (values ++ [.bytes text]))) =
      .ok size) :
    fitValues env localIps response values (peer :: peers) =
      if size ≤ MAX_DHT_RESPONSE_BYTES then
        fitValues env localIps response (values ++ [.bytes text]) peers
      else .ok values := by
  rw [fitValues, allowed, isText]
  simp only [bind, Except.bind, measured, Bool.not_true, Bool.false_eq_true, if_false]
  by_cases fit : size ≤ MAX_DHT_RESPONSE_BYTES
  · rw [if_pos fit, if_neg (by omega)]
  · rw [if_neg fit, if_pos (by omega)]
    rfl

/-- How many of the peers the node may tell of. -/
def allowedPeers (config : Config) (localIps : List String) (peers : List Endpoint) : Nat :=
  peers.countP fun peer => endpointAllowed config localIps peer.1 peer.2

/-- The loop over the peers takes those that are allowed, as long as the response fits. -/
theorem fitValues_takes (limits : env.config.DefaultLimits) (opened : Opened response "values")
    (localIps : List String) (peers : List Endpoint) {values : List Value} {done : Nat}
    (packed : Packed values done) :
    ∃ found, fitValues env localIps response values peers = .ok found ∧
      Packed found (Greedy.taken (withValues 2 (Value.writeEntries response).length)
        MAX_DHT_RESPONSE_BYTES done (allowedPeers env.config localIps peers)) := by
  induction peers generalizing values done with
  | nil => exact ⟨values, rfl, packed⟩
  | cons peer peers ih =>
      by_cases allowed : endpointAllowed env.config localIps peer.1 peer.2 = true
      · obtain ⟨text, isText, length⟩ := compactPeer_allowed allowed
        have more := packed.concat length
        have measured : trialLength env (response.set "values" (.list (values ++ [.bytes text]))) =
            .ok (withValues 2 (Value.writeEntries response).length (done + 1)) := by
          obtain ⟨distinct, converts⟩ := more.encodable
          obtain ⟨separate, sound⟩ := opened.filled distinct converts
          rw [trialLength_eq limits separate sound, opened.values_length 2 more]
        have counted : allowedPeers env.config localIps (peer :: peers) =
            allowedPeers env.config localIps peers + 1 := List.countP_cons_of_pos allowed
        rw [counted, fitValues_step allowed isText measured]
        by_cases fit : withValues 2 (Value.writeEntries response).length (done + 1) ≤
            MAX_DHT_RESPONSE_BYTES
        · obtain ⟨found, taken, count⟩ := ih more
          refine ⟨found, (if_pos fit).trans taken, ?_⟩
          rw [Greedy.taken_step fit]
          exact count
        · refine ⟨values, if_neg fit, ?_⟩
          rw [Greedy.taken_stop fit]
          exact packed
      · have counted : allowedPeers env.config localIps (peer :: peers) =
            allowedPeers env.config localIps peers := List.countP_cons_of_neg allowed
        simp only [Bool.not_eq_true] at allowed
        rw [counted, fitValues, allowed]
        exact ih packed

/-- The response to a request for samples, as far as the contacts. -/
def sampleHead (nodeId : Bytes) (interval : Int) (held : Nat) (samples : Bytes) : Message :=
  [(ascii "id", .bytes nodeId), (ascii "interval", .int interval), (ascii "num", .int held),
    (ascii "samples", .bytes samples)]

def sampleResponse (nodeId : Bytes) (interval : Int) (held : Nat) (samples nodes : Bytes) :
    Message :=
  (sampleHead nodeId interval held samples).set "nodes" (.bytes nodes)

/-- The length of such a response to a query with an ID of the given length, where the interval
has three digits and so many keys are held. -/
def withSamples (tid held samples nodes : Nat) : Nat :=
  responseLength tid (65 + (Decimal.write held).length + textLength (20 * samples) +
    textLength (26 * nodes))

theorem withSamples_samples_mono (tid held nodes : Nat) :
    Monotone fun samples => withSamples tid held samples nodes := by
  intro smaller larger below
  have grows := textLength_mono (show 20 * smaller ≤ 20 * larger by omega)
  exact responseLength_mono tid (by omega)

theorem withSamples_nodes_mono (tid held samples : Nat) :
    Monotone (withSamples tid held samples) := by
  intro smaller larger below
  have grows := textLength_mono (show 26 * smaller ≤ 26 * larger by omega)
  exact responseLength_mono tid (by omega)

section samples

variable {nodeId samples nodes : Bytes} {held : Nat}

theorem sampleResponse_set (interval : Int) (fewer : Bytes) :
    (sampleResponse nodeId interval held samples nodes).set "samples" (.bytes fewer) =
      sampleResponse nodeId interval held fewer nodes := rfl

theorem sampleHead_length (length : nodeId.length = 20) {count : Nat}
    (sampled : samples.length = 20 * count) :
    (Value.writeEntries (sampleHead nodeId 300 held samples)).length =
      58 + (Decimal.write held).length + textLength (20 * count) := by
  have number : (Value.write (.int (held : Int))).length = (Decimal.write held).length + 2 := by
    rw [Value.write, Decimal.writeInt, if_neg (by omega)]
    simp
  have fixed : textLength (ascii "id").length = 4 ∧ textLength (ascii "interval").length = 10 ∧
      textLength (ascii "num").length = 5 ∧ textLength (ascii "samples").length = 9 ∧
      textLength 20 = 23 ∧ (Value.write (.int 300)).length = 5 := by decide
  obtain ⟨name, interval, num, sample, identity, seconds⟩ := fixed
  rw [Value.length_writeEntries_eq]
  simp only [sampleHead, List.map_cons, List.map_nil, List.sum_cons, List.sum_nil,
    Value.length_write_bytes, length, sampled, number, name, interval, num, sample, identity,
    seconds]
  omega

theorem sampleHead_opened (length : nodeId.length = 20)
    (digits : (Decimal.write held).length ≤ Bencode.maxStrDigits)
    (sampled : Bencode.ShortLength samples) :
    Opened (sampleHead nodeId 300 held samples) "nodes" := by
  have short : ∀ text : Bytes, text.length < 100 → Bencode.ShortLength text :=
    fun text small => Bencode.shortLength_of_lt (by omega)
  have number : Bencode.Converts (.int (held : Int)) :=
    (Value.all_int _ _).mpr ⟨digits, by simp [Value.texts, Value.keys]⟩
  have fresh : ascii "nodes" ∉ [ascii "id", ascii "interval", ascii "num", ascii "samples"] := by
    decide
  refine ⟨fresh, ?_, ?_, short _ (by decide)⟩
  · rw [Value.distinct_dict]
    simp only [sampleHead, List.forall_mem_cons, List.map_cons, List.map_nil]
    exact ⟨by decide, Value.distinct_bytes _, Value.distinct_int _, Value.distinct_int _,
      Value.distinct_bytes _, by simp⟩
  · simp only [sampleHead, Bencode.converts_dict, List.forall_mem_cons, Bencode.converts_bytes]
    exact ⟨⟨short _ (by decide), short _ (by omega)⟩,
      ⟨short _ (by decide), Bencode.converts_int (by decide)⟩, ⟨short _ (by decide), number⟩,
      ⟨short _ (by decide), sampled⟩, by simp⟩

theorem sampleResponse_length (tid : Nat) (length : nodeId.length = 20)
    (digits : (Decimal.write held).length ≤ Bencode.maxStrDigits)
    (fine : Bencode.ShortLength samples) {count added : Nat}
    (sampled : samples.length = 20 * count) (told : nodes.length = 26 * added) :
    responseLength tid
        (Value.writeEntries (sampleResponse nodeId 300 held samples nodes)).length =
      withSamples tid held count added := by
  have opened := @sampleHead_opened nodeId samples held length digits fine
  rw [sampleResponse, opened.nodes_length tid told, sampleHead_length length sampled, withNodes,
    withSamples]
  congr 1
  omega

end samples

theorem flatten_length {samples : List Bytes} (keys : ∀ key ∈ samples, key.length = 20) :
    samples.flatten.length = 20 * samples.length := by
  rw [List.length_flatten, List.map_congr_left keys, List.map_const', List.sum_replicate_nat,
    Nat.mul_comm]

/-- The last loop keeps as many samples as fit with an ID of two bytes. -/
theorem trimSamples_keeps (limits : env.config.DefaultLimits) {nodeId nodes : Bytes}
    {held added rounds : Nat} (identity : nodeId.length = 20)
    (digits : (Decimal.write held).length ≤ Bencode.maxStrDigits)
    (told : nodes.length = 26 * added) (short : Bencode.ShortLength nodes) {samples : List Bytes}
    (keys : ∀ key ∈ samples, key.length = 20) (few : 20 * samples.length < 10 ^ 20)
    (enough : samples.length < rounds) :
    ∃ kept : Bytes, kept.length = 20 * Greedy.most (fun count => withSamples 2 held count added)
        MAX_DHT_RESPONSE_BYTES samples.length ∧
      trimSamples env rounds (sampleResponse nodeId 300 held samples.flatten nodes) samples =
        .ok (sampleResponse nodeId 300 held kept nodes) := by
  induction rounds generalizing samples with
  | zero => omega
  | succ rounds ih =>
      have whole := flatten_length keys
      have measured : trialLength env (sampleResponse nodeId 300 held samples.flatten nodes) =
          .ok (withSamples 2 held samples.length added) := by
        have fine : Bencode.ShortLength samples.flatten := Bencode.shortLength_of_lt (by omega)
        obtain ⟨separate, sound⟩ := (sampleHead_opened identity digits fine).filled
          (Value.distinct_bytes nodes) ((Bencode.converts_bytes nodes).mpr short)
        rw [sampleResponse, trialLength_eq limits separate sound]
        exact congrArg Except.ok (sampleResponse_length 2 identity digits fine whole told)
      rw [trimSamples, measured]
      by_cases fit : withSamples 2 held samples.length added ≤ MAX_DHT_RESPONSE_BYTES
      · refine ⟨samples.flatten, ?_, if_neg (by omega)⟩
        have every : Greedy.most (fun count => withSamples 2 held count added)
            MAX_DHT_RESPONSE_BYTES samples.length = samples.length := Greedy.most_all fit
        rw [every]
        exact whole
      · by_cases none : samples = []
        · refine ⟨[], by simp [none, Greedy.most], ?_⟩
          rw [none]
          exact if_neg (by simp)
        · obtain ⟨count, length⟩ := Nat.exists_eq_succ_of_ne_zero
            (fun zero => none (List.length_eq_zero_iff.mp zero))
          have fewer : samples.dropLast.length = count := by
            rw [List.length_dropLast, length]
            rfl
          obtain ⟨kept, sized, trimmed⟩ := @ih samples.dropLast
            (fun key member => keys key (List.mem_of_mem_dropLast member)) (by omega) (by omega)
          refine ⟨kept, ?_, (if_pos ⟨by omega, none⟩).trans trimmed⟩
          rw [sized, fewer, length]
          rw [length] at fit
          exact congrArg (20 * ·) (Greedy.most_less fit).symm

end DHTNode

end PyDht
