import PyDht.BencodeEncode
import PyDht.KrpcResponses
import PyDht.RoutingUpkeep

set_option autoImplicit false

namespace PyDht

open Effects (Ensures Preserves Total Raising)
open Bencode (ValueFault)

/-- A number that `str` converts, whatever its sign. -/
def Short (number : Int) : Prop := number.natAbs < 10 ^ 20

/-- The exceptions that `_handle_query` answers with an error message. -/
def Answerable : PyError → Prop
  | .krpcError code _ => Short code
  | fault => fault.isValueOrTypeError = true

theorem Answerable.of_value {fault : PyError} (isValue : ValueFault fault) : Answerable fault := by
  cases fault <;> first | rfl | cases isValue

theorem Raises.answerable {α : Type} {outcome : Except PyError α}
    (raises : Raises ValueFault outcome) : Raises Answerable outcome :=
  raises.mono fun _ => Answerable.of_value

theorem ipAddress_raises (ip : String) : Raises ValueFault (ipAddress ip) := by
  unfold ipAddress
  split
  · exact Raises.ok _
  · exact Raises.error rfl

theorem compactPeer_raises (endpoint : Endpoint) : Raises ValueFault (compactPeer endpoint) := by
  apply (ipAddress_raises endpoint.1).bind
  intro address _
  split
  · split
    · exact Raises.pure _
    · exact Raises.error rfl
  · exact Raises.error rfl

theorem compactNode_raises (nodeId : Bytes) (endpoint : Endpoint) :
    Raises ValueFault (compactNode nodeId endpoint) := by
  unfold compactNode
  split
  · exact Raises.error rfl
  · exact (compactPeer_raises endpoint).bind fun _ _ => Raises.pure _

theorem require20_raises (args : Message) (key : String) : Raises ValueFault (require20 args key) := by
  unfold require20
  split
  · exact Raises.ok _
  · exact Raises.error rfl

theorem validateWant_raises (value : Option Value) : Raises ValueFault (validateWant value) := by
  unfold validateWant
  split
  · exact Raises.ok _
  · split
    · exact Raises.ok _
    · exact Raises.error rfl
  · exact Raises.error rfl

theorem RoutingTable.closest_raises (config : Config) (table : RoutingTable) (now : Int)
    (target : Bytes) (limit : Nat) (goodOnly : Bool) :
    Raises ValueFault (table.closest config now target limit goodOnly) := by
  have keyed : ∀ contacts : List Contact, Raises ValueFault (contacts.mapM fun contact => do
      return (← xorDistance contact.nodeId target, contact)) := by
    intro contacts
    induction contacts with
    | nil => exact Raises.ok _
    | cons contact rest ih =>
        have here : Raises ValueFault (xorDistance contact.nodeId target) := by
          unfold xorDistance
          split
          · exact Raises.error rfl
          · exact Raises.ok _
        rw [List.mapM_cons]
        exact (here.bind fun _ _ => Raises.pure _).bind fun _ _ => ih.bind fun _ _ => Raises.pure _
  exact (keyed _).bind fun _ _ => Raises.pure _

namespace TokenManager

/-- With an interval that is not zero the rotation never raises. -/
theorem rotateIfDue_raises {env : Environment}
    (interval : nanoseconds env.config.dhtTokenRotationInterval ≠ 0) (now : Int)
    (tokens : TokenManager) : Raises ValueFault (rotateIfDue env now tokens) := by
  unfold rotateIfDue
  dsimp only
  split
  · exact Raises.ok _
  · split
    · exact Raises.ok _
    · exact Raises.ok _

theorem derive_raises (env : Environment) (secret : Bytes) (ip : String) :
    Raises ValueFault (derive env secret ip) :=
  (ipAddress_raises ip).bind fun _ _ => Raises.pure _

theorem accepts_raises (env : Environment) (now created : Int) (secret : Bytes) (ip : String)
    (token : Bytes) : Raises ValueFault (accepts env now created secret ip token) := by
  unfold accepts
  split
  · exact (derive_raises env secret ip).bind fun _ _ => Raises.pure _
  · exact Raises.ok _

theorem issue_raising {env : Environment}
    (interval : nanoseconds env.config.dhtTokenRotationInterval ≠ 0) (now : Int) (ip : String) :
    Raising ValueFault (issue env now ip) := by
  apply Raising.get
  intro tokens
  apply (Raising.raise (rotateIfDue_raises interval now tokens)).bind
  intro rotated
  apply (Raising.set rotated).bind
  intro _
  apply Raising.get
  intro current
  exact Raising.raise (derive_raises env current.current ip)

theorem validate_raising {env : Environment}
    (interval : nanoseconds env.config.dhtTokenRotationInterval ≠ 0) (due now : Int) (ip : String)
    (token : Bytes) : Raising ValueFault (validate env due now ip token) := by
  apply Raising.get
  intro tokens
  apply (Raising.raise (rotateIfDue_raises interval due tokens)).bind
  intro rotated
  apply (Raising.set rotated).bind
  intro _
  apply Raising.get
  intro current
  apply (Raising.raise (accepts_raises env now _ current.current ip token)).bind
  intro fresh
  split
  · exact Raising.pure true
  · exact Raising.raise (accepts_raises env now _ current.previous ip token)

end TokenManager

/-- With room for one key and no negative number of peers an announcement is always stored. -/
theorem PeerStore.add_total {config : Config} (keys : 1 ≤ config.dhtPeerStoreMaxInfohashes)
    (peers : 0 ≤ config.dhtPeerStoreMaxPeersPerHash) (now stamp : Int) (key : Bytes)
    (endpoint : Endpoint) : Total (PeerStore.add config now stamp key endpoint) := by
  apply (Total.modify (prune config now)).bind
  intro _
  apply Total.bind
  · apply Raising.get
    intro peerStore
    apply Raising.when
    intro full
    cases shape : peerStore.store with
    | nil =>
        simp only [shape, List.length_nil, Bool.and_eq_true, decide_eq_true_eq] at full
        omega
    | cons oldest newer => exact Raising.set _
  · intro _
    apply (Total.modify _).bind
    intro _
    have enough : decide (0 ≤ config.dhtPeerStoreMaxPeersPerHash) = true := by simpa using peers
    rw [enough]
    exact Total.pure ()

namespace DHTNode

theorem trialLength_raises (env : Environment) (response : Message) :
    Raises ValueFault (trialLength env response) :=
  (Bencode.encode_raises _).bind fun _ _ => Raises.pure _

theorem compactContacts_raises (contacts : List Contact) :
    Raises ValueFault (compactContacts contacts) := by
  induction contacts with
  | nil => exact Raises.ok _
  | cons contact rest ih =>
      exact (compactNode_raises _ _).bind fun _ _ => ih.bind fun _ _ => Raises.pure _

theorem fitNodes_raises (env : Environment) (response : Message) (nodes : Bytes)
    (contacts : List Contact) : Raises ValueFault (fitNodes env response nodes contacts) := by
  induction contacts generalizing nodes with
  | nil => exact Raises.ok _
  | cons contact rest ih =>
      apply (compactNode_raises _ _).bind
      intro packed _
      apply (trialLength_raises env _).bind
      intro size _
      split
      · exact Raises.pure _
      · exact ih _

theorem fitValues_raises (env : Environment) (localIps : List String) (response : Message)
    (values : List Value) (peers : List Endpoint) :
    Raises ValueFault (fitValues env localIps response values peers) := by
  induction peers generalizing values with
  | nil => exact Raises.ok _
  | cons peer rest ih =>
      unfold fitValues
      split
      · exact ih values
      · apply (compactPeer_raises peer).bind
        intro packed _
        apply (trialLength_raises env _).bind
        intro size _
        split
        · exact Raises.pure _
        · exact ih _

theorem trimSamples_raises (env : Environment) (rounds : Nat) (response : Message)
    (samples : List Bytes) : Raises ValueFault (trimSamples env rounds response samples) := by
  induction rounds generalizing response samples with
  | zero => exact Raises.ok _
  | succ rounds ih =>
      apply (trialLength_raises env response).bind
      intro size _
      split
      · exact ih _ _
      · exact Raises.pure _

theorem announcePort_raises (args : Message) : Raises ValueFault (announcePort args) := by
  unfold announcePort
  split
  · split
    · exact Raises.ok _
    · exact Raises.error rfl
  · exact Raises.error rfl

theorem announceImplied_raises (args : Message) : Raises ValueFault (announceImplied args) := by
  unfold announceImplied
  split
  · exact Raises.ok _
  · exact Raises.ok _
  · exact Raises.error rfl

theorem chooseSamples_raises (env : Environment) (tick : Nat) (keys : List Bytes) :
    Raises ValueFault (chooseSamples env tick keys) := by
  unfold chooseSamples
  dsimp only
  split
  · exact Raises.error rfl
  · split
    · exact Raises.ok _
    · exact Raises.ok _

/-- A computation inside a program that only `except ValueError` has to do with. -/
theorem raise_answerable {σ α : Type} {outcome : Except PyError α}
    (raises : Raises ValueFault outcome) :
    Raising Answerable (Effects.raise outcome : EStateM PyError σ α) :=
  Raising.raise raises.answerable

theorem closestGood_raising (env : Environment) (target : Bytes) :
    Raising Answerable (closestGood env target) := by
  apply (monotonicNs_total env).raising.bind
  intro now
  apply Raising.get
  intro node
  exact raise_answerable (RoutingTable.closest_raises env.config node.routing now target DHT_K true)

section replies

variable {env : Environment} (limits : env.config.DefaultLimits)
include limits

theorem interval_ne_zero : nanoseconds env.config.dhtTokenRotationInterval ≠ 0 := by
  rw [limits]
  show nanoseconds 300 ≠ 0
  decide

theorem incomingGetPeers_raising (args : Message) (endpoint : Endpoint) :
    Raising Answerable (incomingGetPeers env args endpoint) := by
  apply (raise_answerable (require20_raises args "info_hash")).bind
  intro key
  apply (raise_answerable (validateWant_raises _)).bind
  intro _
  apply (submit_total env key "get_peers" none).raising.bind
  intro _
  apply (emit_total _).raising.bind
  intro _
  apply (monotonicNs_total env).raising.bind
  intro issuedNs
  apply (Raising.zoom ((TokenManager.issue_raising (interval_ne_zero limits) issuedNs
    endpoint.1).mono fun _ => Answerable.of_value)).bind
  intro token
  apply Raising.get
  intro node
  apply (monotonicNs_total env).raising.bind
  intro now
  apply (Raising.zoom fun _ _ => trivial).bind
  intro peers
  split
  · apply (closestGood_raising env key).bind
    intro contacts
    exact (raise_answerable (fitNodes_raises env _ _ contacts)).bind fun _ => Raising.pure _
  · exact (raise_answerable (fitValues_raises env _ _ _ peers)).bind fun _ => Raising.pure _

theorem tokenValid_raising (ip : String) (token : Option Bytes) :
    Raising Answerable (tokenValid env ip token) := by
  unfold tokenValid
  split
  · exact Raising.pure false
  · apply (monotonicNs_total env).raising.bind
    intro due
    apply (monotonicNs_total env).raising.bind
    intro now
    exact Raising.zoom ((TokenManager.validate_raising (interval_ne_zero limits) due now ip
      _).mono fun _ => Answerable.of_value)

theorem storePeer_total (key : Bytes) (peer : Endpoint) (implied : Bool) :
    Total (storePeer env key peer implied) := by
  have keys : 1 ≤ env.config.dhtPeerStoreMaxInfohashes := by
    rw [limits]
    show (1 : Int) ≤ 10000
    decide
  have peers : 0 ≤ env.config.dhtPeerStoreMaxPeersPerHash := by
    rw [limits]
    show (0 : Int) ≤ 50
    decide
  apply (monotonicNs_total env).bind
  intro now
  apply (monotonicNs_total env).bind
  intro stamp
  apply Total.bind (Raising.zoom (PeerStore.add_total keys peers now stamp key peer))
  intro _
  exact submit_total env key _ _

theorem incomingAnnouncePeer_raising (args : Message) (endpoint : Endpoint) (msg : Message) :
    Raising Answerable (incomingAnnouncePeer env args endpoint msg) := by
  apply (raise_answerable (require20_raises args "info_hash")).bind
  intro key
  apply (raise_answerable (announcePort_raises args)).bind
  intro portArgument
  apply (raise_answerable (announceImplied_raises args)).bind
  intro implied
  apply (tokenValid_raising limits endpoint.1 _).bind
  intro valid
  apply (emit_total _).raising.bind
  intro _
  have badToken : Answerable (.krpcError 203 "Bad token") := by
    show (203 : Int).natAbs < 10 ^ 20
    decide
  apply (Raising.check badToken).bind
  intro _
  apply Raising.get
  intro node
  apply (Raising.when fun _ => (storePeer_total limits key _ implied).raising).bind
  intro _
  exact Raising.pure _

omit limits in
theorem currentSamples_raising (keys : List Bytes) :
    Raising Answerable (currentSamples env keys) := by
  apply (monotonicNs_total env).raising.bind
  intro now
  apply Raising.get
  intro node
  split
  · exact Raising.pure _
  · apply (raise_answerable (chooseSamples_raises env node.ticks keys)).bind
    intro sampled
    exact (Raising.set _).bind fun _ => Raising.pure sampled

omit limits in
theorem incomingSampleInfohashes_raising (args : Message) :
    Raising Answerable (incomingSampleInfohashes env args) := by
  apply (raise_answerable (require20_raises args "target")).bind
  intro target
  apply (monotonicNs_total env).raising.bind
  intro listed
  apply (Raising.zoom fun _ _ => trivial).bind
  intro keys
  apply (currentSamples_raising keys).bind
  intro samples
  apply Raising.get
  intro node
  apply (closestGood_raising env target).bind
  intro contacts
  apply (raise_answerable (fitNodes_raises env _ _ contacts)).bind
  intro nodes
  exact raise_answerable (trimSamples_raises env _ _ samples)

/-- With the default limits a query only fails in ways that are answered with an error. -/
theorem reply_raising (method : Bytes) (args : Message) (endpoint : Endpoint) (msg : Message) :
    Raising Answerable (reply env method args endpoint msg) := by
  apply Raising.get
  intro node
  split
  · exact Raising.pure _
  · split
    · apply (raise_answerable (require20_raises args "target")).bind
      intro target
      apply Raising.bind
      · apply (closestGood_raising env target).bind
        intro contacts
        exact raise_answerable (compactContacts_raises contacts)
      · intro nodes
        exact Raising.pure _
    · split
      · exact (incomingGetPeers_raising limits args endpoint).bind fun _ => Raising.pure _
      · split
        · exact (incomingAnnouncePeer_raising limits args endpoint msg).bind fun _ =>
            Raising.pure _
        · split
          · exact (incomingSampleInfohashes_raising args).bind fun _ => Raising.pure _
          · exact Raising.pure _

end replies

end DHTNode

end PyDht
