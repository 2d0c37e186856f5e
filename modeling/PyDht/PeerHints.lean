import PyDht.NodeRuns

set_option autoImplicit false

namespace PyDht

open Effects (Ensures Preserves)

namespace CandidateManager

/-- All hints that are stored may be dialed. -/
def Allowed (config : Config) (localIps : List String) (manager : CandidateManager) : Prop :=
  ∀ entry ∈ manager.states, ∀ hint ∈ entry.2.peerHints,
    endpointAllowed config localIps hint.ip hint.port = true

variable {config : Config} {localIps : List String} {manager : CandidateManager}

theorem mem_merge {wall : Int} {source : String} {peerHint : Option PeerHint}
    {state : CandidateState} {hint : PeerHint}
    (member : hint ∈ (state.merge config wall source peerHint).peerHints) :
    hint ∈ state.peerHints ∨ peerHint = some hint := by
  unfold CandidateState.merge at member
  dsimp only at member
  split at member
  · exact .inl member
  · split at member
    · obtain old | new := List.mem_append.mp member
      · exact .inl old
      · exact .inr (congrArg some (List.mem_singleton.mp new).symm)
    · exact .inl member

/-- A submission adds no hint but its own. -/
theorem Allowed.submit (allowed : manager.Allowed config localIps) {limits : Config}
    (now wall : Int) (key : Bytes) (source : String) {peerHint : Option PeerHint} (retry : Bool)
    (fits : ∀ hint, peerHint = some hint →
      endpointAllowed config localIps hint.ip hint.port = true) :
    (manager.submit limits now wall key source peerHint retry).2.Allowed config localIps := by
  have kept : ∀ {states : List (Bytes × CandidateState)} {state : CandidateState},
      (∀ entry ∈ states, entry ∈ manager.states ∨ entry = (key, state)) →
      (∀ hint ∈ state.peerHints, endpointAllowed config localIps hint.ip hint.port = true) →
      ∀ entry ∈ states, ∀ hint ∈ entry.2.peerHints,
        endpointAllowed config localIps hint.ip hint.port = true := by
    intro states state within sound entry member hint listed
    obtain old | new := within entry member
    · exact allowed entry old hint listed
    · exact sound hint (by rw [new] at listed; exact listed)
  unfold CandidateManager.submit
  split
  · exact allowed
  · dsimp only
    split
    · rename_i state found
      apply kept fun entry member => Dict.mem_of_mem_set member
      intro hint listed
      obtain old | new := mem_merge listed
      · exact allowed (key, state) (Dict.mem_of_get? found) hint old
      · exact fits hint new
    · split
      · exact allowed
      · have own : ∀ hint ∈ peerHint.toList,
            endpointAllowed config localIps hint.ip hint.port = true :=
          fun hint listed => fits hint (Option.mem_toList.mp listed)
        split
        · exact kept (fun entry member => Dict.mem_of_mem_set member) own
        · exact kept (fun entry member => Dict.mem_of_mem_set (Dict.mem_of_mem_pop member)) own

theorem Allowed.finish (allowed : manager.Allowed config localIps) (limits : Config)
    (stamp now : Int) (key : Bytes) (recent : Bool) :
    (manager.finish limits stamp now key recent).Allowed config localIps := by
  have kept : ∀ entry ∈ Dict.pop key manager.states, ∀ hint ∈ entry.2.peerHints,
      endpointAllowed config localIps hint.ip hint.port = true :=
    fun entry member => allowed entry (Dict.mem_of_mem_pop member)
  unfold CandidateManager.finish
  dsimp only
  split
  · exact kept
  · exact kept

theorem Allowed.hintsFor (allowed : manager.Allowed config localIps) {key : Bytes}
    {state : CandidateState} (stored : manager.stateFor key = some state) :
    ∀ hint ∈ state.peerHints, endpointAllowed config localIps hint.ip hint.port = true :=
  allowed (key, state) (Dict.mem_of_get? stored)

end CandidateManager

namespace DHTNode

/-- The hints that the node has stored may be dialed. -/
def Hinted (config : Config) (localIps : List String) (node : DHTNode) : Prop :=
  node.localIps = localIps ∧ node.candidates.Allowed config localIps

section hinted

variable {env : Environment} {localIps : List String}

theorem hinted_idle : Idle (Hinted env.config localIps) where
  ticks _ holds := holds
  emitted _ _ holds := holds

theorem hinted_roaming : Roaming (Hinted env.config localIps) :=
  { hinted_idle.noting with routing := fun _ _ holds => holds }

theorem hinted_unbooked : Unbooked (Hinted env.config localIps) :=
  { hinted_idle.noting with
    pending := fun _ _ holds => holds
    pendingSlots := fun _ _ holds => holds
    txCounter := fun _ _ holds => holds
    connected := fun _ _ holds => holds
    closing := fun _ _ holds => holds }

theorem hinted_outgoing (message : Message) (endpoint : Endpoint) :
    Outgoing (Hinted env.config localIps) message endpoint :=
  fun _ _ holds => holds

theorem submit_hinted (key : Bytes) (source : String) {peerHint : Option PeerHint}
    (fits : ∀ hint, peerHint = some hint →
      endpointAllowed env.config localIps hint.ip hint.port = true) :
    Preserves (Hinted env.config localIps) (submit env key source peerHint) := by
  apply Preserves.bind (hinted_idle.monotonicNs env)
  intro now
  apply Preserves.bind (hinted_idle.noting.timeNs env)
  intro wall
  exact Preserves.modify fun _ holds => ⟨holds.1, holds.2.submit now wall key source false fits⟩

theorem emitSamples_hinted (index : Nat) (keys : List Bytes) :
    Preserves (Hinted env.config localIps) (emitSamples env index keys) := by
  induction keys generalizing index with
  | nil => exact Preserves.pure ()
  | cons key rest ih =>
      apply Preserves.bind (hinted_idle.emit _)
      intro _
      apply Preserves.bind (submit_hinted key "bep51" fun _ none => by cases none)
      intro _
      exact ih (index + 1)

theorem emitResponseEvidence_hinted (msg : Message) (endpoint : Endpoint) (query : Bytes)
    (direction : Direction) :
    Preserves (Hinted env.config localIps)
      (emitResponseEvidence env msg endpoint query direction) := by
  apply Preserves.bind (Preserves.when fun _ => emitSamples_hinted 0 _)
  intro _
  apply Preserves.bind (hinted_idle.emitValues 0 _)
  intro _
  exact hinted_idle.emit _

theorem closestGood_hinted (target : Bytes) :
    Preserves (Hinted env.config localIps) (closestGood env target) :=
  (closestGood_ensures hinted_idle.noting env target).weaken (fun _ holds => holds)
    (fun _ _ holds => holds.1) fun _ _ holds => holds

theorem onTokens_hinted {α : Type} (program : EStateM PyError TokenManager α) :
    Preserves (Hinted env.config localIps) (onTokens program) := by
  unfold onTokens
  apply Preserves.zoom
  intro _ _ holds
  exact holds

theorem onPeerStore_hinted {α : Type} (program : EStateM PyError PeerStore α) :
    Preserves (Hinted env.config localIps) (onPeerStore program) := by
  unfold onPeerStore
  apply Preserves.zoom
  intro _ _ holds
  exact holds

/-- What goes on from the state that was read. -/
theorem get_hinted {α : Type} {rest : DHTNode → Node α}
    (next : ∀ seen, Hinted env.config localIps seen →
      Preserves (Hinted env.config localIps) (rest seen)) :
    Preserves (Hinted env.config localIps) (MonadState.get >>= rest) :=
  Preserves.get fun seen holds => (next seen holds).ensures (fun _ same => same ▸ holds)
    (fun _ _ after => after) fun _ _ after => after

theorem incomingGetPeers_hinted (args : Message) (endpoint : Endpoint) :
    Preserves (Hinted env.config localIps) (incomingGetPeers env args endpoint) := by
  apply Preserves.bind (Preserves.raise _)
  intro key
  apply Preserves.bind (Preserves.raise _)
  intro _
  apply Preserves.bind (submit_hinted key "get_peers" fun _ none => by cases none)
  intro _
  apply Preserves.bind (hinted_idle.emit _)
  intro _
  apply Preserves.bind (hinted_idle.monotonicNs env)
  intro issuedNs
  apply Preserves.bind (onTokens_hinted _)
  intro token
  apply get_hinted
  intro seen _
  apply Preserves.bind (hinted_idle.monotonicNs env)
  intro now
  apply Preserves.bind (onPeerStore_hinted _)
  intro peers
  apply Ensures.ite
  · intro _
    apply Preserves.bind (closestGood_hinted key)
    intro contacts
    exact (Preserves.raise _).bind fun _ => Preserves.pure _
  · intro _
    exact (Preserves.raise _).bind fun _ => Preserves.pure _

theorem tokenValid_hinted (ip : String) (token : Option Bytes) :
    Preserves (Hinted env.config localIps) (tokenValid env ip token) := by
  cases token with
  | none => exact Preserves.pure false
  | some token =>
      apply Preserves.bind (hinted_idle.monotonicNs env)
      intro due
      apply Preserves.bind (hinted_idle.monotonicNs env)
      intro now
      exact onTokens_hinted _

theorem storePeer_hinted (key : Bytes) (peer : Endpoint) (implied : Bool)
    (fits : endpointAllowed env.config localIps peer.1 peer.2 = true) :
    Preserves (Hinted env.config localIps) (storePeer env key peer implied) := by
  apply Preserves.bind (hinted_idle.monotonicNs env)
  intro now
  apply Preserves.bind (hinted_idle.monotonicNs env)
  intro stamp
  apply Preserves.bind (onPeerStore_hinted _)
  intro _
  apply submit_hinted
  intro hint isHint
  obtain rfl := Option.some.inj isHint
  exact fits

/-- Only an endpoint that is allowed becomes a hint. -/
theorem incomingAnnouncePeer_hinted (args : Message) (endpoint : Endpoint) (msg : Message) :
    Preserves (Hinted env.config localIps) (incomingAnnouncePeer env args endpoint msg) := by
  apply Preserves.bind (Preserves.raise _)
  intro key
  apply Preserves.bind (Preserves.raise _)
  intro portArgument
  apply Preserves.bind (Preserves.raise _)
  intro implied
  apply Preserves.bind (tokenValid_hinted _ _)
  intro valid
  apply Preserves.bind (hinted_idle.emit _)
  intro _
  apply Preserves.bind (Preserves.check _ _)
  intro _
  apply get_hinted
  intro seen holds
  apply Preserves.bind
  · apply Preserves.when
    intro fits
    rw [holds.1] at fits
    exact storePeer_hinted key _ implied fits
  · intro _
    exact Preserves.pure _

theorem currentSamples_hinted (keys : List Bytes) :
    Preserves (Hinted env.config localIps) (currentSamples env keys) := by
  apply Preserves.bind (hinted_idle.monotonicNs env)
  intro now
  apply Preserves.get
  intro node holds
  split
  · apply Ensures.pure
    intro state same
    exact same ▸ holds
  · apply Ensures.raiseBind _ fun _ _ state same => same ▸ holds
    intro sampled _
    apply Ensures.setBind
    intro _
    apply Ensures.pure
    intro state same
    exact same ▸ holds

theorem incomingSampleInfohashes_hinted (args : Message) :
    Preserves (Hinted env.config localIps) (incomingSampleInfohashes env args) := by
  apply Preserves.bind (Preserves.raise _)
  intro target
  apply Preserves.bind (hinted_idle.monotonicNs env)
  intro listed
  apply Preserves.bind (onPeerStore_hinted _)
  intro keys
  apply Preserves.bind (currentSamples_hinted keys)
  intro samples
  apply get_hinted
  intro seen _
  apply Preserves.bind (closestGood_hinted target)
  intro contacts
  apply Preserves.bind (Preserves.raise _)
  intro nodes
  exact Preserves.raise _

theorem reply_hinted (method : Bytes) (args : Message) (endpoint : Endpoint) (msg : Message) :
    Preserves (Hinted env.config localIps) (reply env method args endpoint msg) := by
  apply get_hinted
  intro seen _
  apply Ensures.ite
  · intro _
    exact Preserves.pure _
  intro _
  apply Ensures.ite
  · intro _
    apply Preserves.bind (Preserves.raise _)
    intro target
    apply Preserves.bind
    · exact (closestGood_hinted target).bind fun _ => Preserves.raise _
    · intro _
      exact Preserves.pure _
  intro _
  apply Ensures.ite
  · intro _
    exact (incomingGetPeers_hinted args endpoint).bind fun _ => Preserves.pure _
  intro _
  apply Ensures.ite
  · intro _
    exact (incomingAnnouncePeer_hinted args endpoint msg).bind fun _ => Preserves.pure _
  intro _
  apply Ensures.ite
  · intro _
    exact (incomingSampleInfohashes_hinted args).bind fun _ => Preserves.pure _
  · intro _
    exact Preserves.pure none

theorem sendError_hinted (tid : Bytes) (code : Int) (text : String) (endpoint : Endpoint)
    (associatedQuery : Option Bytes) :
    Preserves (Hinted env.config localIps)
      (sendError env tid code text endpoint associatedQuery) :=
  sendError_preserves hinted_idle.noting (fun message _ => hinted_outgoing message endpoint) env
    tid code text associatedQuery

theorem respond_hinted (tid method : Bytes) (args : Message) (endpoint : Endpoint)
    (msg : Message) :
    Preserves (Hinted env.config localIps) (respond env tid method args endpoint msg) := by
  apply Preserves.bind (reply_hinted method args endpoint msg)
  intro response
  cases response with
  | none =>
      apply Preserves.bind (Preserves.when fun _ => hinted_idle.emit _)
      intro _
      exact sendError_hinted _ _ _ _ _
  | some response =>
      apply Preserves.bind (Preserves.raise _)
      intro payload
      apply Preserves.bind (Preserves.check _ _)
      intro _
      apply Preserves.bind (send_preserves (hinted_outgoing _ endpoint))
      intro _
      exact Preserves.when fun _ => emitResponseEvidence_hinted _ _ _ _

theorem handleQuery_hinted (msg : Message) (endpoint : Endpoint) :
    Preserves (Hinted env.config localIps) (handleQuery env msg endpoint) := by
  unfold handleQuery
  dsimp only
  split
  · split
    · exact sendError_hinted _ _ _ _ _
    · apply Preserves.bind (hinted_roaming.greet env msg endpoint _ _)
      intro _
      apply Preserves.tryCatch (respond_hinted _ _ _ endpoint msg)
      intro fault
      split
      · exact sendError_hinted _ _ _ _ _
      · split
        · exact sendError_hinted _ _ _ _ _
        · exact Preserves.throw fault
  · exact sendError_hinted _ _ _ _ _

/-- The hints stay such that they may be dialed. -/
theorem hinted_lasting : Lasting env (Hinted env.config localIps) where
  toEnduring := hinted_roaming.enduring hinted_unbooked env
    fun message endpoint _ => hinted_outgoing message endpoint
  datagramReceived data source start holds := by
    have keep : ∀ {program : Node Unit}, Preserves (Hinted env.config localIps) program →
        Ensures (· = start) program (fun _ => Hinted env.config localIps)
          (fun _ => Hinted env.config localIps) :=
      fun preserves => preserves.ensures (fun _ same => same ▸ holds)
        (fun _ _ after => after) fun _ _ after => after
    apply datagramReceived_rule hinted_idle.noting env data source start holds
    · intro msg _ _ _ _
      exact keep (handleQuery_hinted msg source)
    · intro msg _ _ kind
      apply handleResponseOrError_rule hinted_idle.noting env msg source start kind holds
      · intro pending _ _ _ _
        exact hinted_unbooked.settle _ _ pending
      · intro pending response remoteId _
        exact hinted_roaming.acceptResponse env msg source _ pending response remoteId
          (fun _ holds => holds) (emitResponseEvidence_hinted _ _ _ _)
          (hinted_unbooked.settle _ _ pending)
    · rfl

end hinted

end DHTNode

end PyDht
