import PyDht.NodeRuns

set_option autoImplicit false

namespace PyDht

open Effects (Ensures Preserves)

namespace DHTNode

/-- What a node keeps for others and what it has sent. -/
structure Stock where
  nodeId : Bytes
  localIps : List String
  tokens : TokenManager
  peerStore : PeerStore
  sampleCache : Option (Int × List Bytes)
  sent : List Sent

def stock (node : DHTNode) : Stock where
  nodeId := node.nodeId
  localIps := node.localIps
  tokens := node.tokens
  peerStore := node.peerStore
  sampleCache := node.sampleCache
  sent := node.sent

theorem Passive.ofStock (holds : Stock → Prop) : Passive fun node => holds node.stock where
  ticks _ same := same
  emitted _ _ same := same
  candidates _ _ same := same
  pending _ _ same := same
  pendingSlots _ _ same := same
  txCounter _ _ same := same
  connected _ _ same := same
  closing _ _ same := same
  routing _ _ same := same

/-- A passive property that what is changed to answer a query does not break: the tokens, the peer
store and the cached samples. `known` is what is known of the keys that samples are drawn from. -/
structure Serving (env : Environment) (known : List Bytes → Prop) (inv : DHTNode → Prop) : Prop
    extends Passive inv where
  tokens : ∀ node tokens, inv node → inv { node with tokens }
  prune : ∀ node now, inv node →
    inv { node with peerStore := node.peerStore.prune env.config now }
  add : ∀ now stamp key endpoint, key.length = 20 →
    Preserves inv (onPeerStore (PeerStore.add env.config now stamp key endpoint))
  listed : ∀ node now, inv node → known (node.peerStore.keys env.config now).1
  samples : ∀ keys, known keys → Preserves inv (currentSamples env keys)
  outgoing : ∀ message endpoint, Outgoing inv message endpoint

/-- The cached samples may be any. -/
theorem currentSamples_frame {env : Environment} {inv : DHTNode → Prop} (noting : Noting inv)
    (cached : ∀ node sampleCache, inv node → inv { node with sampleCache }) (keys : List Bytes) :
    Preserves inv (currentSamples env keys) := by
  apply Preserves.bind (noting.monotonicNs env)
  intro now
  apply Preserves.get
  intro seen holds
  split
  · exact Ensures.pure fun _ same => same ▸ holds
  · apply Ensures.raiseBind _ fun _ _ _ same => same ▸ holds
    intro samples _
    apply Ensures.setBind
    intro _
    apply Ensures.pure
    intro node same
    exact same ▸ cached _ _ (noting.ticks seen holds)

namespace Serving

variable {env : Environment} {known : List Bytes → Prop} {inv : DHTNode → Prop}
  {args msg : Message} {endpoint : Endpoint} (serving : Serving env known inv)
include serving

theorem onTokens {α : Type} (inner : EStateM PyError TokenManager α) :
    Preserves inv (onTokens inner) :=
  Preserves.zoom serving.tokens inner

theorem closestGood (target : Bytes) : Preserves inv (closestGood env target) :=
  (closestGood_ensures serving.noting env target).weaken
    (fun _ holds => holds) (fun _ _ holds => holds.1) fun _ _ holds => holds

theorem incomingGetPeers : Preserves inv (incomingGetPeers env args endpoint) := by
  apply Preserves.bind (Preserves.raise _)
  intro key
  apply Preserves.bind (Preserves.raise _)
  intro _
  apply Preserves.bind (serving.submit env key _ _)
  intro _
  apply Preserves.bind (serving.emit _)
  intro _
  apply Preserves.bind (serving.noting.monotonicNs env)
  intro issuedNs
  apply Preserves.bind (serving.onTokens _)
  intro token
  apply Preserves.getThen
  intro seen _
  apply Preserves.bind (serving.noting.monotonicNs env)
  intro now
  have looked : Preserves inv
      (onPeerStore (modifyGet fun peerStore => peerStore.get env.config now key)) :=
    fun node holds => serving.prune node now holds
  apply Preserves.bind looked
  intro peers
  apply Ensures.ite
  · intro _
    apply Preserves.bind (serving.closestGood key)
    intro contacts
    apply Preserves.bind (Preserves.raise _)
    intro _
    exact Preserves.pure _
  · intro _
    apply Preserves.bind (Preserves.raise _)
    intro _
    exact Preserves.pure _

/-- An announcement stores its own key, of twenty bytes. -/
theorem storePeer {key : Bytes} (length : key.length = 20) (peer : Endpoint) (implied : Bool) :
    Preserves inv (storePeer env key peer implied) := by
  apply Preserves.bind (serving.noting.monotonicNs env)
  intro now
  apply Preserves.bind (serving.noting.monotonicNs env)
  intro stamp
  apply Preserves.bind (serving.add now stamp key peer length)
  intro _
  exact serving.submit env key _ _

theorem tokenValid (ip : String) (token : Option Bytes) :
    Preserves inv (tokenValid env ip token) := by
  cases token with
  | none => exact Preserves.pure _
  | some token =>
      apply Preserves.bind (serving.noting.monotonicNs env)
      intro due
      apply Preserves.bind (serving.noting.monotonicNs env)
      intro now
      exact serving.onTokens _

theorem incomingAnnouncePeer : Preserves inv (incomingAnnouncePeer env args endpoint msg) := by
  apply Ensures.raiseBind _ fun _ _ _ holds => holds
  intro key named
  have length : key.length = 20 :=
    of_decide_eq_true (Option.filter_eq_some_iff.mp (require20_ok named)).2
  apply Preserves.bind (Preserves.raise _)
  intro portArgument
  apply Preserves.bind (Preserves.raise _)
  intro implied
  apply Preserves.bind (serving.tokenValid _ _)
  intro valid
  apply Preserves.bind (serving.emit _)
  intro _
  apply Preserves.bind (Preserves.check _ _)
  intro _
  apply Preserves.getThen
  intro seen _
  apply Preserves.bind (Preserves.when fun _ => serving.storePeer length _ implied)
  intro _
  exact Preserves.pure _

theorem incomingSampleInfohashes : Preserves inv (incomingSampleInfohashes env args) := by
  apply Preserves.bind (Preserves.raise _)
  intro target
  apply Preserves.bind (serving.noting.monotonicNs env)
  intro listed
  have looked : Ensures inv
      (onPeerStore (modifyGet fun peerStore => peerStore.keys env.config listed))
      (fun keys node => inv node ∧ known keys) (fun _ => inv) :=
    fun node holds => ⟨serving.prune node listed holds, serving.listed node listed holds⟩
  apply Ensures.bind looked
  intro keys
  apply Ensures.given
  intro isKnown
  apply Preserves.bind (serving.samples keys isKnown)
  intro samples
  apply Preserves.getThen
  intro seen _
  apply Preserves.bind (serving.closestGood target)
  intro contacts
  apply Preserves.bind (Preserves.raise _)
  intro nodes
  exact Preserves.raise _

theorem reply (method : Bytes) : Preserves inv (reply env method args endpoint msg) := by
  apply Preserves.getThen
  intro seen _
  apply Ensures.ite fun _ => Preserves.pure _
  intro _
  apply Ensures.ite
  · intro _
    apply Preserves.bind (Preserves.raise _)
    intro target
    have found := (compactClosest_ensures serving.noting env target).weaken
      (fun _ holds => holds) (fun _ _ holds => holds.1) fun _ _ holds => holds
    apply Preserves.bind found
    intro nodes
    exact Preserves.pure _
  intro _
  apply Ensures.ite
  · intro _
    apply Preserves.bind serving.incomingGetPeers
    intro response
    exact Preserves.pure _
  intro _
  apply Ensures.ite
  · intro _
    apply Preserves.bind serving.incomingAnnouncePeer
    intro response
    exact Preserves.pure _
  intro _
  apply Ensures.ite
  · intro _
    apply Preserves.bind serving.incomingSampleInfohashes
    intro response
    exact Preserves.pure _
  · exact fun _ => Preserves.pure _

theorem sendError (tid : Bytes) (code : Int) (text : String) (associatedQuery : Option Bytes) :
    Preserves inv (sendError env tid code text endpoint associatedQuery) :=
  sendError_preserves serving.noting (fun message _ => serving.outgoing message endpoint) env tid
    code text associatedQuery

theorem respond (tid method : Bytes) :
    Preserves inv (respond env tid method args endpoint msg) := by
  apply Preserves.bind (serving.reply method)
  intro response
  cases response with
  | none =>
      apply Preserves.bind (Preserves.when fun _ => serving.emit _)
      intro _
      exact serving.sendError tid 204 _ _
  | some response =>
      apply Preserves.bind (Preserves.raise _)
      intro payload
      apply Preserves.bind (Preserves.check _ _)
      intro _
      apply Preserves.bind (send_preserves (serving.outgoing _ endpoint))
      intro _
      exact Preserves.when fun _ => serving.emitResponseEvidence env _ endpoint method _

theorem handleQuery : Preserves inv (handleQuery env msg endpoint) := by
  unfold DHTNode.handleQuery
  dsimp only
  split
  · split
    · exact serving.sendError _ _ _ _
    · apply Preserves.bind (serving.aside.roaming.greet env msg endpoint _ _)
      intro _
      apply Preserves.tryCatch (serving.respond _ _)
      intro fault
      split
      · exact serving.sendError _ _ _ _
      · exact Ensures.ite (fun _ => serving.sendError _ _ _ _) fun _ => Preserves.throw _
  · exact serving.sendError _ _ _ _

/-- What the answers to queries keep, every program of the node keeps. -/
theorem lasting : Lasting env inv :=
  serving.toPassive.lasting env (fun message endpoint _ => serving.outgoing message endpoint)
    fun _ _ _ holds => serving.handleQuery.ensures (fun _ same => same ▸ holds)
      (fun _ _ after => after) fun _ _ after => after

end Serving

end DHTNode

end PyDht
