import PyDht.QueryFrames
import PyDht.ResponseOffers
import PyDht.RoutingUpkeep

set_option autoImplicit false

namespace PyDht

open Effects (Ensures Preserves)

namespace PeerStore

/-- All keys are infohashes. -/
def Keyed (peerStore : PeerStore) : Prop := ∀ key ∈ Dict.keys peerStore.store, key.length = 20

theorem Keyed.prune {peerStore : PeerStore} (keyed : Keyed peerStore) (config : Config)
    (now : Int) : Keyed (peerStore.prune config now) :=
  fun key member => keyed key ((prune_keys_sublist config now peerStore).subset member)

theorem makeRoom_keyed (config : Config) (key : Bytes) : Preserves Keyed (makeRoom config key) := by
  unfold makeRoom
  apply Preserves.get
  intro peerStore keyed
  apply Ensures.when
  · intro _
    cases shape : peerStore.store with
    | nil => exact Ensures.throw fun _ same => same ▸ keyed
    | cons oldest newer =>
        apply Ensures.set
        intro _ _ other member
        apply keyed other
        rw [shape]
        exact List.mem_cons_of_mem _ member
  · exact fun _ _ same => same ▸ keyed

theorem record_keyed (config : Config) (stamp : Int) {key : Bytes} (length : key.length = 20)
    (endpoint : Endpoint) : Preserves Keyed (record config stamp key endpoint) := by
  unfold record
  apply Preserves.bind
  · apply Preserves.modify
    intro peerStore keyed other member
    obtain ⟨entry, inside, rfl⟩ := List.mem_map.mp member
    obtain old | new := List.mem_append.mp inside
    · exact keyed entry.1 (List.mem_map_of_mem (Dict.mem_of_mem_pop old))
    · rw [List.mem_singleton.mp new]
      exact length
  · intro _
    exact Preserves.check _ _

theorem add_keyed (config : Config) (now stamp : Int) {key : Bytes} (length : key.length = 20)
    (endpoint : Endpoint) : Preserves Keyed (add config now stamp key endpoint) := by
  unfold add
  apply Preserves.bind (Preserves.modify fun _ keyed => keyed.prune config now)
  intro _
  apply Preserves.bind (makeRoom_keyed config key)
  intro _
  exact record_keyed config stamp length endpoint

end PeerStore

namespace DHTNode

/-- What a node holds for others is as its own operations leave it. -/
structure Supplied (config : Config) (node : DHTNode) : Prop where
  nodeId : node.nodeId.length = 20
  keyed : node.peerStore.Keyed
  cached : ∀ cache, node.sampleCache = some cache →
    (cache.2.length : Int) ≤ config.bep51MaxSamplesPerResponse ∧ ∀ key ∈ cache.2, key.length = 20

theorem supplied_passive (config : Config) : Passive (Supplied config) where
  ticks _ supplied := { supplied with }
  emitted _ _ supplied := { supplied with }
  candidates _ _ supplied := { supplied with }
  pending _ _ supplied := { supplied with }
  pendingSlots _ _ supplied := { supplied with }
  txCounter _ _ supplied := { supplied with }
  connected _ _ supplied := { supplied with }
  closing _ _ supplied := { supplied with }
  routing _ _ supplied := { supplied with }

section supplied

variable {env : Environment}

/-- What is drawn from keys of twenty bytes is cached, up to the limit. -/
theorem currentSamples_supplied (limits : env.config.DefaultLimits) (documented : env.Documented)
    {keys : List Bytes} (lengths : ∀ key ∈ keys, key.length = 20) :
    Preserves (Supplied env.config) (currentSamples env keys) := by
  apply Preserves.bind ((supplied_passive env.config).noting.monotonicNs env)
  intro now
  apply Preserves.get
  intro seen supplied
  split
  · exact Ensures.pure fun _ same => same ▸ supplied
  · obtain ⟨samples, chosen, count, among⟩ := chooseSamples_draws limits documented seen.ticks keys
    rw [chosen]
    apply Ensures.bindOk rfl
    apply Ensures.setBind
    intro _
    apply Ensures.pure
    intro node same
    rw [same]
    refine { supplied with cached := fun cache isCache => ?_ }
    rw [← Option.some.inj isCache]
    have fifty : env.config.bep51MaxSamplesPerResponse = 50 := by
      rw [limits]
    exact ⟨by dsimp only; omega, fun key member => lengths key (among key member)⟩

theorem supplied_serving (limits : env.config.DefaultLimits) (documented : env.Documented) :
    Serving env (fun keys => ∀ key ∈ keys, key.length = 20) (Supplied env.config) :=
  { supplied_passive env.config with
    tokens := fun _ _ supplied => { supplied with }
    prune := fun _ now supplied => { supplied with keyed := supplied.keyed.prune env.config now }
    add := fun now stamp _ endpoint length => Ensures.zoom fun _ supplied =>
      (PeerStore.add_keyed env.config now stamp length endpoint).weaken
        (fun _ same => same ▸ supplied.keyed) (fun _ _ keyed => { supplied with keyed })
        fun _ _ keyed => { supplied with keyed }
    listed := fun _ now supplied => supplied.keyed.prune env.config now
    samples := fun _ lengths => currentSamples_supplied limits documented lengths
    outgoing := fun _ _ _ _ supplied => { supplied with } }

end supplied

end DHTNode

namespace NodeSystem

variable {env : Environment} {nodeId : Bytes} {candidates : CandidateManager} {txCounter : Nat}
  {localIps : List String} {start system : NodeSystem} {events : List NodeEvent}

/-- The stock of every node that is reached is in order. -/
theorem run_stocked (limits : env.config.DefaultLimits) (documented : env.Documented)
    (made : new env nodeId candidates txCounter localIps = .ok start)
    (ran : Transition.run (step env) start events = some system) :
    DHTNode.Stocked env.config system.node := by
  have upheld := run_upheld made ran
  have initial : DHTNode.Supplied env.config start.node := by
    obtain ⟨length, _, routing, _, rfl⟩ := new_ok made
    refine ⟨length, fun key member => ?_, fun cache isCache => ?_⟩
    · exact absurd member List.not_mem_nil
    · cases isCache
  have supplied := node_of_run (DHTNode.supplied_serving limits documented).lasting initial ran
  refine ⟨supplied.nodeId, ?_, supplied.keyed, supplied.cached⟩
  rw [upheld.node.localIps]
  exact upheld.node.routing.mono fun _ vouched => vouched.mono fun _ _ _ => trivial

end NodeSystem

end PyDht
