import PyDht.PeerStoreRuns
import PyDht.QueryFrames

set_option autoImplicit false

namespace PyDht

open Effects (Ensures Preserves)

namespace PeerStore

/-- A property of the store that its operations keep. -/
structure Kept (config : Config) (inv : PeerStore → Prop) : Prop where
  prune : ∀ now peerStore, inv peerStore → inv (peerStore.prune config now)
  add : ∀ now stamp key endpoint, Preserves inv (add config now stamp key endpoint)

/-- An announcement keeps the store within its limits. -/
theorem bounded_kept {config : Config} (room : 1 ≤ config.dhtPeerStoreMaxInfohashes)
    (cap : 1 ≤ config.dhtPeerStoreMaxPeersPerHash) : Kept config (Bounded config) where
  prune now _ bounded := bounded.prune now
  add now stamp key endpoint := by
    intro peerStore bounded
    obtain ⟨roomy, made, added⟩ := add_cases room cap now stamp key endpoint peerStore
    obtain ⟨still, fits⟩ := made.bounded (bounded.prune now)
    rw [added]
    exact still.recorded cap fits stamp endpoint

end PeerStore

namespace DHTNode

/-- What the operations of the store keep, the answers to queries keep. -/
theorem store_serving {env : Environment} {inv : PeerStore → Prop}
    (kept : PeerStore.Kept env.config inv) :
    Serving env (fun _ => True) fun node => inv node.peerStore :=
  { Passive.ofStock fun stock => inv stock.peerStore with
    tokens := fun _ _ holds => holds
    prune := fun _ now holds => kept.prune now _ holds
    add := fun now stamp key endpoint _ => Ensures.zoom fun _ holds =>
      (kept.add now stamp key endpoint).weaken (fun _ same => same ▸ holds)
        (fun _ _ after => after) fun _ _ after => after
    listed := fun _ _ _ => trivial
    samples := fun keys _ => currentSamples_frame
      (Passive.ofStock fun stock => inv stock.peerStore).noting (fun _ _ holds => holds) keys
    outgoing := fun _ _ _ _ holds => holds }

end DHTNode

namespace NodeSystem

variable {env : Environment} {nodeId : Bytes} {candidates : CandidateManager} {txCounter : Nat}
  {localIps : List String} {start system : NodeSystem} {events : List NodeEvent}

/-- The peer store of every node that is reached is within its limits. -/
theorem run_bounded (room : 1 ≤ env.config.dhtPeerStoreMaxInfohashes)
    (cap : 1 ≤ env.config.dhtPeerStoreMaxPeersPerHash)
    (made : new env nodeId candidates txCounter localIps = .ok start)
    (ran : Transition.run (step env) start events = some system) :
    system.node.peerStore.Bounded env.config := by
  refine node_of_run ((DHTNode.store_serving (PeerStore.bounded_kept room cap)).lasting) ?_ ran
  obtain ⟨_, _, routing, _, rfl⟩ := new_ok made
  exact ⟨List.nodup_nil, by simp, by show (0 : Int) ≤ _; omega, by simp⟩

end NodeSystem

end PyDht
