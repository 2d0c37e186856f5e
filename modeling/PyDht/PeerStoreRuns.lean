import Mathlib.Data.Set.Finite.Lattice
import PyDht.PeerStore
import PyDht.Lib.Transition

set_option autoImplicit false

namespace PyDht

/-- A call of the store, with the clock readings that it takes. -/
inductive PeerCall where
  | add (now stamp : Int) (key : Bytes) (endpoint : Endpoint)
  | get (now : Int) (key : Bytes)
  | keys (now : Int)

def PeerCall.readings : PeerCall → List Int
  | .add now stamp _ _ => [now, stamp]
  | .get now _ => [now]
  | .keys now => [now]

/-- The store beside a log of all announcements: for each key those since the key was last evicted,
and the keys with the time of each announcement. -/
structure LoggedStore where
  peers : PeerStore := {}
  adds : Bytes → List (Endpoint × Int) := fun _ => []
  uses : List (Bytes × Int) := []

namespace LoggedStore

/-- The keys that the pruning leaves and that are gone after the announcement. -/
def evicted (config : Config) (now : Int) (before after : PeerStore) : List Bytes :=
  (before.keys config now).1.filter fun key => key ∉ Dict.keys after.store

/-- The log after an announcement that has evicted the given keys. -/
def logged (state : LoggedStore) (gone : List Bytes) (stamp : Int) (key : Bytes)
    (endpoint : Endpoint) (peers : PeerStore) : LoggedStore where
  peers := peers
  adds := fun other =>
    let since := if other ∈ gone then [] else state.adds other
    if other = key then since ++ [(endpoint, stamp)] else since
  uses := state.uses ++ [(key, stamp)]

/-- A call on the store; `none` stands for an exception. -/
def step (config : Config) (state : LoggedStore) : PeerCall → Option LoggedStore
  | .add now stamp key endpoint =>
      match PeerStore.add config now stamp key endpoint state.peers with
      | .ok _ peers =>
          some (state.logged (evicted config now state.peers peers) stamp key endpoint peers)
      | .error _ _ => none
  | .get now key => some { state with peers := (state.peers.get config now key).2 }
  | .keys now => some { state with peers := (state.peers.keys config now).2 }

/-- The endpoints of a key that the log has at the given time: those whose latest announcement is
not too old, the newest as many as the store may hold. -/
def live (config : Config) (state : LoggedStore) (now : Int) (key : Bytes) : List Endpoint :=
  Recency.window (now - nanoseconds config.dhtPeerStoreTtl) config.dhtPeerStoreMaxPeersPerHash
    (state.adds key)

end LoggedStore

namespace PeerStore

/-- What the store holds for a key. -/
def peersOf (peerStore : PeerStore) (key : Bytes) : List (Endpoint × Int) :=
  (Dict.get? key peerStore.store).getD []

/-- The store within its limits, without a key that has no endpoints. -/
structure Bounded (config : Config) (peerStore : PeerStore) : Prop where
  distinct : (Dict.keys peerStore.store).Nodup
  inhabited : ∀ entry ∈ peerStore.store, entry.2 ≠ []
  few : (peerStore.store.length : Int) ≤ config.dhtPeerStoreMaxInfohashes
  capped : ∀ entry ∈ peerStore.store,
    (entry.2.length : Int) ≤ config.dhtPeerStoreMaxPeersPerHash

theorem peersOf_eq_nil {config : Config} {peerStore : PeerStore}
    (bounded : Bounded config peerStore) (key : Bytes) :
    peerStore.peersOf key = [] ↔ key ∉ Dict.keys peerStore.store := by
  rw [← Dict.get?_eq_none_iff]
  unfold peersOf
  cases found : Dict.get? key peerStore.store with
  | none => simp
  | some peers =>
      have nonempty := bounded.inhabited _ (Dict.mem_of_get? found)
      simpa using nonempty

theorem peersOf_length_le {config : Config} {peerStore : PeerStore}
    (bounded : Bounded config peerStore) (cap : 0 ≤ config.dhtPeerStoreMaxPeersPerHash)
    (key : Bytes) :
    ((peerStore.peersOf key).length : Int) ≤ config.dhtPeerStoreMaxPeersPerHash := by
  unfold peersOf
  cases found : Dict.get? key peerStore.store with
  | none => simpa using cap
  | some peers => exact bounded.capped _ (Dict.mem_of_get? found)

/-- Pruning takes the old endpoints of every key. -/
theorem peersOf_prune {config : Config} {peerStore : PeerStore}
    (distinct : (Dict.keys peerStore.store).Nodup) (now : Int) (key : Bytes) :
    (peerStore.prune config now).peersOf key =
      (peerStore.peersOf key).filter
        fun peer => now - nanoseconds config.dhtPeerStoreTtl ≤ peer.2 := by
  have distinct' : (Dict.keys (peerStore.store.map fun entry =>
      (entry.1, entry.2.filter fun peer =>
        !decide (peer.2 < now - nanoseconds config.dhtPeerStoreTtl)))).Nodup := by
    rwa [Dict.keys_mapValues]
  have fresh : (fun peer : Endpoint × Int =>
      !decide (peer.2 < now - nanoseconds config.dhtPeerStoreTtl)) =
        fun peer => decide (now - nanoseconds config.dhtPeerStoreTtl ≤ peer.2) := by
    funext peer
    rw [← decide_not]
    exact decide_eq_decide.mpr Int.not_lt
  unfold peersOf prune
  dsimp only
  rw [Dict.get?_filterValues (fun peers => !peers.isEmpty) key distinct', Dict.get?_mapValues,
    fresh]
  cases Dict.get? key peerStore.store with
  | none => rfl
  | some peers =>
      rw [Option.map_some, Option.filter_some, Option.getD_some]
      cases peers.filter fun peer => now - nanoseconds config.dhtPeerStoreTtl ≤ peer.2 <;> rfl

theorem prune_keys_sublist (config : Config) (now : Int) (peerStore : PeerStore) :
    (Dict.keys (peerStore.prune config now).store).Sublist (Dict.keys peerStore.store) := by
  have filtered := (List.filter_sublist (p := fun entry => !entry.2.isEmpty)
    (l := peerStore.store.map fun entry => (entry.1, entry.2.filter fun peer =>
      !decide (peer.2 < now - nanoseconds config.dhtPeerStoreTtl)))).map Prod.fst
  rw [List.map_map] at filtered
  exact filtered

theorem Bounded.prune {config : Config} {peerStore : PeerStore}
    (bounded : Bounded config peerStore) (now : Int) :
    Bounded config (peerStore.prune config now) := by
  have kept := prune_keys_sublist config now peerStore
  refine ⟨bounded.distinct.sublist kept, ?_, ?_, ?_⟩
  · intro entry member
    simpa using (List.mem_filter.mp member).2
  · have shorter := kept.length_le
    simp only [Dict.keys, List.length_map] at shorter
    have few := bounded.few
    omega
  · intro entry member
    obtain ⟨before, present, rfl⟩ := List.mem_map.mp (List.mem_filter.mp member).1
    have shorter := List.length_filter_le (fun peer : Endpoint × Int =>
      !decide (peer.2 < now - nanoseconds config.dhtPeerStoreTtl)) before.2
    have capped := bounded.capped before present
    dsimp only
    omega

/-- The store that an announcement writes into: the pruned one, or the pruned one without its
oldest key when it is full and the key is new. -/
def Roomy (config : Config) (key : Bytes) (pruned roomy : PeerStore) : Prop :=
  roomy = pruned ∧ (key ∈ Dict.keys pruned.store ∨
      (pruned.store.length : Int) < config.dhtPeerStoreMaxInfohashes) ∨
    key ∉ Dict.keys pruned.store ∧
      config.dhtPeerStoreMaxInfohashes ≤ (pruned.store.length : Int) ∧
      ∃ oldest, pruned.store = oldest :: roomy.store

/-- The store after the endpoint became the last one of its key. -/
def recorded (config : Config) (stamp : Int) (key : Bytes) (endpoint : Endpoint)
    (peerStore : PeerStore) : PeerStore :=
  let peers := peerStore.announced key endpoint stamp
  { store := Dict.pop key peerStore.store ++
      [(key, peers.drop (peers.length - config.dhtPeerStoreMaxPeersPerHash.toNat))] }

theorem makeRoom_cases {config : Config} (room : 1 ≤ config.dhtPeerStoreMaxInfohashes)
    (key : Bytes) (peerStore : PeerStore) :
    ∃ roomy, makeRoom config key peerStore = .ok () roomy ∧ Roomy config key peerStore roomy := by
  by_cases known : key ∈ Dict.keys peerStore.store
  · refine ⟨peerStore, ?_, .inl ⟨rfl, .inl known⟩⟩
    show Effects.when (!Dict.contains key peerStore.store && decide _) _ peerStore = _
    rw [(Dict.contains_iff key _).mpr known]
    rfl
  · by_cases full : config.dhtPeerStoreMaxInfohashes ≤ (peerStore.store.length : Int)
    · cases shape : peerStore.store with
      | nil =>
          rw [shape, List.length_nil] at full
          omega
      | cons oldest newer =>
          refine ⟨{ store := newer }, ?_, .inr ⟨known, full, oldest, shape⟩⟩
          have absent : Dict.contains key peerStore.store = false :=
            Bool.eq_false_iff.mpr fun found => known ((Dict.contains_iff key _).mp found)
          show Effects.when (!Dict.contains key peerStore.store && decide _) _ peerStore = _
          rw [absent, decide_eq_true full, shape]
          rfl
    · refine ⟨peerStore, ?_, .inl ⟨rfl, .inr (Int.not_le.mp full)⟩⟩
      show Effects.when (!Dict.contains key peerStore.store && decide _) _ peerStore = _
      rw [decide_eq_false full, Bool.and_false]
      rfl

theorem add_cases {config : Config} (room : 1 ≤ config.dhtPeerStoreMaxInfohashes)
    (cap : 1 ≤ config.dhtPeerStoreMaxPeersPerHash) (now stamp : Int) (key : Bytes)
    (endpoint : Endpoint) (peerStore : PeerStore) :
    ∃ roomy, Roomy config key (peerStore.prune config now) roomy ∧
      add config now stamp key endpoint peerStore =
        .ok () (recorded config stamp key endpoint roomy) := by
  obtain ⟨roomy, made, cases⟩ := makeRoom_cases room key (peerStore.prune config now)
  have unfolded : add config now stamp key endpoint peerStore =
      (makeRoom config key >>= fun _ => record config stamp key endpoint)
        (peerStore.prune config now) := rfl
  have checked : record config stamp key endpoint roomy =
      Effects.check (decide (0 ≤ config.dhtPeerStoreMaxPeersPerHash))
        (.keyError "dictionary is empty") (recorded config stamp key endpoint roomy) := rfl
  refine ⟨roomy, cases, ?_⟩
  rw [unfolded]
  show EStateM.bind _ _ _ = _
  rw [EStateM.bind, made]
  dsimp only
  rw [checked, decide_eq_true (show 0 ≤ config.dhtPeerStoreMaxPeersPerHash by omega)]
  rfl

theorem recorded_keys (config : Config) (stamp : Int) (key : Bytes) (endpoint : Endpoint)
    (peerStore : PeerStore) :
    Dict.keys (recorded config stamp key endpoint peerStore).store =
      (Dict.keys peerStore.store).filter (· ≠ key) ++ [key] := by
  rw [← Dict.keys_pop]
  simp [recorded, Dict.keys]

theorem peersOf_recorded (config : Config) (stamp : Int) (key : Bytes) (endpoint : Endpoint)
    (peerStore : PeerStore) (other : Bytes) :
    (recorded config stamp key endpoint peerStore).peersOf other =
      if other = key then
        let peers := Recency.touch endpoint stamp (peerStore.peersOf key)
        peers.drop (peers.length - config.dhtPeerStoreMaxPeersPerHash.toNat)
      else peerStore.peersOf other := by
  unfold peersOf recorded
  dsimp only
  split
  · rename_i same
    have absent : key ∉ Dict.keys (Dict.pop key peerStore.store) :=
      fun member => ((Dict.mem_keys_pop key key _).mp member).2 rfl
    rw [same, Dict.get?_concat_self _ absent, Option.getD_some]
    rfl
  · rename_i different
    rw [Dict.get?_concat_ne different, Dict.get?_pop_ne different]

theorem Bounded.recorded {config : Config} {peerStore : PeerStore} {key : Bytes}
    (bounded : Bounded config peerStore) (cap : 1 ≤ config.dhtPeerStoreMaxPeersPerHash)
    (fits : key ∈ Dict.keys peerStore.store ∨
      (peerStore.store.length : Int) < config.dhtPeerStoreMaxInfohashes)
    (stamp : Int) (endpoint : Endpoint) :
    Bounded config (recorded config stamp key endpoint peerStore) := by
  refine ⟨?_, ?_, ?_, ?_⟩
  · rw [recorded_keys, List.nodup_append]
    refine ⟨bounded.distinct.filter _, List.nodup_singleton key, ?_⟩
    intro other member last isKey
    rw [List.mem_singleton.mp isKey]
    simpa using (List.mem_filter.mp member).2
  · intro entry member
    obtain old | new := List.mem_append.mp member
    · exact bounded.inhabited entry (Dict.mem_of_mem_pop old)
    · rw [List.mem_singleton.mp new]
      intro empty
      have length := congrArg List.length empty
      simp only [announced, Recency.touch, List.length_drop, List.length_append,
        List.length_singleton, List.length_nil] at length
      omega
  · have few := bounded.few
    have length := congrArg List.length (recorded_keys config stamp key endpoint peerStore)
    simp only [Dict.keys, List.length_map, List.length_append, List.length_singleton] at length
    obtain known | room := fits
    · have shorter : ((Dict.keys peerStore.store).filter fun other => other ≠ key).length <
          (Dict.keys peerStore.store).length :=
        List.length_filter_lt_length_iff_exists.mpr ⟨key, known, by simp⟩
      simp only [Dict.keys, List.length_map] at shorter
      omega
    · have shorter := List.length_filter_le (fun other => decide (other ≠ key))
        (Dict.keys peerStore.store)
      simp only [Dict.keys, List.length_map] at shorter
      omega
  · intro entry member
    obtain old | new := List.mem_append.mp member
    · exact bounded.capped entry (Dict.mem_of_mem_pop old)
    · rw [List.mem_singleton.mp new]
      dsimp only
      rw [List.length_drop]
      omega

theorem Roomy.bounded {config : Config} {key : Bytes} {pruned roomy : PeerStore}
    (made : Roomy config key pruned roomy) (bounded : Bounded config pruned) :
    Bounded config roomy ∧ (key ∈ Dict.keys roomy.store ∨
      (roomy.store.length : Int) < config.dhtPeerStoreMaxInfohashes) := by
  obtain ⟨rfl, fits⟩ | ⟨-, -, oldest, shape⟩ := made
  · exact ⟨bounded, fits⟩
  · obtain ⟨distinct, inhabited, few, capped⟩ := bounded
    rw [shape] at distinct inhabited few capped
    rw [List.length_cons] at few
    refine ⟨⟨(List.nodup_cons.mp distinct).2, ?_, by omega, ?_⟩, .inr (by omega)⟩
    · exact fun entry member => inhabited entry (List.mem_cons_of_mem _ member)
    · exact fun entry member => capped entry (List.mem_cons_of_mem _ member)

theorem Roomy.peersOf_eq {config : Config} {key other : Bytes} {pruned roomy : PeerStore}
    (made : Roomy config key pruned roomy) (distinct : (Dict.keys pruned.store).Nodup)
    (spared : other ∈ Dict.keys pruned.store → other ∈ Dict.keys roomy.store) :
    roomy.peersOf other = pruned.peersOf other := by
  obtain ⟨rfl, -⟩ | ⟨-, -, oldest, shape⟩ := made
  · rfl
  · rw [shape] at distinct spared
    unfold peersOf
    rw [shape, Dict.get?_cons, if_neg]
    rintro rfl
    exact (List.nodup_cons.mp distinct).1 (spared List.mem_cons_self)

theorem Roomy.mem_evicted {config : Config} {key : Bytes} {now : Int} {before roomy : PeerStore}
    (made : Roomy config key (before.prune config now) roomy) (stamp : Int) (endpoint : Endpoint)
    (victim : Bytes) :
    victim ∈ LoggedStore.evicted config now before (recorded config stamp key endpoint roomy) ↔
      victim ∈ Dict.keys (before.prune config now).store ∧
        victim ∉ Dict.keys roomy.store := by
  unfold LoggedStore.evicted
  rw [List.mem_filter, decide_eq_true_eq, recorded_keys, List.mem_append, List.mem_filter,
    List.mem_singleton]
  show victim ∈ Dict.keys (before.prune config now).store ∧ _ ↔ _
  refine and_congr_right fun present => ⟨fun gone there => gone ?_, fun gone there => ?_⟩
  · by_cases same : victim = key
    · exact .inr same
    · exact .inl ⟨there, by simpa using same⟩
  · obtain old | rfl := there
    · exact gone old.1
    · obtain ⟨rfl, -⟩ | ⟨absent, -⟩ := made
      · exact gone present
      · exact absent present

end PeerStore

namespace LoggedStore

/-- The store holds of every key the end of the key's log, and its keys are in the order of the
latest announcements. -/
structure Inv (config : Config) (state : LoggedStore) (clock : Int) : Prop where
  bounded : state.peers.Bounded config
  peers : ∀ key, Recency.Keeps (nanoseconds config.dhtPeerStoreTtl)
    config.dhtPeerStoreMaxPeersPerHash (state.adds key) (state.peers.peersOf key) clock
  order : (Dict.keys state.peers.store).Sublist ((Recency.latest state.uses).map Prod.fst)

section invariant

variable {config : Config} {state : LoggedStore} {clock now stamp : Int}

theorem Inv.later (inv : Inv config state clock) (passed : clock ≤ now) : Inv config state now :=
  ⟨inv.bounded, fun key => (inv.peers key).later passed, inv.order⟩

theorem Inv.prune (inv : Inv config state now) :
    Inv config { state with peers := state.peers.prune config now } now := by
  refine ⟨inv.bounded.prune now, fun key => ?_, ?_⟩
  · rw [PeerStore.peersOf_prune inv.bounded.distinct]
    exact (inv.peers key).fresh
  · exact (PeerStore.prune_keys_sublist config now state.peers).trans inv.order

/-- What the pruning leaves of a key is what the log has at that time. -/
theorem Inv.live_eq (inv : Inv config state now) (cap : 0 ≤ config.dhtPeerStoreMaxPeersPerHash)
    (key : Bytes) :
    state.live config now key = ((state.peers.prune config now).peersOf key).map Prod.fst := by
  have pruned := inv.prune
  refine (pruned.peers key).window_eq (fun entry member => ?_)
    (PeerStore.peersOf_length_le pruned.bounded cap key)
  rw [PeerStore.peersOf_prune inv.bounded.distinct] at member
  exact of_decide_eq_true (List.mem_filter.mp member).2

theorem Inv.live_iff (inv : Inv config state now) (cap : 0 ≤ config.dhtPeerStoreMaxPeersPerHash)
    (key : Bytes) :
    key ∈ Dict.keys (state.peers.prune config now).store ↔ state.live config now key ≠ [] := by
  rw [inv.live_eq cap, ne_eq, List.map_eq_nil_iff,
    PeerStore.peersOf_eq_nil inv.prune.bounded, not_not]

theorem Inv.logged (inv : Inv config state now) (cap : 1 ≤ config.dhtPeerStoreMaxPeersPerHash)
    {key : Bytes} {roomy : PeerStore}
    (made : PeerStore.Roomy config key (state.peers.prune config now) roomy)
    (passed : now ≤ stamp) (endpoint : Endpoint) :
    Inv config (state.logged
      (evicted config now state.peers (PeerStore.recorded config stamp key endpoint roomy))
      stamp key endpoint (PeerStore.recorded config stamp key endpoint roomy)) stamp := by
  have pruned := inv.prune.later passed
  obtain ⟨bounded, fits⟩ := made.bounded pruned.bounded
  refine ⟨bounded.recorded cap fits stamp endpoint, fun other => ?_, ?_⟩
  · -- Without the announcement, and with an empty log for what gave way.
    have since : Recency.Keeps (nanoseconds config.dhtPeerStoreTtl)
        config.dhtPeerStoreMaxPeersPerHash
        (if other ∈ evicted config now state.peers
          (PeerStore.recorded config stamp key endpoint roomy) then [] else state.adds other)
        (roomy.peersOf other) stamp := by
      split
      · rename_i gone
        rw [(PeerStore.peersOf_eq_nil bounded other).mpr
          ((made.mem_evicted stamp endpoint other).mp gone).2]
        exact Recency.Keeps.nil _ _ _
      · rename_i spared
        rw [made.mem_evicted] at spared
        rw [made.peersOf_eq pruned.bounded.distinct fun present =>
          by_contra fun gone => spared ⟨present, gone⟩]
        exact pruned.peers other
    dsimp only [LoggedStore.logged]
    rw [PeerStore.peersOf_recorded]
    by_cases same : other = key
    · subst same
      rw [if_pos rfl, if_pos rfl]
      exact (since.touch endpoint).capped
    · rw [if_neg same, if_neg same]
      exact since
  · dsimp only [LoggedStore.logged]
    rw [PeerStore.recorded_keys, Recency.latest_concat, Recency.touch_keys]
    refine List.Sublist.append_right (List.Sublist.filter _ (List.Sublist.trans ?_ pruned.order)) _
    obtain ⟨rfl, -⟩ | ⟨-, -, oldest, shape⟩ := made
    · exact List.Sublist.refl _
    · dsimp only
      rw [shape]
      exact List.sublist_cons_self _ _

/-- Every call returns and keeps the invariant, from the last of its readings on. -/
theorem Inv.step (room : 1 ≤ config.dhtPeerStoreMaxInfohashes)
    (cap : 1 ≤ config.dhtPeerStoreMaxPeersPerHash) (call : PeerCall)
    (timed : call.readings.Pairwise (· ≤ ·))
    (inv : ∀ reading ∈ call.readings, Inv config state reading) :
    ∃ next, step config state call = some next ∧
      ∀ later, (∀ reading ∈ call.readings, reading ≤ later) → Inv config next later := by
  cases call with
  | add now stamp key endpoint =>
      have here := inv now List.mem_cons_self
      have passed : now ≤ stamp := by simpa [PeerCall.readings] using timed
      obtain ⟨roomy, made, ran⟩ := PeerStore.add_cases room cap now stamp key endpoint state.peers
      refine ⟨_, by rw [LoggedStore.step, ran], fun later behind => ?_⟩
      exact (here.logged cap made passed endpoint).later (behind stamp (by simp [PeerCall.readings]))
  | get now key =>
      refine ⟨_, rfl, fun later behind => ?_⟩
      exact (inv now List.mem_cons_self).prune.later (behind now List.mem_cons_self)
  | keys now =>
      refine ⟨_, rfl, fun later behind => ?_⟩
      exact (inv now List.mem_cons_self).prune.later (behind now List.mem_cons_self)

theorem Inv.empty (room : 1 ≤ config.dhtPeerStoreMaxInfohashes) (clock : Int) :
    Inv config {} clock := by
  refine ⟨⟨List.nodup_nil, by simp, ?_, by simp⟩, fun key => Recency.Keeps.nil _ _ _,
    List.nil_sublist _⟩
  rw [List.length_nil]
  omega

theorem Inv.run (room : 1 ≤ config.dhtPeerStoreMaxInfohashes)
    (cap : 1 ≤ config.dhtPeerStoreMaxPeersPerHash) (calls : List PeerCall)
    (timed : (calls.flatMap PeerCall.readings).Pairwise (· ≤ ·)) :
    ∃ state, Transition.run (LoggedStore.step config) {} calls = some state ∧
      ∀ later, (∀ reading ∈ calls.flatMap PeerCall.readings, reading ≤ later) →
        Inv config state later := by
  induction calls using List.reverseRecOn with
  | nil => exact ⟨{}, rfl, fun later _ => Inv.empty room later⟩
  | append_singleton calls call ih =>
      rw [List.flatMap_append, List.flatMap_singleton, List.pairwise_append] at timed
      obtain ⟨before, inside, across⟩ := timed
      obtain ⟨state, ran, inv⟩ := ih before
      obtain ⟨next, taken, inv'⟩ := Inv.step room cap call inside
        fun reading member => inv reading fun earlier present =>
          across earlier present reading member
      refine ⟨next, Transition.run_concat.mpr ⟨state, ran, taken⟩, fun later behind => ?_⟩
      refine inv' later fun reading member => behind reading ?_
      rw [List.flatMap_append, List.flatMap_singleton]
      exact List.mem_append_right _ member

/-- An evicted key made room for one key among as many others as the store may hold, all of them
with endpoints and with later announcements. -/
theorem Inv.evicts_oldest (inv : Inv config state now)
    (cap : 1 ≤ config.dhtPeerStoreMaxPeersPerHash) {key : Bytes} {roomy : PeerStore}
    (made : PeerStore.Roomy config key (state.peers.prune config now) roomy) (endpoint : Endpoint)
    {victim : Bytes} (gone : victim ∈ evicted config now state.peers
      (PeerStore.recorded config stamp key endpoint roomy)) :
    ∃ others : List Bytes, others.Nodup ∧
      (others.length : Int) = config.dhtPeerStoreMaxInfohashes ∧ key ∉ others ∧
      (∀ other, other ∈ others ↔ state.live config now other ≠ []) ∧ victim ∈ others ∧
      ∃ before time after, Recency.latest state.uses = before ++ (victim, time) :: after ∧
        ∀ other ∈ others, other ≠ victim → other ∈ after.map Prod.fst := by
  obtain ⟨present, missing⟩ := (made.mem_evicted stamp endpoint victim).mp gone
  have pruned := inv.prune
  obtain ⟨rfl, -⟩ | ⟨absent, full, oldest, shape⟩ := made
  · exact absurd present missing
  · have few := pruned.bounded.few
    have isOldest : oldest.1 = victim := by
      rw [shape] at present
      exact ((List.mem_cons.mp present).resolve_right missing).symm
    have order := pruned.order
    dsimp only at few order
    rw [shape, Dict.keys, List.map_cons, isOldest, List.cons_sublist_iff] at order
    obtain ⟨front, back, split, inFront, behind⟩ := order
    obtain ⟨before, between, rfl⟩ := List.append_of_mem inFront
    rw [List.append_assoc, List.map_eq_append_iff] at split
    obtain ⟨first, rest, whole, -, split⟩ := split
    rw [List.cons_append, List.map_eq_cons_iff] at split
    obtain ⟨⟨_, time⟩, after, rfl, rfl, tail⟩ := split
    refine ⟨Dict.keys (state.peers.prune config now).store, pruned.bounded.distinct, ?_, absent,
      fun other => inv.live_iff (by omega) other, present, first, time, after, whole, ?_⟩
    · rw [Dict.keys, List.length_map]
      omega
    · intro other member different
      rw [tail]
      rw [shape] at member
      have later := (List.mem_cons.mp member).resolve_left fun same =>
        different (same.trans isOldest)
      exact List.mem_append_right _ (behind.subset later)

end invariant

/-- After any calls at times in order the store is within its limits, `get` returns what the log
has, and an announcement evicts the key with the oldest latest announcement, and only when the
store is full of other keys that have endpoints. -/
theorem run_recency (config : Config) (room : 1 ≤ config.dhtPeerStoreMaxInfohashes)
    (cap : 1 ≤ config.dhtPeerStoreMaxPeersPerHash) (calls : List PeerCall)
    (timed : (calls.flatMap PeerCall.readings).Pairwise (· ≤ ·)) :
    ∃ state, Transition.run (LoggedStore.step config) {} calls = some state ∧
      (state.peers.store.length : Int) ≤ config.dhtPeerStoreMaxInfohashes ∧
      (∀ entry ∈ state.peers.store,
        (entry.2.length : Int) ≤ config.dhtPeerStoreMaxPeersPerHash) ∧
      ∀ now, (∀ reading ∈ calls.flatMap PeerCall.readings, reading ≤ now) →
        (∀ key, (state.peers.get config now key).1 = state.live config now key) ∧
        ∀ stamp key endpoint, now ≤ stamp →
          ∃ peers, PeerStore.add config now stamp key endpoint state.peers = .ok () peers ∧
            ∀ victim ∈ evicted config now state.peers peers,
              ∃ others : List Bytes, others.Nodup ∧
                (others.length : Int) = config.dhtPeerStoreMaxInfohashes ∧ key ∉ others ∧
                (∀ other, other ∈ others ↔ state.live config now other ≠ []) ∧
                victim ∈ others ∧
                ∃ before time after,
                  Recency.latest state.uses = before ++ (victim, time) :: after ∧
                  ∀ other ∈ others, other ≠ victim → other ∈ after.map Prod.fst := by
  obtain ⟨state, ran, inv⟩ := Inv.run room cap calls timed
  obtain ⟨latest, behind⟩ := (List.finite_toSet (calls.flatMap PeerCall.readings)).bddAbove
  have bounded := (inv latest fun _ member => behind member).bounded
  refine ⟨state, ran, bounded.few, bounded.capped, fun now passed => ⟨fun key => ?_, ?_⟩⟩
  · exact ((inv now passed).live_eq (by omega) key).symm
  · intro stamp key endpoint _
    obtain ⟨roomy, made, added⟩ := PeerStore.add_cases room cap now stamp key endpoint state.peers
    exact ⟨_, added, fun victim gone => (inv now passed).evicts_oldest cap made endpoint gone⟩

/-- Two keys, the first one announced again behind the second. -/
def sampleCalls : List PeerCall :=
  [.add 1 2 [7] ("8.8.8.8", 6881), .add 3 3 [8] ("9.9.9.9", 6881), .add 4 4 [7] ("9.9.9.9", 6881)]

/-- With room for two keys a third one evicts the second. -/
theorem run_recency_sample :
    ∃ state peers, Transition.run (LoggedStore.step { dhtPeerStoreMaxInfohashes := 2 }) {}
        sampleCalls = some state ∧
      (state.peers.get { dhtPeerStoreMaxInfohashes := 2 } 5 [7]).1 =
        [("8.8.8.8", 6881), ("9.9.9.9", 6881)] ∧
      (state.peers.get { dhtPeerStoreMaxInfohashes := 2 } 5 [7]).1 =
        state.live { dhtPeerStoreMaxInfohashes := 2 } 5 [7] ∧
      PeerStore.add { dhtPeerStoreMaxInfohashes := 2 } 5 5 [9] ("8.8.8.8", 6881) state.peers =
        .ok () peers ∧
      evicted { dhtPeerStoreMaxInfohashes := 2 } 5 state.peers peers = [[8]] ∧
      ∃ before time after, Recency.latest state.uses = before ++ ([8], time) :: after ∧
        [7] ∈ after.map Prod.fst := by
  obtain ⟨state, ran, -, -, next⟩ :=
    run_recency { dhtPeerStoreMaxInfohashes := 2 } (by decide) (by decide) sampleCalls (by decide)
  obtain ⟨exact, adds⟩ := next 5 (by decide)
  obtain ⟨peers, added, oldest⟩ := adds 5 [9] ("8.8.8.8", 6881) (by decide)
  have found : (state.peers.get { dhtPeerStoreMaxInfohashes := 2 } 5 [7]).1 =
      [("8.8.8.8", 6881), ("9.9.9.9", 6881)] := by
    obtain rfl := Option.some.inj ran
    decide +kernel
  have evicts : evicted { dhtPeerStoreMaxInfohashes := 2 } 5 state.peers peers = [[8]] := by
    have same : Effects.after (PeerStore.add { dhtPeerStoreMaxInfohashes := 2 } 5 5 [9]
        ("8.8.8.8", 6881)) state.peers = peers := by
      unfold Effects.after
      rw [added]
    rw [← same]
    obtain rfl := Option.some.inj ran
    decide +kernel
  obtain ⟨others, -, -, -, live, -, before, time, after, order, behind⟩ :=
    oldest [8] (by rw [evicts]; exact List.mem_cons_self)
  refine ⟨state, peers, ran, found, exact [7], added, evicts, before, time, after, order, ?_⟩
  refine behind [7] ((live [7]).mpr ?_) (by decide)
  rw [← exact [7], found]
  exact List.cons_ne_nil _ _

end LoggedStore

end PyDht
