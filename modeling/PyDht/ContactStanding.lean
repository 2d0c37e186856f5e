import PyDht.RoutingRetention
import PyDht.RoutingUpkeep

set_option autoImplicit false

namespace PyDht

open Effects (Ensures Preserves)

/-- The last response came at a reading of the clock from `since` on. -/
def Contact.AnsweredSince (env : Environment) (since ticks : Nat) (contact : Contact) : Prop :=
  ∃ tick, since ≤ tick ∧ tick < ticks ∧ contact.lastResponseNs = some (env.monotonicNs tick)

/-- A contact that has failed so often or has answered since. -/
def Contact.Tried (env : Environment) (since count ticks : Nat) (contact : Contact) : Prop :=
  count ≤ contact.failures ∨ contact.AnsweredSince env since ticks

theorem Contact.refresh_lastResponseNs (contact : Contact) (now : Int) (ip : String) (port : Int)
    (sighting : Sighting) :
    (contact.refresh now ip port sighting).lastResponseNs =
      if sighting.directResponse then some now else contact.lastResponseNs := by
  unfold Contact.refresh
  dsimp only
  split <;> split <;> split <;> rfl

section tried

variable {env : Environment} {since count ticks tick : Nat} {contact : Contact}

theorem Contact.Tried.later (tried : contact.Tried env since count ticks) {later : Nat}
    (after : ticks ≤ later) : contact.Tried env since count later := by
  obtain failed | ⟨tick, begun, read, responded⟩ := tried
  · exact .inl failed
  · exact .inr ⟨tick, begun, by omega, responded⟩

theorem Contact.Tried.failedOnce (tried : contact.Tried env since count ticks) :
    (RoutingTable.failedOnce contact).Tried env since (count + 1) ticks := by
  obtain failed | answered := tried
  · exact .inl (Nat.succ_le_succ failed)
  · exact .inr answered

theorem Contact.Tried.fewer (tried : contact.Tried env since (count + 1) ticks) :
    contact.Tried env since count ticks :=
  tried.imp_left Nat.le_of_succ_le

/-- A direct response counts for any number of failures. -/
theorem Contact.tried_refresh (begun : since ≤ tick) (read : tick < ticks) (ip : String)
    (port : Int) {sighting : Sighting} (direct : sighting.directResponse = true) :
    (contact.refresh (env.monotonicNs tick) ip port sighting).Tried env since count ticks := by
  refine .inr ⟨tick, begun, read, ?_⟩
  rw [contact.refresh_lastResponseNs, if_pos direct]

theorem Contact.Tried.refresh (tried : contact.Tried env since count ticks)
    (begun : since ≤ tick) (read : tick < ticks) (ip : String) (port : Int) (sighting : Sighting) :
    (contact.refresh (env.monotonicNs tick) ip port sighting).Tried env since count ticks := by
  by_cases direct : sighting.directResponse = true
  · exact Contact.tried_refresh begun read ip port direct
  · obtain failed | ⟨earlier, begun, read, responded⟩ := tried
    · left
      rwa [contact.refresh_failures, if_neg direct]
    · refine .inr ⟨earlier, begun, read, ?_⟩
      rwa [contact.refresh_lastResponseNs, if_neg direct]

end tried

namespace RoutingTable

section failures

variable {config : Config} {table result : RoutingTable} {depth : Nat} {contact : Contact}

theorem Inv.length_of_mem (inv : Inv config table depth) (member : contact ∈ table.allContacts) :
    contact.nodeId.length = DHT_NODE_ID_BYTES := by
  obtain ⟨bucket, inside, present⟩ := List.mem_flatMap.mp member
  exact (inv.valid bucket inside).idLength contact (List.mem_append_left _ present)

/-- No replacement has the node ID of a contact. -/
theorem Inv.replacement_apart (inv : Inv config table depth)
    (member : contact ∈ table.allContacts) {replacement : Contact}
    (waiting : replacement ∈ table.allReplacements) : replacement.nodeId ≠ contact.nodeId := by
  intro same
  obtain ⟨front, bucket, back, located⟩ := inv.located (inv.length_of_mem member)
  have cached := inv.mem_replacements located waiting same
  have listed := (inv.mem_contacts_iff located rfl).mp member
  have distinct := (inv.valid bucket located.member).distinct
  rw [Bucket.entries, List.map_append, List.nodup_append] at distinct
  exact distinct.2.2 _ (List.mem_map_of_mem listed) _ (List.mem_map_of_mem cached) same.symm

/-- What takes the place of a contact is all that can have its node ID. -/
theorem Inv.exchanged_only (inv : Inv config table depth) {new : List Contact}
    (exchanged : Exchanged table result [contact] new) {other : Contact}
    (member : other ∈ result.allContacts) (same : other.nodeId = contact.nodeId) :
    other ∈ new := by
  obtain ⟨others, before, after⟩ := exchanged
  have distinct := (before.map Contact.nodeId).nodup_iff.mp inv.ids_nodup
  simp only [List.singleton_append, List.map_cons, List.nodup_cons] at distinct
  obtain fresh | there := List.mem_append.mp (after.mem_iff.mp member)
  · exact fresh
  · exact absurd (same ▸ List.mem_map_of_mem there) distinct.1

theorem Inv.of_markFailure (inv : Inv config table depth) {now : Int} {nodeId : Bytes}
    (ran : table.markFailure config now nodeId = .ok result) : Inv config result depth := by
  by_cases length : nodeId.length = DHT_NODE_ID_BYTES
  · obtain ⟨marked, run, inv', -⟩ := inv.markFailure now length
    exact Except.ok.inj (run.symm.trans ran) ▸ inv'
  · exact (inv.markFailure_other length ran).symm ▸ inv

/-- A contact that a failure makes BAD is BAD or removed afterwards. -/
theorem Inv.markFailure_gone (inv : Inv config table depth) {now : Int}
    (member : contact ∈ table.allContacts) (bad : (failedOnce contact).Bad config)
    (ran : table.markFailure config now contact.nodeId = .ok result) :
    ∀ other ∈ result.allContacts, other.nodeId = contact.nodeId → other.Bad config := by
  intro other present same
  cases inv.markFailure_effect ran with
  | unknown absent _ => exact absurd rfl (absent contact member)
  | counted old sameOld exchanged _ =>
      obtain rfl | ⟨-, apart⟩ := inv.exchanged_cases exchanged member
      · rw [List.mem_singleton.mp (inv.exchanged_only exchanged present same)]
        exact bad
      · exact absurd sameOld.symm apart
  | promoted old replacement sameOld _ waiting exchanged _ =>
      obtain rfl | ⟨-, apart⟩ := inv.exchanged_cases exchanged member
      · have promoted := List.mem_singleton.mp (inv.exchanged_only exchanged present same)
        exact absurd (promoted ▸ same) (inv.replacement_apart member waiting)
      · exact absurd sameOld.symm apart

end failures

end RoutingTable

namespace DHTNode

/-- The contact with the node ID is in the table and not BAD, and it has failed so often or has
answered since that reading of the clock. -/
structure Standing (env : Environment) (localIps : List String) (nodeId : Bytes)
    (since count : Nat) (node : DHTNode) : Prop where
  upkept : Upkept env.config node
  sameIps : node.localIps = localIps
  begun : since ≤ node.ticks
  kept : ∃ contact ∈ node.routing.allContacts, contact.nodeId = nodeId ∧
    ¬ contact.Bad env.config ∧ contact.Tried env since count node.ticks

/-- The table has no contact with the node ID that is not BAD. -/
def Gone (config : Config) (nodeId : Bytes) (node : DHTNode) : Prop :=
  ∀ contact ∈ node.routing.allContacts, contact.nodeId = nodeId → contact.Bad config

/-- The contacts, the addresses of the node and its clock readings are as they were. -/
structure Restful (start node : DHTNode) : Prop where
  contacts : node.routing.allContacts = start.routing.allContacts
  sameIps : node.localIps = start.localIps
  ticks : start.ticks ≤ node.ticks

theorem refreshBucket_restful (place : Nat) (now : Int) (start : DHTNode) :
    Ensures (· = start) (refreshBucket place now) (fun _ => Restful start)
      (fun _ => Restful start) := by
  apply Ensures.get
  intro node same
  rw [same]
  split
  · apply Ensures.pure
    intro state same
    rw [same]
    exact ⟨rfl, rfl, Nat.le_refl _⟩
  · rename_i bucket isBucket
    apply Ensures.setBind
    intro _
    apply Ensures.modify
    intro state same
    rw [same]
    refine ⟨?_, rfl, Nat.le_refl _⟩
    obtain ⟨within, here⟩ := List.getElem?_eq_some_iff.mp isBucket
    have before : start.routing.buckets.take place ++ bucket ::
        start.routing.buckets.drop (place + 1) = start.routing.buckets := by
      rw [← here, List.cons_getElem_drop_succ, List.take_append_drop]
    show (start.routing.buckets.set place _).flatMap Bucket.contacts =
      start.routing.buckets.flatMap Bucket.contacts
    conv_rhs => rw [← before]
    rw [List.set_eq_take_append_cons_drop, if_pos within]
    simp only [List.flatMap_append, List.flatMap_cons]

section standing

variable {env : Environment} {localIps : List String} {nodeId : Bytes} {since count : Nat}
  {start node : DHTNode}

theorem Standing.ofContacts (standing : Standing env localIps nodeId since count start)
    (upkept : Upkept env.config node)
    (contacts : node.routing.allContacts = start.routing.allContacts)
    (sameIps : node.localIps = start.localIps) (ticks : start.ticks ≤ node.ticks) :
    Standing env localIps nodeId since count node := by
  obtain ⟨contact, member, same, sound, tried⟩ := standing.kept
  refine ⟨upkept, sameIps.trans standing.sameIps, Nat.le_trans standing.begun ticks, contact, ?_,
    same, sound, tried.later ticks⟩
  rw [contacts]
  exact member

theorem Standing.chart (standing : Standing env localIps nodeId since count start)
    (routing : node.routing = start.routing) (sameIps : node.localIps = start.localIps)
    (ticks : start.ticks ≤ node.ticks) : Standing env localIps nodeId since count node := by
  obtain ⟨depth, inv⟩ := standing.upkept
  exact standing.ofContacts ⟨depth, routing ▸ inv⟩ (by rw [routing]) sameIps ticks

theorem Standing.fewer (standing : Standing env localIps nodeId since (count + 1) node) :
    Standing env localIps nodeId since count node := by
  obtain ⟨contact, member, same, sound, tried⟩ := standing.kept
  exact { standing with kept := ⟨contact, member, same, sound, tried.fewer⟩ }

theorem Gone.chart {config : Config} (gone : Gone config nodeId start)
    (routing : node.routing = start.routing) : Gone config nodeId node := by
  intro contact member
  rw [routing] at member
  exact gone contact member

theorem standing_detached (env : Environment) (localIps : List String) (nodeId : Bytes)
    (since count : Nat) : Detached (Standing env localIps nodeId since count) where
  ticks _ standing := standing.chart rfl rfl (Nat.le_succ _)
  emitted _ _ standing := standing.chart rfl rfl (Nat.le_refl _)
  candidates _ _ standing := standing.chart rfl rfl (Nat.le_refl _)
  pending _ _ standing := standing.chart rfl rfl (Nat.le_refl _)
  pendingSlots _ _ standing := standing.chart rfl rfl (Nat.le_refl _)
  txCounter _ _ standing := standing.chart rfl rfl (Nat.le_refl _)
  connected _ _ standing := standing.chart rfl rfl (Nat.le_refl _)
  closing _ _ standing := standing.chart rfl rfl (Nat.le_refl _)

/-- The reading of the clock is one from `since` on. -/
theorem monotonicNs_standing :
    Ensures (Standing env localIps nodeId since count) (monotonicNs env)
      (fun now node => Standing env localIps nodeId since count node ∧
        ∃ tick, since ≤ tick ∧ tick < node.ticks ∧ now = env.monotonicNs tick)
      (fun _ _ => False) := by
  apply Ensures.get
  intro node standing
  apply Ensures.setBind
  intro _
  apply Ensures.pure
  intro state same
  rw [same]
  exact ⟨standing.chart rfl rfl (Nat.le_succ _), node.ticks, standing.begun, Nat.lt_succ_self _,
    rfl⟩

variable (validConfig : 1 ≤ env.config.dhtRoutingBadAfterFailures)
include validConfig

/-- The contact survives every observation; a direct response from it is one since. -/
theorem observe_standing (seenId : Bytes) (endpoint : Endpoint) (sighting : Sighting) :
    Ensures (Standing env localIps nodeId since count) (observe env seenId endpoint sighting)
      (fun _ node => Standing env localIps nodeId since count node ∧
        (seenId = nodeId → sighting.directResponse = true →
          ∀ more, Standing env localIps nodeId since more node))
      (fun _ _ => False) := by
  apply Ensures.bind monotonicNs_standing
  intro now
  apply Ensures.get
  rintro node ⟨standing, tick, begun, read, rfl⟩
  obtain ⟨depth, inv⟩ := standing.upkept
  obtain ⟨contact, member, same, sound, tried⟩ := standing.kept
  obtain ⟨routing, found, depth', observed, inv', -⟩ := inv.observe validConfig
    (env.monotonicNs tick) seenId endpoint.1 endpoint.2 sighting
  have kept := (inv.observe_retains observed).contacts contact member sound
  rw [observed]
  apply Ensures.raiseBind _ (by simp)
  intro result isResult
  cases isResult
  apply Ensures.setBind
  intro _
  apply Ensures.pure
  intro state same
  subst same
  have stands : ∀ more, (TableCall.touch contact (.observe (env.monotonicNs tick) seenId endpoint.1
      endpoint.2 sighting)).Tried env since more node.ticks →
      Standing env localIps nodeId since more { node with routing } := by
    intro more tried
    refine ⟨⟨depth', inv'⟩, standing.sameIps, standing.begun, _, kept, ?_, ?_, tried⟩
    · rw [TableCall.touch_nodeId, same]
    · simp only [TableCall.touch]
      split
      · exact contact.refresh_sound validConfig _ _ _ _ sound
      · exact sound
  constructor
  · apply stands
    simp only [TableCall.touch]
    split
    · exact tried.refresh begun read _ _ _
    · exact tried
  · intro seen direct more
    apply stands
    rw [TableCall.touch, if_pos (seen.trans same.symm)]
    exact Contact.tried_refresh begun read _ _ direct

theorem meet_standing (seenId : Bytes) (endpoint : Endpoint) (sighting : Sighting) :
    Preserves (Standing env localIps nodeId since count) (meet env seenId endpoint sighting) := by
  apply Ensures.bind ((observe_standing validConfig seenId endpoint sighting).raises
    fun _ _ impossible => impossible.elim)
  intro _
  exact Ensures.pure fun _ seen => seen.1

theorem learnContacts_standing (emitChildren : Bool) (index : Nat)
    (contacts : List (Bytes × String × Int)) :
    Preserves (Standing env localIps nodeId since count)
      (learnContacts env emitChildren index contacts) :=
  (standing_detached env localIps nodeId since count).noting.learnContacts env
    (fun seenId endpoint => meet_standing validConfig seenId endpoint {}) emitChildren index contacts

theorem continueWith_standing (caller : Caller) (endpoint : Endpoint) (response : Message) :
    Preserves (Standing env localIps nodeId since count)
      (continueWith env caller endpoint response) := by
  apply continueWith_ensures env caller endpoint response (Preserves.pure ())
  · intro remoteId _
    exact meet_standing validConfig remoteId endpoint _
  · exact learnContacts_standing validConfig false 0 _

theorem restoreContacts_standing (records : List SnapshotRecord) :
    Preserves (Standing env localIps nodeId since count) (restoreContacts env records) := by
  induction records with
  | nil => exact Preserves.pure ()
  | cons record records ih =>
      apply Ensures.bind (monotonicNs_standing.raises fun _ _ impossible => impossible.elim)
      intro now
      apply Ensures.get
      rintro node ⟨standing, tick, begun, read, rfl⟩
      obtain ⟨depth, inv⟩ := standing.upkept
      obtain ⟨contact, member, same, sound, tried⟩ := standing.kept
      obtain ⟨routing, depth', restored, inv', -⟩ :=
        inv.restoreRecord validConfig (env.monotonicNs tick) record
      have kept := (inv.restoreRecord_retains restored).1 contact member sound
      rw [restored]
      apply Ensures.raiseBind _ (by simp)
      intro result isResult
      cases isResult
      apply Ensures.setBind
      intro _
      refine ih.ensures ?_ (fun _ _ holds => holds) fun _ _ holds => holds
      intro state same'
      rw [same']
      refine ⟨⟨depth', inv'⟩, standing.sameIps, standing.begun, _, kept, ?_, ?_, ?_⟩
      · rw [SnapshotRecord.touch_nodeId, same]
      · exact RoutingTable.touch_sound validConfig sound _
      · unfold SnapshotRecord.touch
        split
        · split
          · exact tried.refresh begun read _ _ _
          · exact tried
        · exact tried

omit validConfig in
/-- A refreshed bucket has the same contacts. -/
theorem refreshBucket_standing (place : Nat) (now : Int) :
    Preserves (Standing env localIps nodeId since count) (refreshBucket place now) := by
  intro node standing
  have upkept := (refreshBucket_upkept env.config place now).ensures
    (fun state (same : state = node) => same ▸ standing.upkept) (fun _ _ upkept => upkept)
    fun _ _ upkept => upkept
  have restful := upkept.and (refreshBucket_restful place now node)
  exact restful.weaken (fun _ same => same)
    (fun _ _ after => standing.ofContacts after.1 after.2.contacts after.2.sameIps after.2.ticks)
    (fun _ _ after => standing.ofContacts after.1 after.2.contacts after.2.sameIps after.2.ticks)
    node rfl

theorem standing_bearing : Bearing env (Standing env localIps nodeId since count) where
  connect _ standing := standing.chart rfl rfl (Nat.le_refl _)
  pendingSlots _ _ standing := standing.chart rfl rfl (Nat.le_refl _)
  restoreContacts := restoreContacts_standing validConfig
  launch request :=
    (standing_detached env localIps nodeId since count).unbooked.launch env request
      fun _ _ _ _ standing => standing.chart rfl rfl (Nat.le_refl _)
  cancelFuture := (standing_detached env localIps nodeId since count).unbooked.cancelFuture
  forget := (standing_detached env localIps nodeId since count).unbooked.forget
  continueWith := continueWith_standing validConfig
  takeNodes _ := learnContacts_standing validConfig false 0 _
  refreshBucket := refreshBucket_standing
  closeIngress := (standing_detached env localIps nodeId since count).unbooked.closeIngress

/-- The contact survives what a query makes the node do. -/
theorem Queried.standing {msg : Message} {source : Endpoint}
    (standing : Standing env localIps nodeId since count start)
    (queried : Queried env msg source start node) :
    Standing env localIps nodeId since count node := by
  obtain ⟨turn, responded⟩ | ⟨method, args, remoteId, _, turn, responded⟩ := queried
  · exact standing.chart responded.routing responded.localIps
      (Nat.le_trans responded.begun responded.ticks)
  · have greets : Preserves (Standing env localIps nodeId since count)
        (greet env msg source method remoteId) :=
      (standing_detached env localIps nodeId since count).noting.greet env msg source method
        remoteId fun sighting _ => meet_standing validConfig remoteId source sighting
    exact (greets.after standing).chart responded.routing responded.localIps
      (Nat.le_trans responded.begun responded.ticks)

/-- The contact survives every datagram, with its failures unless it has answered. -/
theorem datagramReceived_standing (data : Bytes) (source : Endpoint) :
    Preserves (Standing env localIps nodeId since count) (datagramReceived env data source) := by
  intro start standing
  have detached := standing_detached env localIps nodeId since count
  exact datagramReceived_rule detached.noting env data source start standing
    (fun msg _ _ _ _ => (handleQuery_ensures env msg source start).weaken (fun _ same => same)
      (fun _ _ queried => queried.standing validConfig standing)
      fun _ _ queried => queried.standing validConfig standing)
    (fun msg _ _ kind => handleResponseOrError_rule detached.noting env msg source start kind
      standing (fun pending _ _ _ _ => detached.unbooked.settle _ _ pending)
      fun pending response remoteId _ =>
        detached.noting.acceptResponse env (meet_standing validConfig) msg source _ pending response
          remoteId (fun _ standing => standing) (detached.emitResponseEvidence env msg source _ _)
          (detached.unbooked.settle _ _ pending)) start rfl

omit validConfig

theorem Standing.length (standing : Standing env localIps nodeId since count node) :
    nodeId.length = DHT_NODE_ID_BYTES := by
  obtain ⟨depth, inv⟩ := standing.upkept
  obtain ⟨contact, member, same, -⟩ := standing.kept
  exact same ▸ inv.length_of_mem member

/-- The contact is as before and has so many failures, or it is not there any more. -/
def Marked (env : Environment) (localIps : List String) (nodeId : Bytes) (since count : Nat)
    (node : DHTNode) : Prop :=
  Standing env localIps nodeId since count node ∨ Gone env.config nodeId node

theorem Marked.chart (marked : Marked env localIps nodeId since count start)
    (routing : node.routing = start.routing) (sameIps : node.localIps = start.localIps)
    (ticks : start.ticks ≤ node.ticks) : Marked env localIps nodeId since count node :=
  marked.imp (·.chart routing sameIps ticks) (·.chart routing)

theorem marked_detached (env : Environment) (localIps : List String) (nodeId : Bytes)
    (since count : Nat) : Detached (Marked env localIps nodeId since count) where
  ticks _ marked := marked.chart rfl rfl (Nat.le_succ _)
  emitted _ _ marked := marked.chart rfl rfl (Nat.le_refl _)
  candidates _ _ marked := marked.chart rfl rfl (Nat.le_refl _)
  pending _ _ marked := marked.chart rfl rfl (Nat.le_refl _)
  pendingSlots _ _ marked := marked.chart rfl rfl (Nat.le_refl _)
  txCounter _ _ marked := marked.chart rfl rfl (Nat.le_refl _)
  connected _ _ marked := marked.chart rfl rfl (Nat.le_refl _)
  closing _ _ marked := marked.chart rfl rfl (Nat.le_refl _)

/-- `mark_failure` counts one more failure if it is for this contact. -/
theorem markFailure_standing (failedId : Bytes) :
    Ensures (Standing env localIps nodeId since count) (markFailure env failedId)
      (fun _ => Marked env localIps nodeId since (if failedId = nodeId then count + 1 else count))
      (fun _ node => failedId ≠ nodeId ∧ Standing env localIps nodeId since count node) := by
  apply Ensures.bind (monotonicNs_standing.raises fun _ _ impossible => impossible.elim)
  intro now
  apply Ensures.get
  rintro node ⟨standing, -⟩
  have length := standing.length
  obtain ⟨depth, inv⟩ := standing.upkept
  obtain ⟨contact, member, same, sound, tried⟩ := standing.kept
  apply Ensures.raiseBind
  · intro routing ran
    have inv' := inv.of_markFailure ran
    have retains := (inv.markFailure_retains ran).contacts contact member
    apply Ensures.set
    intro _ _
    by_cases mine : failedId = nodeId
    · have touched : TableCall.touch contact (.markFailure now failedId) =
          RoutingTable.failedOnce contact := if_pos (mine.trans same.symm)
      rw [if_pos mine]
      by_cases bad : (RoutingTable.failedOnce contact).Bad env.config
      · rw [mine, ← same] at ran
        exact .inr (same ▸ inv.markFailure_gone member bad ran)
      · have spared : TableCall.Spares env.config contact (.markFailure now failedId) := by
          rw [TableCall.Spares, touched]
          exact bad
        have kept := retains spared
        rw [touched] at kept
        exact .inl ⟨⟨depth, inv'⟩, standing.sameIps, standing.begun, _, kept, same, bad,
          tried.failedOnce⟩
    · have touched : TableCall.touch contact (.markFailure now failedId) = contact :=
        if_neg fun other => mine (other.trans same)
      have spared : TableCall.Spares env.config contact (.markFailure now failedId) := by
        rw [TableCall.Spares, touched]
        exact sound
      have kept := retains spared
      rw [touched] at kept
      rw [if_neg mine]
      exact .inl ⟨⟨depth, inv'⟩, standing.sameIps, standing.begun, _, kept, same, sound, tried⟩
  · intro fault failed state same'
    refine ⟨fun mine => ?_, same' ▸ standing⟩
    obtain ⟨marked, run, -⟩ := inv.markFailure now length
    rw [mine, run] at failed
    cases failed

/-- A query that times out counts as a failure of the node that it expected. -/
theorem expire_standing (request : Request) (tid : Bytes) :
    Ensures (Standing env localIps nodeId since count) (expire env request tid)
      (fun _ => Marked env localIps nodeId since
        (if request.expectedNodeId = some nodeId then count + 1 else count))
      (fun _ => Marked env localIps nodeId since
        (if request.expectedNodeId = some nodeId then count + 1 else count)) := by
  let counted := if request.expectedNodeId = some nodeId then count + 1 else count
  have detached := marked_detached env localIps nodeId since counted
  have unmarked : ∀ node, request.expectedNodeId ≠ some nodeId →
      Standing env localIps nodeId since count node →
      Marked env localIps nodeId since counted node := by
    intro node other standing
    left
    rwa [show counted = count from if_neg other]
  have marks : Ensures (Standing env localIps nodeId since count)
      (Effects.when (!(request.expectedNodeId.getD []).isEmpty)
        (markFailure env (request.expectedNodeId.getD [])))
      (fun _ => Marked env localIps nodeId since counted)
      (fun _ => Marked env localIps nodeId since counted) := by
    apply Ensures.when
    · intro named
      refine (markFailure_standing (request.expectedNodeId.getD [])).weaken
        (fun _ standing => standing) (fun _ node marked => ?_) fun _ node other => ?_
      · cases expected : request.expectedNodeId with
        | none => simp [expected] at named
        | some failedId => simpa [counted, expected] using marked
      · refine unmarked node (fun expected => other.1 ?_) other.2
        rw [expected, Option.getD_some]
    · intro unnamed node standing
      refine unmarked node (fun expected => ?_) standing
      have length := standing.length
      simp only [expected, Option.getD_some, Bool.not_eq_false', List.isEmpty_iff] at unnamed
      rw [unnamed] at length
      cases length
  apply Ensures.bind
  · apply Ensures.tryCatch
    · exact marks.bind fun _ => detached.unbooked.emitError env _ _ _ _
    · intro fault
      exact (detached.unbooked.forget tid).bind fun _ => Preserves.throw fault
  · intro _
    exact detached.unbooked.forget tid

end standing

end DHTNode

end PyDht
