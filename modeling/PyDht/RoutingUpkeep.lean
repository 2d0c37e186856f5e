import PyDht.NodeRuns
import PyDht.RoutingRestore

set_option autoImplicit false

namespace PyDht

open Effects (Ensures Preserves Total)

namespace DHTNode

/-- The routing table of the node is in order. -/
def Upkept (config : Config) (node : DHTNode) : Prop :=
  ∃ depth, RoutingTable.Inv config node.routing depth

theorem upkept_detached (config : Config) : Detached (Upkept config) where
  ticks _ upkept := upkept
  emitted _ _ upkept := upkept
  candidates _ _ upkept := upkept
  pending _ _ upkept := upkept
  pendingSlots _ _ upkept := upkept
  txCounter _ _ upkept := upkept
  connected _ _ upkept := upkept
  closing _ _ upkept := upkept

theorem monotonicNs_total (env : Environment) : Total (monotonicNs env) := fun _ _ => trivial

theorem submit_total (env : Environment) (key : Bytes) (source : String)
    (peerHint : Option PeerHint) : Total (submit env key source peerHint) := fun _ _ => trivial

theorem emitSamples_total (env : Environment) (index : Nat) (keys : List Bytes) :
    Total (emitSamples env index keys) := by
  induction keys generalizing index with
  | nil => exact Total.pure ()
  | cons key rest ih =>
      apply Total.bind (emit_total _)
      intro _
      apply Total.bind (submit_total env key "bep51" none)
      intro _
      exact ih (index + 1)

theorem emitValue_total (index : Nat) (raw : Value) : Total (emitValue index raw) := by
  unfold emitValue
  split
  · exact emit_total _
  · exact Total.pure ()

theorem emitValues_total (index : Nat) (values : List Value) :
    Total (emitValues index values) := by
  induction values generalizing index with
  | nil => exact Total.pure ()
  | cons raw rest ih =>
      apply Total.bind (emitValue_total index raw)
      intro _
      exact ih (index + 1)

theorem emitResponseEvidence_total (env : Environment) (msg : Message) (endpoint : Endpoint)
    (query : Bytes) (direction : Direction) :
    Total (emitResponseEvidence env msg endpoint query direction) := by
  apply Total.bind (Total.when (emitSamples_total env 0 _))
  intro _
  apply Total.bind (emitValues_total 0 _)
  intro _
  exact emit_total _

theorem reportContacts6_total (index : Nat) (contacts : List (Bytes × Bytes × Nat)) :
    Total (reportContacts6 index contacts) := by
  induction contacts generalizing index with
  | nil => exact Total.pure ()
  | cons contact rest ih =>
      apply Total.bind (emit_total _)
      intro _
      exact ih (index + 1)

theorem settle_total (tid : Bytes) (outcome : QueryFuture) (pending : PendingQuery) :
    Total (settle tid outcome pending) := by
  unfold settle
  split
  · exact Total.modify _
  · exact Total.pure ()

theorem settle_upkept {config : Config} (tid : Bytes) (outcome : QueryFuture)
    (pending : PendingQuery) :
    Ensures (Upkept config) (settle tid outcome pending) (fun _ => Upkept config)
      (fun _ _ => False) :=
  (settle_total tid outcome pending).keeps ((upkept_detached config).unbooked.settle tid outcome pending)

theorem Answered.upkept {env : Environment} {config : Config} {start node : DHTNode} {method : Bytes}
    {args : Message} {source : Endpoint} (upkept : Upkept config start)
    (answered : Answered env start method args source node) : Upkept config node := by
  rcases answered with ⟨turn, responded⟩
  rcases upkept with ⟨depth, inv⟩
  exact ⟨depth, responded.routing ▸ inv⟩

section upkeep

variable {env : Environment} (validConfig : 1 ≤ env.config.dhtRoutingBadAfterFailures)
include validConfig

/-- With the table in order an observation never raises. -/
theorem observe_upkept (nodeId : Bytes) (endpoint : Endpoint) (sighting : Sighting) :
    Ensures (Upkept env.config) (observe env nodeId endpoint sighting)
      (fun _ => Upkept env.config) (fun _ _ => False) := by
  apply Ensures.bind ((monotonicNs_total env).keeps ((upkept_detached env.config).monotonicNs env))
  intro now
  apply Ensures.get
  intro node upkept
  rcases upkept with ⟨depth, inv⟩
  rcases inv.observe validConfig now nodeId endpoint.1 endpoint.2 sighting with
    ⟨routing, found, depth', observed, inv', _⟩
  rw [observed]
  apply Ensures.raiseBind _ (by simp)
  intro result same
  cases same
  apply Ensures.setBind
  intro _
  apply Ensures.pure
  intro state same
  exact same ▸ ⟨depth', inv'⟩

theorem meet_upkept (nodeId : Bytes) (endpoint : Endpoint) (sighting : Sighting) :
    Ensures (Upkept env.config) (meet env nodeId endpoint sighting)
      (fun _ => Upkept env.config) (fun _ _ => False) := by
  apply Ensures.bind (observe_upkept validConfig nodeId endpoint sighting)
  intro _
  exact Ensures.pure fun _ upkept => upkept

theorem learnContacts_upkept (emitChildren : Bool) (index : Nat)
    (contacts : List (Bytes × String × Int)) :
    Ensures (Upkept env.config) (learnContacts env emitChildren index contacts)
      (fun _ => Upkept env.config) (fun _ _ => False) := by
  induction contacts generalizing index with
  | nil => exact Ensures.pure fun _ upkept => upkept
  | cons contact rest ih =>
      apply Ensures.bind ((Total.when (emit_total _)).keeps
        (Preserves.when fun _ => (upkept_detached env.config).emit _))
      intro _
      apply Ensures.get
      intro node upkept
      have met : Ensures (Upkept env.config) (Effects.when
          (endpointAllowed env.config node.localIps contact.2.1 contact.2.2)
          (meet env contact.1 contact.2 {})) (fun _ => Upkept env.config) (fun _ _ => False) :=
        Ensures.when (fun _ => meet_upkept validConfig contact.1 contact.2 {})
          fun _ _ upkept => upkept
      exact (met.bind fun _ => ih (index + 1)).weaken (fun _ same => same ▸ upkept)
        (fun _ _ holds => holds) fun _ _ holds => holds

theorem parseResponseContacts_upkept (response : Message) (emitChildren : Bool) :
    Ensures (Upkept env.config) (parseResponseContacts env response emitChildren)
      (fun _ => Upkept env.config) (fun _ _ => False) := by
  apply Ensures.bind (learnContacts_upkept validConfig emitChildren 0 _)
  intro _
  exact (Total.when (reportContacts6_total 0 _)).keeps
    (Preserves.when fun _ => (upkept_detached env.config).noting.reportContacts6 0 _)

/-- Taking up a response never raises, so its query is settled in the end. -/
theorem acceptResponse_rule {settled : DHTNode → Prop} (msg : Message) (endpoint : Endpoint)
    (tid : Bytes) (pending : PendingQuery) (response : Message) (remoteId : Bytes)
    (settles : Ensures (Upkept env.config) (settle tid (.result response) pending)
      (fun _ => settled) (fun _ _ => False)) :
    Ensures (Upkept env.config) (acceptResponse env msg endpoint tid pending response remoteId)
      (fun _ => settled) (fun _ _ => False) := by
  apply Ensures.get
  intro node upkept
  have introduced : Ensures (Upkept env.config) (Effects.when
      (endpointAllowed env.config node.localIps endpoint.1 endpoint.2)
      (meet env remoteId endpoint
        { directResponse := true, clientVersion := Value.asBytes (msg.get? "v") }))
      (fun _ => Upkept env.config) (fun _ _ => False) :=
    Ensures.when (fun _ => meet_upkept validConfig remoteId endpoint _) fun _ _ upkept => upkept
  have rest : ∀ important : Bool, Ensures (Upkept env.config) (do
      parseResponseContacts env response important
      Effects.when important (emitResponseEvidence env msg endpoint pending.query .incoming)
      settle tid (.result response) pending) (fun _ => settled) (fun _ _ => False) := by
    intro important
    apply Ensures.bind (parseResponseContacts_upkept validConfig response important)
    intro _
    apply Ensures.bind ((Total.when (emitResponseEvidence_total env msg endpoint _ _)).keeps
      (Preserves.when fun _ =>
        (upkept_detached env.config).emitResponseEvidence env msg endpoint _ _))
    intro _
    exact settles
  exact (introduced.bind fun _ => rest _).weaken (fun _ same => same ▸ upkept)
    (fun _ _ holds => holds) fun _ _ holds => holds

theorem handleResponseOrError_upkept (msg : Message) (source : Endpoint) (start : DHTNode)
    (kind : Value.asBytes (msg.get? "y") = some (ascii "r") ∨
      Value.asBytes (msg.get? "y") = some (ascii "e"))
    (upkept : Upkept env.config start) :
    Ensures (· = start) (handleResponseOrError env msg source) (fun _ => Upkept env.config)
      (fun _ _ => False) :=
  handleResponseOrError_rule (upkept_detached env.config).noting env msg source start kind upkept
    (fun pending _ _ _ _ => settle_upkept _ _ pending)
    fun pending response remoteId _ =>
      acceptResponse_rule validConfig msg source _ pending response remoteId
        (settle_upkept _ _ pending)

/-- Meeting the sender of a query never raises. -/
theorem greet_upkept (msg : Message) (source : Endpoint) (method remoteId : Bytes) :
    Ensures (Upkept env.config) (greet env msg source method remoteId)
      (fun _ => Upkept env.config) (fun _ _ => False) := by
  apply Ensures.get
  intro node upkept
  have introduced : Ensures (Upkept env.config) (Effects.when
      (endpointAllowed env.config node.localIps source.1 source.2)
      (meet env remoteId source
        { incomingQuery := true
          readOnly := ((msg.get? "ro").map Value.truth).getD false
          clientVersion := Value.asBytes (msg.get? "v") }))
      (fun _ => Upkept env.config) (fun _ _ => False) :=
    Ensures.when (fun _ => meet_upkept validConfig remoteId source _) fun _ _ upkept => upkept
  exact (introduced.bind fun _ => (Total.when (emit_total _)).keeps
    (Preserves.when fun _ => (upkept_detached env.config).emit _)).weaken
    (fun _ same => same ▸ upkept) (fun _ _ holds => holds) fun _ _ holds => holds

theorem Queried.upkept {start node : DHTNode} {msg : Message} {source : Endpoint}
    (upkept : Upkept env.config start) (queried : Queried env msg source start node) :
    Upkept env.config node := by
  rcases queried with refused | ⟨method, args, remoteId, _, answered⟩
  · exact refused.upkept upkept
  · have greeted : Preserves (Upkept env.config) (greet env msg source method remoteId) :=
      (greet_upkept validConfig msg source method remoteId).raises
        fun _ _ impossible => impossible.elim
    exact answered.upkept (greeted.after upkept)

theorem restoreContacts_upkept (records : List SnapshotRecord) :
    Ensures (Upkept env.config) (restoreContacts env records) (fun _ => Upkept env.config)
      (fun _ _ => False) := by
  induction records with
  | nil => exact Ensures.pure fun _ upkept => upkept
  | cons record records ih =>
      apply Ensures.bind ((monotonicNs_total env).keeps
        ((upkept_detached env.config).monotonicNs env))
      intro now
      apply Ensures.get
      intro node upkept
      rcases upkept with ⟨depth, inv⟩
      rcases inv.restoreRecord validConfig now record with ⟨routing, depth', restored, inv', _⟩
      rw [restored]
      apply Ensures.raiseBind _ (by simp)
      intro result same
      cases same
      apply Ensures.setBind
      intro _
      exact ih.weaken (fun _ same => same ▸ ⟨depth', inv'⟩) (fun _ _ holds => holds)
        fun _ _ holds => holds

end upkeep

theorem markFailure_upkept (env : Environment) (nodeId : Bytes) :
    Preserves (Upkept env.config) (markFailure env nodeId) := by
  apply Preserves.bind ((upkept_detached env.config).monotonicNs env)
  intro now
  apply Preserves.get
  intro node upkept
  apply Ensures.raiseBind _ fun _ _ _ same => same ▸ upkept
  intro routing marked
  rcases upkept with ⟨depth, inv⟩
  apply Ensures.set
  intro _ _
  by_cases length : nodeId.length = DHT_NODE_ID_BYTES
  · rcases inv.markFailure now length with ⟨result, run, inv', _⟩
    exact ⟨depth, Except.ok.inj (run.symm.trans marked) ▸ inv'⟩
  · exact ⟨depth, (inv.markFailure_other length marked).symm ▸ inv⟩

/-- A refreshed bucket differs in its time only. -/
theorem refreshBucket_upkept (config : Config) (place : Nat) (now : Int) :
    Preserves (Upkept config) (refreshBucket place now) := by
  apply Preserves.get
  intro node upkept
  split
  · exact Ensures.pure fun _ same => same ▸ upkept
  · rename_i bucket isBucket
    rcases upkept with ⟨depth, inv⟩
    have within := (List.getElem?_eq_some_iff.mp isBucket).1
    have isHere := (List.getElem?_eq_some_iff.mp isBucket).2
    have before : node.routing.buckets = node.routing.buckets.take place ++ bucket ::
        node.routing.buckets.drop (place + 1) := by
      rw [← isHere, List.cons_getElem_drop_succ, List.take_append_drop]
    have valid := inv.valid bucket (List.mem_of_getElem? isBucket)
    have refreshed : RoutingTable.Inv config { node.routing with
        buckets := node.routing.buckets.set place { bucket with lastChangedNs := now } } depth :=
      inv.exchange before rfl (List.set_eq_take_append_cons_drop.trans (if_pos within)) rfl rfl
        { valid with }
    apply Ensures.setBind
    intro _
    apply Ensures.modify
    intro state same
    exact same ▸ ⟨depth, refreshed⟩

theorem continueWith_upkept {env : Environment}
    (validConfig : 1 ≤ env.config.dhtRoutingBadAfterFailures) (caller : Caller)
    (endpoint : Endpoint) (response : Message) :
    Ensures (Upkept env.config) (continueWith env caller endpoint response)
      (fun _ => Upkept env.config) (fun _ _ => False) := by
  apply continueWith_ensures env caller endpoint response
  · exact Ensures.pure fun _ upkept => upkept
  · intro remoteId _
    exact meet_upkept validConfig remoteId endpoint _
  · exact learnContacts_upkept validConfig false 0 _

theorem upkept_lasting {env : Environment}
    (validConfig : 1 ≤ env.config.dhtRoutingBadAfterFailures) :
    Lasting env (Upkept env.config) where
  connect _ upkept := upkept
  pendingSlots _ _ upkept := upkept
  restoreContacts records := (restoreContacts_upkept validConfig records).raises
    fun _ _ impossible => impossible.elim
  datagramReceived data source start upkept :=
    datagramReceived_rule (upkept_detached env.config).noting env data source start upkept
      (fun msg _ _ _ _ => (handleQuery_ensures env msg source start).weaken (fun _ same => same)
        (fun _ _ queried => Queried.upkept validConfig upkept queried)
        fun _ _ queried => Queried.upkept validConfig upkept queried)
      (fun msg _ _ kind => (handleResponseOrError_upkept validConfig msg source start kind
        upkept).raises fun _ _ impossible => impossible.elim) start rfl
  launch request := (upkept_detached env.config).unbooked.launch env request fun _ _ _ _ upkept => upkept
  cancelFuture := (upkept_detached env.config).unbooked.cancelFuture
  forget := (upkept_detached env.config).unbooked.forget
  expire request tid :=
    (upkept_detached env.config).unbooked.expire env request tid (markFailure_upkept env)
  continueWith caller endpoint response :=
    (continueWith_upkept validConfig caller endpoint response).raises
      fun _ _ impossible => impossible.elim
  takeNodes _ := (learnContacts_upkept validConfig false 0 _).raises
    fun _ _ impossible => impossible.elim
  refreshBucket := refreshBucket_upkept env.config
  closeIngress := (upkept_detached env.config).unbooked.closeIngress

end DHTNode

namespace NodeSystem

/-- In every state of every run the routing table is in order. -/
theorem run_upkept {env : Environment} (validConfig : 1 ≤ env.config.dhtRoutingBadAfterFailures)
    {nodeId : Bytes} {candidates : CandidateManager} {txCounter : Nat} {localIps : List String}
    {start system : NodeSystem} {events : List NodeEvent}
    (made : new env nodeId candidates txCounter localIps = .ok start)
    (ran : Transition.run (step env) start events = some system) :
    DHTNode.Upkept env.config system.node := by
  rcases new_ok made with ⟨length, _, routing, isRouting, rfl⟩
  rcases RoutingTable.new_inv env.config length (env.monotonicNs 0) with ⟨table, isTable, inv, _⟩
  rw [isTable] at isRouting
  cases isRouting
  exact node_of_run (DHTNode.upkept_lasting validConfig) ⟨0, inv⟩ ran

end NodeSystem

end PyDht
