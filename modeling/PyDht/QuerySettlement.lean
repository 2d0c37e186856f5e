import PyDht.QueryRuns
import PyDht.RoutingUpkeep

set_option autoImplicit false

namespace PyDht

open Effects (Ensures Preserves)

/-- `future.done()`. -/
def QueryFuture.done : QueryFuture → Bool
  | .waiting => false
  | _ => true

namespace DHTNode

/-- The datagram holds a response that passes all checks for a query whose
future is done already. -/
def repeats (env : Environment) (data : Bytes) (source : Endpoint) (node : DHTNode) : Bool :=
  decide ((data.length : Int) ≤ env.config.dhtReceiveMaxBytes) &&
    match receive env.config data with
    | .error _ => false
    | .ok msg =>
        match Dict.get? (transaction msg) node.pending, Value.asDict (msg.get? "r") with
        | some pending, some response =>
            pending.future.done && decide (pending.endpoint = source) &&
              decide (Value.asBytes (msg.get? "y") = some (ascii "r")) &&
              (match Value.asKey (response.get? "id") with
              | none => false
              | some remoteId => !pending.expectedNodeId.any (· ≠ remoteId)) &&
              responseMatchesQuery pending.query response
        | _, _ => false

theorem Accepted.repeats {env : Environment} {data : Bytes} {source : Endpoint} {node : DHTNode}
    {msg : Message} {pending : PendingQuery} {response : Message} {remoteId : Bytes}
    (small : (data.length : Int) ≤ env.config.dhtReceiveMaxBytes)
    (received : receive env.config data = .ok msg)
    (accepted : Accepted node msg source pending response remoteId)
    (done : pending.future.done = true) : node.repeats env data source = true := by
  simp only [DHTNode.repeats, small, received, accepted.awaited, accepted.content, done,
    accepted.origin, accepted.kind, accepted.named, accepted.expected, accepted.shape]
  rfl

/-- A response that passes all checks is taken up. -/
theorem Accepted.handled {env : Environment} {node : DHTNode} {msg : Message}
    {source : Endpoint} {pending : PendingQuery} {response : Message} {remoteId : Bytes}
    (accepted : Accepted node msg source pending response remoteId) :
    handleResponseOrError env msg source node =
      acceptResponse env msg source (transaction msg) pending response remoteId node := by
  have noError : Value.asBytes (msg.get? "y") ≠ some (ascii "e") := by
    rw [accepted.kind]
    decide
  have awaited : Dict.get? ((Value.asBytes (msg.get? "t")).getD []) node.pending = some pending :=
    accepted.awaited
  have read : (EStateM.get : Node DHTNode) node = .ok node node := rfl
  unfold handleResponseOrError
  simp only [bind, EStateM.bind, get, getThe, MonadStateOf.get, read, awaited, accepted.origin,
    noError, accepted.content, accepted.named, accepted.expected, accepted.shape, ne_eq,
    not_true_eq_false, Bool.not_true, Bool.false_eq_true, if_false]
  rfl

/-- The entry for the transaction ID, if there is one, has its outcome. -/
def Finished (tid : Bytes) (node : DHTNode) : Prop :=
  ∀ pending, Dict.get? tid node.pending = some pending → pending.future.done = true

theorem finished_aside (tid : Bytes) : Aside (Finished tid) where
  ticks _ finished := finished
  emitted _ _ finished := finished
  candidates _ _ finished := finished
  routing _ _ finished := finished

theorem settle_finished (tid known : Bytes) {outcome : QueryFuture} (done : outcome.done = true)
    (pending : PendingQuery) : Preserves (Finished tid) (settle known outcome pending) := by
  unfold settle
  split
  · apply Preserves.modify
    intro node finished entry found
    dsimp only at found
    by_cases same : tid = known
    · rw [same, Dict.get?_set_self] at found
      exact Option.some.inj found ▸ done
    · rw [Dict.get?_set_ne same] at found
      exact finished entry found
  · exact Preserves.pure ()

theorem forget_finished (tid known : Bytes) : Preserves (Finished tid) (forget known) := by
  apply Preserves.modify
  intro node finished entry found
  dsimp only at found
  by_cases same : tid = known
  · rw [same, Dict.get?_pop_self] at found
    cases found
  · rw [Dict.get?_pop_ne same] at found
    exact finished entry found

theorem expire_finished (env : Environment) (request : Request) (tid known : Bytes) :
    Preserves (Finished tid) (expire env request known) := by
  apply Preserves.bind
  · apply Preserves.tryCatch ((finished_aside tid).roaming.timedOut env request)
    intro fault
    exact (forget_finished tid known).bind fun _ => Preserves.throw fault
  · intro _
    exact forget_finished tid known

theorem cancelFuture_finished (tid known : Bytes) :
    Preserves (Finished tid) (cancelFuture known) := by
  apply Preserves.get
  intro node finished
  split
  · exact Ensures.pure fun _ same => same ▸ finished
  · exact (settle_finished tid known rfl _).ensures (fun _ same => same ▸ finished)
      (fun _ _ after => after) fun _ _ after => after

theorem closeIngress_finished (tid : Bytes) : Preserves (Finished tid) closeIngress := by
  apply Preserves.modify
  intro node finished entry found
  have member := Dict.mem_of_get? found
  rcases List.mem_map.mp member with ⟨before, inside, same⟩
  split at same
  · rw [← (Prod.mk.inj same).2]
    rfl
  · rename_i notWaiting
    have kept : before.2 = entry := congrArg Prod.snd same
    rw [← kept]
    cases future : before.2.future with
    | waiting => exact absurd future notWaiting
    | _ => rfl

theorem datagramReceived_finished (tid : Bytes) (env : Environment) (data : Bytes)
    (source : Endpoint) : Preserves (Finished tid) (datagramReceived env data source) := by
  intro start finished
  have aside := finished_aside tid
  exact datagramReceived_rule aside.noting env data source start finished
    (fun msg _ _ _ _ => (handleQuery_ensures env msg source start).weaken (fun _ same => same)
      (fun _ _ queried entry found => finished entry (queried.pending.1 ▸ found))
      fun _ _ queried entry found => finished entry (queried.pending.1 ▸ found))
    (fun msg _ _ kind => handleResponseOrError_rule aside.noting env msg source start kind finished
      (fun pending _ _ _ _ => settle_finished tid _ rfl pending)
      fun pending response remoteId _ =>
        aside.acceptResponse env msg source _ pending response remoteId
          (settle_finished tid _ rfl pending)) start rfl

/-- Once a response is accepted its query has an outcome. -/
theorem Accepted.finishes {env : Environment}
    (validConfig : 1 ≤ env.config.dhtRoutingBadAfterFailures) {node : DHTNode}
    (upkept : Upkept env.config node) {data : Bytes} {source : Endpoint} {msg : Message}
    {pending : PendingQuery} {response : Message} {remoteId : Bytes}
    (small : (data.length : Int) ≤ env.config.dhtReceiveMaxBytes)
    (received : receive env.config data = .ok msg)
    (accepted : Accepted node msg source pending response remoteId)
    (fresh : node.repeats env data source = false) :
    Finished (transaction msg) (Effects.after (datagramReceived env data source) node) := by
  have waiting : pending.future = .waiting := by
    cases future : pending.future with
    | waiting => rfl
    | _ =>
        have done : pending.future.done = true := by rw [future]; rfl
        rw [accepted.repeats small received done] at fresh
        cases fresh
  have settles : Ensures (Upkept env.config) (settle (transaction msg) (.result response) pending)
      (fun _ => Finished (transaction msg)) (fun _ _ => False) := by
    unfold settle
    rw [waiting]
    apply Ensures.modify
    intro state _ entry found
    dsimp only at found
    rw [Dict.get?_set_self] at found
    exact Option.some.inj found ▸ rfl
  have handled : datagramReceived env data source node =
      acceptResponse env msg source (transaction msg) pending response remoteId node := by
    have noQuery : Value.asBytes (msg.get? "y") ≠ some (ascii "q") := by
      rw [accepted.kind]
      decide
    have short : ¬ env.config.dhtReceiveMaxBytes < (data.length : Int) := by omega
    simp only [datagramReceived, short, handleDatagram, received, noQuery, if_false,
      accepted.handled]
  have accepts : Ensures (Upkept env.config)
      (acceptResponse env msg source (transaction msg) pending response remoteId)
      (fun _ => Finished (transaction msg)) (fun _ => Finished (transaction msg)) :=
    (acceptResponse_rule validConfig msg source _ pending response remoteId settles).raises
      fun _ _ impossible => impossible.elim
  have settled := accepts.after upkept
  have same : Effects.after (datagramReceived env data source) node =
      Effects.after (acceptResponse env msg source (transaction msg) pending response remoteId)
        node := by
    simp only [Effects.after, handled]
  exact same ▸ settled

end DHTNode

namespace NodeSystem

variable {env : Environment} {limit : Int} {delivered : Delivered}
  {start system next : NodeSystem} {number : Nat}

/-- The query has gone out, and if it is still in flight its future is done. -/
structure Over (number : Nat) (system : NodeSystem) : Prop where
  called : number < system.calls
  waiting : number ∉ Dict.keys system.waiting
  granted : number ∉ Dict.keys system.granted
  finished : ∀ flight, Dict.get? number system.flying = some flight →
    DHTNode.Finished flight.tid system.node

theorem Over.ofNode (ended : Over number system) {program : Node Unit}
    (keeps : ∀ tid, Preserves (DHTNode.Finished tid) program) :
    Over number { system with node := Effects.after program system.node } :=
  { ended with
    finished := fun flight found => (keeps flight.tid).after (ended.finished flight found) }

/-- While other queries come and go, a query that is over stays over. -/
theorem Over.ofOthers (ended : Over number system)
    (sameNode : next.node.pending = system.node.pending)
    (calls : system.calls ≤ next.calls) (waiting : number ∉ Dict.keys next.waiting)
    (granted : number ∉ Dict.keys next.granted)
    (flying : Dict.get? number next.flying = Dict.get? number system.flying) :
    Over number next where
  called := Nat.lt_of_lt_of_le ended.called calls
  waiting := waiting
  granted := granted
  finished flight found entry isEntry :=
    ended.finished flight (flying ▸ found) entry (sameNode ▸ isEntry)

theorem Over.launch (ended : Over number system) (accounted : Accounted limit delivered system)
    {other : Nat} (taken : step env system (.launch other) = some next) : Over number next := by
  rcases Option.map_eq_some_iff.mp taken with ⟨request, found, same⟩
  have elsewhere : number ≠ other := fun same =>
    ended.granted (same ▸ Dict.mem_keys_of_get? found)
  have fewer : number ∉ Dict.keys (Dict.pop other system.granted) := fun member =>
    ended.granted ((Dict.mem_keys_pop _ _ _).mp member).1
  have books := DHTNode.launch_books env request system.node system.node rfl
  dsimp only at same
  split at same
  · rename_i tid node outcome
    rw [outcome] at books
    rcases books with ⟨absent, pending, _, _, exactly⟩
    have sameFlight : Dict.get? number
        (system.flying ++ [(other, Flight.mk request tid none)]) = Dict.get? number system.flying :=
      Dict.get?_concat_ne elsewhere _ _
    rw [← same]
    refine ⟨ended.called, ended.waiting, fewer, ?_⟩
    intro flight isFlight entry isEntry
    have known : Dict.get? number system.flying = some flight := sameFlight ▸ isFlight
    have inUse : flight.tid ∈ Dict.keys system.node.pending :=
      accounted.pending ▸ List.mem_map_of_mem (Dict.mem_of_get? known)
    have other : flight.tid ≠ tid := fun same => absent (same ▸ inUse)
    have listed : Dict.get? flight.tid (system.node.pending ++ [(tid, pending)]) = some entry :=
      exactly.1 ▸ isEntry
    rw [Dict.get?_concat_ne other] at listed
    exact ended.finished flight known entry listed
  · rename_i fault node outcome
    rw [outcome] at books
    have samePending : node.pending = system.node.pending := by
      rcases books with ⟨_, unchanged⟩ | exactly
      · rw [unchanged]
      · exact exactly.1
    rw [← same]
    exact ended.ofOthers samePending (Nat.le_refl _) ended.waiting fewer rfl

theorem Over.interrupt (ended : Over number system) {other : Nat} {flight : Flight}
    (found : Dict.get? other system.flying = some flight) (interrupt : Interrupt) :
    Over number (system.interruptFlight other flight interrupt) := by
  refine ⟨ended.called, ended.waiting, ended.granted, ?_⟩
  intro current isCurrent
  have kept := DHTNode.cancelFuture_finished current.tid flight.tid
  unfold interruptFlight at isCurrent
  dsimp only at isCurrent
  by_cases same : number = other
  · rw [same, Dict.get?_set_self] at isCurrent
    have sameTid : current.tid = flight.tid := by rw [← Option.some.inj isCurrent]
    exact kept.after (sameTid ▸ ended.finished flight (same ▸ found))
  · rw [Dict.get?_set_ne same] at isCurrent
    exact kept.after (ended.finished current isCurrent)

theorem Over.resume (ended : Over number system) {other : Nat} {flight : Flight}
    (resumed : system.resumeFlight env other flight = some next) : Over number next := by
  have still : ∀ current, Dict.get? number (Dict.pop other system.flying) = some current →
      DHTNode.Finished current.tid system.node := by
    intro current isCurrent
    by_cases same : number = other
    · rw [same, Dict.get?_pop_self] at isCurrent
      cases isCurrent
    · rw [Dict.get?_pop_ne same] at isCurrent
      exact ended.finished current isCurrent
  unfold resumeFlight at resumed
  dsimp only at resumed
  split at resumed
  · cases resumed
    exact ⟨ended.called, ended.waiting, ended.granted, fun current isCurrent =>
      (DHTNode.expire_finished env flight.request current.tid flight.tid).after
        (still current isCurrent)⟩
  · cases resumed
    exact ⟨ended.called, ended.waiting, ended.granted, fun current isCurrent =>
      (DHTNode.forget_finished current.tid flight.tid).after (still current isCurrent)⟩
  · split at resumed
    · cases resumed
      exact ⟨ended.called, ended.waiting, ended.granted, fun current isCurrent =>
        (DHTNode.forget_finished current.tid flight.tid).after (still current isCurrent)⟩
    · rename_i response _
      cases resumed
      exact ⟨ended.called, ended.waiting, ended.granted, fun current isCurrent =>
        ((DHTNode.finished_aside current.tid).roaming.continueWith env _ _ response).after
          ((DHTNode.forget_finished current.tid flight.tid).after (still current isCurrent))⟩
    · cases resumed

/-- A query that is over stays over. -/
theorem Over.step (ended : Over number system) (accounted : Accounted limit delivered system)
    {event : NodeEvent} (taken : step env system event = some next) : Over number next := by
  cases event with
  | connect =>
      cases taken
      exact ended.ofOthers rfl (Nat.le_refl _) ended.waiting ended.granted rfl
  | restore records =>
      cases taken
      exact ended.ofNode fun tid =>
        (DHTNode.finished_aside tid).roaming.restoreContacts env records
  | datagram data source =>
      cases taken
      exact ended.ofNode fun tid => DHTNode.datagramReceived_finished tid env data source
  | query request =>
      simp only [NodeSystem.step] at taken
      split at taken
      · cases taken
        exact ended
      · cases taken
        refine ended.ofOthers rfl (Nat.le_succ _) ?_ ended.granted rfl
        intro member
        rw [keys_concat, List.mem_append, List.mem_singleton] at member
        rcases member with old | new
        · exact ended.waiting old
        · exact absurd ended.called (by omega)
  | abandon other =>
      rcases Option.map_eq_some_iff.mp taken with ⟨_, _, rfl⟩
      exact ended.ofOthers rfl (Nat.le_refl _)
        (fun member => ended.waiting ((Dict.mem_keys_pop _ _ _).mp member).1) ended.granted rfl
  | grant other =>
      rcases Option.bind_eq_some_iff.mp taken with ⟨request, found, given⟩
      split at given
      · cases given
      · cases given
        refine ended.ofOthers rfl (Nat.le_refl _)
          (fun member => ended.waiting ((Dict.mem_keys_pop _ _ _).mp member).1) ?_ rfl
        intro member
        rw [keys_concat, List.mem_append, List.mem_singleton] at member
        rcases member with old | new
        · exact ended.granted old
        · exact ended.waiting (new ▸ Dict.mem_keys_of_get? found)
  | decline other =>
      rcases Option.map_eq_some_iff.mp taken with ⟨_, _, rfl⟩
      exact ended.ofOthers rfl (Nat.le_refl _) ended.waiting
        (fun member => ended.granted ((Dict.mem_keys_pop _ _ _).mp member).1) rfl
  | launch other => exact ended.launch accounted taken
  | timeout other =>
      rcases Option.bind_eq_some_iff.mp taken with ⟨flight, found, given⟩
      split at given
      · cases given
      · cases given
        exact ended.interrupt found .timedOut
  | cancel other =>
      rcases Option.map_eq_some_iff.mp taken with ⟨flight, found, rfl⟩
      exact ended.interrupt found .cancelled
  | resume other =>
      rcases Option.bind_eq_some_iff.mp taken with ⟨flight, _, resumed⟩
      exact ended.resume resumed
  | lookup place =>
      rcases Option.map_eq_some_iff.mp taken with ⟨response, _, rfl⟩
      have kept : Over number { system with
          node := Effects.after (DHTNode.takeNodes env response) system.node } :=
        ended.ofNode fun tid => (DHTNode.finished_aside tid).roaming.learnContacts env false 0 _
      exact { kept with }
  | refreshBucket place now =>
      cases taken
      exact ended.ofNode fun tid =>
        (DHTNode.finished_aside tid).roaming.refreshBucket place now
  | closeIngress =>
      cases taken
      exact ended.ofNode DHTNode.closeIngress_finished

/-- The event is not a further response that passes all checks for a query whose
future is done. -/
def Unrepeated (env : Environment) (system : NodeSystem) : NodeEvent → Prop
  | .datagram data source => system.node.repeats env data source = false
  | _ => True

instance (env : Environment) (system : NodeSystem) :
    ∀ event, Decidable (Unrepeated env system event)
  | .datagram data source =>
      inferInstanceAs (Decidable (system.node.repeats env data source = false))
  | .connect | .restore _ | .query _ | .abandon _ | .grant _ | .decline _ | .launch _
  | .timeout _ | .cancel _ | .resume _ | .lookup _ | .refreshBucket _ _ | .closeIngress =>
      .isTrue trivial

/-- The event is a datagram whose response is accepted for the query and names the node. -/
def Validates (env : Environment) (system : NodeSystem) (number : Nat) (nodeId : Bytes) :
    NodeEvent → Prop
  | .datagram data source => ∃ msg flight pending response,
      (data.length : Int) ≤ env.config.dhtReceiveMaxBytes ∧
      DHTNode.receive env.config data = .ok msg ∧
      Dict.get? number system.flying = some flight ∧ flight.tid = DHTNode.transaction msg ∧
      DHTNode.Accepted system.node msg source pending response nodeId
  | _ => False

/-- The event that follows the earlier ones validates the node for the query. -/
def Validated (env : Environment) (start : NodeSystem) (events : List NodeEvent) (number : Nat)
    (earlier : List NodeEvent) (nodeId : Bytes) : Prop :=
  ∃ event later system, events = earlier ++ event :: later ∧
    Transition.run (step env) start earlier = some system ∧
    Validates env system number nodeId event

/-- The message is for a query whose future is done, from the endpoint of the query. -/
def Late (node : DHTNode) (msg : Message) (source : Endpoint) : Prop :=
  ∃ pending, Dict.get? (DHTNode.transaction msg) node.pending = some pending ∧
    pending.endpoint = source ∧ pending.future.done = true

/-- At most one datagram of the run takes effect for each query. -/
structure SettlesOnce (env : Environment) (start : NodeSystem) (events : List NodeEvent) :
    Prop where
  /-- A response or an error that comes late changes nothing. -/
  late : ∀ before data source later earlier msg next,
    events = before ++ .datagram data source :: later →
    Transition.run (step env) start before = some earlier →
    DHTNode.receive env.config data = .ok msg →
    Value.asBytes (msg.get? "y") = some (ascii "r") ∨
      Value.asBytes (msg.get? "y") = some (ascii "e") →
    Late earlier.node msg source → step env earlier (.datagram data source) = some next →
    next.node.routing = earlier.node.routing ∧ next.node.candidates = earlier.node.candidates ∧
      next.node.pending = earlier.node.pending
  /-- A query validates one node ID at most. -/
  once : ∀ number first second firstId secondId,
    Validated env start events number first firstId →
    Validated env start events number second secondId → first = second ∧ firstId = secondId

theorem datagram_late {data : Bytes} {source : Endpoint} {msg : Message}
    (received : DHTNode.receive env.config data = .ok msg)
    (kind : Value.asBytes (msg.get? "y") = some (ascii "r") ∨
      Value.asBytes (msg.get? "y") = some (ascii "e"))
    (late : Late system.node msg source)
    (fresh : system.node.repeats env data source = false) :
    let node := Effects.after (DHTNode.datagramReceived env data source) system.node
    node.routing = system.node.routing ∧ node.candidates = system.node.candidates ∧
      node.pending = system.node.pending := by
  rcases late with ⟨entry, isEntry, _, done⟩
  have idle : DHTNode.Idle fun node => node.routing = system.node.routing ∧
      node.candidates = system.node.candidates ∧ node.pending = system.node.pending :=
    ⟨fun _ same => same, fun _ _ same => same⟩
  have handled : Effects.Ensures (· = system.node) (DHTNode.datagramReceived env data source)
      (fun _ node => node.routing = system.node.routing ∧
        node.candidates = system.node.candidates ∧ node.pending = system.node.pending)
      (fun _ node => node.routing = system.node.routing ∧
        node.candidates = system.node.candidates ∧ node.pending = system.node.pending) := by
    apply DHTNode.datagramReceived_rule idle.noting env data source system.node ⟨rfl, rfl, rfl⟩
    · intro other _ isOther isQuery _
      rw [received] at isOther
      rw [← Except.ok.inj isOther] at isQuery
      rcases kind with response | error
      · exact absurd (response.symm.trans isQuery) (by decide)
      · exact absurd (error.symm.trans isQuery) (by decide)
    · intro other small isOther answer
      rw [received] at isOther
      have same := Except.ok.inj isOther
      subst same
      apply DHTNode.handleResponseOrError_rule idle.noting env msg source system.node answer
        ⟨rfl, rfl, rfl⟩
      · intro pending error isPending _ _
        have same : pending = entry := Option.some.inj (isPending.symm.trans isEntry)
        unfold DHTNode.settle
        split
        · rename_i waiting
          rw [same] at waiting
          rw [waiting] at done
          cases done
        · exact Effects.Preserves.pure ()
      · intro pending response remoteId accepted
        have same : pending = entry := Option.some.inj (accepted.awaited.symm.trans isEntry)
        rw [accepted.repeats small received (same ▸ done)] at fresh
        cases fresh
  exact handled.after rfl

theorem late_of_repeats {node : DHTNode} {data : Bytes} {source : Endpoint}
    (repeated : node.repeats env data source = true) :
    ∃ msg, DHTNode.receive env.config data = .ok msg ∧
      Value.asBytes (msg.get? "y") = some (ascii "r") ∧ Late node msg source := by
  unfold DHTNode.repeats at repeated
  rw [Bool.and_eq_true] at repeated
  have holds := repeated.2
  split at holds
  · cases holds
  · rename_i msg received
    split at holds
    · rename_i pending response isPending _
      simp only [Bool.and_eq_true, decide_eq_true_eq] at holds
      exact ⟨msg, received, holds.1.1.2, pending, isPending, holds.1.1.1.2, holds.1.1.1.1⟩
    · cases holds

/-- The accepted response settles the query. -/
theorem Validates.ended (validConfig : 1 ≤ env.config.dhtRoutingBadAfterFailures)
    (accounted : Accounted limit delivered system)
    (upkept : DHTNode.Upkept env.config system.node) {nodeId : Bytes} {event : NodeEvent}
    (validates : Validates env system number nodeId event) (fresh : Unrepeated env system event)
    (taken : step env system event = some next) : Over number next := by
  cases event with
  | datagram data source =>
      rcases validates with
        ⟨msg, flight, pending, response, small, received, found, isTid, accepted⟩
      cases taken
      have inside := Dict.mem_keys_of_get? found
      have apart := List.nodup_append.mp accounted.numbers
      have separate := List.nodup_append.mp apart.2.1
      refine ⟨accounted.known number ?_, ?_, ?_, ?_⟩
      · exact List.mem_append_right _ (List.mem_append_right _ inside)
      · intro member
        exact apart.2.2 number member number (List.mem_append_right _ inside) rfl
      · intro member
        exact separate.2.2 number member number inside rfl
      · intro current isCurrent
        have same : current = flight := Option.some.inj (isCurrent.symm.trans found)
        rw [same, isTid]
        exact accepted.finishes validConfig upkept small received fresh
  | _ => exact validates.elim

/-- A query that is over is not validated again. -/
theorem Over.not_validates (ended : Over number system) {nodeId : Bytes} {event : NodeEvent}
    (fresh : Unrepeated env system event) : ¬ Validates env system number nodeId event := by
  intro validates
  cases event with
  | datagram data source =>
      rcases validates with
        ⟨msg, flight, pending, response, small, received, found, isTid, accepted⟩
      have done := ended.finished flight found pending (isTid ▸ accepted.awaited)
      rw [Unrepeated, accepted.repeats small received done] at fresh
      cases fresh
  | _ => exact validates.elim

section runs

variable {nodeId : Bytes} {candidates : CandidateManager} {txCounter : Nat}
  {localIps : List String} {events : List NodeEvent}

theorem Validated.cases {event : NodeEvent} {earlier : List NodeEvent} {named : Bytes}
    (ran : Transition.run (step env) start events = some system)
    (validated : Validated env start (events ++ [event]) number earlier named) :
    Validated env start events number earlier named ∨
      earlier = events ∧ Validates env system number named event := by
  rcases validated with ⟨last, later, before, split, ranBefore, validates⟩
  rcases List.eq_nil_or_concat later with rfl | ⟨rest, final, rfl⟩
  · have parts := List.append_inj' split rfl
    have same : system = before := by
      rw [parts.1, ranBefore] at ran
      exact (Option.some.inj ran).symm
    have sameEvent : event = last := by simpa using parts.2
    exact .inr ⟨parts.1.symm, same ▸ sameEvent ▸ validates⟩
  · have regrouped : events ++ [event] = (earlier ++ last :: rest) ++ [final] := by
      rw [split, List.concat_eq_append]
      simp
    exact .inl ⟨last, rest, before, (List.append_inj' regrouped rfl).1, ranBefore, validates⟩

theorem Validates.same {event : NodeEvent} {first second : Bytes}
    (one : Validates env system number first event)
    (other : Validates env system number second event) : first = second := by
  cases event with
  | datagram data source =>
      rcases one with ⟨msg, flight, pending, response, _, received, _, _, accepted⟩
      rcases other with ⟨msg', flight', pending', response', _, received', _, _, accepted'⟩
      have sameMsg : msg = msg' := Except.ok.inj (received.symm.trans received')
      subst sameMsg
      have sameResponse : response = response' :=
        Option.some.inj (accepted.content.symm.trans accepted'.content)
      subst sameResponse
      exact Option.some.inj (accepted.named.symm.trans accepted'.named)
  | _ => exact one.elim

/-- From the response on that validates a node the query is over. -/
theorem validated_once (validConfig : 1 ≤ env.config.dhtRoutingBadAfterFailures)
    (made : new env nodeId candidates txCounter localIps = .ok start)
    (ran : Transition.run (step env) start events = some system)
    (fresh : Transition.Along (Unrepeated env) (step env) start events) :
    ∀ number first firstId, Validated env start events number first firstId →
      Over number system ∧ ∀ second secondId,
        Validated env start events number second secondId →
        first = second ∧ firstId = secondId := by
  have kept : ∀ inputs event state next, Transition.run (step env) start inputs = some state →
      (Transition.Along (Unrepeated env) (step env) start inputs →
        ∀ number first firstId, Validated env start inputs number first firstId →
          Over number state ∧ ∀ second secondId,
            Validated env start inputs number second secondId →
            first = second ∧ firstId = secondId) →
      step env state event = some next →
      Transition.Along (Unrepeated env) (step env) start (inputs ++ [event]) →
        ∀ number first firstId, Validated env start (inputs ++ [event]) number first firstId →
          Over number next ∧ ∀ second secondId,
            Validated env start (inputs ++ [event]) number second secondId →
            first = second ∧ firstId = secondId := by
    intro inputs event state next before earlier taken along number first firstId validated
    rcases run_matched made before with ⟨limit, accounted⟩
    have upkept := run_upkept validConfig made before
    have here : Unrepeated env state event := along.at before
    have known := earlier along.front number
    rcases validated.cases before with old | ⟨rfl, now⟩
    · have ended := (known first firstId old).1
      refine ⟨ended.step accounted taken, fun second secondId again => ?_⟩
      rcases again.cases before with old' | ⟨_, now⟩
      · exact (known first firstId old).2 second secondId old'
      · exact absurd now (ended.not_validates here)
    · refine ⟨now.ended validConfig accounted upkept here taken,
        fun second secondId again => ?_⟩
      rcases again.cases before with old' | ⟨rfl, now'⟩
      · exact absurd now ((known second secondId old').1.not_validates here)
      · exact ⟨rfl, now.same now'⟩
  have initial : Transition.Along (Unrepeated env) (step env) start [] →
      ∀ number first firstId, Validated env start [] number first firstId →
        Over number start ∧ ∀ second secondId, Validated env start [] number second secondId →
          first = second ∧ firstId = secondId := by
    intro _ number first firstId validated
    rcases validated with ⟨event, later, _, split, _⟩
    simp at split
  exact Transition.invariant_history _ kept initial ran fresh

end runs

/-- In every run in which no further response that passes all checks arrives for a
query whose future is done, at most one datagram takes effect for each query. -/
theorem run_settles_once (env : Environment)
    (validConfig : 1 ≤ env.config.dhtRoutingBadAfterFailures) (nodeId : Bytes)
    (candidates : CandidateManager) (txCounter : Nat) (localIps : List String)
    (start : NodeSystem) (made : new env nodeId candidates txCounter localIps = .ok start)
    (events : List NodeEvent) (system : NodeSystem)
    (ran : Transition.run (step env) start events = some system)
    (fresh : Transition.Along (Unrepeated env) (step env) start events) :
    SettlesOnce env start events where
  late before data source later earlier msg next split ranBefore received kind late taken := by
    have here : Unrepeated env earlier (.datagram data source) := (split ▸ fresh).at ranBefore
    cases taken
    exact datagram_late received kind late here
  once number first second firstId secondId one other :=
    (validated_once validConfig made ran fresh number first firstId one).2 second secondId other

theorem run_settles_once_sample : ∃ start system, quietNode = .ok start ∧
    Transition.run (step quietWorld) start pinged = some system ∧
    SettlesOnce quietWorld start pinged := by
  rcases quiet_check (show (quietNode.toOption.bind fun start =>
      (Transition.run (step quietWorld) start pinged).map fun _ =>
        decide (Transition.Along (Unrepeated quietWorld) (step quietWorld) start pinged)) =
      some true by decide +kernel) with ⟨start, system, made, ran, fresh⟩
  exact ⟨start, system, made, ran, run_settles_once quietWorld (by decide) _ _ _ _ start made
    pinged system ran (of_decide_eq_true fresh)⟩

/-- A ping has been answered, and its coroutine has not run on yet. -/
def answered : List NodeEvent := pinged.take 5

/-- The same endpoint answers once more, under another node ID. -/
def secondAnswer : Bytes := ascii "d1:rd2:id20:qrstuvwxyzabcdefghije1:t2:\x00\x081:y1:re"

/-- The second response to a query changes the routing table. -/
theorem answered_twice : ∃ start system, quietNode = .ok start ∧
    Transition.run (step quietWorld) start
      (answered ++ [.datagram secondAnswer ("8.8.8.8", 6881)]) = some system ∧
    ¬ SettlesOnce quietWorld start (answered ++ [.datagram secondAnswer ("8.8.8.8", 6881)]) := by
  rcases quiet_check (show (quietNode.toOption.bind fun start =>
      (Transition.run (step quietWorld) start answered).map fun earlier =>
        earlier.node.repeats quietWorld secondAnswer ("8.8.8.8", 6881) &&
          decide ((Effects.after (DHTNode.datagramReceived quietWorld secondAnswer
            ("8.8.8.8", 6881)) earlier.node).routing ≠ earlier.node.routing)) = some true
      by decide +kernel) with ⟨start, earlier, made, ran, checked⟩
  rw [Bool.and_eq_true, decide_eq_true_eq] at checked
  rcases late_of_repeats checked.1 with ⟨msg, received, kind, late⟩
  refine ⟨start, _, made, Transition.run_concat.mpr ⟨earlier, ran, rfl⟩, ?_⟩
  intro settles
  exact checked.2 (settles.late answered _ _ [] earlier msg _ rfl ran received (.inl kind) late
    rfl).1

end NodeSystem

end PyDht
