import PyDht.ContactStanding
import PyDht.KrpcSafety
import PyDht.QuerySettlement

set_option autoImplicit false

namespace PyDht

open Effects (Ensures Preserves)

namespace DHTNode

/-- The datagram is an error for the query with this transaction ID, which still waits. -/
def refuses (env : Environment) (data : Bytes) (source : Endpoint) (tid : Bytes)
    (node : DHTNode) : Bool :=
  decide ((data.length : Int) ≤ env.config.dhtReceiveMaxBytes) &&
    match receive env.config data, Dict.get? tid node.pending with
    | .ok msg, some pending =>
        decide (transaction msg = tid) &&
          decide (Value.asBytes (msg.get? "y") = some (ascii "e")) &&
          decide (pending.endpoint = source) && !pending.future.done
    | _, _ => false

theorem refuses_of_error {env : Environment} {data : Bytes} {source : Endpoint} {node : DHTNode}
    {msg : Message} {pending : PendingQuery}
    (small : (data.length : Int) ≤ env.config.dhtReceiveMaxBytes)
    (received : receive env.config data = .ok msg)
    (found : Dict.get? (transaction msg) node.pending = some pending)
    (kind : Value.asBytes (msg.get? "y") = some (ascii "e")) (origin : pending.endpoint = source)
    (waiting : pending.future.done = false) :
    node.refuses env data source (transaction msg) = true := by
  simp only [refuses, small, received, found, kind, origin, waiting]
  rfl

/-- The query with this transaction ID has not failed, and if it has got a response, the contact
has answered since. -/
structure Awaited (env : Environment) (localIps : List String) (nodeId : Bytes)
    (since count : Nat) (tid : Bytes) (node : DHTNode) : Prop where
  standing : Standing env localIps nodeId since count node
  unfailed : ∀ pending error, Dict.get? tid node.pending = some pending →
    pending.future ≠ .failed error
  heard : ∀ pending response, Dict.get? tid node.pending = some pending →
    pending.future = .result response → ∀ more, Standing env localIps nodeId since more node

section awaited

variable {env : Environment} {localIps : List String} {nodeId tid : Bytes} {since count : Nat}
  {start node : DHTNode}

theorem Awaited.of_entry (awaited : Awaited env localIps nodeId since count tid start)
    (entry : Dict.get? tid node.pending = Dict.get? tid start.pending)
    (keeps : ∀ more, Standing env localIps nodeId since more start →
      Standing env localIps nodeId since more node) :
    Awaited env localIps nodeId since count tid node where
  standing := keeps count awaited.standing
  unfailed pending error found := awaited.unfailed pending error (entry ▸ found)
  heard pending response found done more :=
    keeps more (awaited.heard pending response (entry ▸ found) done more)

theorem Awaited.chart (awaited : Awaited env localIps nodeId since count tid start)
    (pending : node.pending = start.pending) (routing : node.routing = start.routing)
    (sameIps : node.localIps = start.localIps) (ticks : start.ticks ≤ node.ticks) :
    Awaited env localIps nodeId since count tid node :=
  awaited.of_entry (by rw [pending]) fun _ standing => standing.chart routing sameIps ticks

/-- A program that keeps the contact, however often it failed, and the entry of the query. -/
theorem awaited_preserves {α : Type} {program : Node α}
    (keeps : ∀ more, Preserves (Standing env localIps nodeId since more) program)
    (entry : ∀ pending, Preserves (fun node => node.pending = pending) program) :
    Preserves (Awaited env localIps nodeId since count tid) program := by
  apply Ensures.of_after
  intro start awaited
  have same := (entry start.pending).after rfl
  exact awaited.of_entry (by rw [same]) fun more standing => (keeps more).after standing

theorem pending_aside (pending : List (Bytes × PendingQuery)) :
    Aside fun node => node.pending = pending where
  ticks _ same := same
  emitted _ _ same := same
  candidates _ _ same := same
  routing _ _ same := same

theorem awaited_quiet (env : Environment) (localIps : List String) (nodeId : Bytes)
    (since count : Nat) (tid : Bytes) : Quiet (Awaited env localIps nodeId since count tid) where
  ticks _ awaited := awaited.chart rfl rfl rfl (Nat.le_succ _)
  emitted _ _ awaited := awaited.chart rfl rfl rfl (Nat.le_refl _)
  candidates _ _ awaited := awaited.chart rfl rfl rfl (Nat.le_refl _)

/-- Another query is settled, or one that was settled before. -/
theorem settle_awaited {known : Bytes} {pending : PendingQuery}
    (aside : known ≠ tid ∨ pending.future.done = true) (outcome : QueryFuture) :
    Preserves (Awaited env localIps nodeId since count tid) (settle known outcome pending) := by
  unfold settle
  split
  · rename_i waiting
    apply Preserves.modify
    intro node awaited
    obtain other | done := aside
    · exact awaited.of_entry (Dict.get?_set_ne (Ne.symm other) _ _) fun _ standing =>
        standing.chart rfl rfl (Nat.le_refl _)
    · rw [waiting] at done
      cases done
  · exact Preserves.pure ()

theorem settle_cancelled (pending : PendingQuery) :
    Preserves (Awaited env localIps nodeId since count tid) (settle tid .cancelled pending) := by
  unfold settle
  split
  · apply Preserves.modify
    intro node awaited
    have cancelled : ∀ entry : PendingQuery, Dict.get? tid
        (Dict.set tid { pending with future := .cancelled } node.pending) = some entry →
        entry.future = .cancelled := by
      intro entry found
      rw [Dict.get?_set_self] at found
      rw [← Option.some.inj found]
    refine ⟨awaited.standing.chart rfl rfl (Nat.le_refl _), ?_, ?_⟩
    · intro entry error found failed
      rw [cancelled entry found] at failed
      cases failed
    · intro entry response found done
      rw [cancelled entry found] at done
      cases done
  · exact Preserves.pure ()

/-- A future that is cancelled has neither failed nor got a response. -/
theorem cancelFuture_awaited (known : Bytes) :
    Preserves (Awaited env localIps nodeId since count tid) (cancelFuture known) := by
  apply Preserves.getThen
  intro node awaited
  split
  · exact Preserves.pure ()
  · rename_i pending found
    by_cases mine : known = tid
    · rw [mine]
      exact settle_cancelled pending
    · exact settle_awaited (.inl mine) _

/-- A response for the query itself, once the contact has answered. -/
theorem settle_heard (response : Message) (pending : PendingQuery) :
    Preserves (fun node => ∀ more, Awaited env localIps nodeId since more tid node)
      (settle tid (.result response) pending) := by
  unfold settle
  split
  · apply Preserves.modify
    intro node answered more
    have stands : ∀ more, Standing env localIps nodeId since more { node with
        pending := Dict.set tid { pending with future := .result response } node.pending } :=
      fun more => (answered more).standing.chart rfl rfl (Nat.le_refl _)
    refine ⟨stands more, fun entry error found => ?_, fun _ _ _ _ => stands⟩
    dsimp only at found
    rw [Dict.get?_set_self] at found
    rw [← Option.some.inj found]
    exact QueryFuture.noConfusion
  · exact Preserves.pure ()

theorem Awaited.answered (awaited : Awaited env localIps nodeId since count tid start)
    (entry : Dict.get? tid node.pending = Dict.get? tid start.pending)
    (stands : ∀ more, Standing env localIps nodeId since more node) (more : Nat) :
    Awaited env localIps nodeId since more tid node where
  standing := stands more
  unfailed pending error found := awaited.unfailed pending error (entry ▸ found)
  heard _ _ _ _ := stands

section datagrams

variable (validConfig : 1 ≤ env.config.dhtRoutingBadAfterFailures)
include validConfig

theorem meet_awaited (seenId : Bytes) (endpoint : Endpoint) (sighting : Sighting) :
    Preserves (Awaited env localIps nodeId since count tid) (meet env seenId endpoint sighting) :=
  awaited_preserves (fun _ => meet_standing validConfig seenId endpoint sighting)
    fun pending => (pending_aside pending).roaming.meet env seenId endpoint sighting

/-- The contact itself responds. -/
theorem meet_answered (endpoint : Endpoint) {sighting : Sighting}
    (direct : sighting.directResponse = true) :
    Ensures (Awaited env localIps nodeId since count tid) (meet env nodeId endpoint sighting)
      (fun _ node => ∀ more, Awaited env localIps nodeId since more tid node)
      (fun _ node => ∀ more, Awaited env localIps nodeId since more tid node) := by
  apply Ensures.of_after
  intro start awaited
  have met : Ensures (Standing env localIps nodeId since count) (meet env nodeId endpoint sighting)
      (fun _ node => ∀ more, Standing env localIps nodeId since more node)
      (fun _ node => ∀ more, Standing env localIps nodeId since more node) := by
    apply Ensures.bind ((observe_standing validConfig nodeId endpoint sighting).raises
      fun _ _ impossible => impossible.elim)
    intro _
    exact Ensures.pure fun _ seen => seen.2 rfl direct
  have same := ((pending_aside start.pending).roaming.meet env nodeId endpoint sighting).after rfl
  exact awaited.answered (by rw [same]) (met.after awaited.standing)

/-- A response that is accepted for another query. -/
theorem acceptResponse_awaited (msg : Message) (source : Endpoint) {known : Bytes}
    {pending : PendingQuery} (other : known ≠ tid) (response : Message) (remoteId : Bytes) :
    Preserves (Awaited env localIps nodeId since count tid)
      (acceptResponse env msg source known pending response remoteId) :=
  have quiet := awaited_quiet env localIps nodeId since count tid
  quiet.noting.acceptResponse env (meet_awaited validConfig) msg source known pending response
    remoteId (fun _ awaited => awaited) (quiet.emitResponseEvidence env msg source _ _)
    (settle_awaited (.inl other) _)

/-- A response of the contact that is accepted for the query. -/
theorem acceptResponse_answered (msg : Message) {source : Endpoint}
    (allowed : endpointAllowed env.config localIps source.1 source.2 = true)
    (pending : PendingQuery) (response : Message) :
    Preserves (Awaited env localIps nodeId since count tid)
      (acceptResponse env msg source tid pending response nodeId) := by
  apply Preserves.get
  intro node awaited
  have quiet := awaited_quiet env localIps nodeId since
  rw [awaited.standing.sameIps, allowed]
  have direct : ({ directResponse := true, clientVersion := Value.asBytes (msg.get? "v") } :
      Sighting).directResponse = true := rfl
  have introduced := (meet_answered validConfig source direct).weaken
    (fun state (same : state = node) => same ▸ awaited) (fun _ _ after => after)
    fun _ _ (after : ∀ more, Awaited env localIps nodeId since more tid _) => after count
  have rest : ∀ important : Bool, Preserves (fun node => ∀ more,
      Awaited env localIps nodeId since more tid node) (do
      parseResponseContacts env response important
      Effects.when important (emitResponseEvidence env msg source pending.query .incoming)
      settle tid (.result response) pending) := by
    intro important
    apply Preserves.bind (Preserves.forall fun more => (quiet more tid).noting.parseResponseContacts
      env (fun seenId endpoint => meet_awaited validConfig seenId endpoint {}) response important)
    intro _
    apply Preserves.bind (Preserves.forall fun more => Preserves.when fun _ =>
      (quiet more tid).emitResponseEvidence env msg source _ _)
    intro _
    exact settle_heard response pending
  exact introduced.bind fun _ => (rest _).weaken (fun _ holds => holds)
    (fun _ _ after => after count) fun _ _ after => after count

/-- A datagram that is no error for the query leaves it in order: if it is a response for it,
the contact has answered. -/
theorem datagramReceived_awaited {data : Bytes} {source : Endpoint} {pending : PendingQuery}
    (awaited : Awaited env localIps nodeId since count tid start)
    (found : Dict.get? tid start.pending = some pending)
    (expects : pending.expectedNodeId = some nodeId)
    (allowed : endpointAllowed env.config localIps pending.endpoint.1 pending.endpoint.2 = true)
    (kind : start.refuses env data source tid = false) :
    Awaited env localIps nodeId since count tid
      (Effects.after (datagramReceived env data source) start) := by
  have quiet := awaited_quiet env localIps nodeId since count tid
  have asked : ∀ msg node, Queried env msg source start node →
      Awaited env localIps nodeId since count tid node := fun msg node queried =>
    awaited.of_entry (by rw [queried.pending.1]) fun _ standing =>
      queried.standing validConfig standing
  have received : Ensures (· = start) (datagramReceived env data source)
      (fun _ => Awaited env localIps nodeId since count tid)
      (fun _ => Awaited env localIps nodeId since count tid) := by
    apply datagramReceived_rule quiet.noting env data source start awaited
    · intro msg _ _ _ _
      exact (handleQuery_ensures env msg source start).weaken (fun _ same => same)
        (fun _ node => asked msg node) fun _ node => asked msg node
    · intro msg small isMessage answer
      apply handleResponseOrError_rule quiet.noting env msg source start answer awaited
      · intro entry error isEntry isError origin
        apply settle_awaited
        by_cases mine : transaction msg = tid
        · right
          by_contra waiting
          subst mine
          rw [refuses_of_error small isMessage isEntry isError origin
            (Bool.eq_false_iff.mpr waiting)] at kind
          cases kind
        · exact .inl mine
      · intro entry response remoteId accepted
        by_cases mine : transaction msg = tid
        · subst mine
          have same : entry = pending := Option.some.inj (accepted.awaited.symm.trans found)
          subst same
          have named := accepted.expected
          rw [expects] at named
          have isContact : nodeId = remoteId := by simpa using named
          rw [← isContact]
          exact acceptResponse_answered validConfig msg (accepted.origin ▸ allowed) entry response
        · exact acceptResponse_awaited validConfig msg source mine response remoteId
  exact received.after rfl

end datagrams

end awaited

/-- Nothing keeps the message of the query from being sent. -/
def sendable (env : Environment) (request : Request) (node : DHTNode) : Bool :=
  node.connected &&
    match nextTid node.pending 65536 node.txCounter with
    | .error _ => false
    | .ok (tid, _) =>
        match Bencode.encode (.dict (queryMessage env node tid request)) with
        | .error _ => false
        | .ok payload => decide (payload.length ≤ MAX_DHT_RESPONSE_BYTES)

/-- Such a query goes out. -/
theorem launch_returns {env : Environment} {request : Request} {start : DHTNode}
    (ready : start.sendable env request = true) :
    Ensures (· = start) (launch env request) (fun _ _ => True) (fun _ _ => False) := by
  unfold sendable at ready
  rw [Bool.and_eq_true] at ready
  obtain ⟨connected, ready⟩ := ready
  split at ready
  · cases ready
  rename_i tid txCounter named
  split at ready
  · cases ready
  rename_i payload encoded
  have small := of_decide_eq_true ready
  have silent := (silent_quiet start).noting
  apply Ensures.get
  intro node same
  rw [same, named]
  apply Ensures.raiseBind
  · intro named' isNamed
    rw [← Except.ok.inj isNamed]
    dsimp only
    have begun := ((monotonicNs_total env).keeps (silent.monotonicNs env)).weaken
      (fun state (same : state = start) => (same ▸ ⟨rfl, rfl⟩ : Silent start state))
      (fun _ _ after => after) fun _ _ impossible => impossible
    apply Ensures.bind begun
    intro sentNs
    have entered : ∀ pending : PendingQuery, Ensures (Silent start) (modify fun node : DHTNode =>
        { node with txCounter, pending := Dict.set tid pending node.pending })
        (fun _ => Silent start) (fun (_ : PyError) _ => False) :=
      fun _ => Ensures.modify fun _ after => after
    apply Ensures.bind (entered _)
    intro _
    have recorded : ∀ message important, Ensures (Silent start) (Effects.when important
        (emitQueryEvidence message request.endpoint .outgoing request.expectedNodeId))
        (fun _ => Silent start) (fun _ _ => False) :=
      fun _ _ => Ensures.when (fun _ => Ensures.modify fun _ after => after) fun _ _ after => after
    apply Ensures.bind (recorded _ _)
    intro _
    have sends := (send_replies connected encoded request.endpoint).weaken
      (fun _ before => before) (fun _ _ _ => trivial)
      fun _ _ failed => (Nat.not_lt.mpr small failed.2.2 : False)
    apply Ensures.bind (Ensures.tryCatch sends fun _ => fun _ impossible => impossible.elim)
    intro _
    exact Ensures.pure fun _ _ => trivial
  · intro fault failed
    cases failed

end DHTNode

namespace NodeSystem

/-- The query asks the node at an endpoint that the policy allows. -/
structure Pings (config : Config) (localIps : List String) (nodeId : Bytes) (request : Request) :
    Prop where
  expected : request.expectedNodeId = some nodeId
  allowed : endpointAllowed config localIps request.endpoint.1 request.endpoint.2 = true

/-- The query with this number pings the contact: nothing has cut it short, and once it is over
the contact has one more failure or has answered since. -/
structure Pursued (env : Environment) (localIps : List String) (nodeId : Bytes)
    (since count number : Nat) (system : NodeSystem) : Prop where
  called : number < system.calls
  standing : system.node.Standing env localIps nodeId since count
  waiting : ∀ request, Dict.get? number system.waiting = some request →
    Pings env.config localIps nodeId request
  granted : ∀ request, Dict.get? number system.granted = some request →
    Pings env.config localIps nodeId request
  flying : ∀ flight, Dict.get? number system.flying = some flight →
    Pings env.config localIps nodeId flight.request ∧ flight.interrupt ≠ some .cancelled ∧
      system.node.Awaited env localIps nodeId since count flight.tid
  ended : number ∉ system.active → system.node.Standing env localIps nodeId since (count + 1)

/-- The event neither ends the query before it can time out nor lets it fail. -/
def Spares (env : Environment) (number : Nat) (system : NodeSystem) : NodeEvent → Prop
  | .abandon other | .decline other | .cancel other => other ≠ number
  | .launch other => other = number → ∀ request ∈ Dict.get? number system.granted,
      system.node.sendable env request = true
  | .datagram data source => ∀ flight ∈ Dict.get? number system.flying,
      system.node.refuses env data source flight.tid = false
  | .closeIngress => number ∉ Dict.keys system.flying
  | _ => True

instance (env : Environment) (number : Nat) (system : NodeSystem) :
    ∀ event, Decidable (Spares env number system event)
  | .abandon other | .decline other | .cancel other =>
      inferInstanceAs (Decidable (other ≠ number))
  | .launch other => inferInstanceAs (Decidable (other = number →
      ∀ request ∈ Dict.get? number system.granted, system.node.sendable env request = true))
  | .datagram data source => inferInstanceAs (Decidable (∀ flight ∈ Dict.get? number system.flying,
      system.node.refuses env data source flight.tid = false))
  | .closeIngress => inferInstanceAs (Decidable (number ∉ Dict.keys system.flying))
  | .connect | .restore _ | .query _ | .grant _ | .timeout _ | .resume _ | .lookup _
  | .refreshBucket _ _ => .isTrue trivial

theorem mem_active_iff (number : Nat) (system : NodeSystem) :
    number ∈ system.active ↔ (Dict.get? number system.waiting).isSome ∨
      (Dict.get? number system.granted).isSome ∨ (Dict.get? number system.flying).isSome := by
  simp only [active, List.mem_append, Dict.mem_keys_iff]

section pursued

variable {env : Environment} {localIps : List String} {nodeId : Bytes} {since count number : Nat}
  {limit : Int} {delivered : Delivered} {system next : NodeSystem}

/-- Other queries come and go. -/
theorem Pursued.frame (pursued : Pursued env localIps nodeId since count number system)
    (stands : ∀ more, system.node.Standing env localIps nodeId since more →
      next.node.Standing env localIps nodeId since more)
    (called : system.calls ≤ next.calls)
    (waiting : Dict.get? number next.waiting = Dict.get? number system.waiting)
    (granted : Dict.get? number next.granted = Dict.get? number system.granted)
    (flying : Dict.get? number next.flying = Dict.get? number system.flying)
    (awaited : ∀ flight, Dict.get? number system.flying = some flight →
      system.node.Awaited env localIps nodeId since count flight.tid →
      next.node.Awaited env localIps nodeId since count flight.tid) :
    Pursued env localIps nodeId since count number next where
  called := Nat.lt_of_lt_of_le pursued.called called
  standing := stands count pursued.standing
  waiting request found := pursued.waiting request (waiting ▸ found)
  granted request found := pursued.granted request (granted ▸ found)
  flying flight found := by
    have before := flying ▸ found
    obtain ⟨pings, running, here⟩ := pursued.flying flight before
    exact ⟨pings, running, awaited flight before here⟩
  ended absent := by
    apply stands
    apply pursued.ended
    rwa [mem_active_iff, ← waiting, ← granted, ← flying, ← mem_active_iff]

/-- The pending entry of a query in flight. -/
theorem Accounted.entry (accounted : Accounted limit delivered system) {flight : Flight}
    (found : Dict.get? number system.flying = some flight) :
    ∃ pending, Dict.get? flight.tid system.node.pending = some pending ∧
      pending.expectedNodeId = flight.request.expectedNodeId ∧
      pending.endpoint = flight.request.endpoint := by
  have inside := Dict.mem_of_get? found
  have listed : flight.tid ∈ Dict.keys system.node.pending :=
    accounted.pending ▸ List.mem_map_of_mem inside
  obtain ⟨pending, isPending⟩ := Option.isSome_iff_exists.mp ((Dict.mem_keys_iff _ _).mp listed)
  have same : ticket (flight.tid, pending) = flightTicket (number, flight) :=
    List.inj_on_of_nodup_map accounted.distinct (accounted.ticketed.member isPending)
      (List.mem_map_of_mem inside) rfl
  exact ⟨pending, isPending, congrArg Ticket.expectedNodeId same, congrArg Ticket.endpoint same⟩

theorem Accounted.waiting_apart (accounted : Accounted limit delivered system) {request : Request}
    (found : Dict.get? number system.waiting = some request) :
    number ∉ Dict.keys system.granted ∧ number ∉ Dict.keys system.flying := by
  have apart := (List.nodup_append.mp accounted.numbers).2.2
  have inside := Dict.mem_keys_of_get? found
  exact ⟨fun member => apart number inside number (List.mem_append_left _ member) rfl,
    fun member => apart number inside number (List.mem_append_right _ member) rfl⟩

theorem Accounted.granted_apart (accounted : Accounted limit delivered system) {request : Request}
    (found : Dict.get? number system.granted = some request) :
    number ∉ Dict.keys system.waiting ∧ number ∉ Dict.keys system.flying := by
  have apart := List.nodup_append.mp accounted.numbers
  have inside := Dict.mem_keys_of_get? found
  exact ⟨fun member => apart.2.2 number member number (List.mem_append_left _ inside) rfl,
    fun member => (List.nodup_append.mp apart.2.1).2.2 number inside number member rfl⟩

theorem Accounted.flying_apart (accounted : Accounted limit delivered system) {flight : Flight}
    (found : Dict.get? number system.flying = some flight) :
    number ∉ Dict.keys system.waiting ∧ number ∉ Dict.keys system.granted := by
  have apart := List.nodup_append.mp accounted.numbers
  have inside := Dict.mem_keys_of_get? found
  exact ⟨fun member => apart.2.2 number member number (List.mem_append_right _ inside) rfl,
    fun member => (List.nodup_append.mp apart.2.1).2.2 number member number inside rfl⟩

/-- Two queries in flight have transaction IDs of their own. -/
theorem Accounted.tid_apart (accounted : Accounted limit delivered system) {other : Nat}
    {flight current : Flight} (found : Dict.get? number system.flying = some flight)
    (isCurrent : Dict.get? other system.flying = some current) (apart : number ≠ other) :
    flight.tid ≠ current.tid := by
  intro same
  have tids : (system.flying.map fun entry => entry.2.tid).Nodup := by
    have distinct := accounted.distinct
    rwa [tickets, List.map_map] at distinct
  exact apart (congrArg Prod.fst (List.inj_on_of_nodup_map tids (Dict.mem_of_get? found)
    (Dict.mem_of_get? isCurrent) same))

theorem resumed_node {other : Nat} {flight : Flight} (expired : flight.interrupt = some .timedOut)
    (resumed : system.resumeFlight env other flight = some next) :
    next.node = Effects.after (DHTNode.expire env flight.request flight.tid) system.node := by
  unfold resumeFlight at resumed
  simp only [expired, Option.some.injEq] at resumed
  rw [← resumed]

theorem resumed_others {other : Nat} {flight : Flight}
    (resumed : system.resumeFlight env other flight = some next) :
    next.calls = system.calls ∧ next.waiting = system.waiting ∧ next.granted = system.granted ∧
      next.flying = Dict.pop other system.flying := by
  unfold resumeFlight at resumed
  dsimp only at resumed
  split at resumed
  · cases resumed
    exact ⟨rfl, rfl, rfl, rfl⟩
  · cases resumed
    exact ⟨rfl, rfl, rfl, rfl⟩
  · split at resumed
    · cases resumed
      exact ⟨rfl, rfl, rfl, rfl⟩
    · cases resumed
      exact ⟨rfl, rfl, rfl, rfl⟩
    · cases resumed

/-- Events of the node that leave the queries and their pending entries alone. -/
theorem Pursued.aside (pursued : Pursued env localIps nodeId since count number system)
    (stands : ∀ more, system.node.Standing env localIps nodeId since more →
      next.node.Standing env localIps nodeId since more)
    (calls : next.calls = system.calls) (waiting : next.waiting = system.waiting)
    (granted : next.granted = system.granted) (flying : next.flying = system.flying)
    (pending : next.node.pending = system.node.pending) :
    Pursued env localIps nodeId since count number next :=
  pursued.frame stands (Nat.le_of_eq calls.symm) (by rw [waiting]) (by rw [granted])
    (by rw [flying]) fun _ _ awaited => awaited.of_entry (by rw [pending]) stands

/-- Another query goes out or fails to. -/
theorem Pursued.launchOther (pursued : Pursued env localIps nodeId since count number system)
    (accounted : Accounted limit delivered system) {other : Nat} (apart : number ≠ other)
    (stands : ∀ more, system.node.Standing env localIps nodeId since more →
      next.node.Standing env localIps nodeId since more)
    (taken : step env system (.launch other) = some next) :
    Pursued env localIps nodeId since count number next := by
  obtain ⟨request, found, same⟩ := Option.map_eq_some_iff.mp taken
  have books := DHTNode.launch_books env request system.node system.node rfl
  dsimp only at same
  split at same
  · rename_i tid node outcome
    rw [outcome] at books
    obtain ⟨absent, pending, -, -, exactly⟩ := books
    subst same
    refine pursued.frame stands (Nat.le_refl _) rfl (Dict.get?_pop_ne apart _)
      (Dict.get?_concat_ne apart _ _) fun flight isFlight awaited => awaited.of_entry ?_ stands
    obtain ⟨entry, isEntry, -⟩ := accounted.entry isFlight
    have different : flight.tid ≠ tid := fun same =>
      absent (same ▸ Dict.mem_keys_of_get? isEntry)
    show Dict.get? flight.tid node.pending = _
    rw [exactly.1, Dict.get?_concat_ne different]
  · rename_i fault node outcome
    rw [outcome] at books
    have pending : node.pending = system.node.pending := by
      obtain ⟨_, unchanged⟩ | exactly := books
      · rw [unchanged]
      · exact exactly.1
    subst same
    exact pursued.frame stands (Nat.le_refl _) rfl (Dict.get?_pop_ne apart _) rfl
      fun flight _ awaited => awaited.of_entry (by rw [pending]) stands

/-- The query gets a slot. -/
theorem Pursued.grant (pursued : Pursued env localIps nodeId since count number system)
    (accounted : Accounted limit delivered system)
    (taken : step env system (.grant number) = some next) :
    Pursued env localIps nodeId since count number next := by
  obtain ⟨request, found, given⟩ := Option.bind_eq_some_iff.mp taken
  split at given
  · cases given
  cases given
  have pings := pursued.waiting request found
  have held : Dict.get? number (system.granted ++ [(number, request)]) = some request :=
    Dict.get?_concat_self request (accounted.waiting_apart found).1
  refine ⟨pursued.called, pursued.standing.chart rfl rfl (Nat.le_refl _), ?_, ?_, ?_, ?_⟩
  · intro other isOther
    rw [Dict.get?_pop_self] at isOther
    cases isOther
  · intro other isOther
    rw [held] at isOther
    exact Option.some.inj isOther ▸ pings
  · intro flight isFlight
    exact absurd (Dict.mem_keys_of_get? isFlight) (accounted.waiting_apart found).2
  · intro absent
    exact absurd ((mem_active_iff _ _).mpr (.inr (.inl (Option.isSome_iff_exists.mpr ⟨_, held⟩))))
      absent

variable (validConfig : 1 ≤ env.config.dhtRoutingBadAfterFailures)
include validConfig

/-- A contact that is still there after an event has no fewer failures, unless it has answered. -/
theorem standing_step (standing : system.node.Standing env localIps nodeId since count)
    {event : NodeEvent} (taken : step env system event = some next)
    (there : ¬ next.node.Gone env.config nodeId) :
    next.node.Standing env localIps nodeId since count := by
  apply node_of_bearing (DHTNode.standing_bearing validConfig) _ _ standing taken
  · intro data source _
    exact (DHTNode.datagramReceived_standing validConfig data source).after standing
  · intro other flight isResume found expired
    subst isResume
    obtain ⟨current, isCurrent, resumed⟩ := Option.bind_eq_some_iff.mp taken
    cases Option.some.inj (isCurrent.symm.trans found)
    have marked := (DHTNode.expire_standing flight.request flight.tid).after standing
    rw [← resumed_node expired resumed] at marked ⊢
    have counted := marked.resolve_right there
    split at counted
    · exact counted.fewer
    · exact counted

/-- The query goes out. -/
theorem Pursued.launch (pursued : Pursued env localIps nodeId since count number system)
    (accounted : Accounted limit delivered system)
    (spares : Spares env number system (.launch number))
    (taken : step env system (.launch number) = some next)
    (there : ¬ next.node.Gone env.config nodeId) :
    Pursued env localIps nodeId since count number next := by
  have standing := standing_step validConfig pursued.standing taken there
  obtain ⟨request, found, same⟩ := Option.map_eq_some_iff.mp taken
  have pings := pursued.granted request found
  have returns := DHTNode.launch_returns (spares rfl request found) system.node rfl
  have books := DHTNode.launch_books env request system.node system.node rfl
  dsimp only at same
  split at same
  · rename_i tid node outcome
    rw [outcome] at books
    obtain ⟨absent, pending, -, waiting, exactly⟩ := books
    subst same
    have entry : Dict.get? tid node.pending = some pending := by
      rw [exactly.1]
      exact Dict.get?_concat_self pending absent
    have flies : Dict.get? number (system.flying ++ [(number, Flight.mk request tid none)]) =
        some ⟨request, tid, none⟩ := Dict.get?_concat_self _ (accounted.granted_apart found).2
    refine ⟨pursued.called, standing, ?_, ?_, ?_, ?_⟩
    · intro other isOther
      exact absurd (Dict.mem_keys_of_get? isOther) (accounted.granted_apart found).1
    · intro other isOther
      rw [Dict.get?_pop_self] at isOther
      cases isOther
    · intro flight isFlight
      rw [flies] at isFlight
      rw [← Option.some.inj isFlight]
      refine ⟨pings, by simp, standing, ?_, ?_⟩
      · intro known error isKnown
        rw [← Option.some.inj (entry.symm.trans isKnown), waiting]
        exact QueryFuture.noConfusion
      · intro known response isKnown done
        rw [← Option.some.inj (entry.symm.trans isKnown), waiting] at done
        cases done
    · intro ended
      exact absurd ((mem_active_iff _ _).mpr
        (.inr (.inr (Option.isSome_iff_exists.mpr ⟨_, flies⟩)))) ended
  · rename_i outcome
    rw [outcome] at returns
    exact returns.elim

/-- A query in flight is interrupted, or another one is. -/
theorem Pursued.interrupt (pursued : Pursued env localIps nodeId since count number system)
    {other : Nat} {flight : Flight} (found : Dict.get? other system.flying = some flight)
    {interrupt : Interrupt} (spared : other = number → interrupt ≠ .cancelled) :
    Pursued env localIps nodeId since count number
      (system.interruptFlight other flight interrupt) := by
  have stands : ∀ more, system.node.Standing env localIps nodeId since more →
      (system.interruptFlight other flight interrupt).node.Standing env localIps nodeId since more :=
    fun more standing => ((DHTNode.standing_bearing validConfig).cancelFuture flight.tid).after
      standing
  have awaited : ∀ tid, system.node.Awaited env localIps nodeId since count tid →
      (system.interruptFlight other flight interrupt).node.Awaited env localIps nodeId since count
        tid :=
    fun tid awaited => (DHTNode.cancelFuture_awaited flight.tid).after awaited
  by_cases mine : other = number
  · subst mine
    obtain ⟨pings, -, here⟩ := pursued.flying flight found
    have flies : Dict.get? other (system.interruptFlight other flight interrupt).flying =
        some { flight with interrupt := some interrupt } := Dict.get?_set_self _ _ _
    refine ⟨pursued.called, stands count pursued.standing, pursued.waiting, pursued.granted, ?_, ?_⟩
    · intro current isCurrent
      rw [flies] at isCurrent
      rw [← Option.some.inj isCurrent]
      refine ⟨pings, fun same => spared rfl (Option.some.inj same), awaited flight.tid here⟩
    · intro ended
      exact absurd ((mem_active_iff _ _).mpr
        (.inr (.inr (Option.isSome_iff_exists.mpr ⟨_, flies⟩)))) ended
  · exact pursued.frame stands (Nat.le_refl _) rfl rfl (Dict.get?_set_ne (Ne.symm mine) _ _)
      fun flight _ => awaited flight.tid

/-- The query ends: it has timed out, or the contact has answered. -/
theorem Pursued.land (pursued : Pursued env localIps nodeId since count number system)
    (accounted : Accounted limit delivered system)
    (taken : step env system (.resume number) = some next)
    (there : ¬ next.node.Gone env.config nodeId) :
    Pursued env localIps nodeId since count number next := by
  have stands := fun more (standing : system.node.Standing env localIps nodeId since more) =>
    standing_step validConfig standing taken there
  obtain ⟨flight, found, resumed⟩ := Option.bind_eq_some_iff.mp taken
  obtain ⟨pings, running, awaited⟩ := pursued.flying flight found
  obtain ⟨calls, waiting, granted, flying⟩ := resumed_others resumed
  have apart := accounted.flying_apart found
  refine ⟨calls ▸ pursued.called, stands count pursued.standing, ?_, ?_, ?_, fun _ => ?_⟩
  · intro request isRequest
    rw [waiting] at isRequest
    exact absurd (Dict.mem_keys_of_get? isRequest) apart.1
  · intro request isRequest
    rw [granted] at isRequest
    exact absurd (Dict.mem_keys_of_get? isRequest) apart.2
  · intro current isCurrent
    rw [flying, Dict.get?_pop_self] at isCurrent
    cases isCurrent
  · by_cases expired : flight.interrupt = some .timedOut
    · have marked := (DHTNode.expire_standing flight.request flight.tid).after pursued.standing
      rw [if_pos pings.expected, ← resumed_node expired resumed] at marked
      exact marked.resolve_right there
    · apply stands
      obtain ⟨pending, isPending, -⟩ := accounted.entry found
      have idle : flight.interrupt = none := by
        cases interrupt : flight.interrupt with
        | none => rfl
        | some reason =>
            cases reason with
            | timedOut => exact absurd interrupt expired
            | cancelled => exact absurd interrupt running
      cases future : pending.future with
      | waiting => simp [resumeFlight, idle, isPending, future] at resumed
      | cancelled => simp [resumeFlight, idle, isPending, future] at resumed
      | failed error => exact absurd future (awaited.unfailed pending error isPending)
      | result response => exact awaited.heard pending response isPending future _

/-- While the contact is there, a ping that is not cut short stays in order. -/
theorem Pursued.step (pursued : Pursued env localIps nodeId since count number system)
    (accounted : Accounted limit delivered system) {event : NodeEvent}
    (spares : Spares env number system event) (taken : step env system event = some next)
    (there : ¬ next.node.Gone env.config nodeId) :
    Pursued env localIps nodeId since count number next := by
  have stands : ∀ more, system.node.Standing env localIps nodeId since more →
      next.node.Standing env localIps nodeId since more :=
    fun more standing => standing_step validConfig standing taken there
  cases event with
  | connect =>
      cases taken
      exact pursued.aside stands rfl rfl rfl rfl rfl
  | restore records =>
      cases taken
      exact pursued.aside stands rfl rfl rfl rfl
        (((DHTNode.pending_aside _).roaming.restoreContacts env records).after rfl)
  | datagram data source =>
      cases taken
      refine pursued.frame stands (Nat.le_refl _) rfl rfl rfl fun flight isFlight awaited => ?_
      obtain ⟨pending, isPending, expected, endpoint⟩ := accounted.entry isFlight
      have pings := (pursued.flying flight isFlight).1
      exact DHTNode.datagramReceived_awaited validConfig awaited isPending
        (expected.trans pings.expected) (endpoint ▸ pings.allowed) (spares flight isFlight)
  | query request =>
      simp only [NodeSystem.step] at taken
      split at taken
      · cases taken
        exact pursued
      · cases taken
        exact pursued.frame stands (Nat.le_succ _)
          (Dict.get?_concat_ne (Nat.ne_of_lt pursued.called) _ _) rfl rfl fun _ _ awaited => awaited
  | abandon other =>
      obtain ⟨_, _, rfl⟩ := Option.map_eq_some_iff.mp taken
      exact pursued.frame stands (Nat.le_refl _) (Dict.get?_pop_ne (Ne.symm spares) _) rfl rfl
        fun _ _ awaited => awaited
  | grant other =>
      by_cases mine : number = other
      · subst mine
        exact pursued.grant accounted taken
      · obtain ⟨request, found, given⟩ := Option.bind_eq_some_iff.mp taken
        split at given
        · cases given
        · cases given
          exact pursued.frame stands (Nat.le_refl _) (Dict.get?_pop_ne mine _)
            (Dict.get?_concat_ne mine _ _) rfl fun _ _ awaited => awaited.of_entry rfl stands
  | decline other =>
      obtain ⟨_, _, rfl⟩ := Option.map_eq_some_iff.mp taken
      exact pursued.frame stands (Nat.le_refl _) rfl (Dict.get?_pop_ne (Ne.symm spares) _) rfl
        fun _ _ awaited => awaited.of_entry rfl stands
  | launch other =>
      by_cases mine : number = other
      · subst mine
        exact pursued.launch validConfig accounted spares taken there
      · exact pursued.launchOther accounted mine stands taken
  | timeout other =>
      obtain ⟨flight, found, given⟩ := Option.bind_eq_some_iff.mp taken
      split at given
      · cases given
      · cases given
        exact pursued.interrupt validConfig found fun _ => by decide
  | cancel other =>
      obtain ⟨flight, found, rfl⟩ := Option.map_eq_some_iff.mp taken
      exact pursued.interrupt validConfig found fun mine => absurd mine spares
  | resume other =>
      by_cases mine : number = other
      · subst mine
        exact pursued.land validConfig accounted taken there
      · obtain ⟨current, isCurrent, resumed⟩ := Option.bind_eq_some_iff.mp taken
        obtain ⟨calls, waiting, granted, flying⟩ := resumed_others resumed
        have pending := (accounted.resume env isCurrent resumed).2.1
        refine pursued.frame stands (Nat.le_of_eq calls.symm) (by rw [waiting]) (by rw [granted])
          (by rw [flying, Dict.get?_pop_ne mine]) fun flight isFlight awaited =>
            awaited.of_entry ?_ stands
        rw [pending, Dict.get?_pop_ne (accounted.tid_apart isFlight isCurrent mine)]
  | lookup place =>
      obtain ⟨response, _, rfl⟩ := Option.map_eq_some_iff.mp taken
      exact pursued.aside stands rfl rfl rfl rfl
        (((DHTNode.pending_aside _).roaming.learnContacts env false 0 _).after rfl)
  | refreshBucket place now =>
      cases taken
      exact pursued.aside stands rfl rfl rfl rfl
        (((DHTNode.pending_aside _).roaming.refreshBucket place now).after rfl)
  | closeIngress =>
      cases taken
      exact pursued.frame stands (Nat.le_refl _) rfl rfl rfl fun _ isFlight _ =>
        absurd (Dict.mem_keys_of_get? isFlight) spares

end pursued

end NodeSystem

end PyDht
