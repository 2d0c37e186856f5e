import PyDht.Maintenance
import PyDht.PingOutcomes
import PyDht.RoutingRumours

set_option autoImplicit false

namespace PyDht

namespace NodeSystem

variable {env : Environment} {limit : Int} {system next : NodeSystem}

/-- Whatever happens, the queries and the pending entries go on to match. -/
theorem Accounted.anyStep (accounted : Accounted limit (fun _ _ _ => True) system)
    {event : NodeEvent} (taken : NodeSystem.step env system event = some next) :
    ∃ left, Accounted left (fun _ _ _ => True) next := by
  by_cases isDatagram : ∃ data source, event = .datagram data source
  · obtain ⟨data, source, rfl⟩ := isDatagram
    cases taken
    have current : DHTNode.Ticketed system.tickets system.node.pendingSlots
        (fun ticket _ => ∀ entry ∈ system.flying, flightTicket entry = ticket → True)
        system.node :=
      ⟨accounted.ticketed.tickets, rfl, accounted.ticketed.arrived⟩
    refine ⟨limit, accounted.ofNode ?_⟩
    exact DHTNode.datagramReceived_ticketed accounted.distinct env data source system.node current
      (fun _ _ _ _ _ _ _ => trivial) fun _ _ _ _ _ _ _ _ _ _ => trivial
  · obtain ⟨after, -⟩ | ⟨-, after⟩ :=
      accounted.step (fun data source same => isDatagram ⟨data, source, same⟩) taken
    · exact ⟨limit, after⟩
    · exact ⟨limit - 1, after⟩

end NodeSystem

namespace Maintenance

/-- The event does not cut the ping that is awaited short, nor lets it fail; a ping that starts is
not refused. -/
def Undisturbed (env : Environment) (maintenance : Maintenance) : MaintenanceEvent → Prop
  | .node event => ∀ pinged ∈ maintenance.pinging,
      cancels pinged.2 maintenance.system event = false ∧
        NodeSystem.Spares env pinged.2 maintenance.system event
  | .ping endpoint => maintenance.system.node.closing = false ∧
      endpointAllowed env.config maintenance.system.node.localIps endpoint.1 endpoint.2 = true
  | .round | .pong => True

instance (env : Environment) (maintenance : Maintenance) :
    ∀ event, Decidable (Undisturbed env maintenance event)
  | .node event => inferInstanceAs (Decidable (∀ pinged ∈ maintenance.pinging,
      cancels pinged.2 maintenance.system event = false ∧
        NodeSystem.Spares env pinged.2 maintenance.system event))
  | .ping endpoint => inferInstanceAs (Decidable (maintenance.system.node.closing = false ∧
      endpointAllowed env.config maintenance.system.node.localIps endpoint.1 endpoint.2 = true))
  | .round | .pong => .isTrue trivial

theorem Undisturbed.node {env : Environment} {maintenance next : Maintenance} {event : NodeEvent}
    (undisturbed : Undisturbed env maintenance (.node event))
    (taken : step env maintenance (.node event) = some next) :
    ∃ system, maintenance.system.step env event = some system ∧
      next = { maintenance with system } := by
  obtain ⟨system, stepped, same⟩ := Option.map_eq_some_iff.mp taken
  have goesOn : (maintenance.pinging.any fun pinged =>
      cancels pinged.2 maintenance.system event) = false := by
    cases pinging : maintenance.pinging with
    | none => rfl
    | some pinged => exact (undisturbed pinged pinging).1
  rw [goesOn, if_neg Bool.false_ne_true] at same
  exact ⟨system, stepped, same.symm⟩

/-- The routing table and the books of the queries are in order. -/
structure Kept (env : Environment) (maintenance : Maintenance) : Prop where
  upkept : maintenance.system.node.Upkept env.config
  matched : ∃ limit, NodeSystem.Accounted limit (fun _ _ _ => True) maintenance.system

section steps

variable {env : Environment} {localIps : List String} {nodeId : Bytes} {since count base : Nat}
  {start maintenance next : Maintenance} {event : MaintenanceEvent}

/-- The node takes an event, or a round does its own part of the work. -/
theorem step_node (taken : step env maintenance event = some next) :
    (∃ nodeEvent, maintenance.system.step env nodeEvent = some next.system) ∨
      next.system = maintenance.system ∨ ∃ ticks, maintenance.system.node.ticks ≤ ticks ∧
        next.system =
          { maintenance.system with node := { maintenance.system.node with ticks } } := by
  cases event with
  | node nodeEvent =>
      obtain ⟨system, stepped, rfl⟩ := Option.map_eq_some_iff.mp taken
      refine .inl ⟨nodeEvent, ?_⟩
      split <;> exact stepped
  | round =>
      simp only [step] at taken
      split at taken
      · cases taken
        exact .inr (.inr ⟨_, Nat.le_add_right _ _, rfl⟩)
      · cases taken
  | ping endpoint =>
      simp only [step] at taken
      split at taken
      · split at taken
        · cases taken
          exact .inr (.inl rfl)
        · obtain ⟨system, stepped, rfl⟩ := Option.map_eq_some_iff.mp taken
          exact .inl ⟨_, stepped⟩
      · cases taken
  | pong =>
      simp only [step] at taken
      split at taken
      · cases taken
      · split at taken
        · cases taken
        · cases taken
          exact .inr (.inl rfl)

theorem Kept.step (validConfig : 1 ≤ env.config.dhtRoutingBadAfterFailures)
    (kept : Kept env maintenance) (taken : Maintenance.step env maintenance event = some next) :
    Kept env next := by
  obtain ⟨limit, accounted⟩ := kept.matched
  obtain ⟨nodeEvent, stepped⟩ | same | ⟨ticks, -, same⟩ := step_node taken
  · exact ⟨NodeSystem.node_of_step (DHTNode.upkept_lasting validConfig) kept.upkept stepped,
      accounted.anyStep stepped⟩
  · refine ⟨?_, ?_⟩
    · rw [same]
      exact kept.upkept
    · rw [same]
      exact kept.matched
  · refine ⟨?_, ?_⟩
    · rw [same]
      exact kept.upkept
    · rw [same]
      exact ⟨limit, accounted.ofNode ⟨accounted.ticketed.tickets, rfl, accounted.ticketed.arrived⟩⟩

theorem kept_of_run (validConfig : 1 ≤ env.config.dhtRoutingBadAfterFailures) {ownId : Bytes}
    {candidates : CandidateManager} {txCounter : Nat} {first : NodeSystem}
    (made : NodeSystem.new env ownId candidates txCounter localIps = .ok first)
    {events : List MaintenanceEvent}
    (ran : Transition.run (Maintenance.step env) { system := first } events = some maintenance) :
    Kept env maintenance := by
  have upkept : first.node.Upkept env.config := NodeSystem.run_upkept validConfig made
    (show Transition.run (NodeSystem.step env) first [] = some first from rfl)
  exact Transition.invariant_run (Kept env) (fun _ _ _ kept taken => kept.step validConfig taken)
    ran ⟨upkept, _, NodeSystem.new_accounted _ made⟩

/-- The contact with this node ID: each ping of it that has ended counts as one more failure,
unless it has answered, and a ping of it that has not ended is in order. -/
def Followed (env : Environment) (localIps : List String) (nodeId : Bytes)
    (since count base : Nat) (maintenance : Maintenance) : Prop :=
  ∃ more, maintenance.ended.count nodeId = base + more ∧
    maintenance.system.node.Standing env localIps nodeId since (count + more) ∧
    ∀ number, maintenance.pinging = some (nodeId, number) →
      NodeSystem.Pursued env localIps nodeId since (count + more) number maintenance.system

/-- A ping of the contact sets out. -/
theorem pursued_query {system : NodeSystem} {contact : Contact} {endpoint : Endpoint}
    {limit : Int} {delivered : NodeSystem.Delivered}
    (accounted : NodeSystem.Accounted limit delivered system)
    (standing : system.node.Standing env localIps contact.nodeId since count)
    (allowed : endpointAllowed env.config localIps endpoint.1 endpoint.2 = true) :
    NodeSystem.Pursued env localIps contact.nodeId since count system.calls { system with
      calls := system.calls + 1
      waiting := system.waiting ++ [(system.calls, DHTNode.pingRequest contact endpoint)] } := by
  have fresh : system.calls ∉ system.active :=
    fun member => Nat.lt_irrefl _ (accounted.known _ member)
  rw [NodeSystem.mem_active_iff] at fresh
  simp only [not_or, Bool.not_eq_true, Option.isSome_eq_false_iff, Option.isNone_iff_eq_none]
    at fresh
  have absent : system.calls ∉ Dict.keys system.waiting :=
    (Dict.get?_eq_none_iff _ _).mp fresh.1
  have waits : Dict.get? system.calls
      (system.waiting ++ [(system.calls, DHTNode.pingRequest contact endpoint)]) =
        some (DHTNode.pingRequest contact endpoint) := Dict.get?_concat_self _ absent
  refine ⟨Nat.lt_succ_self _, standing, ?_, ?_, ?_, ?_⟩
  · intro request found
    rw [waits] at found
    rw [← Option.some.inj found]
    exact ⟨rfl, allowed⟩
  · intro request found
    rw [fresh.2.1] at found
    cases found
  · intro flight found
    rw [fresh.2.2] at found
    cases found
  · intro ended
    rw [NodeSystem.mem_active_iff] at ended
    exact absurd (.inl (Option.isSome_iff_exists.mpr ⟨_, waits⟩)) ended

/-- While the contact is there, an event that does not disturb its ping keeps count of it. -/
theorem Followed.step (validConfig : 1 ≤ env.config.dhtRoutingBadAfterFailures)
    (kept : Kept env maintenance) (followed : Followed env localIps nodeId since count base maintenance)
    (undisturbed : Undisturbed env maintenance event)
    (taken : Maintenance.step env maintenance event = some next)
    (there : ¬ next.system.node.Gone env.config nodeId) :
    Followed env localIps nodeId since count base next := by
  obtain ⟨limit, accounted⟩ := kept.matched
  obtain ⟨more, counted, standing, pursued⟩ := followed
  cases event with
  | node nodeEvent =>
      obtain ⟨system, stepped, rfl⟩ := undisturbed.node taken
      refine ⟨more, counted, NodeSystem.standing_step validConfig standing stepped there, ?_⟩
      intro number pinging
      exact (pursued number pinging).step validConfig accounted (undisturbed _ pinging).2 stepped
        there
  | round =>
      simp only [Maintenance.step] at taken
      split at taken
      · rename_i idle
        cases taken
        refine ⟨more, counted, standing.chart rfl rfl (Nat.le_add_right _ _), ?_⟩
        intro number pinging
        rw [show maintenance.pinging = none from idle.2] at pinging
        cases pinging
      · cases taken
  | ping endpoint =>
      obtain ⟨running, allowed⟩ := undisturbed
      simp only [Maintenance.step] at taken
      split at taken
      · rename_i contact todo idle chosen
        have admitted : maintenance.system.node.admitted env
            (DHTNode.pingRequest contact endpoint) = .ok () := by
          simp [DHTNode.admitted, DHTNode.pingRequest, running, allowed]
        simp only [admitted, NodeSystem.step, Option.map_some] at taken
        cases taken
        refine ⟨more, counted, standing.chart rfl rfl (Nat.le_refl _), ?_⟩
        intro number pinging
        cases pinging
        exact pursued_query accounted standing (standing.sameIps ▸ allowed)
      · cases taken
  | pong =>
      simp only [Maintenance.step] at taken
      split at taken
      · cases taken
      · rename_i pinged number pinging
        split at taken
        · cases taken
        · rename_i finished
          cases taken
          by_cases mine : pinged = nodeId
          · subst mine
            have tried := (pursued number pinging).ended finished
            refine ⟨more + 1, ?_, tried, fun number pinging => ?_⟩
            · simp only [List.count_append, counted, List.count_singleton_self]
              omega
            · cases pinging
          · refine ⟨more, ?_, standing, fun number pinging => ?_⟩
            · simp [List.count_append, counted, mine]
            · cases pinging

/-- The node IDs of the ping that is awaited and of those still to come. -/
def due (maintenance : Maintenance) : List Bytes :=
  (maintenance.pinging.map Prod.fst).toList ++ maintenance.todo.map Contact.nodeId

theorem Idle.due {maintenance : Maintenance} (idle : maintenance.Idle) : maintenance.due = [] := by
  obtain ⟨todo, pinging⟩ := idle
  simp [Maintenance.due, todo, pinging]

/-- Every choice of a round since, which names no contact twice, is a ping that has ended or is due. -/
def Balanced (nodeId : Bytes) (start maintenance : Maintenance) : Prop :=
  ∃ new, maintenance.rounds = start.rounds ++ new ∧
    maintenance.ended.count nodeId + maintenance.due.count nodeId =
      start.ended.count nodeId + start.due.count nodeId + new.flatten.count nodeId ∧
    ∀ ids ∈ new, ids.Nodup

theorem Balanced.step (kept : Kept env maintenance) (balanced : Balanced nodeId start maintenance)
    (undisturbed : Undisturbed env maintenance event)
    (taken : Maintenance.step env maintenance event = some next) :
    Balanced nodeId start next := by
  obtain ⟨new, grown, counted, distinct⟩ := balanced
  cases event with
  | node nodeEvent =>
      obtain ⟨system, -, rfl⟩ := undisturbed.node taken
      exact ⟨new, grown, counted, distinct⟩
  | round =>
      simp only [Maintenance.step] at taken
      split at taken
      · rename_i idle
        cases taken
        rw [idle.due, List.count_nil, Nat.add_zero] at counted
        refine ⟨new ++ [(maintenance.system.node.chosen env).map Contact.nodeId], ?_, ?_, ?_⟩
        · rw [grown, List.append_assoc]
        · simp only [Maintenance.due, show maintenance.pinging = none from idle.2, Option.map_none,
            Option.toList_none, List.nil_append, List.flatten_append, List.flatten_cons,
            List.flatten_nil, List.append_nil, List.count_append, counted]
          omega
        · intro ids member
          obtain old | latest := List.mem_append.mp member
          · exact distinct ids old
          · obtain ⟨depth, inv⟩ := kept.upkept
            rw [List.mem_singleton.mp latest]
            exact inv.ids_nodup.sublist ((DHTNode.chosen_sublist env _).map _)
      · cases taken
  | ping endpoint =>
      simp only [Maintenance.step] at taken
      split at taken
      · rename_i contact todo idle chosen
        simp only [Maintenance.due, idle, chosen, Option.map_none, Option.toList_none,
          List.nil_append, List.map_cons, List.count_cons, List.count_append] at counted
        split at taken
        · cases taken
          refine ⟨new, grown, ?_, distinct⟩
          simp only [Maintenance.due, idle, Option.map_none, Option.toList_none, List.nil_append,
            List.count_append, List.count_singleton]
          omega
        · obtain ⟨system, -, rfl⟩ := Option.map_eq_some_iff.mp taken
          refine ⟨new, grown, ?_, distinct⟩
          simp only [Maintenance.due, Option.map_some, Option.toList_some, List.singleton_append,
            List.count_cons, List.count_append]
          omega
      · cases taken
  | pong =>
      simp only [Maintenance.step] at taken
      split at taken
      · cases taken
      · rename_i pinged number pinging
        split at taken
        · cases taken
        · cases taken
          refine ⟨new, grown, ?_, distinct⟩
          simp only [Maintenance.due, pinging, Option.map_some, Option.toList_some,
            List.singleton_append, List.count_cons, List.count_append] at counted
          simp only [Maintenance.due, Option.map_none, Option.toList_none, List.nil_append,
            List.count_append, List.count_singleton]
          omega

end steps

/-- The contact was removed or has failed more often than then. -/
def Overtaken (contact : Contact) (maintenance : Maintenance) : Prop :=
  ∀ other ∈ maintenance.system.node.routing.allContacts, other.nodeId = contact.nodeId →
    contact.failures < other.failures

instance (contact : Contact) : DecidablePred (Overtaken contact) := fun maintenance =>
  inferInstanceAs (Decidable (∀ other ∈ maintenance.system.node.routing.allContacts,
    other.nodeId = contact.nodeId → contact.failures < other.failures))

/-- The contact was removed or is BAD. -/
def Gone (env : Environment) (nodeId : Bytes) (maintenance : Maintenance) : Prop :=
  maintenance.system.node.Gone env.config nodeId

/-- The contact has answered since that reading of the clock and is GOOD for as long as that
answer counts. -/
def Revived (env : Environment) (nodeId : Bytes) (since : Nat) (maintenance : Maintenance) : Prop :=
  ∃ contact ∈ maintenance.system.node.routing.allContacts, contact.nodeId = nodeId ∧
    ∃ tick, since ≤ tick ∧ tick < maintenance.system.node.ticks ∧
      ∀ now, now ≤ env.monotonicNs tick + nanoseconds env.config.dhtRoutingGoodTtl →
        contact.state env.config now = .good

/-- What becomes of a contact in the course of a run. A ping of it that ends leaves it with more
failures, removed or GOOD, and so many pings that end as a contact may fail leave it BAD, removed
or GOOD. -/
structure Progresses (env : Environment) (start : Maintenance) (events : List MaintenanceEvent)
    (final : Maintenance) (contact : Contact) : Prop where
  outcome : start.ended.count contact.nodeId < final.ended.count contact.nodeId →
    Transition.Passes (Overtaken contact) (step env) start events ∨
      Revived env contact.nodeId start.system.node.ticks final
  patience : (start.ended.count contact.nodeId : Int) + env.config.dhtRoutingBadAfterFailures ≤
      final.ended.count contact.nodeId →
    Transition.Passes (Gone env contact.nodeId) (step env) start events ∨
      Revived env contact.nodeId start.system.node.ticks final

/-- Pings make every contact progress, and so no eight contacts take up every place in so many
rounds as a contact may fail. -/
structure Progress (env : Environment) (start : Maintenance) (events : List MaintenanceEvent)
    (final : Maintenance) : Prop where
  contacts : ∀ contact ∈ start.system.node.routing.allContacts, ¬ contact.Bad env.config →
    (∀ number, start.pinging ≠ some (contact.nodeId, number)) →
      Progresses env start events final contact
  turns : start.Idle → final.Idle → ∀ new, final.rounds = start.rounds ++ new →
    env.config.dhtRoutingBadAfterFailures ≤ new.length →
      ∀ eight : List Contact, eight.length ≤ DHT_K →
        (∀ contact ∈ eight, contact ∈ start.system.node.routing.allContacts ∧
          ¬ contact.Bad env.config ∧
          ¬ Transition.Passes (Gone env contact.nodeId) (step env) start events ∧
          ¬ Revived env contact.nodeId start.system.node.ticks final) →
        ∃ ids ∈ new, ids.length < DHT_K ∨ ∃ nodeId ∈ ids, nodeId ∉ eight.map Contact.nodeId

section progress

variable {env : Environment} {localIps : List String} {nodeId : Bytes} {since count base : Nat}
  {start final : Maintenance} {events : List MaintenanceEvent} {contact : Contact}

/-- The contact is still followed at the end, unless it was gone at some point. -/
theorem followed_or_gone (validConfig : 1 ≤ env.config.dhtRoutingBadAfterFailures)
    (kept : Kept env start) (ran : Transition.run (step env) start events = some final)
    (undisturbed : Transition.Along (Undisturbed env) (step env) start events)
    (member : contact ∈ start.system.node.routing.allContacts) (sound : ¬ contact.Bad env.config)
    (unasked : ∀ number, start.pinging ≠ some (contact.nodeId, number)) :
    Followed env start.system.node.localIps contact.nodeId start.system.node.ticks
        contact.failures (start.ended.count contact.nodeId) final ∨
      Transition.Passes (Gone env contact.nodeId) (step env) start events := by
  have initial : Followed env start.system.node.localIps contact.nodeId start.system.node.ticks
      contact.failures (start.ended.count contact.nodeId) start := by
    refine ⟨0, rfl, ?_, fun number pinging => absurd pinging (unasked number)⟩
    exact ⟨kept.upkept, rfl, Nat.le_refl _, contact, member, rfl, sound, .inl (Nat.le_refl _)⟩
  have followed := Transition.invariant_unless
    (fun state => Kept env state ∧ Followed env start.system.node.localIps contact.nodeId
      start.system.node.ticks contact.failures (start.ended.count contact.nodeId) state)
    (Gone env contact.nodeId)
    (fun _ _ _ holds here taken there =>
      ⟨holds.1.step validConfig taken, holds.2.step validConfig holds.1 here taken there⟩)
    undisturbed ran ⟨kept, initial⟩
  exact followed.imp_left And.right

/-- A followed contact has failed as often as it was pinged or has answered. -/
theorem Followed.settled
    (followed : Followed env localIps nodeId since count base final) :
    (∃ contact ∈ final.system.node.routing.allContacts, contact.nodeId = nodeId ∧
      ¬ contact.Bad env.config ∧ final.ended.count nodeId ≤ base + (contact.failures - count)) ∨
      Revived env nodeId since final := by
  obtain ⟨more, counted, standing, -⟩ := followed
  obtain ⟨contact, member, same, sound, failed | ⟨tick, begun, read, responded⟩⟩ := standing.kept
  · exact .inl ⟨contact, member, same, sound, by omega⟩
  · refine .inr ⟨contact, member, same, tick, begun, read, fun now early => ?_⟩
    rw [Contact.state_good_iff sound, responded, recent_some]
    exact .inl early

theorem Gone.overtaken {state : Maintenance} (sound : ¬ contact.Bad env.config)
    (gone : Gone env contact.nodeId state) : Overtaken contact state := by
  intro other present same
  have bad := gone other present same
  unfold Contact.Bad at sound bad
  omega

theorem progresses (validConfig : 1 ≤ env.config.dhtRoutingBadAfterFailures)
    (kept : Kept env start) (ran : Transition.run (step env) start events = some final)
    (undisturbed : Transition.Along (Undisturbed env) (step env) start events)
    (member : contact ∈ start.system.node.routing.allContacts) (sound : ¬ contact.Bad env.config)
    (unasked : ∀ number, start.pinging ≠ some (contact.nodeId, number)) :
    Progresses env start events final contact := by
  have keptFinal : Kept env final := Transition.invariant_run (Kept env)
    (fun _ _ _ kept taken => kept.step validConfig taken) ran kept
  obtain followed | gone := followed_or_gone validConfig kept ran undisturbed member sound unasked
  · obtain ⟨other, present, same, stillSound, counted⟩ | revived := followed.settled
    · constructor
      · intro ended
        refine .inl (.last ran fun another listed named => ?_)
        obtain ⟨depth, inv⟩ := keptFinal.upkept
        have only : another = other :=
          List.inj_on_of_nodup_map inv.ids_nodup listed present (named.trans same.symm)
        rw [only]
        omega
      · intro ended
        unfold Contact.Bad at stillSound
        omega
    · exact ⟨fun _ => .inr revived, fun _ => .inr revived⟩
  · exact ⟨fun _ => .inl (gone.mono fun _ => Gone.overtaken sound), fun _ => .inl gone⟩

theorem length_le_count_flatten {α : Type} [BEq α] [LawfulBEq α] {element : α}
    {lists : List (List α)} (each : ∀ list ∈ lists, element ∈ list) :
    lists.length ≤ lists.flatten.count element := by
  induction lists with
  | nil => exact Nat.le_refl _
  | cons list lists ih =>
      obtain ⟨here, others⟩ := List.forall_mem_cons.mp each
      have positive := List.count_pos_iff.mpr here
      have rest := ih others
      simp only [List.length_cons, List.flatten_cons, List.count_append]
      omega

/-- From idle to idle, every choice of a round is a ping that has ended. -/
theorem balanced_of_run (validConfig : 1 ≤ env.config.dhtRoutingBadAfterFailures)
    (kept : Kept env start) (ran : Transition.run (step env) start events = some final)
    (undisturbed : Transition.Along (Undisturbed env) (step env) start events)
    (nodeId : Bytes) : Balanced nodeId start final := by
  have balanced := Transition.invariant_along
    (fun state => Kept env state ∧ Balanced nodeId start state)
    (fun _ _ _ holds here taken =>
      ⟨holds.1.step validConfig taken, holds.2.step holds.1 here taken⟩)
    undisturbed ran ⟨kept, [], (List.append_nil _).symm, rfl, fun _ member => absurd member
      List.not_mem_nil⟩
  exact balanced.2

/-- Rounds that choose none but these contacts choose all of them. -/
theorem chosen_all {ids eight : List Bytes} (distinct : ids.Nodup) (full : DHT_K ≤ ids.length)
    (few : eight.length ≤ DHT_K) (only : ∀ nodeId ∈ ids, nodeId ∈ eight) :
    ∀ nodeId ∈ eight, nodeId ∈ ids := by
  have same : ids.Perm eight :=
    (List.subperm_of_subset distinct only).perm_of_length_le (Nat.le_trans few full)
  exact fun _ member => same.mem_iff.mpr member

theorem turns (validConfig : 1 ≤ env.config.dhtRoutingBadAfterFailures)
    (kept : Kept env start) (ran : Transition.run (step env) start events = some final)
    (undisturbed : Transition.Along (Undisturbed env) (step env) start events)
    (idle : start.Idle) (rests : final.Idle) {new : List (List Bytes)}
    (grown : final.rounds = start.rounds ++ new)
    (many : env.config.dhtRoutingBadAfterFailures ≤ new.length) {eight : List Contact}
    (few : eight.length ≤ DHT_K)
    (stay : ∀ contact ∈ eight, contact ∈ start.system.node.routing.allContacts ∧
      ¬ contact.Bad env.config ∧
      ¬ Transition.Passes (Gone env contact.nodeId) (step env) start events ∧
      ¬ Revived env contact.nodeId start.system.node.ticks final) :
    ∃ ids ∈ new, ids.length < DHT_K ∨ ∃ nodeId ∈ ids, nodeId ∉ eight.map Contact.nodeId := by
  by_contra always
  simp only [not_exists, not_and, not_or, not_lt, not_not] at always
  have ended : ∀ nodeId, final.ended.count nodeId =
      start.ended.count nodeId + new.flatten.count nodeId ∧ ∀ ids ∈ new, ids.Nodup := by
    intro nodeId
    obtain ⟨rounds, isRounds, counted, distinct⟩ :=
      balanced_of_run validConfig kept ran undisturbed nodeId
    rw [List.append_cancel_left (grown.symm.trans isRounds)]
    rw [idle.due, rests.due] at counted
    exact ⟨by simpa using counted, distinct⟩
  have all : ∀ contact ∈ eight, ∀ ids ∈ new, contact.nodeId ∈ ids := fun contact listed ids made =>
    chosen_all ((ended contact.nodeId).2 ids made) (always ids made).1 (by simpa using few)
      (always ids made).2 _ (List.mem_map_of_mem listed)
  -- There is a round, and its first choice is one of the eight.
  obtain ⟨ids, made⟩ : ∃ ids, ids ∈ new := List.exists_mem_of_length_pos (by omega)
  obtain ⟨nodeId, picked⟩ : ∃ nodeId, nodeId ∈ ids :=
    List.exists_mem_of_length_pos (Nat.lt_of_lt_of_le (by decide) (always ids made).1)
  obtain ⟨contact, listed, -⟩ := List.mem_map.mp ((always ids made).2 nodeId picked)
  obtain ⟨member, sound, lives, silent⟩ := stay contact listed
  have unasked : ∀ number, start.pinging ≠ some (contact.nodeId, number) := by
    intro number pinging
    rw [show start.pinging = none from idle.2] at pinging
    cases pinging
  have often := length_le_count_flatten (all contact listed)
  have count := (ended contact.nodeId).1
  have settled := (progresses validConfig kept ran undisturbed member sound unasked).patience
    (by omega)
  exact settled.elim lives silent

end progress

/-- From every reachable state on: where nothing cuts a ping short, refuses it or answers it with
an error, every contact that is pinged progresses, and the contacts take their turns. -/
theorem run_progress (env : Environment)
    (validConfig : 1 ≤ env.config.dhtRoutingBadAfterFailures) (nodeId : Bytes)
    (candidates : CandidateManager) (txCounter : Nat) (localIps : List String)
    (first : NodeSystem) (made : NodeSystem.new env nodeId candidates txCounter localIps = .ok first)
    (past : List MaintenanceEvent) (start : Maintenance)
    (reached : Transition.run (step env) { system := first } past = some start)
    (events : List MaintenanceEvent) (final : Maintenance)
    (ran : Transition.run (step env) start events = some final)
    (undisturbed : Transition.Along (Undisturbed env) (step env) start events) :
    Progress env start events final := by
  have kept := kept_of_run validConfig made reached
  constructor
  · intro contact member sound unasked
    exact progresses validConfig kept ran undisturbed member sound unasked
  · intro idle rests new grown many eight few stay
    exact turns validConfig kept ran undisturbed idle rests grown many few stay

theorem quiet_check {past events : List MaintenanceEvent} {test : Maintenance → Maintenance → Bool}
    (checked : (NodeSystem.quietNode.toOption.bind fun first =>
      (Transition.run (step NodeSystem.quietWorld) { system := first } past).bind fun start =>
        (Transition.run (step NodeSystem.quietWorld) start events).map fun final =>
          test start final) = some true) :
    ∃ first start final, NodeSystem.quietNode = .ok first ∧
      Transition.run (step NodeSystem.quietWorld) { system := first } past = some start ∧
      Transition.run (step NodeSystem.quietWorld) start events = some final ∧
      test start final = true := by
  obtain ⟨first, made, tested⟩ := Option.bind_eq_some_iff.mp checked
  obtain ⟨start, reached, tested⟩ := Option.bind_eq_some_iff.mp tested
  obtain ⟨final, ran, holds⟩ := Option.map_eq_some_iff.mp tested
  cases built : NodeSystem.quietNode with
  | error fault => simp [built, Except.toOption] at made
  | ok node =>
      simp only [built, Except.toOption, Option.some.injEq] at made
      exact ⟨first, start, final, made ▸ rfl, reached, ran, holds⟩

/-- A contact as the snapshot file names it. -/
def savedContact (nodeId ip : String) : SnapshotRecord :=
  { event := some "contact", nodeId := some nodeId, ip := some ip, udpPort := some 6881,
    routingState := some .questionable }

/-- The node has one contact. -/
def oneContact : List MaintenanceEvent :=
  [.node .connect,
    .node (.restore [savedContact "0000000000000000000000000000000000000001" "8.8.8.8"])]

/-- A ping of the only contact, which nobody answers. -/
def unanswered : List MaintenanceEvent :=
  [.round, .ping ("8.8.8.8", 6881), .node (.grant 0), .node (.launch 0), .node (.timeout 0),
    .node (.resume 0), .pong]

theorem run_progress_sample : ∃ first start final, NodeSystem.quietNode = .ok first ∧
    Transition.run (step NodeSystem.quietWorld) { system := first } oneContact = some start ∧
    Transition.run (step NodeSystem.quietWorld) start unanswered = some final ∧
    final.ended ≠ start.ended ∧ Progress NodeSystem.quietWorld start unanswered final := by
  obtain ⟨first, start, final, made, reached, ran, checked⟩ := quiet_check
    (show (NodeSystem.quietNode.toOption.bind fun first =>
      (Transition.run (step NodeSystem.quietWorld) { system := first } oneContact).bind fun start =>
        (Transition.run (step NodeSystem.quietWorld) start unanswered).map fun final =>
          decide (final.ended ≠ start.ended) &&
            decide (Transition.Along (Undisturbed NodeSystem.quietWorld)
              (step NodeSystem.quietWorld) start unanswered)) = some true by decide +kernel)
  rw [Bool.and_eq_true, decide_eq_true_eq, decide_eq_true_eq] at checked
  exact ⟨first, start, final, made, reached, ran, checked.1,
    run_progress NodeSystem.quietWorld (by decide) _ _ _ _ first made _ start reached unanswered
      final ran checked.2⟩

/-- Eight contacts with private addresses, ahead of one that can be reached. -/
def privateContacts : List MaintenanceEvent :=
  [.node .connect, .node (.restore
    [savedContact "0000000000000000000000000000000000000001" "10.0.0.1",
      savedContact "0000000000000000000000000000000000000002" "10.0.0.1",
      savedContact "0000000000000000000000000000000000000003" "10.0.0.1",
      savedContact "0000000000000000000000000000000000000004" "10.0.0.1",
      savedContact "0000000000000000000000000000000000000005" "10.0.0.1",
      savedContact "0000000000000000000000000000000000000006" "10.0.0.1",
      savedContact "0000000000000000000000000000000000000007" "10.0.0.1",
      savedContact "0000000000000000000000000000000000000008" "10.0.0.1",
      savedContact "ff00000000000000000000000000000000000009" "8.8.8.8"])]

/-- Three rounds, more than a contact may fail. -/
def refusedRounds : List MaintenanceEvent :=
  (List.replicate 3 (.round :: List.replicate 8 (.ping ("10.0.0.1", 6881)))).flatten

/-- The policy refuses the pings, which changes nothing: each round chooses the same eight contacts,
which have not failed once, and never the ninth. -/
theorem refused_rounds_stall : ∃ first start final, NodeSystem.quietNode = .ok first ∧
    Transition.run (step NodeSystem.quietWorld) { system := first } privateContacts = some start ∧
    Transition.run (step NodeSystem.quietWorld) start refusedRounds = some final ∧
    start.system.node.routing.allContacts.length = 9 ∧ final.rounds = List.replicate 3
      ((start.system.node.routing.allContacts.take DHT_K).map Contact.nodeId) ∧
    ¬ Progress NodeSystem.quietWorld start refusedRounds final := by
  obtain ⟨first, start, final, made, reached, ran, checked⟩ := quiet_check
    (show (NodeSystem.quietNode.toOption.bind fun first =>
      (Transition.run (step NodeSystem.quietWorld) { system := first } privateContacts).bind
        fun start => (Transition.run (step NodeSystem.quietWorld) start refusedRounds).map
          fun final : Maintenance => decide (start.system.node.routing.allContacts.length = 9 ∧
            final.rounds = List.replicate 3
              ((start.system.node.routing.allContacts.take DHT_K).map Contact.nodeId) ∧
            ∃ contact ∈ start.system.node.routing.allContacts, contact.failures = 0 ∧
              start.pinging = none ∧
              start.ended.count contact.nodeId < final.ended.count contact.nodeId ∧
              ¬ Transition.Passes (Overtaken contact) (step NodeSystem.quietWorld) start
                refusedRounds ∧
              ∀ other ∈ final.system.node.routing.allContacts, other.nodeId = contact.nodeId →
                other.state NodeSystem.quietWorld.config 0 ≠ .good)) = some true
      by decide +kernel)
  obtain ⟨nine, same, contact, member, fresh, idle, ended, stays, doubtful⟩ :=
    of_decide_eq_true checked
  have sound : ¬ contact.Bad NodeSystem.quietWorld.config := by
    rw [Contact.Bad, fresh]
    decide
  refine ⟨first, start, final, made, reached, ran, nine, same, fun progress => ?_⟩
  have progresses := progress.contacts contact member sound (by simp [idle])
  obtain overtaken | ⟨other, listed, same, tick, -, -, good⟩ := progresses.outcome ended
  · exact stays overtaken
  · refine doubtful other listed same (good 0 ?_)
    show (0 : Int) ≤ (tick : Int) + nanoseconds 900
    have : (0 : Int) ≤ nanoseconds 900 := by decide
    omega

end Maintenance

end PyDht
