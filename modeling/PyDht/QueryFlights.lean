import PyDht.OutgoingDatagrams

set_option autoImplicit false

namespace PyDht

open Effects (Ensures Preserves)

namespace DHTNode

theorem sent_member_passive (datagram : Sent) : Passive fun node => datagram ∈ node.sent :=
  Passive.ofStock fun stock => datagram ∈ stock.sent

/-- What was sent stays sent. -/
theorem sent_member_lasting (env : Environment) (datagram : Sent) :
    Lasting env fun node => datagram ∈ node.sent := by
  apply (sent_member_passive datagram).lasting env
    fun _ _ _ _ _ member => List.mem_append_left _ member
  intro msg source start member
  have kept : ∀ node, Posts start source (Answers env (transaction msg)) node →
      datagram ∈ node.sent := by
    intro node posts
    rcases posts with same | ⟨other, sent, _⟩
    · exact same ▸ member
    · rw [sent]
      exact List.mem_append_left _ member
  exact (handleQuery_posts msg).weaken (fun _ same => same ▸ rfl) (fun _ => kept) fun _ => kept

theorem nextTid_length {pending : List (Bytes × PendingQuery)} {rounds counter : Nat} {tid : Bytes}
    {next : Nat} (found : nextTid pending rounds counter = .ok (tid, next)) : tid.length = 2 := by
  induction rounds generalizing counter with
  | zero => cases found
  | succ rounds ih =>
      unfold nextTid at found
      dsimp only at found
      split at found
      · exact ih found
      · cases found
        rfl

/-- The query has gone out as the datagram says, under an ID of two bytes. -/
structure Dispatches (env : Environment) (nodeId tid : Bytes) (request : Request)
    (datagram : Sent) : Prop where
  two : tid.length = 2
  endpoint : datagram.endpoint = request.endpoint
  isSealed : datagram.Sealed
  message : ∀ node : DHTNode, node.nodeId = nodeId →
    datagram.message = queryMessage env node tid request

/-- A call that goes on has sent its query. -/
theorem launch_dispatches (env : Environment) (request : Request) (start : DHTNode) :
    Ensures (· = start) (launch env request)
      (fun tid node => ∃ datagram ∈ node.sent, Dispatches env start.nodeId tid request datagram)
      (fun _ _ => True) := by
  apply Ensures.get
  intro node same
  rw [same]
  apply Ensures.raiseBind _ fun _ _ _ _ => trivial
  intro named found
  dsimp only
  apply (Ensures.regardless (monotonicNs env)).bind
  intro sentNs
  apply (Ensures.regardless (modify _)).bind
  intro _
  apply (Ensures.regardless (Effects.when _ _)).bind
  intro _
  have sends : Ensures (fun _ => True)
      (tryCatch (send (queryMessage env start named.1 request) request.endpoint) fun fault => do
        forget named.1
        throw fault)
      (fun _ node => ∃ datagram ∈ node.sent,
        Dispatches env start.nodeId named.1 request datagram) (fun _ _ => True) := by
    have goes : Ensures (fun _ => True)
        (send (queryMessage env start named.1 request) request.endpoint)
        (fun _ node => ∃ datagram ∈ node.sent,
          Dispatches env start.nodeId named.1 request datagram) (fun _ _ => True) := by
      apply Ensures.get
      intro seen _
      have connected : Ensures (· = seen) (Effects.check seen.connected
          (PyError.dhtError "UDP transport not ready")) (fun _ => (· = seen)) (fun _ _ => True) :=
        Ensures.check (fun _ _ same => same) fun _ _ _ => trivial
      apply connected.bind
      intro _
      apply Ensures.raiseBind _ fun _ _ _ _ => trivial
      intro payload encoded
      have small : Ensures (· = seen) (Effects.check
          (decide (payload.length ≤ MAX_DHT_RESPONSE_BYTES)) (PyError.dhtError
            "outbound DHT datagram exceeds 1024-byte protocol limit"))
          (fun _ _ => payload.length ≤ MAX_DHT_RESPONSE_BYTES) (fun _ _ => True) :=
        Ensures.check (fun fits _ _ => of_decide_eq_true fits) fun _ _ _ => trivial
      apply small.bind
      intro _
      apply Ensures.set
      intro _ short
      refine ⟨_, List.mem_append_right _ (List.mem_singleton.mpr rfl), nextTid_length found, rfl,
        ⟨encoded, short⟩, fun other named => queryMessage_congr named.symm _ _⟩
    apply Ensures.tryCatch goes
    intro fault
    exact (Ensures.regardless (forget named.1)).bind fun _ => Ensures.throw fun _ _ => trivial
  apply sends.bind
  intro _
  exact Ensures.pure fun _ holds => holds

end DHTNode

namespace NodeSystem

variable {env : Environment} {start system next : NodeSystem} {event : NodeEvent}

/-- The flights after a step are those from before, or one more that was just launched. -/
theorem flying_of_step (taken : step env system event = some next) {number : Nat} {flight : Flight}
    (member : (number, flight) ∈ next.flying) :
    (∃ before, (number, before) ∈ system.flying ∧ flight.request = before.request ∧
      flight.tid = before.tid) ∨
    ∃ request tid, event = .launch number ∧ flight = { request, tid } ∧
      DHTNode.launch env request system.node = .ok tid next.node := by
  have still : ∀ flying, flying = system.flying → (number, flight) ∈ flying →
      ∃ before, (number, before) ∈ system.flying ∧ flight.request = before.request ∧
        flight.tid = before.tid :=
    fun flying same member => ⟨flight, same ▸ member, rfl, rfl⟩
  have interrupted : ∀ other current interrupt, Dict.get? other system.flying = some current →
      (number, flight) ∈ (system.interruptFlight other current interrupt).flying →
      ∃ before, (number, before) ∈ system.flying ∧ flight.request = before.request ∧
        flight.tid = before.tid := by
    intro other current interrupt found member
    rcases Dict.mem_of_mem_set member with old | new
    · exact ⟨flight, old, rfl, rfl⟩
    · obtain ⟨rfl, rfl⟩ := Prod.mk.inj new
      exact ⟨current, Dict.mem_of_get? found, rfl, rfl⟩
  cases event with
  | connect | restore | datagram | refreshBucket | closeIngress =>
      cases taken
      exact .inl (still _ rfl member)
  | query request =>
      simp only [NodeSystem.step] at taken
      split at taken <;> cases taken <;> exact .inl (still _ rfl member)
  | abandon other | decline other | lookup place =>
      rcases Option.map_eq_some_iff.mp taken with ⟨_, _, rfl⟩
      exact .inl (still _ rfl member)
  | grant other =>
      rcases Option.bind_eq_some_iff.mp taken with ⟨_, _, given⟩
      split at given
      · cases given
      · cases given
        exact .inl (still _ rfl member)
  | launch other =>
      rcases Option.map_eq_some_iff.mp taken with ⟨request, _, same⟩
      dsimp only at same
      split at same
      · rename_i tid node launched
        rw [← same] at member ⊢
        rcases List.mem_append.mp member with old | new
        · exact .inl (still _ rfl old)
        · obtain ⟨rfl, rfl⟩ := Prod.mk.inj (List.mem_singleton.mp new)
          exact .inr ⟨request, tid, rfl, rfl, launched⟩
      · rw [← same] at member
        exact .inl (still _ rfl member)
  | timeout other =>
      rcases Option.bind_eq_some_iff.mp taken with ⟨current, found, given⟩
      split at given
      · cases given
      · cases given
        exact .inl (interrupted other current .timedOut found member)
  | cancel other =>
      rcases Option.map_eq_some_iff.mp taken with ⟨current, found, rfl⟩
      exact .inl (interrupted other current .cancelled found member)
  | resume other =>
      rcases Option.bind_eq_some_iff.mp taken with ⟨current, found, resumed⟩
      have popped : next.flying = Dict.pop other system.flying := by
        unfold resumeFlight at resumed
        dsimp only at resumed
        split at resumed
        · cases resumed
          rfl
        · cases resumed
          rfl
        · split at resumed <;> cases resumed <;> rfl
      rw [popped] at member
      exact .inl ⟨flight, Dict.mem_of_mem_pop member, rfl, rfl⟩

/-- The query of every flight has gone out. -/
def Dispatched (env : Environment) (system : NodeSystem) : Prop :=
  ∀ entry ∈ system.flying, ∃ datagram ∈ system.node.sent,
    DHTNode.Dispatches env system.node.nodeId entry.2.tid entry.2.request datagram

theorem Dispatched.step (dispatched : Dispatched env system)
    (taken : NodeSystem.step env system event = some next) : Dispatched env next := by
  have identity : next.node.nodeId = system.node.nodeId :=
    (node_of_step (DHTNode.identified_lasting env system.node.nodeId system.node.localIps)
      ⟨rfl, rfl⟩ taken).1
  rintro ⟨number, flight⟩ member
  rcases flying_of_step taken member with ⟨before, inside, sameRequest, sameTid⟩ |
    ⟨request, tid, _, rfl, launched⟩
  · obtain ⟨datagram, sent, dispatches⟩ := dispatched _ inside
    refine ⟨datagram, node_of_step (DHTNode.sent_member_lasting env datagram) sent taken, ?_⟩
    rw [identity, sameRequest, sameTid]
    exact dispatches
  · have dispatches := DHTNode.launch_dispatches env request system.node system.node rfl
    rw [launched] at dispatches
    rw [identity]
    exact dispatches

theorem run_dispatched {nodeId : Bytes} {candidates : CandidateManager} {txCounter : Nat}
    {localIps : List String} {events : List NodeEvent}
    (made : new env nodeId candidates txCounter localIps = .ok start)
    (ran : Transition.run (NodeSystem.step env) start events = some system) :
    Dispatched env system := by
  apply Transition.invariant_run (Dispatched env) (fun _ _ _ dispatched taken =>
    dispatched.step taken) ran
  obtain ⟨-, -, routing, -, rfl⟩ := new_ok made
  intro entry member
  cases member

end NodeSystem

end PyDht
