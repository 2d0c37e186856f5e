import PyDht.KrpcQueries
import PyDht.KrpcResponses
import PyDht.NodeSystem

set_option autoImplicit false

namespace PyDht

open Effects (Ensures Preserves)

/-- What tells which query a pending entry belongs to. -/
structure Ticket where
  tid : Bytes
  endpoint : Endpoint
  query : Bytes
  expectedNodeId : Option Bytes
deriving DecidableEq

/-- The ticket of a pending entry. -/
def ticket (entry : Bytes × PendingQuery) : Ticket where
  tid := entry.1
  endpoint := entry.2.endpoint
  query := entry.2.query
  expectedNodeId := entry.2.expectedNodeId

theorem map_ticket_tid (entries : List (Bytes × PendingQuery)) :
    (entries.map ticket).map Ticket.tid = Dict.keys entries := by
  rw [List.map_map]
  rfl

/-- An entry that is replaced by one with the same ticket leaves the tickets as they are. -/
theorem map_ticket_set {entries : List (Bytes × PendingQuery)} {tid : Bytes}
    {pending : PendingQuery} (distinct : (Dict.keys entries).Nodup)
    (member : ticket (tid, pending) ∈ entries.map ticket) :
    (Dict.set tid pending entries).map ticket = entries.map ticket := by
  rcases List.mem_map.mp member with ⟨known, inside, same⟩
  have sameTid : known.1 = tid := congrArg Ticket.tid same
  have present : tid ∈ Dict.keys entries := sameTid ▸ List.mem_map_of_mem inside
  rw [Dict.set, if_pos present, List.map_map]
  apply List.map_congr_left
  intro entry there
  by_cases here : entry.1 = tid
  · have again : entry = known :=
      List.inj_on_of_nodup_map distinct there inside (here.trans sameTid.symm)
    simp only [Function.comp_apply, here, ↓reduceIte]
    rw [again, same]
  · simp [here]

namespace DHTNode

namespace Roaming

variable {inv : DHTNode → Prop} (roaming : Roaming inv) (env : Environment)
include roaming

theorem restoreContacts (records : List SnapshotRecord) :
    Preserves inv (restoreContacts env records) := by
  induction records with
  | nil => exact Preserves.pure ()
  | cons record records ih =>
      apply Preserves.bind (roaming.monotonicNs env)
      intro now
      apply Preserves.get
      intro node holds
      apply Ensures.raiseBind _ fun _ _ _ same => same ▸ holds
      intro routing _
      apply Ensures.setBind
      intro _
      exact ih.ensures (fun _ same => same ▸ roaming.routing node routing holds)
        (fun _ _ after => after) fun _ _ after => after

theorem markFailure (nodeId : Bytes) : Preserves inv (markFailure env nodeId) := by
  apply Preserves.bind (roaming.monotonicNs env)
  intro now
  apply Preserves.get
  intro node holds
  apply Ensures.raiseBind _ fun _ _ _ same => same ▸ holds
  intro routing _
  apply Ensures.set
  intro _ _
  exact roaming.routing node routing holds

theorem timedOut (request : Request) : Preserves inv (timedOut env request) := by
  apply Preserves.bind (Preserves.when fun _ => roaming.markFailure env _)
  intro _
  exact roaming.emitError env _ _ _ _

theorem continueWith (caller : Caller) (endpoint : Endpoint) (response : Message) :
    Preserves inv (continueWith env caller endpoint response) := by
  apply continueWith_ensures env caller endpoint response (Preserves.pure ())
  · intro remoteId _
    exact roaming.meet env remoteId endpoint _
  · exact roaming.learnContacts env false 0 _

theorem refreshBucket (place : Nat) (now : Int) : Preserves inv (refreshBucket place now) := by
  apply Preserves.get
  intro node holds
  split
  · apply Ensures.pure
    intro state same
    exact same ▸ holds
  · apply Ensures.setBind
    intro _
    apply Ensures.modify
    intro state same
    rw [same]
    exact roaming.note _ _ rfl (roaming.routing node _ holds)

end Roaming

/-- The pending entries have these tickets, so many slots are free, and every
response that an entry holds has arrived for its ticket. -/
structure Ticketed (tickets : List Ticket) (slots : Int) (arrived : Ticket → Message → Prop)
    (node : DHTNode) : Prop where
  tickets : node.pending.map ticket = tickets
  slots : node.pendingSlots = slots
  arrived : ∀ entry ∈ node.pending, ∀ response, entry.2.future = .result response →
    arrived (ticket entry) response

section ticketed

variable {tickets : List Ticket} {slots : Int} {arrived : Ticket → Message → Prop}

theorem ticketed_aside (tickets : List Ticket) (slots : Int) (arrived : Ticket → Message → Prop) :
    Aside (Ticketed tickets slots arrived) where
  ticks _ holds := { holds with }
  emitted _ _ holds := { holds with }
  candidates _ _ holds := { holds with }
  routing _ _ holds := { holds with }

theorem Ticketed.mono {node : DHTNode} {more : Ticket → Message → Prop}
    (ticketed : Ticketed tickets slots arrived node)
    (grows : ∀ ticket ∈ tickets, ∀ response, arrived ticket response → more ticket response) :
    Ticketed tickets slots more node :=
  { ticketed with
    arrived := fun entry member response done =>
      grows _ (ticketed.tickets ▸ List.mem_map_of_mem member) _
        (ticketed.arrived entry member response done) }

theorem Ticketed.of_pending {start node : DHTNode} (ticketed : Ticketed tickets slots arrived start)
    (pending : node.pending = start.pending) (same : node.pendingSlots = start.pendingSlots) :
    Ticketed tickets slots arrived node :=
  ⟨pending ▸ ticketed.tickets, same.trans ticketed.slots, pending ▸ ticketed.arrived⟩

theorem Ticketed.member {node : DHTNode} (ticketed : Ticketed tickets slots arrived node)
    {tid : Bytes} {pending : PendingQuery} (found : Dict.get? tid node.pending = some pending) :
    ticket (tid, pending) ∈ tickets :=
  ticketed.tickets ▸ List.mem_map_of_mem (Dict.mem_of_get? found)

theorem settle_ticketed (distinct : (tickets.map Ticket.tid).Nodup) (tid : Bytes)
    (outcome : QueryFuture) (pending : PendingQuery) (member : ticket (tid, pending) ∈ tickets)
    (sound : ∀ response, outcome = .result response → arrived (ticket (tid, pending)) response) :
    Preserves (Ticketed tickets slots arrived) (settle tid outcome pending) := by
  unfold settle
  split
  · apply Preserves.modify
    intro node holds
    refine { holds with tickets := ?_, arrived := ?_ }
    · rw [map_ticket_set, holds.tickets]
      · rw [← map_ticket_tid, holds.tickets]
        exact distinct
      · rw [holds.tickets]
        exact member
    · intro entry inside response done
      rcases Dict.mem_of_mem_set inside with old | new
      · exact holds.arrived entry old response done
      · rw [new] at done ⊢
        exact sound response done
  · exact Preserves.pure ()

theorem Queried.ticketed {env : Environment} {start node : DHTNode} {msg : Message}
    {source : Endpoint} (ticketed : Ticketed tickets slots arrived start)
    (queried : Queried env msg source start node) : Ticketed tickets slots arrived node :=
  ticketed.of_pending queried.pending.1 queried.pending.2

/-- A datagram leaves the tickets and the slots alone; a response that an entry
holds afterwards was there before or is accepted for it now. -/
theorem datagramReceived_ticketed {more : Ticket → Message → Prop}
    (distinct : (tickets.map Ticket.tid).Nodup) (env : Environment) (data : Bytes)
    (source : Endpoint) (start : DHTNode) (ticketed : Ticketed tickets slots arrived start)
    (grows : ∀ ticket ∈ tickets, ∀ response, arrived ticket response → more ticket response)
    (accepted : ∀ msg pending response remoteId,
      (data.length : Int) ≤ env.config.dhtReceiveMaxBytes → receive env.config data = .ok msg →
      Accepted start msg source pending response remoteId →
      more (ticket (transaction msg, pending)) response) :
    Ticketed tickets slots more (Effects.after (datagramReceived env data source) start) := by
  have aside := ticketed_aside tickets slots more
  have grown := ticketed.mono grows
  have received := datagramReceived_rule aside.noting env data source start grown
    (fun msg _ _ _ _ => (handleQuery_ensures env msg source start).weaken (fun _ same => same)
      (fun _ _ holds => (Queried.ticketed ticketed holds).mono grows)
      fun _ _ holds => (Queried.ticketed ticketed holds).mono grows)
    (fun msg small isMessage kind => handleResponseOrError_rule aside.noting env msg source start
      kind grown
      (fun pending error isPending _ _ =>
        settle_ticketed distinct _ _ pending (grown.member isPending) fun _ done => by cases done)
      fun pending response remoteId accepts =>
        aside.acceptResponse env msg source _ pending response remoteId
          (settle_ticketed distinct _ _ pending (grown.member accepts.awaited) fun _ done => by
            cases done
            exact accepted msg pending response remoteId small isMessage accepts))
  exact received.after rfl

theorem cancelFuture_ticketed (distinct : (tickets.map Ticket.tid).Nodup) (tid : Bytes) :
    Preserves (Ticketed tickets slots arrived) (cancelFuture tid) := by
  apply Preserves.get
  intro node holds
  split
  · apply Ensures.pure
    intro state same
    exact same ▸ holds
  · rename_i pending isPending
    exact (settle_ticketed distinct tid .cancelled pending (holds.member isPending)
      fun _ done => by cases done).ensures (fun _ same => same ▸ holds) (fun _ _ after => after)
      fun _ _ after => after

theorem closeIngress_ticketed : Preserves (Ticketed tickets slots arrived) closeIngress := by
  apply Preserves.modify
  intro node holds
  refine { holds with tickets := ?_, arrived := ?_ }
  · rw [← holds.tickets, List.map_map]
    apply List.map_congr_left
    intro entry _
    simp only [Function.comp_apply]
    split <;> rfl
  · intro entry member response done
    rcases List.mem_map.mp member with ⟨before, inside, same⟩
    split at same
    · rw [← same] at done
      cases done
    · rw [← same] at done ⊢
      exact holds.arrived before inside response done

end ticketed

/-- A transaction ID that `_next_tid` returns is not in use. -/
theorem nextTid_fresh {pending : List (Bytes × PendingQuery)} {rounds counter : Nat} {tid : Bytes}
    {next : Nat} (found : nextTid pending rounds counter = .ok (tid, next)) :
    tid ∉ Dict.keys pending := by
  induction rounds generalizing counter with
  | zero => cases found
  | succ rounds ih =>
      unfold nextTid at found
      dsimp only at found
      split at found
      · exact ih found
      · rename_i absent
        cases found
        simpa using absent

/-- The search fails only when all the IDs it has looked at are in use. -/
theorem nextTid_error {pending : List (Bytes × PendingQuery)} {rounds counter : Nat}
    {fault : PyError} (failed : nextTid pending rounds counter = .error fault) :
    ∀ round < rounds, packUInt16 ((counter + round + 1) % 65536) ∈ Dict.keys pending := by
  induction rounds generalizing counter with
  | zero => simp
  | succ rounds ih =>
      intro round small
      unfold nextTid at failed
      dsimp only at failed
      split at failed
      · rename_i taken
        cases round with
        | zero => simpa using taken
        | succ round =>
            have later := ih failed round (by omega)
            have same : ((counter + 1) % 65536 + round + 1) % 65536 =
                (counter + (round + 1) + 1) % 65536 := by omega
            exact same ▸ later
      · cases failed

/-- There are 65536 IDs, so the search succeeds as long as fewer are in use. -/
theorem nextTid_total {pending : List (Bytes × PendingQuery)} (counter : Nat)
    (room : pending.length < 65536) :
    ∃ tid next, nextTid pending 65536 counter = .ok (tid, next) := by
  cases searched : nextTid pending 65536 counter with
  | ok found => exact ⟨found.1, found.2, rfl⟩
  | error fault =>
      have taken := nextTid_error searched
      have distinct : ((List.range 65536).map fun round =>
          packUInt16 ((counter + round + 1) % 65536)).Nodup := by
        apply List.Nodup.map_on _ List.nodup_range
        intro first firstSmall second secondSmall same
        have read := congrArg fromBytes same
        rw [fromBytes_packUInt16 (by omega), fromBytes_packUInt16 (by omega)] at read
        rw [List.mem_range] at firstSmall secondSmall
        omega
      have within : ((List.range 65536).map fun round =>
          packUInt16 ((counter + round + 1) % 65536)) ⊆ Dict.keys pending := by
        intro tid member
        rcases List.mem_map.mp member with ⟨round, small, rfl⟩
        exact taken round (List.mem_range.mp small)
      have crowded := (distinct.subperm within).length_le
      rw [List.length_map, List.length_range, Dict.keys, List.length_map] at crowded
      omega

end DHTNode

/-- The ticket of a call of `query` under the transaction ID it got. -/
def Request.ticket (request : Request) (tid : Bytes) : Ticket where
  tid
  endpoint := request.endpoint
  query := request.method
  expectedNodeId := request.expectedNodeId

namespace DHTNode

/-- Exactly these entries are pending, and so many slots are free. -/
def Books (pending : List (Bytes × PendingQuery)) (slots : Int) (node : DHTNode) : Prop :=
  node.pending = pending ∧ node.pendingSlots = slots

theorem books_aside (pending : List (Bytes × PendingQuery)) (slots : Int) :
    Aside (Books pending slots) where
  ticks _ holds := holds
  emitted _ _ holds := holds
  candidates _ _ holds := holds
  routing _ _ holds := holds

theorem forget_books {pending : List (Bytes × PendingQuery)} {slots : Int} (tid : Bytes) :
    Ensures (Books pending slots) (forget tid) (fun _ => Books (Dict.pop tid pending) (slots + 1))
      (fun _ => Books (Dict.pop tid pending) (slots + 1)) := by
  apply Ensures.modify
  intro node holds
  exact ⟨by rw [holds.1], by rw [holds.2]⟩

/-- The end of a query that has timed out frees its entry and its slot once. -/
theorem expire_books {pending : List (Bytes × PendingQuery)} {slots : Int} (env : Environment)
    (request : Request) (tid : Bytes) :
    Ensures (Books pending slots) (expire env request tid)
      (fun _ => Books (Dict.pop tid pending) (slots + 1))
      (fun _ => Books (Dict.pop tid pending) (slots + 1)) := by
  have body : Ensures (Books pending slots)
      (tryCatch (timedOut env request) fun fault => do
        forget tid
        throw fault)
      (fun _ => Books pending slots) (fun _ => Books (Dict.pop tid pending) (slots + 1)) := by
    apply Ensures.tryCatch ((books_aside pending slots).roaming.timedOut env request)
    intro fault
    apply Ensures.bind (forget_books tid)
    intro _
    exact Ensures.throw fun _ holds => holds
  apply Ensures.bind body
  intro _
  exact forget_books tid

/-- A query that goes out has an ID of its own; one that does not has left
nothing behind and its slot is free, unless there was no ID. -/
theorem launch_books (env : Environment) (request : Request) (start : DHTNode) :
    Ensures (· = start) (launch env request)
      (fun tid node => tid ∉ Dict.keys start.pending ∧ ∃ pending : PendingQuery,
        ticket (tid, pending) = request.ticket tid ∧ pending.future = .waiting ∧
        Books (start.pending ++ [(tid, pending)]) start.pendingSlots node)
      (fun fault node => nextTid start.pending 65536 start.txCounter = .error fault ∧
          node = start ∨
        Books start.pending (start.pendingSlots + 1) node) := by
  apply Ensures.get
  intro node same
  rw [same]
  apply Ensures.raiseBind
  · intro named isNamed
    rcases named with ⟨tid, txCounter⟩
    have absent := nextTid_fresh isNamed
    let failure := fun (fault : PyError) (node : DHTNode) =>
      nextTid start.pending 65536 start.txCounter = .error fault ∧ node = start ∨
        Books start.pending (start.pendingSlots + 1) node
    have begun : Ensures (· = start) (monotonicNs env)
        (fun _ => Books start.pending start.pendingSlots) failure := by
      apply Ensures.get
      intro node here
      apply Ensures.setBind
      intro _
      apply Ensures.pure
      intro state there
      rw [there, here]
      exact ⟨rfl, rfl⟩
    apply Ensures.bind begun
    intro sentNs
    dsimp only
    generalize isPending : PendingQuery.mk tid request.method request.endpoint
      request.expectedNodeId sentNs .waiting = pending
    have entered : Ensures (Books start.pending start.pendingSlots)
        (modify fun node : DHTNode =>
          { node with txCounter, pending := Dict.set tid pending node.pending })
        (fun _ => Books (start.pending ++ [(tid, pending)]) start.pendingSlots) failure := by
      apply Ensures.modify
      intro node holds
      exact ⟨by rw [holds.1, Dict.set_new pending absent], holds.2⟩
    have aside := books_aside (start.pending ++ [(tid, pending)]) start.pendingSlots
    have recorded : ∀ message : Message,
        Ensures (Books (start.pending ++ [(tid, pending)]) start.pendingSlots)
          (Effects.when (env.config.debugFullKrpcJsonl ||
              [ascii "get_peers", ascii "sample_infohashes"].contains request.method)
            (emitQueryEvidence message request.endpoint .outgoing request.expectedNodeId))
          (fun _ => Books (start.pending ++ [(tid, pending)]) start.pendingSlots) failure :=
      fun message => Ensures.when (fun _ => Ensures.modify fun _ holds => holds)
        fun _ _ holds => holds
    have sent : ∀ message : Message,
        Ensures (Books (start.pending ++ [(tid, pending)]) start.pendingSlots)
          (tryCatch (send message request.endpoint) fun fault => do
            forget tid
            throw fault)
          (fun _ => Books (start.pending ++ [(tid, pending)]) start.pendingSlots) failure := by
      intro message
      apply Ensures.tryCatch (send_preserves fun _ _ holds => holds)
      intro fault
      apply Ensures.bind ((forget_books tid).raises fun _ _ holds => ?_)
      · intro _
        apply Ensures.throw
        intro state holds
        rw [← Dict.set_new pending absent, Dict.pop_set_new pending absent] at holds
        exact .inr holds
      · rw [← Dict.set_new pending absent, Dict.pop_set_new pending absent] at holds
        exact .inr holds
    apply Ensures.bind entered
    intro _
    apply Ensures.bind (recorded _)
    intro _
    apply Ensures.bind (sent _)
    intro _
    apply Ensures.pure
    intro state holds
    exact ⟨absent, pending, by rw [← isPending]; rfl, by rw [← isPending], holds⟩
  · intro fault failed state same
    exact .inl ⟨failed, same⟩

end DHTNode

end PyDht
