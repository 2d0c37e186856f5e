import PyDht.Lib.Transition
import PyDht.QueryTickets

set_option autoImplicit false

namespace PyDht

open Effects (Ensures Preserves)

namespace DHTNode

section ticketed

variable {tickets : List Ticket} {slots : Int} {arrived : Ticket → Message → Prop}
  {start node : DHTNode}

theorem Ticketed.pop (ticketed : Ticketed tickets slots arrived start) {tid : Bytes}
    (books : Books (Dict.pop tid start.pending) (start.pendingSlots + 1) node) :
    Ticketed (tickets.filter fun known => known.tid ≠ tid) (slots + 1) arrived node := by
  refine ⟨?_, by rw [books.2, ticketed.slots], ?_⟩
  · rw [books.1, ← ticketed.tickets, List.filter_map]
    rfl
  · intro entry member
    rw [books.1] at member
    exact ticketed.arrived entry (Dict.mem_of_mem_pop member)

theorem Ticketed.push (ticketed : Ticketed tickets slots arrived start) {tid : Bytes}
    {pending : PendingQuery} (waiting : pending.future = .waiting)
    (books : Books (start.pending ++ [(tid, pending)]) start.pendingSlots node) :
    Ticketed (tickets ++ [ticket (tid, pending)]) slots arrived node := by
  refine ⟨?_, books.2.trans ticketed.slots, ?_⟩
  · rw [books.1, List.map_append, ticketed.tickets]
    rfl
  · intro entry member response done
    rw [books.1] at member
    rcases List.mem_append.mp member with old | new
    · exact ticketed.arrived entry old response done
    · rw [List.mem_singleton.mp new, waiting] at done
      cases done

end ticketed

end DHTNode

namespace NodeSystem

/-- The ticket of a query in flight. -/
def flightTicket (entry : Nat × Flight) : Ticket := entry.2.request.ticket entry.2.tid

def tickets (system : NodeSystem) : List Ticket := system.flying.map flightTicket

/-- The calls of `query` that have not ended. -/
def active (system : NodeSystem) : List Nat :=
  Dict.keys system.waiting ++ (Dict.keys system.granted ++ Dict.keys system.flying)

/-- What has been delivered to a query: its number, its ticket and the response. -/
abbrev Delivered := Nat → Ticket → Message → Prop

/-- The bookkeeping of the queries: the pending entries are those of the queries
in flight, each slot is free or held by one query, and the responses were
delivered to the queries that hold them. -/
structure Accounted (limit : Int) (delivered : Delivered) (system : NodeSystem) : Prop where
  ticketed : DHTNode.Ticketed system.tickets
    (limit - (system.granted.length + system.flying.length))
    (fun ticket response => ∀ entry ∈ system.flying, flightTicket entry = ticket →
      delivered entry.1 ticket response) system.node
  distinct : (system.tickets.map Ticket.tid).Nodup
  numbers : system.active.Nodup
  known : ∀ number ∈ system.active, number < system.calls
  free : 0 ≤ system.node.pendingSlots
  returned : ∀ entry ∈ system.returned,
    delivered entry.1 (flightTicket (entry.1, entry.2.1)) entry.2.2

variable {limit : Int} {delivered more : Delivered} {system next : NodeSystem}

theorem Accounted.slots (accounted : Accounted limit delivered system) :
    system.node.pendingSlots + (system.granted.length + system.flying.length) = limit := by
  have same := accounted.ticketed.slots
  omega

theorem Accounted.pending (accounted : Accounted limit delivered system) :
    Dict.keys system.node.pending = system.flying.map fun entry => entry.2.tid := by
  rw [← map_ticket_tid, accounted.ticketed.tickets, tickets, List.map_map]
  rfl

theorem Accounted.mono (accounted : Accounted limit delivered system)
    (grows : ∀ number ticket response, delivered number ticket response →
      more number ticket response) : Accounted limit more system :=
  { accounted with
    ticketed := accounted.ticketed.mono fun _ _ _ arrived entry member same =>
      grows _ _ _ (arrived entry member same)
    returned := fun entry member => grows _ _ _ (accounted.returned entry member) }

/-- The queries stay as they are while the node keeps its books. -/
theorem Accounted.ofNode (accounted : Accounted limit delivered system) {node : DHTNode}
    (ticketed : DHTNode.Ticketed system.tickets system.node.pendingSlots
      (fun ticket response => ∀ entry ∈ system.flying, flightTicket entry = ticket →
        delivered entry.1 ticket response) node) :
    Accounted limit delivered { system with node } := by
  have same := accounted.ticketed.slots
  refine { accounted with ticketed := ?_, free := ?_ }
  · exact same ▸ ticketed
  · show 0 ≤ node.pendingSlots
    rw [ticketed.slots]
    exact accounted.free

/-- A program that does not touch the pending entries and the slots. -/
theorem Accounted.aside (accounted : Accounted limit delivered system)
    {program : Node Unit} (keeps : ∀ inv : DHTNode → Prop, DHTNode.Aside inv →
      Preserves inv program) :
    Accounted limit delivered { system with node := Effects.after program system.node } := by
  have books := (keeps _ (DHTNode.books_aside system.node.pending
    system.node.pendingSlots)).after ⟨rfl, rfl⟩
  apply accounted.ofNode
  exact ⟨books.1 ▸ accounted.ticketed.tickets, books.2, books.1 ▸ accounted.ticketed.arrived⟩

theorem length_pop {α : Type} {number : Nat} {value : α} {entries : List (Nat × α)}
    (distinct : (Dict.keys entries).Nodup) (found : Dict.get? number entries = some value) :
    (Dict.pop number entries).length + 1 = entries.length := by
  have perm := Dict.pop_perm distinct (Dict.mem_of_get? found)
  rw [← perm.length_eq, List.length_cons]

/-- Without the query that ends, the tickets are those of the other queries. -/
theorem Accounted.pop_tickets (accounted : Accounted limit delivered system) {number : Nat}
    {flight : Flight} (found : Dict.get? number system.flying = some flight) :
    (system.tickets.filter fun known => known.tid ≠ flight.tid) =
      (Dict.pop number system.flying).map flightTicket := by
  have inside := Dict.mem_of_get? found
  have numbers : (Dict.keys system.flying).Nodup :=
    ((List.nodup_append.mp accounted.numbers).2.1.sublist (List.sublist_append_right _ _))
  have tids : (system.flying.map fun entry => entry.2.tid).Nodup := by
    have distinct := accounted.distinct
    rwa [tickets, List.map_map] at distinct
  rw [tickets, List.filter_map, Dict.pop]
  congr 1
  apply List.filter_congr
  intro entry member
  have same : entry.2.tid = flight.tid ↔ entry.1 = number := by
    constructor
    · intro sameTid
      rw [List.inj_on_of_nodup_map tids member inside sameTid]
    · intro sameNumber
      rw [List.inj_on_of_nodup_map numbers member inside sameNumber]
  simp [flightTicket, Request.ticket, same]

theorem keys_pop_perm {α : Type} {number : Nat} {value : α} {entries : List (Nat × α)}
    (distinct : (Dict.keys entries).Nodup) (found : Dict.get? number entries = some value) :
    (number :: Dict.keys (Dict.pop number entries)).Perm (Dict.keys entries) :=
  (Dict.pop_perm distinct (Dict.mem_of_get? found)).map Prod.fst

theorem keys_concat {α : Type} (number : Nat) (value : α) (entries : List (Nat × α)) :
    Dict.keys (entries ++ [(number, value)]) = Dict.keys entries ++ [number] := by
  simp [Dict.keys]

theorem Accounted.query (accounted : Accounted limit delivered system) (request : Request) :
    Accounted limit delivered { system with
      calls := system.calls + 1, waiting := system.waiting ++ [(system.calls, request)] } := by
  have shape : active { system with
      calls := system.calls + 1, waiting := system.waiting ++ [(system.calls, request)] } =
      Dict.keys system.waiting ++ system.calls ::
        (Dict.keys system.granted ++ Dict.keys system.flying) := by
    simp [active, keys_concat]
  have fresh : system.calls ∉ system.active :=
    fun member => Nat.lt_irrefl _ (accounted.known _ member)
  refine { accounted with numbers := ?_, known := ?_ }
  · rw [shape, List.nodup_middle]
    exact List.nodup_cons.mpr ⟨fresh, accounted.numbers⟩
  · intro number member
    rw [shape, List.mem_append, List.mem_cons] at member
    rcases member with early | rfl | late
    · exact Nat.lt_succ_of_lt (accounted.known number (List.mem_append_left _ early))
    · exact Nat.lt_succ_self _
    · exact Nat.lt_succ_of_lt (accounted.known number (List.mem_append_right _ late))

theorem Accounted.abandon (accounted : Accounted limit delivered system) (number : Nat) :
    Accounted limit delivered { system with waiting := Dict.pop number system.waiting } := by
  have fewer : (active { system with waiting := Dict.pop number system.waiting }).Sublist
      system.active := (Dict.keys_pop_sublist number system.waiting).append_right _
  exact { accounted with
    numbers := accounted.numbers.sublist fewer
    known := fun other member => accounted.known other (fewer.subset member) }

theorem Accounted.grant (accounted : Accounted limit delivered system) {number : Nat}
    {request : Request} (found : Dict.get? number system.waiting = some request)
    (room : 0 < system.node.pendingSlots) :
    Accounted limit delivered { system with
      node := { system.node with pendingSlots := system.node.pendingSlots - 1 }
      waiting := Dict.pop number system.waiting
      granted := system.granted ++ [(number, request)] } := by
  have waiting : (Dict.keys system.waiting).Nodup := (List.nodup_append.mp accounted.numbers).1
  have moved : (active { system with
      node := { system.node with pendingSlots := system.node.pendingSlots - 1 }
      waiting := Dict.pop number system.waiting
      granted := system.granted ++ [(number, request)] }).Perm system.active := by
    have shape : active { system with
        node := { system.node with pendingSlots := system.node.pendingSlots - 1 }
        waiting := Dict.pop number system.waiting
        granted := system.granted ++ [(number, request)] } =
        (Dict.keys (Dict.pop number system.waiting) ++ Dict.keys system.granted) ++
          number :: Dict.keys system.flying := by
      simp [active, keys_concat]
    rw [shape]
    apply List.perm_middle.trans
    rw [List.append_assoc]
    exact (keys_pop_perm waiting found).append_right _
  refine { accounted with ticketed := ?_, numbers := ?_, known := ?_, free := ?_ }
  · refine { accounted.ticketed with slots := ?_ }
    have same := accounted.slots
    show system.node.pendingSlots - 1 =
      limit - ((system.granted ++ [(number, request)]).length + system.flying.length)
    rw [List.length_append, List.length_singleton]
    omega
  · exact moved.nodup_iff.mpr accounted.numbers
  · exact fun other member => accounted.known other (moved.subset member)
  · show 0 ≤ system.node.pendingSlots - 1
    omega

/-- A query that has a slot and ends before it goes out gives the slot back. -/
theorem Accounted.ungrant (accounted : Accounted limit delivered system) {number : Nat}
    {request : Request} (found : Dict.get? number system.granted = some request) {node : DHTNode}
    (books : DHTNode.Books system.node.pending (system.node.pendingSlots + 1) node) :
    Accounted limit delivered
      { system with node, granted := Dict.pop number system.granted } := by
  have granted : (Dict.keys system.granted).Nodup :=
    (List.nodup_append.mp (List.nodup_append.mp accounted.numbers).2.1).1
  have length := length_pop granted found
  have fewer : (active { system with node, granted := Dict.pop number system.granted }).Sublist
      system.active :=
    ((Dict.keys_pop_sublist number system.granted).append_right _).append_left _
  have same := accounted.slots
  refine { accounted with ticketed := ?_, numbers := ?_, known := ?_, free := ?_ }
  · refine ⟨books.1 ▸ accounted.ticketed.tickets, ?_, books.1 ▸ accounted.ticketed.arrived⟩
    show node.pendingSlots = _
    rw [books.2]
    dsimp only
    omega
  · exact accounted.numbers.sublist fewer
  · exact fun other member => accounted.known other (fewer.subset member)
  · show 0 ≤ node.pendingSlots
    have free := accounted.free
    rw [books.2]
    omega

/-- A query goes out under an ID of its own. -/
theorem Accounted.launch (accounted : Accounted limit delivered system) {number : Nat}
    {request : Request} (found : Dict.get? number system.granted = some request) {node : DHTNode}
    {tid : Bytes} (absent : tid ∉ Dict.keys system.node.pending) {pending : PendingQuery}
    (isTicket : ticket (tid, pending) = request.ticket tid) (waiting : pending.future = .waiting)
    (books : DHTNode.Books (system.node.pending ++ [(tid, pending)]) system.node.pendingSlots
      node) :
    Accounted limit delivered { system with
      node, granted := Dict.pop number system.granted
      flying := system.flying ++ [(number, ⟨request, tid, none⟩)] } := by
  have granted : (Dict.keys system.granted).Nodup :=
    (List.nodup_append.mp (List.nodup_append.mp accounted.numbers).2.1).1
  have length := length_pop granted found
  have unknown : ∀ known ∈ system.tickets, known.tid ≠ tid := by
    intro known member isTid
    apply absent
    rw [← map_ticket_tid, accounted.ticketed.tickets]
    exact isTid ▸ List.mem_map_of_mem member
  have shape : (system.flying ++ [(number, Flight.mk request tid none)]).map flightTicket =
      system.tickets ++ [request.ticket tid] := by
    rw [List.map_append]
    rfl
  have moved : (active { system with
      node, granted := Dict.pop number system.granted
      flying := system.flying ++ [(number, ⟨request, tid, none⟩)] }).Perm system.active := by
    unfold active
    apply List.Perm.append_left
    dsimp only
    rw [keys_concat, ← List.append_assoc]
    apply List.perm_append_singleton _ _ |>.trans
    exact (keys_pop_perm granted found).append_right _
  refine { accounted with
    ticketed := ?_, distinct := ?_, numbers := ?_, known := ?_, free := ?_ }
  · have pushed := accounted.ticketed.push waiting books
    rw [isTicket] at pushed
    refine ⟨pushed.tickets.trans shape.symm, ?_, ?_⟩
    · rw [pushed.slots, List.length_append, List.length_singleton]
      dsimp only
      omega
    · intro entry member response done flight inside sameTicket
      have held : ticket entry ∈ system.tickets := by
        rw [books.1] at member
        rcases List.mem_append.mp member with old | new
        · exact accounted.ticketed.tickets ▸ List.mem_map_of_mem old
        · rw [List.mem_singleton.mp new, waiting] at done
          cases done
      rcases List.mem_append.mp inside with old | new
      · exact pushed.arrived entry member response done flight old sameTicket
      · rw [List.mem_singleton.mp new] at sameTicket
        exact absurd (congrArg Ticket.tid sameTicket).symm (unknown _ held)
  · rw [tickets, shape, List.map_append, List.nodup_append]
    refine ⟨accounted.distinct, by simp, ?_⟩
    intro other member last isLast same
    rcases List.mem_map.mp member with ⟨known, inside, rfl⟩
    rw [List.map_singleton, List.mem_singleton] at isLast
    exact unknown known inside (same.trans isLast)
  · exact moved.nodup_iff.mpr accounted.numbers
  · exact fun other member => accounted.known other (moved.subset member)
  · show 0 ≤ node.pendingSlots
    rw [books.2]
    exact accounted.free

theorem Accounted.flyingNumbers (accounted : Accounted limit delivered system) :
    (Dict.keys system.flying).Nodup :=
  (List.nodup_append.mp (List.nodup_append.mp accounted.numbers).2.1).2.1

/-- Marking a query as interrupted changes neither its number nor its ticket. -/
theorem flying_set (distinct : (Dict.keys system.flying).Nodup) {number : Nat} {flight : Flight}
    (found : Dict.get? number system.flying = some flight) (interrupt : Option Interrupt) :
    (Dict.set number { flight with interrupt } system.flying).map
        (fun entry => (entry.1, flightTicket entry)) =
      system.flying.map fun entry => (entry.1, flightTicket entry) := by
  rw [Dict.set, if_pos (Dict.mem_keys_of_get? found), List.map_map]
  apply List.map_congr_left
  intro entry member
  by_cases here : entry.1 = number
  · have same : entry = (number, flight) :=
      List.inj_on_of_nodup_map distinct member (Dict.mem_of_get? found) here
    simp only [Function.comp_apply, ↓reduceIte, same]
    rfl
  · simp [here]

/-- The queries in flight are the same up to their interrupts. -/
theorem Accounted.remark (accounted : Accounted limit delivered system)
    {flying : List (Nat × Flight)}
    (same : flying.map (fun entry => (entry.1, flightTicket entry)) =
      system.flying.map fun entry => (entry.1, flightTicket entry)) :
    Accounted limit delivered { system with flying } := by
  have sameTickets : flying.map flightTicket = system.tickets := by
    have seconds := congrArg (List.map Prod.snd) same
    rwa [List.map_map, List.map_map] at seconds
  have sameKeys : Dict.keys flying = Dict.keys system.flying := by
    have firsts := congrArg (List.map Prod.fst) same
    rwa [List.map_map, List.map_map] at firsts
  have sameLength : flying.length = system.flying.length := by
    have lengths := congrArg List.length same
    rwa [List.length_map, List.length_map] at lengths
  have sameActive : active { system with flying } = system.active := by
    simp only [active, sameKeys]
  refine { accounted with ticketed := ?_, distinct := ?_, numbers := ?_, known := ?_ }
  · refine ⟨accounted.ticketed.tickets.trans sameTickets.symm, ?_, ?_⟩
    · rw [accounted.ticketed.slots, sameLength]
    · intro entry member response done flight inside isTicket
      have listed : (flight.1, flightTicket flight) ∈ system.flying.map fun entry =>
          (entry.1, flightTicket entry) := same ▸ List.mem_map_of_mem inside
      rcases List.mem_map.mp listed with ⟨old, before, equal⟩
      rcases Prod.mk.inj equal with ⟨sameNumber, sameTicket⟩
      exact sameNumber ▸ accounted.ticketed.arrived entry member response done old before
        (sameTicket.trans isTicket)
  · show ((flying.map flightTicket).map Ticket.tid).Nodup
    exact sameTickets ▸ accounted.distinct
  · exact sameActive ▸ accounted.numbers
  · exact sameActive ▸ accounted.known

theorem Accounted.interrupt (accounted : Accounted limit delivered system) {number : Nat}
    {flight : Flight} (found : Dict.get? number system.flying = some flight)
    (interrupt : Interrupt) :
    Accounted limit delivered (system.interruptFlight number flight interrupt) := by
  have cancelled := accounted.ofNode ((DHTNode.cancelFuture_ticketed accounted.distinct
    flight.tid).after ⟨accounted.ticketed.tickets, rfl, accounted.ticketed.arrived⟩)
  exact cancelled.remark (flying_set accounted.flyingNumbers found (some interrupt))

/-- A query ends: its entry goes and its slot is free. -/
theorem Accounted.land (accounted : Accounted limit delivered system) {number : Nat}
    {flight : Flight} (found : Dict.get? number system.flying = some flight) {node : DHTNode}
    (books : DHTNode.Books (Dict.pop flight.tid system.node.pending)
      (system.node.pendingSlots + 1) node) :
    Accounted limit delivered { system with node, flying := Dict.pop number system.flying } := by
  have length := length_pop accounted.flyingNumbers found
  have popped := accounted.ticketed.pop books
  have fewer : (active { system with node, flying := Dict.pop number system.flying }).Sublist
      system.active :=
    ((Dict.keys_pop_sublist number system.flying).append_left _).append_left _
  refine { accounted with
    ticketed := ?_, distinct := ?_, numbers := ?_, known := ?_, free := ?_ }
  · refine ⟨popped.tickets.trans (accounted.pop_tickets found), ?_, ?_⟩
    · rw [popped.slots]
      dsimp only
      omega
    · intro entry member response done flight inside isTicket
      exact popped.arrived entry member response done flight (Dict.mem_of_mem_pop inside) isTicket
  · show (((Dict.pop number system.flying).map flightTicket).map Ticket.tid).Nodup
    rw [← accounted.pop_tickets found]
    exact accounted.distinct.sublist (List.filter_sublist.map _)
  · exact accounted.numbers.sublist fewer
  · exact fun other member => accounted.known other (fewer.subset member)
  · show 0 ≤ node.pendingSlots
    have free := accounted.free
    rw [books.2]
    omega

/-- What a query in flight finds in its future was delivered to it. -/
theorem Accounted.result (accounted : Accounted limit delivered system) {number : Nat}
    {flight : Flight} (found : Dict.get? number system.flying = some flight)
    {pending : PendingQuery} (isPending : Dict.get? flight.tid system.node.pending = some pending)
    {response : Message} (done : pending.future = .result response) :
    ticket (flight.tid, pending) = flightTicket (number, flight) ∧
      delivered number (flightTicket (number, flight)) response := by
  have inside := Dict.mem_of_get? found
  have member := accounted.ticketed.member isPending
  have same : ticket (flight.tid, pending) = flightTicket (number, flight) :=
    List.inj_on_of_nodup_map accounted.distinct member (List.mem_map_of_mem inside) rfl
  exact ⟨same, same ▸ accounted.ticketed.arrived _ (Dict.mem_of_get? isPending) response done
    (number, flight) inside same.symm⟩

/-- How a query runs on: only its own entry goes, its slot is given back once,
and what it returns was delivered to it. -/
theorem Accounted.resume (accounted : Accounted limit delivered system) (env : Environment)
    {number : Nat} {flight : Flight} (found : Dict.get? number system.flying = some flight)
    (resumed : system.resumeFlight env number flight = some next) :
    Accounted limit delivered next ∧
      next.node.pending = Dict.pop flight.tid system.node.pending ∧
      next.node.pendingSlots = system.node.pendingSlots + 1 := by
  let books := DHTNode.Books (Dict.pop flight.tid system.node.pending)
    (system.node.pendingSlots + 1)
  have freed : books (Effects.after (DHTNode.forget flight.tid) system.node) :=
    (DHTNode.forget_books flight.tid).after ⟨rfl, rfl⟩
  unfold resumeFlight at resumed
  dsimp only at resumed
  split at resumed
  · cases resumed
    have expired : books (Effects.after (DHTNode.expire env flight.request flight.tid)
        system.node) := (DHTNode.expire_books env flight.request flight.tid).after ⟨rfl, rfl⟩
    exact ⟨accounted.land found expired, expired.1, expired.2⟩
  · cases resumed
    exact ⟨accounted.land found freed, freed.1, freed.2⟩
  · split at resumed
    · cases resumed
      exact ⟨accounted.land found freed, freed.1, freed.2⟩
    · rename_i response isResult
      cases resumed
      rcases Option.map_eq_some_iff.mp isResult with ⟨pending, isPending, done⟩
      have continued : books (Effects.after (DHTNode.continueWith env flight.request.caller
          flight.request.endpoint response)
          (Effects.after (DHTNode.forget flight.tid) system.node)) :=
        ((DHTNode.books_aside _ _).roaming.continueWith env _ _ response).after freed
      have landed := accounted.land found continued
      refine ⟨{ landed with returned := ?_ }, continued.1, continued.2⟩
      intro entry member
      rcases List.mem_append.mp member with old | new
      · exact accounted.returned entry old
      · rw [List.mem_singleton.mp new]
        exact (accounted.result found isPending done).2
    · cases resumed

/-- What an event may do to the pending entries and the slots. -/
def Moves (system next : NodeSystem) : NodeEvent → Prop
  | .grant _ => next.node.pending = system.node.pending ∧
      next.node.pendingSlots = system.node.pendingSlots - 1
  | .decline _ => next.node.pending = system.node.pending ∧
      next.node.pendingSlots = system.node.pendingSlots + 1
  | .launch number =>
      (∃ flight pending, flight.tid ∉ Dict.keys system.node.pending ∧
        next.flying = system.flying ++ [(number, flight)] ∧
        next.node.pending = system.node.pending ++ [(flight.tid, pending)] ∧
        next.node.pendingSlots = system.node.pendingSlots) ∨
      next.flying = system.flying ∧ next.node.pending = system.node.pending ∧
        next.node.pendingSlots = system.node.pendingSlots + 1
  | .resume number => ∃ flight, Dict.get? number system.flying = some flight ∧
      next.flying = Dict.pop number system.flying ∧
      next.node.pending = Dict.pop flight.tid system.node.pending ∧
      next.node.pendingSlots = system.node.pendingSlots + 1
  | _ => Dict.keys next.node.pending = Dict.keys system.node.pending ∧
      next.node.pendingSlots = system.node.pendingSlots

/-- While the tickets of the queries stay as they are, so do the IDs and the slots. -/
theorem Accounted.unmoved (accounted : Accounted limit delivered system)
    (after : Accounted limit more next) (tickets : next.tickets = system.tickets)
    (granted : next.granted.length = system.granted.length) :
    Dict.keys next.node.pending = Dict.keys system.node.pending ∧
      next.node.pendingSlots = system.node.pendingSlots := by
  have flying : next.flying.length = system.flying.length := by
    have lengths := congrArg List.length tickets
    rwa [NodeSystem.tickets, NodeSystem.tickets, List.length_map, List.length_map] at lengths
  have before := accounted.slots
  have behind := after.slots
  constructor
  · rw [← map_ticket_tid, ← map_ticket_tid, after.ticketed.tickets, accounted.ticketed.tickets,
      tickets]
  · omega

theorem interrupt_tickets (accounted : Accounted limit delivered system) {number : Nat}
    {flight : Flight} (found : Dict.get? number system.flying = some flight)
    (interrupt : Interrupt) :
    (system.interruptFlight number flight interrupt).tickets = system.tickets := by
  have same := flying_set accounted.flyingNumbers found (some interrupt)
  have seconds := congrArg (List.map Prod.snd) same
  rwa [List.map_map, List.map_map] at seconds

/-- A query that holds a slot finds an ID. -/
theorem Accounted.nextTid (accounted : Accounted limit delivered system) (bounded : limit ≤ 65536)
    {number : Nat} {request : Request}
    (found : Dict.get? number system.granted = some request) :
    ∃ tid next, DHTNode.nextTid system.node.pending 65536 system.node.txCounter =
      .ok (tid, next) := by
  apply DHTNode.nextTid_total
  have entries : system.node.pending.length = system.flying.length := by
    have lengths := congrArg List.length accounted.ticketed.tickets
    rwa [List.length_map, tickets, List.length_map] at lengths
  have holder := List.length_pos_of_mem (Dict.mem_of_get? found)
  have slots := accounted.slots
  have free := accounted.free
  omega

variable {env : Environment}

/-- The slot of a query that finds no ID is lost: nothing gives it back. -/
theorem Accounted.lose (accounted : Accounted limit delivered system) {number : Nat}
    {request : Request} (found : Dict.get? number system.granted = some request) :
    Accounted (limit - 1) delivered { system with granted := Dict.pop number system.granted } := by
  have granted : (Dict.keys system.granted).Nodup :=
    (List.nodup_append.mp (List.nodup_append.mp accounted.numbers).2.1).1
  have length := length_pop granted found
  have fewer : (active { system with granted := Dict.pop number system.granted }).Sublist
      system.active :=
    ((Dict.keys_pop_sublist number system.granted).append_right _).append_left _
  refine { accounted with ticketed := ?_, numbers := ?_, known := ?_ }
  · refine { accounted.ticketed with slots := ?_ }
    rw [accounted.ticketed.slots]
    dsimp only
    omega
  · exact accounted.numbers.sublist fewer
  · exact fun other member => accounted.known other (fewer.subset member)

/-- A query that holds a slot finds no ID. -/
def Stuck (system : NodeSystem) : Prop :=
  ∃ number request fault, Dict.get? number system.granted = some request ∧
    DHTNode.nextTid system.node.pending 65536 system.node.txCounter = .error fault

theorem Accounted.launched (accounted : Accounted limit delivered system) {number : Nat}
    (taken : step env system (.launch number) = some next) :
    Accounted limit delivered next ∧ Moves system next (.launch number) ∨
      Stuck system ∧ Accounted (limit - 1) delivered next := by
  rcases Option.map_eq_some_iff.mp taken with ⟨request, found, same⟩
  have books := DHTNode.launch_books env request system.node system.node rfl
  dsimp only at same
  split at same
  · rename_i tid node outcome
    rw [outcome] at books
    rcases books with ⟨absent, pending, isTicket, waiting, exactly⟩
    rw [← same]
    exact .inl ⟨accounted.launch found absent isTicket waiting exactly,
      .inl ⟨⟨request, tid, none⟩, pending, absent, rfl, exactly.1, exactly.2⟩⟩
  · rename_i fault node outcome
    rw [outcome] at books
    rw [← same]
    rcases books with ⟨failed, unchanged⟩ | exactly
    · rw [unchanged]
      exact .inr ⟨⟨number, request, fault, found, failed⟩, accounted.lose found⟩
    · exact .inl ⟨accounted.ungrant found exactly, .inr ⟨rfl, exactly.1, exactly.2⟩⟩

/-- One event other than a datagram keeps the books. -/
theorem Accounted.step (accounted : Accounted limit delivered system)
    {event : NodeEvent} (noDatagram : ∀ data source, event ≠ .datagram data source)
    (taken : step env system event = some next) :
    Accounted limit delivered next ∧ Moves system next event ∨
      Stuck system ∧ Accounted (limit - 1) delivered next := by
  have still : Accounted limit delivered next → next.tickets = system.tickets →
      next.granted.length = system.granted.length →
      Accounted limit delivered next ∧ (Dict.keys next.node.pending =
        Dict.keys system.node.pending ∧ next.node.pendingSlots = system.node.pendingSlots) ∨
        Stuck system ∧ Accounted (limit - 1) delivered next :=
    fun after tickets granted => .inl ⟨after, accounted.unmoved after tickets granted⟩
  cases event with
  | datagram data source => exact absurd rfl (noDatagram data source)
  | connect =>
      cases taken
      exact still (accounted.ofNode ⟨accounted.ticketed.tickets, rfl,
        accounted.ticketed.arrived⟩) rfl rfl
  | restore records =>
      cases taken
      exact still (accounted.aside fun _ aside => aside.roaming.restoreContacts env records)
        rfl rfl
  | query request =>
      simp only [NodeSystem.step] at taken
      split at taken
      · cases taken
        exact still accounted rfl rfl
      · cases taken
        exact still (accounted.query request) rfl rfl
  | abandon number =>
      rcases Option.map_eq_some_iff.mp taken with ⟨request, _, rfl⟩
      exact still (accounted.abandon number) rfl rfl
  | grant number =>
      rcases Option.bind_eq_some_iff.mp taken with ⟨request, found, given⟩
      split at given
      · cases given
      · rename_i room
        cases given
        exact .inl ⟨accounted.grant found (by omega), rfl, rfl⟩
  | decline number =>
      rcases Option.map_eq_some_iff.mp taken with ⟨request, found, rfl⟩
      exact .inl ⟨accounted.ungrant found ⟨rfl, rfl⟩, rfl, rfl⟩
  | launch number => exact accounted.launched taken
  | timeout number =>
      rcases Option.bind_eq_some_iff.mp taken with ⟨flight, found, given⟩
      split at given
      · cases given
      · cases given
        exact still (accounted.interrupt found .timedOut)
          (interrupt_tickets accounted found .timedOut) rfl
  | cancel number =>
      rcases Option.map_eq_some_iff.mp taken with ⟨flight, found, rfl⟩
      exact still (accounted.interrupt found .cancelled)
        (interrupt_tickets accounted found .cancelled) rfl
  | resume number =>
      rcases Option.bind_eq_some_iff.mp taken with ⟨flight, found, resumed⟩
      have after := accounted.resume env found resumed
      have flying : next.flying = Dict.pop number system.flying := by
        unfold resumeFlight at resumed
        dsimp only at resumed
        split at resumed
        · cases resumed
          rfl
        · cases resumed
          rfl
        · split at resumed <;> cases resumed <;> rfl
      exact .inl ⟨after.1, flight, found, flying, after.2⟩
  | lookup place =>
      rcases Option.map_eq_some_iff.mp taken with ⟨response, _, rfl⟩
      have taken : Accounted limit delivered { system with
          node := Effects.after (DHTNode.takeNodes env response) system.node } :=
        accounted.aside fun _ aside => aside.roaming.learnContacts env false 0 _
      exact still { taken with } rfl rfl
  | refreshBucket place now =>
      cases taken
      exact still (accounted.aside fun _ aside => aside.roaming.refreshBucket place now)
        rfl rfl
  | closeIngress =>
      cases taken
      exact still (accounted.ofNode (DHTNode.closeIngress_ticketed.after
        ⟨accounted.ticketed.tickets, rfl, accounted.ticketed.arrived⟩)) rfl rfl

/-- The response has come, while the query was in flight, in a datagram from the
endpoint of the query and under its transaction ID, and it names the node that
the query expects. -/
def Arrived (env : Environment) (start : NodeSystem) (events : List NodeEvent) : Delivered :=
  fun number ticket response =>
    ∃ earlier data rest before flight msg, events = earlier ++ .datagram data ticket.endpoint :: rest ∧
      Transition.run (step env) start earlier = some before ∧
      Dict.get? number before.flying = some flight ∧ flightTicket (number, flight) = ticket ∧
      DHTNode.receive env.config data = .ok msg ∧ DHTNode.transaction msg = ticket.tid ∧
      Value.asBytes (msg.get? "y") = some (ascii "r") ∧
      Value.asDict (msg.get? "r") = some response ∧
      ∀ expected, ticket.expectedNodeId = some expected →
        Value.asKey (response.get? "id") = some expected

theorem Arrived.concat {start : NodeSystem} {events : List NodeEvent} (event : NodeEvent)
    {number : Nat} {ticket : Ticket} {response : Message}
    (arrived : Arrived env start events number ticket response) :
    Arrived env start (events ++ [event]) number ticket response := by
  rcases arrived with ⟨earlier, data, rest, before, flight, msg, rfl, facts⟩
  exact ⟨earlier, data, rest ++ [event], before, flight, msg, by simp, facts⟩

/-- A datagram keeps the books; a response that it delivers is one that has arrived. -/
theorem Accounted.datagram {start : NodeSystem} {events : List NodeEvent}
    (accounted : Accounted limit (Arrived env start events) system)
    (ran : Transition.run (NodeSystem.step env) start events = some system) (data : Bytes)
    (source : Endpoint) :
    Accounted limit (Arrived env start (events ++ [.datagram data source])) { system with
      node := Effects.after (DHTNode.datagramReceived env data source) system.node } := by
  have grown := accounted.mono fun _ _ _ => Arrived.concat (.datagram data source)
  apply grown.ofNode
  have current : DHTNode.Ticketed system.tickets system.node.pendingSlots
      (fun ticket response => ∀ entry ∈ system.flying, flightTicket entry = ticket →
        Arrived env start events entry.1 ticket response) system.node :=
    ⟨accounted.ticketed.tickets, rfl, accounted.ticketed.arrived⟩
  apply DHTNode.datagramReceived_ticketed accounted.distinct env data source system.node current
  · intro ticket _ response arrived entry member same
    exact (arrived entry member same).concat _
  · intro msg pending response remoteId _ received accepts entry member same
    have numbered := Dict.get?_of_mem accounted.flyingNumbers member
    have origin : source = (ticket (DHTNode.transaction msg, pending)).endpoint :=
      accepts.origin.symm
    refine ⟨events, data, [], system, entry.2, msg, by rw [← origin], ran, numbered, same,
      received, rfl, accepts.kind, accepts.content, ?_⟩
    intro expected isExpected
    have agrees := accepts.expected
    have known : pending.expectedNodeId = some expected := isExpected
    rw [known] at agrees
    have equal : expected = remoteId := by simpa using agrees
    exact equal ▸ accepts.named

/-- What holds of the transaction IDs, the slots and the responses in a system
that the events have led to, and what the next event may do to them. -/
structure Orderly (env : Environment) (start : NodeSystem) (events : List NodeEvent)
    (system : NodeSystem) : Prop where
  distinct : (Dict.keys system.node.pending).Nodup
  owners : Dict.keys system.node.pending = system.flying.map fun entry => entry.2.tid
  numbers : system.active.Nodup
  slots : system.node.pendingSlots + (system.granted.length + system.flying.length) =
    env.config.dhtMaxPendingRequests
  free : 0 ≤ system.node.pendingSlots
  named : ∀ number request, Dict.get? number system.granted = some request →
    ∃ tid counter, DHTNode.nextTid system.node.pending 65536 system.node.txCounter =
      .ok (tid, counter) ∧ tid ∉ Dict.keys system.node.pending
  moves : ∀ event next, step env system event = some next → Moves system next event
  returned : ∀ number flight response, (number, flight, response) ∈ system.returned →
    Arrived env start events number (flightTicket (number, flight)) response

theorem new_accounted {nodeId : Bytes} {candidates : CandidateManager} {txCounter : Nat}
    {localIps : List String} {start : NodeSystem} (delivered : Delivered)
    (made : new env nodeId candidates txCounter localIps = .ok start) :
    Accounted env.config.dhtMaxPendingRequests delivered start := by
  rcases new_ok made with ⟨_, positive, routing, _, rfl⟩
  exact {
    ticketed := ⟨rfl, by simp, by simp⟩
    distinct := by simp [tickets]
    numbers := by simp [active, Dict.keys]
    known := by simp [active, Dict.keys]
    free := positive
    returned := by simp }

section runs

variable {nodeId : Bytes} {candidates : CandidateManager} {txCounter : Nat}
  {localIps : List String} {start : NodeSystem} {events : List NodeEvent}

/-- One event of a run keeps the books, unless a query finds no ID. -/
theorem Accounted.runStep (accounted : Accounted limit (Arrived env start events) system)
    (ran : Transition.run (NodeSystem.step env) start events = some system) {event : NodeEvent}
    (taken : NodeSystem.step env system event = some next) :
    Accounted limit (Arrived env start (events ++ [event])) next ∧ Moves system next event ∨
      Stuck system ∧ Accounted (limit - 1) (Arrived env start (events ++ [event])) next := by
  have grown := accounted.mono fun _ _ _ => Arrived.concat event
  by_cases isDatagram : ∃ data source, event = .datagram data source
  · rcases isDatagram with ⟨data, source, rfl⟩
    cases taken
    have after := accounted.datagram ran data source
    exact .inl ⟨after, accounted.unmoved after rfl rfl⟩
  · exact grown.step (fun data source same => isDatagram ⟨data, source, same⟩) taken

/-- In every run the queries and the pending entries match, whatever slots were lost. -/
theorem run_matched (made : new env nodeId candidates txCounter localIps = .ok start)
    (ran : Transition.run (step env) start events = some system) :
    ∃ limit, Accounted limit (Arrived env start events) system := by
  have kept : ∀ inputs event state next, Transition.run (step env) start inputs = some state →
      (∃ limit, Accounted limit (Arrived env start inputs) state) →
      step env state event = some next →
      ∃ limit, Accounted limit (Arrived env start (inputs ++ [event])) next := by
    intro inputs event state next before matched taken
    rcases matched with ⟨limit, accounted⟩
    rcases accounted.runStep before taken with ⟨after, _⟩ | ⟨_, after⟩
    · exact ⟨limit, after⟩
    · exact ⟨limit - 1, after⟩
  exact Transition.invariant_history
    (fun inputs state => ∃ limit, Accounted limit (Arrived env start inputs) state) kept
    ⟨_, new_accounted _ made⟩ ran

/-- With no more slots than IDs, no query is ever stuck. -/
theorem Accounted.notStuck (accounted : Accounted limit delivered system)
    (bounded : limit ≤ 65536) : ¬ Stuck system := by
  intro stuck
  rcases stuck with ⟨number, request, fault, found, failed⟩
  rcases accounted.nextTid bounded found with ⟨tid, counter, named⟩
  rw [named] at failed
  cases failed

theorem run_accounted (bounded : env.config.dhtMaxPendingRequests ≤ 65536)
    (made : new env nodeId candidates txCounter localIps = .ok start)
    (ran : Transition.run (step env) start events = some system) :
    Accounted env.config.dhtMaxPendingRequests (Arrived env start events) system := by
  have kept : ∀ inputs event state next, Transition.run (step env) start inputs = some state →
      Accounted env.config.dhtMaxPendingRequests (Arrived env start inputs) state →
      step env state event = some next →
      Accounted env.config.dhtMaxPendingRequests (Arrived env start (inputs ++ [event])) next := by
    intro inputs event state next before accounted taken
    rcases accounted.runStep before taken with ⟨after, _⟩ | ⟨stuck, _⟩
    · exact after
    · exact absurd stuck (accounted.notStuck bounded)
  exact Transition.invariant_history
    (fun inputs => Accounted env.config.dhtMaxPendingRequests (Arrived env start inputs)) kept
    (new_accounted _ made) ran

end runs

/-- In every run the transaction IDs and the slots are accounted for: each
pending entry belongs to one query in flight, a query that ends takes only its
own entry along and gives its slot back once, an ID is always found, and a
response is returned to the query that it was sent for. -/
theorem run_orderly (env : Environment)
    (bounded : env.config.dhtMaxPendingRequests ≤ 65536) (nodeId : Bytes)
    (candidates : CandidateManager) (txCounter : Nat) (localIps : List String)
    (start : NodeSystem) (made : new env nodeId candidates txCounter localIps = .ok start)
    (events : List NodeEvent) (system : NodeSystem)
    (ran : Transition.run (step env) start events = some system) :
    Orderly env start events system := by
  have accounted := run_accounted bounded made ran
  refine
    { distinct := ?_
      owners := accounted.pending
      numbers := accounted.numbers
      slots := accounted.slots
      free := accounted.free
      named := ?_
      moves := ?_
      returned := fun number flight response member => accounted.returned _ member }
  · rw [← map_ticket_tid, accounted.ticketed.tickets]
    exact accounted.distinct
  · intro number request found
    rcases accounted.nextTid bounded found with ⟨tid, counter, isNamed⟩
    exact ⟨tid, counter, isNamed, DHTNode.nextTid_fresh isNamed⟩
  · intro event next taken
    rcases accounted.runStep ran taken with ⟨_, moves⟩ | ⟨stuck, _⟩
    · exact moves
    · exact absurd stuck (accounted.notStuck bounded)

/-- A world with a clock that ticks once for each reading. -/
def quietWorld : Environment where
  monotonicNs tick := tick
  timeNs tick := tick
  secretAt index := [UInt8.ofNat index]
  sha1 text := text
  sample _ keys count := keys.take count

/-- A fresh node in the quiet world. -/
def quietNode : Except PyError NodeSystem :=
  new quietWorld (List.replicate 20 1) { queue := { maxsize := 4 } } 7 ["127.0.0.1"]

/-- A ping that is answered and returns. -/
def pinged : List NodeEvent :=
  [.connect,
    .query
      { caller := .ping, endpoint := ("8.8.8.8", 6881), method := ascii "ping", args := [],
        expectedNodeId := none },
    .grant 0, .launch 0,
    .datagram (ascii "d1:rd2:id20:abcdefghijklmnopqrste1:t2:\x00\x081:y1:re") ("8.8.8.8", 6881),
    .resume 0]

/-- What a run of a fresh node in the quiet world leads to can be computed. -/
theorem quiet_check {events : List NodeEvent} {test : NodeSystem → NodeSystem → Bool}
    (checked : (quietNode.toOption.bind fun start =>
      (Transition.run (step quietWorld) start events).map fun system => test start system) =
        some true) :
    ∃ start system, quietNode = .ok start ∧
      Transition.run (step quietWorld) start events = some system ∧ test start system = true := by
  rcases Option.bind_eq_some_iff.mp checked with ⟨start, made, tested⟩
  rcases Option.map_eq_some_iff.mp tested with ⟨system, ran, holds⟩
  cases built : quietNode with
  | error fault => simp [built, Except.toOption] at made
  | ok first =>
      simp only [built, Except.toOption, Option.some.injEq] at made
      exact ⟨start, system, by rw [made], ran, holds⟩

theorem run_orderly_sample : ∃ start system, quietNode = .ok start ∧
    Transition.run (step quietWorld) start pinged = some system ∧
    Orderly quietWorld start pinged system := by
  rcases quiet_check (show (quietNode.toOption.bind fun start =>
      (Transition.run (step quietWorld) start pinged).map fun _ => true) = some true
      by decide +kernel) with ⟨start, system, made, ran, _⟩
  exact ⟨start, system, made, ran, run_orderly quietWorld (by decide) _ _ _ _ start made
    pinged system ran⟩

end NodeSystem

end PyDht
