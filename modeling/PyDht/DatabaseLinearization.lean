import PyDht.DatabaseQueueRuns
import PyDht.DatabaseService

set_option autoImplicit false

namespace PyDht

namespace DatabaseQueue

variable {state next : DatabaseQueue} {event : QueueEvent}

/-- The operations that are not executed yet, the one in the hands of the thread first. -/
def line (state : DatabaseQueue) : List Nat := state.running ++ state.queued

/-- How often a call stands in front of the queue, in it or in the hands of the thread. -/
def places (state : DatabaseQueue) (call : Nat) : Nat :=
  state.acquiring.count call + state.line.count call

/-- The operations keep their order, and no call gets into the line but from its slot. -/
structure Passes (state next : DatabaseQueue) : Prop where
  calls : next.calls = state.calls
  line : state.line <+: next.line
  places : ∀ call, next.places call ≤ state.places call

theorem Passes.same (calls : next.calls = state.calls) (line : next.line = state.line)
    (acquiring : next.acquiring = state.acquiring) : Passes state next := by
  refine ⟨calls, line ▸ List.prefix_rfl, fun call => ?_⟩
  rw [DatabaseQueue.places, line, acquiring]
  exact Nat.le_refl _

theorem Passes.erase (calls : next.calls = state.calls) (line : next.line = state.line)
    (call : Nat) (acquiring : next.acquiring = state.acquiring.erase call) :
    Passes state next := by
  refine ⟨calls, line ▸ List.prefix_rfl, fun other => ?_⟩
  rw [DatabaseQueue.places, DatabaseQueue.places, line, acquiring]
  have fewer := (@List.erase_sublist _ _ call state.acquiring).count_le other
  omega

theorem put_passes {call : Nat} (waits : call ∈ state.acquiring) : Passes state (state.put call) := by
  unfold put
  split
  · rename_i queue accepted
    rcases BoundedQueue.putNowait_eq_some accepted with ⟨-, rfl⟩
    have grown : DatabaseQueue.line { state with
        queue := { state.queue with items := state.queue.items ++ [some call] }
        slots := state.slots - 1, acquiring := state.acquiring.erase call
        awaiting := call :: state.awaiting, unresolved := call :: state.unresolved } =
          state.line ++ [call] := by
      simp [DatabaseQueue.line, queued, running]
    refine ⟨rfl, grown ▸ List.prefix_append _ _, fun other => ?_⟩
    rw [places, places, grown, List.count_append]
    dsimp only
    by_cases same : other = call
    · subst same
      have counted := @List.count_erase_self _ _ _ other state.acquiring
      have positive := List.count_pos_iff.mpr waits
      rw [List.count_singleton_self]
      omega
    · rw [List.count_erase_of_ne same, List.count_singleton]
      simp [Ne.symm same]
  · exact .erase rfl rfl call rfl

theorem loopStep_passes (plain : event ≠ .call) (taken : state.loopStep event = some next) :
    Passes state next := by
  cases event with
  | call => exact absurd rfl plain
  | acquire call =>
      simp only [loopStep] at taken
      split at taken <;> cases taken
      rename_i waits
      exact put_passes waits.1
  | cancel call =>
      simp only [loopStep] at taken
      split at taken
      · cases taken
        exact .erase rfl rfl call rfl
      · split at taken <;> cases taken
        exact .same rfl rfl rfl
  | resume call =>
      simp only [loopStep] at taken
      split at taken <;> cases taken
      exact .same rfl rfl rfl
  | deliver =>
      simp only [loopStep] at taken
      split at taken <;> cases taken
      exact .same rfl rfl rfl
  | close =>
      simp only [loopStep] at taken
      split at taken <;> cases taken
      exact .same rfl rfl rfl
  | cancelClose =>
      simp only [loopStep] at taken
      split at taken <;> cases taken
      exact .same rfl rfl rfl
  | putSentinel =>
      simp only [loopStep] at taken
      split at taken
      · split at taken <;> cases taken
        · rename_i queue accepted
          rcases BoundedQueue.putNowait_eq_some accepted with ⟨-, rfl⟩
          refine .same rfl ?_ rfl
          simp [DatabaseQueue.line, queued, running]
        · exact .same rfl rfl rfl
      · cases taken
  | get => cases taken
  | complete => cases taken
  | fail => cases taken
  | crash => cases taken
  | stop => cases taken

/-- The thread takes an operation from the queue, or it ends. -/
theorem threadStep_passes (plain : event.isPlain = true)
    (taken : state.threadStep event = some next) : Passes state next := by
  cases event with
  | get =>
      simp only [threadStep] at taken
      split at taken
      · rename_i idle
        rcases Option.map_eq_some_iff.mp taken with ⟨⟨item, queue⟩, got, rfl⟩
        rcases BoundedQueue.get_eq_some got with ⟨items, -⟩
        cases item with
        | none =>
            refine .same rfl ?_ rfl
            simp [DatabaseQueue.line, queued, running, idle, items]
        | some call =>
            refine .same rfl ?_ rfl
            simp [DatabaseQueue.line, queued, running, idle, items]
      · cases taken
  | stop =>
      simp only [threadStep] at taken
      split at taken
      · rename_i leaving
        cases taken
        refine .same rfl ?_ rfl
        simp [DatabaseQueue.line, queued, running, leaving]
      · cases taken
  | acquire call => cases taken
  | cancel call => cases taken
  | close => cases taken
  | cancelClose => cases taken
  | putSentinel => cases taken
  | call => cases plain
  | resume call => cases plain
  | deliver => cases plain
  | complete => cases plain
  | fail => cases plain
  | crash => cases plain

theorem step_passes (plain : event.isPlain = true) (taken : state.step event = some next) :
    Passes state next := by
  rcases step_cases taken with thread | loop
  · exact threadStep_passes plain thread
  · refine loopStep_passes ?_ loop
    intro same
    rw [same] at plain
    cases plain

/-- What the caller of a result does, or the callback that brings it. -/
theorem resume_passes {call : Nat} (taken : state.step (.resume call) = some next) :
    Passes state next := by
  rcases step_cases taken with thread | loop
  · cases thread
  · exact loopStep_passes (fun same => by cases same) loop

theorem deliver_passes (taken : state.step .deliver = some next) : Passes state next := by
  rcases step_cases taken with thread | loop
  · cases thread
  · exact loopStep_passes (fun same => by cases same) loop

theorem step_call (taken : state.step .call = some next) :
    next = { state with
      calls := state.calls + 1, acquiring := state.calls :: state.acquiring } := by
  rcases step_cases taken with thread | loop
  · cases thread
  · simp only [loopStep] at loop
    split at loop <;> cases loop
    rfl

/-- The thread puts the operation down: it leaves the line, and the others stay where they are. -/
structure Executes (state next : DatabaseQueue) (call : Nat) : Prop where
  calls : next.calls = state.calls
  line : state.line = call :: next.line
  acquiring : next.acquiring = state.acquiring
  stopped : next.thread ≠ .stopped

theorem step_executes {call : Nat} (executing : state.thread = .executing call)
    (ends : event = .complete ∨ event = .fail ∨ event = .crash)
    (taken : state.step event = some next) : Executes state next call := by
  have thread : state.threadStep event = some next := by
    rcases step_cases taken with thread | loop
    · exact thread
    · rcases ends with rfl | rfl | rfl <;> cases loop
  rcases ends with rfl | rfl | rfl
  · simp only [threadStep, executing, Option.some.injEq] at thread
    subst thread
    exact ⟨rfl, by simp [DatabaseQueue.line, running, queued, executing], rfl, by simp⟩
  · simp only [threadStep, executing, Option.some.injEq] at thread
    subst thread
    exact ⟨rfl, by simp [DatabaseQueue.line, running, queued, executing], rfl, by simp⟩
  · simp only [threadStep, executing, Option.some.injEq] at thread
    subst thread
    exact ⟨rfl, by simp [DatabaseQueue.line, running, queued, executing], rfl, by simp⟩

/-- Nobody but the thread itself changes whether it has stopped. -/
theorem loopStep_thread (taken : state.loopStep event = some next) :
    next.thread = state.thread := by
  cases event with
  | acquire call =>
      simp only [loopStep] at taken
      split at taken <;> cases taken
      unfold put
      split <;> rfl
  | cancel call =>
      simp only [loopStep] at taken
      split at taken
      · cases taken
        rfl
      · split at taken <;> cases taken
        rfl
  | putSentinel =>
      simp only [loopStep] at taken
      split at taken
      · split at taken <;> cases taken <;> rfl
      · cases taken
  | call | resume call | deliver | close | cancelClose =>
      simp only [loopStep] at taken
      split at taken <;> cases taken
      rfl
  | get | complete | fail | crash | stop => cases taken

theorem step_stop (taken : state.step .stop = some next) :
    state.thread = .leaving ∧ next.thread = .stopped := by
  rcases step_cases taken with thread | loop
  · simp only [threadStep] at thread
    split at thread <;> cases thread
    exact ⟨by assumption, rfl⟩
  · cases loop

theorem step_stopped (others : event ≠ .stop) (taken : state.step event = some next) :
    next.thread = .stopped ↔ state.thread = .stopped := by
  rcases step_cases taken with thread | loop
  · cases event with
    | get =>
        simp only [threadStep] at thread
        split at thread
        · rename_i idle
          rcases Option.map_eq_some_iff.mp thread with ⟨⟨item, queue⟩, got, rfl⟩
          cases item <;> simp [idle]
        · cases thread
    | complete | fail | crash =>
        simp only [threadStep] at thread
        split at thread
        · rename_i executing
          cases thread
          simp [executing]
        · cases thread
    | stop => exact absurd rfl others
    | call | acquire call | cancel call | resume call | deliver | close | cancelClose
    | putSentinel => cases thread
  · rw [loopStep_thread loop]

/-- A thread that has left its loop can only stop. -/
theorem step_leaving (others : event ≠ .stop) (taken : state.step event = some next)
    (leaving : state.thread = .leaving) : next.thread = .leaving := by
  rcases step_cases taken with thread | loop
  · cases event with
    | get | complete | fail | crash =>
        simp only [threadStep, leaving] at thread
        cases thread
    | stop => exact absurd rfl others
    | call | acquire call | cancel call | resume call | deliver | close | cancelClose
    | putSentinel => cases thread
  · rw [loopStep_thread loop]
    exact leaving

end DatabaseQueue

variable {Db Result Request : Type}

/-- The operation as the thread has executed it. -/
def Execution.served (operation : Request → Operation Db Result) (entry : Execution Request)
    (session : Session Db) : Served Db Result :=
  (operation entry.request).serve entry.attempts entry.retries 0 session

/-- One operation after the other, each as a whole: the reply to each call, and the connection
behind the last one. -/
def replay (operation : Request → Operation Db Result) :
    List (Execution Request) → Session Db → List (Nat × Reply Result) × Session Db
  | [], session => ([], session)
  | entry :: entries, session =>
      let served := entry.served operation session
      let rest := replay operation entries served.session
      ((entry.call, served.reply) :: rest.1, rest.2)

section replaying

variable {operation : Request → Operation Db Result}

theorem replay_concat (entries : List (Execution Request)) (entry : Execution Request)
    (session : Session Db) :
    replay operation (entries ++ [entry]) session =
      ((replay operation entries session).1 ++
          [(entry.call, (entry.served operation (replay operation entries session).2).reply)],
        (entry.served operation (replay operation entries session).2).session) := by
  induction entries generalizing session with
  | nil => rfl
  | cons first entries ih =>
      simp only [List.cons_append, replay]
      rw [ih]

theorem replay_calls (entries : List (Execution Request)) (session : Session Db) :
    (replay operation entries session).1.map Prod.fst = entries.map Execution.call := by
  induction entries generalizing session with
  | nil => rfl
  | cons first entries ih =>
      simp only [replay, List.map_cons]
      rw [ih]

end replaying

namespace DatabaseService

variable {config : Config} {operation : Request → Operation Db Result} {start : Session Db}
  {service next : DatabaseService Db Result Request}

/-- The calls in the order of their operations: the executed ones in front of the others. -/
def order (service : DatabaseService Db Result Request) : List Nat :=
  service.executed.map Execution.call ++ service.queue.line

/-- The replies that the executed operations give one after the other. -/
def Replied (operation : Request → Operation Db Result) (start : Session Db)
    (service : DatabaseService Db Result Request) (pairs : List (Nat × Reply Result)) : Prop :=
  ∀ pair ∈ pairs, pair ∈ (replay operation service.executed start).1

structure Inv (operation : Request → Operation Db Result) (start : Session Db)
    (service : DatabaseService Db Result Request) : Prop where
  once : ∀ call, service.queue.acquiring.count call + service.order.count call ≤ 1
  issued : ∀ call, service.queue.calls ≤ call →
    service.queue.acquiring.count call + service.order.count call = 0
  numbered : Dict.keys service.requests = List.range service.queue.calls
  made : ∀ entry ∈ service.executed,
    Dict.get? entry.call service.requests = some entry.request
  session : service.session =
    if service.queue.thread = .stopped then (replay operation service.executed start).2.leave
    else (replay operation service.executed start).2
  handed : Replied operation start service service.handed
  futures : Replied operation start service service.futures
  returned : Replied operation start service service.returned

theorem new_inv (operation : Request → Operation Db Result) (capacity : Nat)
    (start : Session Db) : Inv operation start (new capacity start) where
  once _ := Nat.zero_le _
  issued _ _ := rfl
  numbered := rfl
  made _ member := absurd member List.not_mem_nil
  session := rfl
  handed _ member := absurd member List.not_mem_nil
  futures _ member := absurd member List.not_mem_nil
  returned _ member := absurd member List.not_mem_nil

/-- Nothing is executed: the queue moves, and replies go from one place to the next. -/
theorem Inv.passes (inv : Inv operation start service)
    (passes : service.queue.Passes next.queue) (executed : next.executed = service.executed)
    (requests : next.requests = service.requests)
    (session : next.session =
      if next.queue.thread = .stopped then (replay operation service.executed start).2.leave
      else (replay operation service.executed start).2)
    (handed : ∀ pair ∈ next.handed, pair ∈ service.handed)
    (futures : ∀ pair ∈ next.futures, pair ∈ service.futures ∨ pair ∈ service.handed)
    (returned : ∀ pair ∈ next.returned, pair ∈ service.returned ∨ pair ∈ service.futures) :
    Inv operation start next ∧ service.order <+: next.order := by
  have counted : ∀ call, next.queue.acquiring.count call + next.order.count call ≤
      service.queue.acquiring.count call + service.order.count call := by
    intro call
    have fewer := passes.places call
    simp only [DatabaseQueue.places] at fewer
    simp only [order, executed, List.count_append]
    omega
  refine ⟨⟨?_, ?_, ?_, ?_, ?_, ?_, ?_, ?_⟩, ?_⟩
  · intro call
    exact (counted call).trans (inv.once call)
  · intro call new
    rw [passes.calls] at new
    have fewer := counted call
    rw [inv.issued call new] at fewer
    omega
  · rw [requests, passes.calls]
    exact inv.numbered
  · rw [executed, requests]
    exact inv.made
  · rw [executed]
    exact session
  · rw [Replied, executed]
    exact fun pair member => inv.handed pair (handed pair member)
  · rw [Replied, executed]
    exact fun pair member => (futures pair member).elim (inv.futures pair) (inv.handed pair)
  · rw [Replied, executed]
    exact fun pair member => (returned pair member).elim (inv.returned pair) (inv.futures pair)
  · rw [order, order, executed]
    exact List.prefix_append_right_inj _ |>.mpr passes.line

/-- The thread has executed an operation; its reply may be handed over. -/
theorem Inv.executes (inv : Inv operation start service) {entry : Execution Request}
    (executes : service.queue.Executes next.queue entry.call)
    (running : service.queue.thread ≠ .stopped)
    (made : Dict.get? entry.call service.requests = some entry.request)
    (requests : next.requests = service.requests)
    (executed : next.executed = service.executed ++ [entry])
    (session : next.session = (entry.served operation service.session).session)
    (handed : ∀ pair ∈ next.handed, pair ∈ service.handed ∨
      pair = (entry.call, (entry.served operation service.session).reply))
    (futures : next.futures = service.futures) (returned : next.returned = service.returned) :
    Inv operation start next ∧ service.order <+: next.order := by
  have same : next.order = service.order := by
    rw [order, order, executed, executes.line, List.map_append, List.append_assoc]
    rfl
  have current : service.session = (replay operation service.executed start).2 := by
    rw [inv.session, if_neg running]
  have replayed : replay operation next.executed start =
      ((replay operation service.executed start).1 ++
          [(entry.call, (entry.served operation service.session).reply)],
        (entry.served operation service.session).session) := by
    rw [executed, replay_concat, ← current]
  refine ⟨⟨?_, ?_, ?_, ?_, ?_, ?_, ?_, ?_⟩, same ▸ List.prefix_rfl⟩
  · rw [same, executes.acquiring]
    exact inv.once
  · rw [same, executes.acquiring, executes.calls]
    exact inv.issued
  · rw [requests, executes.calls]
    exact inv.numbered
  · intro other member
    rw [requests]
    rw [executed] at member
    rcases List.mem_append.mp member with before | last
    · exact inv.made other before
    · rw [List.mem_singleton.mp last]
      exact made
  · rw [if_neg executes.stopped, replayed]
    exact session
  · intro pair member
    rw [replayed]
    rcases handed pair member with before | last
    · exact List.mem_append_left _ (inv.handed pair before)
    · rw [last]
      exact List.mem_append_right _ (List.mem_singleton_self _)
  · intro pair member
    rw [replayed]
    exact List.mem_append_left _ (inv.futures pair (futures ▸ member))
  · intro pair member
    rw [replayed]
    exact List.mem_append_left _ (inv.returned pair (returned ▸ member))

/-- A new call has a number of its own. -/
theorem Inv.calls (inv : Inv operation start service) {request : Request} {queue : DatabaseQueue}
    (taken : service.queue.step .call = some queue) :
    Inv operation start
        { service with
          queue, requests := service.requests ++ [(service.queue.calls, request)] } ∧
      service.order <+: order
        { service with
          queue, requests := service.requests ++ [(service.queue.calls, request)] } := by
  have fresh : service.queue.calls ∉ Dict.keys service.requests := by
    rw [inv.numbered]
    exact List.not_mem_range_self
  have thread := DatabaseQueue.step_stopped (fun same => by cases same) taken
  have isNext := DatabaseQueue.step_call taken
  subst isNext
  refine ⟨⟨?_, ?_, ?_, ?_, ?_, inv.handed, inv.futures, inv.returned⟩, List.prefix_rfl⟩
  · intro call
    show (service.queue.calls :: service.queue.acquiring).count call +
      service.order.count call ≤ 1
    rw [List.count_cons]
    by_cases same : service.queue.calls = call
    · have absent := inv.issued call (Nat.le_of_eq same)
      simp only [same, beq_self_eq_true, if_true]
      omega
    · have once := inv.once call
      simp only [beq_iff_eq, same, if_false]
      omega
  · intro call new
    show (service.queue.calls :: service.queue.acquiring).count call +
      service.order.count call = 0
    have above : service.queue.calls + 1 ≤ call := new
    have absent := inv.issued call (by omega)
    have other : ¬ service.queue.calls = call := by omega
    rw [List.count_cons]
    simp only [beq_iff_eq, other, if_false]
    omega
  · show Dict.keys (service.requests ++ [(service.queue.calls, request)]) =
      List.range (service.queue.calls + 1)
    rw [List.range_succ, ← inv.numbered]
    simp [Dict.keys]
  · intro entry member
    have known := inv.made entry member
    have other : entry.call ≠ service.queue.calls := by
      intro same
      exact fresh (same ▸ Dict.mem_keys_of_get? known)
    show Dict.get? entry.call (service.requests ++ [(service.queue.calls, request)]) = _
    rw [Dict.get?_concat_ne other]
    exact known
  · exact inv.session

theorem executing_spec {call : Nat} {request : Request}
    (executing : service.executing = some (call, request)) :
    service.queue.thread = .executing call ∧
      Dict.get? call service.requests = some request := by
  unfold DatabaseService.executing at executing
  split at executing
  · rename_i number thread
    rcases Option.map_eq_some_iff.mp executing with ⟨found, known, same⟩
    cases same
    exact ⟨thread, known⟩
  · cases executing

/-- A step keeps the invariant, and executes what was in front of the others already. -/
theorem Inv.step (inv : Inv operation start service) {event : ServiceEvent Request}
    (taken : service.step config operation event = some next) :
    Inv operation start next ∧ service.order <+: next.order := by
  cases event with
  | call request =>
      rcases Option.map_eq_some_iff.mp taken with ⟨queue, moved, rfl⟩
      exact inv.calls moved
  | serve attempts =>
      rcases Option.bind_eq_some_iff.mp taken with ⟨⟨call, request⟩, executing, taken⟩
      rcases Option.map_eq_some_iff.mp taken with ⟨queue, moved, rfl⟩
      rcases executing_spec executing with ⟨thread, made⟩
      have ends := DatabaseQueue.step_executes thread (by split <;> simp) moved
      let entry : Execution Request :=
        { call, request, attempts, retries := config.dbReopenRetryCount.toNat }
      refine @Inv.executes _ _ _ _ _ _ _ inv entry ends (by simp [thread]) made rfl rfl rfl ?_
        rfl rfl
      intro pair member
      rcases List.mem_append.mp member with before | last
      · exact .inl before
      · exact .inr (List.mem_singleton.mp last)
  | crash attempts retries =>
      simp only [DatabaseService.step] at taken
      split at taken
      · rcases Option.bind_eq_some_iff.mp taken with ⟨⟨call, request⟩, executing, taken⟩
        rcases Option.map_eq_some_iff.mp taken with ⟨queue, moved, rfl⟩
        rcases executing_spec executing with ⟨thread, made⟩
        have ends := DatabaseQueue.step_executes thread (.inr (.inr rfl)) moved
        let entry : Execution Request := { call, request, attempts, retries }
        exact @Inv.executes _ _ _ _ _ _ _ inv entry ends (by simp [thread]) made rfl rfl rfl
          (fun pair member => .inl member) rfl rfl
      · cases taken
  | deliver =>
      simp only [DatabaseService.step] at taken
      split at taken
      · cases taken
      · rename_i call reply handed waiting
        rcases Option.map_eq_some_iff.mp taken with ⟨queue, moved, rfl⟩
        refine inv.passes (DatabaseQueue.deliver_passes moved) rfl rfl ?_ ?_ ?_
          (fun pair member => .inl member)
        · simp only [DatabaseQueue.step_stopped (fun same => by cases same) moved]
          exact inv.session
        · intro pair member
          rw [waiting]
          exact List.mem_cons_of_mem _ member
        · intro pair member
          dsimp only at member
          split at member
          · rcases List.mem_append.mp member with before | last
            · exact .inl before
            · rw [waiting, List.mem_singleton.mp last]
              exact .inr List.mem_cons_self
          · exact .inl member
  | resume call =>
      rcases Option.map_eq_some_iff.mp taken with ⟨queue, moved, rfl⟩
      refine inv.passes (DatabaseQueue.resume_passes moved) rfl rfl ?_ (fun pair member => member)
        (fun pair member => .inl member) ?_
      · simp only [DatabaseQueue.step_stopped (fun same => by cases same) moved]
        exact inv.session
      · intro pair member
        rcases List.mem_append.mp member with before | last
        · exact .inl before
        · rcases Option.map_eq_some_iff.mp (Option.mem_toList.mp last) with ⟨reply, found, same⟩
          rw [← same]
          exact .inr (Dict.mem_of_get? found)
  | queue event =>
      simp only [DatabaseService.step] at taken
      split at taken
      · rename_i plain
        rcases Option.map_eq_some_iff.mp taken with ⟨queue, moved, rfl⟩
        refine inv.passes (DatabaseQueue.step_passes plain moved) rfl rfl ?_
          (fun pair member => member) (fun pair member => .inl member)
          (fun pair member => .inl member)
        by_cases stops : event = .stop
        · subst stops
          rcases DatabaseQueue.step_stop moved with ⟨leaving, stopped⟩
          have current := inv.session
          simp only [leaving] at current
          simp [stopped, current]
        · simp only [if_neg stops, DatabaseQueue.step_stopped stops moved]
          exact inv.session
      · cases taken

theorem run_inv {events : List (ServiceEvent Request)}
    (ran : Transition.run (step config operation) service events = some next)
    (inv : Inv operation start service) :
    Inv operation start next ∧ service.order <+: next.order := by
  refine Transition.invariant_run
    (fun reached => Inv operation start reached ∧ service.order <+: reached.order) ?_ ran
    ⟨inv, List.prefix_rfl⟩
  intro reached event after holds taken
  have stepped := holds.1.step taken
  exact ⟨stepped.1, holds.2.trans stepped.2⟩

/-- In every run of callers, event loop and thread, whichever callers are cancelled and however the
thread ends: no call is executed twice; the connection is what the executed operations leave one
after the other, and every reply that a caller gets is the one of its own operation in that
order; what is in order stays in order, and whoever has its reply comes before all later calls. -/
theorem run_linearizes (config : Config) (operation : Request → Operation Db Result)
    (capacity : Nat) (start : Session Db) (before after : List (ServiceEvent Request))
    (middle final : DatabaseService Db Result Request)
    (reached : Transition.run (step config operation) (new capacity start) before = some middle)
    (ran : Transition.run (step config operation) middle after = some final) :
    final.order.Nodup ∧
      (∀ entry ∈ final.executed, Dict.get? entry.call final.requests = some entry.request) ∧
      (final.queue.thread ≠ .stopped →
        final.session = (replay operation final.executed start).2) ∧
      (∀ pair ∈ final.returned, pair ∈ (replay operation final.executed start).1) ∧
      ∃ later, final.order = middle.order ++ later ∧
        (∀ pair ∈ middle.returned, pair.1 ∈ middle.executed.map Execution.call) ∧
        ∀ call ∈ final.order, middle.queue.calls ≤ call → call ∈ later := by
  have half := (run_inv reached (new_inv operation capacity start)).1
  have whole := run_inv ran half
  have inv := whole.1
  refine ⟨?_, inv.made, ?_, inv.returned, ?_⟩
  · apply List.nodup_iff_count_le_one.mpr
    intro call
    have once := inv.once call
    omega
  · intro running
    rw [inv.session, if_neg running]
  · rcases whole.2 with ⟨later, grown⟩
    refine ⟨later, grown.symm, ?_, ?_⟩
    · intro pair member
      have known := List.mem_map_of_mem (f := Prod.fst) (half.returned pair member)
      rwa [replay_calls] at known
    · intro call member new
      rw [← grown] at member
      rcases List.mem_append.mp member with early | late
      · have absent := half.issued call new
        have counted := List.count_pos_iff.mpr early
        omega
      · exact late

/-- Two calls that are queued the other way round, the second one is answered. -/
def sampleBefore : List (ServiceEvent DatabaseCall) :=
  [.call (.markFetching "dht20:01" 5), .call (.upsertCandidateSeen "dht20:01" 2 2),
    .queue (.acquire 1), .queue (.acquire 0), .queue .get, .serve fun _ => {}, .deliver, .resume 1]

/-- A third call is made, and all get their replies. -/
def sampleAfter : List (ServiceEvent DatabaseCall) :=
  [.call (.candidateState "dht20:01"), .queue .get, .serve fun _ => {}, .queue (.acquire 2),
    .queue .get, .serve fun _ => {}, .deliver, .deliver, .resume 2, .resume 0]

theorem run_linearizes_sample :
    ∃ middle final : DatabaseService Catalogue Answer DatabaseCall,
      Transition.run (step {} (DatabaseCall.operation {})) (new 2 (.connect {})) sampleBefore =
        some middle ∧
      Transition.run (step {} (DatabaseCall.operation {})) middle sampleAfter = some final ∧
      final.returned.map Prod.fst = [1, 2, 0] ∧
      final.executed.map Execution.call = [1, 0, 2] ∧ final.order.Nodup ∧
      ∀ pair ∈ final.returned,
        pair ∈ (replay (DatabaseCall.operation {}) final.executed (.connect {})).1 := by
  have checked : ((Transition.run (step {} (DatabaseCall.operation {})) (new 2 (.connect {}))
      sampleBefore).bind fun middle =>
        (Transition.run (step {} (DatabaseCall.operation {})) middle sampleAfter).map fun final =>
          (final.returned.map Prod.fst, final.executed.map Execution.call)) =
      some ([1, 2, 0], [1, 0, 2]) := by decide +kernel
  rcases Option.bind_eq_some_iff.mp checked with ⟨middle, reached, checked⟩
  rcases Option.map_eq_some_iff.mp checked with ⟨final, ran, facts⟩
  have linear := run_linearizes {} (DatabaseCall.operation {}) 2 (.connect {}) _ _ middle final
    reached ran
  exact ⟨middle, final, reached, ran, congrArg Prod.fst facts, congrArg Prod.snd facts, linear.1,
    linear.2.2.2.1⟩

end DatabaseService

end PyDht
