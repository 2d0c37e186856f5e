import PyDht.DatabaseLinearization

set_option autoImplicit false

namespace PyDht

/-- The worker of the catalogue. -/
abbrev CatalogueService := DatabaseService Catalogue Answer DatabaseCall

def ServiceEvent.isCrash {Request : Type} : ServiceEvent Request → Bool
  | .crash _ _ => true
  | _ => false

/-- The operation as the store executes it, at once. -/
def Execution.storeEvent (entry : Execution DatabaseCall) : StoreEvent :=
  .serve entry.request entry.attempts

/-- The recovery loop had all its turns. -/
def Execution.Full (config : Config) (entry : Execution DatabaseCall) : Prop :=
  entry.retries = config.dbReopenRetryCount.toNat

theorem Execution.Full.served {config : Config} {entry : Execution DatabaseCall}
    (full : entry.Full config) (session : Session Catalogue) :
    entry.served (DatabaseCall.operation config) session =
      (entry.request.operation config).run config entry.attempts session := by
  rw [Execution.served, full]
  rfl

/-- The store that executes the operations of the log works on the same connection. -/
theorem Store.run_replay {config : Config} {entries : List (Execution DatabaseCall)}
    (full : ∀ entry ∈ entries, entry.Full config) {origin final : Store}
    (ran : Transition.run (Store.step config) origin (entries.map Execution.storeEvent) =
      some final) :
    final.session = (replay (DatabaseCall.operation config) entries origin.session).2 := by
  induction entries generalizing origin with
  | nil =>
      cases ran
      rfl
  | cons entry entries ih =>
      rcases Transition.run_cons.mp ran with ⟨middle, served, ran⟩
      rcases List.forall_mem_cons.mp full with ⟨here, later⟩
      rw [ih later ran]
      simp only [Execution.storeEvent, Store.step] at served
      split at served
      · cases served
        simp only [replay, here.served]
      · cases served

/-- Where a reply comes from. -/
theorem mem_replay {Db Result Request : Type} {operation : Request → Operation Db Result}
    {entries : List (Execution Request)} {session : Session Db} {pair : Nat × Reply Result}
    (member : pair ∈ (replay operation entries session).1) :
    ∃ front entry back, entries = front ++ entry :: back ∧
      pair = (entry.call, (entry.served operation (replay operation front session).2).reply) := by
  induction entries generalizing session with
  | nil => cases member
  | cons first entries ih =>
      simp only [replay] at member
      rcases List.mem_cons.mp member with here | later
      · exact ⟨[], first, entries, rfl, here⟩
      · rcases ih later with ⟨front, entry, back, rfl, same⟩
        exact ⟨first :: front, entry, back, rfl, same⟩

namespace DatabaseService

/-- What the store does meanwhile: it executes the operations of the log, and stops in the end. -/
def storeEvents (service : CatalogueService) : List StoreEvent :=
  service.executed.map Execution.storeEvent ++
    if service.queue.thread = .stopped then [.stop] else []

/-- The store has done what the worker has done. -/
structure Refines (config : Config) (origin : Store) (service : CatalogueService) : Prop where
  full : ∀ entry ∈ service.executed, entry.Full config
  store : ∃ store, Transition.run (Store.step config) origin service.storeEvents = some store ∧
    store.session = service.session ∧
    (service.queue.thread = .leaving → store.thread ≠ .down) ∧
    (service.queue.thread ≠ .leaving → service.queue.thread ≠ .stopped →
      store.thread = .serving)

variable {config : Config} {origin : Store} {service next : CatalogueService}

/-- Nothing is executed, and the thread stays in its loop or out of it. -/
theorem Refines.stutters (refines : Refines config origin service)
    (executed : next.executed = service.executed) (session : next.session = service.session)
    (stopped : next.queue.thread = .stopped ↔ service.queue.thread = .stopped)
    (leaving : next.queue.thread ≠ .leaving → service.queue.thread ≠ .leaving)  :
    Refines config origin next := by
  rcases refines with ⟨full, store, ran, same, left, serving⟩
  have events : next.storeEvents = service.storeEvents := by
    rw [storeEvents, storeEvents, executed]
    simp only [stopped]
  refine ⟨executed ▸ full, store, events ▸ ran, same.trans session.symm, ?_, ?_⟩
  · intro leaves
    by_cases before : service.queue.thread = .leaving
    · exact left before
    · have running : service.queue.thread ≠ .stopped := by
        intro ended
        rw [stopped.mpr ended] at leaves
        cases leaves
      rw [serving before running]
      exact StoreThread.noConfusion
  · intro stays running
    exact serving (leaving stays) fun ended => running (stopped.mpr ended)

/-- A queue event that is not the end of the thread. -/
theorem Refines.moves (refines : Refines config origin service) {event : QueueEvent}
    (others : event ≠ .stop) (moved : service.queue.step event = some next.queue)
    (executed : next.executed = service.executed) (session : next.session = service.session) :
    Refines config origin next := by
  refine refines.stutters executed session (DatabaseQueue.step_stopped others moved) ?_
  intro stays leaves
  exact stays (DatabaseQueue.step_leaving others moved leaves)

/-- The recovery loop of the thread is one step of the store. -/
theorem Refines.serves (refines : Refines config origin service) {attempts : Nat → Attempt}
    (taken : service.step config (DatabaseCall.operation config) (.serve attempts) = some next) :
    Refines config origin next := by
  rcases Option.bind_eq_some_iff.mp taken with ⟨⟨call, request⟩, executing, taken⟩
  rcases Option.map_eq_some_iff.mp taken with ⟨queue, moved, rfl⟩
  rcases executing_spec executing with ⟨thread, -⟩
  rcases refines with ⟨full, store, ran, same, left, serving⟩
  have serves := serving (by simp [thread]) (by simp [thread])
  let served := (request.operation config).run config attempts service.session
  let after : Store :=
    { session := served.session, thread := if served.fatal then .leaving else .serving }
  have taken : store.step config (.serve request attempts) = some after := by
    simp only [Store.step, serves, if_true, same]
    rfl
  have ends : queue.thread = if served.fatal then .leaving else .idle := by
    rcases DatabaseQueue.step_cases moved with threadMoved | loop
    · cases fatal : served.fatal with
      | true =>
          simp only [served] at fatal
          simp only [fatal, if_true, DatabaseQueue.threadStep, thread] at threadMoved
          cases threadMoved
          rfl
      | false =>
          simp only [served] at fatal
          simp only [fatal, DatabaseQueue.threadStep, thread] at threadMoved
          cases threadMoved
          rfl
    · split at loop <;> cases loop
  have goesOn : ¬ queue.thread = .stopped := by
    rw [ends]
    split <;> simp
  refine ⟨?_, after, ?_, rfl, ?_, ?_⟩
  · intro entry member
    rcases List.mem_append.mp member with before | last
    · exact full entry before
    · rw [List.mem_singleton.mp last]
      rfl
  · have ran : Transition.run (Store.step config) origin
        (service.executed.map Execution.storeEvent) = some store := by
      simpa [storeEvents, thread] using ran
    simp only [storeEvents, goesOn, if_false, List.append_nil, List.map_append]
    exact Transition.run_concat.mpr ⟨store, ran, taken⟩
  · intro _
    show (if served.fatal then StoreThread.leaving else StoreThread.serving) ≠ .down
    split <;> exact StoreThread.noConfusion
  · intro stays _
    show (if served.fatal then StoreThread.leaving else StoreThread.serving) = .serving
    split
    · rename_i fatal
      refine absurd ?_ stays
      exact ends.trans (if_pos fatal)
    · rfl

/-- The `finally` of the thread is the stop of the store. -/
theorem Refines.stops (refines : Refines config origin service)
    (taken : service.step config (DatabaseCall.operation config) (.queue .stop) = some next) :
    Refines config origin next := by
  rcases Option.map_eq_some_iff.mp taken with ⟨queue, moved, rfl⟩
  rcases DatabaseQueue.step_stop moved with ⟨leaving, stopped⟩
  rcases refines with ⟨full, store, ran, same, left, -⟩
  have up := left leaving
  refine ⟨full, { session := store.session.leave, thread := .down }, ?_, ?_, ?_, ?_⟩
  · have ran : Transition.run (Store.step config) origin
        (service.executed.map Execution.storeEvent) = some store := by
      simpa [storeEvents, leaving] using ran
    simp only [storeEvents, stopped, if_true]
    refine Transition.run_concat.mpr ⟨store, ran, ?_⟩
    simp only [Store.step, if_neg up]
  · rw [same]
    rfl
  · intro leaves
    rw [stopped] at leaves
    cases leaves
  · intro _ running
    exact absurd stopped running

theorem Refines.step (refines : Refines config origin service)
    {event : ServiceEvent DatabaseCall} (lasts : event.isCrash = false)
    (taken : service.step config (DatabaseCall.operation config) event = some next) :
    Refines config origin next := by
  cases event with
  | call request =>
      rcases Option.map_eq_some_iff.mp taken with ⟨queue, moved, rfl⟩
      exact refines.moves (fun same => by cases same) moved rfl rfl
  | serve attempts => exact refines.serves taken
  | crash attempts retries => cases lasts
  | deliver =>
      simp only [DatabaseService.step] at taken
      split at taken
      · cases taken
      · rcases Option.map_eq_some_iff.mp taken with ⟨queue, moved, rfl⟩
        exact refines.moves (fun same => by cases same) moved rfl rfl
  | resume call =>
      rcases Option.map_eq_some_iff.mp taken with ⟨queue, moved, rfl⟩
      exact refines.moves (fun same => by cases same) moved rfl rfl
  | queue event =>
      by_cases stops : event = .stop
      · subst stops
        exact refines.stops taken
      · simp only [DatabaseService.step] at taken
        split at taken
        · rcases Option.map_eq_some_iff.mp taken with ⟨queue, moved, rfl⟩
          exact refines.moves stops moved rfl rfl
        · cases taken

/-- However callers, event loop and thread of a `DatabaseWorker` interleave, it is the store that
executes each operation at once: the store has a run over the operations of the log that ends on
the same connection, and every reply that a caller gets is the one that the store gives to the
operation of this caller where it stands in that run. -/
theorem run_refines (config : Config) (capacity : Nat) (store : Store) (nowNs : Int)
    (events : List (ServiceEvent DatabaseCall)) (final : CatalogueService)
    (lasting : ∀ event ∈ events, event.isCrash = false)
    (ran : Transition.run (step config (DatabaseCall.operation config))
      (new capacity (store.recover nowNs).session) events = some final) :
    (∃ served, Transition.run (Store.step config) (store.recover nowNs) final.storeEvents =
        some served ∧ served.session = final.session) ∧
      ∀ call reply, (call, reply) ∈ final.returned →
        ∃ front request attempts back served,
          final.storeEvents = front ++ .serve request attempts :: back ∧
          Dict.get? call final.requests = some request ∧
          Transition.run (Store.step config) (store.recover nowNs) front = some served ∧
          reply = ((request.operation config).run config attempts served.session).reply := by
  have refines : Refines config (store.recover nowNs) final := by
    refine Transition.invariant_along (Refines config (store.recover nowNs))
      (fun service event next refines lasts taken => refines.step lasts taken)
      (Transition.along_of_mem (fun event member _ => lasting event member) _) ran ?_
    exact ⟨fun entry member => absurd member List.not_mem_nil, _, rfl, rfl,
      fun leaves => (by cases leaves), fun _ _ => rfl⟩
  rcases refines.store with ⟨served, stepped, same, -, -⟩
  refine ⟨⟨served, stepped, same⟩, ?_⟩
  intro call reply member
  have inv := (run_inv ran (new_inv (DatabaseCall.operation config) capacity _)).1
  rcases mem_replay (inv.returned _ member) with ⟨front, entry, back, executed, pair⟩
  have isCall : call = entry.call := congrArg Prod.fst pair
  have isReply := congrArg Prod.snd pair
  have listed : entry ∈ final.executed := by
    rw [executed]
    exact List.mem_append_right _ List.mem_cons_self
  have split : final.storeEvents = front.map Execution.storeEvent ++
      .serve entry.request entry.attempts :: (back.map Execution.storeEvent ++
        if final.queue.thread = .stopped then [.stop] else []) := by
    rw [storeEvents, executed, List.map_append, List.map_cons, List.append_assoc,
      List.cons_append]
    rfl
  rw [split] at stepped
  rcases Transition.run_append.mp stepped with ⟨earlier, reached, -⟩
  have early := Store.run_replay (fun other member => refines.full other (by
    rw [executed]
    exact List.mem_append_left _ member)) reached
  refine ⟨_, entry.request, entry.attempts, _, earlier, split, ?_, reached, ?_⟩
  · rw [isCall]
    exact inv.made entry listed
  · rw [early, ← (refines.full entry listed).served]
    exact isReply

/-- `close` behind the replies to the three calls. -/
def sampleClosed : List (ServiceEvent DatabaseCall) :=
  sampleBefore ++ sampleAfter ++ [.queue .close, .queue .putSentinel, .queue .get, .queue .stop]

theorem run_refines_sample :
    ∃ final : CatalogueService,
      Transition.run (step {} (DatabaseCall.operation {})) (new 2 (Store.empty.recover 1).session)
        sampleClosed = some final ∧
      (∃ served, Transition.run (Store.step {}) (Store.empty.recover 1) final.storeEvents =
        some served ∧ served.session = final.session) ∧
      ∃ reply, (2, reply) ∈ final.returned ∧ ∃ front request attempts back served,
        final.storeEvents = front ++ .serve request attempts :: back ∧
        Transition.run (Store.step {}) (Store.empty.recover 1) front = some served ∧
        reply = ((request.operation {}).run {} attempts served.session).reply := by
  have checked : (Transition.run (step {} (DatabaseCall.operation {}))
      (new 2 (Store.empty.recover 1).session) sampleClosed).map
        (fun final => (Dict.get? 2 final.returned).isSome) = some true := by decide +kernel
  rcases Option.map_eq_some_iff.mp checked with ⟨final, ran, found⟩
  rcases Option.isSome_iff_exists.mp found with ⟨reply, known⟩
  have member := Dict.mem_of_get? known
  have refined := run_refines {} 2 Store.empty 1 sampleClosed final (by decide) ran
  rcases refined.2 2 reply member with ⟨front, request, attempts, back, served, split, -, reached,
    same⟩
  exact ⟨final, ran, refined.1, reply, member, front, request, attempts, back, served, split,
    reached, same⟩

end DatabaseService

end PyDht
