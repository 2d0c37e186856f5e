import PyDht.JsonlWriter

set_option autoImplicit false

namespace PyDht

namespace JsonlWriter

variable {Record : Type}

/-- The thread does not look into the queue any more. -/
def gone (writer : JsonlWriter Record) : Bool :=
  match writer.thread with
  | .leaving | .ended => true
  | _ => false

/-- The next item of the queue is `stop`. -/
def stopNext (writer : JsonlWriter Record) : Bool :=
  match writer.queue.items with
  | .stop :: _ => true
  | _ => false

/-- Nobody enters the queue behind the last look of the thread at it, and the thread does not take
`stop` with somebody behind it who still waits. -/
def Heard (writer : JsonlWriter Record) : JsonlEvent Record → Prop
  | .put _ => writer.queue.full = false → writer.gone = false
  | .get => writer.stopNext = true →
      ∀ future ∈ writer.queued, future ∈ Dict.keys writer.outcomes
  | _ => True

instance decidableHeard (writer : JsonlWriter Record) :
    ∀ event : JsonlEvent Record, Decidable (Heard writer event)
  | .put _ => inferInstanceAs (Decidable (writer.queue.full = false → writer.gone = false))
  | .get => inferInstanceAs (Decidable (writer.stopNext = true →
      ∀ future ∈ writer.queued, future ∈ Dict.keys writer.outcomes))
  | .emit _ | .snapshot _ | .flush | .close | .cancel _ | .deliver | .resumeClose _ | .putStop
  | .cancelStop | .timeout | .complete | .fail | .drain | .finish => .isTrue trivial

/-- The future is done, or what it is to be done with is on its way. -/
def Answered (writer : JsonlWriter Record) (future : Nat) : Prop :=
  future ∈ Dict.keys writer.outcomes ∨ future ∈ Dict.keys writer.scheduled

/-- The thread comes to every future in the queue, until it looks into it no more. -/
structure Attended (writer : JsonlWriter Record) : Prop where
  served : ∀ future ∈ writer.enqueued,
    Answered writer future ∨ future ∈ writer.queued ∨ future ∈ writer.running
  left : writer.gone = true → ∀ future ∈ writer.enqueued, Answered writer future

theorem new_attended (capacity : Int) : Attended (new capacity : JsonlWriter Record) :=
  ⟨fun _ member => absurd member List.not_mem_nil, fun _ _ member => absurd member List.not_mem_nil⟩

theorem mem_keys_settle {future other : Nat} {outcome : Bool} {outcomes : List (Nat × Bool)} :
    other ∈ Dict.keys (settle future outcome outcomes) ↔
      other = future ∨ other ∈ Dict.keys outcomes := by
  unfold settle
  split
  · rename_i known
    constructor
    · exact .inr
    · intro either
      obtain rfl | member := either
      · exact known
      · exact member
  · simp [Dict.keys, or_comm]

section attended

variable {writer next : JsonlWriter Record}

/-- Futures are enqueued and answered, and nothing else changes about them. -/
theorem Attended.congr (attended : Attended writer) (enqueued : next.enqueued = writer.enqueued)
    (queued : ∀ future ∈ writer.queued, future ∈ next.queued)
    (thread : next.thread = writer.thread)
    (answered : ∀ future, Answered writer future → Answered next future) : Attended next := by
  have running : next.running = writer.running := by simp only [JsonlWriter.running, thread]
  have gone : next.gone = writer.gone := by simp only [JsonlWriter.gone, thread]
  constructor
  · intro future member
    rw [enqueued] at member
    obtain done | waits | runs := attended.served future member
    · exact .inl (answered future done)
    · exact .inr (.inl (queued future waits))
    · exact .inr (.inr (running ▸ runs))
  · intro left future member
    exact answered future (attended.left (gone ▸ left) future (enqueued ▸ member))

theorem Attended.request (attended : Attended writer) {item : Nat → JsonlItem Record}
    (taken : writer.request item = some next) : Attended next := by
  unfold JsonlWriter.request at taken
  split at taken <;> cases taken
  exact attended.congr rfl (fun _ => id) rfl (fun _ => id)

theorem mem_queued_put {queue changed : BoundedQueue (JsonlItem Record)}
    {item : JsonlItem Record} (put : queue.putNowait item = some changed) {future : Nat}
    (member : future ∈ queue.items.filterMap JsonlItem.future) :
    future ∈ changed.items.filterMap JsonlItem.future := by
  obtain ⟨-, rfl⟩ := BoundedQueue.putNowait_eq_some put
  rw [List.filterMap_append, List.mem_append]
  exact .inl member

theorem Attended.emit (attended : Attended writer) (record : Record) :
    Attended (writer.emit record).2 := by
  unfold JsonlWriter.emit
  split
  · exact attended
  · split
    · rename_i queue put
      exact attended.congr rfl (fun _ => mem_queued_put put) rfl (fun _ => id)
    · exact attended.congr rfl (fun _ => id) rfl (fun _ => id)

/-- A caller gets through to the queue while the thread still looks into it. -/
theorem Attended.put (attended : Attended writer) {future : Nat} {item : JsonlItem Record}
    {queue : BoundedQueue (JsonlItem Record)} (looks : writer.gone = false)
    (put : writer.queue.putNowait item = some queue) :
    Attended { writer with
      queue, putting := Dict.pop future writer.putting
      enqueued := writer.enqueued ++ item.future.toList } := by
  refine ⟨fun other member => ?_, fun left => absurd (looks.symm.trans left) Bool.false_ne_true⟩
  obtain older | newcomer := List.mem_append.mp member
  · obtain done | waits | runs := attended.served other older
    · exact .inl done
    · exact .inr (.inl (mem_queued_put put waits))
    · exact .inr (.inr runs)
  · obtain ⟨-, rfl⟩ := BoundedQueue.putNowait_eq_some put
    have own : item.future = some other := by simpa using newcomer
    refine .inr (.inl ?_)
    simp only [queued, List.filterMap_append, List.mem_append, List.mem_filterMap,
      List.mem_singleton]
    exact .inr ⟨item, rfl, own⟩

theorem Answered.settle {future other : Nat} {outcome : Bool} (answered : Answered writer other) :
    Answered { writer with outcomes := settle future outcome writer.outcomes } other :=
  answered.imp_left fun done => mem_keys_settle.mpr (.inr done)

theorem Attended.loopStep (attended : Attended writer) {event : JsonlEvent Record}
    (heard : Heard writer event) (taken : writer.loopStep event = some next) : Attended next := by
  cases event with
  | emit record =>
      cases taken
      exact attended.emit record
  | snapshot records => exact attended.request taken
  | flush => exact attended.request taken
  | close =>
      simp only [JsonlWriter.loopStep] at taken
      split at taken
      · cases taken
      · split at taken
        · cases taken
          exact attended.congr rfl (fun _ => id) rfl (fun _ => id)
        · obtain ⟨asked, requested, rfl⟩ := Option.map_eq_some_iff.mp taken
          exact (attended.request requested).congr rfl (fun _ => id) rfl (fun _ => id)
  | put future =>
      simp only [JsonlWriter.loopStep] at taken
      split at taken
      · cases taken
      · split at taken
        · cases taken
          exact attended
        · rename_i queue put
          cases taken
          exact attended.put (heard (BoundedQueue.putNowait_eq_some put).1) put
  | cancel future =>
      simp only [JsonlWriter.loopStep] at taken
      split at taken
      · cases taken
        exact attended.congr rfl (fun _ => id) rfl (fun _ => id)
      · split at taken <;> cases taken
        exact attended.congr rfl (fun _ => id) rfl (fun _ => Answered.settle)
  | deliver =>
      simp only [JsonlWriter.loopStep] at taken
      split at taken
      · cases taken
      · rename_i future outcome scheduled shape
        cases taken
        refine attended.congr rfl (fun _ => id) rfl fun other answered => ?_
        obtain done | handed := answered
        · exact .inl (mem_keys_settle.mpr (.inr done))
        · rw [shape] at handed
          obtain rfl | behind := List.mem_cons.mp handed
          · exact .inl (mem_keys_settle.mpr (.inl rfl))
          · exact .inr behind
  | resumeClose future =>
      simp only [JsonlWriter.loopStep] at taken
      split at taken
      · split at taken
        · cases taken
        · cases taken
          exact attended.congr rfl (fun _ => id) rfl (fun _ => id)
        · cases taken
          exact attended.congr rfl (fun _ => id) rfl (fun _ => id)
      · cases taken
  | putStop =>
      simp only [JsonlWriter.loopStep] at taken
      split at taken
      · split at taken
        · cases taken
          exact attended
        · rename_i queue put
          cases taken
          exact attended.congr rfl (fun _ => mem_queued_put put) rfl (fun _ => id)
      · cases taken
  | cancelStop =>
      simp only [JsonlWriter.loopStep] at taken
      split at taken <;> cases taken
      exact attended.congr rfl (fun _ => id) rfl (fun _ => id)
  | timeout => cases taken
  | get => cases taken
  | complete => cases taken
  | fail => cases taken
  | drain => cases taken
  | finish => cases taken

/-- The thread answers the item that it has taken. -/
theorem Attended.answered (attended : Attended writer) {item : JsonlItem Record} {outcome : Bool}
    {queue : BoundedQueue (JsonlItem Record)} {thread : JsonlThread Record}
    (places : ∀ future, future ∈ writer.queued ∨ future ∈ writer.running →
      item.future = some future ∨ future ∈ queue.items.filterMap JsonlItem.future)
    (looks : thread = .idle ∨ thread = .draining) :
    Attended { writer.handOver item outcome with queue, thread } := by
  have handed : ∀ future, Answered writer future ∨ item.future = some future →
      Answered { writer.handOver item outcome with queue, thread } future := by
    intro future either
    unfold Answered JsonlWriter.handOver
    split
    · rename_i nobody
      obtain done | own := either
      · exact done
      · rw [nobody] at own
        cases own
    · rename_i target own
      obtain (done | before) | same := either
      · exact .inl done
      · exact .inr (by simp only [Dict.keys, List.map_append, List.mem_append]; exact .inl before)
      · rw [own] at same
        cases same
        exact .inr (by simp [Dict.keys])
  constructor
  · intro future member
    have before : future ∈ writer.enqueued := by
      unfold JsonlWriter.handOver at member
      split at member <;> exact member
    obtain done | place := attended.served future before
    · exact .inl (handed future (.inl done))
    · obtain own | waits := places future place
      · exact .inl (handed future (.inr own))
      · exact .inr (.inl waits)
  · intro left
    obtain rfl | rfl := looks <;> cases left

/-- The thread leaves its loop when everyone in the queue is done. -/
theorem Attended.stopped (attended : Attended writer) {queue : BoundedQueue (JsonlItem Record)}
    (idle : writer.thread = .idle)
    (allDone : ∀ future ∈ writer.queued, future ∈ Dict.keys writer.outcomes) :
    Attended { writer with queue, thread := .leaving } := by
  have answered : ∀ future ∈ writer.enqueued, Answered writer future := by
    intro future member
    obtain done | waits | runs := attended.served future member
    · exact done
    · exact .inl (allDone future waits)
    · simp [running, idle] at runs
  exact ⟨fun future member => .inl (answered future member), fun _ => answered⟩

theorem queued_of_get {item : JsonlItem Record} {queue : BoundedQueue (JsonlItem Record)}
    (taken : writer.queue.get = some (item, queue)) {future : Nat}
    (waits : future ∈ writer.queued) :
    item.future = some future ∨ future ∈ queue.items.filterMap JsonlItem.future := by
  obtain ⟨shape, -⟩ := BoundedQueue.get_eq_some taken
  rw [queued, shape, List.filterMap_cons] at waits
  split at waits
  · exact .inr waits
  · rename_i own same
    obtain rfl | behind := List.mem_cons.mp waits
    · exact .inl same
    · exact .inr behind

/-- The thread takes something to work on. -/
theorem Attended.taken (attended : Attended writer) (idle : writer.thread = .idle)
    {item : JsonlItem Record} {queue : BoundedQueue (JsonlItem Record)}
    (taken : writer.queue.get = some (item, queue)) :
    Attended { writer with queue, thread := .executing item } := by
  refine ⟨fun future member => ?_, fun left => by cases left⟩
  obtain done | waits | runs := attended.served future member
  · exact .inl done
  · obtain own | behind := queued_of_get taken waits
    · exact .inr (.inr (by simp [running, own]))
    · exact .inr (.inl behind)
  · simp [running, idle] at runs

/-- The thread takes up or puts down work that is no future's. -/
theorem Attended.turned (attended : Attended writer) {thread : JsonlThread Record}
    {fatalError : Bool} (free : writer.running = [])
    (looks : ({ writer with thread } : JsonlWriter Record).gone = false) :
    Attended { writer with thread, fatalError } := by
  refine ⟨fun future member => ?_, fun left => absurd (looks.symm.trans left) Bool.false_ne_true⟩
  obtain done | waits | runs := attended.served future member
  · exact .inl done
  · exact .inr (.inl waits)
  · rw [free] at runs
    cases runs

/-- The thread is done with an item, and its future gets to know. -/
theorem Attended.worked (attended : Attended writer) {item : JsonlItem Record}
    (executes : writer.thread = .executing item) (outcome : Bool) :
    Attended { writer.handOver item outcome with thread := .idle } := by
  have changed : { writer.handOver item outcome with thread := .idle } =
      { writer.handOver item outcome with queue := writer.queue, thread := .idle } := by
    unfold handOver
    split <;> rfl
  rw [changed]
  refine attended.answered (fun future place => ?_) (.inl rfl)
  obtain waits | runs := place
  · exact .inr waits
  · exact .inl (by simpa [running, executes] using runs)

theorem Attended.drained (attended : Attended writer) (draining : writer.thread = .draining)
    (empty : writer.queue.get = none) : Attended { writer with thread := .leaving } := by
  have nobody : writer.queued = [] := by
    unfold BoundedQueue.get at empty
    split at empty
    · rename_i items
      simp [queued, items]
    · cases empty
  have answered : ∀ future ∈ writer.enqueued, Answered writer future := by
    intro future member
    obtain done | waits | runs := attended.served future member
    · exact done
    · rw [nobody] at waits
      cases waits
    · simp [running, draining] at runs
  exact ⟨fun future member => .inl (answered future member), fun _ => answered⟩

theorem Attended.threadStep (attended : Attended writer) {event : JsonlEvent Record}
    (heard : Heard writer event) (taken : writer.threadStep event = some next) :
    Attended next := by
  cases event with
  | timeout =>
      simp only [JsonlWriter.threadStep] at taken
      split at taken
      · rename_i idle
        split at taken <;> cases taken
        exact attended.turned (by simp [running, idle]) rfl
      · cases taken
  | get =>
      simp only [JsonlWriter.threadStep] at taken
      split at taken
      · rename_i idle
        obtain ⟨⟨item, queue⟩, found, rfl⟩ := Option.map_eq_some_iff.mp taken
        obtain ⟨shape, -⟩ := BoundedQueue.get_eq_some found
        cases item with
        | stop => exact attended.stopped idle (heard (by simp [stopNext, shape]))
        | event record => exact attended.taken idle found
        | snapshot records future => exact attended.taken idle found
        | flush future => exact attended.taken idle found
      · cases taken
  | complete =>
      simp only [JsonlWriter.threadStep] at taken
      split at taken
      · rename_i flushing
        cases taken
        exact attended.turned (by simp [running, flushing]) rfl
      · rename_i item executes
        cases taken
        exact attended.worked executes true
      · cases taken
  | fail =>
      simp only [JsonlWriter.threadStep] at taken
      split at taken
      · rename_i flushing
        cases taken
        exact attended.turned (by simp [running, flushing]) rfl
      · rename_i item executes
        split at taken
        · rename_i nobody
          cases taken
          exact attended.turned (by simp [running, executes, nobody]) rfl
        · cases taken
          exact attended.worked executes false
      · cases taken
  | drain =>
      simp only [JsonlWriter.threadStep] at taken
      split at taken
      · rename_i draining
        split at taken
        · rename_i empty
          cases taken
          exact attended.drained draining empty
        · rename_i item queue found
          cases taken
          have changed : { writer.handOver item false with queue } =
              { writer.handOver item false with queue, thread := .draining } := by
            unfold handOver
            split <;> simp only [draining]
          rw [changed]
          refine attended.answered (fun future place => ?_) (.inr rfl)
          obtain waits | runs := place
          · exact queued_of_get found waits
          · simp [running, draining] at runs
      · cases taken
  | finish =>
      simp only [JsonlWriter.threadStep] at taken
      split at taken
      · rename_i leaving
        cases taken
        have answered := attended.left (by simp [gone, leaving])
        exact ⟨fun future member => .inl (answered future member), fun _ => answered⟩
      · cases taken
  | emit record => cases taken
  | snapshot records => cases taken
  | flush => cases taken
  | close => cases taken
  | put future => cases taken
  | cancel future => cases taken
  | deliver => cases taken
  | resumeClose future => cases taken
  | putStop => cases taken
  | cancelStop => cases taken

theorem step_cases {event : JsonlEvent Record} (taken : writer.step event = some next) :
    writer.threadStep event = some next ∨ writer.loopStep event = some next := by
  unfold step at taken
  split at taken
  · rename_i found
    exact .inl (taken ▸ found)
  · split at taken
    · exact .inr taken
    · cases taken

/-- Where nobody enters the queue behind the last look of the thread, and nobody who waits stands
behind `stop`, an ended thread has left no future without an answer. -/
theorem run_releases_waiters (capacity : Int) (events : List (JsonlEvent Record))
    (final : JsonlWriter Record) (heard : Transition.Along Heard step (new capacity) events)
    (ran : Transition.run step (new capacity) events = some final)
    (ended : final.thread = .ended) :
    (∀ future ∈ final.enqueued, future ∈ Dict.keys final.outcomes ∨
        future ∈ Dict.keys final.scheduled) ∧
      (final.scheduled = [] → ∀ future ∈ final.enqueued, future ∈ Dict.keys final.outcomes) := by
  have attended := Transition.invariant_along Attended
    (fun _ _ _ attended heard taken => (step_cases taken).elim
      (fun thread => attended.threadStep heard thread)
      (fun loop => attended.loopStep heard loop)) heard ran (new_attended capacity)
  have answered := attended.left (by simp [gone, ended])
  refine ⟨answered, fun empty future member => ?_⟩
  obtain done | handed := answered future member
  · exact done
  · rw [empty] at handed
    cases handed

theorem run_releases_waiters_sample :
    ∃ final, Transition.run step (new 2 : JsonlWriter Nat)
        [.emit 1, .get, .flush, .put 0, .fail, .drain, .drain, .finish] = some final ∧
      (∀ future ∈ final.enqueued, future ∈ Dict.keys final.outcomes ∨
        future ∈ Dict.keys final.scheduled) ∧
      (final.scheduled = [] → ∀ future ∈ final.enqueued, future ∈ Dict.keys final.outcomes) :=
  ⟨_, rfl, run_releases_waiters 2
    [.emit 1, .get, .flush, .put 0, .fail, .drain, .drain, .finish] _ (by decide) rfl rfl⟩

/-- A caller of `flush` finds the queue full, and gets through when the thread has failed and
drained it: its future is done by nobody. -/
theorem waiter_left_behind :
    ∃ final, Transition.run step (new 1 : JsonlWriter Nat)
        [.emit 1, .get, .emit 2, .flush, .put 0, .fail, .drain, .drain, .finish, .put 0] =
          some final ∧
      final.thread = .ended ∧ 0 ∈ final.enqueued ∧ final.outcomes = [] ∧
      final.scheduled = [] :=
  ⟨_, rfl, rfl, List.mem_singleton_self 0, rfl, rfl⟩

end attended

end JsonlWriter

end PyDht
