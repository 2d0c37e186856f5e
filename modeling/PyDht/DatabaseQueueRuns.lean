import PyDht.DatabaseQueue
import Mathlib.Data.List.Perm.Subperm

set_option autoImplicit false

namespace PyDht

namespace DatabaseQueue

/-- Nobody gives a slot back while the operation it was taken for waits in the queue, and
something is put into the queue only with more slots free than sentinels lie in it. -/
def Orderly (state : DatabaseQueue) : QueueEvent → Prop
  | .resume call => call ∉ state.queued
  | .acquire _ | .putSentinel => state.queue.items.count none < state.slots
  | _ => True

instance decidableOrderly (state : DatabaseQueue) :
    ∀ event : QueueEvent, Decidable (Orderly state event)
  | .resume call => inferInstanceAs (Decidable (call ∉ state.queued))
  | .acquire _ | .putSentinel =>
      inferInstanceAs (Decidable (state.queue.items.count none < state.slots))
  | .call | .cancel _ | .deliver | .close | .cancelClose | .get | .complete | .fail | .crash
  | .stop => .isTrue trivial

/-- The thread leaves its loop only when no queued operation has a caller that
still waits, its last error reaches the caller, and no operation is queued later. -/
def Drained (state : DatabaseQueue) : QueueEvent → Prop
  | .get => state.queue.items.head? = some none → ∀ call ∈ state.queued, call ∉ state.unresolved
  | .fail => ∀ call ∈ state.queued, call ∉ state.unresolved
  | .crash => ∀ call ∈ state.queued ++ state.running, call ∉ state.unresolved
  | .acquire _ => state.thread ≠ .leaving ∧ state.thread ≠ .stopped
  | _ => True

instance decidableDrained (state : DatabaseQueue) :
    ∀ event : QueueEvent, Decidable (Drained state event)
  | .get => inferInstanceAs (Decidable
      (state.queue.items.head? = some none → ∀ call ∈ state.queued, call ∉ state.unresolved))
  | .fail => inferInstanceAs (Decidable (∀ call ∈ state.queued, call ∉ state.unresolved))
  | .crash =>
      inferInstanceAs (Decidable (∀ call ∈ state.queued ++ state.running, call ∉ state.unresolved))
  | .acquire _ => inferInstanceAs (Decidable (state.thread ≠ .leaving ∧ state.thread ≠ .stopped))
  | .call | .cancel _ | .resume _ | .deliver | .close | .cancelClose | .putSentinel | .complete
  | .stop => .isTrue trivial

/-- Every queued operation belongs to a caller that holds a slot for it. -/
structure Held (capacity : Nat) (state : DatabaseQueue) : Prop where
  bound : state.queue.maxsize = capacity
  slots : state.slots + state.awaiting.length = capacity
  callers : (state.acquiring ++ state.awaiting).Nodup
  issued : ∀ call ∈ state.acquiring ++ state.awaiting, call < state.calls
  queuedOnce : state.queued.Nodup
  holder : ∀ call ∈ state.queued, call ∈ state.awaiting
  fits : state.overflowed = false

section held

variable {capacity : Nat} {state next : DatabaseQueue}

theorem items_length (state : DatabaseQueue) :
    state.queue.items.length = state.queued.length + state.queue.items.count none := by
  unfold queued
  induction state.queue.items with
  | nil => rfl
  | cons item items ih =>
      cases item with
      | none =>
          simp only [List.filterMap_cons, id, List.length_cons, List.count_cons_self, ih]
          omega
      | some call =>
          simp only [List.filterMap_cons, id, List.length_cons, ih,
            List.count_cons_of_ne (Option.some_ne_none call)]
          omega

theorem Held.queued_le (held : Held capacity state) :
    state.queued.length ≤ state.awaiting.length :=
  (List.subperm_of_subset held.queuedOnce held.holder).length_le

/-- With more free slots than sentinels there is room in the queue. -/
theorem Held.room (held : Held capacity state)
    (free : state.queue.items.count none < state.slots) : state.queue.full = false := by
  have fewer := held.queued_le
  have slots := held.slots
  have bound := held.bound
  simp only [BoundedQueue.full, items_length state, decide_eq_false_iff_not, not_and]
  omega

theorem new_held (capacity : Nat) : Held capacity (new capacity) := by
  refine ⟨rfl, by simp [new], by simp [new], by simp [new], by simp [new, queued],
    by simp [new, queued], rfl⟩

theorem Held.put (held : Held capacity state) {call : Nat}
    (waiting : call ∈ state.acquiring) (free : state.queue.items.count none < state.slots) :
    Held capacity (state.put call) := by
  have room := held.room free
  obtain ⟨bound, slots, callers, issued, queuedOnce, holder, fits⟩ := held
  have moved : (state.acquiring.erase call ++ call :: state.awaiting).Perm
      (state.acquiring ++ state.awaiting) :=
    List.perm_middle.trans ((List.perm_cons_erase waiting).symm.append_right _)
  have newcomer : call ∉ state.queued := fun member =>
    (List.nodup_append.mp callers).2.2 call waiting call (holder call member) rfl
  have entered : (state.put call).queued = state.queued ++ [call] := by
    simp [DatabaseQueue.put, BoundedQueue.putNowait, room, queued]
  have shape : state.put call = { state with
      queue := { state.queue with items := state.queue.items ++ [some call] },
      slots := state.slots - 1, acquiring := state.acquiring.erase call,
      awaiting := call :: state.awaiting, unresolved := call :: state.unresolved } := by
    simp [DatabaseQueue.put, BoundedQueue.putNowait, room]
  refine ⟨?_, ?_, ?_, ?_, ?_, ?_, ?_⟩
  · rw [shape]
    exact bound
  · rw [shape]
    simp only [List.length_cons]
    omega
  · rw [shape]
    exact moved.nodup_iff.mpr callers
  · rw [shape]
    intro other member
    exact issued other (moved.subset member)
  · rw [entered]
    exact List.nodup_append.mpr ⟨queuedOnce, by simp, by
      rintro first inside second isCall rfl
      exact newcomer (List.mem_singleton.mp isCall ▸ inside)⟩
  · rw [entered]
    intro other member
    rw [shape]
    rcases List.mem_append.mp member with before | isCall
    · exact List.mem_cons_of_mem _ (holder other before)
    · rw [List.mem_singleton.mp isCall]
      exact List.mem_cons_self
  · rw [shape]
    exact fits

/-- Leaving the state of the queue and of its slot holders as it is keeps `Held`. -/
theorem Held.congr (held : Held capacity state)
    (queue : next.queue = state.queue) (slots : next.slots = state.slots)
    (acquiring : next.acquiring.Sublist state.acquiring)
    (awaiting : next.awaiting = state.awaiting) (calls : next.calls = state.calls)
    (overflowed : next.overflowed = state.overflowed) : Held capacity next := by
  have queued : next.queued = state.queued := by simp only [DatabaseQueue.queued, queue]
  have callers := acquiring.append_right state.awaiting
  refine ⟨by rw [queue]; exact held.bound, by rw [slots, awaiting]; exact held.slots,
    ?_, ?_, ?_, ?_, ?_⟩
  · rw [awaiting]
    exact held.callers.sublist callers
  · rw [awaiting, calls]
    exact fun call member => held.issued call (callers.subset member)
  · rw [queued]
    exact held.queuedOnce
  · rw [queued, awaiting]
    exact held.holder
  · rw [overflowed]
    exact held.fits

theorem Held.loopStep (held : Held capacity state) {event : QueueEvent}
    (orderly : Orderly state event) (taken : state.loopStep event = some next) :
    Held capacity next := by
  cases event with
  | call =>
      simp only [DatabaseQueue.loopStep] at taken
      split at taken
      · simp at taken
      · obtain rfl := Option.some.inj taken
        obtain ⟨bound, slots, callers, issued, queuedOnce, holder, fits⟩ := held
        refine ⟨bound, slots, ?_, ?_, queuedOnce, holder, fits⟩
        · rw [List.cons_append, List.nodup_cons]
          exact ⟨fun member => Nat.lt_irrefl _ (issued _ member), callers⟩
        · intro other member
          rcases List.mem_cons.mp member with rfl | older
          · exact Nat.lt_succ_self _
          · exact Nat.lt_succ_of_lt (issued other older)
  | acquire call =>
      simp only [DatabaseQueue.loopStep] at taken
      split at taken
      · rename_i ready
        exact Option.some.inj taken ▸ held.put ready.1 orderly
      · simp at taken
  | cancel call =>
      simp only [DatabaseQueue.loopStep] at taken
      split at taken
      · obtain rfl := Option.some.inj taken
        exact held.congr rfl rfl List.erase_sublist rfl rfl rfl
      · split at taken
        · obtain rfl := Option.some.inj taken
          exact held.congr rfl rfl (List.Sublist.refl _) rfl rfl rfl
        · simp at taken
  | resume call =>
      simp only [DatabaseQueue.loopStep] at taken
      split at taken
      · rename_i done
        obtain rfl := Option.some.inj taken
        obtain ⟨bound, slots, callers, issued, queuedOnce, holder, fits⟩ := held
        have shorter := (List.erase_sublist (a := call) (l := state.awaiting)).append_left
          state.acquiring
        refine ⟨bound, ?_, callers.sublist shorter, fun other member => issued other
          (shorter.subset member), queuedOnce, fun other member => ?_, fits⟩
        · have length := List.length_erase_of_mem done.1
          have positive := List.length_pos_of_mem done.1
          simp only [length]
          omega
        · have different : other ≠ call := fun same => orderly (same ▸ member)
          exact (List.mem_erase_of_ne different).mpr (holder other member)
      · simp at taken
  | deliver =>
      simp only [DatabaseQueue.loopStep] at taken
      split at taken
      · simp at taken
      · obtain rfl := Option.some.inj taken
        exact held.congr rfl rfl (List.Sublist.refl _) rfl rfl rfl
  | close =>
      simp only [DatabaseQueue.loopStep] at taken
      split at taken
      · simp at taken
      · obtain rfl := Option.some.inj taken
        exact held.congr rfl rfl (List.Sublist.refl _) rfl rfl rfl
  | cancelClose =>
      simp only [DatabaseQueue.loopStep] at taken
      split at taken
      · obtain rfl := Option.some.inj taken
        exact held.congr rfl rfl (List.Sublist.refl _) rfl rfl rfl
      · simp at taken
  | putSentinel =>
      simp only [DatabaseQueue.loopStep] at taken
      split at taken
      · have room := held.room orderly
        simp only [BoundedQueue.putNowait, room, Bool.false_eq_true, if_false] at taken
        obtain rfl := Option.some.inj taken
        obtain ⟨bound, slots, callers, issued, queuedOnce, holder, fits⟩ := held
        have unchanged : (state.queue.items ++ [none]).filterMap id = state.queued := by
          simp [queued]
        exact ⟨bound, slots, callers, issued, by rw [queued, unchanged]; exact queuedOnce,
          by rw [queued, unchanged]; exact holder, fits⟩
      · simp at taken
  | get => simp [DatabaseQueue.loopStep] at taken
  | complete => simp [DatabaseQueue.loopStep] at taken
  | fail => simp [DatabaseQueue.loopStep] at taken
  | crash => simp [DatabaseQueue.loopStep] at taken
  | stop => simp [DatabaseQueue.loopStep] at taken

theorem Held.get (held : Held capacity state) {item : Option Nat}
    {queue : BoundedQueue (Option Nat)} (taken : state.queue.get = some (item, queue))
    (thread : WorkerThread) : Held capacity { state with queue, thread } := by
  obtain ⟨shape, bound⟩ := BoundedQueue.get_eq_some taken
  have fewer : (queue.items.filterMap id).Sublist state.queued := by
    rw [queued, shape]
    exact (List.sublist_cons_self item queue.items).filterMap id
  exact ⟨bound.trans held.bound, held.slots, held.callers, held.issued,
    held.queuedOnce.sublist fewer, fun call member => held.holder call (fewer.subset member),
    held.fits⟩

theorem Held.threadStep (held : Held capacity state) {event : QueueEvent}
    (taken : state.threadStep event = some next) : Held capacity next := by
  have unchanged : ∀ thread fatalError scheduled,
      Held capacity { state with thread, fatalError, scheduled } := fun _ _ _ =>
    held.congr rfl rfl (List.Sublist.refl _) rfl rfl rfl
  cases event with
  | get =>
      simp only [DatabaseQueue.threadStep] at taken
      split at taken
      · obtain ⟨⟨item, queue⟩, found, rfl⟩ := Option.map_eq_some_iff.mp taken
        cases item with
        | none => exact held.get found .leaving
        | some call => exact held.get found (.executing call)
      · simp at taken
  | complete =>
      simp only [DatabaseQueue.threadStep] at taken
      split at taken
      · exact Option.some.inj taken ▸ unchanged _ _ _
      · simp at taken
  | fail =>
      simp only [DatabaseQueue.threadStep] at taken
      split at taken
      · exact Option.some.inj taken ▸ unchanged _ _ _
      · simp at taken
  | crash =>
      simp only [DatabaseQueue.threadStep] at taken
      split at taken
      · exact Option.some.inj taken ▸ unchanged _ _ _
      · simp at taken
  | stop =>
      simp only [DatabaseQueue.threadStep] at taken
      split at taken
      · exact Option.some.inj taken ▸ unchanged _ _ _
      · simp at taken
  | call => simp [DatabaseQueue.threadStep] at taken
  | acquire call => simp [DatabaseQueue.threadStep] at taken
  | cancel call => simp [DatabaseQueue.threadStep] at taken
  | resume call => simp [DatabaseQueue.threadStep] at taken
  | deliver => simp [DatabaseQueue.threadStep] at taken
  | close => simp [DatabaseQueue.threadStep] at taken
  | cancelClose => simp [DatabaseQueue.threadStep] at taken
  | putSentinel => simp [DatabaseQueue.threadStep] at taken

theorem step_cases {event : QueueEvent} (taken : state.step event = some next) :
    state.threadStep event = some next ∨ state.loopStep event = some next := by
  unfold step at taken
  split at taken
  · rename_i found
    exact .inl (taken ▸ found)
  · split at taken
    · exact .inr taken
    · simp at taken

theorem Held.step (held : Held capacity state) {event : QueueEvent}
    (orderly : Orderly state event) (taken : state.step event = some next) :
    Held capacity next := by
  rcases step_cases taken with thread | loop
  · exact held.threadStep thread
  · exact held.loopStep orderly loop

/-- In every run without a caller that gives its slot back before its operation has left the
queue, and with a slot to spare for each sentinel, `put_nowait` never finds the queue full. -/
theorem run_never_full (capacity : Nat) (events : List QueueEvent) (final : DatabaseQueue)
    (orderly : Transition.Along Orderly step (new capacity) events)
    (ran : Transition.run step (new capacity) events = some final) :
    final.overflowed = false ∧ final.queued.length + final.slots ≤ capacity := by
  have held := Transition.invariant_along (Held capacity)
    (fun _ _ _ held orderly taken => held.step orderly taken) orderly ran (new_held capacity)
  have fewer := held.queued_le
  have slots := held.slots
  exact ⟨held.fits, by omega⟩

/-- One call from its slot to its result, then `close`. -/
theorem run_never_full_sample :
    ∃ final, Transition.run step (new 1) [.call, .acquire 0, .get, .complete, .deliver, .resume 0,
        .close, .putSentinel, .get, .stop] = some final ∧
      final.overflowed = false ∧ final.queued.length + final.slots ≤ 1 := by
  refine (Option.isSome_iff_exists.mp ?_).imp fun final ran =>
    ⟨ran, run_never_full 1 _ final (by decide) ran⟩
  rfl

/-- The first caller is cancelled, its slot goes to the second one, and the queue of size one
still holds the first operation. -/
theorem overflow_after_cancel :
    ¬ ∀ (capacity : Nat) (events : List QueueEvent) (final : DatabaseQueue), 1 ≤ capacity →
      Transition.run step (new capacity) events = some final →
        final.overflowed = false ∧ final.queued.length + final.slots ≤ capacity := by
  intro claimed
  have overflowed := (claimed 1 [.call, .acquire 0, .cancel 0, .resume 0, .call, .acquire 1] _
    (Nat.le_refl 1) rfl).1
  exact absurd overflowed (by decide)

end held

section answered

variable {state next : DatabaseQueue}

/-- The thread has left its loop. -/
def Gone (state : DatabaseQueue) : Prop := state.thread = .leaving ∨ state.thread = .stopped

/-- Where the reply to an open future is to come from: the queue or the thread, as long as the
thread is in its loop, and what it has handed over already. -/
structure Answered (state : DatabaseQueue) : Prop where
  served : ∀ call ∈ state.unresolved,
    call ∈ state.queued ∨ call ∈ state.running ∨ call ∈ state.scheduled
  gone : Gone state → ∀ call ∈ state.unresolved, call ∈ state.scheduled

theorem new_answered (capacity : Nat) : Answered (new capacity) :=
  ⟨by simp [new], by simp [new]⟩

/-- Fewer open futures, with thread, queue and replies as they are. -/
theorem Answered.fewer (answered : Answered state)
    (unresolved : ∀ call ∈ next.unresolved, call ∈ state.unresolved)
    (queued : next.queued = state.queued) (thread : next.thread = state.thread)
    (scheduled : ∀ call ∈ next.unresolved, call ∈ state.scheduled → call ∈ next.scheduled) :
    Answered next := by
  have running : next.running = state.running := by simp only [DatabaseQueue.running, thread]
  constructor
  · intro call member
    rw [queued, running]
    exact (answered.served call (unresolved call member)).imp_right
      (Or.imp_right (scheduled call member))
  · intro left call member
    rw [Gone, thread] at left
    exact scheduled call member (answered.gone left call (unresolved call member))

theorem Answered.put (answered : Answered state) (call : Nat)
    (stays : state.thread ≠ .leaving ∧ state.thread ≠ .stopped) : Answered (state.put call) := by
  have inLoop : ¬ Gone (state.put call) := by
    have same : (state.put call).thread = state.thread := by
      unfold DatabaseQueue.put
      split <;> rfl
    rw [Gone, same, not_or]
    exact stays
  refine ⟨?_, fun left => absurd left inLoop⟩
  unfold DatabaseQueue.put
  split
  · rename_i queue accepted
    obtain ⟨-, rfl⟩ := BoundedQueue.putNowait_eq_some accepted
    intro other member
    rcases List.mem_cons.mp member with rfl | older
    · exact .inl (by simp [queued])
    · refine (answered.served other older).imp_left fun waits => ?_
      simp only [queued, List.filterMap_append, List.mem_append] at waits ⊢
      exact .inl waits
  · exact answered.served

theorem Answered.loopStep (answered : Answered state) {event : QueueEvent}
    (drained : Drained state event) (taken : state.loopStep event = some next) :
    Answered next := by
  cases event with
  | call =>
      simp only [DatabaseQueue.loopStep] at taken
      split at taken
      · simp at taken
      · exact Option.some.inj taken ▸ answered.fewer (fun _ => id) rfl rfl (fun _ _ => id)
  | acquire call =>
      simp only [DatabaseQueue.loopStep] at taken
      split at taken
      · exact Option.some.inj taken ▸ answered.put call drained
      · simp at taken
  | cancel call =>
      simp only [DatabaseQueue.loopStep] at taken
      split at taken
      · exact Option.some.inj taken ▸ answered.fewer (fun _ => id) rfl rfl (fun _ _ => id)
      · split at taken
        · exact Option.some.inj taken ▸ answered.fewer
            (fun _ member => (List.mem_filter.mp member).1) rfl rfl (fun _ _ => id)
        · simp at taken
  | resume call =>
      simp only [DatabaseQueue.loopStep] at taken
      split at taken
      · exact Option.some.inj taken ▸ answered.fewer (fun _ => id) rfl rfl (fun _ _ => id)
      · simp at taken
  | deliver =>
      simp only [DatabaseQueue.loopStep] at taken
      split at taken
      · simp at taken
      · rename_i call scheduled shape
        refine Option.some.inj taken ▸ answered.fewer
          (fun _ member => (List.mem_filter.mp member).1) rfl rfl fun other member isScheduled => ?_
        have different := (List.mem_filter.mp member).2
        rw [shape] at isScheduled
        exact (List.mem_cons.mp isScheduled).resolve_left (by simpa using different)
  | close =>
      simp only [DatabaseQueue.loopStep] at taken
      split at taken
      · simp at taken
      · exact Option.some.inj taken ▸ answered.fewer (fun _ => id) rfl rfl (fun _ _ => id)
  | cancelClose =>
      simp only [DatabaseQueue.loopStep] at taken
      split at taken
      · exact Option.some.inj taken ▸ answered.fewer (fun _ => id) rfl rfl (fun _ _ => id)
      · simp at taken
  | putSentinel =>
      simp only [DatabaseQueue.loopStep] at taken
      split at taken
      · split at taken
        · rename_i queue accepted
          obtain ⟨-, rfl⟩ := BoundedQueue.putNowait_eq_some accepted
          exact Option.some.inj taken ▸ answered.fewer (fun _ => id) (by simp [queued]) rfl
            (fun _ _ => id)
        · exact Option.some.inj taken ▸ answered.fewer (fun _ => id) rfl rfl (fun _ _ => id)
      · simp at taken
  | get => simp [DatabaseQueue.loopStep] at taken
  | complete => simp [DatabaseQueue.loopStep] at taken
  | fail => simp [DatabaseQueue.loopStep] at taken
  | crash => simp [DatabaseQueue.loopStep] at taken
  | stop => simp [DatabaseQueue.loopStep] at taken

theorem Answered.getSentinel (answered : Answered state) (idle : state.thread = .idle)
    (drained : Drained state .get) {queue : BoundedQueue (Option Nat)}
    (taken : state.queue.get = some (none, queue)) :
    Answered { state with queue, thread := .leaving } := by
  obtain ⟨shape, -⟩ := BoundedQueue.get_eq_some taken
  have handed : ∀ call ∈ state.unresolved, call ∈ state.scheduled := by
    intro call member
    rcases answered.served call member with waits | runs | handed
    · exact absurd member (drained (by simp [shape]) call waits)
    · simp [running, idle] at runs
    · exact handed
  exact ⟨fun call member => .inr (.inr (handed call member)), fun _ => handed⟩

theorem Answered.getCall (answered : Answered state) (idle : state.thread = .idle) {call : Nat}
    {queue : BoundedQueue (Option Nat)} (taken : state.queue.get = some (some call, queue)) :
    Answered { state with queue, thread := .executing call } := by
  obtain ⟨shape, -⟩ := BoundedQueue.get_eq_some taken
  refine ⟨fun other member => ?_, fun left => by simp [Gone] at left⟩
  rcases answered.served other member with waits | runs | handed
  · rw [queued, shape, List.filterMap_cons] at waits
    rcases List.mem_cons.mp waits with rfl | behind
    · exact .inr (.inl (by simp [running]))
    · exact .inl behind
  · simp [running, idle] at runs
  · exact .inr (.inr handed)

theorem Answered.threadStep (answered : Answered state) {event : QueueEvent}
    (drained : Drained state event) (taken : state.threadStep event = some next) :
    Answered next := by
  cases event with
  | get =>
      simp only [DatabaseQueue.threadStep] at taken
      split at taken
      · rename_i idle
        obtain ⟨⟨item, queue⟩, found, rfl⟩ := Option.map_eq_some_iff.mp taken
        cases item with
        | none => exact answered.getSentinel idle drained found
        | some call => exact answered.getCall idle found
      · simp at taken
  | complete =>
      simp only [DatabaseQueue.threadStep] at taken
      split at taken
      · rename_i call executes
        obtain rfl := Option.some.inj taken
        refine ⟨fun other member => ?_, fun left => by simp [Gone] at left⟩
        rcases answered.served other member with waits | runs | handed
        · exact .inl waits
        · exact .inr (.inr (List.mem_append_right _ (by simpa [running, executes] using runs)))
        · exact .inr (.inr (List.mem_append_left _ handed))
      · simp at taken
  | fail =>
      simp only [DatabaseQueue.threadStep] at taken
      split at taken
      · rename_i call executes
        obtain rfl := Option.some.inj taken
        have handed : ∀ other ∈ state.unresolved, other ∈ state.scheduled ++ [call] := by
          intro other member
          rcases answered.served other member with waits | runs | before
          · exact absurd member (drained other waits)
          · exact List.mem_append_right _ (by simpa [running, executes] using runs)
          · exact List.mem_append_left _ before
        exact ⟨fun other member => .inr (.inr (handed other member)), fun _ => handed⟩
      · simp at taken
  | crash =>
      simp only [DatabaseQueue.threadStep] at taken
      split at taken
      · obtain rfl := Option.some.inj taken
        have handed : ∀ other ∈ state.unresolved, other ∈ state.scheduled := by
          intro other member
          rcases answered.served other member with waits | runs | before
          · exact absurd member (drained other (List.mem_append_left _ waits))
          · exact absurd member (drained other (List.mem_append_right _ runs))
          · exact before
        exact ⟨fun other member => .inr (.inr (handed other member)), fun _ => handed⟩
      · simp at taken
  | stop =>
      simp only [DatabaseQueue.threadStep] at taken
      split at taken
      · rename_i leaving
        obtain rfl := Option.some.inj taken
        have handed := answered.gone (.inl leaving)
        exact ⟨fun other member => .inr (.inr (handed other member)), fun _ => handed⟩
      · simp at taken
  | call => simp [DatabaseQueue.threadStep] at taken
  | acquire call => simp [DatabaseQueue.threadStep] at taken
  | cancel call => simp [DatabaseQueue.threadStep] at taken
  | resume call => simp [DatabaseQueue.threadStep] at taken
  | deliver => simp [DatabaseQueue.threadStep] at taken
  | close => simp [DatabaseQueue.threadStep] at taken
  | cancelClose => simp [DatabaseQueue.threadStep] at taken
  | putSentinel => simp [DatabaseQueue.threadStep] at taken

/-- Where the thread leaves its loop only over a drained queue and nothing is queued behind it, a
stopped thread has replied to everyone: each future that is still open has its reply scheduled. -/
theorem run_answers (capacity : Nat) (events : List QueueEvent) (final : DatabaseQueue)
    (drained : Transition.Along Drained step (new capacity) events)
    (ran : Transition.run step (new capacity) events = some final)
    (stopped : final.thread = .stopped) :
    (∀ call ∈ final.unresolved, call ∈ final.scheduled) ∧
      (final.scheduled = [] → final.unresolved = []) := by
  have answered := Transition.invariant_along Answered
    (fun _ _ _ answered drained taken => (step_cases taken).elim
      (fun thread => answered.threadStep drained thread)
      (fun loop => answered.loopStep drained loop)) drained ran (new_answered capacity)
  have handed := answered.gone (.inr stopped)
  refine ⟨handed, fun empty => List.eq_nil_iff_forall_not_mem.mpr fun call member => ?_⟩
  simpa [empty] using handed call member

theorem run_answers_sample :
    ∃ final, Transition.run step (new 2) [.call, .acquire 0, .get, .fail, .stop] = some final ∧
      (∀ call ∈ final.unresolved, call ∈ final.scheduled) ∧
      (final.scheduled = [] → final.unresolved = []) :=
  ⟨_, rfl, run_answers 2 [.call, .acquire 0, .get, .fail, .stop] _ (by decide) rfl rfl⟩

/-- The operation of the second call waits in the queue while the first one fails fatally. -/
theorem unanswered_behind_failure :
    ¬ ∀ (capacity : Nat) (events : List QueueEvent) (final : DatabaseQueue),
      Transition.run step (new capacity) events = some final → final.thread = .stopped →
        ∀ call ∈ final.unresolved, call ∈ final.scheduled := by
  intro claimed
  have scheduled := claimed 2
    [.call, .acquire 0, .get, .call, .acquire 1, .fail, .stop, .deliver, .resume 0] _ rfl rfl 1
    (by decide)
  exact absurd scheduled (by decide)

end answered

end DatabaseQueue

end PyDht
