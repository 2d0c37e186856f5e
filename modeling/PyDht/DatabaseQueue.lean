import PyDht.Config
import PyDht.Lib.Collections
import PyDht.Lib.Transition

set_option autoImplicit false

namespace PyDht

inductive WorkerThread where
  | idle
  | executing (call : Nat)
  /-- The loop is left, `_stopped` is not set yet. -/
  | leaving
  | stopped
deriving DecidableEq, Repr

/-- `DatabaseWorker` with its callers on the event loop, which are numbered in the order in which
they pass the checks of `call`. A queued `none` is the sentinel of `close`. -/
structure DatabaseQueue where
  queue : BoundedQueue (Option Nat)
  /-- Free slots of the semaphore. -/
  slots : Nat
  calls : Nat := 0
  /-- Callers that wait for a slot. -/
  acquiring : List Nat := []
  /-- Callers that hold a slot and wait for their future. -/
  awaiting : List Nat := []
  /-- Futures that are not done. -/
  unresolved : List Nat := []
  /-- Callers of `close` that wait for a slot. -/
  closing : Nat := 0
  /-- `close` holds the event loop in `_thread.join()`. -/
  joining : Bool := false
  thread : WorkerThread := .idle
  fatalError : Bool := false
  /-- What the thread has handed over with `call_soon_threadsafe`. -/
  scheduled : List Nat := []
  /-- `put_nowait` has raised `queue.Full`. -/
  overflowed : Bool := false
deriving DecidableEq, Repr

inductive QueueEvent where
  | call
  | acquire (call : Nat)
  | cancel (call : Nat)
  | resume (call : Nat)
  | deliver
  | close
  | cancelClose
  | putSentinel
  | get
  | complete
  | fail
  | crash
  | stop
deriving DecidableEq, Repr

namespace DatabaseQueue

/-- The worker after a successful `start`. -/
def new (capacity : Nat) : DatabaseQueue :=
  { queue := { maxsize := capacity }, slots := capacity }

/-- The event loop runs, unless it waits in `close` for the thread to end. -/
def loopRuns (state : DatabaseQueue) : Bool := !state.joining || state.thread = .stopped

/-- `put_nowait` of a caller that has just taken a slot. -/
def put (state : DatabaseQueue) (call : Nat) : DatabaseQueue :=
  match state.queue.putNowait (some call) with
  | some queue =>
      { state with
        queue, slots := state.slots - 1, acquiring := state.acquiring.erase call,
        awaiting := call :: state.awaiting, unresolved := call :: state.unresolved }
  | none => { state with acquiring := state.acquiring.erase call, overflowed := true }

/-- What the event loop does: `call` up to the semaphore, with the slot up to the future, the
cancellation of a caller, the way out of `call`, a scheduled callback, and the same for `close`. -/
def loopStep (state : DatabaseQueue) : QueueEvent → Option DatabaseQueue
  | .call =>
      if state.fatalError ∨ state.thread = .stopped then none
      else some { state with
        calls := state.calls + 1, acquiring := state.calls :: state.acquiring }
  | .acquire call =>
      if call ∈ state.acquiring ∧ 0 < state.slots then some (state.put call) else none
  | .cancel call =>
      if call ∈ state.acquiring then
        some { state with acquiring := state.acquiring.erase call }
      else if call ∈ state.awaiting then
        some { state with unresolved := state.unresolved.filter (· ≠ call) }
      else none
  | .resume call =>
      if call ∈ state.awaiting ∧ call ∉ state.unresolved then
        some { state with awaiting := state.awaiting.erase call, slots := state.slots + 1 }
      else none
  | .deliver =>
      match state.scheduled with
      | [] => none
      | call :: scheduled =>
          some { state with scheduled, unresolved := state.unresolved.filter (· ≠ call) }
  | .close =>
      if state.thread = .stopped then none else some { state with closing := state.closing + 1 }
  | .cancelClose =>
      if 0 < state.closing then some { state with closing := state.closing - 1 } else none
  | .putSentinel =>
      if 0 < state.closing ∧ 0 < state.slots then
        match state.queue.putNowait none with
        | some queue =>
            some { state with queue, closing := state.closing - 1, joining := true }
        | none => some { state with closing := state.closing - 1, overflowed := true }
      else none
  | _ => none

/-- What the thread does: `fail` is a fatal error that reaches the caller, `crash` one that only
the outermost handler catches. -/
def threadStep (state : DatabaseQueue) : QueueEvent → Option DatabaseQueue
  | .get =>
      if state.thread = .idle then
        state.queue.get.map fun (item, queue) =>
          match item with
          | none => { state with queue, thread := .leaving }
          | some call => { state with queue, thread := .executing call }
      else none
  | .complete =>
      match state.thread with
      | .executing call =>
          some { state with thread := .idle, scheduled := state.scheduled ++ [call] }
      | _ => none
  | .fail =>
      match state.thread with
      | .executing call =>
          some { state with
            thread := .leaving, fatalError := true, scheduled := state.scheduled ++ [call] }
      | _ => none
  | .crash =>
      match state.thread with
      | .executing _ => some { state with thread := .leaving, fatalError := true }
      | _ => none
  | .stop => if state.thread = .leaving then some { state with thread := .stopped } else none
  | _ => none

/-- A step of the event loop or of the thread, whichever the event belongs to. -/
def step (state : DatabaseQueue) (event : QueueEvent) : Option DatabaseQueue :=
  match state.threadStep event with
  | some next => some next
  | none => if state.loopRuns then state.loopStep event else none

/-- The calls whose operation lies in the queue. -/
def queued (state : DatabaseQueue) : List Nat := state.queue.items.filterMap id

/-- The call whose operation the thread executes. -/
def running (state : DatabaseQueue) : List Nat :=
  match state.thread with
  | .executing call => [call]
  | _ => []

end DatabaseQueue

end PyDht
