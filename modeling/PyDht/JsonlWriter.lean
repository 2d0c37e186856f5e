import PyDht.Lib.Collections
import PyDht.Lib.Transition

set_option autoImplicit false

namespace PyDht

/-- What lies in the queue of the writer. The futures of snapshots and flushes are numbered. -/
inductive JsonlItem (Record : Type) where
  | event (record : Record)
  | snapshot (records : List Record) (future : Nat)
  | flush (future : Nat)
  | stop
deriving DecidableEq, Repr

def JsonlItem.future {Record : Type} : JsonlItem Record → Option Nat
  | .snapshot _ future | .flush future => some future
  | .event _ | .stop => none

inductive JsonlThread (Record : Type) where
  | idle
  /-- The queue has stayed empty, and the file is flushed. -/
  | flushing
  | executing (item : JsonlItem Record)
  /-- `_fatal_error` is set, and queued waiters are failed. -/
  | draining
  | leaving
  | ended
deriving DecidableEq, Repr

/-- `JSONLWriter` with its callers on the event loop. -/
structure JsonlWriter (Record : Type) where
  queue : BoundedQueue (JsonlItem Record)
  droppedEvents : Nat := 0
  stopping : Bool := false
  fatalError : Bool := false
  /-- The number of futures made so far. -/
  futures : Nat := 0
  /-- Callers in a loop around `put_nowait`, each by its future with what it puts. -/
  putting : List (Nat × JsonlItem Record) := []
  /-- The futures that were put into the queue. -/
  enqueued : List Nat := []
  /-- The futures that are done; `true` stands for a result. -/
  outcomes : List (Nat × Bool) := []
  /-- What the thread has handed over with `call_soon_threadsafe`. -/
  scheduled : List (Nat × Bool) := []
  /-- The flushes that callers of `close` wait for. -/
  closing : List Nat := []
  /-- Callers of `close` in the loop that puts `stop`. -/
  sentinels : Nat := 0
  /-- `close` holds the event loop in `_thread.join()`. -/
  joining : Bool := false
  thread : JsonlThread Record := .idle
deriving DecidableEq, Repr

inductive JsonlEvent (Record : Type) where
  | emit (record : Record)
  | snapshot (records : List Record)
  | flush
  | close
  | put (future : Nat)
  | cancel (future : Nat)
  | deliver
  | resumeClose (future : Nat)
  | putStop
  | cancelStop
  | timeout
  | get
  | complete
  | fail
  | drain
  | finish
deriving DecidableEq, Repr

namespace JsonlWriter

variable {Record : Type}

/-- The writer after a successful `start`. -/
def new (capacity : Int) : JsonlWriter Record := { queue := { maxsize := capacity } }

def emit (record : Record) (writer : JsonlWriter Record) : Bool × JsonlWriter Record :=
  if writer.fatalError || writer.stopping then (false, writer)
  else
    match writer.queue.putNowait (.event record) with
    | some queue => (true, { writer with queue })
    | none => (false, { writer with droppedEvents := writer.droppedEvents + 1 })

/-- `snapshot` and `flush` up to the loop around `put_nowait`. -/
def request (item : Nat → JsonlItem Record) (writer : JsonlWriter Record) :
    Option (JsonlWriter Record) :=
  if writer.fatalError then none
  else
    some { writer with
      futures := writer.futures + 1
      putting := writer.putting ++ [(writer.futures, item writer.futures)] }

/-- `_future_set_result` and `_future_set_exception`. -/
def settle (future : Nat) (outcome : Bool) (outcomes : List (Nat × Bool)) : List (Nat × Bool) :=
  if future ∈ Dict.keys outcomes then outcomes else outcomes ++ [(future, outcome)]

/-- The event loop runs, unless it waits in `close` for the thread to end. -/
def loopRuns (writer : JsonlWriter Record) : Bool :=
  match writer.thread with
  | .ended => true
  | _ => !writer.joining

/-- What the event loop does. -/
def loopStep (writer : JsonlWriter Record) : JsonlEvent Record → Option (JsonlWriter Record)
  | .emit record => some (writer.emit record).2
  | .snapshot records => writer.request (.snapshot records)
  | .flush => writer.request .flush
  | .close =>
      if writer.stopping then none
      else if writer.fatalError then some { writer with stopping := true, joining := true }
      else
        (writer.request .flush).map fun next =>
          { next with closing := writer.futures :: next.closing }
  | .put future =>
      match Dict.get? future writer.putting with
      | none => none
      | some item =>
          match writer.queue.putNowait item with
          -- the caller sleeps and tries again
          | none => some writer
          | some queue =>
              some { writer with
                queue, putting := Dict.pop future writer.putting
                enqueued := writer.enqueued ++ item.future.toList }
  | .cancel future =>
      match Dict.get? future writer.putting with
      | some _ => some { writer with putting := Dict.pop future writer.putting }
      | none =>
          if future ∈ writer.enqueued then
            some { writer with outcomes := settle future false writer.outcomes }
          else none
  | .deliver =>
      match writer.scheduled with
      | [] => none
      | (future, outcome) :: scheduled =>
          some { writer with scheduled, outcomes := settle future outcome writer.outcomes }
  | .resumeClose future =>
      if future ∈ writer.closing then
        match Dict.get? future writer.outcomes with
        | none => none
        | some false => some { writer with closing := writer.closing.erase future }
        | some true =>
            some { writer with
              closing := writer.closing.erase future, stopping := true
              sentinels := writer.sentinels + 1 }
      else none
  | .putStop =>
      if 0 < writer.sentinels then
        match writer.queue.putNowait .stop with
        | none => some writer
        | some queue =>
            some { writer with queue, sentinels := writer.sentinels - 1, joining := true }
      else none
  | .cancelStop =>
      if 0 < writer.sentinels then some { writer with sentinels := writer.sentinels - 1 } else none
  | _ => none

/-- An item of the queue that is answered, with a result or with an exception. -/
def handOver (item : JsonlItem Record) (outcome : Bool) (writer : JsonlWriter Record) :
    JsonlWriter Record :=
  match item.future with
  | none => writer
  | some future => { writer with scheduled := writer.scheduled ++ [(future, outcome)] }

/-- What the thread does. Only what goes wrong with an event, or with the file, ends its loop. -/
def threadStep (writer : JsonlWriter Record) : JsonlEvent Record → Option (JsonlWriter Record)
  | .timeout =>
      match writer.thread with
      | .idle =>
          if writer.queue.items.isEmpty then some { writer with thread := .flushing } else none
      | _ => none
  | .get =>
      match writer.thread with
      | .idle =>
          writer.queue.get.map fun (item, queue) =>
            match item with
            | .stop => { writer with queue, thread := .leaving }
            | item => { writer with queue, thread := .executing item }
      | _ => none
  | .complete =>
      match writer.thread with
      | .flushing => some { writer with thread := .idle }
      | .executing item => some { writer.handOver item true with thread := .idle }
      | _ => none
  | .fail =>
      match writer.thread with
      | .flushing => some { writer with thread := .draining, fatalError := true }
      | .executing item =>
          match item.future with
          | none => some { writer with thread := .draining, fatalError := true }
          | some _ => some { writer.handOver item false with thread := .idle }
      | _ => none
  | .drain =>
      match writer.thread with
      | .draining =>
          match writer.queue.get with
          | none => some { writer with thread := .leaving }
          | some (item, queue) => some { writer.handOver item false with queue }
      | _ => none
  | .finish =>
      match writer.thread with
      | .leaving => some { writer with thread := .ended }
      | _ => none
  | _ => none

/-- A step of the event loop or of the thread, whichever the event belongs to. -/
def step (writer : JsonlWriter Record) (event : JsonlEvent Record) : Option (JsonlWriter Record) :=
  match writer.threadStep event with
  | some next => some next
  | none => if writer.loopRuns then writer.loopStep event else none

/-- The futures that wait in the queue. -/
def queued (writer : JsonlWriter Record) : List Nat :=
  writer.queue.items.filterMap JsonlItem.future

/-- The future that the thread works for. -/
def running (writer : JsonlWriter Record) : List Nat :=
  match writer.thread with
  | .executing item => item.future.toList
  | _ => []

end JsonlWriter

end PyDht
