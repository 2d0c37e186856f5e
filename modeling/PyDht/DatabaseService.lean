import PyDht.CatalogueRuns
import PyDht.DatabaseQueue

set_option autoImplicit false

namespace PyDht

variable {Db Result Request : Type}

/-- An operation that the thread has executed, with what the world did to its turns and the number
of turns that could follow the first one. -/
structure Execution (Request : Type) where
  call : Nat
  request : Request
  attempts : Nat → Attempt
  retries : Nat

/-- `DatabaseWorker` with what its callers hand over and what they get back. -/
structure DatabaseService (Db Result Request : Type) where
  queue : DatabaseQueue
  session : Session Db
  /-- What each call was made with. -/
  requests : List (Nat × Request) := []
  /-- The log of the thread. -/
  executed : List (Execution Request) := []
  /-- The replies that go with `queue.scheduled`. -/
  handed : List (Nat × Reply Result) := []
  /-- The futures that have got a reply. -/
  futures : List (Nat × Reply Result) := []
  /-- What `call` returns or raises to a caller that has not been cancelled. -/
  returned : List (Nat × Reply Result) := []

/-- `crash` is an exception that only the outermost handler of `_run` catches: from a reopening of
the connection behind one of the turns, or from `call_soon_threadsafe`. -/
inductive ServiceEvent (Request : Type) where
  | call (request : Request)
  | serve (attempts : Nat → Attempt)
  | crash (attempts : Nat → Attempt) (retries : Nat)
  | deliver
  | resume (call : Nat)
  | queue (event : QueueEvent)

/-- The events that move neither a request nor a reply. -/
def QueueEvent.isPlain : QueueEvent → Bool
  | .acquire _ | .cancel _ | .close | .cancelClose | .putSentinel | .get | .stop => true
  | .call | .resume _ | .deliver | .complete | .fail | .crash => false

namespace DatabaseService

/-- The worker after a successful `start`. -/
def new (capacity : Nat) (session : Session Db) : DatabaseService Db Result Request :=
  { queue := .new capacity, session }

/-- The operation whose call the thread executes. -/
def executing (service : DatabaseService Db Result Request) : Option (Nat × Request) :=
  match service.queue.thread with
  | .executing call => (Dict.get? call service.requests).map (call, ·)
  | _ => none

def step (config : Config) (operation : Request → Operation Db Result)
    (service : DatabaseService Db Result Request) :
    ServiceEvent Request → Option (DatabaseService Db Result Request)
  | .call request =>
      (service.queue.step .call).map fun queue =>
        { service with
          queue, requests := service.requests ++ [(service.queue.calls, request)] }
  | .serve attempts =>
      service.executing.bind fun (call, request) =>
        let served := (operation request).run config attempts service.session
        (service.queue.step (if served.fatal then .fail else .complete)).map fun queue =>
          { service with
            queue, session := served.session
            executed := service.executed ++
              [{ call, request, attempts, retries := config.dbReopenRetryCount.toNat }]
            handed := service.handed ++ [(call, served.reply)] }
  | .crash attempts retries =>
      if retries ≤ config.dbReopenRetryCount.toNat then
        service.executing.bind fun (call, request) =>
          (service.queue.step .crash).map fun queue =>
            { service with
              queue
              session := ((operation request).serve attempts retries 0 service.session).session
              executed := service.executed ++ [{ call, request, attempts, retries }] }
      else none
  | .deliver =>
      match service.handed with
      | [] => none
      | (call, reply) :: handed =>
          (service.queue.step .deliver).map fun queue =>
            { service with
              queue, handed
              futures :=
                if call ∈ service.queue.unresolved then service.futures ++ [(call, reply)]
                else service.futures }
  | .resume call =>
      (service.queue.step (.resume call)).map fun queue =>
        { service with
          queue
          returned := service.returned ++
            ((Dict.get? call service.futures).map (call, ·)).toList }
  | .queue event =>
      if event.isPlain then
        (service.queue.step event).map fun queue =>
          { service with
            queue
            session := if event = .stop then service.session.leave else service.session }
      else none

end DatabaseService

end PyDht
