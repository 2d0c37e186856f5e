import PyDht.Config
import PyDht.Exceptions

set_option autoImplicit false

namespace PyDht

/-- How a call of `_check_size` ends. -/
inductive SizeCheck where
  | passes
  | tooLarge
  | statFails (text : String)
deriving DecidableEq, Repr

def SizeCheck.outcome : SizeCheck → Except PyError Unit
  | .passes => .ok ()
  | .tooLarge => .error (.storageError "DATABASE_MAX_BYTES reached")
  | .statFails text => .error (.osError text)

/-- How `func` ends on an open connection: with its commit, or with an exception
after some of its statements and before the commit is done. -/
inductive FuncEnd where
  | commits
  | raises (statements : Nat) (error : PyError)
deriving DecidableEq, Repr

/-- The connection: `working` is what it reads, `uncommitted` counts the
statements since its last commit or rollback, `commits` counts its commits. -/
structure Session (Db : Type) where
  committed : Db
  working : Db
  uncommitted : Nat := 0
  commits : Nat := 0
  isOpen : Bool := true
deriving DecidableEq, Repr

namespace Session

variable {Db : Type}

/-- A connection as `_connect` returns it. -/
def connect (committed : Db) : Session Db := { committed, working := committed }

def commit (session : Session Db) : Session Db :=
  { session with
    committed := session.working, uncommitted := 0, commits := session.commits + 1 }

def rollback (session : Session Db) : Session Db :=
  { session with working := session.committed, uncommitted := 0 }

/-- `conn.rollback()` and `conn.close()`. -/
def close (session : Session Db) : Session Db := { session.rollback with isOpen := false }

def reopen (session : Session Db) : Session Db :=
  { session with working := session.committed, uncommitted := 0, isOpen := true }

def execute (statements : List (Db → Db)) (session : Session Db) : Session Db :=
  { session with
    working := statements.foldl (fun content statement => statement content) session.working,
    uncommitted := session.uncommitted + statements.length }

end Session

/-- A `func` that callers hand to the worker: its writing statements in order,
after which it commits (one without any only reads), and what it returns, seen
from the content it starts on. `rollsBack` says that it has a handler of its own. -/
structure Operation (Db Result : Type) where
  statements : List (Db → Db)
  result : Db → Result
  rollsBack : Bool := false

/-- What the world does to one turn of the recovery loop. -/
structure Attempt where
  before : SizeCheck := .passes
  func : FuncEnd := .commits
  after : SizeCheck := .passes
  reopen : Option PyError := none
deriving DecidableEq, Repr

inductive Reply (Result : Type) where
  | result (value : Result)
  | exception (error : PyError)
deriving DecidableEq, Repr

/-- What the loop leaves behind: the future's reply, the connection, and
whether the thread ends. -/
structure Served (Db Result : Type) where
  reply : Reply Result
  session : Session Db
  fatal : Bool
deriving DecidableEq, Repr

/-- `except (sqlite3.DatabaseError, OSError)`. -/
def PyError.isRecoverable : PyError → Bool
  | .databaseError _ | .osError _ => true
  | _ => false

def PyError.isStorage : PyError → Bool
  | .storageError _ => true
  | _ => false

namespace Operation

variable {Db Result : Type}

def effect (operation : Operation Db Result) (content : Db) : Db :=
  operation.statements.foldl (fun content statement => statement content) content

/-- `func(conn)`. A closed connection refuses the first statement. -/
def call (operation : Operation Db Result) (ending : FuncEnd) (session : Session Db) :
    Except PyError Result × Session Db :=
  if session.isOpen then
    match ending with
    | .commits =>
        let value := operation.result session.working
        if operation.statements.isEmpty then (.ok value, session)
        else (.ok value, (session.execute operation.statements).commit)
    | .raises statements error =>
        let stopped := session.execute (operation.statements.take statements)
        (.error error, if operation.rollsBack then stopped.rollback else stopped)
  else (.error (.databaseError "Cannot operate on a closed database."), session)

/-- The `try` block of one turn. -/
def attemptOnce (operation : Operation Db Result) (attempt : Attempt) (session : Session Db) :
    Except PyError Result × Session Db :=
  match attempt.before.outcome with
  | .error error => (.error error, session)
  | .ok () =>
      match operation.call attempt.func session with
      | (.error error, session) => (.error error, session)
      | (.ok value, session) =>
          match attempt.after.outcome with
          | .error error => (.error error, session)
          | .ok () => (.ok value, session)

/-- The recovery loop of `_run` from turn `turn` on, with `retries` turns to come after it. -/
def serve (operation : Operation Db Result) (attempts : Nat → Attempt) :
    (retries turn : Nat) → Session Db → Served Db Result
  | retries, turn, session =>
      match operation.attemptOnce (attempts turn) session with
      | (.ok value, session) => { reply := .result value, session, fatal := false }
      | (.error error, session) =>
          if error.isStorage then { reply := .exception error, session, fatal := true }
          else if error.isRecoverable then
            match retries with
            | 0 => { reply := .exception error, session := session.close, fatal := true }
            | retries + 1 =>
                match (attempts turn).reopen with
                | none => operation.serve attempts retries (turn + 1) session.close.reopen
                | some _ => operation.serve attempts retries (turn + 1) session.close
          else { reply := .exception error, session, fatal := false }

/-- The loop with its `DB_REOPEN_RETRY_COUNT + 1` turns. -/
def run (operation : Operation Db Result) (config : Config) (attempts : Nat → Attempt)
    (session : Session Db) : Served Db Result :=
  operation.serve attempts config.dbReopenRetryCount.toNat 0 session

end Operation

end PyDht
