import PyDht.Lib.Disk
import PyDht.Lib.Transition

set_option autoImplicit false

namespace PyDht

/-- Where the routing snapshot is written, with the text of its records and
`JSONL_REOPEN_RETRY_COUNT`. -/
structure SnapshotTarget (Record Content : Type) where
  path : String
  render : List Record → Content
  empty : Content
  retryCount : Nat

def SnapshotTarget.temporary {Record Content : Type} (target : SnapshotTarget Record Content) :
    String :=
  target.path ++ ".tmp"

/-- The system call that `_write_snapshot` is at. `writing` is all that puts the text into the
temporary file. -/
inductive SnapshotStage where
  | opening
  | writing (file : Nat)
  | syncing (file : Nat)
  | replacing
  | openingDirectory
  | syncingDirectory
deriving DecidableEq, Repr

/-- A call of `_snapshot_with_recovery`. -/
structure SnapshotJob (Record : Type) where
  records : List Record
  stage : SnapshotStage := .opening
  attempt : Nat := 0
deriving DecidableEq, Repr

/-- How the last call has ended. -/
inductive SnapshotEnd (Record : Type) where
  | synced (records : List Record)
  /-- The directory could not be opened, and is not synced. -/
  | replaced (records : List Record)
  | raised
deriving DecidableEq, Repr

structure SnapshotStore (Record Content : Type) where
  disk : Disk String Content
  job : Option (SnapshotJob Record) := none
  ended : Option (SnapshotEnd Record) := none
deriving DecidableEq, Repr

/-- `fail` is an exception of the system call at hand, from which the loop recovers when it is an
`OSError`, and `kill` the end of the process; `written` is what has got into the temporary file.
`powerLoss` brings back one of the states of the directory by its number. -/
inductive SnapshotEvent (Record Content : Type) where
  | snapshot (records : List Record)
  | succeed
  | fail (isOsError : Bool) (written : Content)
  | kill (written : Content)
  | powerLoss (state : Nat) (remains : Nat → Content)

namespace SnapshotStore

variable {Record Content : Type}

def succeed (target : SnapshotTarget Record Content) (store : SnapshotStore Record Content)
    (job : SnapshotJob Record) : SnapshotStore Record Content :=
  match job.stage with
  | .opening =>
      let opened := store.disk.openWrite target.empty target.temporary
      { store with disk := opened.2, job := some { job with stage := .writing opened.1 } }
  | .writing file =>
      { store with
        disk := store.disk.write file (target.render job.records)
        job := some { job with stage := .syncing file } }
  | .syncing file =>
      { store with disk := store.disk.sync file, job := some { job with stage := .replacing } }
  | .replacing =>
      { store with
        disk := store.disk.rename target.temporary target.path
        job := some { job with stage := .openingDirectory } }
  | .openingDirectory => { store with job := some { job with stage := .syncingDirectory } }
  | .syncingDirectory =>
      { disk := store.disk.syncDirectory, ended := some (.synced job.records) }

/-- The `except OSError` of `_snapshot_with_recovery`. -/
def raises (target : SnapshotTarget Record Content) (disk : Disk String Content)
    (job : SnapshotJob Record) (isOsError : Bool) : SnapshotStore Record Content :=
  if isOsError ∧ job.attempt < target.retryCount then
    { disk, job := some { job with stage := .opening, attempt := job.attempt + 1 } }
  else { disk, ended := some .raised }

def fail (target : SnapshotTarget Record Content) (store : SnapshotStore Record Content)
    (job : SnapshotJob Record) (isOsError : Bool) (written : Content) :
    SnapshotStore Record Content :=
  match job.stage with
  | .writing file => raises target (store.disk.write file written) job isOsError
  | .openingDirectory =>
      if isOsError then { disk := store.disk, ended := some (.replaced job.records) }
      else raises target store.disk job isOsError
  | _ => raises target store.disk job isOsError

/-- The disk of a process that is gone. -/
def abandon (store : SnapshotStore Record Content) (written : Content) : Disk String Content :=
  match store.job.map SnapshotJob.stage with
  | some (.writing file) => store.disk.write file written
  | _ => store.disk

def step (target : SnapshotTarget Record Content) (store : SnapshotStore Record Content) :
    SnapshotEvent Record Content → Option (SnapshotStore Record Content)
  | .snapshot records =>
      match store.job with
      | none => some { disk := store.disk, job := some { records } }
      | some _ => none
  | .succeed => store.job.map (store.succeed target)
  | .fail isOsError written => store.job.map fun job => store.fail target job isOsError written
  | .kill written => some { disk := store.abandon written }
  | .powerLoss state remains =>
      store.disk.states[state]?.map fun directory =>
        { disk := store.disk.powerLoss directory remains }

end SnapshotStore

end PyDht
