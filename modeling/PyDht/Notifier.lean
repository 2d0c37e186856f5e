import PyDht.Telegram
import PyDht.TorrentWorker

set_option autoImplicit false

namespace PyDht

/-- What the notifications of all processes share. `timesOut` tells the exceptions of the database
that are instances of `TimeoutError`. -/
structure NotifierEnvironment where
  config : TelegramConfig
  loads : Bytes → JsonBody
  timesOut : PyError → Bool

/-- How the connection for one request goes. -/
structure HttpLink where
  insecure : Option (String × String) := none
  refused : Option HttpInterrupt := none
  stuck : Option HttpInterrupt := none
  incoming : Bytes := []
  ending : Option HttpInterrupt := none
  arrived : Nat := 0
deriving DecidableEq, Repr

def HttpSession.over (session : HttpSession) (link : HttpLink) : HttpSession :=
  { session with
    insecure := link.insecure, refused := link.refused, stuck := link.stuck,
    incoming := link.incoming, ending := link.ending, arrived := link.arrived }

/-- The message that `_send_notification_row` makes of a row. -/
def Telegram.rowMessage (config : TelegramConfig) (row : DueNotification) :
    Except PyError String :=
  formatNotification config
    { torrentUid := row.torrentUid, name := row.torrent.name, totalSize := row.torrent.totalSize,
      fileCount := row.torrent.fileCount, pieceLength := row.torrent.pieceLength,
      metadataSize := row.torrent.metadataSize, rawInfo := [], files := [] }
    { keywords := row.notification.keywords, matched := row.notification.matched }

/-- The time of the next attempt when attempt `number` has failed at `nowNs`; none when it was the
last one. -/
def TelegramConfig.nextNotification (config : TelegramConfig) (number nowNs : Int) : Option Int :=
  if number < config.notificationRetryMaxAttempts then
    some (nowNs + retryDelay number config.notificationRetryBaseSeconds
      config.notificationRetryMaxSeconds * 1000000000)
  else none

/-- Where `notification_scheduler` stands: between two scans, in the loop over the rows of the scan
at `scanNs`, in `send_once` for a row, or waiting for the result of a row to be marked. -/
inductive NotifierStage where
  | ended
  | idle
  | turning (scanNs : Int) (rows : List DueNotification)
  | sending (scanNs : Int) (row : DueNotification) (rows : List DueNotification) (message : String)
  | recording (scanNs : Int) (row : DueNotification) (rows : List DueNotification)
      (success : Bool) (stampNs : Int) (nextAttemptNs : Option Int) (error : Option String)
deriving DecidableEq, Repr

/-- What is noted of the runs: the start of a process, a call of `send_once`, a result that the
database has confirmed, and one whose marking ended in a `TimeoutError`. -/
inductive Notice where
  | started
  | begun (scanNs : Int) (row : DueNotification) (message : String)
  | recorded (torrentUid : String) (success : Bool) (stampNs : Int) (nextAttemptNs : Option Int)
  | lost (torrentUid : String)
deriving DecidableEq, Repr

structure Notifier where
  store : Store := .empty
  addresses : HttpSession := {}
  stage : NotifierStage := .ended
  log : List Notice := []
deriving DecidableEq, Repr

/-- `take` is the next turn of the loop over the rows, `call` a call of the database by another
task. `quit` ends the scheduler at any point: it is cancelled, or the database takes no more calls.
A result is not `heard` when the scheduler is cancelled while its marking is still queued. -/
inductive NotifierEvent where
  | start (nowNs : Int) (infos : List String)
  | scan (nowNs : Int) (attempts : Nat → Attempt)
  | take (stopping : Bool)
  | deliver (link : HttpLink) (nowNs : Int)
  | record (attempts : Nat → Attempt) (heard : Bool)
  | quit
  | call (request : DatabaseCall) (attempts : Nat → Attempt)
  | stop
  | kill

/-- Only `_send_notification_row` marks the results of notifications. -/
def DatabaseCall.marksNotification : DatabaseCall → Bool
  | .markNotificationResult _ _ _ _ _ => true
  | _ => false

namespace Notifier

/-- What the future of a call is given. -/
def reply (env : NotifierEnvironment) (notifier : Notifier) (request : DatabaseCall)
    (attempts : Nat → Attempt) : Reply Answer :=
  ((request.operation env.config.toConfig).run env.config.toConfig attempts
    notifier.store.session).reply

/-- The `except` clauses of the scheduler for an exception of the database. -/
def stageAfter (env : NotifierEnvironment) (error : PyError) : NotifierStage :=
  if env.timesOut error then .idle else .ended

/-- How the scan goes on. -/
def scanned (env : NotifierEnvironment) (nowNs : Int) : Reply Answer → NotifierStage
  | .result (.notifications rows) => .turning nowNs rows
  | .result _ => .ended
  | .exception error => stageAfter env error

/-- The next row, up to `send_once`. -/
def turn (env : NotifierEnvironment) (scanNs : Int) (rows : List DueNotification)
    (stopping : Bool) (notifier : Notifier) : Notifier :=
  match rows with
  | [] => { notifier with stage := .idle }
  | row :: rows =>
      if stopping then { notifier with stage := .ended }
      else
        match Telegram.rowMessage env.config row with
        | .error _ => { notifier with stage := .ended }
        | .ok message =>
            { notifier with
              stage := .sending scanNs row rows message
              log := notifier.log ++ [.begun scanNs row message] }

/-- `send_once` and what `_send_notification_row` makes of its result. -/
def sent (env : NotifierEnvironment) (scanNs : Int) (row : DueNotification)
    (rows : List DueNotification) (message : String) (link : HttpLink) (nowNs : Int)
    (notifier : Notifier) : Notifier :=
  match Telegram.sendOnce env.config env.loads message (notifier.addresses.over link) with
  | .error _ addresses => { notifier with addresses, stage := .ended }
  | .ok (true, _) addresses =>
      { notifier with addresses, stage := .recording scanNs row rows true nowNs none none }
  | .ok (false, error) addresses =>
      let next := env.config.nextNotification (row.notification.attempts + 1) nowNs
      { notifier with addresses, stage := .recording scanNs row rows false nowNs next error }

/-- What the scheduler makes of the answer to `mark_notification_result`. -/
def recorded (env : NotifierEnvironment) (scanNs : Int) (row : DueNotification)
    (rows : List DueNotification) (success : Bool) (stampNs : Int) (nextAttemptNs : Option Int)
    (notifier : Notifier) : Reply Answer → Notifier
  | .result _ =>
      { notifier with
        stage := .turning scanNs rows
        log := notifier.log ++ [.recorded row.torrentUid success stampNs nextAttemptNs] }
  | .exception error =>
      { notifier with
        stage := stageAfter env error
        log := notifier.log ++ if env.timesOut error then [.lost row.torrentUid] else [] }

def step (env : NotifierEnvironment) (notifier : Notifier) : NotifierEvent → Option Notifier
  | .start nowNs infos =>
      if notifier.stage = .ended then
        (notifier.store.step env.config.toConfig (.start nowNs)).map fun store =>
          { store, addresses := Telegram.prepare env.config infos {}, stage := .idle,
            log := notifier.log ++ [.started] }
      else none
  | .scan nowNs attempts =>
      if notifier.stage = .idle ∧ env.config.telegramEnabled then
        let request := DatabaseCall.dueNotifications nowNs env.config.notificationScanBatchSize
        (notifier.store.step env.config.toConfig (.serve request attempts)).map fun store =>
          { notifier with store, stage := scanned env nowNs (notifier.reply env request attempts) }
      else none
  | .take stopping =>
      match notifier.stage with
      | .turning scanNs rows => some (notifier.turn env scanNs rows stopping)
      | _ => none
  | .deliver link nowNs =>
      match notifier.stage with
      | .sending scanNs row rows message =>
          some (notifier.sent env scanNs row rows message link nowNs)
      | _ => none
  | .record attempts heard =>
      match notifier.stage with
      | .recording scanNs row rows success stampNs nextAttemptNs error =>
          let request := DatabaseCall.markNotificationResult row.torrentUid success stampNs
            nextAttemptNs error
          (notifier.store.step env.config.toConfig (.serve request attempts)).map fun store =>
            if heard then
              { notifier with store }.recorded env scanNs row rows success stampNs nextAttemptNs
                (notifier.reply env request attempts)
            else { notifier with store, stage := .ended }
      | _ => none
  | .quit => some { notifier with stage := .ended }
  | .call request attempts =>
      if request.marksNotification then none
      else
        (notifier.store.step env.config.toConfig (.serve request attempts)).map fun store =>
          { notifier with store }
  | .stop =>
      (notifier.store.step env.config.toConfig .stop).map fun store =>
        { notifier with store, stage := .ended }
  | .kill =>
      (notifier.store.step env.config.toConfig .kill).map fun store =>
        { notifier with store, stage := .ended }

end Notifier

end PyDht
