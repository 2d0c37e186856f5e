import PyDht.CandidateRows
import PyDht.TorrentWorker

set_option autoImplicit false

namespace PyDht

/-- What has been done about a candidate by an operation whose caller got its result. -/
inductive Mark where
  | started (key : Bytes) (nowNs : Int)
  | failed (key : Bytes) (nowNs : Int) (nextAttemptNs : Option Int)
  | completed (key : Bytes)
deriving DecidableEq, Repr

/-- The workers with the queue in front of them and the database behind. The calls of
`_process_candidate` are numbered as they take their keys; a worker whose call has ended takes the
next number. `due` is what the retry scheduler has still to submit of its last scan, and `marks`
is the log of the present process. -/
structure Crawler where
  candidates : CandidateSystem
  store : Store
  jobs : List (Nat × Processing) := []
  dequeued : Nat := 0
  due : List String := []
  marks : List Mark := []
deriving DecidableEq, Repr

inductive CrawlerEvent where
  | submit (now wall : Int) (key : Bytes) (source : String) (peerHint : Option PeerHint)
  | scan (nowNs : Int) (attempts : Nat → Attempt)
  | resubmit (now wall : Int)
  | get (wallNs nowNs : Int)
  | serve (number : Nat) (attempts : Nat → Attempt)
  | resume (number : Nat) (wallNs stamp now : Int)
  | fetch (number : Nat) (script : PeerScript) (wallNs : Int)
  | lookup (number : Nat) (outcome : Except PyError (List Endpoint))
  /-- A call of the notification scheduler, or of a search. -/
  | call (request : DatabaseCall) (attempts : Nat → Attempt)
  | start (nowNs now : Int)
  | stop
  | kill

/-- What the result of an operation says about the candidate. -/
def Processing.mark (job : Processing) (answer : Answer) : List Mark :=
  match job.stage, answer with
  | .marking nowNs, .marked true => [.started job.key nowNs]
  | .failing _ nowNs nextAttemptNs, .done => [.failed job.key nowNs nextAttemptNs]
  | .persisting _ _ _, .done => [.completed job.key]
  | _, _ => []

namespace Crawler

/-- No process has run so far. -/
def fresh : Crawler := { candidates := .new 0 0, store := .empty }

/-- The end of a process: the threads and the memory are gone. -/
def halted (crawler : Crawler) (store : Store) : Crawler :=
  { crawler with store, jobs := [], due := [], marks := [] }

/-- The way on of the numbered call; one that raises leaves the key as it is, since only
`_process_candidate` itself calls `finish`. -/
def proceed (config : Config) (crawler : Crawler) (number : Nat) (job : Processing)
    (stamp now : Int) : Onward → Option Crawler
  | .waits stage =>
      some { crawler with
        jobs := Dict.set number { job with stage, reply := none } crawler.jobs }
  | .finishes =>
      (crawler.candidates.step config (.finish number stamp now)).map fun candidates =>
        { crawler with candidates, jobs := Dict.pop number crawler.jobs }
  | .raises _ => some { crawler with jobs := Dict.pop number crawler.jobs }

/-- The database executes the operation that the numbered call waits for. -/
def serve (config : Config) (crawler : Crawler) (number : Nat) (job : Processing)
    (request : DatabaseCall) (attempts : Nat → Attempt) : Option Crawler :=
  (crawler.store.step config (.serve request attempts)).map fun store =>
    let reply := ((request.operation config).run config attempts crawler.store.session).reply
    { crawler with
      store
      jobs := Dict.set number { job with reply := some reply } crawler.jobs
      marks := crawler.marks ++
        match reply with
        | .result answer => job.mark answer
        | .exception _ => [] }

/-- What a running process does. -/
def live (env : CrawlerEnvironment) (crawler : Crawler) : CrawlerEvent → Option Crawler
  | .submit now wall key source peerHint =>
      (crawler.candidates.step env.config.toConfig (.submit now wall key source peerHint
        false)).map fun candidates => { crawler with candidates }
  | .scan nowNs attempts =>
      let request := DatabaseCall.dueCandidates nowNs env.config.retryScanBatchSize
      (crawler.store.step env.config.toConfig (.serve request attempts)).map fun store =>
        match ((request.operation env.config.toConfig).run env.config.toConfig attempts
            crawler.store.session).reply with
        | .result (.keys due) => { crawler with store, due }
        | _ => { crawler with store }
  | .resubmit now wall =>
      match crawler.due with
      | [] => none
      | text :: due =>
          match parseDhtKey text with
          | none => some { crawler with due }
          | some key =>
              (crawler.candidates.step env.config.toConfig (.submit now wall key "durable_retry"
                none true)).map fun candidates => { crawler with candidates, due }
  | .get wallNs nowNs =>
      match crawler.candidates.manager.queue.get with
      | none => none
      | some (key, _) =>
          (crawler.candidates.step env.config.toConfig (.get crawler.dequeued)).map
            fun candidates =>
              { crawler with
                candidates
                jobs := crawler.jobs ++
                  [(crawler.dequeued, Processing.opening candidates.manager key wallNs nowNs)]
                dequeued := crawler.dequeued + 1 }
  | .serve number attempts =>
      match Dict.get? number crawler.jobs with
      | none => none
      | some job =>
          match job.request, job.reply with
          | some request, none =>
              crawler.serve env.config.toConfig number job request attempts
          | _, _ => none
  | .resume number wallNs stamp now =>
      match Dict.get? number crawler.jobs with
      | none => none
      | some job =>
          (env.resume crawler.candidates.manager wallNs job).bind
            (crawler.proceed env.config.toConfig number job stamp now)
  | .fetch number script wallNs =>
      match Dict.get? number crawler.jobs with
      | none => none
      | some job =>
          match job.endpoint with
          | none => none
          | some endpoint =>
              let outcome := script.outcome env.config env.sha1 env.peerId endpoint job.key
              (env.fetched job outcome wallNs).bind
                (crawler.proceed env.config.toConfig number job 0 0)
  | .lookup number outcome =>
      match Dict.get? number crawler.jobs with
      | none => none
      | some job =>
          (env.lookedUp crawler.candidates.manager job outcome).bind
            (crawler.proceed env.config.toConfig number job 0 0)
  | .call request attempts =>
      if request.target.isSome then none
      else
        (crawler.store.step env.config.toConfig (.serve request attempts)).map fun store =>
          { crawler with store }
  | .start _ _ | .stop | .kill => none

def step (env : CrawlerEnvironment) (crawler : Crawler) : CrawlerEvent → Option Crawler
  | .start nowNs now =>
      (crawler.store.step env.config.toConfig (.start nowNs)).map fun store =>
        { crawler with
          candidates := .new env.config.hashQueueSize now
          store }
  | .stop =>
      (crawler.store.step env.config.toConfig .stop).map fun store => crawler.halted store
  | .kill => (crawler.store.step env.config.toConfig .kill).map fun store => crawler.halted store
  | event => if crawler.store.thread = .down then none else crawler.live env event

end Crawler

end PyDht
