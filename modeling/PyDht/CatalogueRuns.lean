import PyDht.DatabaseRecovery
import PyDht.Lib.Transition

set_option autoImplicit false

namespace PyDht

variable {Db Result Other : Type}

/-- The same statements, with another view of what they return. -/
def Operation.map (view : Result → Other) (operation : Operation Db Result) : Operation Db Other :=
  { statements := operation.statements
    result := fun content => view (operation.result content)
    rollsBack := operation.rollsBack }

/-- The end of `_run`: what was executed is committed, and the connection is closed. -/
def Session.leave (session : Session Db) : Session Db :=
  if session.isOpen then session.commit.close else session.close

/-- A call of a method of `DatabaseWorker`. -/
inductive DatabaseCall where
  | upsertCandidateSeen (dhtKey : String) (firstSeen lastSeen : Int)
  | candidateState (dhtKey : String)
  | markFetching (dhtKey : String) (nowNs : Int)
  | markFetchFailed (dhtKey error : String) (nowNs : Int) (nextAttemptNs : Option Int)
  | markUnsupported (dhtKey : String) (error : Option String)
  | dueCandidates (nowNs limit : Int)
  | persistTorrent (torrent : IndexedTorrent) (dhtKey : String)
      (notification : Option KeywordResult) (nowNs : Int)
  | dueNotifications (nowNs limit : Int)
  | markNotificationResult (torrentUid : String) (success : Bool) (nowNs : Int)
      (nextAttemptNs : Option Int) (error : Option String)
  | search (text : String) (limit : Int)
deriving DecidableEq, Repr

/-- What a caller gets. `raised` is an exception that the arguments of the call alone decide. -/
inductive Answer where
  | done
  | row (found : Option CandidateRow)
  | marked (one : Bool)
  | keys (due : List String)
  | notifications (due : List DueNotification)
  | torrents (found : List (String × TorrentRow))
  | raised (error : PyError)
deriving DecidableEq, Repr

def DatabaseCall.operation (config : Config) : DatabaseCall → Operation Catalogue Answer
  | .upsertCandidateSeen dhtKey firstSeen lastSeen =>
      (Catalogue.upsertCandidateSeen dhtKey firstSeen lastSeen).map .row
  | .candidateState dhtKey => (Catalogue.candidateState dhtKey).map .row
  | .markFetching dhtKey nowNs => (Catalogue.markFetching dhtKey nowNs).map .marked
  | .markFetchFailed dhtKey error nowNs nextAttemptNs =>
      (Catalogue.markFetchFailed config dhtKey error nowNs nextAttemptNs).map fun _ => .done
  | .markUnsupported dhtKey error => (Catalogue.markUnsupported dhtKey error).map fun _ => .done
  | .dueCandidates nowNs limit => (Catalogue.dueCandidates nowNs limit).map .keys
  | .persistTorrent torrent dhtKey notification nowNs =>
      (Catalogue.persistTorrent torrent dhtKey notification nowNs).map fun _ => .done
  | .dueNotifications nowNs limit => (Catalogue.dueNotifications nowNs limit).map .notifications
  | .markNotificationResult torrentUid success nowNs nextAttemptNs error =>
      (Catalogue.markNotificationResult config torrentUid success nowNs nextAttemptNs error).map
        fun _ => .done
  | .search text limit =>
      (Catalogue.search text limit).map fun outcome =>
        match outcome with
        | .ok found => .torrents found
        | .error error => .raised error

inductive StoreThread where
  | down
  | serving
  /-- A fatal error has ended the loop, the connection is still to be closed. -/
  | leaving
deriving DecidableEq, Repr

/-- The database file with the thread of the process that works on it. -/
structure Store where
  session : Session Catalogue
  thread : StoreThread := .down
deriving DecidableEq, Repr

/-- `kill` is the end of the process at any moment. What a turn of the recovery loop has committed
when the process ends between two turns is also what a shorter pattern of turns leaves. -/
inductive StoreEvent where
  | start (nowNs : Int)
  | serve (request : DatabaseCall) (attempts : Nat → Attempt)
  | stop
  | kill

namespace Store

/-- No process has worked on the database so far. -/
def empty : Store := { session := (Session.connect {}).close }

/-- `_connect(recover_interrupted=True)` on what is committed. -/
def recover (nowNs : Int) (store : Store) : Store :=
  { session := ((Session.connect store.session.committed).execute
      [Catalogue.recoverInterrupted nowNs]).commit
    thread := .serving }

def step (config : Config) (store : Store) : StoreEvent → Option Store
  | .start nowNs => if store.thread = .down then some (store.recover nowNs) else none
  | .serve request attempts =>
      if store.thread = .serving then
        let served := (request.operation config).run config attempts store.session
        some { session := served.session, thread := if served.fatal then .leaving else .serving }
      else none
  | .stop =>
      if store.thread = .down then none
      else some { session := store.session.leave, thread := .down }
  | .kill => some { session := store.session.close, thread := .down }

end Store

/-- What may become of a content in any number of steps. -/
structure Evolution (Db : Type) where
  leads : Db → Db → Prop
  refl : ∀ content, leads content content
  trans : ∀ {first second third}, leads first second → leads second third → leads first third

/-- Nothing is said about what may become of a content. -/
def Evolution.free (Db : Type) : Evolution Db := ⟨fun _ _ => True, fun _ => trivial, fun _ _ => trivial⟩

/-- Both contents satisfy the invariant, and what is committed leads to what the connection reads. -/
structure Session.Within (inv : Db → Prop) (law : Evolution Db) (session : Session Db) : Prop where
  committed : inv session.committed
  working : inv session.working
  ahead : law.leads session.committed session.working

/-- A change keeps the invariant and follows the law. -/
def Follows (inv : Db → Prop) (law : Evolution Db) (change : Db → Db) : Prop :=
  ∀ content, inv content → inv (change content) ∧ law.leads content (change content)

/-- No way through the operation breaks the law: a `func` that rolls back is undone as a whole,
any other one may stop behind each of its statements. -/
def Operation.Obeys (inv : Db → Prop) (law : Evolution Db) (operation : Operation Db Result) :
    Prop :=
  if operation.rollsBack then Follows inv law operation.effect
  else ∀ statement ∈ operation.statements, Follows inv law statement

variable {inv : Db → Prop} {law : Evolution Db}

theorem Follows.foldl {statements : List (Db → Db)}
    (follows : ∀ statement ∈ statements, Follows inv law statement) :
    Follows inv law fun content =>
      statements.foldl (fun content statement => statement content) content := by
  induction statements with
  | nil => exact fun content holds => ⟨holds, law.refl content⟩
  | cons first statements ih =>
      intro content holds
      obtain ⟨here, later⟩ := List.forall_mem_cons.mp follows
      obtain ⟨kept, led⟩ := here content holds
      obtain ⟨last, further⟩ := ih later (first content) kept
      exact ⟨last, law.trans led further⟩

/-- Both contents of a clean connection. -/
theorem Session.Within.same {session : Session Db} (clean : session.working = session.committed)
    (holds : inv session.committed) : session.Within inv law :=
  ⟨holds, clean ▸ holds, clean ▸ law.refl _⟩

theorem Session.Within.execute {session : Session Db} (within : session.Within inv law)
    {statements : List (Db → Db)}
    (follows : ∀ statement ∈ statements, Follows inv law statement) :
    (session.execute statements).Within inv law := by
  obtain ⟨kept, led⟩ := Follows.foldl follows session.working within.working
  exact ⟨within.committed, kept, law.trans within.ahead led⟩

/-- What a commit makes of both contents. -/
theorem Session.Within.leave {session : Session Db} (within : session.Within inv law) :
    session.leave.Within inv law ∧ law.leads session.committed session.leave.committed := by
  unfold Session.leave
  split
  · exact ⟨.same rfl within.working, within.ahead⟩
  · exact ⟨.same rfl within.committed, law.refl _⟩

namespace Operation

variable {operation : Operation Db Result}

theorem Obeys.effect (obeys : operation.Obeys inv law) : Follows inv law operation.effect := by
  unfold Obeys at obeys
  split at obeys
  · exact obeys
  · exact Follows.foldl obeys

/-- An operation without statements obeys every law. -/
theorem obeys_of_reads (reads : operation.statements = []) : operation.Obeys inv law := by
  unfold Obeys
  split
  · intro content holds
    simp only [Operation.effect, reads, List.foldl_nil]
    exact ⟨holds, law.refl content⟩
  · simp [reads]

/-- An update of one statement. -/
theorem obeys_of_statement {statement : Db → Db} (single : operation.statements = [statement])
    (follows : Follows inv law statement) : operation.Obeys inv law := by
  unfold Obeys
  split
  · intro content holds
    simp only [Operation.effect, single, List.foldl_cons, List.foldl_nil]
    exact follows content holds
  · simpa [single] using follows

theorem Obeys.attemptOnce (obeys : operation.Obeys inv law) (attempt : Attempt)
    {session : Session Db} (within : session.Within inv law) :
    (operation.attemptOnce attempt session).2.Within inv law ∧
      law.leads session.committed (operation.attemptOnce attempt session).2.committed := by
  obtain same | ⟨statements, error, stopped⟩ | ⟨-, committed⟩ :=
    attemptOnce_session operation attempt session
  · rw [same]
    exact ⟨within, law.refl _⟩
  · rw [stopped]
    unfold Obeys at obeys
    dsimp only
    split
    · exact ⟨.same rfl within.committed, law.refl _⟩
    · rename_i direct
      rw [if_neg direct] at obeys
      refine ⟨within.execute fun statement member => ?_, law.refl _⟩
      exact obeys statement (List.mem_of_mem_take member)
  · rw [committed]
    obtain ⟨kept, led⟩ := obeys.effect session.working within.working
    exact ⟨.same rfl kept, law.trans within.ahead led⟩

/-- The recovery loop obeys the law, whatever the world does to its turns. -/
theorem Obeys.run (obeys : operation.Obeys inv law) (config : Config) (attempts : Nat → Attempt)
    {session : Session Db} (within : session.Within inv law) :
    (operation.run config attempts session).session.Within inv law ∧
      law.leads session.committed (operation.run config attempts session).session.committed := by
  refine serve_rule (motive := fun session served => session.Within inv law →
    served.session.Within inv law ∧ law.leads session.committed served.session.committed)
    ?_ ?_ ?_ ?_ _ 0 session within
  · intro turn session value after tried within
    have kept := obeys.attemptOnce (attempts turn) within
    rwa [tried] at kept
  · intro turn session error after final tried within
    have kept := obeys.attemptOnce (attempts turn) within
    rwa [tried] at kept
  · intro turn session error after again tried within
    have kept := obeys.attemptOnce (attempts turn) within
    rw [tried] at kept
    exact ⟨.same rfl kept.1.committed, kept.2⟩
  · intro turn session error after served again tried later within
    have kept := obeys.attemptOnce (attempts turn) within
    rw [tried] at kept
    obtain ⟨same, -⟩ := recovered_committed (attempts turn) after
    obtain ⟨final, led⟩ := later (.same (recovered_clean (attempts turn) after).working
      (same.symm ▸ kept.1.committed))
    exact ⟨final, law.trans kept.2 (same ▸ led)⟩

/-- A turn that gives a result gives that of the content which it read, and leaves its effect. -/
theorem attemptOnce_ok {attempt : Attempt} {session after : Session Db} {value : Result}
    (tried : operation.attemptOnce attempt session = (.ok value, after)) :
    value = operation.result session.working ∧
      after.working = operation.effect session.working ∧
      (operation.statements ≠ [] → after.committed = operation.effect session.working) := by
  cases before : attempt.before.outcome with
  | error error => simp [attemptOnce_blocked operation before] at tried
  | ok _ =>
      have passes := passes_of_ok before
      cases opened : session.isOpen with
      | false => simp [attemptOnce_closed operation passes opened] at tried
      | true =>
          cases func : attempt.func with
          | raises statements error =>
              simp [attemptOnce_raises operation passes opened func] at tried
          | commits =>
              by_cases writes : operation.statements = []
              · simp only [attemptOnce, passes, SizeCheck.outcome, call, opened, if_true, func,
                  writes, List.isEmpty_nil] at tried
                have same : value = operation.result session.working ∧ session = after := by
                  cases behind : attempt.after <;> rw [behind] at tried <;> cases tried
                  exact ⟨rfl, rfl⟩
                obtain ⟨rfl, rfl⟩ := same
                simp [effect, writes]
              · rw [attemptOnce_commits writes passes opened func] at tried
                simp only [Prod.mk.injEq] at tried
                obtain ⟨outcome, rfl⟩ := tried
                refine ⟨?_, rfl, fun _ => rfl⟩
                cases behind : attempt.after <;> rw [behind] at outcome <;> cases outcome
                rfl

/-- The result of the whole loop is that of some content within the law, and the connection reads
its effect. -/
theorem Obeys.run_result (obeys : operation.Obeys inv law) {config : Config}
    {attempts : Nat → Attempt} {session : Session Db} (within : session.Within inv law)
    {value : Result} (replied : (operation.run config attempts session).reply = .result value) :
    ∃ content, inv content ∧ value = operation.result content ∧
      (operation.run config attempts session).session.working = operation.effect content ∧
      (operation.statements ≠ [] →
        (operation.run config attempts session).session.committed = operation.effect content) := by
  revert replied
  refine serve_rule (motive := fun session served => session.Within inv law →
    served.reply = .result value → ∃ content, inv content ∧ value = operation.result content ∧
      served.session.working = operation.effect content ∧
      (operation.statements ≠ [] → served.session.committed = operation.effect content))
    ?_ ?_ ?_ ?_ _ 0 session within
  · intro turn session found after tried within same
    cases same
    exact ⟨session.working, within.working, attemptOnce_ok tried⟩
  · intro turn session error after final tried within same
    cases same
  · intro turn session error after again tried within same
    cases same
  · intro turn session error after served again tried later within
    have kept := (obeys.attemptOnce (attempts turn) within).1
    rw [tried] at kept
    obtain ⟨same, -⟩ := recovered_committed (attempts turn) after
    exact later (.same (recovered_clean (attempts turn) after).working
      (same.symm ▸ kept.committed))

end Operation

namespace Store

variable {inv : Catalogue → Prop} {law : Evolution Catalogue} {config : Config}

/-- A step obeys the law that the statements of its event obey. -/
theorem step_within {store next : Store} {event : StoreEvent}
    (recovers : ∀ nowNs, event = .start nowNs →
      Follows inv law (Catalogue.recoverInterrupted nowNs))
    (serves : ∀ request attempts, event = .serve request attempts →
      (request.operation config).Obeys inv law)
    (within : store.session.Within inv law) (taken : step config store event = some next) :
    next.session.Within inv law ∧ law.leads store.session.committed next.session.committed := by
  cases event with
  | start nowNs =>
      simp only [step] at taken
      split at taken
      · cases taken
        obtain ⟨kept, led⟩ := recovers nowNs rfl _ within.committed
        exact ⟨.same rfl kept, led⟩
      · cases taken
  | serve request attempts =>
      simp only [step] at taken
      split at taken
      · cases taken
        exact (serves request attempts rfl).run config attempts within
      · cases taken
  | stop =>
      simp only [step] at taken
      split at taken
      · cases taken
      · cases taken
        exact within.leave
  | kill =>
      cases taken
      exact ⟨.same rfl within.committed, law.refl _⟩

/-- What the recovery and the operations of a run obey, the run obeys. -/
theorem run_within (recovers : ∀ nowNs, Follows inv law (Catalogue.recoverInterrupted nowNs))
    {events : List StoreEvent} {start final : Store}
    (serves : ∀ request attempts, .serve request attempts ∈ events →
      (request.operation config).Obeys inv law)
    (ran : Transition.run (step config) start events = some final)
    (within : start.session.Within inv law) :
    final.session.Within inv law ∧ law.leads start.session.committed final.session.committed := by
  induction events generalizing start with
  | nil =>
      cases ran
      exact ⟨within, law.refl _⟩
  | cons event events ih =>
      obtain ⟨next, taken, ran⟩ := Transition.run_cons.mp ran
      obtain ⟨kept, led⟩ := step_within (fun nowNs _ => recovers nowNs)
        (fun request attempts same => serves request attempts (same ▸ List.mem_cons_self)) within
        taken
      obtain ⟨last, further⟩ := ih
        (fun request attempts member => serves request attempts (List.mem_cons_of_mem _ member))
        ran kept
      exact ⟨last, law.trans led further⟩

end Store

end PyDht
