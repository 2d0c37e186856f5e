import PyDht.Catalogue

set_option autoImplicit false

namespace PyDht

variable {Db Result : Type}

/-- The connection holds nothing that is not committed. -/
structure Session.Clean (session : Session Db) : Prop where
  working : session.working = session.committed
  uncommitted : session.uncommitted = 0

namespace Operation

/-- What a reply to the caller promises: a result, that the operation was committed once; an
exception, that nothing of it was committed and nothing of it waits for the next commit. -/
def Faithful (operation : Operation Db Result) (before : Session Db)
    (served : Served Db Result) : Prop :=
  match served.reply with
  | .result _ =>
      served.session.committed = operation.effect before.committed ∧
        served.session.commits =
          before.commits + if operation.statements.isEmpty then 0 else 1
  | .exception _ =>
      served.session.committed = before.committed ∧ served.session.commits = before.commits ∧
        served.session.uncommitted = 0

/-- The connection is open at the start of the turn. -/
def OpenAt (attempts : Nat → Attempt) (turn : Nat) : Prop :=
  turn = 0 ∨ (attempts (turn - 1)).reopen = none

/-- The turn ends before `func` has committed, and the loop goes on to the next one. -/
def TurnedBack (attempts : Nat → Attempt) (turn : Nat) : Prop :=
  (∃ text, (attempts turn).before = .statFails text) ∨
    ((attempts turn).before = .passes ∧ (¬ OpenAt attempts turn ∨
      ∃ statements error, (attempts turn).func = .raises statements error ∧
        error.isRecoverable = true))

/-- In this turn no size check fails behind a commit, and no exception that the
loop does not recover from comes behind a statement that nobody rolls back. -/
def Settled (operation : Operation Db Result) (attempts : Nat → Attempt) (turn : Nat) : Prop :=
  (attempts turn).before = .passes → OpenAt attempts turn →
    ((attempts turn).func = .commits → (attempts turn).after = .passes) ∧
    ∀ statements error, (attempts turn).func = .raises statements error →
      error.isRecoverable = false → operation.rollsBack = true ∨ statements = 0

/-- The operation only reads, or the turn that decides its fate is settled. -/
def Settles (operation : Operation Db Result) (config : Config) (attempts : Nat → Attempt) :
    Prop :=
  operation.statements = [] ∨ ∀ turn : Nat, (turn : Int) ≤ config.dbReopenRetryCount →
    (∀ earlier < turn, TurnedBack attempts earlier) → operation.Settled attempts turn

theorem attemptOnce_blocked (operation : Operation Db Result) {attempt : Attempt}
    {session : Session Db} {error : PyError} (refused : attempt.before.outcome = .error error) :
    operation.attemptOnce attempt session = (.error error, session) := by
  simp [attemptOnce, refused]

theorem attemptOnce_closed (operation : Operation Db Result) {attempt : Attempt}
    {session : Session Db} (before : attempt.before = .passes) (closed : session.isOpen = false) :
    operation.attemptOnce attempt session =
      (.error (.databaseError "Cannot operate on a closed database."), session) := by
  simp [attemptOnce, before, SizeCheck.outcome, call, closed]

theorem attemptOnce_raises (operation : Operation Db Result) {attempt : Attempt}
    {session : Session Db} {statements : Nat} {error : PyError}
    (before : attempt.before = .passes) (opened : session.isOpen = true)
    (func : attempt.func = .raises statements error) :
    operation.attemptOnce attempt session =
      (.error error,
        if operation.rollsBack then
          (session.execute (operation.statements.take statements)).rollback
        else session.execute (operation.statements.take statements)) := by
  simp [attemptOnce, before, SizeCheck.outcome, call, opened, func]

theorem attemptOnce_commits {operation : Operation Db Result} {attempt : Attempt}
    {session : Session Db} (writes : operation.statements ≠ [])
    (before : attempt.before = .passes) (opened : session.isOpen = true)
    (func : attempt.func = .commits) :
    operation.attemptOnce attempt session =
      (attempt.after.outcome.map fun _ => operation.result session.working,
        (session.execute operation.statements).commit) := by
  have nonempty : operation.statements.isEmpty = false := by simpa using writes
  simp only [attemptOnce, before, SizeCheck.outcome, call, opened, if_true, func, nonempty,
    Bool.false_eq_true, if_false]
  cases attempt.after <;> rfl

/-- The connection after a failed turn, once `_connect` has or has not succeeded. -/
def recovered (attempt : Attempt) (session : Session Db) : Session Db :=
  match attempt.reopen with
  | none => session.close.reopen
  | some _ => session.close

theorem recovered_committed (attempt : Attempt) (session : Session Db) :
    (recovered attempt session).committed = session.committed ∧
      (recovered attempt session).commits = session.commits := by
  unfold recovered
  split <;> exact ⟨rfl, rfl⟩

theorem recovered_clean (attempt : Attempt) (session : Session Db) :
    (recovered attempt session).Clean := by
  unfold recovered
  split <;> exact ⟨rfl, rfl⟩

theorem recovered_isOpen (attempts : Nat → Attempt) (turn : Nat) (session : Session Db) :
    (recovered (attempts turn) session).isOpen = true ↔ OpenAt attempts (turn + 1) := by
  cases connected : (attempts turn).reopen with
  | none => simp [recovered, connected, Session.reopen, OpenAt]
  | some error => simp [recovered, connected, Session.close, OpenAt]

section serve

variable {operation : Operation Db Result} {attempts : Nat → Attempt} {retries turn : Nat}
  {session after : Session Db}

theorem serve_ok {value : Result}
    (tried : operation.attemptOnce (attempts turn) session = (.ok value, after)) :
    operation.serve attempts retries turn session =
      { reply := .result value, session := after, fatal := false } := by
  unfold serve
  rw [tried]

theorem serve_stopped {error : PyError} (final : error.isRecoverable = false)
    (tried : operation.attemptOnce (attempts turn) session = (.error error, after)) :
    operation.serve attempts retries turn session =
      { reply := .exception error, session := after, fatal := error.isStorage } := by
  unfold serve
  rw [tried]
  cases storage : error.isStorage <;> simp [storage, final]

theorem isStorage_of_recoverable {error : PyError} (again : error.isRecoverable = true) :
    error.isStorage = false := by
  cases error <;> first | rfl | simp [PyError.isRecoverable] at again

theorem serve_exhausted {error : PyError} (again : error.isRecoverable = true)
    (tried : operation.attemptOnce (attempts turn) session = (.error error, after)) :
    operation.serve attempts 0 turn session =
      { reply := .exception error, session := after.close, fatal := true } := by
  unfold serve
  rw [tried]
  simp [isStorage_of_recoverable again, again]

theorem serve_retry {error : PyError} (again : error.isRecoverable = true)
    (tried : operation.attemptOnce (attempts turn) session = (.error error, after)) :
    operation.serve attempts (retries + 1) turn session =
      operation.serve attempts retries (turn + 1) (recovered (attempts turn) after) := by
  rw [serve, tried]
  simp only [isStorage_of_recoverable again, again, if_true, Bool.false_eq_true, if_false,
    recovered]
  cases (attempts turn).reopen <;> rfl

/-- What each way out of a turn gives, and a further turn keeps, holds of the whole loop. -/
theorem serve_rule {motive : Session Db → Served Db Result → Prop}
    (ok : ∀ turn session value after,
      operation.attemptOnce (attempts turn) session = (.ok value, after) →
        motive session { reply := .result value, session := after, fatal := false })
    (stopped : ∀ turn session error after, error.isRecoverable = false →
      operation.attemptOnce (attempts turn) session = (.error error, after) →
        motive session { reply := .exception error, session := after, fatal := error.isStorage })
    (exhausted : ∀ turn session error after, error.isRecoverable = true →
      operation.attemptOnce (attempts turn) session = (.error error, after) →
        motive session { reply := .exception error, session := after.close, fatal := true })
    (retry : ∀ turn session error after served, error.isRecoverable = true →
      operation.attemptOnce (attempts turn) session = (.error error, after) →
        motive (recovered (attempts turn) after) served → motive session served)
    (retries turn : Nat) (session : Session Db) :
    motive session (operation.serve attempts retries turn session) := by
  induction retries generalizing turn session with
  | zero =>
      cases tried : operation.attemptOnce (attempts turn) session with
      | mk outcome after =>
          cases outcome with
          | ok value => exact serve_ok tried ▸ ok turn session value after tried
          | error error =>
              cases again : error.isRecoverable with
              | false => exact serve_stopped again tried ▸ stopped turn session error after again tried
              | true =>
                  exact serve_exhausted again tried ▸ exhausted turn session error after again tried
  | succ retries ih =>
      cases tried : operation.attemptOnce (attempts turn) session with
      | mk outcome after =>
          cases outcome with
          | ok value => exact serve_ok tried ▸ ok turn session value after tried
          | error error =>
              cases again : error.isRecoverable with
              | false => exact serve_stopped again tried ▸ stopped turn session error after again tried
              | true =>
                  rw [serve_retry again tried]
                  exact retry turn session error after _ again tried (ih (turn + 1) _)

end serve

theorem passes_of_ok {check : SizeCheck} {done : Unit} (ok : check.outcome = .ok done) :
    check = .passes := by
  cases check with
  | passes => rfl
  | tooLarge => simp [SizeCheck.outcome] at ok
  | statFails text => simp [SizeCheck.outcome] at ok

/-- The connection after a turn: as it was, stopped before the commit, or committed. -/
theorem attemptOnce_session (operation : Operation Db Result) (attempt : Attempt)
    (session : Session Db) :
    (operation.attemptOnce attempt session).2 = session ∨
      (∃ statements error, operation.attemptOnce attempt session = (.error error,
        if operation.rollsBack then
          (session.execute (operation.statements.take statements)).rollback
        else session.execute (operation.statements.take statements))) ∨
      (operation.statements ≠ [] ∧ (operation.attemptOnce attempt session).2 =
        (session.execute operation.statements).commit) := by
  cases before : attempt.before.outcome with
  | error error => exact .inl (by rw [attemptOnce_blocked operation before])
  | ok _ =>
      have passes := passes_of_ok before
      cases opened : session.isOpen with
      | false => exact .inl (by rw [attemptOnce_closed operation passes opened])
      | true =>
          cases func : attempt.func with
          | raises statements error =>
              exact .inr (.inl ⟨statements, error, attemptOnce_raises operation passes opened func⟩)
          | commits =>
              by_cases writes : operation.statements = []
              · left
                simp only [attemptOnce, passes, SizeCheck.outcome, call, opened, if_true, func,
                  writes, List.isEmpty_nil]
                cases attempt.after <;> rfl
              · refine .inr (.inr ⟨writes, ?_⟩)
                rw [attemptOnce_commits writes passes opened func]

theorem attemptOnce_mono (operation : Operation Db Result) (attempt : Attempt)
    (session : Session Db) :
    session.commits ≤ (operation.attemptOnce attempt session).2.commits := by
  rcases attemptOnce_session operation attempt session with
    same | ⟨statements, error, stopped⟩ | ⟨-, committed⟩
  · rw [same]
  · rw [stopped]
    split <;> exact Nat.le_refl _
  · rw [committed]
    exact Nat.le_succ _

/-- A turn that gives a result has committed. -/
theorem attemptOnce_result {operation : Operation Db Result} (writes : operation.statements ≠ [])
    {attempt : Attempt} {session after : Session Db} {value : Result}
    (tried : operation.attemptOnce attempt session = (.ok value, after)) :
    session.commits < after.commits := by
  cases before : attempt.before.outcome with
  | error error => simp [attemptOnce_blocked operation before] at tried
  | ok _ =>
      have passes := passes_of_ok before
      cases opened : session.isOpen with
      | false => simp [attemptOnce_closed operation passes opened] at tried
      | true =>
          cases func : attempt.func with
          | raises statements error =>
              simp [attemptOnce_raises operation passes opened func] at tried
          | commits =>
              rw [attemptOnce_commits writes passes opened func] at tried
              rw [← (Prod.mk.inj tried).2]
              exact Nat.lt_succ_self _

/-- Commits are never undone, and a result takes one. -/
theorem serve_commits {operation : Operation Db Result} (writes : operation.statements ≠ [])
    (attempts : Nat → Attempt) (retries turn : Nat) (session : Session Db) :
    session.commits ≤ (operation.serve attempts retries turn session).session.commits ∧
      ∀ value, (operation.serve attempts retries turn session).reply = .result value →
        session.commits < (operation.serve attempts retries turn session).session.commits := by
  have mono : ∀ turn session outcome after,
      operation.attemptOnce (attempts turn) session = (outcome, after) →
        session.commits ≤ after.commits := by
    intro turn session outcome after tried
    have once := attemptOnce_mono operation (attempts turn) session
    rw [tried] at once
    exact once
  refine serve_rule (motive := fun session served => session.commits ≤ served.session.commits ∧
    ∀ value, served.reply = .result value → session.commits < served.session.commits)
    ?_ ?_ ?_ ?_ retries turn session
  · intro turn session value after tried
    exact ⟨mono _ _ _ _ tried, fun _ _ => attemptOnce_result writes tried⟩
  · intro turn session error after _ tried
    exact ⟨mono _ _ _ _ tried, by simp⟩
  · intro turn session error after _ tried
    have once := mono _ _ _ _ tried
    exact ⟨once, by simp⟩
  · intro turn session error after served _ tried later
    rw [(recovered_committed (attempts turn) after).2] at later
    have before := mono _ _ _ _ tried
    exact ⟨before.trans later.1, fun value replied =>
      Nat.lt_of_le_of_lt before (later.2 value replied)⟩

/-- Once a turn has committed without giving its result, no later turn can make good for it. -/
theorem not_faithful_of_committed {operation : Operation Db Result}
    (writes : operation.statements ≠ []) {before after : Session Db}
    (more : before.commits < after.commits) (attempts : Nat → Attempt) (retries turn : Nat) :
    ¬ operation.Faithful before (operation.serve attempts retries turn after) := by
  have nonempty : operation.statements.isEmpty = false := by simpa using writes
  obtain ⟨kept, result⟩ := serve_commits writes attempts retries turn after
  unfold Faithful
  cases replied : (operation.serve attempts retries turn after).reply with
  | result value =>
      have further := result value replied
      simp only [nonempty, Bool.false_eq_true, if_false, not_and]
      omega
  | exception error =>
      simp only [not_and]
      omega

theorem faithful_congr {operation : Operation Db Result} {before other : Session Db}
    (committed : before.committed = other.committed) (commits : before.commits = other.commits)
    (served : Served Db Result) :
    operation.Faithful before served ↔ operation.Faithful other served := by
  simp only [Faithful, committed, commits]

theorem execute_effect (operation : Operation Db Result) {session : Session Db}
    (clean : session.Clean) :
    (session.execute operation.statements).commit.committed =
      operation.effect session.committed := by
  simp [Session.commit, Session.execute, effect, clean.working]

/-- A turn that is turned back leaves the committed content alone. -/
theorem turned_back (operation : Operation Db Result) {attempts : Nat → Attempt} {turn : Nat}
    {session : Session Db} (opened : session.isOpen = true ↔ OpenAt attempts turn)
    (back : TurnedBack attempts turn) :
    operation.Settled attempts turn ∧
      ∃ error after, error.isRecoverable = true ∧
        operation.attemptOnce (attempts turn) session = (.error error, after) ∧
        after.committed = session.committed ∧ after.commits = session.commits := by
  rcases back with ⟨text, statFails⟩ | ⟨passes, closed | ⟨statements, error, func, again⟩⟩
  · refine ⟨fun passes => by simp [statFails] at passes, .osError text, session, rfl, ?_, rfl, rfl⟩
    exact attemptOnce_blocked operation (by simp [statFails, SizeCheck.outcome])
  · refine ⟨fun _ isOpen => absurd isOpen closed, _, session, rfl,
      attemptOnce_closed operation passes ?_, rfl, rfl⟩
    rw [← opened] at closed
    simpa using closed
  · have settled : operation.Settled attempts turn := by
      intro _ _
      refine ⟨fun commits => by simp [func] at commits, ?_⟩
      intro others fault raised final
      rw [func, FuncEnd.raises.injEq] at raised
      rw [← raised.2, again] at final
      exact absurd final (by simp)
    cases isOpen : session.isOpen with
    | false => exact ⟨settled, _, session, rfl, attemptOnce_closed operation passes isOpen, rfl, rfl⟩
    | true =>
        refine ⟨settled, error, _, again, attemptOnce_raises operation passes isOpen func, ?_⟩
        split <;> exact ⟨rfl, rfl⟩

/-- The first turn that is not turned back decides whether the reply is faithful. -/
theorem decided {operation : Operation Db Result} (writes : operation.statements ≠ [])
    {attempts : Nat → Attempt} {turn : Nat} {session : Session Db} (clean : session.Clean)
    (opened : session.isOpen = true ↔ OpenAt attempts turn)
    (decisive : ¬ TurnedBack attempts turn) (retries : Nat) :
    operation.Faithful session (operation.serve attempts retries turn session) ↔
      operation.Settled attempts turn := by
  have nonempty : operation.statements.isEmpty = false := by simpa using writes
  cases before : (attempts turn).before with
  | statFails text => exact absurd (.inl ⟨text, before⟩) decisive
  | tooLarge =>
      have refused : (attempts turn).before.outcome =
          .error (.storageError "DATABASE_MAX_BYTES reached") := by rw [before]; rfl
      have tried : operation.attemptOnce (attempts turn) session = _ :=
        attemptOnce_blocked operation refused
      rw [serve_stopped rfl tried]
      simp [Faithful, Settled, before, clean.uncommitted]
  | passes =>
      cases isOpen : session.isOpen with
      | false =>
          have closed : ¬ OpenAt attempts turn := by
            rw [← opened, isOpen]
            simp
          exact absurd (.inr ⟨before, .inl closed⟩) decisive
      | true =>
          have openHere := opened.mp isOpen
          cases func : (attempts turn).func with
          | raises statements error =>
              have final : error.isRecoverable = false := by
                cases again : error.isRecoverable with
                | false => rfl
                | true =>
                    exact absurd (.inr ⟨before, .inr ⟨statements, error, func, again⟩⟩) decisive
              rw [serve_stopped final (attemptOnce_raises operation before isOpen func)]
              have positive := List.length_pos_iff.mpr writes
              cases rolls : operation.rollsBack with
              | true =>
                  simp [Faithful, Settled, before, func, rolls, Session.rollback, Session.execute]
              | false =>
                  simp only [Faithful, Settled, before, func, rolls, Session.execute, openHere,
                    clean.uncommitted, Bool.false_eq_true, if_false, List.length_take,
                    FuncEnd.raises.injEq, reduceCtorEq, false_implies, true_and, forall_const,
                    false_or, Nat.zero_add]
                  constructor
                  · rintro none others fault ⟨rfl, rfl⟩ _
                    omega
                  · intro all
                    have none := all statements error ⟨rfl, rfl⟩ final
                    omega
          | commits =>
              have tried := attemptOnce_commits writes before isOpen func
              cases after : (attempts turn).after with
              | passes =>
                  rw [after] at tried
                  rw [serve_ok tried]
                  have settled : operation.Settled attempts turn :=
                    fun _ _ => ⟨fun _ => after, fun _ _ raised => by simp [func] at raised⟩
                  refine iff_of_true ⟨execute_effect operation clean, ?_⟩ settled
                  rw [nonempty]
                  rfl
              | tooLarge =>
                  rw [after] at tried
                  rw [serve_stopped rfl tried]
                  simp [Faithful, Settled, before, openHere, func, after, Session.commit,
                    Session.execute]
              | statFails text =>
                  rw [after] at tried
                  have unsettled : ¬ operation.Settled attempts turn := by
                    intro settled
                    have checked := (settled before openHere).1 func
                    simp [after] at checked
                  simp only [unsettled, iff_false]
                  have more : session.commits <
                      (session.execute operation.statements).commit.commits :=
                    Nat.lt_succ_self _
                  cases retries with
                  | zero =>
                      rw [serve_exhausted rfl tried]
                      simp [Faithful, Session.close, Session.rollback, Session.commit,
                        Session.execute]
                  | succ retries =>
                      rw [serve_retry rfl tried]
                      apply not_faithful_of_committed writes
                      rw [(recovered_committed _ _).2]
                      exact more

theorem turns_zero (attempts : Nat → Attempt) (turn : Nat) (good : Nat → Prop) :
    (∀ later ≤ 0, (∀ earlier < later, TurnedBack attempts (turn + earlier)) →
      good (turn + later)) ↔ good turn := by
  constructor
  · intro all
    exact all 0 (Nat.le_refl 0) (by simp)
  · intro first later none _
    obtain rfl := Nat.le_zero.mp none
    exact first

theorem turns_succ (attempts : Nat → Attempt) (retries turn : Nat) (good : Nat → Prop) :
    (∀ later ≤ retries + 1, (∀ earlier < later, TurnedBack attempts (turn + earlier)) →
      good (turn + later)) ↔
    good turn ∧ (TurnedBack attempts turn →
      ∀ later ≤ retries, (∀ earlier < later, TurnedBack attempts (turn + 1 + earlier)) →
        good (turn + 1 + later)) := by
  constructor
  · intro all
    refine ⟨all 0 (Nat.zero_le _) (by simp), fun back later within before => ?_⟩
    have shifted := all (later + 1) (by omega) (by
      intro earlier less
      cases earlier with
      | zero => exact back
      | succ earlier =>
          have turned := before earlier (by omega)
          rwa [Nat.add_assoc, Nat.add_comm 1] at turned)
    rwa [Nat.add_assoc, Nat.add_comm 1]
  · rintro ⟨first, rest⟩ later within before
    cases later with
    | zero => exact first
    | succ later =>
        have back := before 0 (by omega)
        have shifted := rest back later (by omega) (by
          intro earlier less
          have turned := before (earlier + 1) (by omega)
          rwa [Nat.add_assoc, Nat.add_comm 1])
        rwa [Nat.add_assoc, Nat.add_comm 1] at shifted

theorem serve_faithful_iff {operation : Operation Db Result} (writes : operation.statements ≠ [])
    (attempts : Nat → Attempt) (retries turn : Nat) {session : Session Db}
    (clean : session.Clean) (opened : session.isOpen = true ↔ OpenAt attempts turn) :
    operation.Faithful session (operation.serve attempts retries turn session) ↔
      ∀ later ≤ retries, (∀ earlier < later, TurnedBack attempts (turn + earlier)) →
        operation.Settled attempts (turn + later) := by
  induction retries generalizing turn session with
  | zero =>
      rw [turns_zero attempts turn (operation.Settled attempts)]
      by_cases back : TurnedBack attempts turn
      · obtain ⟨settled, error, after, again, tried, committed, commits⟩ :=
          operation.turned_back opened back
        rw [serve_exhausted again tried]
        simp only [settled, iff_true, Faithful]
        exact ⟨committed, commits, rfl⟩
      · exact decided writes clean opened back 0
  | succ retries ih =>
      rw [turns_succ attempts retries turn (operation.Settled attempts)]
      by_cases back : TurnedBack attempts turn
      · obtain ⟨settled, error, after, again, tried, committed, commits⟩ :=
          operation.turned_back opened back
        rw [serve_retry again tried, ← ih (turn + 1) (recovered_clean _ _)
          (recovered_isOpen attempts turn after)]
        simp only [settled, back, true_and, forall_const]
        apply faithful_congr
        · rw [(recovered_committed _ _).1, committed]
        · rw [(recovered_committed _ _).2, commits]
      · rw [decided writes clean opened back (retries + 1)]
        simp [back]

/-- An operation that writes nothing has nothing to be applied. -/
theorem faithful_of_reads {operation : Operation Db Result} (reads : operation.statements = [])
    (attempts : Nat → Attempt) (retries turn : Nat) {session : Session Db}
    (clean : session.Clean) :
    operation.Faithful session (operation.serve attempts retries turn session) := by
  have keeps : ∀ turn (session : Session Db) outcome after, session.uncommitted = 0 →
      operation.attemptOnce (attempts turn) session = (outcome, after) →
        after.committed = session.committed ∧ after.commits = session.commits ∧
          after.uncommitted = 0 := by
    intro turn session outcome after none tried
    have shape := attemptOnce_session operation (attempts turn) session
    rw [tried] at shape
    rcases shape with same | ⟨statements, error, stopped⟩ | ⟨writes, -⟩
    · subst same
      exact ⟨rfl, rfl, none⟩
    · obtain rfl := (Prod.mk.inj stopped).2
      rw [reads, List.take_nil]
      split
      · exact ⟨rfl, rfl, rfl⟩
      · exact ⟨rfl, rfl, none⟩
    · exact absurd reads writes
  have noEffect : ∀ content, operation.effect content = content := by
    simp [effect, reads]
  refine serve_rule (motive := fun session served =>
    session.uncommitted = 0 → operation.Faithful session served) ?_ ?_ ?_ ?_ retries turn session
    clean.uncommitted
  · intro turn session value after tried none
    obtain ⟨committed, commits, -⟩ := keeps turn session _ after none tried
    simp [Faithful, noEffect, reads, committed, commits]
  · intro turn session error after _ tried none
    exact keeps turn session _ after none tried
  · intro turn session error after _ tried none
    obtain ⟨committed, commits, -⟩ := keeps turn session _ after none tried
    exact ⟨committed, commits, rfl⟩
  · intro turn session error after served _ tried later none
    obtain ⟨committed, commits, -⟩ := keeps turn session _ after none tried
    obtain ⟨sameContent, sameCommits⟩ := recovered_committed (attempts turn) after
    rw [faithful_congr (sameContent.trans committed).symm (sameCommits.trans commits).symm]
    exact later (recovered_clean (attempts turn) after).uncommitted

/-- From a clean open connection the reply is faithful exactly when the operation settles. -/
theorem faithful_iff_settles (operation : Operation Db Result) {config : Config}
    (validConfig : 0 ≤ config.dbReopenRetryCount) (attempts : Nat → Attempt)
    {session : Session Db} (clean : session.Clean) (opened : session.isOpen = true) :
    operation.Faithful session (operation.run config attempts session) ↔
      operation.Settles config attempts := by
  by_cases reads : operation.statements = []
  · exact iff_of_true (faithful_of_reads reads attempts _ 0 clean) (.inl reads)
  · rw [run, serve_faithful_iff reads attempts _ 0 clean (by simp [opened, OpenAt])]
    simp only [Nat.zero_add, Settles, reads, false_or]
    refine forall_congr' fun turn => imp_congr_left ?_
    omega

/-- Without uncommitted statements the connection reads what is committed. -/
def Sane (session : Session Db) : Prop :=
  session.uncommitted = 0 → session.working = session.committed

theorem execute_sane {session : Session Db} (sane : Sane session)
    (statements : List (Db → Db)) : Sane (session.execute statements) := by
  intro none
  obtain ⟨before, empty⟩ := Nat.add_eq_zero_iff.mp none
  obtain rfl := List.length_eq_zero_iff.mp empty
  exact sane before

theorem attemptOnce_sane (operation : Operation Db Result) (attempt : Attempt)
    {session : Session Db} (sane : Sane session) :
    Sane (operation.attemptOnce attempt session).2 := by
  rcases attemptOnce_session operation attempt session with
    same | ⟨statements, error, stopped⟩ | ⟨-, committed⟩
  · rw [same]
    exact sane
  · rw [stopped]
    dsimp only
    split
    · exact fun _ => rfl
    · exact execute_sane sane _
  · rw [committed]
    exact fun _ => rfl

/-- A turn that the loop does not recover from has worked on an open connection. -/
theorem attemptOnce_isOpen (operation : Operation Db Result) (attempt : Attempt)
    (session : Session Db) :
    (operation.attemptOnce attempt session).2.isOpen = session.isOpen ∧
      ((∃ value, (operation.attemptOnce attempt session).1 = .ok value) ∨
        (∃ error, (operation.attemptOnce attempt session).1 = .error error ∧
          error.isRecoverable = false ∧ error.isStorage = false) → session.isOpen = true) := by
  constructor
  · rcases attemptOnce_session operation attempt session with
      same | ⟨statements, error, stopped⟩ | ⟨-, committed⟩
    · rw [same]
    · rw [stopped]
      split <;> rfl
    · rw [committed]
      rfl
  · intro decisive
    cases opened : session.isOpen with
    | true => rfl
    | false =>
        cases before : attempt.before with
        | passes =>
            rw [attemptOnce_closed operation before opened] at decisive
            simp [PyError.isRecoverable] at decisive
        | tooLarge =>
            rw [attemptOnce_blocked operation (by rw [before]; rfl)] at decisive
            simp [PyError.isStorage] at decisive
        | statFails text =>
            rw [attemptOnce_blocked operation (by rw [before]; rfl)] at decisive
            simp [PyError.isRecoverable] at decisive

theorem serve_leaves (operation : Operation Db Result) (attempts : Nat → Attempt)
    (retries turn : Nat) {session : Session Db} (sane : Sane session) :
    Sane (operation.serve attempts retries turn session).session ∧
      ((operation.serve attempts retries turn session).fatal = false →
        (operation.serve attempts retries turn session).session.isOpen = true) := by
  refine serve_rule (motive := fun session served => Sane session →
    Sane served.session ∧ (served.fatal = false → served.session.isOpen = true))
    ?_ ?_ ?_ ?_ retries turn session sane
  · intro turn session value after tried sane
    have kept := attemptOnce_sane operation (attempts turn) sane
    obtain ⟨same, decisive⟩ := attemptOnce_isOpen operation (attempts turn) session
    rw [tried] at kept same decisive
    exact ⟨kept, fun _ => same.trans (decisive (.inl ⟨value, rfl⟩))⟩
  · intro turn session error after final tried sane
    have kept := attemptOnce_sane operation (attempts turn) sane
    obtain ⟨same, decisive⟩ := attemptOnce_isOpen operation (attempts turn) session
    rw [tried] at kept same decisive
    exact ⟨kept, fun goesOn => same.trans (decisive (.inr ⟨error, rfl, final, goesOn⟩))⟩
  · intro turn session error after _ _ _
    exact ⟨fun _ => rfl, by simp⟩
  · intro turn session error after served _ _ later _
    exact later fun _ => (recovered_clean (attempts turn) after).working

/-- A result leaves nothing uncommitted, unless it was there before. -/
theorem serve_result (operation : Operation Db Result) (attempts : Nat → Attempt)
    (retries turn : Nat) {session : Session Db} (clean : session.uncommitted = 0) {value : Result}
    (replied : (operation.serve attempts retries turn session).reply = .result value) :
    (operation.serve attempts retries turn session).session.uncommitted = 0 := by
  revert replied
  refine serve_rule (motive := fun session served => session.uncommitted = 0 →
    served.reply = .result value → served.session.uncommitted = 0)
    ?_ ?_ ?_ ?_ retries turn session clean
  · intro turn session value after tried none _
    have shape := attemptOnce_session operation (attempts turn) session
    rw [tried] at shape
    rcases shape with same | ⟨statements, error, stopped⟩ | ⟨-, committed⟩
    · exact (congrArg Session.uncommitted same).trans none
    · simp at stopped
    · exact congrArg Session.uncommitted committed
  · simp
  · simp
  · intro turn session error after served _ _ later _
    exact later (recovered_clean (attempts turn) after).uncommitted

end Operation

/-- An operation with what the world does to its turns. -/
structure Job (Db Result : Type) where
  operation : Operation Db Result
  attempts : Nat → Attempt

/-- `_run` over the operations that it gets; `none` when one of them ends the thread. -/
def serveAll (config : Config) : List (Job Db Result) → Session Db → Option (Session Db)
  | [], session => some session
  | job :: jobs, session =>
      let served := job.operation.run config job.attempts session
      if served.fatal then none else serveAll config jobs served.session

theorem serveAll_clean {config : Config} (validConfig : 0 ≤ config.dbReopenRetryCount)
    {jobs : List (Job Db Result)}
    (settled : ∀ job ∈ jobs, job.operation.Settles config job.attempts)
    {session final : Session Db} (clean : session.Clean) (opened : session.isOpen = true)
    (ran : serveAll config jobs session = some final) :
    final.Clean ∧ final.isOpen = true := by
  induction jobs generalizing session with
  | nil =>
      simp only [serveAll, Option.some.injEq] at ran
      exact ran ▸ ⟨clean, opened⟩
  | cons job jobs ih =>
      rw [List.forall_mem_cons] at settled
      simp only [serveAll] at ran
      split at ran
      · simp at ran
      · rename_i goesOn
        have working : Operation.Sane session := fun _ => clean.working
        obtain ⟨sane, stays⟩ := job.operation.serve_leaves job.attempts
          config.dbReopenRetryCount.toNat 0 working
        have faithful := (job.operation.faithful_iff_settles validConfig job.attempts clean opened).mpr
          settled.1
        have settledDown : (job.operation.run config job.attempts session).session.uncommitted =
            0 := by
          unfold Operation.Faithful at faithful
          cases replied : (job.operation.run config job.attempts session).reply with
          | result value =>
              exact job.operation.serve_result job.attempts _ 0 clean.uncommitted replied
          | exception error =>
              rw [replied] at faithful
              exact faithful.2.2
        exact ih settled.2 ⟨sane settledDown, settledDown⟩ (stays (Bool.eq_false_iff.mpr goesOn)) ran

/-- Behind any operations that settled, the reply to the next one is faithful exactly when it
settles as well: when no size check fails behind its commit, and when an exception from which the
loop does not recover leaves nothing uncommitted. -/
theorem served_faithfully_iff (config : Config) (validConfig : 0 ≤ config.dbReopenRetryCount)
    (content : Db) (earlier : List (Job Db Result))
    (settled : ∀ job ∈ earlier, job.operation.Settles config job.attempts) (session : Session Db)
    (ran : serveAll config earlier (.connect content) = some session)
    (operation : Operation Db Result) (attempts : Nat → Attempt) :
    operation.Faithful session (operation.run config attempts session) ↔
      operation.Settles config attempts := by
  obtain ⟨clean, opened⟩ := serveAll_clean validConfig settled ⟨rfl, rfl⟩ rfl ran
  exact operation.faithful_iff_settles validConfig attempts clean opened

/-- A candidate that nobody has tried to fetch. -/
def seenOnce : Catalogue :=
  { candidates := [("dht20:01", { state := .new, firstSeen := 1, lastSeen := 1 })] }

/-- The disk fails behind the first statement, in the first turns only. -/
def failsBefore (recovered : Nat) (turn : Nat) : Attempt :=
  if turn < recovered then { func := .raises 1 (.databaseError "disk I/O error") } else {}

/-- Behind a call that comes through in its second turn, another one never does: nothing of it is
left. -/
theorem served_faithfully_iff_sample :
    let marking := Catalogue.markFetching "dht20:01"
    ∃ session, serveAll {} [{ operation := marking 5, attempts := failsBefore 1 }]
        (.connect seenOnce) = some session ∧ session.commits = 1 ∧
      ((marking 6).run {} (failsBefore 99) session).reply =
        .exception (.databaseError "disk I/O error") ∧
      ((marking 6).run {} (failsBefore 99) session).session.commits = 1 ∧
      ((marking 6).Faithful session ((marking 6).run {} (failsBefore 99) session) ↔
        (marking 6).Settles {} (failsBefore 99)) := by
  refine ⟨_, rfl, rfl, rfl, rfl, ?_⟩
  refine served_faithfully_iff {} (by decide) seenOnce
    [{ operation := Catalogue.markFetching "dht20:01" 5, attempts := failsBefore 1 }] ?_ _ rfl _ _
  intro job member
  rw [List.mem_singleton.mp member]
  refine .inr fun turn _ _ _ _ => ?_
  cases turn with
  | zero => simp [failsBefore, PyError.isRecoverable]
  | succ turn => simp [failsBefore]

/-- The database file cannot be examined right after the commit of the first turn. -/
def statFailsOnce : Nat → Attempt
  | 0 => { after := .statFails "stat" }
  | _ => {}

/-- The loop runs `mark_fetching` a second time: one call counts two attempts. -/
theorem markFetching_applied_twice :
    let served := (Catalogue.markFetching "dht20:01" 5).run {} statFailsOnce (.connect seenOnce)
    served.reply = .result true ∧ served.session.commits = 2 ∧
      served.session.committed.candidates.map (fun row => row.2.attempts) = [2] ∧
      ¬ (Catalogue.markFetching "dht20:01" 5).Faithful (.connect seenOnce) served := by
  refine ⟨rfl, rfl, rfl, ?_⟩
  rintro ⟨-, commits⟩
  exact absurd commits (by decide)

end PyDht
