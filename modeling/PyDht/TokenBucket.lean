import PyDht.Lib.Allowance
import Mathlib.Data.Rat.Cast.Order
import Mathlib.Data.Fintype.Basic

set_option autoImplicit false

namespace PyDht

/-- `TokenBucket`; `waiters` counts the callers of the three classes (routing and maintenance,
torrent lookup, BEP-51). Times are in seconds. -/
structure TokenBucket where
  rate : Rat
  capacity : Rat
  tokens : Rat
  updated : Rat
  waiters : Fin 3 → Int := fun _ => 0

namespace TokenBucket

/-- `TokenBucket.__init__`. -/
def new (rate : Rat) (burst : Int) (now : Rat) : TokenBucket :=
  { rate, capacity := burst, tokens := burst, updated := now }

/-- `max(0, min(priority, 2))`. -/
def classOf (priority : Int) : Fin 3 := ⟨(max 0 (min priority 2)).toNat, by omega⟩

/-- `self._waiters[priority] += change`. -/
def count (bucket : TokenBucket) (priority : Fin 3) (change : Int) : TokenBucket :=
  { bucket with
    waiters := Function.update bucket.waiters priority (bucket.waiters priority + change) }

def refill (bucket : TokenBucket) (now : Rat) : TokenBucket :=
  { bucket with
    tokens := min bucket.capacity (bucket.tokens + (now - bucket.updated) * bucket.rate)
    updated := now }

def higherWaiting (bucket : TokenBucket) (priority : Fin 3) : Bool :=
  decide (∃ higher < priority, 0 < bucket.waiters higher)

/-- `min(delay, 0.05)`. -/
def delay (bucket : TokenBucket) : Rat :=
  min (if bucket.tokens < 1 then max (1 / 1000) ((1 - bucket.tokens) / bucket.rate) else 1 / 1000)
    (1 / 20)

/-- The body of the loop: a caller of this class gets a token, or the time to sleep. It does not
pause while it holds the lock, so the lock is free whenever a caller asks for it. -/
def round (bucket : TokenBucket) (priority : Fin 3) (now : Rat) : TokenBucket × Option Rat :=
  let bucket := bucket.refill now
  if 1 ≤ bucket.tokens ∧ bucket.higherWaiting priority = false then
    ({ bucket with tokens := bucket.tokens - 1 }, none)
  else (bucket, some bucket.delay)

end TokenBucket

/-- How far a call of `acquire` is; `delay` is the time it sleeps for. -/
inductive AcquirePhase where
  | waiting (delay : Rat)
  | granted
  | cancelled
deriving DecidableEq, Repr

def AcquirePhase.isWaiting : AcquirePhase → Bool
  | .waiting _ => true
  | .granted | .cancelled => false

def AcquirePhase.isGranted : AcquirePhase → Bool
  | .granted => true
  | .waiting _ | .cancelled => false

@[simp] theorem AcquirePhase.isWaiting_waiting (delay : Rat) :
    (AcquirePhase.waiting delay).isWaiting = true := rfl

structure AcquireCall where
  priority : Fin 3
  phase : AcquirePhase
deriving DecidableEq, Repr

/-- A token that was given away. -/
structure Grant where
  call : Nat
  priority : Fin 3
  now : Rat
deriving DecidableEq, Repr

/-- The bucket with all calls of `acquire` so far. `released` are the calls whose `finally` has
run. -/
structure Limiter where
  bucket : TokenBucket
  calls : List AcquireCall := []
  grants : List Grant := []
  released : List Nat := []

/-- What happens next on the event loop: a new call, a sleeping call that goes on, or a sleeping
call that is cancelled. -/
inductive LimiterEvent where
  | acquire (priority : Int) (now : Rat)
  | wake (call : Nat) (now : Rat)
  | cancel (call : Nat)
deriving DecidableEq, Repr

namespace Limiter

def new (rate : Rat) (burst : Int) (now : Rat) : Limiter := { bucket := .new rate burst now }

/-- A new call counts itself among the waiters. -/
def enter (limiter : Limiter) (priority : Fin 3) : Limiter :=
  { limiter with
    bucket := limiter.bucket.count priority 1
    calls := limiter.calls ++ [{ priority, phase := .waiting 0 }] }

/-- The call leaves the loop, and its `finally` runs. -/
def leave (limiter : Limiter) (call : Nat) (priority : Fin 3) (phase : AcquirePhase) : Limiter :=
  { limiter with
    bucket := limiter.bucket.count priority (-1)
    calls := limiter.calls.set call { priority, phase }
    released := limiter.released ++ [call] }

/-- One round of the loop for a call. -/
def round (limiter : Limiter) (call : Nat) (priority : Fin 3) (now : Rat) : Limiter :=
  match limiter.bucket.round priority now with
  | (bucket, none) =>
      let grant : Grant := { call, priority, now }
      leave { limiter with bucket, grants := limiter.grants ++ [grant] } call priority .granted
  | (bucket, some delay) =>
      { limiter with
        bucket, calls := limiter.calls.set call { priority, phase := .waiting delay } }

/-- One step of a call. The clock does not run backwards, and only a sleeping call can go on or be
cancelled. -/
def step (limiter : Limiter) : LimiterEvent → Option Limiter
  | .acquire priority now =>
      let priority := TokenBucket.classOf priority
      if limiter.bucket.updated ≤ now then
        some ((limiter.enter priority).round limiter.calls.length priority now)
      else none
  | .wake call now =>
      match limiter.calls[call]? with
      | some ⟨priority, .waiting _⟩ =>
          if limiter.bucket.updated ≤ now then some (limiter.round call priority now) else none
      | _ => none
  | .cancel call =>
      match limiter.calls[call]? with
      | some ⟨priority, .waiting _⟩ => some (limiter.leave call priority .cancelled)
      | _ => none

end Limiter

namespace Limiter

/-- The calls of a class that wait. -/
def waitingIn (calls : List AcquireCall) (priority : Fin 3) : Nat :=
  calls.countP fun call => call.phase.isWaiting ∧ call.priority = priority

/-- The call is there, and its phase is one of these. -/
def isAt (test : AcquirePhase → Bool) (calls : List AcquireCall) (call : Nat) : Bool :=
  calls[call]?.any fun found => test found.phase

/-- The waiter counts are those of the calls that wait, `finally` has run once for each of the
others, and each granted call has one token. -/
structure Counted (limiter : Limiter) : Prop where
  waiters : ∀ priority, limiter.bucket.waiters priority = waitingIn limiter.calls priority
  released : ∀ call, limiter.released.count call =
    if isAt (fun phase => !phase.isWaiting) limiter.calls call then 1 else 0
  granted : ∀ call, limiter.grants.countP (fun grant => grant.call = call) =
    if isAt AcquirePhase.isGranted limiter.calls call then 1 else 0

/-- The turns at the allowance that were taken so far. -/
structure Accounted (perSecond : Rat) (burst : Int) (start : Rat) (limiter : Limiter)
    (turns : List (Allowance.Turn Rat)) : Prop where
  rate : limiter.bucket.rate = perSecond
  capacity : limiter.bucket.capacity = burst
  ran : Transition.run (Allowance.Level.turn perSecond (burst : Rat)) ⟨burst, start⟩ turns =
    some ⟨limiter.bucket.tokens, limiter.bucket.updated⟩
  grants : limiter.grants.map Grant.now = (turns.filter Allowance.Turn.spent).map Allowance.Turn.now

/-- The call waits in this class. -/
def WaitsAs (limiter : Limiter) (call : Nat) (priority : Fin 3) : Prop :=
  ∃ delay, limiter.calls[call]? = some ⟨priority, .waiting delay⟩

/-- The bucket that has just given a token away. -/
def spend (limiter : Limiter) (call : Nat) (priority : Fin 3) (now : Rat) : Limiter :=
  { limiter with
    bucket :=
      { limiter.bucket.refill now with tokens := (limiter.bucket.refill now).tokens - 1 }
    grants := limiter.grants ++ [{ call, priority, now }] }

/-- The bucket that gave no token, and the call asleep again. -/
def postpone (limiter : Limiter) (call : Nat) (priority : Fin 3) (now : Rat) : Limiter :=
  { limiter with
    bucket := limiter.bucket.refill now
    calls := limiter.calls.set call
      { priority, phase := .waiting (limiter.bucket.refill now).delay } }

/-- What a round of the loop does. -/
theorem round_cases (limiter : Limiter) (call : Nat) (priority : Fin 3) (now : Rat) :
    (1 ≤ (limiter.bucket.refill now).tokens ∧ limiter.bucket.higherWaiting priority = false ∧
      limiter.round call priority now =
        (limiter.spend call priority now).leave call priority .granted) ∨
    limiter.round call priority now = limiter.postpone call priority now := by
  unfold round TokenBucket.round
  dsimp only
  by_cases free : 1 ≤ (limiter.bucket.refill now).tokens ∧
      (limiter.bucket.refill now).higherWaiting priority = false
  · rw [if_pos free]
    exact .inl ⟨free.1, free.2, rfl⟩
  · rw [if_neg free]
    exact .inr rfl

/-- What a step does. -/
theorem step_cases {limiter next : Limiter} {event : LimiterEvent}
    (taken : limiter.step event = some next) :
    (∃ call priority, limiter.WaitsAs call priority ∧
      next = limiter.leave call priority .cancelled) ∨
    ∃ entered call priority now, (entered = limiter ∨ entered = limiter.enter priority) ∧
      entered.WaitsAs call priority ∧ limiter.bucket.updated ≤ now ∧
      next = entered.round call priority now := by
  unfold step at taken
  cases event with
  | acquire priority now =>
      dsimp only at taken
      split at taken
      · rename_i later
        refine .inr ⟨_, _, _, now, .inr rfl, ⟨0, ?_⟩, later, (Option.some.inj taken).symm⟩
        exact List.getElem?_concat_length
      · cases taken
  | wake call now =>
      dsimp only at taken
      split at taken
      · rename_i priority delay waits
        split at taken
        · rename_i later
          exact .inr ⟨_, call, priority, now, .inl rfl, ⟨delay, waits⟩, later,
            (Option.some.inj taken).symm⟩
        · cases taken
      · cases taken
  | cancel call =>
      dsimp only at taken
      split at taken
      · rename_i priority delay waits
        exact .inl ⟨call, priority, ⟨delay, waits⟩, (Option.some.inj taken).symm⟩
      · cases taken

section counts

variable {limiter : Limiter} {call : Nat} {priority : Fin 3}

/-- Another phase of a waiting call. -/
theorem waitingIn_set {calls : List AcquireCall} {delay : Rat}
    (waits : calls[call]? = some ⟨priority, .waiting delay⟩) (phase : AcquirePhase)
    (other : Fin 3) :
    waitingIn (calls.set call ⟨priority, phase⟩) other + (if priority = other then 1 else 0) =
      waitingIn calls other + if phase.isWaiting ∧ priority = other then 1 else 0 := by
  obtain ⟨inside, here⟩ := List.getElem?_eq_some_iff.mp waits
  unfold waitingIn
  rw [List.countP_set inside, here]
  by_cases same : priority = other
  · have present : 0 < calls.countP fun call => call.phase.isWaiting ∧ call.priority = other :=
      List.countP_pos_iff.mpr ⟨_, List.mem_of_getElem? waits, by simp [same]⟩
    revert present
    generalize calls.countP _ = waiting
    intro present
    cases phase.isWaiting <;> simp [same] <;> omega
  · simp [same]

theorem isAt_set {calls : List AcquireCall} (inside : call < calls.length)
    (test : AcquirePhase → Bool) (phase : AcquirePhase) (other : Nat) :
    isAt test (calls.set call ⟨priority, phase⟩) other =
      if call = other then test phase else isAt test calls other := by
  unfold isAt
  rw [List.getElem?_set]
  by_cases same : call = other
  · subst same
    simp [inside]
  · simp [same]

theorem isAt_enter {test : AcquirePhase → Bool} (fails : test (.waiting 0) = false)
    (limiter : Limiter) (priority : Fin 3) (other : Nat) :
    isAt test (limiter.enter priority).calls other = isAt test limiter.calls other := by
  unfold isAt Limiter.enter
  by_cases inside : other < limiter.calls.length
  · rw [List.getElem?_append_left inside]
  · rw [List.getElem?_append_right (not_lt.mp inside), List.getElem?_eq_none (not_lt.mp inside)]
    cases other - limiter.calls.length with
    | zero => exact fails
    | succ n => rfl

theorem WaitsAs.inside (waits : limiter.WaitsAs call priority) : call < limiter.calls.length := by
  obtain ⟨delay, waits⟩ := waits
  exact (List.getElem?_eq_some_iff.mp waits).1

theorem WaitsAs.isAt_eq (waits : limiter.WaitsAs call priority) {test : AcquirePhase → Bool}
    (fails : ∀ delay, test (.waiting delay) = false) : isAt test limiter.calls call = false := by
  obtain ⟨delay, waits⟩ := waits
  simp [isAt, waits, fails]

theorem Counted.enter (counted : limiter.Counted) (priority : Fin 3) :
    (limiter.enter priority).Counted := by
  constructor
  · intro other
    have one : waitingIn (limiter.enter priority).calls other =
        waitingIn limiter.calls other + if priority = other then 1 else 0 := by
      simp [Limiter.enter, waitingIn, ]
    rw [one]
    by_cases same : priority = other
    · subst same
      simp [Limiter.enter, TokenBucket.count, counted.waiters]
    · simp [Limiter.enter, TokenBucket.count, same, Ne.symm same, counted.waiters]
  · intro other
    rw [isAt_enter rfl]
    exact counted.released other
  · intro other
    rw [isAt_enter rfl]
    exact counted.granted other

/-- `finally` takes a waiting call off the counts. -/
theorem leave_waiters (waiters : ∀ priority,
      limiter.bucket.waiters priority = waitingIn limiter.calls priority)
    (waits : limiter.WaitsAs call priority) {phase : AcquirePhase}
    (ended : phase.isWaiting = false) (other : Fin 3) :
    (limiter.leave call priority phase).bucket.waiters other =
      waitingIn (limiter.leave call priority phase).calls other := by
  obtain ⟨delay, found⟩ := waits
  have fewer := waitingIn_set found phase other
  have before := waiters other
  by_cases same : priority = other
  · subst same
    simp only [ended, Bool.false_eq_true, false_and, if_false, if_true] at fewer
    simp only [Limiter.leave, TokenBucket.count, Function.update_self]
    omega
  · simp only [same, and_false, if_false] at fewer
    simp only [Limiter.leave, TokenBucket.count, Function.update_of_ne (Ne.symm same)]
    omega

theorem leave_released (released : ∀ call, limiter.released.count call =
      if isAt (fun phase => !phase.isWaiting) limiter.calls call then 1 else 0)
    (waits : limiter.WaitsAs call priority) {phase : AcquirePhase}
    (ended : phase.isWaiting = false) (other : Nat) :
    (limiter.leave call priority phase).released.count other =
      if isAt (fun phase => !phase.isWaiting) (limiter.leave call priority phase).calls other
        then 1 else 0 := by
  have unfinished : isAt (fun phase => !phase.isWaiting) limiter.calls call = false :=
    waits.isAt_eq fun _ => rfl
  simp only [Limiter.leave, List.count_append, isAt_set waits.inside, released other, ended]
  by_cases same : call = other
  · subst same
    simp [unfinished]
  · simp [same]

theorem Counted.cancel (counted : limiter.Counted) (waits : limiter.WaitsAs call priority) :
    (limiter.leave call priority .cancelled).Counted := by
  refine ⟨leave_waiters counted.waiters waits rfl, leave_released counted.released waits rfl, ?_⟩
  intro other
  have ungranted : isAt AcquirePhase.isGranted limiter.calls call = false :=
    waits.isAt_eq fun _ => rfl
  have before := counted.granted other
  simp only [Limiter.leave, isAt_set waits.inside, before]
  by_cases same : call = other
  · subst same
    simp [ungranted, AcquirePhase.isGranted]
  · simp [same]

/-- A call that is given a token. -/
theorem Counted.grant (counted : limiter.Counted) (waits : limiter.WaitsAs call priority)
    (now : Rat) : ((limiter.spend call priority now).leave call priority .granted).Counted := by
  have spent : (limiter.spend call priority now).WaitsAs call priority := waits
  refine ⟨leave_waiters counted.waiters spent rfl, leave_released counted.released spent rfl, ?_⟩
  intro other
  have ungranted : isAt AcquirePhase.isGranted limiter.calls call = false :=
    waits.isAt_eq fun _ => rfl
  have before := counted.granted other
  simp only [Limiter.leave, Limiter.spend, List.countP_append, List.countP_singleton,
    isAt_set waits.inside, before]
  by_cases same : call = other
  · subst same
    simp [ungranted, AcquirePhase.isGranted]
  · simp [same]

/-- A call that stays asleep changes no count. -/
theorem Counted.postpone (counted : limiter.Counted) (waits : limiter.WaitsAs call priority)
    (now : Rat) : (limiter.postpone call priority now).Counted := by
  have stays : ∀ test : AcquirePhase → Bool, (∀ delay, test (.waiting delay) = false) →
      ∀ other, isAt test (limiter.postpone call priority now).calls other =
        isAt test limiter.calls other := by
    intro test fails other
    have before := waits.isAt_eq fails
    simp only [Limiter.postpone, isAt_set waits.inside]
    by_cases same : call = other
    · subst same
      simp [before, fails]
    · simp [same]
  refine ⟨?_, fun other => ?_, fun other => ?_⟩
  · intro other
    obtain ⟨delay, found⟩ := waits
    have same := waitingIn_set found (.waiting (limiter.bucket.refill now).delay) other
    have before := counted.waiters other
    simp only [AcquirePhase.isWaiting_waiting, true_and] at same
    simp only [Limiter.postpone, TokenBucket.refill] at same ⊢
    omega
  · rw [stays _ fun _ => rfl]
    exact counted.released other
  · rw [stays _ fun _ => rfl]
    exact counted.granted other

theorem Counted.round (counted : limiter.Counted) (waits : limiter.WaitsAs call priority)
    (now : Rat) : (limiter.round call priority now).Counted := by
  obtain ⟨-, -, granted⟩ | postponed := round_cases limiter call priority now
  · rw [granted]
    exact counted.grant waits now
  · rw [postponed]
    exact counted.postpone waits now

/-- Every step keeps the counts. -/
theorem Counted.step (counted : limiter.Counted) {event : LimiterEvent} {next : Limiter}
    (taken : limiter.step event = some next) : next.Counted := by
  obtain ⟨call, priority, waits, rfl⟩ | ⟨entered, call, priority, now, origin, waits, -, rfl⟩ :=
    step_cases taken
  · exact counted.cancel waits
  · obtain rfl | rfl := origin
    · exact counted.round waits now
    · exact (counted.enter priority).round waits now

theorem Counted.new (perSecond : Rat) (burst : Int) (now : Rat) :
    (Limiter.new perSecond burst now).Counted := by
  constructor
  · intro priority
    rfl
  · intro call
    rfl
  · intro call
    rfl

/-- With right counts `higherWaiting` tells whether a call of a higher class waits. -/
theorem Counted.higherWaiting_iff (counted : limiter.Counted) (priority : Fin 3) :
    limiter.bucket.higherWaiting priority = true ↔
      ∃ other ∈ limiter.calls, other.phase.isWaiting = true ∧ other.priority < priority := by
  unfold TokenBucket.higherWaiting
  rw [decide_eq_true_iff]
  constructor
  · intro waits
    obtain ⟨higher, above, positive⟩ := waits
    rw [counted.waiters] at positive
    have present : 0 < waitingIn limiter.calls higher := by exact_mod_cast positive
    obtain ⟨other, member, waiting⟩ := List.countP_pos_iff.mp present
    obtain ⟨waiting, same⟩ := of_decide_eq_true waiting
    exact ⟨other, member, waiting, same ▸ above⟩
  · intro waits
    obtain ⟨other, member, waiting, above⟩ := waits
    refine ⟨other.priority, above, ?_⟩
    have present : 0 < waitingIn limiter.calls other.priority :=
      List.countP_pos_iff.mpr ⟨other, member, by simp [waiting]⟩
    rw [counted.waiters]
    exact_mod_cast present

end counts

section account

variable {perSecond start : Rat} {burst : Int} {limiter : Limiter}
  {turns : List (Allowance.Turn Rat)}

/-- A round is a turn at the allowance. -/
theorem Accounted.round (accounted : Accounted perSecond burst start limiter turns) {now : Rat}
    (later : limiter.bucket.updated ≤ now) (call : Nat) (priority : Fin 3) :
    ∃ turn, Accounted perSecond burst start (limiter.round call priority now) (turns ++ [turn]) := by
  have rate := accounted.rate
  have capacity := accounted.capacity
  have refilled : (Allowance.Level.refill perSecond (burst : Rat) now
      ⟨limiter.bucket.tokens, limiter.bucket.updated⟩) =
        ⟨(limiter.bucket.refill now).tokens, now⟩ := by
    rw [← rate, ← capacity]
    rfl
  obtain ⟨enough, -, granted⟩ | postponed := round_cases limiter call priority now
  · refine ⟨⟨now, true⟩, ?_⟩
    rw [granted]
    refine ⟨rate, capacity, Transition.run_concat.mpr ⟨_, accounted.ran, ?_⟩, ?_⟩
    · simp only [Allowance.Level.turn, refilled, later, enough, if_true]
      rfl
    · simp [Limiter.leave, Limiter.spend, accounted.grants]
  · refine ⟨⟨now, false⟩, ?_⟩
    rw [postponed]
    refine ⟨rate, capacity, Transition.run_concat.mpr ⟨_, accounted.ran, ?_⟩, ?_⟩
    · simp only [Allowance.Level.turn, refilled, later, if_true]
      rfl
    · simp [Limiter.postpone, accounted.grants]

theorem Accounted.step (accounted : Accounted perSecond burst start limiter turns)
    {event : LimiterEvent} {next : Limiter} (taken : limiter.step event = some next) :
    ∃ turns, Accounted perSecond burst start next turns := by
  obtain ⟨call, priority, -, rfl⟩ | ⟨entered, call, priority, now, origin, -, later, rfl⟩ :=
    step_cases taken
  · exact ⟨turns, accounted.rate, accounted.capacity, accounted.ran, accounted.grants⟩
  · obtain rfl | rfl := origin
    · exact ⟨_, (accounted.round later call priority).choose_spec⟩
    · have entered : Accounted perSecond burst start (limiter.enter priority) turns :=
        ⟨accounted.rate, accounted.capacity, accounted.ran, accounted.grants⟩
      exact ⟨_, (entered.round later call priority).choose_spec⟩

/-- The tokens given away in a window are the units spent in it. -/
theorem Accounted.window (accounted : Accounted perSecond burst start limiter turns)
    (first last : Rat) :
    limiter.grants.countP (fun grant => first ≤ grant.now ∧ grant.now ≤ last) =
      Allowance.spentWithin first last turns := by
  have times := congrArg (List.countP fun now => decide (first ≤ now ∧ now ≤ last)) accounted.grants
  rw [List.countP_map, List.countP_map, List.countP_filter] at times
  unfold Allowance.spentWithin
  rw [show (fun grant : Grant => decide (first ≤ grant.now ∧ grant.now ≤ last)) =
    (fun now => decide (first ≤ now ∧ now ≤ last)) ∘ Grant.now from rfl, times]
  apply List.countP_congr
  intro turn _
  simp [and_comm]

end account

/-- What the limiter keeps to: the tokens, the windows, the classes and the counts. -/
structure Disciplined (perSecond : Rat) (burst : Int) (limiter : Limiter) : Prop where
  tokens : 0 ≤ limiter.bucket.tokens ∧ limiter.bucket.tokens ≤ burst
  window : ∀ first length : Rat, 0 ≤ length →
    ((limiter.grants.countP fun grant => first ≤ grant.now ∧ grant.now ≤ first + length : Nat) : Rat)
      ≤ burst + perSecond * length
  ordered : ∀ event next grant, limiter.step event = some next →
    next.grants = limiter.grants ++ [grant] →
      ∀ call ∈ limiter.calls, call.phase.isWaiting = true → grant.priority ≤ call.priority
  counted : limiter.Counted
  blocked : ∀ priority, limiter.bucket.higherWaiting priority = true ↔
    ∃ call ∈ limiter.calls, call.phase.isWaiting = true ∧ call.priority < priority

/-- A step gives a token only to a caller that no caller of a higher class waits before. -/
theorem Counted.ordered {limiter next : Limiter} (counted : limiter.Counted) {event : LimiterEvent}
    {grant : Grant} (taken : limiter.step event = some next)
    (granted : next.grants = limiter.grants ++ [grant]) :
    ∀ call ∈ limiter.calls, call.phase.isWaiting = true → grant.priority ≤ call.priority := by
  intro other member waiting
  have longer := congrArg List.length granted
  rw [List.length_append, List.length_singleton] at longer
  obtain ⟨call, priority, -, rfl⟩ | ⟨entered, call, priority, now, origin, -, -, rfl⟩ :=
    step_cases taken
  · simp only [leave] at longer
    omega
  · have entering : entered.Counted ∧ entered.grants = limiter.grants ∧ other ∈ entered.calls := by
      obtain rfl | rfl := origin
      · exact ⟨counted, rfl, member⟩
      · exact ⟨counted.enter priority, rfl, List.mem_append_left _ member⟩
    obtain ⟨counted, grants, member⟩ := entering
    obtain ⟨-, free, spent⟩ | postponed := round_cases entered call priority now
    · rw [spent] at granted
      simp only [leave, spend, grants, List.append_cancel_left_eq, List.cons.injEq,
        and_true] at granted
      rw [← granted]
      apply not_lt.mp
      intro above
      have blocked := (counted.higherWaiting_iff priority).mpr ⟨other, member, waiting, above⟩
      rw [free] at blocked
      cases blocked
    · rw [postponed] at longer
      have same : (entered.postpone call priority now).grants = limiter.grants := grants
      rw [same] at longer
      omega

/-- Every run of calls of `acquire`, however they take turns and whichever are cancelled, keeps the
limiter disciplined. -/
theorem run_disciplined (perSecond : Rat) (burst : Int) (start : Rat) (positive : 0 < perSecond)
    (room : 1 ≤ burst) (events : List LimiterEvent) (limiter : Limiter)
    (ran : Transition.run step (new perSecond burst start) events = some limiter) :
    limiter.Disciplined perSecond burst := by
  have whole : (0 : Rat) ≤ burst := by exact_mod_cast Int.le_trans Int.one_nonneg room
  have full : (⟨burst, start⟩ : Allowance.Level Rat).Sound (burst : Rat) :=
    ⟨whole, le_refl _⟩
  have counted : limiter.Counted :=
    Transition.invariant_run Counted (fun _ _ _ holds taken => holds.step taken) ran
      (Counted.new perSecond burst start)
  obtain ⟨turns, accounted⟩ : ∃ turns, Accounted perSecond burst start limiter turns := by
    refine Transition.invariant_run (fun limiter => ∃ turns,
      Accounted perSecond burst start limiter turns) ?_ ran ⟨[], rfl, rfl, rfl, rfl⟩
    intro state event next accounted taken
    obtain ⟨turns, accounted⟩ := accounted
    exact accounted.step taken
  have sound : (⟨limiter.bucket.tokens, limiter.bucket.updated⟩ : Allowance.Level Rat).Sound
      (burst : Rat) :=
    Transition.invariant_run (Allowance.Level.Sound (burst : Rat))
      (fun _ _ _ holds taken => holds.turn positive.le taken) accounted.ran full
  refine ⟨sound, ?_, fun event next grant => counted.ordered, counted,
    counted.higherWaiting_iff⟩
  intro first length some_length
  have spent := Allowance.spentWithin_le (by linarith : first ≤ first + length) full positive.le
    accounted.ran
  rw [accounted.window, mul_comm perSecond length]
  linarith

/-- A caller of the last class waits behind one of the first, which is cancelled. -/
theorem run_disciplined_sample :
    ∃ limiter, Transition.run step (new 1 1 0)
        [.acquire 1 0, .acquire 0 0, .acquire 7 (1 / 2), .cancel 1, .wake 2 1] = some limiter ∧
      limiter.grants = [⟨0, 1, 0⟩, ⟨2, 2, 1⟩] ∧ limiter.Disciplined 1 1 := by
  obtain ⟨limiter, ran⟩ := Option.isSome_iff_exists.mp (show (Transition.run step (new 1 1 0)
    [.acquire 1 0, .acquire 0 0, .acquire 7 (1 / 2), .cancel 1, .wake 2 1]).isSome = true by
      decide +kernel)
  have grants : (Transition.run step (new 1 1 0)
      [.acquire 1 0, .acquire 0 0, .acquire 7 (1 / 2), .cancel 1, .wake 2 1]).map Limiter.grants =
        some [⟨0, 1, 0⟩, ⟨2, 2, 1⟩] := by
    decide +kernel
  rw [ran] at grants
  exact ⟨limiter, ran, Option.some.inj grants,
    run_disciplined 1 1 0 (by decide +kernel) (by decide) _ limiter ran⟩

end Limiter

end PyDht
