set_option autoImplicit false

/-! Programs on a state that keep what they changed when they raise, and rules
for what holds when they return and when they raise. -/

namespace Effects

variable {σ τ ε α β : Type}

/-- From a state with `before` the program returns with `returned` or raises with `raised`. -/
def Ensures (before : σ → Prop) (program : EStateM ε σ α) (returned : α → σ → Prop)
    (raised : ε → σ → Prop) : Prop :=
  ∀ state, before state →
    match program state with
    | .ok value next => returned value next
    | .error fault next => raised fault next

/-- The program keeps the invariant, whether it returns or raises. -/
def Preserves (inv : σ → Prop) (program : EStateM ε σ α) : Prop :=
  Ensures inv program (fun _ => inv) (fun _ => inv)

/-- The state that a program leaves behind. -/
def after (program : EStateM ε σ α) (state : σ) : σ :=
  match program state with
  | .ok _ next => next
  | .error _ next => next

/-- The program works on a part of the state. -/
def zoom (part : σ → τ) (store : τ → σ → σ) (program : EStateM ε τ α) : EStateM ε σ α :=
  fun state =>
    match program (part state) with
    | .ok value next => .ok value (store next state)
    | .error fault next => .error fault (store next state)

/-- A computation without state, as a program. -/
def raise (outcome : Except ε α) : EStateM ε σ α :=
  match outcome with
  | .ok value => pure value
  | .error fault => throw fault

def when (condition : Bool) (program : EStateM ε σ Unit) : EStateM ε σ Unit :=
  if condition then program else pure ()

/-- Raise unless the condition holds. -/
def check (condition : Bool) (fault : ε) : EStateM ε σ Unit :=
  if condition then pure () else throw fault

section ensures

variable {before before' : σ → Prop} {program : EStateM ε σ α} {rest : α → EStateM ε σ β}
  {returned returned' : α → σ → Prop} {raised raised' : ε → σ → Prop}
  {middle : α → σ → Prop} {final : β → σ → Prop}

theorem Ensures.pure {value : α} (holds : ∀ state, before state → returned value state) :
    Ensures before (Pure.pure value : EStateM ε σ α) returned raised := by
  intro state start
  exact holds state start

theorem Ensures.throw {fault : ε} (holds : ∀ state, before state → raised fault state) :
    Ensures before (MonadExcept.throw fault : EStateM ε σ α) returned raised := by
  intro state start
  exact holds state start

theorem Ensures.bind (first : Ensures before program middle raised)
    (next : ∀ value, Ensures (middle value) (rest value) final raised) :
    Ensures before (program >>= rest) final raised := by
  intro state start
  have here := first state start
  show match EStateM.bind program rest state with
    | .ok value next => final value next
    | .error fault next => raised fault next
  unfold EStateM.bind
  cases outcome : program state with
  | ok value middleState =>
      rw [outcome] at here
      exact next value middleState here
  | error fault middleState =>
      rw [outcome] at here
      exact here

theorem Ensures.tryCatch {handler : ε → EStateM ε σ α} {caught : ε → σ → Prop}
    (body : Ensures before program returned caught)
    (handled : ∀ fault, Ensures (caught fault) (handler fault) returned raised) :
    Ensures before (MonadExcept.tryCatch program handler) returned raised := by
  intro state start
  have here := body state start
  show match EStateM.tryCatch program handler state with
    | .ok value next => returned value next
    | .error fault next => raised fault next
  unfold EStateM.tryCatch
  cases outcome : program state with
  | ok value next =>
      rw [outcome] at here
      exact here
  | error fault next =>
      rw [outcome] at here
      exact handled fault next here

theorem Ensures.weaken (ensures : Ensures before program returned raised)
    (start : ∀ state, before' state → before state)
    (returns : ∀ value state, returned value state → returned' value state)
    (raises : ∀ fault state, raised fault state → raised' fault state) :
    Ensures before' program returned' raised' := by
  intro state holds
  have here := ensures state (start state holds)
  cases outcome : program state with
  | ok value next =>
      rw [outcome] at here
      exact returns value next here
  | error fault next =>
      rw [outcome] at here
      exact raises fault next here

theorem Ensures.modify {change : σ → σ} {returned : PUnit → σ → Prop}
    (holds : ∀ state, before state → returned ⟨⟩ (change state)) :
    Ensures before (modify change : EStateM ε σ PUnit) returned raised := by
  intro state start
  exact holds state start

theorem Ensures.set {next : σ} {returned : PUnit → σ → Prop}
    (holds : ∀ state, before state → returned ⟨⟩ next) :
    Ensures before (set next : EStateM ε σ PUnit) returned raised := by
  intro state start
  exact holds state start

theorem Ensures.raise {outcome : Except ε α}
    (returns : ∀ value, outcome = .ok value → ∀ state, before state → returned value state)
    (raises : ∀ fault, outcome = .error fault → ∀ state, before state → raised fault state) :
    Ensures before (raise outcome : EStateM ε σ α) returned raised := by
  intro state start
  cases outcome with
  | ok value => exact returns value rfl state start
  | error fault => exact raises fault rfl state start

/-- Reading the state: the rest is shown for the state that was read. -/
theorem Ensures.get {rest : σ → EStateM ε σ β}
    (next : ∀ seen, before seen → Ensures (· = seen) (rest seen) final raised) :
    Ensures before (MonadState.get >>= rest) final raised := by
  intro state start
  exact next state start state rfl

theorem Ensures.raiseBind {outcome : Except ε α}
    (next : ∀ value, outcome = .ok value → Ensures before (rest value) final raised)
    (raises : ∀ fault, outcome = .error fault → ∀ state, before state → raised fault state) :
    Ensures before (Effects.raise outcome >>= rest) final raised := by
  intro state start
  cases outcome with
  | ok value => exact next value rfl state start
  | error fault => exact raises fault rfl state start

theorem Ensures.setBind {next : σ} {rest : PUnit → EStateM ε σ β}
    (after : (∃ state, before state) → Ensures (· = next) (rest ⟨⟩) final raised) :
    Ensures before (MonadStateOf.set next >>= rest) final raised := by
  intro state start
  exact after ⟨state, start⟩ next rfl

theorem Ensures.ite {condition : Prop} [Decidable condition] {other : EStateM ε σ α}
    (holds : condition → Ensures before program returned raised)
    (fails : ¬ condition → Ensures before other returned raised) :
    Ensures before (if condition then program else other) returned raised := by
  split
  · exact holds ‹_›
  · exact fails ‹_›

theorem Ensures.when {condition : Bool} {program : EStateM ε σ Unit}
    {returned : Unit → σ → Prop}
    (holds : condition = true → Ensures before program returned raised)
    (fails : condition = false → ∀ state, before state → returned () state) :
    Ensures before (when condition program) returned raised :=
  Ensures.ite holds fun no => Ensures.pure (fails (by simpa using no))

theorem Ensures.check {condition : Bool} {fault : ε} {returned : Unit → σ → Prop}
    (holds : condition = true → ∀ state, before state → returned () state)
    (fails : condition = false → ∀ state, before state → raised fault state) :
    Ensures before (check condition fault) returned raised :=
  Ensures.ite (fun yes => Ensures.pure (holds yes))
    fun no => Ensures.throw (fails (by simpa using no))

theorem Ensures.zoom {part : σ → τ} {store : τ → σ → σ} {inner : EStateM ε τ α}
    (holds : ∀ state, before state → Ensures (· = part state) inner
      (fun value next => returned value (store next state))
      (fun fault next => raised fault (store next state))) :
    Ensures before (zoom part store inner) returned raised := by
  intro state start
  have here := holds state start (part state) rfl
  unfold Effects.zoom
  cases outcome : inner (part state) with
  | ok value next =>
      rw [outcome] at here
      exact here
  | error fault next =>
      rw [outcome] at here
      exact here

theorem Ensures.raises (ensures : Ensures before program returned raised)
    (weaker : ∀ fault state, raised fault state → raised' fault state) :
    Ensures before program returned raised' :=
  ensures.weaken (fun _ start => start) (fun _ _ holds => holds) weaker

/-- Nothing need be known of a program whose outcome does not matter. -/
theorem Ensures.regardless (program : EStateM ε σ α) :
    Ensures before program (fun _ _ => True) (fun _ _ => True) := by
  intro state _
  cases program state with
  | ok value next => trivial
  | error fault next => trivial

/-- What does not depend on the state is known from then on. -/
theorem Ensures.given {fact : Prop} (ensures : fact → Ensures before program returned raised) :
    Ensures (fun state => before state ∧ fact) program returned raised :=
  fun state holds => ensures holds.2 state holds.1

theorem Ensures.and (left : Ensures before program returned raised)
    (right : Ensures before program returned' raised') :
    Ensures before program (fun value state => returned value state ∧ returned' value state)
      (fun fault state => raised fault state ∧ raised' fault state) := by
  intro state start
  have here := left state start
  have there := right state start
  cases outcome : program state with
  | ok value next =>
      rw [outcome] at here there
      exact ⟨here, there⟩
  | error fault next =>
      rw [outcome] at here there
      exact ⟨here, there⟩

/-- What is shown of a program on its own, next to its exact outcome. -/
theorem Ensures.exactly {start : σ} (ensures : Ensures (· = start) program returned raised) :
    Ensures (· = start) program
      (fun value next => returned value next ∧ program start = .ok value next)
      (fun fault next => raised fault next ∧ program start = .error fault next) := by
  rintro state rfl
  have here := ensures state rfl
  cases outcome : program state with
  | ok value next =>
      rw [outcome] at here
      exact ⟨here, rfl⟩
  | error fault next =>
      rw [outcome] at here
      exact ⟨here, rfl⟩

/-- What is ensured of a program holds of the run in which it returns. -/
theorem Ensures.value (ensures : Ensures before program returned raised) {start next : σ}
    {value : α} (holds : before start) (ran : program start = .ok value next) :
    returned value next := by
  have ensured := ensures start holds
  rw [ran] at ensured
  exact ensured

theorem bind_returns {start next : σ} {value : α} (ran : program start = .ok value next) :
    (program >>= rest) start = rest value next := by
  show EStateM.bind program rest start = _
  rw [EStateM.bind, ran]

theorem bind_raises {start next : σ} {fault : ε} (failed : program start = .error fault next) :
    (program >>= rest) start = .error fault next := by
  show EStateM.bind program rest start = _
  rw [EStateM.bind, failed]

/-- Behind a program that is known to return, the rest is shown. -/
theorem Ensures.bindOk {start next : σ} {value : α} (ran : program start = .ok value next)
    (further : Ensures (· = next) (rest value) final raised) :
    Ensures (· = start) (program >>= rest) final raised := by
  rintro state rfl
  rw [bind_returns ran]
  exact further next rfl

/-- Nothing comes behind a program that is known to raise. -/
theorem Ensures.bindError {start next : σ} {fault : ε} (failed : program start = .error fault next)
    (raises : raised fault next) : Ensures (· = start) (program >>= rest) final raised := by
  rintro state rfl
  rw [bind_raises failed]
  exact raises

/-- A program leaves behind the state `after` names, whether it returns or raises. -/
theorem Ensures.leaves (program : EStateM ε σ α) (start : σ) :
    Ensures (· = start) program (fun _ next => next = Effects.after program start)
      (fun _ next => next = Effects.after program start) := by
  rintro state rfl
  unfold Effects.after
  cases outcome : program state with
  | ok value next => rfl
  | error fault next => rfl

/-- What holds whether the program returns or raises holds of the state it leaves behind. -/
theorem Ensures.after {always : σ → Prop}
    (ensures : Ensures before program (fun _ => always) (fun _ => always)) {state : σ}
    (start : before state) : always (Effects.after program state) := by
  have here := ensures state start
  unfold Effects.after
  cases outcome : program state with
  | ok value next =>
      rw [outcome] at here
      exact here
  | error fault next =>
      rw [outcome] at here
      exact here

/-- What holds of the state that a program leaves behind it ensures. -/
theorem Ensures.of_after {always : σ → Prop}
    (holds : ∀ state, before state → always (Effects.after program state)) :
    Ensures before program (fun _ => always) (fun _ => always) := by
  intro state start
  have here := holds state start
  unfold Effects.after at here
  cases outcome : program state with
  | ok value next =>
      rw [outcome] at here
      exact here
  | error fault next =>
      rw [outcome] at here
      exact here

end ensures

section preserves

variable {inv : σ → Prop} {program : EStateM ε σ α} {rest : α → EStateM ε σ β}

theorem Preserves.pure (value : α) : Preserves inv (Pure.pure value : EStateM ε σ α) :=
  Ensures.pure fun _ holds => holds

theorem Preserves.throw (fault : ε) : Preserves inv (MonadExcept.throw fault : EStateM ε σ α) :=
  Ensures.throw fun _ holds => holds

theorem Preserves.bind (first : Preserves inv program) (next : ∀ value, Preserves inv (rest value)) :
    Preserves inv (program >>= rest) :=
  Ensures.bind first next

theorem Preserves.tryCatch {handler : ε → EStateM ε σ α} (body : Preserves inv program)
    (handled : ∀ fault, Preserves inv (handler fault)) :
    Preserves inv (MonadExcept.tryCatch program handler) :=
  Ensures.tryCatch body handled

theorem Preserves.modify {change : σ → σ} (holds : ∀ state, inv state → inv (change state)) :
    Preserves inv (modify change : EStateM ε σ PUnit) :=
  Ensures.modify holds

theorem Preserves.raise (outcome : Except ε α) :
    Preserves inv (raise outcome : EStateM ε σ α) :=
  Ensures.raise (fun _ _ _ holds => holds) (fun _ _ _ holds => holds)

/-- What no change of the part touches, a program of the part keeps. -/
theorem Preserves.zoom {part : σ → τ} {store : τ → σ → σ}
    (keeps : ∀ state next, inv state → inv (store next state)) (inner : EStateM ε τ α) :
    Preserves inv (zoom part store inner) :=
  Ensures.zoom fun state holds => (Ensures.leaves inner (part state)).weaken
    (fun _ start => start) (fun _ next _ => keeps state next holds)
    fun _ next _ => keeps state next holds

theorem Preserves.when {condition : Bool} {program : EStateM ε σ Unit}
    (holds : condition = true → Preserves inv program) : Preserves inv (when condition program) :=
  Ensures.when holds fun _ _ start => start

theorem Preserves.check (condition : Bool) (fault : ε) :
    Preserves inv (check condition fault : EStateM ε σ Unit) :=
  Ensures.check (fun _ _ start => start) (fun _ _ start => start)

theorem Preserves.get {rest : σ → EStateM ε σ β} (next : ∀ seen, inv seen →
    Ensures (· = seen) (rest seen) (fun _ => inv) (fun _ => inv)) :
    Preserves inv (MonadState.get >>= rest) :=
  Ensures.get next

/-- A family of invariants that a program keeps each on its own. -/
theorem Preserves.forall {ι : Type} {family : ι → σ → Prop}
    (each : ∀ index, Preserves (family index) program) :
    Preserves (fun state => ∀ index, family index state) program :=
  Ensures.of_after fun _ holds index => (each index).after (holds index)

/-- What comes behind a reading keeps the invariant, whatever was read of a state with it. -/
theorem Preserves.getThen {rest : σ → EStateM ε σ β}
    (next : ∀ seen, inv seen → Preserves inv (rest seen)) :
    Preserves inv (MonadState.get >>= rest) := by
  apply Preserves.get
  intro seen holds state same
  exact next seen holds state (same ▸ holds)

theorem Preserves.ensures (preserves : Preserves inv program) {before : σ → Prop}
    {returned : α → σ → Prop} {raised : ε → σ → Prop} (start : ∀ state, before state → inv state)
    (returns : ∀ value state, inv state → returned value state)
    (raises : ∀ fault state, inv state → raised fault state) :
    Ensures before program returned raised :=
  Ensures.weaken preserves start returns raises

/-- A program that preserves an invariant may promise less for the case that it raises. -/
theorem Preserves.returns (preserves : Preserves inv program) {weaker : σ → Prop}
    (implies : ∀ state, inv state → weaker state) :
    Ensures inv program (fun _ => inv) (fun _ => weaker) :=
  Ensures.raises preserves fun _ => implies

theorem Preserves.after (preserves : Preserves inv program) {state : σ} (holds : inv state) :
    inv (after program state) :=
  Ensures.after preserves holds

end preserves

section faults

variable {allowed wider : ε → Prop} {program : EStateM ε σ α} {rest : α → EStateM ε σ β}

/-- Whatever the state, the program raises nothing but what is allowed. -/
def Raising (allowed : ε → Prop) (program : EStateM ε σ α) : Prop :=
  Ensures (fun _ => True) program (fun _ _ => True) (fun fault _ => allowed fault)

theorem Raising.pure (value : α) : Raising allowed (Pure.pure value : EStateM ε σ α) :=
  Ensures.pure fun _ _ => trivial

theorem Raising.bind (first : Raising allowed program)
    (next : ∀ value, Raising allowed (rest value)) : Raising allowed (program >>= rest) :=
  Ensures.bind first next

theorem Raising.get {rest : σ → EStateM ε σ β} (next : ∀ seen, Raising allowed (rest seen)) :
    Raising allowed (MonadState.get >>= rest) :=
  Ensures.get fun seen _ => (next seen).weaken (fun _ _ => trivial) (fun _ _ _ => trivial)
    fun _ _ known => known

theorem Raising.modify (change : σ → σ) : Raising allowed (modify change : EStateM ε σ PUnit) :=
  Ensures.modify fun _ _ => trivial

theorem Raising.set (state : σ) :
    Raising allowed (MonadStateOf.set state : EStateM ε σ PUnit) :=
  Ensures.set fun _ _ => trivial

theorem Raising.raise {outcome : Except ε α}
    (known : ∀ fault, outcome = .error fault → allowed fault) :
    Raising allowed (raise outcome : EStateM ε σ α) :=
  Ensures.raise (fun _ _ _ _ => trivial) fun fault failed _ _ => known fault failed

theorem Raising.check {condition : Bool} {fault : ε} (known : allowed fault) :
    Raising allowed (check condition fault : EStateM ε σ Unit) :=
  Ensures.check (fun _ _ _ => trivial) fun _ _ _ => known

theorem Raising.when {condition : Bool} {program : EStateM ε σ Unit}
    (raising : condition = true → Raising allowed program) :
    Raising allowed (when condition program) :=
  Ensures.when raising fun _ _ _ => trivial

theorem Raising.zoom {part : σ → τ} {store : τ → σ → σ} {inner : EStateM ε τ α}
    (raising : Raising allowed inner) : Raising allowed (zoom part store inner) :=
  Ensures.zoom fun _ _ => raising.weaken (fun _ _ => trivial) (fun _ _ _ => trivial)
    fun _ _ known => known

theorem Raising.mono (raising : Raising allowed program)
    (implies : ∀ fault, allowed fault → wider fault) : Raising wider program :=
  raising.weaken (fun _ holds => holds) (fun _ _ holds => holds) fun fault _ => implies fault

/-- What a program does to the state, and what it may raise. -/
theorem Ensures.raising {before : σ → Prop} {returned : α → σ → Prop} {raised : ε → σ → Prop}
    (ensures : Ensures before program returned raised) (raising : Raising allowed program) :
    Ensures before program returned fun fault state => raised fault state ∧ allowed fault := by
  intro state start
  have here := ensures state start
  have known := raising state trivial
  cases outcome : program state with
  | ok value next =>
      rw [outcome] at here
      exact here
  | error fault next =>
      rw [outcome] at here known
      exact ⟨here, known⟩

end faults

section total

variable {inv : σ → Prop} {program : EStateM ε σ α} {rest : α → EStateM ε σ β}

/-- The program returns from every state. -/
def Total (program : EStateM ε σ α) : Prop := Raising (fun _ => False) program

theorem Total.pure (value : α) : Total (Pure.pure value : EStateM ε σ α) := Raising.pure value

theorem Total.modify (change : σ → σ) : Total (modify change : EStateM ε σ PUnit) :=
  Raising.modify change

theorem Total.bind (first : Total program) (next : ∀ value, Total (rest value)) :
    Total (program >>= rest) :=
  Raising.bind first next

theorem Total.when {condition : Bool} {program : EStateM ε σ Unit} (total : Total program) :
    Total (when condition program) :=
  Raising.when fun _ => total

theorem Total.raising {allowed : ε → Prop} (total : Total program) : Raising allowed program :=
  Raising.mono total fun _ impossible => impossible.elim

/-- A program that keeps an invariant and returns from every state. -/
theorem Total.keeps (total : Total program) (preserves : Preserves inv program) :
    Ensures inv program (fun _ => inv) (fun _ _ => False) :=
  (Ensures.raising preserves total).raises fun _ _ raised => raised.2

end total

end Effects
