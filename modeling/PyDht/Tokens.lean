import PyDht.Endpoints
import PyDht.Lib.Effects

set_option autoImplicit false

namespace PyDht

/-- What the node draws from its surroundings. The clocks and the sampler are
asked in turn, and the argument counts the questions; `secretAt` counts the
calls of `secrets.token_bytes`. -/
structure Environment where
  config : Config := {}
  monotonicNs : Nat → Int
  timeNs : Nat → Int
  secretAt : Nat → Bytes
  sha1 : Bytes → Bytes
  sample : Nat → List Bytes → Nat → List Bytes

/-- `drawn` counts the secrets that were drawn so far. -/
structure TokenManager where
  current : Bytes
  previous : Bytes
  currentCreatedNs : Int
  previousCreatedNs : Int
  rotatedNs : Int
  drawn : Nat
deriving DecidableEq, Repr

namespace TokenManager

/-- `TokenManager.__init__` at the given clock reading. -/
def new (env : Environment) (now : Int) : TokenManager where
  current := env.secretAt 0
  previous := env.secretAt 1
  currentCreatedNs := now
  previousCreatedNs := now
  rotatedNs := now
  drawn := 2

/-- `_rotate_if_due` at the given clock reading. -/
def rotateIfDue (env : Environment) (now : Int) (tokens : TokenManager) :
    Except PyError TokenManager :=
  let intervalNs := nanoseconds env.config.dhtTokenRotationInterval
  let elapsed := now - tokens.rotatedNs
  if elapsed < intervalNs then .ok tokens
  else if intervalNs = 0 then .error .zeroDivisionError
  else
    let rotations := max 1 (elapsed.fdiv intervalNs)
    if rotations = 1 then
      .ok { current := env.secretAt tokens.drawn
            previous := tokens.current
            currentCreatedNs := now
            previousCreatedNs := tokens.currentCreatedNs
            rotatedNs := now
            drawn := tokens.drawn + 1 }
    else
      -- after two or more missed rotations no token issued before may stay valid
      .ok { current := env.secretAt (tokens.drawn + 1)
            previous := env.secretAt tokens.drawn
            currentCreatedNs := now
            previousCreatedNs := now
            rotatedNs := now
            drawn := tokens.drawn + 2 }

/-- `_derive`. -/
def derive (env : Environment) (secret : Bytes) (ip : String) : Except PyError Bytes := do
  let address ← ipAddress ip
  return (env.sha1 (address.packed ++ secret)).take 8

def issue (env : Environment) (now : Int) (ip : String) :
    EStateM PyError TokenManager Bytes := do
  set (← Effects.raise (rotateIfDue env now (← get)))
  let tokens ← get
  Effects.raise (derive env tokens.current ip)

/-- `now - created <= validity_ns and hmac.compare_digest(token, self._derive(secret, ip))`. -/
def accepts (env : Environment) (now created : Int) (secret : Bytes) (ip : String)
    (token : Bytes) : Except PyError Bool :=
  if now - created ≤ nanoseconds env.config.dhtTokenValidity then do
    let expected ← derive env secret ip
    return decide (token = expected)
  else .ok false

/-- `validate`, which reads the clock for the rotation and once more for the comparison. -/
def validate (env : Environment) (due now : Int) (ip : String) (token : Bytes) :
    EStateM PyError TokenManager Bool := do
  set (← Effects.raise (rotateIfDue env due (← get)))
  let tokens ← get
  if ← Effects.raise (accepts env now tokens.currentCreatedNs tokens.current ip token) then
    return true
  Effects.raise (accepts env now tokens.previousCreatedNs tokens.previous ip token)

section outcomes

open Effects (Ensures)

variable {env : Environment} {tokens : TokenManager}

/-- The manager is as it was, or has rotated at the given reading. -/
def Turned (env : Environment) (now : Int) (tokens next : TokenManager) : Prop :=
  next = tokens ∨ rotateIfDue env now tokens = .ok next

theorem issue_ensures (env : Environment) (now : Int) (ip : String) (tokens : TokenManager) :
    Ensures (· = tokens) (issue env now ip)
      (fun token next => rotateIfDue env now tokens = .ok next ∧
        derive env next.current ip = .ok token)
      (fun _ next => Turned env now tokens next) := by
  unfold issue
  apply Ensures.get
  rintro seen rfl
  apply Ensures.raiseBind
  · intro rotated turned
    apply Ensures.setBind
    intro _
    apply Ensures.get
    rintro current rfl
    apply Ensures.raise
    · rintro token derived state rfl
      exact ⟨turned, derived⟩
    · rintro fault _ state rfl
      exact .inr turned
  · rintro fault _ state rfl
    exact .inl rfl

theorem issue_ok {env : Environment} {now : Int} {ip : String} {tokens next : TokenManager}
    {token : Bytes} (issued : issue env now ip tokens = .ok token next) :
    rotateIfDue env now tokens = .ok next ∧ derive env next.current ip = .ok token :=
  (issue_ensures env now ip tokens).value rfl issued

/-- A token that is accepted is the one that the secret gives, and the secret is young enough. -/
theorem accepts_true {now created : Int} {secret : Bytes} {ip : String} {token : Bytes}
    (accepted : accepts env now created secret ip token = .ok true) :
    now - created ≤ nanoseconds env.config.dhtTokenValidity ∧
      derive env secret ip = .ok token := by
  unfold accepts at accepted
  split at accepted
  · rename_i young
    rcases bind_ok_iff.mp accepted with ⟨expected, derived, same⟩
    have same : token = expected := by simpa [pure_ok_iff] using same
    exact ⟨young, same ▸ derived⟩
  · simp at accepted

/-- What makes a token valid: one of the two secrets gives it and is young enough. -/
def Valid (env : Environment) (now : Int) (ip : String) (token : Bytes) (tokens : TokenManager) :
    Prop :=
  (now - tokens.currentCreatedNs ≤ nanoseconds env.config.dhtTokenValidity ∧
      derive env tokens.current ip = .ok token) ∨
    (now - tokens.previousCreatedNs ≤ nanoseconds env.config.dhtTokenValidity ∧
      derive env tokens.previous ip = .ok token)

theorem validate_ensures (env : Environment) (due now : Int) (ip : String) (token : Bytes)
    (tokens : TokenManager) :
    Ensures (· = tokens) (validate env due now ip token)
      (fun valid next => rotateIfDue env due tokens = .ok next ∧
        (valid = true → Valid env now ip token next))
      (fun _ next => Turned env due tokens next) := by
  unfold validate
  apply Ensures.get
  rintro seen rfl
  apply Ensures.raiseBind
  · intro rotated turned
    apply Ensures.setBind
    intro _
    apply Ensures.get
    rintro current rfl
    apply Ensures.raiseBind
    · intro fresh accepted
      apply Ensures.ite
      · intro holds
        apply Ensures.pure
        rintro state rfl
        exact ⟨turned, fun _ => .inl (accepts_true (holds ▸ accepted))⟩
      · intro _
        apply Ensures.raise
        · rintro valid older state rfl
          exact ⟨turned, fun holds => .inr (accepts_true (holds ▸ older))⟩
        · rintro fault _ state rfl
          exact .inr turned
    · rintro fault _ state rfl
      exact .inr turned
  · rintro fault _ state rfl
    exact .inl rfl

end outcomes

end TokenManager

end PyDht
