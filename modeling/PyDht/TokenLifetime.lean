import PyDht.ConfigCheck
import PyDht.Tokens

set_option autoImplicit false

namespace PyDht

open Effects (Ensures)

/-- A call to the token manager, with the clock readings that it makes. -/
inductive TokenCall where
  | issue (now : Int) (ip : String)
  | validate (due now : Int) (ip : String) (token : Bytes)

namespace TokenCall

def readings : TokenCall → List Int
  | .issue now _ => [now]
  | .validate due now _ _ => [due, now]

/-- The reading that decides about the rotation. -/
def due : TokenCall → Int
  | .issue now _ => now
  | .validate due _ _ _ => due

/-- What the call leaves behind, also where the address is none and it raises. -/
def perform (env : Environment) (tokens : TokenManager) : TokenCall → TokenManager
  | .issue now ip => Effects.after (TokenManager.issue env now ip) tokens
  | .validate due now ip token => Effects.after (TokenManager.validate env due now ip token) tokens

end TokenCall

namespace TokenManager

variable {env : Environment} {tokens next : TokenManager}

def history (env : Environment) (tokens : TokenManager) (calls : List TokenCall) : TokenManager :=
  calls.foldl (TokenCall.perform env) tokens

theorem perform_turned (env : Environment) (tokens : TokenManager) (call : TokenCall) :
    Turned env call.due tokens (call.perform env tokens) := by
  cases call with
  | issue now ip =>
      exact Ensures.after ((issue_ensures env now ip tokens).weaken (fun _ start => start)
        (fun _ _ outcome => .inr outcome.1) fun _ _ turned => turned) rfl
  | validate due now ip token =>
      exact Ensures.after ((validate_ensures env due now ip token tokens).weaken
        (fun _ start => start) (fun _ _ outcome => .inr outcome.1) fun _ _ turned => turned) rfl

theorem due_mem_readings (call : TokenCall) : call.due ∈ call.readings := by
  cases call <;> simp [TokenCall.due, TokenCall.readings]

/-- What holds of the manager and is kept by rotations at the readings of the calls. -/
theorem history_keeps (inv : TokenManager → Prop) (allowed : Int → Prop)
    (keeps : ∀ tokens next now, allowed now → inv tokens → Turned env now tokens next → inv next)
    (calls : List TokenCall) (within : ∀ reading ∈ calls.flatMap TokenCall.readings, allowed reading)
    (start : inv tokens) : inv (history env tokens calls) := by
  induction calls generalizing tokens with
  | nil => exact start
  | cons call calls ih =>
      simp only [List.flatMap_cons, List.mem_append] at within
      apply ih (fun reading member => within reading (.inr member))
      exact keeps _ _ call.due (within _ (.inl (due_mem_readings call))) start
        (perform_turned env tokens call)

/-- The two lengths of time, in nanoseconds. -/
def interval (env : Environment) : Int := nanoseconds env.config.dhtTokenRotationInterval

def validity (env : Environment) : Int := nanoseconds env.config.dhtTokenValidity

/-- Between one and two intervals count as one rotation. -/
theorem single_rotation {elapsed interval : Int} (positive : 0 < interval)
    (late : interval ≤ elapsed) (soon : elapsed < 2 * interval) :
    max 1 (elapsed.fdiv interval) = 1 := by
  have quotient : elapsed / interval = 1 := by
    rw [Int.ediv_eq_iff_of_pos positive]
    omega
  rw [Int.fdiv_eq_ediv_of_nonneg _ (by omega), quotient]
  rfl

/-- The outcomes of `_rotate_if_due` for an interval that is not zero. -/
theorem rotate_cases (now : Int) (tokens : TokenManager) (positive : 0 < interval env) :
    (now - tokens.rotatedNs < interval env ∧ rotateIfDue env now tokens = .ok tokens) ∨
      (interval env ≤ now - tokens.rotatedNs ∧ ∃ next, rotateIfDue env now tokens = .ok next ∧
        next.currentCreatedNs = now ∧ next.rotatedNs = now ∧
        (now - tokens.rotatedNs < 2 * interval env →
          next.previous = tokens.current ∧ next.previousCreatedNs = tokens.currentCreatedNs)) := by
  have single := @single_rotation (now - tokens.rotatedNs) (interval env) positive
  unfold rotateIfDue
  dsimp only
  rw [show nanoseconds env.config.dhtTokenRotationInterval = interval env from rfl]
  by_cases early : now - tokens.rotatedNs < interval env
  · left
    exact ⟨early, if_pos early⟩
  · right
    rw [if_neg early, if_neg (by omega)]
    refine ⟨by omega, ?_⟩
    by_cases one : max 1 ((now - tokens.rotatedNs).fdiv (interval env)) = 1
    · rw [if_pos one]
      exact ⟨_, rfl, rfl, rfl, fun _ => ⟨rfl, rfl⟩⟩
    · rw [if_neg one]
      exact ⟨_, rfl, rfl, rfl, fun soon => absurd (single (by omega) soon) one⟩

theorem rotate_total (now : Int) (tokens : TokenManager) (positive : 0 < interval env) :
    ∃ next, rotateIfDue env now tokens = .ok next := by
  rcases rotate_cases now tokens positive with ⟨_, same⟩ | ⟨_, next, turned, _⟩
  · exact ⟨tokens, same⟩
  · exact ⟨next, turned⟩

/-- The age of the current secret counts from the last rotation. -/
def Aligned (tokens : TokenManager) : Prop := tokens.currentCreatedNs = tokens.rotatedNs

theorem Aligned.turned {now : Int} (positive : 0 < interval env) (aligned : Aligned tokens)
    (turned : Turned env now tokens next) : Aligned next := by
  rcases turned with same | rotated
  · rw [same]
    exact aligned
  rcases rotate_cases now tokens positive with ⟨_, same⟩ | ⟨_, other, turned, created, at_, _⟩
  · rw [same] at rotated
    cases rotated
    exact aligned
  · rw [turned] at rotated
    cases rotated
    exact created.trans at_.symm

theorem aligned_history (positive : 0 < interval env) (created : Int) (calls : List TokenCall) :
    Aligned (history env (TokenManager.new env created) calls) :=
  history_keeps Aligned (fun _ => True)
    (fun _ _ _ _ aligned turned => aligned.turned positive turned) calls (fun _ _ => trivial) rfl

/-- The secret that was made at the given time is in use: it is the current one, or
the previous one of a rotation that came when it was due. -/
def Held (env : Environment) (secret : Bytes) (created : Int) (tokens : TokenManager) : Prop :=
  (tokens.current = secret ∧ tokens.currentCreatedNs = created ∧ tokens.rotatedNs = created) ∨
    (tokens.previous = secret ∧ tokens.previousCreatedNs = created ∧
      created + interval env ≤ tokens.rotatedNs)

/-- Within two intervals there is one rotation at most, and it leaves the secret in use. -/
theorem Held.turned {secret : Bytes} {created now : Int} (positive : 0 < interval env)
    (soon : now < created + 2 * interval env) (held : Held env secret created tokens)
    (turned : Turned env now tokens next) : Held env secret created next := by
  rcases turned with same | rotated
  · rw [same]
    exact held
  rcases rotate_cases now tokens positive with
    ⟨_, same⟩ | ⟨late, other, turned, made, at_, moved⟩
  · rw [same] at rotated
    cases rotated
    exact held
  rw [turned] at rotated
  cases rotated
  rcases held with ⟨isCurrent, isCreated, last⟩ | ⟨_, _, last⟩
  · right
    have older := moved (by omega)
    exact ⟨older.1.trans isCurrent, older.2.trans isCreated, by omega⟩
  · omega

/-- A secret that is handed out is less than an interval old. -/
theorem issue_held {now : Int} {ip : String} {token : Bytes} (positive : 0 < interval env)
    (aligned : Aligned tokens) (issued : issue env now ip tokens = .ok token next) :
    Held env next.current next.currentCreatedNs next ∧
      now - next.currentCreatedNs < interval env := by
  have rotated := (issue_ok issued).1
  have still : Aligned next := aligned.turned positive (.inr rotated)
  refine ⟨.inl ⟨rfl, rfl, still.symm⟩, ?_⟩
  rcases rotate_cases now tokens positive with ⟨early, same⟩ | ⟨_, other, turned, created, _, _⟩
  · rw [same] at rotated
    cases rotated
    rw [aligned]
    exact early
  · rw [turned] at rotated
    cases rotated
    omega

theorem derive_total {ip : String} {address : IPAddress} (parsed : ipAddress ip = .ok address)
    (secret : Bytes) : derive env secret ip = .ok ((env.sha1 (address.packed ++ secret)).take 8) := by
  unfold derive
  rw [parsed]
  rfl

theorem accepts_iff {ip : String} {address : IPAddress} (parsed : ipAddress ip = .ok address)
    (now created : Int) (secret token : Bytes) :
    ∃ accepted, accepts env now created secret ip token = .ok accepted ∧
      (accepted = true ↔ now - created ≤ validity env ∧ derive env secret ip = .ok token) := by
  unfold accepts
  rw [derive_total parsed, show nanoseconds env.config.dhtTokenValidity = validity env from rfl]
  by_cases young : now - created ≤ validity env
  · rw [if_pos young]
    refine ⟨decide (token = (env.sha1 (address.packed ++ secret)).take 8), rfl, ?_⟩
    rw [decide_eq_true_eq, Except.ok.injEq]
    exact ⟨fun same => ⟨young, same.symm⟩, fun both => both.2.symm⟩
  · rw [if_neg young]
    exact ⟨false, rfl, by simp [young]⟩

/-- What `validate` answers at an address. -/
theorem validate_iff {due now : Int} {ip : String} {address : IPAddress} (token : Bytes)
    (parsed : ipAddress ip = .ok address) (rotated : rotateIfDue env due tokens = .ok next) :
    ∃ accepted, validate env due now ip token tokens = .ok accepted next ∧
      (accepted = true ↔ Valid env now ip token next) := by
  obtain ⟨first, isFirst, ofCurrent⟩ :=
    @accepts_iff env _ _ parsed now next.currentCreatedNs next.current token
  obtain ⟨second, isSecond, ofPrevious⟩ :=
    @accepts_iff env _ _ parsed now next.previousCreatedNs next.previous token
  have outcome : Ensures (· = tokens) (validate env due now ip token)
      (fun accepted state => state = next ∧ accepted = (first || second))
      (fun _ _ => False) := by
    unfold validate
    apply Ensures.get
    rintro seen rfl
    rw [rotated]
    apply Ensures.raiseBind
    · intro turned same
      cases same
      apply Ensures.setBind
      intro _
      apply Ensures.get
      rintro current rfl
      rw [isFirst, isSecond]
      apply Ensures.raiseBind
      · intro fresh same
        cases same
        apply Ensures.ite
        · intro holds
          apply Ensures.pure
          rintro state rfl
          exact ⟨rfl, by rw [holds]; rfl⟩
        · intro fails
          apply Ensures.raise
          · intro valid same state here
            cases same
            exact ⟨here, by simp [fails]⟩
          · intro fault same
            cases same
      · intro fault same
        cases same
    · intro fault same
      cases same
  have here := outcome tokens rfl
  cases result : validate env due now ip token tokens with
  | error fault state =>
      rw [result] at here
      exact here.elim
  | ok accepted state =>
      rw [result] at here
      rw [here.1, here.2]
      refine ⟨_, rfl, ?_⟩
      rw [Bool.or_eq_true, ofCurrent, ofPrevious]
      rfl

theorem parsed_of_derived {secret token : Bytes} {ip : String}
    (derived : derive env secret ip = .ok token) : ∃ address, ipAddress ip = .ok address := by
  obtain ⟨address, parsed, _⟩ := bind_ok_iff.mp derived
  exact ⟨address, parsed⟩

/-- A token is accepted for as long as its secret is held and young enough. -/
theorem validate_held {secret token : Bytes} {created due now : Int} {ip : String}
    (held : Held env secret created next) (rotated : rotateIfDue env due tokens = .ok next)
    (derived : derive env secret ip = .ok token) (young : now - created ≤ validity env) :
    validate env due now ip token tokens = .ok true next := by
  obtain ⟨address, parsed⟩ := parsed_of_derived derived
  obtain ⟨accepted, answered, accepts⟩ := @validate_iff _ _ _ due now _ _ token parsed rotated
  have valid : Valid env now ip token next := by
    rcases held with ⟨isCurrent, isCreated, _⟩ | ⟨isPrevious, isCreated, _⟩
    · exact .inl ⟨isCreated ▸ young, isCurrent ▸ derived⟩
    · exact .inr ⟨isCreated ▸ young, isPrevious ▸ derived⟩
  rw [answered, accepts.mpr valid]

/-- At most one rotation lies between the issue of a token and the end of its time. -/
theorem issued_lasts (positive : 0 < interval env) (bounded : validity env ≤ 2 * interval env)
    {created issuedAt due now : Int} {before between : List TokenCall} {ip : String}
    {token : Bytes}
    (issued : issue env issuedAt ip (history env (TokenManager.new env created) before) =
      .ok token next)
    (earlier : ∀ reading ∈ between.flatMap TokenCall.readings, reading ≤ now) (dueBy : due ≤ now)
    (within : now - issuedAt ≤ validity env - interval env) :
    ∃ last, validate env due now ip token (history env next between) = .ok true last := by
  have aligned := aligned_history positive created before
  obtain ⟨held, young⟩ := issue_held positive aligned issued
  have derived := (issue_ok issued).2
  have still : Held env next.current next.currentCreatedNs (history env next between) := by
    apply history_keeps _ (· ≤ now) _ between earlier held
    intro tokens turned reading early holds
    exact holds.turned positive (by omega)
  obtain ⟨final, rotated⟩ := rotate_total due (history env next between) positive
  have kept := still.turned positive (by omega) (.inr rotated)
  exact ⟨final, validate_held kept rotated derived (by omega)⟩

/-- A token stays valid for what the validity exceeds the rotation interval by, whatever calls
come before it is issued and between that and its check. -/
theorem issued_stays_valid (env : Environment) (positive : 0 < interval env)
    (bounded : validity env ≤ 2 * interval env)
    (created : Int) (before between : List TokenCall) (issuedAt due now : Int) (ip : String)
    (token : Bytes) (next : TokenManager)
    (ordered : (created :: before.flatMap TokenCall.readings ++
      issuedAt :: between.flatMap TokenCall.readings ++ [due, now]).Pairwise (· ≤ ·))
    (issued : issue env issuedAt ip (history env (TokenManager.new env created) before) =
      .ok token next)
    (within : now - issuedAt ≤ validity env - interval env) :
    ∃ last, validate env due now ip token (history env next between) = .ok true last := by
  rw [List.pairwise_append] at ordered
  obtain ⟨_, checks, last⟩ := ordered
  refine issued_lasts positive bounded issued (fun reading member => ?_) ?_ within
  · exact last reading (by simp [member]) now (by simp)
  · exact (List.pairwise_cons.mp checks).1 now (by simp)

def tokenWorld (rotation lifetime : Rat) : Environment where
  config := { dhtTokenRotationInterval := rotation, dhtTokenValidity := lifetime }
  monotonicNs _ := 0
  timeNs _ := 0
  secretAt index := [UInt8.ofNat index]
  sha1 text := text
  sample _ _ _ := []

theorem issue_total {now : Int} {ip : String} {address : IPAddress}
    (parsed : ipAddress ip = .ok address) (rotated : rotateIfDue env now tokens = .ok next) :
    ∃ token, issue env now ip tokens = .ok token next := by
  have outcome : Ensures (· = tokens) (issue env now ip) (fun _ state => state = next)
      (fun _ _ => False) := by
    unfold issue
    apply Ensures.get
    rintro seen rfl
    rw [rotated]
    apply Ensures.raiseBind
    · intro turned same
      cases same
      apply Ensures.setBind
      intro _
      apply Ensures.get
      rintro current rfl
      rw [derive_total parsed]
      apply Ensures.raise
      · intro token _ state here
        exact here
      · intro fault same
        cases same
    · intro fault same
      cases same
  have here := outcome tokens rfl
  cases result : issue env now ip tokens with
  | ok token state =>
      rw [result] at here
      exact ⟨token, congrArg _ here⟩
  | error fault state =>
      rw [result] at here
      exact here.elim

/-- Until the first rotation is due the manager is as it was made. -/
theorem issue_early (ip : String) {address : IPAddress} (parsed : ipAddress ip = .ok address)
    {now : Int} (early : now < interval env) :
    ∃ token, issue env now ip (TokenManager.new env 0) = .ok token (TokenManager.new env 0) := by
  apply issue_total parsed
  unfold rotateIfDue
  exact if_pos (by change now - 0 < interval env; omega)

theorem parsed_address : ipAddress "9.9.9.9" = .ok (.v4 9 9 9 9) := by decide +kernel

/-- Ten minutes of validity, five between rotations: a token of 299 s is accepted at 599 s, after
a call at 300 s has rotated. -/
theorem issued_stays_valid_sample :
    ∃ token last, issue (tokenWorld 300 600) 299000000000 "9.9.9.9"
        (history (tokenWorld 300 600) (TokenManager.new (tokenWorld 300 600) 0) []) =
        .ok token (TokenManager.new (tokenWorld 300 600) 0) ∧
      validate (tokenWorld 300 600) 599000000000 599000000000 "9.9.9.9" token
        (history (tokenWorld 300 600) (TokenManager.new (tokenWorld 300 600) 0)
          [.issue 300000000000 "8.8.8.8"]) = .ok true last := by
  obtain ⟨token, issued⟩ := @issue_early (tokenWorld 300 600) "9.9.9.9" _ parsed_address
    299000000000 (by decide +kernel)
  obtain ⟨last, accepted⟩ := issued_stays_valid (tokenWorld 300 600) (by decide +kernel)
    (by decide +kernel) 0 [] [.issue 300000000000 "8.8.8.8"] 299000000000 599000000000
    599000000000 "9.9.9.9" token _ (by decide) issued (by decide +kernel)
  exact ⟨token, last, issued, accepted⟩

end TokenManager

end PyDht
