import Mathlib.Data.List.Induction

set_option autoImplicit false

/-! Runs of a system that takes one input at a time; `none` stands for an
input that the system cannot take in its present state. -/

namespace Transition

variable {σ ι : Type}

def run (step : σ → ι → Option σ) : σ → List ι → Option σ
  | state, [] => some state
  | state, input :: inputs => (step state input).bind fun next => run step next inputs

/-- Every step of the run is taken in a state and with an input that `allowed` relates. -/
def Along (allowed : σ → ι → Prop) (step : σ → ι → Option σ) : σ → List ι → Prop
  | _, [] => True
  | state, input :: inputs =>
      allowed state input ∧ ∀ next, step state input = some next → Along allowed step next inputs

instance decidableAlong (allowed : σ → ι → Prop) [∀ state input, Decidable (allowed state input)]
    (step : σ → ι → Option σ) : ∀ (state : σ) (inputs : List ι),
      Decidable (Along allowed step state inputs)
  | _, [] => .isTrue trivial
  | state, input :: inputs =>
      match taken : step state input with
      | none => decidable_of_iff (allowed state input) (by simp [Along, taken])
      | some next =>
          have := decidableAlong allowed step next inputs
          decidable_of_iff (allowed state input ∧ Along allowed step next inputs)
            (by simp [Along, taken])

/-- Some state that the run goes through, its first and its last one included, has the property. -/
def Passes (seen : σ → Prop) (step : σ → ι → Option σ) : σ → List ι → Prop
  | state, [] => seen state
  | state, input :: inputs =>
      seen state ∨ ∃ next, step state input = some next ∧ Passes seen step next inputs

instance decidablePasses (seen : σ → Prop) [∀ state, Decidable (seen state)]
    (step : σ → ι → Option σ) : ∀ (state : σ) (inputs : List ι),
      Decidable (Passes seen step state inputs)
  | state, [] => inferInstanceAs (Decidable (seen state))
  | state, input :: inputs =>
      match taken : step state input with
      | none => decidable_of_iff (seen state) (by simp [Passes, taken])
      | some next =>
          have := decidablePasses seen step next inputs
          decidable_of_iff (seen state ∨ Passes seen step next inputs) (by simp [Passes, taken])

variable {step : σ → ι → Option σ} {allowed : σ → ι → Prop}

theorem Passes.mono {seen more : σ → Prop} (grows : ∀ state, seen state → more state)
    {state : σ} {inputs : List ι} (passes : Passes seen step state inputs) :
    Passes more step state inputs := by
  induction inputs generalizing state with
  | nil => exact grows state passes
  | cons input inputs ih =>
      obtain here | ⟨next, taken, later⟩ := passes
      · exact .inl (grows state here)
      · exact .inr ⟨next, taken, ih later⟩

theorem Passes.first {seen : σ → Prop} {state : σ} (here : seen state) (inputs : List ι) :
    Passes seen step state inputs := by
  cases inputs with
  | nil => exact here
  | cons input inputs => exact .inl here

theorem run_cons {state final : σ} {input : ι} {inputs : List ι} :
    run step state (input :: inputs) = some final ↔
      ∃ next, step state input = some next ∧ run step next inputs = some final := by
  simp [run, Option.bind_eq_some_iff]

theorem Passes.last {seen : σ → Prop} {start final : σ} {inputs : List ι}
    (ran : run step start inputs = some final) (there : seen final) :
    Passes seen step start inputs := by
  induction inputs generalizing start with
  | nil => exact Option.some.inj ran ▸ there
  | cons input inputs ih =>
      obtain ⟨next, taken, ran⟩ := run_cons.mp ran
      exact .inr ⟨next, taken, ih ran⟩

/-- An invariant that the allowed steps preserve holds at the end of every run of such steps. -/
theorem invariant_along (inv : σ → Prop)
    (preserved : ∀ state input next, inv state → allowed state input →
      step state input = some next → inv next)
    {inputs : List ι} {start final : σ} (along : Along allowed step start inputs)
    (ran : run step start inputs = some final) (initial : inv start) : inv final := by
  induction inputs generalizing start with
  | nil =>
      simp only [run, Option.some.injEq] at ran
      exact ran ▸ initial
  | cons input inputs ih =>
      obtain ⟨next, first, remaining⟩ := run_cons.mp ran
      obtain ⟨here, later⟩ := along
      exact ih (later next first) remaining (preserved start input next initial here first)

/-- An invariant that the allowed steps preserve up to a state with some property: it holds at the
end of every run that does not go through such a state. -/
theorem invariant_unless (inv seen : σ → Prop)
    (preserved : ∀ state input next, inv state → allowed state input →
      step state input = some next → ¬ seen next → inv next)
    {inputs : List ι} {start final : σ} (along : Along allowed step start inputs)
    (ran : run step start inputs = some final) (initial : inv start) :
    inv final ∨ Passes seen step start inputs := by
  induction inputs generalizing start with
  | nil => exact .inl (Option.some.inj ran ▸ initial)
  | cons input inputs ih =>
      obtain ⟨next, first, remaining⟩ := run_cons.mp ran
      obtain ⟨here, later⟩ := along
      by_cases reached : seen next
      · exact .inr (.inr ⟨next, first, .first reached inputs⟩)
      · exact (ih (later next first) remaining
          (preserved start input next initial here first reached)).imp_right
            fun passes => .inr ⟨next, first, passes⟩

theorem along_of_mem {inputs : List ι} (each : ∀ input ∈ inputs, ∀ state, allowed state input)
    (start : σ) : Along allowed step start inputs := by
  induction inputs generalizing start with
  | nil => trivial
  | cons input inputs ih =>
      obtain ⟨here, later⟩ := List.forall_mem_cons.mp each
      exact ⟨here start, fun next _ => ih later next⟩

theorem along_of_forall (always : ∀ state input, allowed state input) (inputs : List ι)
    (start : σ) : Along allowed step start inputs :=
  along_of_mem (fun input _ state => always state input) start

/-- An invariant that every step preserves holds at the end of every run. -/
theorem invariant_run (inv : σ → Prop)
    (preserved : ∀ state input next, inv state → step state input = some next → inv next)
    {inputs : List ι} {start final : σ} (ran : run step start inputs = some final)
    (initial : inv start) : inv final :=
  invariant_along inv
    (fun state input next holds _ taken => preserved state input next holds taken)
    (along_of_forall (fun _ _ => trivial) inputs start) ran initial

theorem run_concat {state final : σ} {inputs : List ι} {input : ι} :
    run step state (inputs ++ [input]) = some final ↔
      ∃ middle, run step state inputs = some middle ∧ step middle input = some final := by
  induction inputs generalizing state with
  | nil =>
      show ((step state input).bind fun next => some next) = some final ↔ _
      simp [run]
  | cons first inputs ih =>
      show ((step state first).bind fun next => run step next (inputs ++ [input])) = some final ↔
        ∃ middle, ((step state first).bind fun next => run step next inputs) = some middle ∧
          step middle input = some final
      cases step state first with
      | none => simp
      | some next => exact ih

theorem run_append {state final : σ} {before after : List ι} :
    run step state (before ++ after) = some final ↔
      ∃ middle, run step state before = some middle ∧ run step middle after = some final := by
  induction before generalizing state with
  | nil =>
      show run step state after = some final ↔ _
      simp [run]
  | cons first before ih =>
      show ((step state first).bind fun next => run step next (before ++ after)) = some final ↔
        ∃ middle, ((step state first).bind fun next => run step next before) = some middle ∧
          run step middle after = some final
      cases step state first with
      | none => simp
      | some next => exact ih

theorem Along.front {state : σ} {before after : List ι}
    (along : Along allowed step state (before ++ after)) : Along allowed step state before := by
  induction before generalizing state with
  | nil => trivial
  | cons first before ih => exact ⟨along.1, fun next taken => ih (along.2 next taken)⟩

theorem Along.behind {state middle : σ} {before after : List ι}
    (along : Along allowed step state (before ++ after))
    (ran : run step state before = some middle) : Along allowed step middle after := by
  induction before generalizing state with
  | nil => exact Option.some.inj ran ▸ along
  | cons first before ih =>
      obtain ⟨next, taken, ran⟩ := run_cons.mp ran
      exact ih (along.2 next taken) ran

theorem Along.append {state : σ} {before after : List ι} (front : Along allowed step state before)
    (behind : ∀ middle, run step state before = some middle → Along allowed step middle after) :
    Along allowed step state (before ++ after) := by
  induction before generalizing state with
  | nil => exact behind state rfl
  | cons first before ih =>
      refine ⟨front.1, fun next taken => ih (front.2 next taken) fun middle ran => ?_⟩
      exact behind middle (run_cons.mpr ⟨next, taken, ran⟩)

/-- What is allowed all along is allowed for each input in the state it meets. -/
theorem Along.at {state middle : σ} {before after : List ι} {input : ι}
    (along : Along allowed step state (before ++ input :: after))
    (ran : run step state before = some middle) : allowed middle input := by
  induction before generalizing state with
  | nil => exact Option.some.inj ran ▸ along.1
  | cons first before ih =>
      rcases run_cons.mp ran with ⟨next, taken, ran⟩
      exact ih (along.2 next taken) ran

/-- Where each step keeps a property exactly if the step is allowed, the property holds at the end
of a run exactly if it held at its start and all steps were allowed. -/
theorem along_iff (inv good : σ → Prop)
    (preserved : ∀ state input next, inv state → step state input = some next → inv next)
    (decided : ∀ state input next, inv state → step state input = some next →
      (good next ↔ good state ∧ allowed state input))
    {start final : σ} {inputs : List ι} (ran : run step start inputs = some final)
    (initial : inv start) : good final ↔ good start ∧ Along allowed step start inputs := by
  induction inputs generalizing start with
  | nil =>
      cases ran
      exact ⟨fun holds => ⟨holds, trivial⟩, fun holds => holds.1⟩
  | cons input inputs ih =>
      obtain ⟨next, taken, ran⟩ := run_cons.mp ran
      rw [ih ran (preserved start input next initial taken), decided start input next initial taken,
        and_assoc]
      apply and_congr_right
      intro _
      constructor
      · rintro ⟨here, later⟩
        refine ⟨here, fun other reached => ?_⟩
        rw [taken] at reached
        cases reached
        exact later
      · rintro ⟨here, later⟩
        exact ⟨here, later next taken⟩

/-- An invariant that also speaks about the inputs taken so far. -/
theorem invariant_history (inv : List ι → σ → Prop) {start : σ}
    (preserved : ∀ inputs input state next, run step start inputs = some state →
      inv inputs state → step state input = some next → inv (inputs ++ [input]) next)
    (initial : inv [] start) {inputs : List ι} {final : σ}
    (ran : run step start inputs = some final) : inv inputs final := by
  induction inputs using List.reverseRecOn generalizing final with
  | nil => exact Option.some.inj ran ▸ initial
  | append_singleton inputs input ih =>
      rcases run_concat.mp ran with ⟨middle, before, taken⟩
      exact preserved inputs input middle final before (ih before) taken

/-- In an endless run, work that comes up again and again and falls in a well-founded order each
time ends at some point. -/
theorem eventually_stops {β : Type} {lower : β → β → Prop} (founded : WellFounded lower)
    (rank : σ → β) (working : σ → Prop) (progress : ι → Prop)
    (falls : ∀ state input next, working state → working next → step state input = some next →
      lower (rank next) (rank state) ∨ ¬ progress input ∧ rank next = rank state)
    {states : Nat → σ} {inputs : Nat → ι}
    (steps : ∀ number, step (states number) (inputs number) = some (states (number + 1)))
    (again : ∀ number, ∃ later, number ≤ later ∧ progress (inputs later)) :
    ∃ number, ¬ working (states number) := by
  by_contra always
  have works : ∀ number, working (states number) := by
    intro number
    by_contra idle
    exact always ⟨number, idle⟩
  have next_falls := fun number =>
    falls _ _ _ (works number) (works (number + 1)) (steps number)
  -- From each state on the rank falls sooner or later, by induction on the time until then.
  have lowers : ∀ waiting number, progress (inputs (number + waiting)) →
      ∃ later, lower (rank (states later)) (rank (states number)) := by
    intro waiting
    induction waiting with
    | zero =>
        intro number comes
        obtain falls | ⟨quiet, -⟩ := next_falls number
        · exact ⟨number + 1, falls⟩
        · exact absurd comes quiet
    | succ waiting ih =>
        intro number comes
        obtain falls | ⟨-, same⟩ := next_falls number
        · exact ⟨number + 1, falls⟩
        · rw [← same]
          exact ih (number + 1) (by rwa [Nat.add_right_comm, Nat.add_assoc])
  have nowhere : ∀ value, ∀ number, rank (states number) = value → False := by
    intro value
    induction value using founded.induction with
    | _ value ih =>
        intro number here
        obtain ⟨later, after, comes⟩ := again number
        obtain ⟨reached, falls⟩ := lowers (later - number) number
          (by rwa [Nat.add_sub_cancel' after])
        rw [here] at falls
        exact ih _ falls reached rfl
  exact nowhere _ 0 rfl

end Transition
