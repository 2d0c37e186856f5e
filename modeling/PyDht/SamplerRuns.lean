import Mathlib.Data.Finset.Card
import PyDht.Sampler

set_option autoImplicit false

namespace PyDht

/-- How long an endpoint asks to be left alone: an interval in range, in nanoseconds, or the backoff
for an unsupported method. -/
def SampleOutcome.wait (config : Config) : SampleOutcome → Option Int
  | .response message =>
      (Value.asInt (message.get? "interval")).bind fun interval =>
        if 0 ≤ interval ∧ interval ≤ 21600 then some (interval * 1000000000) else none
  | .krpcError code =>
      if code = 204 then some (nanoseconds config.dhtBep51UnsupportedBackoff) else none
  | .failed => none

/-- How much longer the round waits for the sake of the global interval. -/
def SampleOutcome.slack (config : Config) (wait : Int) : SampleOutcome → Int
  | .response _ => max 0 (nanoseconds config.dhtBep51GlobalInterval - wait)
  | _ => 0

theorem nanoseconds_intCast (seconds : Int) :
    nanoseconds (seconds : Rat) = seconds * 1000000000 := by
  simp [nanoseconds]

theorem nanoseconds_le {seconds : Rat} {bound : Int} (below : seconds ≤ bound) :
    nanoseconds seconds ≤ bound * 1000000000 := by
  rw [Rat.le_iff, Rat.den_intCast, Rat.num_intCast, Nat.cast_one, mul_one] at below
  refine Int.ediv_le_of_le_mul (by exact_mod_cast seconds.den_pos) ?_
  rw [mul_right_comm]
  exact Int.mul_le_mul_of_nonneg_right below (by decide)

theorem le_nanoseconds {seconds : Rat} {bound : Int} (above : bound ≤ seconds) :
    bound * 1000000000 ≤ nanoseconds seconds := by
  rw [Rat.le_iff, Rat.den_intCast, Rat.num_intCast, Nat.cast_one, mul_one] at above
  refine (Int.le_ediv_iff_mul_le (by exact_mod_cast seconds.den_pos)).mpr ?_
  rw [mul_right_comm]
  exact Int.mul_le_mul_of_nonneg_right above (by decide)

theorem SampleOutcome.pause_eq {config : Config} {outcome : SampleOutcome} {wait : Int}
    (asks : outcome.wait config = some wait) :
    outcome.pause config = some (wait + outcome.slack config wait) := by
  cases outcome with
  | response message =>
      obtain ⟨seconds, isInt, asks⟩ := Option.bind_eq_some_iff.mp asks
      split at asks
      · rename_i within
        obtain rfl := Option.some.inj asks
        simp only [pause, interval, isInt, within, slack, and_self, if_true]
        split
        · rename_i below
          have := nanoseconds_le below
          rw [nanoseconds_intCast, max_eq_left (by omega), add_zero]
        · rename_i below
          have := le_nanoseconds (le_of_lt (lt_of_not_ge below))
          rw [max_eq_right (by omega)]
          congr 1
          omega
      · cases asks
  | krpcError code =>
      have none : (krpcError code).slack config wait = 0 := rfl
      rw [none, add_zero]
      exact asks
  | failed => cases asks

namespace SampleRound

variable {nowNs : Int} {bep51State : List (Endpoint × Int × Int)} {round after : SampleRound}

theorem due_iff (distinct : (Dict.keys bep51State).Nodup) (endpoint : Endpoint) :
    due nowNs bep51State endpoint = true ↔
      ∀ state, (endpoint, state) ∈ bep51State → state.1 ≤ nowNs := by
  unfold due
  constructor
  · intro isDue state member
    rw [Dict.get?_of_mem distinct member] at isDue
    exact of_decide_eq_true isDue
  · intro isDue
    split
    · rfl
    · rename_i state found
      exact decide_eq_true (isDue state (Dict.mem_of_get? found))

/-- What the loop picks is due and was not visited before. -/
theorem pick_some {contacts : List (Bytes × Endpoint)} {visited seen : List Bytes}
    {contact : Bytes × Endpoint}
    (picked : pick nowNs bep51State contacts visited = (seen, some contact)) :
    contact ∈ contacts ∧ contact.1 ∉ visited ∧ due nowNs bep51State contact.2 = true ∧
      contact.1 ∈ seen ∧ ∀ nodeId ∈ visited, nodeId ∈ seen := by
  induction contacts generalizing visited with
  | nil => cases picked
  | cons first rest ih =>
      unfold pick at picked
      split at picked
      · obtain ⟨member, others⟩ := ih picked
        exact ⟨List.mem_cons_of_mem _ member, others⟩
      · rename_i fresh
        split at picked
        · rename_i isDue
          cases picked
          exact ⟨List.mem_cons_self, fresh, isDue, by simp, fun _ there => by simp [there]⟩
        · obtain ⟨member, unseen, isDue, marked, kept⟩ := ih picked
          refine ⟨List.mem_cons_of_mem _ member, ?_, isDue, marked, ?_⟩
          · exact fun there => unseen (List.mem_append_left _ there)
          · exact fun nodeId there => kept nodeId (List.mem_append_left _ there)

/-- The next query of a round goes to an endpoint that is due, for a contact that was not visited. -/
structure Follows (bep51State : List (Endpoint × Int × Int)) (round after : SampleRound) :
    Prop where
  nowNs : after.nowNs = round.nowNs
  shortlist : after.shortlist = round.shortlist
  due : SampleRound.due round.nowNs bep51State after.endpoint = true
  unsent : after.sent = false
  listed : (after.contact, after.endpoint) ∈ round.shortlist
  fresh : after.contact ∉ round.visited
  marked : after.contact ∈ after.visited
  kept : ∀ nodeId ∈ round.visited, nodeId ∈ after.visited

theorem next_some (goesOn : round.next bep51State = some after) :
    Follows bep51State round after := by
  unfold next at goesOn
  split at goesOn
  · cases goesOn
  · split at goesOn
    · cases goesOn
    · rename_i contacts sorted
      cases shape : pick round.nowNs bep51State contacts round.visited with
      | mk seen picked =>
          rw [shape] at goesOn
          obtain ⟨contact, rfl, rfl⟩ := Option.map_eq_some_iff.mp goesOn
          obtain ⟨member, fresh, isDue, marked, kept⟩ := pick_some shape
          exact ⟨rfl, rfl, isDue, rfl, (Shortlist.ordered_perm sorted).mem_iff.mp member, fresh, marked,
            kept⟩

end SampleRound

namespace Sampler

/-- A round that awaits a query has one that was due, in a node that samples. -/
structure Inv (config : Config) (localIps : List String) (sampler : Sampler) : Prop where
  distinct : (Dict.keys sampler.bep51State).Nodup
  timely : ∀ round ∈ sampler.round, round.nowNs ≤ sampler.clock
  due : ∀ round ∈ sampler.round,
    SampleRound.due round.nowNs sampler.bep51State round.endpoint = true
  enabled : sampler.round.isSome → config.dhtBep51Enabled = true
  allowed : ∀ round ∈ sampler.round, round.sent = true →
    endpointAllowed config localIps round.endpoint.1 round.endpoint.2 = true
  listed : ∀ round ∈ sampler.round, round.contact ∈ Dict.keys round.shortlist

section invariant

variable {config : Config} {localIps : List String} {sampler next : Sampler}

theorem rememberBep51_keys_nodup {bep51State : List (Endpoint × Int × Int)}
    (distinct : (Dict.keys bep51State).Nodup) (endpoint : Endpoint) (dueNs seenNs : Int) :
    (Dict.keys (rememberBep51 config endpoint dueNs seenNs bep51State)).Nodup := by
  unfold rememberBep51
  dsimp only
  rw [Dict.keys, List.map_drop]
  refine List.Nodup.sublist (List.drop_sublist _ _) ?_
  rw [List.map_append, List.nodup_append]
  refine ⟨distinct.sublist (Dict.keys_pop_sublist endpoint _), List.nodup_singleton _, ?_⟩
  intro other member last isLast
  rw [List.mem_singleton.mp isLast]
  exact ((Dict.mem_keys_pop endpoint other _).mp member).2

theorem pruneBep51State_sublist (config : Config) (now : Int)
    (bep51State : List (Endpoint × Int × Int)) :
    (pruneBep51State config now bep51State).Sublist bep51State :=
  List.filter_sublist

/-- What the round remembers when its query has ended. -/
def resumedState (config : Config) (outcome : SampleOutcome) (round : SampleRound)
    (bep51State : List (Endpoint × Int × Int)) : List (Endpoint × Int × Int) :=
  match outcome.pause config with
  | none => bep51State
  | some pause =>
      rememberBep51 config ((Dict.get? round.contact round.shortlist).getD round.endpoint)
        (round.nowNs + pause) round.nowNs bep51State

/-- A round that began at the time awaits a query that was due then and is not sent yet. -/
def Awaits (nowNs : Int) (bep51State : List (Endpoint × Int × Int)) (after : Option SampleRound) :
    Prop :=
  ∀ round ∈ after, round.nowNs = nowNs ∧
    SampleRound.due nowNs bep51State round.endpoint = true ∧ round.sent = false ∧
      round.contact ∈ Dict.keys round.shortlist

theorem awaits_next (bep51State : List (Endpoint × Int × Int)) (round : SampleRound) :
    Awaits round.nowNs bep51State (round.next bep51State) := by
  intro after member
  have follows := SampleRound.next_some member
  refine ⟨follows.nowNs, follows.due, follows.unsent, ?_⟩
  rw [follows.shortlist]
  exact List.mem_map_of_mem follows.listed

theorem awaits_none (nowNs : Int) (bep51State : List (Endpoint × Int × Int)) :
    Awaits nowNs bep51State none := by
  intro _ member
  cases member

theorem resume_cases (config : Config) (localIps : List String) (outcome : SampleOutcome)
    (readings : Nat → Int) (round : SampleRound) (sampler : Sampler) :
    ∃ routing after, sampler.resume config localIps outcome readings round =
        { sampler with
          routing, bep51State := resumedState config outcome round sampler.bep51State
          round := after } ∧
      Awaits round.nowNs (resumedState config outcome round sampler.bep51State) after := by
  unfold resume resumedState
  cases outcome with
  | failed => exact ⟨sampler.routing, _, rfl, awaits_next _ round⟩
  | krpcError code => exact ⟨sampler.routing, _, rfl, awaits_next _ round⟩
  | response message =>
      dsimp only
      split
      · exact ⟨_, none, rfl, awaits_none _ _⟩
      · rename_i shortlist _
        exact ⟨_, _, rfl, awaits_next _ { round with shortlist, processed := round.processed + 1 }⟩

theorem start_cases (config : Config) (now reading : Int) (queued maxsize : Int) (target : Bytes)
    (sampler : Sampler) :
    sampler.start config now reading queued maxsize target = sampler ∨
      config.dhtBep51Enabled = true ∧
      ∃ after, sampler.start config now reading queued maxsize target =
          { sampler with
            bep51State := pruneBep51State config now sampler.bep51State
            round := after } ∧
        (after = sampler.round ∨
          Awaits now (pruneBep51State config now sampler.bep51State) after) := by
  unfold start
  dsimp only
  split
  · exact .inl rfl
  · rename_i runs
    have enabled : config.dhtBep51Enabled = true := by
      by_contra off
      exact runs (.inl (by simpa using off))
    refine .inr ⟨enabled, ?_⟩
    split
    · exact ⟨_, rfl, .inl rfl⟩
    · exact ⟨_, rfl, .inr (awaits_next _ _)⟩

theorem returned_cases {now : Int} {outcome : SampleOutcome} {readings : Nat → Int}
    (taken : step config localIps sampler (.returned now outcome readings) = some next) :
    ∃ round, sampler.round = some round ∧ sampler.clock ≤ now ∧
      (outcome.isFailed = true ∨ round.sent = true) ∧
      next = { sampler.resume config localIps outcome readings round with clock := now } := by
  obtain ⟨round, waiting, taken⟩ := Option.bind_eq_some_iff.mp taken
  split at taken
  · cases taken
  · rename_i allowed
    rw [not_or, not_and] at allowed
    refine ⟨round, waiting, Int.not_lt.mp allowed.1, ?_, (Option.some.inj taken).symm⟩
    cases flag : round.sent with
    | true => exact .inr rfl
    | false => exact .inl (by simpa [flag] using allowed.2)

theorem sent_cases {now : Int} (taken : step config localIps sampler (.sent now) = some next) :
    ∃ round, sampler.round = some round ∧ sampler.clock ≤ now ∧
      endpointAllowed config localIps round.endpoint.1 round.endpoint.2 = true ∧
      next = { sampler with
        round := some { round with sent := true }
        clock := now
        queried := sampler.queried ++ [(round.endpoint, now)] } := by
  obtain ⟨round, waiting, taken⟩ := Option.bind_eq_some_iff.mp taken
  split at taken
  · cases taken
  · rename_i allowed
    rw [not_or, not_or] at allowed
    exact ⟨round, waiting, Int.not_lt.mp allowed.2.1, by simpa using allowed.2.2,
      (Option.some.inj taken).symm⟩

theorem started_cases {now reading : Int} {queued maxsize : Int} {target : Bytes}
    (taken : step config localIps sampler (.start now reading queued maxsize target) = some next) :
    sampler.round = none ∧ sampler.clock ≤ now ∧ now ≤ reading ∧
      next = { sampler.start config now reading queued maxsize target with clock := reading } := by
  simp only [step] at taken
  split at taken
  · cases taken
  · rename_i allowed
    rw [not_or, not_or] at allowed
    exact ⟨by simpa using allowed.1, Int.not_lt.mp allowed.2.1, Int.not_lt.mp allowed.2.2,
      (Option.some.inj taken).symm⟩

theorem resumedState_keys_nodup (distinct : (Dict.keys sampler.bep51State).Nodup)
    (outcome : SampleOutcome) (round : SampleRound) :
    (Dict.keys (resumedState config outcome round sampler.bep51State)).Nodup := by
  unfold resumedState
  split
  · exact distinct
  · exact rememberBep51_keys_nodup distinct _ _ _

theorem Inv.step (inv : Inv config localIps sampler) {event : SampleEvent}
    (taken : step config localIps sampler event = some next) : Inv config localIps next := by
  cases event with
  | elsewhere routing moved =>
      obtain rfl := Option.some.inj taken
      refine ⟨inv.distinct, ?_, ?_, by simpa using inv.enabled, ?_, ?_⟩
      all_goals
        intro after member
        obtain ⟨round, waiting, rfl⟩ := Option.map_eq_some_iff.mp member
      · exact inv.timely round waiting
      · exact inv.due round waiting
      · exact inv.allowed round waiting
      · have listed := inv.listed round waiting
        rwa [SampleRound.relocate, Shortlist.keys_relocate]
  | start now reading queued maxsize target =>
      obtain ⟨idle, passed, later, rfl⟩ := started_cases taken
      obtain same | ⟨enabled, after, shape, awaits⟩ :=
        start_cases config now reading queued maxsize target sampler
      · rw [same]
        refine ⟨inv.distinct, ?_, ?_, inv.enabled, ?_, ?_⟩
        all_goals
          intro round member
          rw [idle] at member
          cases member
      · rw [shape]
        have awaits : Awaits now (pruneBep51State config now sampler.bep51State) after := by
          obtain same | awaits := awaits
          · rw [same, idle]
            exact awaits_none _ _
          · exact awaits
        refine ⟨inv.distinct.sublist ((pruneBep51State_sublist config now _).map Prod.fst),
          fun round member => ?_, fun round member => ?_, fun _ => enabled,
          fun round member sent => ?_, fun round member => (awaits round member).2.2.2⟩
        · rw [(awaits round member).1]
          exact later
        · rw [(awaits round member).1]
          exact (awaits round member).2.1
        · rw [(awaits round member).2.2.1] at sent
          cases sent
  | sent now =>
      obtain ⟨round, waiting, passed, allowed, rfl⟩ := sent_cases taken
      refine ⟨inv.distinct, ?_, ?_, fun _ => inv.enabled (by rw [waiting]; rfl), ?_, ?_⟩
      all_goals
        intro after member
        obtain rfl := Option.some.inj member
      · exact Int.le_trans (inv.timely round waiting) passed
      · exact inv.due round waiting
      · exact fun _ => allowed
      · exact inv.listed round waiting
  | returned now outcome readings =>
      obtain ⟨round, waiting, passed, -, rfl⟩ := returned_cases taken
      obtain ⟨routing, after, shape, awaits⟩ :=
        resume_cases config localIps outcome readings round sampler
      rw [shape]
      refine ⟨resumedState_keys_nodup inv.distinct outcome round, fun round' member => ?_,
        fun round' member => ?_, fun _ => inv.enabled (by rw [waiting]; rfl),
        fun round' member sent => ?_, fun round' member => (awaits round' member).2.2.2⟩
      · rw [(awaits round' member).1]
        exact Int.le_trans (inv.timely round waiting) passed
      · rw [(awaits round' member).1]
        exact (awaits round' member).2.1
      · rw [(awaits round' member).2.2.1] at sent
        cases sent

/-- The contact whose answer is remembered has not moved since the query, and there is room for its
endpoint. -/
def Settled (config : Config) (sampler : Sampler) : SampleEvent → Prop
  | .returned _ outcome _ => ∀ round ∈ sampler.round, outcome.pause config ≠ none →
      Dict.get? round.contact round.shortlist = some round.endpoint ∧
        ((Dict.pop round.endpoint sampler.bep51State).length : Int) < config.bep51NodeStateMax
  | _ => True

/-- No query after the first `known` ones goes to the endpoint before the limit: it has passed, or
the endpoint is remembered for as long and no round awaits a query to it. -/
structure Spares (config : Config) (endpoint : Endpoint) (limit : Int) (known : Nat)
    (sampler : Sampler) : Prop where
  kept : known ≤ sampler.queried.length
  spared : ∀ query ∈ sampler.queried.drop known, query.1 = endpoint → limit ≤ query.2
  guarded : limit ≤ sampler.clock ∨ ∃ dueNs seenNs,
    (endpoint, dueNs, seenNs) ∈ sampler.bep51State ∧ limit ≤ dueNs ∧
      limit ≤ seenNs + nanoseconds config.bep51NodeStateTtl + 1 ∧
      ∀ round ∈ sampler.round, round.endpoint ≠ endpoint

/-- A round only awaits a query to a remembered endpoint after its due time. -/
theorem Awaits.elsewhere {nowNs clock limit dueNs seenNs : Int}
    {bep51State : List (Endpoint × Int × Int)} {after : Option SampleRound} {endpoint : Endpoint}
    (awaits : Awaits nowNs bep51State after) (distinct : (Dict.keys bep51State).Nodup)
    (passed : nowNs ≤ clock) (remembered : (endpoint, dueNs, seenNs) ∈ bep51State)
    (late : limit ≤ dueNs) :
    limit ≤ clock ∨ ∀ round ∈ after, round.endpoint ≠ endpoint := by
  by_cases early : nowNs < limit
  · refine .inr fun round member same => ?_
    have isDue := (SampleRound.due_iff distinct _).mp (awaits round member).2.1 (dueNs, seenNs)
      (same ▸ remembered)
    dsimp only at isDue
    omega
  · exact .inl (by omega)

theorem mem_rememberBep51 {bep51State : List (Endpoint × Int × Int)} {endpoint : Endpoint}
    (room : ((Dict.pop endpoint bep51State).length : Int) < config.bep51NodeStateMax)
    (dueNs seenNs : Int) :
    rememberBep51 config endpoint dueNs seenNs bep51State =
      Dict.pop endpoint bep51State ++ [(endpoint, dueNs, seenNs)] := by
  unfold rememberBep51
  dsimp only
  rw [List.length_append, List.length_singleton, Nat.sub_eq_zero_of_le (by omega), List.drop_zero]

theorem Spares.returned {endpoint : Endpoint} {limit : Int} {known : Nat}
    (spares : Spares config endpoint limit known sampler) (inv : Inv config localIps sampler)
    {now : Int} {outcome : SampleOutcome} {readings : Nat → Int}
    (settled : Settled config sampler (.returned now outcome readings))
    (taken : step config localIps sampler (.returned now outcome readings) = some next) :
    Spares config endpoint limit known next := by
  have inv' := inv.step taken
  obtain ⟨round, waiting, passed, -, rfl⟩ := returned_cases taken
  obtain ⟨routing, after, shape, awaits⟩ :=
    resume_cases config localIps outcome readings round sampler
  rw [shape] at inv' ⊢
  refine ⟨spares.kept, spares.spared, ?_⟩
  obtain past | ⟨dueNs, seenNs, remembered, late, lasting, apart⟩ := spares.guarded
  · exact .inl (Int.le_trans past passed)
  · have still : (endpoint, dueNs, seenNs) ∈
        resumedState config outcome round sampler.bep51State := by
      cases pause : outcome.pause config with
      | none => simpa [resumedState, pause] using remembered
      | some time =>
          obtain ⟨place, room⟩ := settled round waiting (by simp [pause])
          simp only [resumedState, pause, place, Option.getD_some]
          rw [mem_rememberBep51 room]
          refine List.mem_append_left _ (List.mem_filter.mpr ⟨remembered, ?_⟩)
          simpa using (apart round waiting).symm
    obtain past | elsewhere := awaits.elsewhere inv'.distinct
      (Int.le_trans (inv.timely round waiting) passed) still late
    · exact .inl past
    · exact .inr ⟨dueNs, seenNs, still, late, lasting, elsewhere⟩

theorem Spares.started {endpoint : Endpoint} {limit : Int} {known : Nat}
    (spares : Spares config endpoint limit known sampler) (inv : Inv config localIps sampler)
    {now reading queued maxsize : Int} {target : Bytes}
    (taken : step config localIps sampler (.start now reading queued maxsize target) = some next) :
    Spares config endpoint limit known next := by
  have inv' := inv.step taken
  obtain ⟨idle, passed, later, rfl⟩ := started_cases taken
  obtain same | ⟨-, after, shape, awaits⟩ :=
    start_cases config now reading queued maxsize target sampler
  · rw [same]
    refine ⟨spares.kept, spares.spared, spares.guarded.imp_left fun past => ?_⟩
    dsimp only
    omega
  · rw [shape] at inv' ⊢
    refine ⟨spares.kept, spares.spared, ?_⟩
    dsimp only at inv' ⊢
    obtain past | ⟨dueNs, seenNs, remembered, late, lasting, -⟩ := spares.guarded
    · exact .inl (by omega)
    · by_cases expired : seenNs < now - nanoseconds config.bep51NodeStateTtl
      · exact .inl (by omega)
      · have still : (endpoint, dueNs, seenNs) ∈
            pruneBep51State config now sampler.bep51State :=
          List.mem_filter.mpr ⟨remembered, by simpa using expired⟩
        obtain same | awaits := awaits
        · refine .inr ⟨dueNs, seenNs, still, late, lasting, ?_⟩
          rw [same, idle]
          intro _ member
          cases member
        · exact (awaits.elsewhere inv'.distinct later still late).imp_right fun elsewhere =>
            ⟨dueNs, seenNs, still, late, lasting, elsewhere⟩

theorem Spares.step {endpoint : Endpoint} {limit : Int} {known : Nat}
    (spares : Spares config endpoint limit known sampler) (inv : Inv config localIps sampler)
    {event : SampleEvent} (settled : Settled config sampler event)
    (taken : Sampler.step config localIps sampler event = some next) :
    Spares config endpoint limit known next := by
  cases event with
  | elsewhere routing moved =>
      obtain rfl := Option.some.inj taken
      refine ⟨spares.kept, spares.spared, spares.guarded.imp_right ?_⟩
      rintro ⟨dueNs, seenNs, remembered, late, lasting, apart⟩
      refine ⟨dueNs, seenNs, remembered, late, lasting, fun after member => ?_⟩
      obtain ⟨round, waiting, rfl⟩ := Option.map_eq_some_iff.mp member
      exact apart round waiting
  | start now reading queued maxsize target => exact spares.started inv taken
  | sent now =>
      obtain ⟨round, waiting, passed, -, rfl⟩ := sent_cases taken
      refine ⟨?_, fun query member here => ?_, ?_⟩
      · rw [List.length_append]
        exact Nat.le_add_right_of_le spares.kept
      · rw [List.drop_append_of_le_length spares.kept] at member
        obtain old | new := List.mem_append.mp member
        · exact spares.spared query old here
        · rw [List.mem_singleton.mp new] at here ⊢
          obtain past | ⟨_, _, _, _, _, apart⟩ := spares.guarded
          · exact Int.le_trans past passed
          · exact absurd here (apart round waiting)
      · refine spares.guarded.imp (fun past => Int.le_trans past passed) ?_
        rintro ⟨dueNs, seenNs, remembered, late, lasting, apart⟩
        refine ⟨dueNs, seenNs, remembered, late, lasting, fun after member => ?_⟩
        obtain rfl := Option.some.inj member
        exact apart round waiting
  | returned now outcome readings => exact spares.returned inv settled taken

/-- An endpoint that is remembered long enough is spared for as long as it asked. -/
theorem Spares.answered (inv : Inv config localIps sampler) (room : 1 ≤ config.bep51NodeStateMax)
    {round : SampleRound} (waiting : sampler.round = some round) {now : Int}
    {outcome : SampleOutcome} {readings : Nat → Int} {wait : Int}
    (taken : Sampler.step config localIps sampler (.returned now outcome readings) = some next)
    (enough : wait ≤ 0 ∨ Dict.get? round.contact round.shortlist = some round.endpoint ∧
      ∃ pause, outcome.pause config = some pause ∧ now + wait ≤ round.nowNs + pause ∧
        now + wait ≤ round.nowNs + nanoseconds config.bep51NodeStateTtl + 1) :
    Spares config round.endpoint (now + wait) next.queried.length next := by
  have inv' := inv.step taken
  obtain ⟨round', waiting', passed, -, rfl⟩ := returned_cases taken
  obtain rfl := Option.some.inj (waiting.symm.trans waiting')
  refine ⟨Nat.le_refl _, by simp, ?_⟩
  obtain none | ⟨place, pause, isPause, late, lasting⟩ := enough
  · exact .inl (by dsimp only; omega)
  · obtain ⟨routing, after, shape, awaits⟩ :=
      resume_cases config localIps outcome readings round sampler
    rw [shape] at inv' ⊢
    have remembered : (round.endpoint, round.nowNs + pause, round.nowNs) ∈
        resumedState config outcome round sampler.bep51State := by
      simp only [resumedState, isPause, place, Option.getD_some, rememberBep51]
      rw [List.length_append, List.length_singleton, List.drop_append_of_le_length (by omega)]
      exact List.mem_append_right _ (List.mem_singleton_self _)
    obtain past | elsewhere := awaits.elsewhere inv'.distinct
      (Int.le_trans (inv.timely round waiting) passed) remembered late
    · exact .inl past
    · exact .inr ⟨_, _, remembered, late, lasting, elsewhere⟩

/-- A round that only times out comes to its end. -/
theorem finish (config : Config) (localIps : List String) (sampler : Sampler) :
    ∃ events, Transition.Along (Settled config) (Sampler.step config localIps) sampler events ∧
      Transition.run (Sampler.step config localIps) sampler events =
        some { sampler with round := none } := by
  cases waiting : sampler.round with
  | none =>
      refine ⟨[], trivial, ?_⟩
      rw [← waiting]
      rfl
  | some round =>
      -- The unvisited contacts of the shortlist become fewer.
      induction unvisited : ((round.shortlist.map Prod.fst).toFinset \ round.visited.toFinset).card
        using Nat.strongRecOn generalizing sampler round with
      | ind count ih =>
          have taken : Sampler.step config localIps sampler
              (.returned sampler.clock .failed fun _ => 0) =
              some { sampler with round := round.next sampler.bep51State } := by
            simp [Sampler.step, waiting, resume, SampleOutcome.pause, SampleOutcome.isFailed]
          have settled : Settled config sampler (.returned sampler.clock .failed fun _ => 0) :=
            fun _ _ remembers => absurd rfl remembers
          suffices rest : ∃ events, Transition.Along (Settled config)
              (Sampler.step config localIps)
              { sampler with round := round.next sampler.bep51State } events ∧
              Transition.run (Sampler.step config localIps)
                { sampler with round := round.next sampler.bep51State } events =
                  some { sampler with round := none } by
            obtain ⟨events, along, ran⟩ := rest
            refine ⟨_ :: events, ⟨settled, fun other same => ?_⟩,
              Transition.run_cons.mpr ⟨_, taken, ran⟩⟩
            rw [taken] at same
            exact Option.some.inj same ▸ along
          cases goesOn : round.next sampler.bep51State with
          | none => exact ⟨[], trivial, rfl⟩
          | some after =>
              have follows := SampleRound.next_some goesOn
              refine ih _ ?_ { sampler with round := some after } after rfl rfl
              rw [← unvisited, follows.shortlist]
              refine Finset.card_lt_card ((Finset.ssubset_iff_of_subset ?_).mpr
                ⟨after.contact, ?_, ?_⟩)
              · intro nodeId member
                simp only [Finset.mem_sdiff, List.mem_toFinset] at member ⊢
                exact ⟨member.1, fun seen => member.2 (follows.kept nodeId seen)⟩
              · simp only [Finset.mem_sdiff, List.mem_toFinset]
                exact ⟨List.mem_map_of_mem follows.listed, follows.fresh⟩
              · simp [follows.marked]

/-- A contact that answered just now. -/
def goodContact (now : Int) (endpoint : Endpoint) : Contact where
  nodeId := List.replicate 20 0
  ip := endpoint.1
  port := endpoint.2
  firstSeenNs := now
  lastResponseNs := some now
  everResponded := true

/-- A table with this contact only. -/
def goodTable (now : Int) (endpoint : Endpoint) (routing : RoutingTable) : RoutingTable :=
  { routing with
    buckets := [{ low := 0, high := 1, contacts := [goodContact now endpoint]
                  lastChangedNs := now }] }

theorem closest_goodTable (ttl : 0 ≤ nanoseconds config.dhtRoutingGoodTtl)
    (failures : 1 ≤ config.dhtRoutingBadAfterFailures) (routing : RoutingTable) (now : Int)
    (endpoint : Endpoint) :
    (goodTable now endpoint routing).closest config now (List.replicate 20 0) DHT_K true =
      .ok [goodContact now endpoint] := by
  have good : (goodContact now endpoint).state config now = .good := by
    unfold Contact.state
    rw [if_neg (by simp only [goodContact, Nat.cast_zero]; omega)]
    simp [goodContact, recent, ttl]
  have near : xorDistance (goodContact now endpoint).nodeId (List.replicate 20 0) = .ok 0 := by
    simp [xorDistance, goodContact]
  have listed : (goodTable now endpoint routing).allContacts = [goodContact now endpoint] := rfl
  unfold RoutingTable.closest
  simp only [listed, if_true]
  rw [List.filter_cons_of_pos rfl, List.filter_cons_of_pos (by simpa using good), List.filter_nil,
    List.filter_nil, List.mapM_cons, List.mapM_nil, near]
  show Except.ok ((([(0, goodContact now endpoint)].mergeSort fun left right =>
    decide (left.1 ≤ right.1)).map Prod.snd).take DHT_K) = _
  rw [List.mergeSort_singleton]
  rfl

theorem next_single {bep51State : List (Endpoint × Int × Int)} {now : Int} {endpoint : Endpoint}
    (due : SampleRound.due now bep51State endpoint = true) {maxNodes : Nat}
    (some : 0 < maxNodes) :
    SampleRound.next bep51State
        { nowNs := now, target := List.replicate 20 0
          shortlist := [(List.replicate 20 0, endpoint)], maxNodes } =
      .some { nowNs := now, target := List.replicate 20 0
              shortlist := [(List.replicate 20 0, endpoint)], maxNodes
              visited := [List.replicate 20 0], contact := List.replicate 20 0, endpoint } := by
  have near : xorDistance (List.replicate 20 0) (List.replicate 20 0) = .ok 0 := by
    simp [xorDistance]
  have alone : Shortlist.ordered (List.replicate 20 0) [(List.replicate 20 0, endpoint)] =
      .ok [(List.replicate 20 0, endpoint)] := by
    unfold Shortlist.ordered
    rw [List.mapM_cons, List.mapM_nil, near]
    show Except.ok (([(0, (List.replicate 20 0, endpoint))].mergeSort fun left right =>
      decide (left.1 ≤ right.1)).map Prod.snd) = _
    rw [List.mergeSort_singleton]
    rfl
  unfold SampleRound.next
  rw [if_neg (by dsimp only; omega), alone]
  simp [SampleRound.pick, due]

theorem start_goodTable (ttl : 0 ≤ nanoseconds config.dhtRoutingGoodTtl)
    (failures : 1 ≤ config.dhtRoutingBadAfterFailures) (enabled : config.dhtBep51Enabled = true)
    (mark : 0 < config.bep51QueueHighWatermark) {now : Int} {endpoint : Endpoint}
    (due : SampleRound.due now (pruneBep51State config now sampler.bep51State) endpoint = true) :
    ∃ round : SampleRound, round.endpoint = endpoint ∧ round.sent = false ∧
      ({ sampler with
          routing := goodTable now endpoint sampler.routing, round := none } : Sampler).start config
          now now 0 1 (List.replicate 20 0) =
        { sampler with
          routing := goodTable now endpoint sampler.routing
          bep51State := pruneBep51State config now sampler.bep51State
          round := some round } := by
  have idle : ((0 : Int) : Rat) / ((max 1 1 : Int) : Rat) = 0 := by simp
  unfold start
  dsimp only
  rw [idle, if_neg (by simpa [enabled] using mark),
    closest_goodTable ttl failures sampler.routing now endpoint]
  dsimp only [Shortlist.ofContacts, List.foldl]
  rw [Dict.set_new _ (by simp [Dict.keys]), List.nil_append]
  refine ⟨_, ?_, ?_, congrArg (fun round => ({ sampler with
    routing := goodTable now endpoint sampler.routing
    bep51State := pruneBep51State config now sampler.bep51State, round } : Sampler))
    (next_single due ?_)⟩
  · rfl
  · rfl
  · split <;> decide

/-- An endpoint that is free at a time can be queried then. -/
theorem query_free (ttl : 0 ≤ nanoseconds config.dhtRoutingGoodTtl)
    (failures : 1 ≤ config.dhtRoutingBadAfterFailures) (enabled : config.dhtBep51Enabled = true)
    (mark : 0 < config.bep51QueueHighWatermark) (inv : Inv config localIps sampler)
    {endpoint : Endpoint}
    (allowed : endpointAllowed config localIps endpoint.1 endpoint.2 = true) {now : Int}
    (passed : sampler.clock ≤ now)
    (free : ∀ state, (endpoint, state) ∈ sampler.bep51State →
      state.1 ≤ now ∨ state.2 + nanoseconds config.bep51NodeStateTtl + 1 ≤ now) :
    ∃ events final,
      Transition.Along (Settled config) (Sampler.step config localIps) sampler events ∧
      Transition.run (Sampler.step config localIps) sampler events = some final ∧
      (endpoint, now) ∈ final.queried.drop sampler.queried.length := by
  have due : SampleRound.due now (pruneBep51State config now sampler.bep51State) endpoint =
      true := by
    refine (SampleRound.due_iff (inv.distinct.sublist
      ((pruneBep51State_sublist config now _).map Prod.fst)) _).mpr fun state member => ?_
    obtain ⟨remembered, recent⟩ := List.mem_filter.mp member
    have recent : now - nanoseconds config.bep51NodeStateTtl ≤ state.2 := by simpa using recent
    obtain isDue | expired := free state remembered
    · exact isDue
    · omega
  obtain ⟨round, place, unsent, begun⟩ := start_goodTable ttl failures enabled mark due
  obtain ⟨events, along, ran⟩ := finish config localIps sampler
  have begins : Sampler.step config localIps
      { sampler with routing := goodTable now endpoint sampler.routing, round := none }
      (.start now now 0 1 (List.replicate 20 0)) =
      some { sampler with
        routing := goodTable now endpoint sampler.routing
        bep51State := pruneBep51State config now sampler.bep51State
        round := some round, clock := now } := by
    simp only [Sampler.step]
    rw [if_neg (by simpa using passed), begun]
  have asks : Sampler.step config localIps
      { sampler with
        routing := goodTable now endpoint sampler.routing
        bep51State := pruneBep51State config now sampler.bep51State
        round := some round, clock := now } (.sent now) =
      some { sampler with
        routing := goodTable now endpoint sampler.routing
        bep51State := pruneBep51State config now sampler.bep51State
        round := some { round with sent := true }, clock := now
        queried := sampler.queried ++ [(endpoint, now)] } := by
    simp [Sampler.step, unsent, place, allowed]
  refine ⟨events ++ [.elsewhere (goodTable now endpoint sampler.routing) [],
    .start now now 0 1 (List.replicate 20 0), .sent now], _, ?_,
    Transition.run_append.mpr ⟨_, ran, Transition.run_cons.mpr ⟨_, rfl,
      Transition.run_cons.mpr ⟨_, begins, Transition.run_cons.mpr ⟨_, asks, rfl⟩⟩⟩⟩, ?_⟩
  · exact along.append fun _ _ =>
      ⟨trivial, fun _ _ => ⟨trivial, fun _ _ => ⟨trivial, fun _ _ => trivial⟩⟩⟩
  · rw [List.drop_append_of_le_length (Nat.le_refl _)]
    simp

/-- Another endpoint's state changes nothing about this one but that it may be forgotten. -/
theorem mem_of_rememberBep51 {bep51State : List (Endpoint × Int × Int)}
    {endpoint other : Endpoint} (different : other ≠ endpoint) {dueNs seenNs : Int}
    {state : Int × Int}
    (member : (endpoint, state) ∈ rememberBep51 config other dueNs seenNs bep51State) :
    (endpoint, state) ∈ bep51State := by
  obtain old | new := List.mem_append.mp (List.mem_of_mem_drop member)
  · exact Dict.mem_of_mem_pop old
  · exact absurd (Prod.mk.inj (List.mem_singleton.mp new)).1.symm different

theorem remembers_of_asks {outcome : SampleOutcome} {wait : Int}
    (asks : outcome.wait config = some wait) :
    outcome.isFailed = false ∧ ∃ pause, outcome.pause config = some pause := by
  cases outcome with
  | response message => exact ⟨rfl, _, rfl⟩
  | krpcError code =>
      simp only [SampleOutcome.wait] at asks
      exact ⟨rfl, wait, asks⟩
  | failed => cases asks

/-- An endpoint that asks for longer than it is remembered is queried too early in some run. -/
theorem query_early (ttl : 0 ≤ nanoseconds config.dhtRoutingGoodTtl)
    (failures : 1 ≤ config.dhtRoutingBadAfterFailures)
    (mark : 0 < config.bep51QueueHighWatermark) (inv : Inv config localIps sampler)
    {round : SampleRound} (waiting : sampler.round = some round) {now : Int}
    {outcome : SampleOutcome} {readings : Nat → Int} {wait : Int}
    (asks : outcome.wait config = some wait)
    (taken : Sampler.step config localIps sampler (.returned now outcome readings) = some next)
    (short : ¬ (wait ≤ 0 ∨ Dict.get? round.contact round.shortlist = some round.endpoint ∧
      ∃ pause, outcome.pause config = some pause ∧ now + wait ≤ round.nowNs + pause ∧
        now + wait ≤ round.nowNs + nanoseconds config.bep51NodeStateTtl + 1)) :
    ∃ later final,
      Transition.Along (Settled config) (Sampler.step config localIps) next later ∧
      Transition.run (Sampler.step config localIps) next later = some final ∧
      ∃ query ∈ final.queried.drop next.queried.length,
        query.1 = round.endpoint ∧ query.2 < now + wait := by
  have inv' := inv.step taken
  obtain ⟨round', waiting', passed, replied, rfl⟩ := returned_cases taken
  obtain rfl := Option.some.inj (waiting.symm.trans waiting')
  obtain ⟨answers, pause, isPause⟩ := remembers_of_asks asks
  have timely := inv.timely round waiting
  have enabled := inv.enabled (by rw [waiting]; rfl)
  have allowed := inv.allowed round waiting (replied.resolve_left (by simp [answers]))
  obtain ⟨routing, after, shape, -⟩ :=
    resume_cases config localIps outcome readings round sampler
  obtain ⟨place, isPlace⟩ : ∃ place, Dict.get? round.contact round.shortlist = some place :=
    Option.ne_none_iff_exists'.mp fun missing =>
      (Dict.get?_eq_none_iff _ _).mp missing (inv.listed round waiting)
  rw [shape] at inv' ⊢
  -- The endpoint is free again at a time before it should be.
  suffices frees : ∃ time, now ≤ time ∧ time < now + wait ∧ ∀ state,
      (round.endpoint, state) ∈ resumedState config outcome round sampler.bep51State →
        state.1 ≤ time ∨ state.2 + nanoseconds config.bep51NodeStateTtl + 1 ≤ time by
    obtain ⟨time, later, early, free⟩ := frees
    obtain ⟨events, final, along, ran, queried⟩ :=
      query_free ttl failures enabled mark inv' allowed later free
    exact ⟨events, final, along, ran, _, queried, rfl, early⟩
  simp only [resumedState, isPause, isPlace, Option.getD_some]
  rw [not_or] at short
  by_cases moved : place = round.endpoint
  · refine ⟨max now (min (round.nowNs + pause)
      (round.nowNs + nanoseconds config.bep51NodeStateTtl + 1)), by omega, ?_, ?_⟩
    · have late : ¬ (now + wait ≤ round.nowNs + pause ∧
          now + wait ≤ round.nowNs + nanoseconds config.bep51NodeStateTtl + 1) :=
        fun both => short.2 ⟨moved ▸ isPlace, pause, isPause, both⟩
      omega
    · intro state member
      obtain old | new := List.mem_append.mp (List.mem_of_mem_drop member)
      · rw [moved] at old
        exact absurd rfl ((Dict.mem_keys_pop round.endpoint round.endpoint _).mp
          (List.mem_map_of_mem old)).2
      · rw [(Prod.mk.inj (List.mem_singleton.mp new)).2]
        dsimp only
        omega
  · refine ⟨now, Int.le_refl _, by omega, fun state member => .inl ?_⟩
    have isDue := (SampleRound.due_iff inv.distinct _).mp (inv.due round waiting) state
      (mem_of_rememberBep51 moved member)
    omega

end invariant

/-- An endpoint that asks to be left alone is left alone for so long, in whatever happens after as
long as contacts do not move and there is room, exactly if it asks for no time at all, or its
contact has not moved and the time since the round began fits into the slack and, together with the
time that it asks for, into the time for which endpoints are remembered. -/
theorem answered_spares_iff (config : Config) (ttl : 0 ≤ config.dhtRoutingGoodTtl)
    (failures : 1 ≤ config.dhtRoutingBadAfterFailures)
    (mark : 0 < config.bep51QueueHighWatermark) (room : 1 ≤ config.bep51NodeStateMax)
    (localIps : List String) (routing : RoutingTable) (clock : Int) (earlier : List SampleEvent)
    (sampler : Sampler)
    (reached : Transition.run (Sampler.step config localIps) { routing, clock } earlier =
      some sampler)
    (round : SampleRound) (waiting : sampler.round = some round) (now : Int)
    (outcome : SampleOutcome) (readings : Nat → Int) (next : Sampler)
    (taken : Sampler.step config localIps sampler (.returned now outcome readings) = some next)
    (wait : Int) (asks : outcome.wait config = some wait) :
    (∀ later final,
        Transition.Along (Settled config) (Sampler.step config localIps) next later →
        Transition.run (Sampler.step config localIps) next later = some final →
        ∀ query ∈ final.queried.drop next.queried.length,
          query.1 = round.endpoint → now + wait ≤ query.2) ↔
      wait ≤ 0 ∨ Dict.get? round.contact round.shortlist = some round.endpoint ∧
        now - round.nowNs ≤ outcome.slack config wait ∧
        now - round.nowNs + wait ≤ nanoseconds config.bep51NodeStateTtl + 1 := by
  have pause := SampleOutcome.pause_eq asks
  have inv : Inv config localIps sampler := by
    refine Transition.invariant_run (Inv config localIps)
      (fun _ _ _ inv taken => inv.step taken) reached ?_
    exact ⟨List.nodup_nil, by simp, by simp, by simp, by simp, by simp⟩
  have cutoff : 0 ≤ nanoseconds config.dhtRoutingGoodTtl := by
    unfold nanoseconds
    have numerator := Rat.num_nonneg.mpr ttl
    exact Int.ediv_nonneg (by omega) (by omega)
  constructor
  · intro spares
    by_contra short
    obtain ⟨later, final, along, ran, query, member, here, early⟩ :=
      query_early cutoff failures mark inv waiting asks taken fun enough => short <|
        enough.imp_right fun ⟨place, time, isPause, late, lasting⟩ => by
          obtain rfl := Option.some.inj (pause.symm.trans isPause)
          exact ⟨place, by omega, by omega⟩
    have late := spares later final along ran query member here
    omega
  · intro enough later final along ran query member here
    have spares : Spares config round.endpoint (now + wait) next.queried.length final ∧
        Inv config localIps final :=
      Transition.invariant_along
        (fun state => Spares config round.endpoint (now + wait) next.queried.length state ∧
          Inv config localIps state)
        (fun _ _ _ both settled taken => ⟨both.1.step both.2 settled taken, both.2.step taken⟩)
        along ran ⟨Spares.answered inv room waiting taken (enough.imp_right fun held =>
          ⟨held.1, _, pause, by omega, by omega⟩), inv.step taken⟩
    exact spares.1.spared query member here

/-- A table with one node that was heard of at the given time. -/
def sampleTable (now : Int) : RoutingTable where
  localNodeId := List.replicate 20 255
  buckets := [{ low := 0, high := 2 ^ 160, lastChangedNs := 0
                contacts := [goodContact now ("8.8.8.8", 6881)] }]

/-- The query of a round that began at time 0 is out. -/
def sampleQueried : Sampler where
  routing := sampleTable 0
  round := some
    { nowNs := 0
      target := List.replicate 20 7
      shortlist := [(List.replicate 20 0, ("8.8.8.8", 6881))]
      visited := [List.replicate 20 0]
      maxNodes := DHT_K
      contact := List.replicate 20 0
      endpoint := ("8.8.8.8", 6881)
      sent := true }
  clock := 0
  queried := [(("8.8.8.8", 6881), 0)]

/-- The query goes out right when the round begins, and the error comes at once. -/
theorem answered_spares_iff_sample :
    ∃ next,
      step {} [] sampleQueried (.returned 0 (.krpcError 204) fun _ => 0) = some next ∧
      ∀ later final, Transition.Along (Settled {}) (step {} []) next later →
        Transition.run (step {} []) next later = some final →
        ∀ query ∈ final.queried.drop next.queried.length,
          query.1 = ("8.8.8.8", 6881) → 0 + nanoseconds 3600 ≤ query.2 := by
  have taken : step {} [] sampleQueried (.returned 0 (.krpcError 204) fun _ => 0) =
      some { sampleQueried with
        bep51State := [(("8.8.8.8", 6881), 3600000000000, 0)], round := none } := by
    decide +kernel
  refine ⟨_, taken, ?_⟩
  refine (answered_spares_iff {} (by decide +kernel) (by decide) (by decide +kernel) (by decide) []
    (sampleTable 0) 0 [.start 0 0 0 64 (List.replicate 20 7), .sent 0] sampleQueried
    (by decide +kernel) _ rfl 0 (.krpcError 204) (fun _ => 0) _ taken (nanoseconds 3600)
    rfl).mpr (.inr ?_)
  decide +kernel

/-- The answer comes five seconds after the round began and asks for five minutes, and the next
query goes out five minutes after the round began. -/
theorem queried_early :
    ∃ next final,
      Transition.run (step {} []) { routing := sampleTable 0, clock := 0 }
        [.start 0 0 0 64 (List.replicate 20 7), .sent 0] = some sampleQueried ∧
      step {} [] sampleQueried (.returned 5000000000
        (.response [(ascii "id", .bytes (List.replicate 20 0)), (ascii "interval", .int 300)])
        fun _ => 0) = some next ∧
      Transition.Along (Settled {}) (step {} []) next
        [.elsewhere (sampleTable 5000000000) [],
          .start 300000000000 300000000000 0 64 (List.replicate 20 7), .sent 300000000000] ∧
      Transition.run (step {} []) next
        [.elsewhere (sampleTable 5000000000) [],
          .start 300000000000 300000000000 0 64 (List.replicate 20 7), .sent 300000000000] =
        some final ∧
      (("8.8.8.8", 6881), 300000000000) ∈ final.queried.drop next.queried.length ∧
      (300000000000 : Int) < 5000000000 + 300 * 1000000000 := by
  refine ⟨{ sampleQueried with
      bep51State := [(("8.8.8.8", 6881), 300000000000, 0)], round := none, clock := 5000000000 },
    { sampleQueried with
      routing := sampleTable 5000000000
      bep51State := [(("8.8.8.8", 6881), 300000000000, 0)]
      round := sampleQueried.round.map fun round => { round with nowNs := 300000000000 }
      clock := 300000000000
      queried := [(("8.8.8.8", 6881), 0), (("8.8.8.8", 6881), 300000000000)] },
    by decide +kernel, by decide +kernel, ?_, by decide +kernel, by decide +kernel,
    by decide +kernel⟩
  exact ⟨trivial, fun _ _ => ⟨trivial, fun _ _ => ⟨trivial, fun _ _ => trivial⟩⟩⟩

end Sampler

end PyDht
