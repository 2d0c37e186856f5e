import PyDht.SamplerRuns

set_option autoImplicit false

namespace PyDht

/-- A query of a round: to whom it goes, and what is remembered of the endpoint at the time. -/
structure SampleAsk where
  nodeId : Bytes
  endpoint : Endpoint
  remembered : Option (Int × Int)
deriving DecidableEq

def SampleOutcome.isResponse : SampleOutcome → Bool
  | .response _ => true
  | .krpcError _ | .failed => false

/-- The query of the round has returned with a response. -/
def SampleEvent.isResponse : SampleEvent → Bool
  | .returned _ outcome _ => outcome.isResponse
  | .elsewhere _ _ | .start _ _ _ _ _ | .sent _ => false

def SampleEvent.isReturned : SampleEvent → Bool
  | .returned _ _ _ => true
  | .elsewhere _ _ | .start _ _ _ _ _ | .sent _ => false

def SampleEvent.isStart : SampleEvent → Bool
  | .start _ _ _ _ _ => true
  | .elsewhere _ _ | .sent _ | .returned _ _ _ => false

namespace Sampler

/-- The query that an event sends. -/
def ask (sampler : Sampler) : SampleEvent → Option SampleAsk
  | .sent _ =>
      sampler.round.map fun round =>
        { nodeId := round.contact, endpoint := round.endpoint
          remembered := Dict.get? round.endpoint sampler.bep51State }
  | .elsewhere _ _ | .start _ _ _ _ _ | .returned _ _ _ => none

/-- The queries that are sent in a run. -/
def asks (config : Config) (localIps : List String) : Sampler → List SampleEvent → List SampleAsk
  | _, [] => []
  | sampler, event :: events =>
      (sampler.ask event).toList ++
        match step config localIps sampler event with
        | some next => asks config localIps next events
        | none => []

end Sampler

namespace SampleRound

variable {bep51State : List (Endpoint × Int × Int)} {round after : SampleRound}

/-- The loop goes on only below its limit, and does not change its counters. -/
theorem next_limits (goesOn : round.next bep51State = some after) :
    after.maxNodes = round.maxNodes ∧ after.processed = round.processed ∧
      round.processed < round.maxNodes := by
  unfold next at goesOn
  split at goesOn
  · cases goesOn
  · rename_i below
    split at goesOn
    · cases goesOn
    · obtain ⟨contact, -, rfl⟩ := Option.map_eq_some_iff.mp goesOn
      exact ⟨rfl, rfl, Nat.lt_of_not_le below⟩

/-- The listed contacts that were not visited. -/
def unvisited (round : SampleRound) : Nat :=
  (Dict.keys round.shortlist).countP fun nodeId => nodeId ∉ round.visited

theorem countP_lt {α : Type} {few many : α → Bool} {items : List α}
    (fewer : ∀ item ∈ items, few item = true → many item = true) {item : α} (member : item ∈ items)
    (gained : many item = true) (lost : few item = false) : items.countP few < items.countP many := by
  obtain ⟨front, back, rfl⟩ := List.append_of_mem member
  have before := List.countP_mono_left fun other there =>
    fewer other (List.mem_append_left _ there)
  have behind := List.countP_mono_left fun other there =>
    fewer other (List.mem_append_right front (List.mem_cons_of_mem item there))
  rw [List.countP_append, List.countP_append, List.countP_cons_of_pos gained,
    List.countP_cons_of_neg (by simp [lost])]
  omega

/-- Each query visits a listed contact that was not visited before. -/
theorem Follows.unvisited_lt (follows : Follows bep51State round after) :
    after.unvisited < round.unvisited := by
  unfold unvisited
  rw [follows.shortlist]
  refine countP_lt (fun nodeId _ unseen => ?_) (List.mem_map_of_mem follows.listed)
    (decide_eq_true follows.fresh) (decide_eq_false (not_not.mpr follows.marked))
  have unseen := of_decide_eq_true unseen
  exact decide_eq_true fun seen => unseen (follows.kept nodeId seen)

end SampleRound

namespace Sampler

variable {config : Config} {localIps : List String} {sampler next : Sampler}

/-- `max_nodes` of a round that begins with this much in the hash queue. -/
def maxNodes (config : Config) (queued maxsize : Int) : Nat :=
  if (queued : Rat) / ((max 1 maxsize : Int) : Rat) ≤ config.bep51QueueLowWatermark then DHT_K
  else 1

/-- A round goes on to its next query. -/
structure Advances (outcome : SampleOutcome) (round after : SampleRound) : Prop where
  nowNs : after.nowNs = round.nowNs
  maxNodes : after.maxNodes = round.maxNodes
  processed : after.processed = round.processed + if outcome.isResponse then 1 else 0
  below : after.processed < after.maxNodes
  unsent : after.sent = false
  fresh : after.contact ∉ round.visited
  marked : after.contact ∈ after.visited
  kept : ∀ nodeId ∈ round.visited, nodeId ∈ after.visited
  falls : outcome.isResponse = true ∨ after.unvisited < round.unvisited

/-- Whatever a query returns, the round ends or goes on to a query that is due. -/
theorem resume_round (outcome : SampleOutcome) (readings : Nat → Int) (round : SampleRound)
    (sampler : Sampler) {after : SampleRound}
    (goesOn : (sampler.resume config localIps outcome readings round).round = some after) :
    Advances outcome round after ∧
      SampleRound.due round.nowNs
        (sampler.resume config localIps outcome readings round).bep51State after.endpoint = true := by
  have unanswered : ∀ bep51State, outcome.isResponse = false →
      round.next bep51State = some after →
        Advances outcome round after ∧
          SampleRound.due round.nowNs bep51State after.endpoint = true := by
    intro bep51State failed goesOn
    have follows := SampleRound.next_some goesOn
    obtain ⟨maxNodes, processed, below⟩ := SampleRound.next_limits goesOn
    refine ⟨⟨follows.nowNs, maxNodes, by simp [processed, failed], by omega, follows.unsent,
      follows.fresh, follows.marked, follows.kept, .inr follows.unvisited_lt⟩, follows.due⟩
  unfold resume at goesOn ⊢
  cases outcome with
  | failed => exact unanswered _ rfl goesOn
  | krpcError code => exact unanswered _ rfl goesOn
  | response message =>
      dsimp only at goesOn ⊢
      split at goesOn
      · cases goesOn
      · rename_i shortlist _
        have follows := SampleRound.next_some goesOn
        obtain ⟨maxNodes, processed, below⟩ := SampleRound.next_limits goesOn
        refine ⟨⟨follows.nowNs, maxNodes, processed, by omega, follows.unsent, follows.fresh,
          follows.marked, follows.kept, .inl rfl⟩, follows.due⟩

/-- A round that began at this time, with this limit, awaits a query that was due then. -/
structure Asking (begun : Int) (limit : Nat) (bep51State : List (Endpoint × Int × Int))
    (round : SampleRound) : Prop where
  nowNs : round.nowNs = begun
  maxNodes : round.maxNodes = limit
  below : round.processed < limit
  marked : round.contact ∈ round.visited
  due : SampleRound.due begun bep51State round.endpoint = true

theorem start_round {now reading : Int} {queued maxsize : Int} {target : Bytes}
    (idle : sampler.round = none) {after : SampleRound}
    (begun : (sampler.start config now reading queued maxsize target).round = some after) :
    Asking now (maxNodes config queued maxsize)
      (sampler.start config now reading queued maxsize target).bep51State after := by
  unfold start at begun ⊢
  dsimp only at begun ⊢
  split at begun
  · rw [idle] at begun
    cases begun
  · rename_i runs
    rw [if_neg runs]
    split at begun
    · rw [idle] at begun
      cases begun
    · have follows := SampleRound.next_some begun
      obtain ⟨maxNodes, processed, below⟩ := SampleRound.next_limits begun
      exact ⟨follows.nowNs, maxNodes, by rw [processed]; exact below, follows.marked, follows.due⟩

section round

variable {begun : Int} {limit : Nat}

/-- What a step within a round does to it. -/
inductive RoundStep (round : SampleRound) : SampleEvent → Option SampleRound → Prop
  | elsewhere (routing : RoutingTable) (moved : List (Bytes × Endpoint)) :
      RoundStep round (.elsewhere routing moved) (some (round.relocate moved))
  | sent (now : Int) (unsent : round.sent = false) :
      RoundStep round (.sent now) (some { round with sent := true })
  | ended (now : Int) (outcome : SampleOutcome) (readings : Nat → Int) :
      RoundStep round (.returned now outcome readings) none
  | advanced (now : Int) (outcome : SampleOutcome) (readings : Nat → Int) (after : SampleRound)
      (advances : Advances outcome round after) :
      RoundStep round (.returned now outcome readings) (some after)

/-- A query is sent once. -/
theorem unsent_of_sent {round : SampleRound} (waiting : sampler.round = some round) {now : Int}
    (taken : step config localIps sampler (.sent now) = some next) : round.sent = false := by
  simp only [step, waiting, Option.bind_some] at taken
  split at taken
  · cases taken
  · rename_i allowed
    rw [not_or] at allowed
    exact Bool.eq_false_iff.mpr allowed.1

theorem round_step {round : SampleRound} (waiting : sampler.round = some round)
    {event : SampleEvent} (taken : step config localIps sampler event = some next) :
    RoundStep round event next.round := by
  cases event with
  | elsewhere routing moved =>
      obtain rfl := Option.some.inj taken
      dsimp only
      rw [waiting]
      exact .elsewhere routing moved
  | start now reading queued maxsize target =>
      obtain ⟨idle, -⟩ := started_cases taken
      rw [waiting] at idle
      cases idle
  | sent now =>
      have unsent := unsent_of_sent waiting taken
      obtain ⟨round', waiting', -, -, rfl⟩ := sent_cases taken
      obtain rfl := Option.some.inj (waiting.symm.trans waiting')
      exact .sent now unsent
  | returned now outcome readings =>
      obtain ⟨round', waiting', -, -, rfl⟩ := returned_cases taken
      obtain rfl := Option.some.inj (waiting.symm.trans waiting')
      dsimp only
      cases result : (sampler.resume config localIps outcome readings round).round with
      | none => exact .ended now outcome readings
      | some after =>
          exact .advanced now outcome readings after
            (resume_round outcome readings round sampler result).1

/-- A round that asks goes on asking until it ends. -/
theorem Asking.step {round after : SampleRound} (waiting : sampler.round = some round)
    (asking : Asking begun limit sampler.bep51State round) {event : SampleEvent}
    (taken : step config localIps sampler event = some next) (goesOn : next.round = some after) :
    Asking begun limit next.bep51State after := by
  cases event with
  | elsewhere routing moved =>
      obtain rfl := Option.some.inj taken
      obtain ⟨round', waiting', rfl⟩ := Option.map_eq_some_iff.mp goesOn
      obtain rfl := Option.some.inj (waiting.symm.trans waiting')
      exact ⟨asking.nowNs, asking.maxNodes, asking.below, asking.marked, asking.due⟩
  | start now reading queued maxsize target =>
      obtain ⟨idle, -⟩ := started_cases taken
      rw [waiting] at idle
      cases idle
  | sent now =>
      obtain ⟨round', waiting', -, -, rfl⟩ := sent_cases taken
      obtain rfl := Option.some.inj (waiting.symm.trans waiting')
      obtain rfl := Option.some.inj goesOn
      exact ⟨asking.nowNs, asking.maxNodes, asking.below, asking.marked, asking.due⟩
  | returned now outcome readings =>
      obtain ⟨round', waiting', -, -, rfl⟩ := returned_cases taken
      obtain rfl := Option.some.inj (waiting.symm.trans waiting')
      obtain ⟨advances, isDue⟩ := resume_round outcome readings round sampler goesOn
      have limits := asking.maxNodes
      have below := advances.below
      rw [advances.maxNodes, limits] at below
      exact ⟨advances.nowNs.trans asking.nowNs, advances.maxNodes.trans limits, below,
        advances.marked, asking.nowNs ▸ isDue⟩

/-- Without a round there is nothing to send and nothing to return until one begins. -/
theorem idle_step (idle : sampler.round = none) {event : SampleEvent}
    (later : event.isStart = false) (taken : step config localIps sampler event = some next) :
    next.round = none ∧ sampler.ask event = none ∧ event.isResponse = false := by
  cases event with
  | elsewhere routing moved =>
      obtain rfl := Option.some.inj taken
      exact ⟨by simp [idle], rfl, rfl⟩
  | start now reading queued maxsize target => cases later
  | sent now =>
      obtain ⟨round, waiting, -⟩ := sent_cases taken
      rw [idle] at waiting
      cases waiting
  | returned now outcome readings =>
      obtain ⟨round, waiting, -⟩ := returned_cases taken
      rw [idle] at waiting
      cases waiting

theorem asks_cons {event : SampleEvent} {events : List SampleEvent}
    (taken : step config localIps sampler event = some next) :
    asks config localIps sampler (event :: events) =
      (sampler.ask event).toList ++ asks config localIps next events := by
  simp only [asks, taken]

theorem idle_run (idle : sampler.round = none) {events : List SampleEvent}
    (later : ∀ event ∈ events, event.isStart = false) {final : Sampler}
    (ran : Transition.run (step config localIps) sampler events = some final) :
    asks config localIps sampler events = [] ∧ events.countP SampleEvent.isResponse = 0 := by
  induction events generalizing sampler with
  | nil => exact ⟨rfl, rfl⟩
  | cons event events ih =>
      obtain ⟨here, behind⟩ := List.forall_mem_cons.mp later
      obtain ⟨next, taken, ran⟩ := Transition.run_cons.mp ran
      obtain ⟨still, nothing, unanswered⟩ := idle_step idle here taken
      obtain ⟨none, zero⟩ := ih still behind ran
      rw [asks_cons taken, nothing, none, List.countP_cons_of_neg (by simp [unanswered])]
      exact ⟨rfl, zero⟩

/-- The node may still be asked in the round. -/
def Open (round : SampleRound) (nodeId : Bytes) : Prop :=
  nodeId ∉ round.visited ∨ nodeId = round.contact ∧ round.sent = false

/-- What a round may do from here on: each node that is still open once, all endpoints due, and no
more responses than the limit allows. -/
theorem asking_run {round : SampleRound} (waiting : sampler.round = some round)
    (asking : Asking begun limit sampler.bep51State round) {events : List SampleEvent}
    (later : ∀ event ∈ events, event.isStart = false) {final : Sampler}
    (ran : Transition.run (step config localIps) sampler events = some final) :
    ((asks config localIps sampler events).map SampleAsk.nodeId).Nodup ∧
      (∀ ask ∈ asks config localIps sampler events, Open round ask.nodeId ∧
        ∀ state, ask.remembered = some state → state.1 ≤ begun) ∧
      events.countP SampleEvent.isResponse + round.processed ≤ limit := by
  induction events generalizing sampler round with
  | nil =>
      refine ⟨List.nodup_nil, fun ask member => absurd member List.not_mem_nil, ?_⟩
      have below := asking.below
      simp only [List.countP_nil]
      omega
  | cons event events ih =>
      obtain ⟨here, behind⟩ := List.forall_mem_cons.mp later
      obtain ⟨next, taken, remaining⟩ := Transition.run_cons.mp ran
      have moved := round_step waiting taken
      rw [asks_cons taken, List.countP_cons]
      generalize result : next.round = after at moved
      cases moved with
      | elsewhere routing moved =>
          obtain ⟨distinct, sound, count⟩ := ih result (asking.step waiting taken result) behind remaining
          exact ⟨distinct, sound, count⟩
      | sent now unsent =>
          obtain ⟨distinct, sound, count⟩ := ih result (asking.step waiting taken result) behind remaining
          have asked : sampler.ask (.sent now) = some
              { nodeId := round.contact, endpoint := round.endpoint
                remembered := Dict.get? round.endpoint sampler.bep51State } := by
            simp only [ask, waiting, Option.map_some]
          have unseen : ∀ ask ∈ asks config localIps next events, ask.nodeId ∉ round.visited := by
            intro ask member
            obtain fresh | ⟨-, open_still⟩ := (sound ask member).1
            · exact fresh
            · cases open_still
          rw [asked, Option.toList_some, List.singleton_append]
          refine ⟨List.nodup_cons.mpr ⟨fun again => ?_, distinct⟩, fun ask member => ?_, count⟩
          · obtain ⟨ask, member, same⟩ := List.mem_map.mp again
            exact unseen ask member (same ▸ asking.marked)
          · obtain first | other := List.mem_cons.mp member
            · rw [first]
              refine ⟨.inr ⟨rfl, unsent⟩, fun state known => ?_⟩
              have isDue := asking.due
              have known : Dict.get? round.endpoint sampler.bep51State = some state := known
              unfold SampleRound.due at isDue
              rw [known] at isDue
              exact of_decide_eq_true isDue
            · exact ⟨.inl (unseen ask other), (sound ask other).2⟩
      | ended now outcome readings =>
          obtain ⟨none, zero⟩ := idle_run result behind remaining
          have below := asking.below
          rw [none, zero]
          refine ⟨List.nodup_nil, fun ask member => absurd member List.not_mem_nil, ?_⟩
          split <;> omega
      | advanced now outcome readings after advances =>
          obtain ⟨distinct, sound, count⟩ := ih result (asking.step waiting taken result) behind remaining
          refine ⟨distinct, fun ask member => ?_, ?_⟩
          · obtain ⟨unseen | ⟨same, -⟩, isDue⟩ := sound ask member
            · exact ⟨.inl fun seen => unseen (advances.kept _ seen), isDue⟩
            · exact ⟨.inl (same ▸ advances.fresh), isDue⟩
          · have processed := advances.processed
            show events.countP SampleEvent.isResponse +
              (if outcome.isResponse = true then 1 else 0) + round.processed ≤ limit
            omega

/-- A round without its counters of what is still to do: the responses up to the limit, and the
contacts that were not visited. -/
def todo (sampler : Sampler) : Nat × Nat :=
  match sampler.round with
  | some round => (round.maxNodes - round.processed, round.unvisited)
  | none => (0, 0)

theorem unvisited_relocate (round : SampleRound) (moved : List (Bytes × Endpoint)) :
    (round.relocate moved).unvisited = round.unvisited := by
  unfold SampleRound.unvisited SampleRound.relocate
  rw [Shortlist.keys_relocate]

/-- Each query that returns leaves less to do, in the lexicographic order; all else leaves as
much. -/
theorem todo_falls {event : SampleEvent} {round after : SampleRound}
    (waiting : sampler.round = some round) (goesOn : next.round = some after)
    (taken : step config localIps sampler event = some next) :
    Prod.Lex (· < ·) (· < ·) next.todo sampler.todo ∨
      ¬ event.isReturned = true ∧ next.todo = sampler.todo := by
  have moved := round_step waiting taken
  rw [goesOn] at moved
  unfold todo
  rw [goesOn, waiting]
  cases moved with
  | elsewhere routing moved =>
      refine .inr ⟨Bool.false_ne_true, ?_⟩
      dsimp only
      rw [unvisited_relocate]
      rfl
  | sent now unsent => exact .inr ⟨Bool.false_ne_true, rfl⟩
  | advanced now outcome readings after advances =>
      have processed := advances.processed
      have below := advances.below
      dsimp only
      rw [advances.maxNodes, processed] at *
      by_cases responded : outcome.isResponse = true
      · rw [if_pos responded] at *
        exact .inl (.left _ _ (by omega))
      · rw [if_neg responded] at *
        exact .inl (.right _ (advances.falls.resolve_left responded))

end round

/-- In one round `bep51_once` asks each node at most once and no endpoint before its time, and takes
no more responses than its limit; and the round ends, as long as its queries return. -/
theorem bep51_once_bounded (config : Config) (localIps : List String) :
    (∀ (sampler final : Sampler) (now reading queued maxsize : Int) (target : Bytes)
        (events : List SampleEvent), (∀ event ∈ events, event.isStart = false) →
      Transition.run (step config localIps) sampler
          (.start now reading queued maxsize target :: events) = some final →
        ((asks config localIps sampler
          (.start now reading queued maxsize target :: events)).map SampleAsk.nodeId).Nodup ∧
        (∀ ask ∈ asks config localIps sampler (.start now reading queued maxsize target :: events),
          ∀ state, ask.remembered = some state → state.1 ≤ now) ∧
        events.countP SampleEvent.isResponse ≤ maxNodes config queued maxsize) ∧
    ∀ (states : Nat → Sampler) (events : Nat → SampleEvent),
      (∀ number, step config localIps (states number) (events number) =
        some (states (number + 1))) →
      (∀ number, ∃ later, number ≤ later ∧ (events later).isReturned = true) →
        ∃ number, (states number).round = none := by
  constructor
  · intro sampler final now reading queued maxsize target events later ran
    obtain ⟨next, taken, remaining⟩ := Transition.run_cons.mp ran
    obtain ⟨idle, -, -, shape⟩ := started_cases taken
    rw [asks_cons taken]
    show ((asks config localIps next events).map SampleAsk.nodeId).Nodup ∧
      (∀ ask ∈ asks config localIps next events, _) ∧ _
    cases result : next.round with
    | none =>
        obtain ⟨none, zero⟩ := idle_run result later remaining
        rw [none, zero]
        exact ⟨List.nodup_nil, fun ask member => absurd member List.not_mem_nil, Nat.zero_le _⟩
    | some round =>
        have asking : Asking now (maxNodes config queued maxsize) next.bep51State round := by
          rw [shape] at result ⊢
          exact start_round idle result
        obtain ⟨distinct, sound, count⟩ := asking_run result asking later remaining
        exact ⟨distinct, fun ask member => (sound ask member).2, by omega⟩
  · intro states events steps again
    have founded : WellFounded (Prod.Lex (· < · : Nat → Nat → Prop) (· < · : Nat → Nat → Prop)) :=
      (Prod.lex Nat.lt_wfRel Nat.lt_wfRel).wf
    obtain ⟨number, ended⟩ := Transition.eventually_stops founded todo
      (fun sampler => sampler.round.isSome = true) (fun event => event.isReturned = true)
      (fun state event next working goesOn taken => by
        obtain ⟨round, waiting⟩ := Option.isSome_iff_exists.mp working
        obtain ⟨after, goesOn⟩ := Option.isSome_iff_exists.mp goesOn
        exact todo_falls waiting goesOn taken) steps again
    exact ⟨number, by simpa using ended⟩

/-- The query of a round is out; this round and all behind it ask the one node in vain. -/
def sampleStates : Nat → Sampler
  | 0 => sampleQueried
  | number + 1 =>
      if number % 2 = 0 then { sampleQueried with round := none }
      else
        { sampleQueried with
          round := sampleQueried.round.map fun round => { round with sent := false } }

def sampleEvents (number : Nat) : SampleEvent :=
  if number % 2 = 0 then .returned 0 .failed fun _ => 0
  else .start 0 0 0 64 (List.replicate 20 7)

theorem sampleStates_step (number : Nat) :
    step {} [] (sampleStates number) (sampleEvents number) = some (sampleStates (number + 1)) := by
  have first : step {} [] (sampleStates 0) (sampleEvents 0) = some (sampleStates 1) := by
    decide +kernel
  have begins : step {} [] (sampleStates 1) (sampleEvents 1) = some (sampleStates 2) := by
    decide +kernel
  have ends : step {} [] (sampleStates 2) (sampleEvents 2) = some (sampleStates 1) := by
    decide +kernel
  have states : ∀ number, sampleStates (number + 1) = sampleStates (number % 2 + 1) := by
    intro number
    simp only [sampleStates, Nat.mod_mod]
  have events : ∀ number, sampleEvents number = sampleEvents (number % 2) := by
    intro number
    simp only [sampleEvents, Nat.mod_mod]
  cases number with
  | zero => exact first
  | succ number =>
      rw [states number, states (number + 1), events (number + 1)]
      obtain even | odd := Nat.mod_two_eq_zero_or_one number
      · rw [even, show (number + 1) % 2 = 1 by omega]
        exact begins
      · rw [odd, show (number + 1) % 2 = 0 by omega]
        exact ends

/-- A round with one query, and a round with its query out that ends, with endless others to
come. -/
theorem bep51_once_bounded_sample :
    (asks {} [] { routing := sampleTable 0, clock := 0 }
        [.start 0 0 0 64 (List.replicate 20 7), .sent 0]).map SampleAsk.nodeId =
          [List.replicate 20 0] ∧
      List.countP SampleEvent.isResponse [.sent 0] ≤ maxNodes {} 0 64 ∧
      (sampleStates 0).round.map SampleRound.sent = some true ∧
      ∃ number, (sampleStates number).round = none := by
  have ran : Transition.run (step {} []) { routing := sampleTable 0, clock := 0 }
      (.start 0 0 0 64 (List.replicate 20 7) :: [.sent 0]) = some sampleQueried := by
    decide +kernel
  refine ⟨by decide +kernel, ?_, rfl, ?_⟩
  · exact ((bep51_once_bounded {} []).1 _ _ 0 0 0 64 _ [.sent 0] (by simp [SampleEvent.isStart])
      ran).2.2
  · refine (bep51_once_bounded {} []).2 sampleStates sampleEvents sampleStates_step fun number => ?_
    refine ⟨2 * number, by omega, ?_⟩
    unfold sampleEvents
    rw [if_pos (by omega)]
    rfl

end Sampler

end PyDht
