import PyDht.CrawlerDials
import PyDht.Lib.Chronicle

set_option autoImplicit false

namespace PyDht

open Chronicle (Lawful)

/-- The key that the mark is about. -/
def Mark.key : Mark → Bytes
  | .started key _ | .failed key _ _ | .completed key => key

def Mark.isStart : Mark → Bool
  | .started _ _ => true
  | _ => false

/-- The fetch attempts that were started. -/
def fetchesIn (marks : List Mark) : Nat := marks.countP Mark.isStart

theorem Processing.mark_key (job : Processing) {answer : Answer} {mark : Mark}
    (member : mark ∈ job.mark answer) : mark.key = job.key := by
  unfold Processing.mark at member
  split at member
  · rw [List.mem_singleton.mp member]
    rfl
  · rw [List.mem_singleton.mp member]
    rfl
  · rw [List.mem_singleton.mp member]
    rfl
  · cases member

/-- The attempts that a row counts; a candidate without a row has had none. -/
def CandidateRow.count (row : Option CandidateRow) : Int := (row.map CandidateRow.attempts).getD 0

/-- A candidate with this row may be fetched at this time. -/
def CandidateRow.Due (row : Option CandidateRow) (nowNs : Int) : Prop :=
  ∀ found, row = some found → found.isOpen = true ∧ (found.state = .fetchFailed →
    ∃ time, found.nextAttemptAt = some time ∧ time ≤ nowNs)

/-- The time of the next attempt when attempt `number` has failed at `stamp`; none when it was the
last one. -/
def CrawlerConfig.nextAttempt (config : CrawlerConfig) (number stamp : Int) : Option Int :=
  if config.fetchRetryMaxAttempts ≤ number then none
  else some (stamp + min config.fetchRetryMaxSeconds
    (config.fetchRetryBaseSeconds * 2 ^ (min (number - 1) 30).toNat) * 1000000000)

/-- What a process does about one key, whose row was `carried` at its start. -/
structure Paced (config : CrawlerConfig) (carried : Option CandidateRow) (marks : List Mark) :
    Prop where
  few : fetchesIn marks ≤ config.fetchRetryMaxAttempts
  delayed : ∀ front key stamp next back, marks = front ++ .failed key stamp next :: back →
    next = config.nextAttempt (CandidateRow.count carried + fetchesIn front) stamp
  waits : ∀ front key began back, marks = front ++ .started key began :: back →
    front = [] ∧ CandidateRow.Due carried began ∨
      ∃ earlier key stamp time, front = earlier ++ [.failed key stamp (some time)] ∧ time ≤ began
  ends : ∀ front mark back, marks = front ++ mark :: back →
    (mark = .completed mark.key ∨ ∃ stamp, mark = .failed mark.key stamp none) → back = []

/-- A mark may come behind the marks in front of it. -/
def Mark.Succeeds (config : CrawlerConfig) (carried : Option CandidateRow) (front : List Mark) :
    Mark → Prop
  | .started _ began => front = [] ∧ CandidateRow.Due carried began ∨
      ∃ earlier key stamp time, front = earlier ++ [.failed key stamp (some time)] ∧ time ≤ began
  | .failed _ stamp next => (∃ earlier key began, front = earlier ++ [.started key began]) ∧
      next = config.nextAttempt (CandidateRow.count carried + fetchesIn front) stamp
  | .completed _ => ∃ earlier key began, front = earlier ++ [.started key began]

section lawful

variable {config : CrawlerConfig} {carried : Option CandidateRow} {marks : List Mark} {mark : Mark}

theorem fetchesIn_concat (marks : List Mark) (mark : Mark) :
    fetchesIn (marks ++ [mark]) = fetchesIn marks + if mark.isStart then 1 else 0 := by
  unfold fetchesIn
  rw [List.countP_append, List.countP_singleton]

/-- A further attempt comes behind one that was not the last. -/
theorem fetches_left {earlier : List Mark} {key : Bytes} {stamp time : Int}
    (lawful : Lawful (Mark.Succeeds config carried) (earlier ++ [.failed key stamp (some time)])) :
    CandidateRow.count carried + fetchesIn earlier < config.fetchRetryMaxAttempts := by
  obtain ⟨-, timed⟩ := lawful.last
  unfold CrawlerConfig.nextAttempt at timed
  split at timed
  · cases timed
  · omega

theorem fetches_few (validConfig : 1 ≤ config.fetchRetryMaxAttempts)
    (counted : 0 ≤ CandidateRow.count carried)
    (lawful : Lawful (Mark.Succeeds config carried) marks) :
    fetchesIn marks ≤ config.fetchRetryMaxAttempts := by
  induction marks using List.reverseRecOn with
  | nil =>
      show ((0 : Nat) : Int) ≤ _
      omega
  | append_singleton front mark ih =>
      have before := ih lawful.front
      rw [fetchesIn_concat]
      cases mark with
      | started key began =>
          obtain ⟨rfl, -⟩ | ⟨earlier, key, stamp, time, rfl, -⟩ := lawful.last
          · show ((0 + 1 : Nat) : Int) ≤ _
            omega
          · have left := fetches_left lawful.front
            rw [fetchesIn_concat]
            simp only [Mark.isStart, if_true, Bool.false_eq_true, if_false]
            omega
      | failed => exact before
      | completed => exact before

/-- Nothing comes behind a completed fetch, or behind the last one that has failed. -/
theorem Mark.not_succeeds {front : List Mark}
    (ending : mark = .completed mark.key ∨ ∃ stamp, mark = .failed mark.key stamp none)
    (next : Mark) : ¬ next.Succeeds config carried (front ++ [mark]) := by
  intro succeeds
  have apart : ∀ {earlier : List Mark} {other : Mark}, front ++ [mark] = earlier ++ [other] →
      mark = other := by
    intro earlier other same
    exact (List.append_inj' same rfl).2 |> List.singleton_inj.mp
  have unstarted : ∀ key began, mark ≠ .started key began := by
    intro key began same
    subst same
    obtain isCompleted | ⟨stamp, isFailed⟩ := ending
    · cases isCompleted
    · cases isFailed
  cases next with
  | started key began =>
      obtain ⟨nothing, -⟩ | ⟨earlier, other, stamp, time, same, -⟩ := succeeds
      · simp at nothing
      · have isFailed := apart same
        subst isFailed
        obtain isCompleted | ⟨_, isLast⟩ := ending
        · cases isCompleted
        · cases isLast
  | failed key stamp next =>
      obtain ⟨⟨earlier, other, began, same⟩, -⟩ := succeeds
      exact absurd (apart same) (unstarted other began)
  | completed key =>
      obtain ⟨earlier, other, began, same⟩ := succeeds
      exact absurd (apart same) (unstarted other began)

theorem paced_of_lawful (validConfig : 1 ≤ config.fetchRetryMaxAttempts)
    (counted : 0 ≤ CandidateRow.count carried)
    (lawful : Lawful (Mark.Succeeds config carried) marks) : Paced config carried marks where
  few := fetches_few validConfig counted lawful
  delayed _ _ _ _ _ split := (lawful _ _ _ split).2
  waits _ _ _ _ split := lawful _ _ _ split
  ends _ _ _ split ending := lawful.ends split (Mark.not_succeeds ending)

end lawful

/-- The last mark is that of an attempt that has been started. -/
def underway (marks : List Mark) : Bool := (marks.getLast?.map Mark.isStart).getD false

theorem underway_concat (marks : List Mark) (mark : Mark) :
    underway (marks ++ [mark]) = mark.isStart := by
  unfold underway
  rw [List.getLast?_concat]
  rfl

theorem exists_of_underway {marks : List Mark} (busy : underway marks = true) :
    ∃ earlier key began, marks = earlier ++ [.started key began] := by
  induction marks using List.reverseRecOn with
  | nil => cases busy
  | append_singleton front mark _ =>
      rw [underway_concat] at busy
      cases mark with
      | started key began => exact ⟨front, key, began, rfl⟩
      | failed => cases busy
      | completed => cases busy

namespace CandidateRow

/-- A row that was only seen again, or for the first time. -/
def Seen (carried row : Option CandidateRow) : Prop :=
  match carried with
  | none => ∀ found, row = some found → found.state = .new ∧ found.attempts = 0
  | some old => ∃ found, row = some found ∧ found.state = old.state ∧
      found.nextAttemptAt = old.nextAttemptAt ∧ found.attempts = old.attempts

/-- The row of a key says what was done about it last. -/
def Stands (carried : Option CandidateRow) (marks : List Mark) (row : Option CandidateRow) : Prop :=
  match marks.getLast? with
  | none => Seen carried row
  | some (.started _ _) => ∃ found, row = some found ∧ found.state = .fetching ∧
      found.attempts = count carried + fetchesIn marks
  | some (.failed _ _ next) => ∃ found, row = some found ∧ found.state = .fetchFailed ∧
      found.nextAttemptAt = next ∧ found.attempts = count carried + fetchesIn marks
  | some (.completed _) => ∃ found, row = some found ∧ found.state = .complete

section stands

variable {carried row : Option CandidateRow} {marks : List Mark}

theorem Seen.refl (carried : Option CandidateRow) : Seen carried carried := by
  cases carried with
  | none =>
      intro found same
      cases same
  | some old => exact ⟨old, rfl, rfl, rfl, rfl⟩

theorem Stands.nil (carried : Option CandidateRow) : Stands carried [] carried := Seen.refl carried

theorem Stands.fetching (stands : Stands carried marks row) (busy : underway marks = true) :
    ∃ found, row = some found ∧ found.state = .fetching ∧
      found.attempts = count carried + fetchesIn marks := by
  obtain ⟨earlier, key, began, rfl⟩ := exists_of_underway busy
  unfold Stands at stands
  rw [List.getLast?_concat] at stands
  exact stands

/-- A sighting changes nothing of what counts. -/
theorem Stands.sighted (stands : Stands carried marks row) (firstSeen lastSeen : Int) :
    Stands carried marks (some (CandidateRow.sighted firstSeen lastSeen row)) := by
  unfold Stands at stands ⊢
  split at stands
  · cases carried with
    | none =>
        intro found same
        cases same
        cases row with
        | none => exact ⟨rfl, rfl⟩
        | some before => exact stands before rfl
    | some old =>
        obtain ⟨found, rfl, state, next, attempts⟩ := stands
        exact ⟨_, rfl, state, next, attempts⟩
  · obtain ⟨found, rfl, state, attempts⟩ := stands
    exact ⟨_, rfl, state, attempts⟩
  · obtain ⟨found, rfl, state, next, attempts⟩ := stands
    exact ⟨_, rfl, state, next, attempts⟩
  · obtain ⟨found, rfl, state⟩ := stands
    exact ⟨_, rfl, state⟩

theorem Stands.started (key : Bytes) {began : Int} {found : CandidateRow}
    (rests : underway marks = false) (stands : Stands carried marks (some found))
    (due : Due (some found) began) (config : CrawlerConfig) :
    Mark.Succeeds config carried marks (.started key began) ∧
      Stands carried (marks ++ [.started key began]) (some (found.started began)) := by
  obtain ⟨isOpen, timed⟩ := due found rfl
  have counts : found.attempts = count carried + fetchesIn marks →
      Stands carried (marks ++ [.started key began]) (some (found.started began)) := by
    intro attempts
    unfold Stands
    rw [List.getLast?_concat, fetchesIn_concat]
    refine ⟨_, rfl, rfl, ?_⟩
    show found.attempts + 1 = count carried + ((fetchesIn marks + 1 : Nat) : Int)
    omega
  induction marks using List.reverseRecOn with
  | nil =>
      have seen : Seen carried (some found) := stands
      cases carried with
      | none =>
          refine ⟨.inl ⟨rfl, fun _ same => by cases same⟩, counts ?_⟩
          exact (seen found rfl).2
      | some old =>
          obtain ⟨_, same, state, next, attempts⟩ := seen
          obtain rfl := Option.some.inj same
          refine ⟨.inl ⟨rfl, fun row isOld => ?_⟩, counts ?_⟩
          · obtain rfl := Option.some.inj isOld
            rw [← state, ← next]
            unfold CandidateRow.isOpen at isOpen ⊢
            rw [← state]
            exact ⟨isOpen, timed⟩
          · rw [attempts]
            exact (Int.add_zero _).symm
  | append_singleton front mark _ =>
      rw [underway_concat] at rests
      unfold Stands at stands
      rw [List.getLast?_concat] at stands
      cases mark with
      | started other earlier => cases rests
      | failed other stamp next =>
          obtain ⟨_, same, state, isNext, attempts⟩ := stands
          obtain rfl := Option.some.inj same
          obtain ⟨time, isTime, passed⟩ := timed state
          rw [isTime] at isNext
          refine ⟨.inr ⟨front, other, stamp, time, ?_, passed⟩, counts attempts⟩
          rw [isNext]
      | completed other =>
          obtain ⟨_, same, state⟩ := stands
          obtain rfl := Option.some.inj same
          simp [CandidateRow.isOpen, state] at isOpen

theorem Stands.failed (key : Bytes) {stamp : Int} {next : Option Int}
    (busy : underway marks = true) (stands : Stands carried marks row) (config : CrawlerConfig)
    (timed : next = config.nextAttempt (count carried + fetchesIn marks) stamp) (error : String) :
    Mark.Succeeds config carried marks (.failed key stamp next) ∧
      Stands carried (marks ++ [.failed key stamp next])
        ((DatabaseCall.markFetchFailed (dhtKeyText key) error stamp next).onRow config.toConfig
          row) := by
  obtain ⟨found, rfl, state, attempts⟩ := stands.fetching busy
  refine ⟨⟨exists_of_underway busy, timed⟩, ?_⟩
  unfold Stands
  rw [List.getLast?_concat, fetchesIn_concat]
  have incomplete : found.state ≠ .complete := by
    rw [state]
    exact nofun
  have whole : (DatabaseCall.markFetchFailed (dhtKeyText key) error stamp next).onRow
      config.toConfig (some found) = some (found.failed config.toConfig error stamp next) := by
    show some (if found.state = .complete then found else _) = _
    rw [if_neg incomplete]
  rw [whole]
  exact ⟨_, rfl, rfl, rfl, attempts⟩

theorem Stands.completed (key : Bytes) (busy : underway marks = true)
    (stands : Stands carried marks row) (config : CrawlerConfig) (torrentUid : String) :
    Mark.Succeeds config carried marks (.completed key) ∧
      Stands carried (marks ++ [.completed key])
        (row.map (CandidateRow.completed torrentUid)) := by
  obtain ⟨found, rfl, -⟩ := stands.fetching busy
  refine ⟨exists_of_underway busy, ?_⟩
  unfold Stands
  rw [List.getLast?_concat]
  exact ⟨_, rfl, rfl⟩

end stands

end CandidateRow

open CandidateRow (Due Stands)

/-- What the stage of a call says about the marks of its key and about the row. -/
def Processing.InPhase (config : CrawlerConfig) (carried : Option CandidateRow) (marks : List Mark)
    (row : Option CandidateRow) (job : Processing) : Prop :=
  match job.stage, job.reply with
  | _, some (.exception _) => True
  | .upserting _ _ _, _ => underway marks = false
  | .marking nowNs, none => underway marks = false ∧ row.isSome = true ∧ Due row nowNs
  | .marking _, some (.result (.marked true)) => underway marks = true
  | .marking _, some (.result _) => underway marks = false
  | .persisting _ _ _, some (.result _) => underway marks = false
  | .failing _ stamp next, none => underway marks = true ∧
      next = config.nextAttempt (CandidateRow.count carried + fetchesIn marks) stamp
  | .failing _ _ _, some (.result _) => underway marks = false
  | _, _ => underway marks = true

/-- The event is one of a process that goes on. -/
def CrawlerEvent.goesOn : CrawlerEvent → Bool
  | .start _ _ | .stop | .kill => false
  | _ => true

/-- The stage lies between `mark_fetching` and `candidate_state`. -/
def WorkerStage.fetches : WorkerStage → Bool
  | .upserting _ _ _ | .marking _ | .failing _ _ _ => false
  | _ => true

namespace CrawlerEnvironment

section phases

variable {env : CrawlerEnvironment} {manager : CandidateManager} {job : Processing}
  {carried row : Option CandidateRow} {marks : List Mark} {stage : WorkerStage}

theorem phase_of_fetches (fetches : stage.fetches = true) (busy : underway marks = true) :
    Processing.InPhase env.config carried marks row { job with stage, reply := none } := by
  cases stage <;> first | exact busy | cases fetches

theorem tryHints_fetches (hints : List PeerHint) (search : PeerSearch) :
    (env.tryHints hints search).fetches = true := by
  induction hints with
  | nil => rfl
  | cons hint rest ih =>
      unfold tryHints
      dsimp only
      split
      · exact ih
      · rfl

theorem tryPeers_fetches (peers : List Endpoint) (attempts : Int) (search : PeerSearch) :
    (env.tryPeers peers attempts search).fetches = true := by
  induction peers with
  | nil => rfl
  | cons endpoint rest ih =>
      unfold tryPeers
      split
      · rfl
      · split
        · exact ih
        · rfl

theorem index_fetches {key rawInfo : Bytes} {errors : List String} {wallNs : Int}
    (goes : env.index key rawInfo errors wallNs = .waits stage) : stage.fetches = true := by
  unfold index at goes
  split at goes
  · split at goes
    · cases goes
      rfl
    · cases goes
  · cases goes
    rfl

/-- A row that is admitted is due. -/
theorem due_of_admission {nowNs : Int} {found : CandidateRow}
    (goes : Processing.admission nowNs found = .waits stage) :
    stage = .marking nowNs ∧ Due (some found) nowNs := by
  unfold Processing.admission at goes
  have due : (found.state ≠ .complete) → (found.state ≠ .unsupported) →
      (found.state = .fetchFailed → ∃ time, found.nextAttemptAt = some time ∧ time ≤ nowNs) →
      Due (some found) nowNs := by
    intro incomplete supported timed other same
    obtain rfl := Option.some.inj same
    exact ⟨by simp [CandidateRow.isOpen, incomplete, supported], timed⟩
  split at goes
  · cases goes
  · cases goes
  · rename_i state
    split at goes
    · cases goes
    · rename_i time timed
      split at goes
      · cases goes
      · rename_i passed
        cases goes
        refine ⟨rfl, due ?_ ?_ fun _ => ⟨time, timed, not_lt.mp passed⟩⟩
        · simp [state]
        · simp [state]
  · rename_i incomplete supported unfailed
    cases goes
    exact ⟨rfl, due incomplete supported fun failed => absurd failed unfailed⟩

theorem giveUp_next {errors : List String} {found : CandidateRow} {wallNs : Int}
    (goes : env.giveUp errors (some found) wallNs = .waits stage) (positive : 1 ≤ found.attempts) :
    ∃ error, stage = .failing error wallNs (env.config.nextAttempt found.attempts wallNs) := by
  unfold giveUp at goes
  unfold CrawlerConfig.nextAttempt
  simp only [Option.map_some, Option.getD_some] at goes
  split at goes
  · rename_i last
    cases goes
    rw [if_pos last]
    exact ⟨_, rfl⟩
  · rename_i further
    cases goes
    have same : max 0 (min (found.attempts - 1) 30) = min (found.attempts - 1) 30 := by omega
    rw [if_neg further]
    unfold retryDelay
    rw [same]
    exact ⟨_, rfl⟩

/-- A call that waits for a peer or for the lookup is fetching. -/
theorem busy_of_silent (asks : job.reply ≠ none → job.request ≠ none)
    (phase : job.InPhase env.config carried marks row) (silent : job.request = none) :
    underway marks = true := by
  have quiet : job.reply = none := by
    by_contra replied
    exact asks replied silent
  unfold Processing.request at silent
  unfold Processing.InPhase at phase
  rw [quiet] at phase
  split at silent <;> cases silent
  split at phase <;> simp_all

/-- How a call goes on from one stage to the next. -/
theorem phase_of_waits (goes : env.Goes manager job (.waits stage))
    (asks : job.reply ≠ none → job.request ≠ none) (counted : 0 ≤ CandidateRow.count carried)
    (knows : job.Knows env.config.toConfig row) (stands : Stands carried marks row)
    (phase : job.InPhase env.config carried marks row) :
    Processing.InPhase env.config carried marks row { job with stage, reply := none } := by
  unfold Processing.InPhase at phase
  unfold Processing.Knows at knows
  cases goes with
  | resumed wallNs _ goes =>
      unfold resume at goes
      split at goes
      · cases goes
      · cases goes
      · rename_i answer replied
        split at goes
        · rename_i nowNs _ _ found here
          simp only [here, replied] at phase knows
          obtain ⟨rfl, due⟩ := due_of_admission (Option.some.inj goes)
          rw [knows]
          exact ⟨phase, rfl, due⟩
        · rename_i here
          simp only [here, replied] at phase
          cases goes
          exact phase_of_fetches (tryHints_fetches _ _) phase
        · cases goes
        · cases goes
        · rename_i errors latest here
          simp only [here, replied] at phase knows
          obtain ⟨found, isFound, -, attempts⟩ := stands.fetching phase
          rw [← knows, isFound] at goes
          have started : 1 ≤ found.attempts := by
            obtain ⟨earlier, key, began, rfl⟩ := exists_of_underway phase
            rw [fetchesIn_concat] at attempts
            simp only [Mark.isStart, if_true] at attempts
            omega
          obtain ⟨error, rfl⟩ := giveUp_next (Option.some.inj goes) started
          rw [attempts]
          exact ⟨phase, rfl⟩
        · cases goes
        · cases goes
  | fetched script endpoint wallNs _ dialed goes =>
      have silent : job.request = none := by
        unfold Processing.endpoint at dialed
        unfold Processing.request
        split at dialed
        · rename_i here
          rw [here]
        · rename_i here
          rw [here]
        · cases dialed
      have busy := busy_of_silent asks phase silent
      unfold fetched at goes
      dsimp only at goes
      split at goes
      · cases goes
        exact phase_of_fetches (tryHints_fetches _ _) busy
      · cases goes
        exact phase_of_fetches (tryPeers_fetches _ _ _) busy
      · exact phase_of_fetches (index_fetches (Option.some.inj goes)) busy
      · exact phase_of_fetches (index_fetches (Option.some.inj goes)) busy
      · cases goes
      · cases goes
      · cases goes
  | lookedUp outcome _ goes =>
      unfold lookedUp at goes
      split at goes
      · rename_i here
        have busy := busy_of_silent asks phase (by unfold Processing.request; rw [here])
        cases goes
        exact phase_of_fetches (tryPeers_fetches _ _ _) busy
      · rename_i here
        have busy := busy_of_silent asks phase (by unfold Processing.request; rw [here])
        cases goes
        exact phase_of_fetches (tryPeers_fetches _ _ _) busy
      · cases goes

theorem index_ne_finishes (key rawInfo : Bytes) (errors : List String) (wallNs : Int) :
    env.index key rawInfo errors wallNs ≠ .finishes := by
  obtain ⟨stage, waits⟩ := env.index_waits key rawInfo errors wallNs
  rw [waits]
  exact nofun

/-- What the result of the operation that a call waits for does to the marks and the row. -/
theorem phase_of_served {request : DatabaseCall} {content : Catalogue} {answer : Answer}
    (asks : job.request = some request) (waits : job.reply = none)
    (answered : answer = (request.operation env.config.toConfig).result content)
    (lawful : Lawful (Mark.Succeeds env.config carried) marks) (stands : Stands carried marks row)
    (phase : job.InPhase env.config carried marks row)
    (knows : Processing.Knows env.config.toConfig { job with reply := some (.result answer) }
      (request.onRow env.config.toConfig row)) :
    Lawful (Mark.Succeeds env.config carried) (marks ++ job.mark answer) ∧
      Stands carried (marks ++ job.mark answer) (request.onRow env.config.toConfig row) ∧
      Processing.InPhase env.config carried (marks ++ job.mark answer)
        (request.onRow env.config.toConfig row) { job with reply := some (.result answer) } := by
  obtain ⟨key, stage, reply⟩ := job
  dsimp only at waits
  subst waits answered
  cases stage with
  | upserting nowNs firstSeen lastSeen =>
      cases asks
      rw [show Processing.mark _ _ = [] from rfl, List.append_nil]
      exact ⟨lawful, stands.sighted firstSeen lastSeen, phase⟩
  | marking nowNs =>
      cases asks
      obtain ⟨rests, present, due⟩ := phase
      obtain ⟨found, rfl⟩ := Option.isSome_iff_exists.mp present
      have begins : (DatabaseCall.markFetching (dhtKeyText key) nowNs).onRow env.config.toConfig
          (some found) = some (found.started nowNs) := by
        show some (if found.isOpen = true then _ else found) = _
        rw [if_pos (due found rfl).1]
      rw [begins] at knows ⊢
      obtain ⟨marked, isMarked⟩ : ∃ marked, ((DatabaseCall.markFetching (dhtKeyText key)
          nowNs).operation env.config.toConfig).result content = .marked marked := ⟨_, rfl⟩
      rw [isMarked] at knows ⊢
      cases marked with
      | false => exact absurd rfl (knows _ rfl)
      | true =>
          obtain ⟨succeeds, stands⟩ := stands.started key rests due env.config
          exact ⟨lawful.concat succeeds, stands, underway_concat _ _⟩
  | persisting torrent notification nowNs =>
      cases asks
      obtain ⟨succeeds, stands⟩ := stands.completed key phase env.config torrent.torrentUid
      exact ⟨lawful.concat succeeds, stands, underway_concat _ _⟩
  | reading errors =>
      cases asks
      rw [show Processing.mark _ _ = [] from rfl, List.append_nil]
      exact ⟨lawful, stands, phase⟩
  | failing error nowNs nextAttemptNs =>
      cases asks
      obtain ⟨busy, timed⟩ := phase
      obtain ⟨succeeds, stands⟩ := stands.failed key busy env.config timed error
      exact ⟨lawful.concat succeeds, stands, underway_concat _ _⟩
  | hinting endpoint hints search => cases asks
  | lookingUp search => cases asks
  | dialing endpoint peers attempts search => cases asks

/-- A call that finishes its key is not fetching. -/
theorem rests_of_finishes (goes : env.Goes manager job .finishes)
    (phase : job.InPhase env.config carried marks row) : underway marks = false := by
  unfold Processing.InPhase at phase
  cases goes with
  | resumed wallNs _ goes =>
      unfold resume at goes
      split at goes
      · cases goes
      · cases goes
      · rename_i answer replied
        split at goes
        · rename_i nowNs _ _ found here
          simp only [here, replied] at phase
          exact phase
        · cases goes
        · rename_i here
          simp only [here, replied] at phase
          exact phase
        · rename_i here
          simp only [here, replied] at phase
          exact phase
        · obtain ⟨stage, waits⟩ := env.giveUp_waits _ _ wallNs
          rw [waits] at goes
          cases goes
        · rename_i here
          simp only [here, replied] at phase
          exact phase
        · cases goes
  | fetched script endpoint wallNs _ dialed goes =>
      unfold fetched at goes
      dsimp only at goes
      split at goes
      · cases goes
      · cases goes
      · exact absurd (Option.some.inj goes) (index_ne_finishes _ _ _ wallNs)
      · exact absurd (Option.some.inj goes) (index_ne_finishes _ _ _ wallNs)
      · cases goes
      · cases goes
      · cases goes
  | lookedUp outcome _ goes =>
      unfold lookedUp at goes
      split at goes <;> cases goes

end phases

end CrawlerEnvironment

instance {Db Result : Type} [DecidableEq Db] (operation : Operation Db Result)
    (before : Session Db) (served : Served Db Result) :
    Decidable (operation.Faithful before served) :=
  match replied : served.reply with
  | .result _ =>
      decidable_of_iff (served.session.committed = operation.effect before.committed ∧
        served.session.commits = before.commits + if operation.statements.isEmpty then 0 else 1)
        (by unfold Operation.Faithful; rw [replied])
  | .exception _ =>
      decidable_of_iff (served.session.committed = before.committed ∧
        served.session.commits = before.commits ∧ served.session.uncommitted = 0)
        (by unfold Operation.Faithful; rw [replied])

namespace Crawler

/-- What the present process has done about a key. -/
def marksOf (crawler : Crawler) (key : Bytes) : List Mark :=
  crawler.marks.filter fun mark => mark.key = key

/-- The operation that an event has the database execute. -/
def asked (env : CrawlerEnvironment) (crawler : Crawler) :
    CrawlerEvent → Option (DatabaseCall × (Nat → Attempt))
  | .serve number attempts =>
      ((Dict.get? number crawler.jobs).bind Processing.request).map fun request =>
        (request, attempts)
  | .scan nowNs attempts => some (.dueCandidates nowNs env.config.retryScanBatchSize, attempts)
  | .call request attempts => some (request, attempts)
  | _ => none

/-- The process goes on, and what the database executes is applied as a whole and once, or it
raises and is not applied. -/
def Steady (env : CrawlerEnvironment) (crawler : Crawler) (event : CrawlerEvent) : Prop :=
  event.goesOn = true ∧ ∀ call ∈ crawler.asked env event,
    (call.1.operation env.config.toConfig).Faithful crawler.store.session
      ((call.1.operation env.config.toConfig).run env.config.toConfig call.2 crawler.store.session)

instance (env : CrawlerEnvironment) (crawler : Crawler) (event : CrawlerEvent) :
    Decidable (Steady env crawler event) :=
  inferInstanceAs (Decidable (_ ∧ ∀ call ∈ crawler.asked env event, _))

variable {env : CrawlerEnvironment} {crawler next : Crawler}

section rows

variable {config : Config} {store changed : Store} {request : DatabaseCall}
  {attempts : Nat → Attempt}

theorem row_of_result (served : store.step config (.serve request attempts) = some changed)
    (faithful : (request.operation config).Faithful store.session
      ((request.operation config).run config attempts store.session)) {answer : Answer}
    (replied : ((request.operation config).run config attempts store.session).reply =
      .result answer) (text : String) :
    changed.session.committed.candidate text =
      request.rowAfter config text (store.session.committed.candidate text) := by
  obtain ⟨-, -, same⟩ := serving_of_served served
  unfold Operation.Faithful at faithful
  rw [replied] at faithful
  rw [same, faithful.1, DatabaseCall.candidate_effect]

theorem row_of_exception (served : store.step config (.serve request attempts) = some changed)
    (faithful : (request.operation config).Faithful store.session
      ((request.operation config).run config attempts store.session)) {error : PyError}
    (replied : ((request.operation config).run config attempts store.session).reply =
      .exception error) (text : String) :
    changed.session.committed.candidate text = store.session.committed.candidate text := by
  obtain ⟨-, -, same⟩ := serving_of_served served
  unfold Operation.Faithful at faithful
  rw [replied] at faithful
  rw [same, faithful.1]

/-- The row behind the operation that a call has asked for. -/
theorem rowAfter_of_asks {job : Processing} (asks : job.request = some request)
    (row : Option CandidateRow) :
    request.rowAfter config (dhtKeyText job.key) row = request.onRow config row := by
  unfold DatabaseCall.rowAfter
  obtain ⟨targets, -⟩ | ⟨errors, -, rfl⟩ := target_of_request asks
  · rw [if_pos targets]
  · exact ite_self row

/-- An operation on another key, or on none, leaves the row alone. -/
theorem row_apart (served : store.step config (.serve request attempts) = some changed)
    (faithful : (request.operation config).Faithful store.session
      ((request.operation config).run config attempts store.session)) {text : String}
    (apart : request.target ≠ some text) :
    changed.session.committed.candidate text = store.session.committed.candidate text := by
  cases replied : ((request.operation config).run config attempts store.session).reply with
  | result answer =>
      rw [row_of_result served faithful replied, DatabaseCall.rowAfter, if_neg apart]
  | exception error => exact row_of_exception served faithful replied text

/-- The result of an operation is read off some content. -/
theorem result_of_reply {answer : Answer}
    (replied : ((request.operation config).run config attempts store.session).reply =
      .result answer) : ∃ content, answer = (request.operation config).result content := by
  have free : (request.operation config).Obeys (fun _ => True) (.free Catalogue) := by
    unfold Operation.Obeys
    split
    · exact fun _ _ => ⟨trivial, trivial⟩
    · exact fun _ _ _ _ => ⟨trivial, trivial⟩
  obtain ⟨content, -, isResult, -⟩ := free.run_result ⟨trivial, trivial, trivial⟩ replied
  exact ⟨content, isResult⟩

end rows

theorem Calls.goes {number : Nat} {job : Processing} {event : CrawlerEvent} {onward : Onward}
    (calls : Calls env crawler number job event onward) :
    env.Goes crawler.candidates.manager job onward := by
  cases calls with
  | resumed wallNs stamp now _ goes => exact .resumed wallNs onward goes
  | fetched script wallNs endpoint _ dialed goes =>
      exact .fetched script endpoint wallNs onward dialed goes
  | lookedUp outcome _ goes => exact .lookedUp outcome onward goes

theorem marksOf_answered (crawler : Crawler) (answer : Answer) {job : Processing}
    (marks : next.marks = crawler.marks ++ job.mark answer) :
    next.marksOf job.key = crawler.marksOf job.key ++ job.mark answer := by
  unfold marksOf
  rw [marks, List.filter_append]
  congr 1
  exact List.filter_eq_self.mpr fun mark member => decide_eq_true (job.mark_key member)

/-- The marks of a key, its row and the call that has it agree; `carried` is the row that the
process has found. -/
structure Pace (env : CrawlerEnvironment) (carried : Option CandidateRow) (key : Bytes)
    (crawler : Crawler) : Prop where
  lawful : Lawful (Mark.Succeeds env.config carried) (crawler.marksOf key)
  stands : Stands carried (crawler.marksOf key) (crawler.row (dhtKeyText key))
  rests : (∀ number, Dict.get? number crawler.candidates.working ≠ some key) →
    underway (crawler.marksOf key) = false
  phase : ∀ number job, Dict.get? number crawler.jobs = some job → job.key = key →
    job.InPhase env.config carried (crawler.marksOf key) (crawler.row (dhtKeyText key))

namespace Pace

variable {carried : Option CandidateRow} {key : Bytes}

/-- What concerns neither the marks of the key nor its row. -/
theorem kept (pace : Pace env carried key crawler)
    (marks : next.marksOf key = crawler.marksOf key)
    (rows : next.row (dhtKeyText key) = crawler.row (dhtKeyText key))
    (working : next.candidates.working = crawler.candidates.working)
    (jobs : ∀ number job, Dict.get? number next.jobs = some job → job.key = key →
      (∃ error, job.reply = some (.exception error)) ∨ Dict.get? number crawler.jobs = some job) :
    Pace env carried key next := by
  refine ⟨?_, ?_, ?_, fun number job found isKey => ?_⟩
  · rw [marks]
    exact pace.lawful
  · rw [marks, rows]
    exact pace.stands
  · rw [marks, working]
    exact pace.rests
  · rw [marks, rows]
    obtain ⟨error, raised⟩ | before := jobs number job found isKey
    · unfold Processing.InPhase
      rw [raised]
      split <;> simp_all
    · exact pace.phase number job before isKey

theorem admitted (inv : Inv env crawler) (pace : Pace env carried key crawler)
    {candidates : CandidateSystem} {waiting : Bytes} {rest : BoundedQueue Bytes}
    {wallNs nowNs : Int}
    (waits : crawler.candidates.manager.queue.get = some (waiting, rest))
    (taken : crawler.candidates.step env.config.toConfig (.get crawler.dequeued) =
      some candidates) :
    Pace env carried key
      { crawler with
        candidates
        jobs := crawler.jobs ++
          [(crawler.dequeued, Processing.opening candidates.manager waiting wallNs nowNs)]
        dequeued := crawler.dequeued + 1 } := by
  obtain ⟨working, free⟩ := CandidateSystem.get_spec inv.candidates waits taken
  have absent : crawler.dequeued ∉ Dict.keys crawler.jobs := by
    intro member
    obtain ⟨job, found⟩ := Option.ne_none_iff_exists'.mp
      (mt (Dict.get?_eq_none_iff _ _).mp (not_not.mpr member))
    have below := inv.numbers _ (Dict.mem_keys_of_get? (inv.holders _ job found))
    omega
  refine ⟨pace.lawful, pace.stands, fun unheld => ?_, fun number job found isKey => ?_⟩
  · apply pace.rests
    intro number held
    apply unheld number
    dsimp only
    have below := inv.numbers number (Dict.mem_keys_of_get? held)
    rw [working, Dict.get?_concat_ne (by omega)]
    exact held
  · dsimp only at found
    by_cases new : number = crawler.dequeued
    · subst new
      rw [Dict.get?_concat_self _ absent] at found
      obtain rfl := Option.some.inj found
      obtain rfl : waiting = key := isKey
      apply pace.rests
      intro number held
      exact free number (Dict.mem_of_get? held)
    · rw [Dict.get?_concat_ne new] at found
      exact pace.phase number job found isKey

theorem proceeded (inv : Inv env crawler) (counted : 0 ≤ CandidateRow.count carried)
    (pace : Pace env carried key crawler) {number : Nat} {job : Processing} {onward : Onward}
    {stamp now : Int} (found : Dict.get? number crawler.jobs = some job)
    (goes : env.Goes crawler.candidates.manager job onward)
    (done : crawler.proceed env.config.toConfig number job stamp now onward = some next) :
    Pace env carried key next := by
  have holds := inv.holders number job found
  have unbroken := CrawlerEnvironment.goes_unbroken goes (inv.asks number job found)
  cases onward with
  | waits stage =>
      cases done
      refine ⟨pace.lawful, pace.stands, pace.rests, fun other another also isKey => ?_⟩
      obtain ⟨rfl, rfl⟩ | ⟨-, also⟩ := Inv.found_set also
      · subst isKey
        exact CrawlerEnvironment.phase_of_waits goes (inv.asks other job found) counted
          (inv.knows other job found (unbroken nofun)) pace.stands (pace.phase other job found rfl)
      · exact pace.phase other another also isKey
  | finishes =>
      obtain ⟨candidates, finished, rfl⟩ := Option.map_eq_some_iff.mp done
      have working := CandidateSystem.finish_spec finished
      refine ⟨pace.lawful, pace.stands, fun unheld => ?_, fun other another also isKey => ?_⟩
      · by_cases own : job.key = key
        · exact CrawlerEnvironment.rests_of_finishes goes (pace.phase number job found own)
        · apply pace.rests
          intro other held
          apply unheld other
          dsimp only
          rw [working, Dict.get?_pop_ne]
          · exact held
          · intro same
            rw [same, holds] at held
            exact own (Option.some.inj held)
      · exact pace.phase other another (Inv.found_pop also).2 isKey
  | raises error =>
      cases done
      exact ⟨pace.lawful, pace.stands, pace.rests, fun other another also isKey =>
        pace.phase other another (Inv.found_pop also).2 isKey⟩

/-- The database executes the operation of a call. -/
theorem served (inv : Inv env crawler) (after : Inv env next) (pace : Pace env carried key crawler)
    {number : Nat} {job : Processing} {request : DatabaseCall} {attempts : Nat → Attempt}
    (found : Dict.get? number crawler.jobs = some job) (asks : job.request = some request)
    (waits : job.reply = none)
    (faithful : (request.operation env.config.toConfig).Faithful crawler.store.session
      ((request.operation env.config.toConfig).run env.config.toConfig attempts
        crawler.store.session))
    (done : crawler.serve env.config.toConfig number job request attempts = some next) :
    Pace env carried key next := by
  obtain ⟨store, served, rfl⟩ := Option.map_eq_some_iff.mp done
  by_cases own : job.key = key
  · subst own
    have others : ∀ {changed : Processing} {other : Nat} {another : Processing},
        Dict.get? other (Dict.set number changed crawler.jobs) = some another →
        another.key = job.key → other = number ∧ another = changed := by
      intro changed other another also isKey
      obtain here | ⟨apart, also⟩ := Inv.found_set also
      · exact here
      · exact absurd (congrArg dhtKeyText isKey) (inv.apart found also apart)
    cases replied : ((request.operation env.config.toConfig).run env.config.toConfig attempts
        crawler.store.session).reply with
    | exception error =>
        have rows := row_of_exception served faithful replied (dhtKeyText job.key)
        refine pace.kept (by simp only [marksOf, List.append_nil]) rows rfl ?_
        intro other another also isKey
        obtain ⟨-, rfl⟩ := others also isKey
        exact .inl ⟨error, rfl⟩
    | result answer =>
        have rows := row_of_result served faithful replied (dhtKeyText job.key)
        rw [rowAfter_of_asks asks] at rows
        obtain ⟨content, answered⟩ := result_of_reply replied
        have knows := after.knows number _ (Dict.get?_set_self _ _ _) (by
          simp only [Processing.broken, replied])
        simp only [replied, row] at knows
        rw [rows] at knows
        obtain ⟨lawful, stands, phase⟩ := CrawlerEnvironment.phase_of_served asks waits answered
          pace.lawful pace.stands (pace.phase number job found rfl) knows
        refine ⟨?_, ?_, fun unheld => ?_, fun other another also isKey => ?_⟩
        · rw [marksOf_answered crawler answer (by rfl)]
          exact lawful
        · rw [marksOf_answered crawler answer (by rfl), row, rows]
          exact stands
        · exact absurd (inv.holders number job found) (unheld number)
        · obtain ⟨-, rfl⟩ := others also isKey
          rw [marksOf_answered crawler answer (by rfl), row, rows]
          exact phase
  · have targets : request.target ≠ some (dhtKeyText key) := by
      intro aims
      obtain ⟨targets, -⟩ | ⟨errors, -, rfl⟩ := target_of_request asks
      · rw [targets] at aims
        exact own (dhtKeyText_injective (Option.some.inj aims))
      · cases aims
    refine pace.kept ?_ (row_apart served faithful targets) rfl fun other another also isKey => ?_
    · unfold marksOf
      dsimp only
      rw [List.filter_append, List.append_right_eq_self]
      split
      · exact List.filter_eq_nil_iff.mpr fun mark member => by
          rw [job.mark_key member]
          simp [own]
      · rfl
    · obtain ⟨-, rfl⟩ | ⟨-, also⟩ := Inv.found_set also
      · exact absurd isKey own
      · exact .inr also

theorem step (inv : Inv env crawler) (counted : 0 ≤ CandidateRow.count carried)
    (pace : Pace env carried key crawler) {event : CrawlerEvent} (steady : Steady env crawler event)
    (taken : crawler.step env event = some next) : Pace env carried key next := by
  have after := step_inv inv taken
  cases event with
  | submit now wall other source peerHint =>
      obtain ⟨candidates, stepped, rfl⟩ := Option.map_eq_some_iff.mp (live_of_running taken)
      exact pace.kept rfl rfl (CandidateSystem.submit_working stepped) fun _ _ found _ => .inr found
  | scan nowNs attempts =>
      obtain ⟨store, served, rfl⟩ := Option.map_eq_some_iff.mp (live_of_running taken)
      have apart : (DatabaseCall.dueCandidates nowNs env.config.retryScanBatchSize).target ≠
          some (dhtKeyText key) := nofun
      have rows := row_apart served (steady.2 _ rfl) apart
      split <;> exact pace.kept rfl rows rfl fun _ _ found _ => .inr found
  | resubmit now wall =>
      have lived := live_of_running taken
      simp only [live] at lived
      split at lived
      · cases lived
      · split at lived
        · cases lived
          exact pace.kept rfl rfl rfl fun _ _ found _ => .inr found
        · obtain ⟨candidates, stepped, rfl⟩ := Option.map_eq_some_iff.mp lived
          exact pace.kept rfl rfl (CandidateSystem.submit_working stepped)
            fun _ _ found _ => .inr found
  | get wallNs nowNs =>
      have lived := live_of_running taken
      simp only [live] at lived
      split at lived
      · cases lived
      · rename_i other rest waits
        obtain ⟨candidates, got, rfl⟩ := Option.map_eq_some_iff.mp lived
        exact admitted inv pace waits got
  | serve number attempts =>
      have lived := live_of_running taken
      simp only [live] at lived
      split at lived
      · cases lived
      · rename_i job found
        split at lived
        · rename_i request asks waits
          refine served inv after pace found asks waits (steady.2 (request, attempts) ?_) lived
          simp [asked, found, asks]
        · cases lived
  | call request attempts =>
      have lived := live_of_running taken
      simp only [live] at lived
      split at lived
      · cases lived
      · rename_i apart
        obtain ⟨store, served, rfl⟩ := Option.map_eq_some_iff.mp lived
        refine pace.kept rfl (row_apart served (steady.2 _ rfl) ?_) rfl fun _ _ found _ => .inr found
        intro aims
        exact apart (by rw [aims]; rfl)
  | resume number wallNs stamp now =>
      obtain ⟨job, onward, stamp, now, found, calls, done⟩ := step_calls rfl taken
      exact proceeded inv counted pace found calls.goes done
  | fetch number script wallNs =>
      obtain ⟨job, onward, stamp, now, found, calls, done⟩ := step_calls rfl taken
      exact proceeded inv counted pace found calls.goes done
  | lookup number outcome =>
      obtain ⟨job, onward, stamp, now, found, calls, done⟩ := step_calls rfl taken
      exact proceeded inv counted pace found calls.goes done
  | start nowNs now => exact absurd steady.1 Bool.false_ne_true
  | stop => exact absurd steady.1 Bool.false_ne_true
  | kill => exact absurd steady.1 Bool.false_ne_true

end Pace

theorem proceed_kept {config : Config} {number : Nat} {job : Processing} {stamp now : Int}
    {onward : Onward} (done : crawler.proceed config number job stamp now onward = some next) :
    next.store = crawler.store ∧ next.marks = crawler.marks := by
  cases onward with
  | waits stage =>
      cases done
      exact ⟨rfl, rfl⟩
  | finishes =>
      obtain ⟨candidates, -, rfl⟩ := Option.map_eq_some_iff.mp done
      exact ⟨rfl, rfl⟩
  | raises error =>
      cases done
      exact ⟨rfl, rfl⟩

/-- A process that has ended has left no marks. -/
theorem run_rested (events : List CrawlerEvent) (final : Crawler)
    (ran : Transition.run (step env) fresh events = some final) (down : final.store.thread = .down) :
    final.marks = [] := by
  refine Transition.invariant_run (fun crawler => crawler.store.thread = .down → crawler.marks = [])
    ?_ ran (fun _ => rfl) down
  intro crawler event next rested taken down
  cases step_moved taken with
  | submitted candidates due kept sound => exact rested down
  | asked request attempts store due apart served =>
      exact absurd down (serving_of_served served).2.1
  | admitted candidates key rest wallNs nowNs up waits got => exact absurd down up
  | served number job request attempts _ found asks waits done =>
      obtain ⟨store, served, rfl⟩ := Option.map_eq_some_iff.mp done
      exact absurd down (serving_of_served served).2.1
  | proceeded number job onward stamp now _ found goes done =>
      obtain ⟨store, marks⟩ := proceed_kept done
      rw [store] at down
      rw [marks]
      exact rested down
  | started nowNs now store begun =>
      simp only [Store.step] at begun
      split at begun
      · exact rested (by assumption)
      · cases begun
  | halted event store ends ended => rfl

/-- What the workers do is a run of the database below them. -/
theorem run_store (events : List CrawlerEvent) (final : Crawler)
    (ran : Transition.run (step env) fresh events = some final) :
    ∃ calls, Transition.run (Store.step env.config.toConfig) .empty calls = some final.store := by
  refine Transition.invariant_run (fun crawler =>
    ∃ calls, Transition.run (Store.step env.config.toConfig) .empty calls = some crawler.store)
    ?_ ran ⟨[], rfl⟩
  rintro crawler event next ⟨calls, before⟩ taken
  have further : ∀ {call : StoreEvent} {store : Store},
      crawler.store.step env.config.toConfig call = some store →
      ∃ calls, Transition.run (Store.step env.config.toConfig) .empty calls = some store :=
    fun {call} _ stepped =>
      ⟨calls ++ [call], Transition.run_concat.mpr ⟨crawler.store, before, stepped⟩⟩
  cases step_moved taken with
  | submitted candidates due kept sound => exact ⟨calls, before⟩
  | asked request attempts store due apart served => exact further served
  | admitted candidates key rest wallNs nowNs up waits got => exact ⟨calls, before⟩
  | served number job request attempts _ found asks waits done =>
      obtain ⟨store, served, rfl⟩ := Option.map_eq_some_iff.mp done
      exact further served
  | proceeded number job onward stamp now _ found goes done =>
      refine ⟨calls, ?_⟩
      rw [(proceed_kept done).1]
      exact before
  | started nowNs now store begun => exact further begun
  | halted event store ends ended => exact further ended

theorem counts_follows (config : Config) (request : DatabaseCall) (key : String) :
    Follows (fun found => 0 ≤ CandidateRow.count found) (.free (Option CandidateRow))
      (request.rowAfter config key) := by
  intro found counted
  refine ⟨?_, trivial⟩
  unfold DatabaseCall.rowAfter
  split
  · cases found with
    | none =>
        cases request <;> exact Int.le_refl 0
    | some row =>
        have positive : 0 ≤ row.attempts := counted
        cases request with
        | markFetching dhtKey nowNs =>
            show 0 ≤ (if row.isOpen = true then row.started nowNs else row).attempts
            split
            · exact Int.le_trans positive (by simp [CandidateRow.started])
            · exact positive
        | markFetchFailed dhtKey error nowNs nextAttemptNs =>
            show 0 ≤ (if row.state = .complete then row
              else row.failed config error nowNs nextAttemptNs).attempts
            split <;> exact positive
        | _ => exact positive
  · exact counted

/-- No row counts fewer than no attempts. -/
theorem run_counted (events : List CrawlerEvent) (final : Crawler)
    (ran : Transition.run (step env) fresh events = some final) (text : String) :
    0 ≤ CandidateRow.count (final.row text) := by
  obtain ⟨calls, ran⟩ := run_store events final ran
  have within := (@Store.run_within
    (fun content => ∀ text, 0 ≤ CandidateRow.count (content.candidate text))
    (DatabaseCall.rowLaw (.free (Option CandidateRow))) env.config.toConfig (by
      intro nowNs content counted
      refine ⟨fun text => ?_, fun _ => trivial⟩
      have before := counted text
      rw [Catalogue.candidate_recoverInterrupted]
      cases found : content.candidate text with
      | none => exact Int.le_refl 0
      | some row =>
          rw [found] at before
          show 0 ≤ (row.recovered nowNs).attempts
          unfold CandidateRow.recovered
          split <;> exact before)
    _ _ _ (fun request _ _ => DatabaseCall.obeys_rows fun key =>
      counts_follows env.config.toConfig request key) ran
    (.same rfl fun _ => Int.le_refl 0)).1
  exact within.committed text

/-- At its start a process has done nothing about any key. -/
theorem pace_of_start {prior : List CrawlerEvent} {nowNs now : Int}
    (ended : Transition.run (step env) fresh prior = some crawler)
    (began : crawler.step env (.start nowNs now) = some next) (key : Bytes) :
    Pace env (next.row (dhtKeyText key)) key next := by
  obtain ⟨store, started, rfl⟩ := Option.map_eq_some_iff.mp began
  simp only [Store.step] at started
  split at started
  · rename_i down
    have marks := run_rested prior crawler ended down
    have jobs := (run_inv prior crawler ended).idle down
    have none : marksOf { crawler with candidates := .new env.config.hashQueueSize now, store }
        key = [] := by
      unfold marksOf
      rw [marks, List.filter_nil]
    refine ⟨?_, ?_, fun _ => ?_, fun number job found => ?_⟩
    · rw [none]
      exact .nil
    · rw [none]
      exact .nil _
    · rw [none]
      rfl
    · dsimp only at found
      rw [jobs] at found
      cases found
  · cases started

/-- In any run of one process, from whatever the processes before it have left: the attempts to
fetch a key are no more than allowed, each but the last waits until the time that the failure of
the one before it has set, and behind the last one and behind a success there is none. The row of
the key says what was done last, and only a started attempt connects to peers. -/
theorem run_paced (env : CrawlerEnvironment)
    (validConfig : 1 ≤ env.config.fetchRetryMaxAttempts) (prior events : List CrawlerEvent)
    (before begun final : Crawler) (nowNs now : Int)
    (ended : Transition.run (step env) fresh prior = some before)
    (began : before.step env (.start nowNs now) = some begun)
    (along : Transition.Along (Steady env) (step env) begun events)
    (ran : Transition.run (step env) begun events = some final) (key : Bytes) :
    Paced env.config (begun.row (dhtKeyText key)) (final.marksOf key) ∧
      Stands (begun.row (dhtKeyText key)) (final.marksOf key) (final.row (dhtKeyText key)) ∧
      ∀ number job, Dict.get? number final.jobs = some job → job.key = key →
        job.endpoint.isSome = true → underway (final.marksOf key) = true := by
  have started : Transition.run (step env) fresh (prior ++ [.start nowNs now]) = some begun :=
    Transition.run_concat.mpr ⟨before, ended, began⟩
  have counted := run_counted _ begun started (dhtKeyText key)
  obtain ⟨inv, pace⟩ := Transition.invariant_along
    (fun crawler => Inv env crawler ∧ Pace env (begun.row (dhtKeyText key)) key crawler)
    (fun crawler event next held steady taken =>
      ⟨step_inv held.1 taken, held.2.step held.1 counted steady taken⟩)
    along ran ⟨run_inv _ begun started, pace_of_start ended began key⟩
  refine ⟨paced_of_lawful validConfig counted pace.lawful, pace.stands, fun number job found own dials => ?_⟩
  apply CrawlerEnvironment.busy_of_silent (inv.asks number job found)
    (pace.phase number job found own)
  unfold Processing.endpoint at dials
  unfold Processing.request
  split at dials
  · rename_i here
    rw [here]
  · rename_i here
    rw [here]
  · cases dials

/-- The first attempt fails, and the retry scheduler brings the key back when its time has come. -/
def sampleRetry : List CrawlerEvent :=
  sampleFailure.tail ++ [.resume 0 11 2 2, .scan 60000000010 fun _ => {}, .resubmit 4 4,
    .get 5 60000000010, .serve 1 fun _ => {}, .resume 1 12 4 4, .serve 1 fun _ => {}]

theorem run_paced_sample :
    ∃ begun final, fresh.step sampleEnvironment (.start 1 0) = some begun ∧
      Transition.run (step sampleEnvironment) begun sampleRetry = some final ∧
      fetchesIn (final.marksOf sampleKey) = 2 ∧
      Paced sampleEnvironment.config (begun.row (dhtKeyText sampleKey))
        (final.marksOf sampleKey) := by
  have whole : ((fresh.step sampleEnvironment (.start 1 0)).bind fun begun =>
      (Transition.run (step sampleEnvironment) begun sampleRetry).map fun final =>
        decide (Transition.Along (Steady sampleEnvironment) (step sampleEnvironment) begun
          sampleRetry ∧ fetchesIn (final.marksOf sampleKey) = 2)) = some true := by
    decide +kernel
  obtain ⟨begun, began, whole⟩ := Option.bind_eq_some_iff.mp whole
  obtain ⟨final, ran, whole⟩ := Option.map_eq_some_iff.mp whole
  obtain ⟨along, twice⟩ := of_decide_eq_true whole
  exact ⟨begun, final, began, ran, twice, (run_paced sampleEnvironment (by decide) [] sampleRetry
    fresh begun final 1 0 rfl began along ran sampleKey).1⟩

end Crawler

end PyDht
