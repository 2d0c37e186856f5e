import PyDht.CrawlerRuns

set_option autoImplicit false

namespace PyDht

open CandidateRow (Idle)

/-- An exception that `_process_candidate` does not catch around `fetch_metadata`. -/
def uncaught : Except PyError Bytes → Bool
  | .error (.peerError _ _ _) => false
  | .error _ => true
  | .ok _ => false

theorem uncaught_of_ne {error : PyError}
    (other : ∀ category stage text, error = .peerError category stage text → False) :
    uncaught (.error error) = true := by
  unfold uncaught
  split
  · rename_i same
    cases same
    exact (other _ _ _ rfl).elim
  · rfl
  · rename_i same
    cases same

/-- The operation that the call waits for has raised, or the peer's bytes make `fetch_metadata`
raise something else than a `PeerError`. -/
def CrawlerEvent.escapes (env : CrawlerEnvironment) (crawler : Crawler) : CrawlerEvent → Bool
  | .resume number _ _ _ => (Dict.get? number crawler.jobs).any Processing.broken
  | .fetch number script _ =>
      (Dict.get? number crawler.jobs).any fun job =>
        job.endpoint.any fun endpoint =>
          uncaught (script.outcome env.config env.sha1 env.peerId endpoint job.key)
  | _ => false

namespace CrawlerEnvironment

variable {env : CrawlerEnvironment} {manager : CandidateManager} {job : Processing}
  {onward : Onward}

theorem admission_ne_raises (nowNs : Int) (row : CandidateRow) (error : PyError) :
    Processing.admission nowNs row ≠ .raises error := by
  unfold Processing.admission
  split
  · exact nofun
  · exact nofun
  · split
    · exact nofun
    · split <;> exact nofun
  · exact nofun

theorem giveUp_waits (errors : List String) (latest : Option CandidateRow) (wallNs : Int) :
    ∃ stage, env.giveUp errors latest wallNs = .waits stage := by
  unfold giveUp
  dsimp only
  split <;> exact ⟨_, rfl⟩

/-- Metadata of any form is indexed or refused. -/
theorem index_waits (key rawInfo : Bytes) (errors : List String) (wallNs : Int) :
    ∃ stage, env.index key rawInfo errors wallNs = .waits stage := by
  unfold index
  split
  · rename_i error failed
    rw [if_pos (Indexer.parseValidatedInfo_raises _ _ _ _ failed)]
    exact ⟨_, rfl⟩
  · exact ⟨_, rfl⟩

theorem resume_raises_iff {wallNs : Int} (goes : env.resume manager wallNs job = some onward) :
    (∃ error, onward = .raises error) ↔ job.broken = true := by
  unfold resume at goes
  unfold Processing.broken
  split at goes
  · cases goes
  · rename_i error replied
    simp [replied, ← Option.some.inj goes]
  · rename_i answer replied
    simp only [replied, Bool.false_eq_true, iff_false, not_exists]
    intro error
    split at goes
    · exact Option.some.inj goes ▸ admission_ne_raises _ _ error
    · exact Option.some.inj goes ▸ nofun
    · exact Option.some.inj goes ▸ nofun
    · exact Option.some.inj goes ▸ nofun
    · rename_i errors latest _
      obtain ⟨stage, waits⟩ := env.giveUp_waits errors latest wallNs
      exact Option.some.inj goes ▸ waits ▸ nofun
    · exact Option.some.inj goes ▸ nofun
    · cases goes

theorem fetched_raises_iff {outcome : Except PyError Bytes} {wallNs : Int}
    (goes : env.fetched job outcome wallNs = some onward) :
    (∃ error, onward = .raises error) ↔ uncaught outcome = true := by
  simp only [fetched] at goes
  split at goes
  · simp [uncaught, ← Option.some.inj goes]
  · simp [uncaught, ← Option.some.inj goes]
  · rename_i search rawInfo _
    obtain ⟨stage, waits⟩ := env.index_waits job.key rawInfo search.errors wallNs
    simp [uncaught, ← Option.some.inj goes, waits]
  · rename_i search rawInfo _
    obtain ⟨stage, waits⟩ := env.index_waits job.key rawInfo search.errors wallNs
    simp [uncaught, ← Option.some.inj goes, waits]
  · rename_i error other _
    simp [uncaught_of_ne other, ← Option.some.inj goes]
  · rename_i error other _
    simp [uncaught_of_ne other, ← Option.some.inj goes]
  · cases goes

theorem lookedUp_waits {outcome : Except PyError (List Endpoint)}
    (goes : env.lookedUp manager job outcome = some onward) : ∃ stage, onward = .waits stage := by
  unfold lookedUp at goes
  split at goes
  · exact ⟨_, (Option.some.inj goes).symm⟩
  · exact ⟨_, (Option.some.inj goes).symm⟩
  · cases goes

/-- A call that finishes its key knows that the row is not `fetching`. -/
theorem idle_of_finishes {row : Option CandidateRow} {config : Config}
    (goes : env.Goes manager job .finishes) (knows : job.Knows config row) : Idle row := by
  cases goes with
  | resumed wallNs _ goes =>
      unfold resume at goes
      split at goes
      · cases goes
      · cases goes
      · rename_i answer replied
        split at goes
        · rename_i nowNs _ _ found stage
          simp only [Processing.Knows, stage, replied] at knows
          subst knows
          intro row same fetching
          cases same
          simp [Processing.admission, fetching] at goes
        · cases goes
        · rename_i stage
          simpa only [Processing.Knows, stage, replied] using knows
        · rename_i stage
          simpa only [Processing.Knows, stage, replied] using knows
        · rename_i errors latest _
          obtain ⟨stage, waits⟩ := env.giveUp_waits errors latest wallNs
          rw [waits] at goes
          cases goes
        · rename_i stage
          simpa only [Processing.Knows, stage, replied] using knows
        · cases goes
  | fetched script endpoint wallNs _ dialed goes =>
      simp only [fetched] at goes
      split at goes
      · cases goes
      · cases goes
      · rename_i search rawInfo _ _
        obtain ⟨stage, waits⟩ := env.index_waits job.key rawInfo search.errors wallNs
        rw [waits] at goes
        cases goes
      · rename_i search rawInfo _ _
        obtain ⟨stage, waits⟩ := env.index_waits job.key rawInfo search.errors wallNs
        rw [waits] at goes
        cases goes
      · cases goes
      · cases goes
      · cases goes
  | lookedUp outcome _ goes =>
      obtain ⟨stage, waits⟩ := lookedUp_waits goes
      cases waits

end CrawlerEnvironment

namespace Crawler

variable {env : CrawlerEnvironment} {crawler next : Crawler}

/-- The key of a call that has ended can be submitted again, and is not `fetching`. -/
def Released (crawler : Crawler) (key : Bytes) : Prop :=
  key ∉ Dict.keys crawler.candidates.manager.states ∧ Idle (crawler.row (dhtKeyText key))

/-- The step that ends a call is the last one of its own. -/
theorem ended_by {number other : Nat} {job another : Processing} {onward : Onward}
    {stamp now : Int} {config : Config} (found : Dict.get? number crawler.jobs = some job)
    (done : crawler.proceed config other another stamp now onward = some next)
    (ended : Dict.get? number next.jobs = none) :
    other = number ∧ ∀ stage, onward ≠ .waits stage := by
  have popped : Dict.get? number (Dict.pop other crawler.jobs) = none → other = number := by
    intro absent
    by_contra different
    rw [Dict.get?_pop_ne (Ne.symm different), found] at absent
    cases absent
  cases onward with
  | waits stage =>
      cases done
      dsimp only at ended
      rw [Dict.get?_set] at ended
      split at ended
      · cases ended
      · rw [found] at ended
        cases ended
  | finishes =>
      obtain ⟨candidates, finished, rfl⟩ := Option.map_eq_some_iff.mp done
      refine ⟨popped ended, fun stage waits => ?_⟩
      cases waits
  | raises error =>
      cases done
      refine ⟨popped ended, fun stage waits => ?_⟩
      cases waits

/-- What a call leaves of its key when it ends. -/
theorem released_iff (inv : Inv env crawler) {number : Nat} {job : Processing}
    {onward : Onward} {stamp now : Int} (found : Dict.get? number crawler.jobs = some job)
    (goes : env.Goes crawler.candidates.manager job onward)
    (done : crawler.proceed env.config.toConfig number job stamp now onward = some next)
    (ends : ∀ stage, onward ≠ .waits stage) :
    next.Released job.key ↔ ¬ ∃ error, onward = .raises error := by
  have holds := inv.holders number job found
  cases onward with
  | waits stage => exact absurd rfl (ends stage)
  | finishes =>
      obtain ⟨candidates, finished, rfl⟩ := Option.map_eq_some_iff.mp done
      have goesOn := CrawlerEnvironment.goes_unbroken goes (inv.asks number job found) nofun
      have idle := CrawlerEnvironment.idle_of_finishes goes (inv.knows number job found goesOn)
      have released : Released { crawler with candidates, jobs := Dict.pop number crawler.jobs }
          job.key := ⟨CandidateSystem.finish_released holds finished, idle⟩
      simp [released]
  | raises error =>
      cases done
      have stays : job.key ∈ Dict.keys crawler.candidates.manager.states := by
        rw [inv.candidates.states, List.mem_append]
        exact .inr (List.mem_map_of_mem (Dict.mem_of_get? holds))
      have stranded : ¬ Released { crawler with jobs := Dict.pop number crawler.jobs } job.key :=
        fun released => released.1 stays
      simp [stranded]

/-- At the end of a call its key is released, unless an exception goes through the call. -/
theorem run_releases (env : CrawlerEnvironment) (events : List CrawlerEvent)
    (crawler next : Crawler) (event : CrawlerEvent) (number : Nat) (job : Processing)
    (ran : Transition.run (step env) fresh events = some crawler)
    (found : Dict.get? number crawler.jobs = some job)
    (taken : crawler.step env event = some next)
    (ended : Dict.get? number next.jobs = none)
    (lives : event ≠ .stop ∧ event ≠ .kill) :
    next.Released job.key ↔ event.escapes env crawler = false := by
  have inv := run_inv events crawler ran
  have running : (if crawler.store.thread = .down then none else crawler.live env event) =
      some next → crawler.live env event = some next := by
    intro steps
    split at steps
    · cases steps
    · exact steps
  have goesOn : Dict.get? number next.jobs ≠ none → (next.Released job.key ↔
      event.escapes env crawler = false) := fun present => absurd ended present
  cases event with
  | resume other wallNs stamp now =>
      have lived := running taken
      simp only [live] at lived
      split at lived
      · cases lived
      · rename_i another also
        obtain ⟨onward, goes, done⟩ := Option.bind_eq_some_iff.mp lived
        obtain ⟨rfl, ends⟩ := ended_by found done ended
        rw [found] at also
        cases also
        rw [released_iff inv found (.resumed wallNs onward goes) done ends,
          CrawlerEnvironment.resume_raises_iff goes]
        simp [CrawlerEvent.escapes, found]
  | fetch other script wallNs =>
      have lived := running taken
      simp only [live] at lived
      split at lived
      · cases lived
      · rename_i another also
        split at lived
        · cases lived
        · rename_i endpoint dialed
          obtain ⟨onward, goes, done⟩ := Option.bind_eq_some_iff.mp lived
          obtain ⟨rfl, ends⟩ := ended_by found done ended
          rw [found] at also
          cases also
          rw [released_iff inv found (.fetched script endpoint wallNs onward dialed goes) done ends,
            CrawlerEnvironment.fetched_raises_iff goes]
          simp [CrawlerEvent.escapes, found, dialed]
  | lookup other outcome =>
      have lived := running taken
      simp only [live] at lived
      split at lived
      · cases lived
      · rename_i another also
        obtain ⟨onward, goes, done⟩ := Option.bind_eq_some_iff.mp lived
        obtain ⟨rfl, ends⟩ := ended_by found done ended
        obtain ⟨stage, rfl⟩ := CrawlerEnvironment.lookedUp_waits goes
        exact absurd rfl (ends stage)
  | stop => exact absurd rfl lives.1
  | kill => exact absurd rfl lives.2
  | submit now wall key source peerHint =>
      obtain ⟨candidates, -, rfl⟩ := Option.map_eq_some_iff.mp (running taken)
      exact goesOn (by simp [found])
  | scan nowNs attempts =>
      obtain ⟨store, -, rfl⟩ := Option.map_eq_some_iff.mp (running taken)
      apply goesOn
      split <;> simp [found]
  | resubmit now wall =>
      have lived := running taken
      simp only [live] at lived
      split at lived
      · cases lived
      · split at lived
        · cases lived
          exact goesOn (by simp [found])
        · obtain ⟨candidates, -, rfl⟩ := Option.map_eq_some_iff.mp lived
          exact goesOn (by simp [found])
  | get wallNs nowNs =>
      have lived := running taken
      simp only [live] at lived
      split at lived
      · cases lived
      · obtain ⟨candidates, -, rfl⟩ := Option.map_eq_some_iff.mp lived
        apply goesOn
        have below := inv.numbers number (Dict.mem_keys_of_get? (inv.holders number job found))
        dsimp only
        rw [Dict.get?_concat_ne (by omega), found]
        exact Option.some_ne_none job
  | serve other attempts =>
      have lived := running taken
      simp only [live] at lived
      split at lived
      · cases lived
      · split at lived
        · obtain ⟨store, -, rfl⟩ := Option.map_eq_some_iff.mp lived
          apply goesOn
          dsimp only
          rw [Dict.get?_set]
          split <;> simp [found]
        · cases lived
  | call request attempts =>
      have lived := running taken
      simp only [live] at lived
      split at lived
      · cases lived
      · obtain ⟨store, -, rfl⟩ := Option.map_eq_some_iff.mp lived
        exact goesOn (by simp [found])
  | start nowNs now =>
      obtain ⟨store, -, rfl⟩ := Option.map_eq_some_iff.mp taken
      exact goesOn (by simp [found])

/-- The events up to the dial of the peer that has announced the key. -/
def sampleDial : List CrawlerEvent :=
  [.start 1 0, .submit 0 5 sampleKey "announce_peer" (some ⟨"8.8.8.8", 6881, false⟩), .get 6 6,
    .serve 0 fun _ => {}, .resume 0 7 0 0, .serve 0 fun _ => {}, .resume 0 8 0 0]

/-- A handshake, the two numbers that are needed, and a message type that is a list. -/
def hostilePeer : PeerScript :=
  { incoming := 19 :: BT_PROTOCOL ++ [0, 0, 0, 0, 0, 0x10, 0, 0] ++ sampleKey ++
      List.replicate 20 1 ++
      PeerWire.frame 0 (ascii "d1:md11:ut_metadatai1ee13:metadata_sizei1ee") ++
      PeerWire.frame 1 (ascii "d8:msg_typele5:piecei0ee") }

def sampleFailure : List CrawlerEvent :=
  sampleDial ++ [.fetch 0 { refused := some .timedOut } 9, .lookup 0 (.ok []),
    .serve 0 fun _ => {}, .resume 0 10 0 0, .serve 0 fun _ => {}]

theorem run_releases_sample :
    ∃ crawler next, Transition.run (step sampleEnvironment) fresh sampleFailure = some crawler ∧
      crawler.step sampleEnvironment (.resume 0 11 2 2) = some next ∧ next.Released sampleKey :=
  ⟨_, _, rfl, rfl, (run_releases sampleEnvironment sampleFailure _ _ (.resume 0 11 2 2) 0 _
    (by rfl) (by rfl) (by rfl) (by rfl) ⟨nofun, nofun⟩).mpr (by rfl)⟩

/-- The peer that is dialed ends the call, and its key stays where it is. -/
theorem key_stranded :
    ∃ crawler next, Transition.run (step sampleEnvironment) fresh sampleDial = some crawler ∧
      crawler.step sampleEnvironment (.fetch 0 hostilePeer 9) = some next ∧
      (Dict.get? 0 crawler.jobs).map Processing.key = some sampleKey ∧ next.jobs = [] ∧
      sampleKey ∈ Dict.keys next.candidates.manager.states ∧
      (next.row (dhtKeyText sampleKey)).map CandidateRow.state = some .fetching := by
  have ends : (Transition.run (step sampleEnvironment) fresh
      (sampleDial ++ [.fetch 0 hostilePeer 9])).map (fun next =>
        (next.jobs, Dict.keys next.candidates.manager.states,
          (next.row (dhtKeyText sampleKey)).map CandidateRow.state)) =
      some ([], [sampleKey], some .fetching) := by
    decide +kernel
  obtain ⟨next, ran, left⟩ := Option.map_eq_some_iff.mp ends
  obtain ⟨crawler, before, taken⟩ := Transition.run_concat.mp ran
  simp only [Prod.mk.injEq] at left
  obtain ⟨jobs, states, fetching⟩ := left
  refine ⟨crawler, next, before, taken, ?_, jobs, ?_, fetching⟩
  · cases before
    rfl
  · rw [states]
    exact List.mem_singleton_self _

end Crawler

end PyDht
