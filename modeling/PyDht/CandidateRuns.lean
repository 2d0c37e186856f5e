import PyDht.Candidates
import PyDht.Lib.Transition

set_option autoImplicit false

namespace PyDht

open Recency (Keeps Recent)

/-- The manager with the workers that take keys from its queue: `working` says
which worker has dequeued which key and not yet finished it, `finished` lists
the calls of `finish` with their time, `clock` is the last monotonic reading. -/
structure CandidateSystem where
  manager : CandidateManager
  working : List (Nat × Bytes) := []
  finished : List (Bytes × Int) := []
  clock : Int
deriving DecidableEq, Repr

inductive CandidateEvent where
  | submit (now wall : Int) (key : Bytes) (source : String) (peerHint : Option PeerHint)
      (retry : Bool)
  | get (worker : Nat)
  | finish (worker : Nat) (stamp now : Int)
deriving DecidableEq, Repr

namespace CandidateSystem

def new (capacity start : Int) : CandidateSystem :=
  { manager := { queue := { maxsize := capacity } }, clock := start }

/-- One event; the monotonic clock does not run backwards, and a worker that
has a key does not get another one before it has finished the first. -/
def step (config : Config) (system : CandidateSystem) : CandidateEvent → Option CandidateSystem
  | .submit now wall key source peerHint retry =>
      if system.clock ≤ now then
        let (_, manager) := system.manager.submit config now wall key source peerHint retry
        some { system with manager, clock := now }
      else none
  | .get worker =>
      if worker ∈ Dict.keys system.working then none
      else
        system.manager.queue.get.map fun (key, queue) =>
          { system with
            manager := { system.manager with queue }
            working := system.working ++ [(worker, key)] }
  | .finish worker stamp now =>
      (Dict.get? worker system.working).bind fun key =>
        if system.clock ≤ stamp ∧ stamp ≤ now then
          some { manager := system.manager.finish config stamp now key
                 working := Dict.pop worker system.working
                 finished := system.finished ++ [(key, stamp)]
                 clock := now }
        else none

/-- Queue, workers and states agree, and the cache of finished keys is in step with the log. -/
structure Inv (config : Config) (system : CandidateSystem) : Prop where
  places : (system.manager.queue.items ++ system.working.map Prod.snd).Nodup
  workers : (Dict.keys system.working).Nodup
  states : ∀ key, key ∈ Dict.keys system.manager.states ↔
    key ∈ system.manager.queue.items ++ system.working.map Prod.snd
  recent : Keeps (nanoseconds config.recentHashTtl) config.recentHashCacheSize system.finished
    system.manager.recent system.clock

end CandidateSystem

namespace CandidateManager

/-- The outcomes of `submit`, each with the change it makes. -/
inductive Submitted (config : Config) (now : Int) (key : Bytes) (retry : Bool)
    (manager : CandidateManager) : Bool × CandidateManager → Prop where
  | malformed (length : key.length ≠ 20) : Submitted config now key retry manager (false, manager)
  | merged (state : CandidateState) (length : key.length = 20)
      (known : key ∈ Dict.keys manager.states) :
      Submitted config now key retry manager
        (true, { manager.pruneRecent config now with
          states := Dict.set key state manager.states })
  | suppressed (length : key.length = 20) (absent : key ∉ Dict.keys manager.states)
      (passive : retry = false) (seen : key ∈ Dict.keys (manager.pruneRecent config now).recent) :
      Submitted config now key retry manager (false, manager.pruneRecent config now)
  | refused (length : key.length = 20) (absent : key ∉ Dict.keys manager.states)
      (full : manager.queue.full = true) :
      Submitted config now key retry manager (false, manager.pruneRecent config now)
  | queued (state : CandidateState) (length : key.length = 20)
      (absent : key ∉ Dict.keys manager.states)
      (wanted : retry = true ∨ key ∉ Dict.keys (manager.pruneRecent config now).recent)
      (room : manager.queue.full = false) :
      Submitted config now key retry manager
        (true, { manager.pruneRecent config now with
          states := manager.states ++ [(key, state)],
          queue := { manager.queue with items := manager.queue.items ++ [key] } })

theorem submit_submitted (config : Config) (now wall : Int) (key : Bytes) (source : String)
    (peerHint : Option PeerHint) (retry : Bool) (manager : CandidateManager) :
    Submitted config now key retry manager
      (manager.submit config now wall key source peerHint retry) := by
  unfold submit
  split
  · rename_i length
    exact .malformed length
  · rename_i length
    have length : key.length = 20 := by simpa using length
    dsimp only
    split
    · rename_i state known
      exact .merged _ length (Dict.mem_keys_of_get? known)
    · rename_i known
      have absent : key ∉ Dict.keys manager.states := (Dict.get?_eq_none_iff _ _).mp known
      split
      · rename_i suppressed
        simp only [Bool.and_eq_true, Bool.not_eq_true', Dict.contains_iff] at suppressed
        exact .suppressed length absent suppressed.1 suppressed.2
      · rename_i wanted
        simp only [Bool.and_eq_true, Bool.not_eq_true', Dict.contains_iff, not_and] at wanted
        have wanted : retry = true ∨ key ∉ Dict.keys (manager.pruneRecent config now).recent := by
          rcases Bool.eq_false_or_eq_true retry with again | passive
          · exact .inl again
          · exact .inr (wanted passive)
        split
        · rename_i queue put
          obtain ⟨room, rfl⟩ := BoundedQueue.putNowait_eq_some put
          rw [Dict.set_new _ (show key ∉ Dict.keys (manager.pruneRecent config now).states from absent)]
          exact .queued _ length absent wanted room
        · rename_i put
          rw [Dict.pop_set_new _ (show key ∉ Dict.keys (manager.pruneRecent config now).states from absent)]
          exact .refused length absent (BoundedQueue.full_of_putNowait put)

end CandidateManager

namespace CandidateSystem

variable {config : Config} {system next : CandidateSystem}

theorem new_inv (config : Config) (capacity start : Int) : Inv config (new capacity start) :=
  ⟨by simp [new], by simp [new, Dict.keys], by simp [new, Dict.keys], Keeps.nil _ _ _⟩

theorem Inv.submit (inv : Inv config system) {now wall : Int} {key : Bytes} {source : String}
    {peerHint : Option PeerHint} {retry : Bool} (passed : system.clock ≤ now) :
    Inv config { system with
      manager := (system.manager.submit config now wall key source peerHint retry).2,
      clock := now } := by
  obtain ⟨places, workers, states, recent⟩ := inv
  have pruned := (recent.later passed).prune
  generalize outcome : system.manager.submit config now wall key source peerHint retry = result
  have submitted := outcome ▸
    CandidateManager.submit_submitted config now wall key source peerHint retry system.manager
  cases submitted with
  | malformed length => exact ⟨places, workers, states, recent.later passed⟩
  | merged state length known =>
      refine ⟨places, workers, fun other => ?_, pruned⟩
      rw [Dict.keys_set_known state known]
      exact states other
  | suppressed length absent passive seen => exact ⟨places, workers, states, pruned⟩
  | refused length absent full => exact ⟨places, workers, states, pruned⟩
  | queued state length absent wanted room =>
      have unplaced : key ∉ system.manager.queue.items ++ system.working.map Prod.snd :=
        fun placed => absent ((states key).mpr placed)
      refine ⟨?_, workers, fun other => ?_, pruned⟩
      · rw [List.append_assoc, List.singleton_append]
        exact List.nodup_middle.mpr (List.nodup_cons.mpr ⟨unplaced, places⟩)
      · have before := states other
        simp only [Dict.keys, List.map_append, List.map_cons, List.map_nil, List.mem_append,
          List.mem_singleton] at before ⊢
        rw [before]
        tauto

theorem Inv.get (inv : Inv config system) {worker : Nat} {key : Bytes} {queue : BoundedQueue Bytes}
    (idle : worker ∉ Dict.keys system.working)
    (taken : system.manager.queue.get = some (key, queue)) :
    Inv config { system with
      manager := { system.manager with queue },
      working := system.working ++ [(worker, key)] } := by
  obtain ⟨places, workers, states, recent⟩ := inv
  obtain ⟨shape, -⟩ := BoundedQueue.get_eq_some taken
  have moved : (queue.items ++ (system.working ++ [(worker, key)]).map Prod.snd).Perm
      (system.manager.queue.items ++ system.working.map Prod.snd) := by
    rw [shape, List.map_append, ← List.append_assoc, List.cons_append]
    exact List.perm_append_singleton key _
  refine ⟨moved.nodup_iff.mpr places, ?_, fun other => ?_, recent⟩
  · rw [Dict.keys, List.map_append, List.nodup_append]
    refine ⟨workers, by simp, ?_⟩
    rintro first member second isWorker rfl
    simp only [List.map_cons, List.map_nil, List.mem_singleton] at isWorker
    exact idle (isWorker ▸ member)
  · rw [moved.mem_iff]
    exact states other

theorem Inv.finish (inv : Inv config system) {worker : Nat} {key : Bytes} {stamp now : Int}
    (busy : Dict.get? worker system.working = some key) (started : system.clock ≤ stamp)
    (passed : stamp ≤ now) :
    Inv config {
      manager := system.manager.finish config stamp now key
      working := Dict.pop worker system.working
      finished := system.finished ++ [(key, stamp)]
      clock := now } := by
  obtain ⟨places, workers, states, recent⟩ := inv
  have member := Dict.mem_of_get? busy
  have others : (key :: (Dict.pop worker system.working).map Prod.snd).Perm
      (system.working.map Prod.snd) := (Dict.pop_perm workers member).map Prod.snd
  have freed : (key :: (system.manager.queue.items ++
      (Dict.pop worker system.working).map Prod.snd)).Perm
      (system.manager.queue.items ++ system.working.map Prod.snd) :=
    List.perm_middle.symm.trans (others.append_left _)
  have split := List.nodup_cons.mp (freed.nodup_iff.mpr places)
  refine ⟨split.2, ?_, fun other => ?_, ?_⟩
  · rw [Dict.keys_pop]
    exact workers.filter _
  · simp only [CandidateManager.finish, if_true, CandidateManager.pruneRecent, Dict.mem_keys_pop,
      states, ← freed.mem_iff, List.mem_cons]
    constructor
    · rintro ⟨same | placed, different⟩
      · exact absurd same different
      · exact placed
    · intro placed
      exact ⟨.inr placed, fun same => split.1 (same ▸ placed)⟩
  · exact ((recent.later started).touch key).later passed |>.prune

theorem step_inv (inv : Inv config system) {event : CandidateEvent}
    (taken : step config system event = some next) : Inv config next := by
  cases event with
  | submit now wall key source peerHint retry =>
      simp only [step] at taken
      split at taken
      · rename_i passed
        exact Option.some.inj taken ▸ inv.submit passed
      · simp at taken
  | get worker =>
      simp only [step] at taken
      split at taken
      · simp at taken
      · rename_i idle
        obtain ⟨⟨key, queue⟩, found, rfl⟩ := Option.map_eq_some_iff.mp taken
        exact inv.get idle found
  | finish worker stamp now =>
      simp only [step, Option.bind_eq_some_iff] at taken
      obtain ⟨key, busy, taken⟩ := taken
      split at taken
      · rename_i times
        exact Option.some.inj taken ▸ inv.finish busy times.1 times.2
      · simp at taken

/-- What holds between any two events. A key in `states` waits in the queue or is with one worker;
a refused submission changes neither `states` nor the queue; a new key is queued exactly when there
is room and, unless it is a retry, the key was not finished recently. -/
structure Sound (config : Config) (system : CandidateSystem) : Prop where
  placed : ∀ key, key ∈ Dict.keys system.manager.states ↔
    (system.manager.queue.items.count key = 1 ∧ ∀ worker, (worker, key) ∉ system.working) ∨
      (key ∉ system.manager.queue.items ∧ ∃! worker, (worker, key) ∈ system.working)
  queuedOnce : ∀ key, system.manager.queue.items.count key ≤ 1
  workedOnce : ∀ key first second, (first, key) ∈ system.working →
    (second, key) ∈ system.working → first = second
  rollback : ∀ now wall key source peerHint retry,
    (system.manager.submit config now wall key source peerHint retry).1 = false →
      (system.manager.submit config now wall key source peerHint retry).2.states =
          system.manager.states ∧
        (system.manager.submit config now wall key source peerHint retry).2.queue =
          system.manager.queue
  admission : ∀ now wall key source peerHint retry, system.clock ≤ now → key.length = 20 →
    key ∉ Dict.keys system.manager.states →
      ((system.manager.submit config now wall key source peerHint retry).1 = true ↔
        system.manager.queue.full = false ∧ (retry = true ∨
          ¬ Recent (now - nanoseconds config.recentHashTtl) config.recentHashCacheSize
            system.finished key)) ∧
      (system.manager.submit config now wall key source peerHint retry).2.queue.items =
        if (system.manager.submit config now wall key source peerHint retry).1 then
          system.manager.queue.items ++ [key]
        else system.manager.queue.items

theorem Inv.unique_worker (inv : Inv config system) {key : Bytes} {first second : Nat}
    (left : (first, key) ∈ system.working) (right : (second, key) ∈ system.working) :
    first = second := by
  have distinct := (List.nodup_append.mp inv.places).2.1
  exact (Prod.mk.inj (List.inj_on_of_nodup_map distinct left right rfl)).1

theorem Inv.placed_iff (inv : Inv config system) (key : Bytes) :
    key ∈ Dict.keys system.manager.states ↔
      (system.manager.queue.items.count key = 1 ∧ ∀ worker, (worker, key) ∉ system.working) ∨
        (key ∉ system.manager.queue.items ∧ ∃! worker, (worker, key) ∈ system.working) := by
  obtain ⟨queueNodup, -, apart⟩ := List.nodup_append.mp inv.places
  rw [inv.states key, List.mem_append]
  constructor
  · rintro (queued | worked)
    · refine .inl ⟨List.count_eq_one_of_mem queueNodup queued, fun worker member => ?_⟩
      exact apart key queued key (List.mem_map_of_mem member) rfl
    · obtain ⟨⟨worker, _⟩, member, rfl⟩ := List.mem_map.mp worked
      refine .inr ⟨fun queued => apart _ queued _ worked rfl, worker, member, ?_⟩
      exact fun other also => inv.unique_worker also member
  · rintro (⟨once, -⟩ | ⟨-, worker, member, -⟩)
    · exact .inl (List.count_pos_iff.mp (by omega))
    · exact .inr (List.mem_map_of_mem member)

theorem Inv.admission (inv : Inv config system) {now wall : Int} {key : Bytes} {source : String}
    {peerHint : Option PeerHint} {retry : Bool} (passed : system.clock ≤ now)
    (length : key.length = 20) (absent : key ∉ Dict.keys system.manager.states) :
    ((system.manager.submit config now wall key source peerHint retry).1 = true ↔
        system.manager.queue.full = false ∧ (retry = true ∨
          ¬ Recent (now - nanoseconds config.recentHashTtl) config.recentHashCacheSize
            system.finished key)) ∧
      (system.manager.submit config now wall key source peerHint retry).2.queue.items =
        if (system.manager.submit config now wall key source peerHint retry).1 then
          system.manager.queue.items ++ [key]
        else system.manager.queue.items := by
  have seen_iff : key ∈ Dict.keys (system.manager.pruneRecent config now).recent ↔
      Recent (now - nanoseconds config.recentHashTtl) config.recentHashCacheSize
        system.finished key := (inv.recent.later passed).mem_prune key
  rw [← seen_iff]
  generalize outcome : system.manager.submit config now wall key source peerHint retry = result
  have submitted := outcome ▸
    CandidateManager.submit_submitted config now wall key source peerHint retry system.manager
  cases submitted with
  | malformed wrong => exact absurd length wrong
  | merged state _ known => exact absurd known absent
  | suppressed _ _ passive seen => exact ⟨by simp [passive, seen], rfl⟩
  | refused _ _ full => exact ⟨by simp [full], rfl⟩
  | queued state _ _ wanted room => simp [wanted, room]

theorem Inv.sound (inv : Inv config system) : Sound config system := by
  refine ⟨inv.placed_iff,
    List.nodup_iff_count_le_one.mp (List.nodup_append.mp inv.places).1,
    fun key first second => inv.unique_worker, ?_,
    fun now wall key source peerHint retry => inv.admission⟩
  intro now wall key source peerHint retry
  generalize outcome : system.manager.submit config now wall key source peerHint retry = result
  have submitted := outcome ▸
    CandidateManager.submit_submitted config now wall key source peerHint retry system.manager
  cases submitted <;> simp [CandidateManager.pruneRecent]

/-- Whatever producers and workers do in whatever order, no key is queued twice or worked on twice
and none is lost. -/
theorem run_sound (config : Config) (capacity start : Int) (events : List CandidateEvent)
    (ran : Transition.run (step config) (new capacity start) events = some system) :
    Sound config system :=
  (Transition.invariant_run (Inv config) (fun _ _ _ inv taken => step_inv inv taken) ran
    (new_inv config capacity start)).sound

theorem run_sound_sample :
    ∃ system, Transition.run (step {}) (new 1 0)
        [.submit 1 9 (List.replicate 20 1) "announce" none false, .get 0,
          .submit 2 9 (List.replicate 20 2) "announce" none false,
          .submit 2 9 (List.replicate 20 3) "announce" none false, .finish 0 3 3,
          .submit 4 9 (List.replicate 20 1) "announce" none false, .get 1] = some system ∧
      Sound {} system := by
  refine (Option.isSome_iff_exists.mp ?_).imp fun system ran => ⟨ran, run_sound {} 1 0 _ ran⟩
  rfl

end CandidateSystem

end PyDht
