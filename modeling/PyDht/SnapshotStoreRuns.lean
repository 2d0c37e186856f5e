import PyDht.SnapshotStore

set_option autoImplicit false

namespace PyDht

namespace SnapshotStore

variable {Record Content : Type} {target : SnapshotTarget Record Content}
  {good : Option Content → Prop}

theorem temporary_ne (target : SnapshotTarget Record Content) : target.path ≠ target.temporary := by
  intro same
  have lengths := congrArg String.length same
  rw [SnapshotTarget.temporary, String.length_append] at lengths
  have four : ".tmp".length = 4 := by decide
  omega

/-- What every state of the directory keeps: no file is both the temporary one and the snapshot,
and the present temporary one has never been the snapshot. -/
structure Sound (target : SnapshotTarget Record Content) (disk : Disk String Content) : Prop where
  fresh : disk.Fresh
  stored : ∀ file ∈ disk.synced, file ∈ Dict.keys disk.files
  apart : ∀ state ∈ disk.states, ∀ file, Dict.get? target.temporary state = some file →
    Dict.get? target.path state ≠ some file
  loose : ∀ file, Dict.get? target.temporary disk.directory = some file →
    disk.Apart file target.path

section sound

variable {disk : Disk String Content}

theorem Sound.write (sound : Sound target disk) (file : Nat) (content : Content) :
    Sound target (disk.write file content) := by
  refine ⟨sound.fresh, ?_, sound.apart, sound.loose⟩
  intro other member
  have before := sound.stored other (List.mem_filter.mp member).1
  rw [Dict.mem_keys_iff] at before ⊢
  show (Dict.get? other (Dict.set file content disk.files)).isSome = true
  rw [Dict.get?_set]
  split
  · rfl
  · exact before

theorem Sound.sync (sound : Sound target disk) {file : Nat} {content : Content}
    (written : Dict.get? file disk.files = some content) : Sound target (disk.sync file) := by
  refine ⟨sound.fresh, ?_, sound.apart, sound.loose⟩
  intro other member
  rcases List.mem_cons.mp member with here | before
  · rw [here]
    exact Dict.mem_keys_of_get? written
  · exact sound.stored other before

theorem Sound.syncDirectory (sound : Sound target disk) : Sound target disk.syncDirectory := by
  have present : ∀ state ∈ disk.syncDirectory.states, state ∈ disk.states := by
    intro state member
    rw [List.mem_singleton.mp member]
    exact List.mem_cons_self
  refine ⟨?_, sound.stored, ?_, ?_⟩
  · exact fun state member => sound.fresh state (present state member)
  · exact fun state member => sound.apart state (present state member)
  · exact fun file found state member => sound.loose file found state (present state member)

/-- The temporary file is there, and nobody finds it under the path of the snapshot. -/
theorem Sound.openWrite (sound : Sound target disk) (empty : Content) :
    Sound target (disk.openWrite empty target.temporary).2 ∧
      Dict.get? target.temporary (disk.openWrite empty target.temporary).2.directory =
        some (disk.openWrite empty target.temporary).1 := by
  unfold Disk.openWrite
  split
  · rename_i file found
    exact ⟨sound.write file empty, found⟩
  · have written := sound.write disk.next empty
    have different := temporary_ne target
    refine ⟨⟨?_, written.stored, ?_, ?_⟩, Dict.get?_set_self _ _ _⟩
    · intro state member name file found
      show file < disk.next + 1
      rcases List.mem_cons.mp member with here | before
      · rw [here, Dict.get?_set] at found
        split at found
        · cases found
          omega
        · have below := sound.fresh disk.directory List.mem_cons_self name file found
          omega
      · have below := sound.fresh state before name file found
        omega
    · intro state member file found
      rcases List.mem_cons.mp member with here | before
      · rw [here, Dict.get?_set_self] at found
        rw [here, Dict.get?_set_ne different]
        cases found
        exact Disk.Apart.next sound.fresh target.path disk.directory List.mem_cons_self
      · exact sound.apart state before file found
    · intro file found state member
      dsimp only at found
      rw [Dict.get?_set_self] at found
      cases found
      rcases List.mem_cons.mp member with here | before
      · rw [here, Dict.get?_set_ne different]
        exact Disk.Apart.next sound.fresh target.path disk.directory List.mem_cons_self
      · exact Disk.Apart.next sound.fresh target.path state before

/-- Behind the rename there is no temporary file. -/
theorem Sound.rename (sound : Sound target disk) {file : Nat}
    (found : Dict.get? target.temporary disk.directory = some file) :
    Sound target (disk.rename target.temporary target.path) ∧
      Dict.get? target.path (disk.rename target.temporary target.path).directory = some file := by
  have different := temporary_ne target
  unfold Disk.rename
  rw [found]
  refine ⟨⟨?_, sound.stored, ?_, ?_⟩, Dict.get?_set_self _ _ _⟩
  · intro state member name other there
    rcases List.mem_cons.mp member with here | before
    · rw [here, Dict.get?_set] at there
      split at there
      · cases there
        exact sound.fresh disk.directory List.mem_cons_self target.temporary file found
      · by_cases same : name = target.temporary
        · rw [same, Dict.get?_pop_self] at there
          cases there
        · rw [Dict.get?_pop_ne same] at there
          exact sound.fresh disk.directory List.mem_cons_self name other there
    · exact sound.fresh state before name other there
  · intro state member other there
    rcases List.mem_cons.mp member with here | before
    · rw [here, Dict.get?_set_ne different.symm, Dict.get?_pop_self] at there
      cases there
    · exact sound.apart state before other there
  · intro other there
    dsimp only at there
    rw [Dict.get?_set_ne different.symm, Dict.get?_pop_self] at there
    cases there

theorem Sound.powerLoss (sound : Sound target disk) {state : List (String × Nat)}
    (possible : state ∈ disk.states) (remains : Nat → Content) :
    Sound target (disk.powerLoss state remains) := by
  refine ⟨?_, ?_, ?_, ?_⟩
  · intro present member
    rw [List.mem_singleton.mp member]
    exact sound.fresh state possible
  · intro file member
    show file ∈ Dict.keys (disk.files.map _)
    rw [Dict.keys, List.map_map]
    exact member
  · intro present member
    rw [List.mem_singleton.mp member]
    exact sound.apart state possible
  · intro file found present member
    rw [List.mem_singleton.mp member]
    exact sound.apart state possible file found

end sound

/-- What has been done when the call is at its stage. -/
def Reached (target : SnapshotTarget Record Content) (disk : Disk String Content)
    (job : SnapshotJob Record) : Prop :=
  match job.stage with
  | .opening => True
  | .writing file => Dict.get? target.temporary disk.directory = some file
  | .syncing file =>
      Dict.get? target.temporary disk.directory = some file ∧
        Dict.get? file disk.files = some (target.render job.records)
  | .replacing =>
      ∃ file, Dict.get? target.temporary disk.directory = some file ∧ file ∈ disk.synced ∧
        Dict.get? file disk.files = some (target.render job.records)
  | .openingDirectory | .syncingDirectory =>
      ∃ file, Dict.get? target.path disk.directory = some file ∧
        Dict.get? file disk.files = some (target.render job.records)

structure Inv (target : SnapshotTarget Record Content) (good : Option Content → Prop)
    (store : SnapshotStore Record Content) : Prop where
  sound : Sound target store.disk
  holds : store.disk.Holds good target.path
  job : ∀ job, store.job = some job →
    good (some (target.render job.records)) ∧ Reached target store.disk job ∧ store.ended = none
  last : ∀ records, store.ended = some (.synced records) →
    store.disk.Holds (· = some (target.render records)) target.path

variable {store next : SnapshotStore Record Content} {job : SnapshotJob Record}

/-- A call at its first system call. -/
theorem Inv.opening (sound : Sound target store.disk) (holds : store.disk.Holds good target.path)
    (found : store.job = some job) (first : job.stage = .opening)
    (welcome : good (some (target.render job.records))) (ended : store.ended = none) :
    Inv target good store := by
  refine ⟨sound, holds, ?_, ?_⟩
  · intro other there
    cases Option.some.inj (found.symm.trans there)
    refine ⟨welcome, ?_, ended⟩
    rw [Reached, first]
    trivial
  · intro records synced
    rw [ended] at synced
    cases synced

/-- No call is under way, and nothing is promised. -/
theorem Inv.resting (sound : Sound target store.disk) (holds : store.disk.Holds good target.path)
    (none_ : store.job = none) (ended : ∀ records, store.ended ≠ some (.synced records)) :
    Inv target good store := by
  refine ⟨sound, holds, ?_, ?_⟩
  · intro other there
    rw [none_] at there
    cases there
  · intro records synced
    exact absurd synced (ended records)

/-- A call goes on to a stage that it has reached. -/
theorem Inv.goesOn (sound : Sound target next.disk) (holds : next.disk.Holds good target.path)
    (found : next.job = some job) (welcome : good (some (target.render job.records)))
    (reached : Reached target next.disk job) (ended : next.ended = none) :
    Inv target good next := by
  refine ⟨sound, holds, ?_, ?_⟩
  · intro other there
    cases Option.some.inj (found.symm.trans there)
    exact ⟨welcome, reached, ended⟩
  · intro records synced
    rw [ended] at synced
    cases synced

theorem Inv.succeed (inv : Inv target good store) (found : store.job = some job) :
    Inv target good (store.succeed target job) := by
  rcases inv.job job found with ⟨welcome, reached, ended⟩
  have different := temporary_ne target
  unfold Reached at reached
  unfold SnapshotStore.succeed
  cases here : job.stage with
  | opening =>
      rcases inv.sound.openWrite target.empty with ⟨sound, opened⟩
      refine .goesOn sound ?_ rfl welcome opened ended
      exact inv.holds.openWrite inv.sound.fresh different inv.sound.loose target.empty
  | writing file =>
      rw [here] at reached
      refine .goesOn (inv.sound.write file _) ?_ rfl welcome ⟨reached, ?_⟩ ended
      · exact inv.holds.write (inv.sound.loose file reached) _
      · exact Dict.get?_set_self _ _ _
  | syncing file =>
      rw [here] at reached
      refine .goesOn (inv.sound.sync reached.2) (inv.holds.sync file) rfl welcome ?_ ended
      exact ⟨file, reached.1, List.mem_cons_self, reached.2⟩
  | replacing =>
      rw [here] at reached
      rcases reached with ⟨file, there, synced, written⟩
      rcases inv.sound.rename there with ⟨sound, renamed⟩
      have kept : (store.disk.rename target.temporary target.path).files = store.disk.files := by
        unfold Disk.rename
        split <;> rfl
      refine .goesOn sound ?_ rfl welcome ⟨file, renamed, ?_⟩ ended
      · exact inv.holds.rename there synced (written ▸ welcome)
      · exact (congrArg (Dict.get? file) kept).trans written
  | openingDirectory =>
      rw [here] at reached
      exact .goesOn inv.sound inv.holds rfl welcome reached ended
  | syncingDirectory =>
      rw [here] at reached
      rcases reached with ⟨file, there, written⟩
      refine ⟨inv.sound.syncDirectory, inv.holds.syncDirectory, ?_, ?_⟩
      · intro other waits
        cases waits
      · intro records synced state member
        cases synced
        rw [List.mem_singleton.mp member]
        show Disk.Stands _ _ (Dict.get? target.path store.disk.directory)
        have stands := inv.holds store.disk.directory List.mem_cons_self
        rw [there] at stands ⊢
        exact ⟨stands.1, written⟩

/-- A failed system call leads to the next attempt or to the end, over a disk that is as sound. -/
theorem Inv.raises (inv : Inv target good store) (found : store.job = some job)
    {disk : Disk String Content} (sound : Sound target disk)
    (holds : disk.Holds good target.path) (isOsError : Bool) :
    Inv target good (SnapshotStore.raises target disk job isOsError) := by
  unfold SnapshotStore.raises
  split
  · exact .opening sound holds rfl rfl (inv.job job found).1 rfl
  · exact .resting sound holds rfl fun records same => by cases same

theorem Inv.fail (inv : Inv target good store) (found : store.job = some job) (isOsError : Bool)
    (written : Content) : Inv target good (store.fail target job isOsError written) := by
  have reached := (inv.job job found).2.1
  unfold Reached at reached
  unfold SnapshotStore.fail
  split
  · rename_i file here
    rw [here] at reached
    exact inv.raises found (inv.sound.write file written)
      (inv.holds.write (inv.sound.loose file reached) written) isOsError
  · split
    · exact .resting inv.sound inv.holds rfl fun records same => by cases same
    · exact inv.raises found inv.sound inv.holds isOsError
  · exact inv.raises found inv.sound inv.holds isOsError

theorem Inv.abandon (inv : Inv target good store) (written : Content) :
    Sound target (store.abandon written) ∧ (store.abandon written).Holds good target.path := by
  unfold SnapshotStore.abandon
  split
  · rename_i file waits
    rcases Option.map_eq_some_iff.mp waits with ⟨job, found, here⟩
    have reached := (inv.job job found).2.1
    rw [Reached, here] at reached
    exact ⟨inv.sound.write file written,
      inv.holds.write (inv.sound.loose file reached) written⟩
  · exact ⟨inv.sound, inv.holds⟩

/-- A step keeps what may be found good, when the records that it takes are. -/
theorem Inv.step (inv : Inv target good store) {event : SnapshotEvent Record Content}
    (welcome : ∀ records, event = .snapshot records → good (some (target.render records)))
    (taken : store.step target event = some next) : Inv target good next := by
  cases event with
  | snapshot records =>
      simp only [SnapshotStore.step] at taken
      split at taken <;> cases taken
      exact .opening inv.sound inv.holds rfl rfl (welcome records rfl) rfl
  | succeed =>
      rcases Option.map_eq_some_iff.mp taken with ⟨job, found, rfl⟩
      exact inv.succeed found
  | fail isOsError written =>
      rcases Option.map_eq_some_iff.mp taken with ⟨job, found, rfl⟩
      exact inv.fail found isOsError written
  | kill written =>
      cases taken
      rcases inv.abandon written with ⟨sound, holds⟩
      exact .resting sound holds rfl fun records same => by cases same
  | powerLoss state remains =>
      rcases Option.map_eq_some_iff.mp taken with ⟨directory, there, rfl⟩
      have possible := List.mem_of_getElem? there
      exact .resting (inv.sound.powerLoss possible remains)
        (inv.holds.powerLoss possible remains inv.sound.stored) rfl
        fun records same => by cases same

theorem Inv.run {events : List (SnapshotEvent Record Content)}
    (welcome : ∀ records, .snapshot records ∈ events → good (some (target.render records)))
    (ran : Transition.run (SnapshotStore.step target) store events = some next)
    (inv : Inv target good store) : Inv target good next := by
  let allowed : SnapshotStore Record Content → SnapshotEvent Record Content → Prop :=
    fun _ event => ∀ records, event = .snapshot records → good (some (target.render records))
  have along : Transition.Along allowed (SnapshotStore.step target) store events := by
    apply Transition.along_of_mem
    intro event member _ records same
    exact welcome records (same ▸ member)
  exact Transition.invariant_along (Inv target good)
    (fun _ event _ inv allowed taken => inv.step allowed taken) along ran inv

/-- What is found is what was there, or a snapshot that was asked for, as a whole. -/
def Whole (target : SnapshotTarget Record Content) (before : Option Content)
    (events : List (SnapshotEvent Record Content)) (found : Option Content) : Prop :=
  found = before ∨
    ∃ records, .snapshot records ∈ events ∧ found = some (target.render records)

/-- In every run of snapshots, with any failing system calls, any ends of the process and any
losses of power between two of them, a reader finds under the path what was there first or the
whole text of a snapshot; and when a snapshot has been synced, that snapshot or a later one. -/
theorem run_atomic (target : SnapshotTarget Record Content) (disk : Disk String Content)
    (sound : Sound target disk) (first : Option Content)
    (holds : disk.Holds (· = first) target.path)
    (before after : List (SnapshotEvent Record Content)) (middle final : SnapshotStore Record Content)
    (reached : Transition.run (SnapshotStore.step target) { disk } before = some middle)
    (ran : Transition.run (SnapshotStore.step target) middle after = some final) :
    Whole target first (before ++ after) (final.disk.read target.path) ∧
      ∀ records, middle.ended = some (.synced records) →
        Whole target (some (target.render records)) after (final.disk.read target.path) := by
  have start : ∀ events, Inv target (Whole target first events)
      ({ disk } : SnapshotStore Record Content) := by
    intro events
    exact .resting sound (holds.mono fun found same => .inl same) rfl
      fun records same => by cases same
  constructor
  · have whole := Transition.run_append.mpr ⟨middle, reached, ran⟩
    have inv := (start (before ++ after)).run
      (fun records member => .inr ⟨records, member, rfl⟩) whole
    exact inv.holds.read
  · intro records synced
    have half := (start before).run (fun records member => .inr ⟨records, member, rfl⟩) reached
    have settled : Inv target (Whole target (some (target.render records)) after) middle := by
      refine ⟨half.sound, (half.last records synced).mono fun found same => .inl same, ?_,
        half.last⟩
      intro job found
      have ended := (half.job job found).2.2
      rw [synced] at ended
      cases ended
    exact (settled.run (fun records member => .inr ⟨records, member, rfl⟩) ran).holds.read

/-- Snapshots of numbers, one attempt each. -/
def sampleTarget : SnapshotTarget Nat (List Nat) :=
  { path := "routing.jsonl", render := id, empty := [], retryCount := 1 }

/-- A snapshot is written and synced. -/
def sampleSynced : List (SnapshotEvent Nat (List Nat)) :=
  .snapshot [1, 2] :: List.replicate 6 .succeed

/-- The next one fails once, is renamed, and the power is lost before the directory is synced. -/
def sampleLost : List (SnapshotEvent Nat (List Nat)) :=
  [.snapshot [3], .succeed, .fail true [9], .succeed, .succeed, .succeed, .succeed,
    .powerLoss 1 fun _ => [7]]

theorem empty_sound {Record Content : Type} (target : SnapshotTarget Record Content) :
    Sound target {} := by
  constructor <;> simp [Disk.Fresh, Disk.states, Dict.get?]

theorem empty_holds (path : String) :
    Disk.Holds (· = none) path ({} : Disk String (List Nat)) := by
  intro state member
  rw [List.mem_singleton.mp member]
  rfl

theorem run_atomic_sample :
    ∃ middle final,
      Transition.run (SnapshotStore.step sampleTarget) { disk := {} } sampleSynced = some middle ∧
      Transition.run (SnapshotStore.step sampleTarget) middle sampleLost = some final ∧
      final.disk.read "routing.jsonl" = some [1, 2] ∧
      Whole sampleTarget (some [1, 2]) sampleLost (final.disk.read "routing.jsonl") := by
  have checked : ((Transition.run (SnapshotStore.step sampleTarget) { disk := {} }
      sampleSynced).bind fun middle =>
        (Transition.run (SnapshotStore.step sampleTarget) middle sampleLost).map fun final =>
          decide (middle.ended = some (.synced [1, 2]) ∧
            final.disk.read "routing.jsonl" = some [1, 2])) = some true := by decide +kernel
  rcases Option.bind_eq_some_iff.mp checked with ⟨middle, reached, checked⟩
  rcases Option.map_eq_some_iff.mp checked with ⟨final, ran, facts⟩
  have known := of_decide_eq_true facts
  exact ⟨middle, final, reached, ran, known.2,
    (run_atomic sampleTarget {} (empty_sound sampleTarget) none (empty_holds _) _ _ middle final
      reached ran).2 [1, 2] known.1⟩

end SnapshotStore

end PyDht
