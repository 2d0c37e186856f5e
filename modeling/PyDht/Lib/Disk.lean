import PyDht.Lib.Collections

set_option autoImplicit false

/-! A directory of files on a disk. Whoever reads sees every change at once. What a power loss
leaves is less: of the directory one of the states since it was last synced, of a file that was
not synced anything. -/

structure Disk (Name Content : Type) where
  /-- What is read, by the number of the file. -/
  files : List (Nat × Content) := []
  /-- The files whose content is on the disk. -/
  synced : List Nat := []
  directory : List (Name × Nat) := []
  /-- The states of the directory before the present one that may still come back. -/
  older : List (List (Name × Nat)) := []
  /-- The number of the next new file. -/
  next : Nat := 0
deriving DecidableEq, Repr

namespace Disk

variable {Name Content : Type} [DecidableEq Name]

def states (disk : Disk Name Content) : List (List (Name × Nat)) := disk.directory :: disk.older

def read (name : Name) (disk : Disk Name Content) : Option Content :=
  (Dict.get? name disk.directory).bind fun file => Dict.get? file disk.files

def write (file : Nat) (content : Content) (disk : Disk Name Content) : Disk Name Content :=
  { disk with
    files := Dict.set file content disk.files
    synced := disk.synced.filter (· ≠ file) }

/-- Opening for writing: a file that is there is emptied, else there is a new one. -/
def openWrite (empty : Content) (name : Name) (disk : Disk Name Content) :
    Nat × Disk Name Content :=
  match Dict.get? name disk.directory with
  | some file => (file, disk.write file empty)
  | none =>
      (disk.next,
        { (disk.write disk.next empty) with
          directory := Dict.set name disk.next disk.directory
          older := disk.states
          next := disk.next + 1 })

/-- `fsync` of a file. -/
def sync (file : Nat) (disk : Disk Name Content) : Disk Name Content :=
  { disk with synced := file :: disk.synced }

/-- The file gets the name `target`, whatever had it before. -/
def rename (source target : Name) (disk : Disk Name Content) : Disk Name Content :=
  match Dict.get? source disk.directory with
  | none => disk
  | some file =>
      { disk with
        directory := Dict.set target file (Dict.pop source disk.directory)
        older := disk.states }

/-- `fsync` of the directory. -/
def syncDirectory (disk : Disk Name Content) : Disk Name Content := { disk with older := [] }

/-- A power loss that brings back a state of the directory. -/
def powerLoss (state : List (Name × Nat)) (remains : Nat → Content) (disk : Disk Name Content) :
    Disk Name Content :=
  { disk with
    files := disk.files.map fun entry =>
      (entry.1, if entry.1 ∈ disk.synced then entry.2 else remains entry.1)
    synced := Dict.keys disk.files
    directory := state
    older := [] }

/-- The name that stands for this file, or for none, is found with something good on the disk. -/
def Stands (good : Option Content → Prop) (disk : Disk Name Content) : Option Nat → Prop
  | none => good none
  | some file => file ∈ disk.synced ∧ good (Dict.get? file disk.files)

/-- What is found under the name is good and on the disk, whatever state of the directory comes
back. -/
def Holds (good : Option Content → Prop) (name : Name) (disk : Disk Name Content) : Prop :=
  ∀ state ∈ disk.states, disk.Stands good (Dict.get? name state)

/-- No state of the directory has the file under the name. -/
def Apart (file : Nat) (name : Name) (disk : Disk Name Content) : Prop :=
  ∀ state ∈ disk.states, Dict.get? name state ≠ some file

/-- The numbers of new files are new. -/
def Fresh (disk : Disk Name Content) : Prop :=
  ∀ state ∈ disk.states, ∀ name file, Dict.get? name state = some file → file < disk.next

variable {good : Option Content → Prop} {name other : Name} {disk : Disk Name Content}

theorem Holds.read (holds : disk.Holds good name) : good (disk.read name) := by
  have here := holds disk.directory List.mem_cons_self
  unfold Disk.read
  cases found : Dict.get? name disk.directory with
  | none =>
      rw [found] at here
      exact here
  | some file =>
      rw [found] at here
      exact here.2

theorem Holds.mono {more : Option Content → Prop} (holds : disk.Holds good name)
    (implies : ∀ found, good found → more found) : disk.Holds more name := by
  intro state member
  have here := holds state member
  cases found : Dict.get? name state with
  | none =>
      rw [found] at here
      exact implies _ here
  | some file =>
      rw [found] at here
      exact ⟨here.1, implies _ here.2⟩

/-- A disk with the same files of which no more states may come back. -/
theorem Holds.fewer (holds : disk.Holds good name) {later : Disk Name Content}
    (files : later.files = disk.files) (synced : ∀ file ∈ disk.synced, file ∈ later.synced)
    (states : ∀ state ∈ later.states, state ∈ disk.states) : later.Holds good name := by
  intro state member
  have here := holds state (states state member)
  cases found : Dict.get? name state with
  | none =>
      rw [found] at here
      exact here
  | some file =>
      rw [found] at here
      exact ⟨synced file here.1, files.symm ▸ here.2⟩

theorem Holds.sync (holds : disk.Holds good name) (file : Nat) :
    (disk.sync file).Holds good name :=
  holds.fewer rfl (fun _ member => List.mem_cons_of_mem _ member) fun _ member => member

theorem Holds.syncDirectory (holds : disk.Holds good name) :
    disk.syncDirectory.Holds good name := by
  refine holds.fewer rfl (fun _ member => member) fun state member => ?_
  rw [List.mem_singleton.mp member]
  exact List.mem_cons_self

/-- Writing to a file that the name never stands for. -/
theorem Holds.write (holds : disk.Holds good name) {file : Nat} (apart : disk.Apart file name)
    (content : Content) : (disk.write file content).Holds good name := by
  intro state member
  have here := holds state member
  have elsewhere := apart state member
  cases found : Dict.get? name state with
  | none =>
      rw [found] at here
      exact here
  | some stands =>
      rw [found] at here elsewhere
      have different : stands ≠ file := fun same => elsewhere (congrArg some same)
      refine ⟨List.mem_filter.mpr ⟨here.1, by simpa using different⟩, ?_⟩
      show good (Dict.get? stands (Dict.set file content disk.files))
      rw [Dict.get?_set_ne different]
      exact here.2

theorem Apart.next (fresh : disk.Fresh) (name : Name) : disk.Apart disk.next name := by
  intro state member stands
  have below := fresh state member name disk.next stands
  omega

/-- Opening another name for writing, whose file the name never stands for. -/
theorem Holds.openWrite (holds : disk.Holds good name) (fresh : disk.Fresh)
    (different : name ≠ other)
    (apart : ∀ file, Dict.get? other disk.directory = some file → disk.Apart file name)
    (empty : Content) : (disk.openWrite empty other).2.Holds good name := by
  unfold Disk.openWrite
  split
  · rename_i file found
    exact holds.write (apart file found) empty
  · have written := holds.write (Apart.next fresh name) empty
    intro state member
    rcases List.mem_cons.mp member with here | before
    · have present := written disk.directory List.mem_cons_self
      rw [here, Dict.get?_set_ne different]
      exact present
    · exact written state before

/-- The rename of a file that is on the disk. -/
theorem Holds.rename (holds : disk.Holds good name) {source : Name} {file : Nat}
    (found : Dict.get? source disk.directory = some file) (synced : file ∈ disk.synced)
    (written : good (Dict.get? file disk.files)) : (disk.rename source name).Holds good name := by
  unfold Disk.rename
  rw [found]
  intro state member
  rcases List.mem_cons.mp member with here | before
  · rw [here, Dict.get?_set_self]
    exact ⟨synced, written⟩
  · exact holds state before

theorem get?_remains (entries : List (Nat × Content)) (synced : List Nat)
    (remains : Nat → Content) {file : Nat} (kept : file ∈ synced) :
    Dict.get? file (entries.map fun entry =>
      (entry.1, if entry.1 ∈ synced then entry.2 else remains entry.1)) =
      Dict.get? file entries := by
  induction entries with
  | nil => rfl
  | cons entry entries ih =>
      rw [List.map_cons, Dict.get?_cons, Dict.get?_cons, ih]
      by_cases here : entry.1 = file
      · simp [here, kept]
      · simp [here]

/-- What is found after a power loss is good, and nothing can be lost any more. -/
theorem Holds.powerLoss (holds : disk.Holds good name) {state : List (Name × Nat)}
    (possible : state ∈ disk.states) (remains : Nat → Content)
    (stored : ∀ file ∈ disk.synced, file ∈ Dict.keys disk.files) :
    (disk.powerLoss state remains).Holds good name := by
  intro present member
  rw [List.mem_singleton.mp member]
  show (disk.powerLoss state remains).Stands good (Dict.get? name state)
  have here := holds state possible
  cases found : Dict.get? name state with
  | none =>
      rw [found] at here
      exact here
  | some file =>
      rw [found] at here
      refine ⟨stored file here.1, ?_⟩
      show good (Dict.get? file (disk.files.map _))
      rw [get?_remains disk.files disk.synced remains here.1]
      exact here.2

end Disk
