import Mathlib.Algebra.BigOperators.Group.List.Basic
import Mathlib.Algebra.GroupWithZero.Nat
import PyDht.JsonlWriter

set_option autoImplicit false

namespace PyDht

/-- The files of the writer: the event file, its backups `.1`, `.2`, …, and the routing snapshot with
its temporary file. -/
inductive JsonlFile where
  | events
  | backup (index : Nat)
  | routing
  | routingTmp
deriving DecidableEq, Repr

/-- The records of each file that there is. -/
abbrev JsonlDirectory (Record : Type) := List (JsonlFile × List Record)

/-- `DHT_JSONL_BACKUP_COUNT` and `DHT_JSONL_MAX_BYTES`, with the bytes that a record takes as a
line. -/
structure RotationLimits (Record : Type) where
  backupCount : Nat
  maxBytes : Nat
  lineBytes : Record → Nat

variable {Record : Type}

namespace RotationLimits

/-- `st_size` of a file with these records. -/
def size (limits : RotationLimits Record) (records : List Record) : Nat :=
  (records.map limits.lineBytes).sum

end RotationLimits

namespace JsonlDirectory

/-- `os.replace`, of a file that is there. -/
def replace (source target : JsonlFile) (directory : JsonlDirectory Record) :
    JsonlDirectory Record :=
  match Dict.get? source directory with
  | some records => Dict.set target records (Dict.pop source directory)
  | none => directory

/-- The loop of `_rotate`, from an index down to 1. -/
def shift (backupCount : Nat) : Nat → JsonlDirectory Record → JsonlDirectory Record
  | 0, directory => directory
  | index + 1, directory =>
      shift backupCount index
        (if index + 1 = backupCount then Dict.pop (.backup (index + 1)) directory
        else replace (.backup (index + 1)) (.backup (index + 2)) directory)

/-- `_rotate`. -/
def rotate (limits : RotationLimits Record) (directory : JsonlDirectory Record) :
    JsonlDirectory Record :=
  match Dict.get? JsonlFile.events directory with
  | none => directory
  | some records =>
      if limits.size records < limits.maxBytes then directory
      else
        let directory := shift limits.backupCount limits.backupCount directory
        if 0 < limits.backupCount then replace .events (.backup 1) directory else directory

/-- An event in `_run`: the line is appended, to a new file if there is none, and a file that has
reached the limit is rotated away. -/
def writeEvent (limits : RotationLimits Record) (record : Record)
    (directory : JsonlDirectory Record) : JsonlDirectory Record :=
  let records := (Dict.get? JsonlFile.events directory).getD [] ++ [record]
  let directory := Dict.set .events records directory
  if limits.maxBytes ≤ limits.size records then rotate limits directory else directory

/-- `_write_snapshot`. -/
def writeSnapshot (records : List Record) (directory : JsonlDirectory Record) :
    JsonlDirectory Record :=
  replace .routingTmp .routing (Dict.set .routingTmp records directory)

/-- The records of the files `.N`, …, `.1` and of the event file, in this order. -/
def evidence (backupCount : Nat) (directory : JsonlDirectory Record) : List Record :=
  ((List.range backupCount).reverse.flatMap fun index =>
      (Dict.get? (JsonlFile.backup (index + 1)) directory).getD []) ++
    (Dict.get? JsonlFile.events directory).getD []

end JsonlDirectory

/-- What the files hold after some rotations: `rotated` are the event files of all rotations, the
last of them in `.1`, and `current` are the records since then. -/
structure Rotated (limits : RotationLimits Record) (rotated : List (List Record))
    (current : List Record) (directory : JsonlDirectory Record) : Prop where
  events : Dict.get? JsonlFile.events directory = if current.isEmpty then none else some current
  first : Dict.get? (JsonlFile.backup 0) directory = none
  backups : ∀ index, Dict.get? (JsonlFile.backup (index + 1)) directory =
    if index < limits.backupCount then rotated.reverse[index]? else none

namespace JsonlDirectory

/-- A file is moved to a place that is free. -/
theorem get?_replace_free (source : JsonlFile) {target : JsonlFile}
    {directory : JsonlDirectory Record} (free : Dict.get? target directory = none)
    (other : JsonlFile) :
    Dict.get? other (replace source target directory) =
      if other = target then Dict.get? source directory
      else if other = source then none else Dict.get? other directory := by
  unfold replace
  cases found : Dict.get? source directory with
  | none =>
      dsimp only
      by_cases isTarget : other = target
      · rw [if_pos isTarget, isTarget, free]
      · by_cases isSource : other = source
        · rw [if_neg isTarget, if_pos isSource, isSource, found]
        · rw [if_neg isTarget, if_neg isSource]
  | some records =>
      dsimp only
      rw [Dict.get?_set]
      by_cases isTarget : other = target
      · rw [if_pos isTarget, if_pos isTarget]
      · rw [if_neg isTarget, if_neg isTarget]
        by_cases isSource : other = source
        · rw [if_pos isSource, isSource, Dict.get?_pop_self]
        · rw [if_neg isSource, Dict.get?_pop_ne isSource]

theorem get?_replace_other {source target other : JsonlFile} (notSource : other ≠ source)
    (notTarget : other ≠ target) (directory : JsonlDirectory Record) :
    Dict.get? other (replace source target directory) = Dict.get? other directory := by
  unfold replace
  split
  · rw [Dict.get?_set_ne notTarget, Dict.get?_pop_ne notSource]
  · rfl

/-- The loop touches nothing but the backups. -/
theorem get?_shift_other (backupCount index : Nat) {other : JsonlFile}
    (different : ∀ number, other ≠ .backup (number + 1)) (directory : JsonlDirectory Record) :
    Dict.get? other (shift backupCount index directory) = Dict.get? other directory := by
  induction index generalizing directory with
  | zero => rfl
  | succ index ih =>
      rw [shift, ih]
      split
      · exact Dict.get?_pop_ne (different index) directory
      · exact get?_replace_other (different index) (different (index + 1)) directory

/-- Below the oldest backup each of them moves up by one. -/
theorem get?_shift_below {backupCount index : Nat} (below : index < backupCount)
    {directory : JsonlDirectory Record}
    (free : Dict.get? (JsonlFile.backup (index + 1)) directory = none) (number : Nat) :
    Dict.get? (JsonlFile.backup (number + 1)) (shift backupCount index directory) =
      if number = 0 then none
      else if number ≤ index then Dict.get? (JsonlFile.backup number) directory
      else Dict.get? (JsonlFile.backup (number + 1)) directory := by
  induction index generalizing directory with
  | zero =>
      by_cases first : number = 0
      · rw [if_pos first, first]
        exact free
      · rw [if_neg first, if_neg (by omega)]
        rfl
  | succ index ih =>
      have moved := get?_replace_free (.backup (index + 1)) free
      have emptied : Dict.get? (JsonlFile.backup (index + 1))
          (replace (.backup (index + 1)) (.backup (index + 2)) directory) = none := by
        rw [moved, if_neg (by simp), if_pos rfl]
      rw [shift, if_neg (by omega), ih (by omega) emptied]
      by_cases first : number = 0
      · rw [if_pos first, if_pos first]
      · rw [if_neg first, if_neg first]
        rw [moved, moved]
        by_cases low : number ≤ index
        · rw [if_pos low, if_pos (Nat.le_succ_of_le low), if_neg (by simp; omega),
            if_neg (by simp; omega)]
        · rw [if_neg low]
          by_cases top : number = index + 1
          · rw [if_pos (by simp; omega), if_pos (by omega), top]
          · rw [if_neg (by simp; omega), if_neg (by simp; omega), if_neg (by omega)]

/-- The whole loop gives up the oldest backup. -/
theorem get?_shift {backupCount : Nat} (some_backup : 1 ≤ backupCount)
    (directory : JsonlDirectory Record) (number : Nat) :
    Dict.get? (JsonlFile.backup (number + 1)) (shift backupCount backupCount directory) =
      if number = 0 then none
      else if number < backupCount then Dict.get? (JsonlFile.backup number) directory
      else Dict.get? (JsonlFile.backup (number + 1)) directory := by
  obtain ⟨index, rfl⟩ : ∃ index, backupCount = index + 1 := ⟨backupCount - 1, by omega⟩
  rw [shift, if_pos rfl, get?_shift_below (Nat.lt_succ_self index) (Dict.get?_pop_self _ _)]
  by_cases first : number = 0
  · rw [if_pos first, if_pos first]
  · rw [if_neg first, if_neg first]
    by_cases low : number ≤ index
    · rw [if_pos low, if_pos (Nat.lt_succ_of_le low), Dict.get?_pop_ne (by simp; omega)]
    · rw [if_neg low, if_neg (by omega), Dict.get?_pop_ne (by simp; omega)]

end JsonlDirectory

section rotated

open JsonlDirectory

variable {limits : RotationLimits Record} {rotated : List (List Record)} {current : List Record}
  {directory : JsonlDirectory Record}

/-- A directory with the same event files. -/
theorem Rotated.congr (holds : Rotated limits rotated current directory)
    {other : JsonlDirectory Record}
    (events : Dict.get? JsonlFile.events other = Dict.get? JsonlFile.events directory)
    (backups : ∀ index, Dict.get? (JsonlFile.backup index) other =
      Dict.get? (JsonlFile.backup index) directory) : Rotated limits rotated current other :=
  ⟨events.trans holds.events, (backups 0).trans holds.first,
    fun index => (backups (index + 1)).trans (holds.backups index)⟩

/-- A rotation makes the event file the newest backup. -/
theorem Rotated.rotate (some_backup : 1 ≤ limits.backupCount)
    (holds : Rotated limits rotated current directory) (filled : current ≠ [])
    (large : limits.maxBytes ≤ limits.size current) :
    Rotated limits (rotated ++ [current]) [] (rotate limits directory) := by
  have present : Dict.get? JsonlFile.events directory = some current := by
    rw [holds.events, if_neg (by simpa using filled)]
  have shifted := get?_shift some_backup directory
  have free : Dict.get? (JsonlFile.backup 1)
      (shift limits.backupCount limits.backupCount directory) = none := by
    rw [shifted, if_pos rfl]
  have moved := get?_replace_free .events free
  have other : ∀ file, (∀ number, file ≠ JsonlFile.backup (number + 1)) →
      Dict.get? file (shift limits.backupCount limits.backupCount directory) =
        Dict.get? file directory :=
    fun file different => get?_shift_other _ _ different directory
  have result : JsonlDirectory.rotate limits directory =
      replace .events (.backup 1) (shift limits.backupCount limits.backupCount directory) := by
    unfold JsonlDirectory.rotate
    rw [present]
    dsimp only
    rw [if_neg (by omega), if_pos (by omega)]
  rw [result]
  constructor
  · rw [moved, if_neg (by simp), if_pos rfl]
    rfl
  · rw [moved, if_neg (by simp), if_neg (by simp), other _ (by simp), holds.first]
  · intro index
    rw [List.reverse_append, List.reverse_singleton, List.singleton_append, moved]
    cases index with
    | zero =>
        rw [if_pos rfl, other _ (by simp), present, if_pos (by omega)]
        rfl
    | succ index =>
        rw [if_neg (by simp), if_neg (by simp), shifted, if_neg (by omega),
          List.getElem?_cons_succ, holds.backups, holds.backups]
        by_cases low : index + 1 < limits.backupCount
        · rw [if_pos low, if_pos (by omega), if_pos low]
        · rw [if_neg low, if_neg low, if_neg low]

/-- An event is added to the records since the last rotation. -/
theorem Rotated.writeEvent (some_backup : 1 ≤ limits.backupCount)
    (holds : Rotated limits rotated current directory) (record : Record) :
    if limits.maxBytes ≤ limits.size (current ++ [record]) then
      Rotated limits (rotated ++ [current ++ [record]]) [] (writeEvent limits record directory)
    else Rotated limits rotated (current ++ [record]) (writeEvent limits record directory) := by
  have before : (Dict.get? JsonlFile.events directory).getD [] = current := by
    rw [holds.events]
    cases current <;> rfl
  have written : Rotated limits rotated (current ++ [record])
      (Dict.set .events (current ++ [record]) directory) := by
    constructor
    · rw [Dict.get?_set_self, if_neg (by simp)]
    · rw [Dict.get?_set_ne (by simp), holds.first]
    · intro index
      rw [Dict.get?_set_ne (by simp), holds.backups]
  unfold JsonlDirectory.writeEvent
  rw [before]
  dsimp only
  split
  · rename_i large
    exact written.rotate some_backup (by simp) large
  · exact written

/-- A snapshot goes to files of its own. -/
theorem Rotated.writeSnapshot (holds : Rotated limits rotated current directory)
    (records : List Record) : Rotated limits rotated current (writeSnapshot records directory) := by
  have kept : ∀ file : JsonlFile, file ≠ .routingTmp → file ≠ .routing →
      Dict.get? file (JsonlDirectory.writeSnapshot records directory) =
        Dict.get? file directory := by
    intro file notTmp notRouting
    unfold JsonlDirectory.writeSnapshot
    rw [get?_replace_other notTmp notRouting, Dict.get?_set_ne notTmp]
  exact holds.congr (kept _ (by simp) (by simp)) fun index => kept _ (by simp) (by simp)

/-- Counting down from a number one reads the first elements backwards. -/
theorem flatMap_range_reverse {α : Type} (lists : List (List α)) (count : Nat) :
    ((List.range count).reverse.flatMap fun index => (lists[index]?).getD []) =
      (lists.take count).reverse.flatten := by
  induction count with
  | zero => rfl
  | succ count ih =>
      rw [List.range_succ, List.reverse_append, List.reverse_singleton, List.singleton_append,
        List.flatMap_cons, ih, List.take_add_one, List.reverse_append, List.flatten_append]
      cases lists[count]? <;> simp

/-- The files together hold the records since the rotation whose file was the first to be given
up. -/
theorem Rotated.evidence (holds : Rotated limits rotated current directory) :
    evidence limits.backupCount directory =
      (rotated.drop (rotated.length - limits.backupCount)).flatten ++ current := by
  have before : (Dict.get? JsonlFile.events directory).getD [] = current := by
    rw [holds.events]
    cases current <;> rfl
  have backups : ((List.range limits.backupCount).reverse.flatMap fun index =>
      (Dict.get? (JsonlFile.backup (index + 1)) directory).getD []) =
        (List.range limits.backupCount).reverse.flatMap fun index =>
          (rotated.reverse[index]?).getD [] := by
    apply List.flatMap_congr
    intro index member
    have low : index < limits.backupCount := List.mem_range.mp (List.mem_reverse.mp member)
    rw [holds.backups, if_pos low]
  unfold JsonlDirectory.evidence
  rw [before, backups, flatMap_range_reverse, List.take_reverse, List.reverse_reverse]

end rotated

end PyDht
