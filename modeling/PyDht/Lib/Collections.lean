import Mathlib.Data.List.Nodup

set_option autoImplicit false

/-! Insertion-ordered dictionaries as association lists, and bounded first-in first-out queues. -/

namespace Dict

variable {κ α : Type} [DecidableEq κ]

def keys (entries : List (κ × α)) : List κ := entries.map Prod.fst

def get? (key : κ) (entries : List (κ × α)) : Option α :=
  (entries.find? (fun entry => entry.1 = key)).map Prod.snd

/-- `key in entries`. -/
def contains (key : κ) (entries : List (κ × α)) : Bool := decide (key ∈ keys entries)

/-- `entries[key] = value`: a known key keeps its place, a new one goes last. -/
def set (key : κ) (value : α) (entries : List (κ × α)) : List (κ × α) :=
  if key ∈ keys entries then
    entries.map fun entry => if entry.1 = key then (key, value) else entry
  else entries ++ [(key, value)]

/-- `entries.pop(key, None)`. -/
def pop (key : κ) (entries : List (κ × α)) : List (κ × α) :=
  entries.filter fun entry => entry.1 ≠ key

@[simp] theorem contains_iff (key : κ) (entries : List (κ × α)) :
    contains key entries = true ↔ key ∈ keys entries := by
  simp [contains]

theorem get?_eq_none_iff (key : κ) (entries : List (κ × α)) :
    get? key entries = none ↔ key ∉ keys entries := by
  simp only [get?, Option.map_eq_none_iff, List.find?_eq_none, decide_eq_true_eq, keys,
    List.mem_map, not_exists, not_and]

theorem mem_of_get? {key : κ} {value : α} {entries : List (κ × α)}
    (found : get? key entries = some value) : (key, value) ∈ entries := by
  simp only [get?, Option.map_eq_some_iff] at found
  obtain ⟨entry, first, rfl⟩ := found
  have same : entry.1 = key := by simpa using List.find?_some first
  rw [← same]
  exact List.mem_of_find?_eq_some first

theorem mem_keys_iff (key : κ) (entries : List (κ × α)) :
    key ∈ keys entries ↔ (get? key entries).isSome = true := by
  rw [Option.isSome_iff_ne_none, ne_eq, get?_eq_none_iff, not_not]

theorem mem_keys_of_get? {key : κ} {value : α} {entries : List (κ × α)}
    (found : get? key entries = some value) : key ∈ keys entries :=
  List.mem_map_of_mem (mem_of_get? found)

theorem keys_set_known {key : κ} (value : α) {entries : List (κ × α)}
    (known : key ∈ keys entries) : keys (set key value entries) = keys entries := by
  rw [set, if_pos known, keys, keys, List.map_map]
  apply List.map_congr_left
  intro entry _
  by_cases same : entry.1 = key <;> simp [same]

theorem set_new {key : κ} (value : α) {entries : List (κ × α)} (absent : key ∉ keys entries) :
    set key value entries = entries ++ [(key, value)] := by
  simp [set, absent]

theorem keys_pop (key : κ) (entries : List (κ × α)) :
    keys (pop key entries) = (keys entries).filter (· ≠ key) := by
  simp [keys, pop, List.filter_map, Function.comp_def]

theorem mem_keys_pop (key other : κ) (entries : List (κ × α)) :
    other ∈ keys (pop key entries) ↔ other ∈ keys entries ∧ other ≠ key := by
  simp [keys_pop]

theorem mem_of_mem_set {key : κ} {value : α} {entries : List (κ × α)} {entry : κ × α}
    (member : entry ∈ set key value entries) : entry ∈ entries ∨ entry = (key, value) := by
  unfold set at member
  split at member
  · rcases List.mem_map.mp member with ⟨old, present, rfl⟩
    split
    · exact .inr rfl
    · exact .inl present
  · rcases List.mem_append.mp member with old | new
    · exact .inl old
    · exact .inr (List.mem_singleton.mp new)

theorem mem_of_mem_pop {key : κ} {entries : List (κ × α)} {entry : κ × α}
    (member : entry ∈ pop key entries) : entry ∈ entries :=
  (List.mem_filter.mp member).1

/-- An entry that is popped is no longer counted. -/
theorem countP_pop_of_mem {key : κ} {value : α} {entries : List (κ × α)} (test : κ × α → Bool)
    (member : (key, value) ∈ entries) :
    (pop key entries).countP test + (if test (key, value) then 1 else 0) ≤
      entries.countP test := by
  obtain ⟨before, after, rfl⟩ := List.append_of_mem member
  have front := List.Sublist.countP_le (p := test)
    (List.filter_sublist (p := fun entry => decide (entry.1 ≠ key)) (l := before))
  have back := List.Sublist.countP_le (p := test)
    (List.filter_sublist (p := fun entry => decide (entry.1 ≠ key)) (l := after))
  have dropped : pop key ((key, value) :: after) =
      after.filter fun entry => entry.1 ≠ key := by simp [pop]
  have popped : pop key (before ++ (key, value) :: after) =
      before.filter (fun entry => entry.1 ≠ key) ++ after.filter fun entry => entry.1 ≠ key := by
    rw [← dropped, pop, pop, List.filter_append]
  rw [popped, List.countP_append, List.countP_append, List.countP_cons]
  omega

theorem get?_cons (key : κ) (entry : κ × α) (rest : List (κ × α)) :
    get? key (entry :: rest) = if entry.1 = key then some entry.2 else get? key rest := by
  by_cases here : entry.1 = key <;> simp [get?, here]

theorem get?_concat_ne {key other : κ} (different : other ≠ key) (value : α)
    (entries : List (κ × α)) : get? other (entries ++ [(key, value)]) = get? other entries := by
  simp [get?, List.find?_append, different.symm]

theorem get?_concat_self {key : κ} (value : α) {entries : List (κ × α)}
    (absent : key ∉ keys entries) : get? key (entries ++ [(key, value)]) = some value := by
  have nothing := (get?_eq_none_iff key entries).mpr absent
  simp only [get?, Option.map_eq_none_iff] at nothing
  simp [get?, List.find?_append, nothing]

@[simp] theorem get?_set_self (key : κ) (value : α) (entries : List (κ × α)) :
    get? key (set key value entries) = some value := by
  unfold set
  split
  · rename_i known
    induction entries with
    | nil => simp [keys] at known
    | cons entry rest ih =>
        rw [List.map_cons, get?_cons]
        by_cases here : entry.1 = key
        · simp [here]
        · simp only [here, if_false]
          apply ih
          rcases List.mem_cons.mp known with same | later
          · exact absurd same.symm here
          · exact later
  · rename_i absent
    exact get?_concat_self value absent

theorem get?_set_ne {key other : κ} (different : other ≠ key) (value : α)
    (entries : List (κ × α)) : get? other (set key value entries) = get? other entries := by
  unfold set
  split
  · rename_i known
    clear known
    induction entries with
    | nil => rfl
    | cons entry rest ih =>
        rw [List.map_cons, get?_cons, get?_cons, ih]
        by_cases here : entry.1 = key
        · simp [here, different.symm]
        · simp [here]
  · exact get?_concat_ne different value entries

theorem pop_absent {key : κ} {entries : List (κ × α)} (absent : key ∉ keys entries) :
    pop key entries = entries := by
  rw [pop, List.filter_eq_self]
  intro entry member
  simp only [ne_eq, decide_not, Bool.not_eq_eq_eq_not, Bool.not_true, decide_eq_false_iff_not]
  rintro rfl
  exact absent (List.mem_map_of_mem member)

theorem get?_pop_self (key : κ) (entries : List (κ × α)) : get? key (pop key entries) = none :=
  (get?_eq_none_iff key _).mpr fun member => ((mem_keys_pop key key entries).mp member).2 rfl

theorem get?_pop_ne {key other : κ} (different : other ≠ key) (entries : List (κ × α)) :
    get? other (pop key entries) = get? other entries := by
  induction entries with
  | nil => rfl
  | cons entry rest ih =>
      rw [pop, List.filter_cons, get?_cons]
      by_cases here : entry.1 = key
      · have elsewhere : ¬ entry.1 = other := fun same => different (same.symm.trans here)
        simp only [here, ne_eq, not_true_eq_false, decide_false, Bool.false_eq_true, if_false]
        rw [here] at elsewhere
        rw [if_neg elsewhere]
        exact ih
      · simp only [here, ne_eq, not_false_eq_true, decide_true, if_true]
        rw [get?_cons]
        split
        · rfl
        · exact ih

/-- Taking a key out again right after it was new leaves what was there before. -/
theorem pop_set_new {key : κ} (value : α) {entries : List (κ × α)}
    (absent : key ∉ keys entries) : pop key (set key value entries) = entries := by
  have unchanged := pop_absent absent
  simp only [pop] at unchanged
  rw [set_new value absent, pop, List.filter_append, unchanged]
  simp

theorem keys_pop_sublist (key : κ) (entries : List (κ × α)) :
    (keys (pop key entries)).Sublist (keys entries) := by
  rw [keys_pop]
  exact List.filter_sublist

theorem nodup_keys_set (key : κ) (value : α) {entries : List (κ × α)}
    (distinct : (keys entries).Nodup) : (keys (set key value entries)).Nodup := by
  by_cases known : key ∈ keys entries
  · rwa [keys_set_known value known]
  · have added : keys (entries ++ [(key, value)]) = keys entries ++ [key] := by simp [keys]
    rw [set_new value known, added, List.nodup_append]
    refine ⟨distinct, List.nodup_singleton key, ?_⟩
    intro other member last isLast same
    rw [List.mem_singleton] at isLast
    rw [same, isLast] at member
    exact known member

theorem get?_of_mem {key : κ} {value : α} {entries : List (κ × α)}
    (distinct : (keys entries).Nodup) (member : (key, value) ∈ entries) :
    get? key entries = some value := by
  cases found : get? key entries with
  | none => exact absurd (List.mem_map_of_mem member) ((get?_eq_none_iff key entries).mp found)
  | some other =>
      have same := List.inj_on_of_nodup_map distinct member (mem_of_get? found) rfl
      rw [(Prod.mk.inj same).2]

omit [DecidableEq κ] in
theorem keys_mapValues {β : Type} (change : α → β) (entries : List (κ × α)) :
    keys (entries.map fun entry => (entry.1, change entry.2)) = keys entries := by
  simp [keys]

theorem get?_mapValues {β : Type} (change : α → β) (key : κ) (entries : List (κ × α)) :
    get? key (entries.map fun entry => (entry.1, change entry.2)) =
      (get? key entries).map change := by
  induction entries with
  | nil => rfl
  | cons entry rest ih =>
      rw [List.map_cons, get?_cons, get?_cons, ih]
      split <;> rfl

theorem get?_filterValues (passes : α → Bool) (key : κ) {entries : List (κ × α)}
    (distinct : (keys entries).Nodup) :
    get? key (entries.filter fun entry => passes entry.2) = (get? key entries).filter passes := by
  induction entries with
  | nil => rfl
  | cons entry rest ih =>
      rw [keys, List.map_cons, List.nodup_cons] at distinct
      rw [List.filter_cons, get?_cons]
      by_cases here : entry.1 = key
      · rw [if_pos here, Option.filter_some]
        split
        · rw [get?_cons, if_pos here]
        · rw [ih distinct.2, (get?_eq_none_iff key rest).mpr (here ▸ distinct.1)]
          rfl
      · rw [if_neg here, ← ih distinct.2]
        split
        · rw [get?_cons, if_neg here]
        · rfl

/-- What `set` leaves at each key. -/
theorem get?_set (key other : κ) (value : α) (entries : List (κ × α)) :
    get? other (set key value entries) = if other = key then some value else get? other entries := by
  by_cases same : other = key
  · rw [if_pos same, same, get?_set_self]
  · rw [if_neg same, get?_set_ne same]

theorem pop_perm {key : κ} {value : α} {entries : List (κ × α)}
    (distinct : (keys entries).Nodup) (member : (key, value) ∈ entries) :
    ((key, value) :: pop key entries).Perm entries := by
  obtain ⟨front, back, rfl⟩ := List.append_of_mem member
  rw [keys, List.map_append, List.map_cons, List.nodup_middle, List.nodup_cons] at distinct
  have absent := distinct.1
  simp only [List.mem_append, not_or] at absent
  have popped : pop key (front ++ (key, value) :: back) = front ++ back := by
    have before : pop key front = front := pop_absent absent.1
    have behind : pop key back = back := pop_absent absent.2
    simp only [pop, List.filter_append, List.filter_cons, ne_eq, not_true_eq_false, decide_false,
      Bool.false_eq_true, if_false] at before behind ⊢
    rw [before, behind]
  rw [popped]
  exact List.perm_middle.symm

end Dict

/-- A queue that holds at most `maxsize` items; zero or less stands for no bound. -/
structure BoundedQueue (α : Type) where
  maxsize : Int
  items : List α := []
deriving DecidableEq, Repr

namespace BoundedQueue

variable {α : Type}

def full (queue : BoundedQueue α) : Bool :=
  decide (0 < queue.maxsize ∧ queue.maxsize ≤ queue.items.length)

/-- `put_nowait`; `none` stands for the exception of a full queue. -/
def putNowait (queue : BoundedQueue α) (item : α) : Option (BoundedQueue α) :=
  if queue.full then none else some { queue with items := queue.items ++ [item] }

def get (queue : BoundedQueue α) : Option (α × BoundedQueue α) :=
  match queue.items with
  | [] => none
  | item :: items => some (item, { queue with items })

theorem putNowait_eq_some {queue changed : BoundedQueue α} {item : α}
    (put : queue.putNowait item = some changed) :
    queue.full = false ∧ changed = { queue with items := queue.items ++ [item] } := by
  unfold putNowait at put
  split at put
  · simp at put
  · rename_i room
    exact ⟨by simpa using room, (Option.some.inj put).symm⟩

theorem full_of_putNowait {queue : BoundedQueue α} {item : α}
    (refused : queue.putNowait item = none) : queue.full = true := by
  unfold putNowait at refused
  split at refused
  · assumption
  · simp at refused

theorem get_eq_some {queue changed : BoundedQueue α} {item : α}
    (taken : queue.get = some (item, changed)) :
    queue.items = item :: changed.items ∧ changed.maxsize = queue.maxsize := by
  unfold get at taken
  split at taken
  · simp at taken
  · rename_i first rest shape
    simp only [Option.some.injEq, Prod.mk.injEq] at taken
    obtain ⟨rfl, rfl⟩ := taken
    exact ⟨shape, rfl⟩

end BoundedQueue
