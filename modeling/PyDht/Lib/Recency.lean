import Mathlib.Data.List.Dedup
import Mathlib.Data.List.Induction
import Mathlib.Data.List.Nodup

set_option autoImplicit false

/-! Keys in the order of their last use, each with the time of it. Such a list
forgets a key when its last use is too old or too many others came after it. -/

namespace Recency

section lists

variable {κ : Type} [DecidableEq κ]

/-- The key becomes the last one, with the given time. -/
def touch (key : κ) (time : Int) (entries : List (κ × Int)) : List (κ × Int) :=
  entries.filter (fun entry => entry.1 ≠ key) ++ [(key, time)]

/-- Drop entries from the front as long as the first is older than `cutoff`
or there are more than `size`. -/
def prune (cutoff size : Int) : List (κ × Int) → List (κ × Int)
  | [] => []
  | entry :: rest =>
      if cutoff ≤ entry.2 ∧ ((rest.length + 1 : Nat) : Int) ≤ size then entry :: rest
      else prune cutoff size rest

/-- The uses of a history, each key with its last one only. -/
def latest (history : List (κ × Int)) : List (κ × Int) :=
  history.foldl (fun entries use => touch use.1 use.2 entries) []

/-- The last use of the key is not older than `cutoff`, and fewer than `size`
other keys were used since. -/
def Recent (cutoff size : Int) (history : List (κ × Int)) (key : κ) : Prop :=
  ∃ before time after, history = before ++ (key, time) :: after ∧ key ∉ after.map Prod.fst ∧
    cutoff ≤ time ∧ ((after.map Prod.fst).dedup.length : Int) < size

/-- The keys whose last use is not older than `cutoff`, the newest `size` of them, in the order of
their last use. -/
def window (cutoff size : Int) (history : List (κ × Int)) : List κ :=
  let fresh := (latest history).filter fun entry => cutoff ≤ entry.2
  (fresh.drop (fresh.length - size.toNat)).map Prod.fst

/-- Every dropped entry is too old or has `size` entries behind it. -/
def Expendable (cutoff size : Int) : List (κ × Int) → List (κ × Int) → Prop
  | [], _ => True
  | entry :: rest, kept =>
      (entry.2 < cutoff ∨ size ≤ ((rest ++ kept).length : Int)) ∧ Expendable cutoff size rest kept

end lists

section pruning

variable {κ : Type}

theorem Expendable.later {cutoff cutoff' size : Int} {dropped kept : List (κ × Int)}
    (older : cutoff ≤ cutoff') (expendable : Expendable cutoff size dropped kept) :
    Expendable cutoff' size dropped kept := by
  induction dropped with
  | nil => trivial
  | cons entry rest ih =>
      exact ⟨expendable.1.imp_left fun expired => by omega, ih expendable.2⟩

/-- What pruning drops is expendable, on top of what was dropped before. -/
theorem Expendable.prune {cutoff size : Int} {dropped kept : List (κ × Int)}
    (expendable : Expendable cutoff size dropped kept) :
    ∃ gone, kept = gone ++ Recency.prune cutoff size kept ∧
      Expendable cutoff size (dropped ++ gone) (Recency.prune cutoff size kept) := by
  induction kept generalizing dropped with
  | nil => exact ⟨[], rfl, by simpa [Recency.prune] using expendable⟩
  | cons entry rest ih =>
      unfold Recency.prune
      split
      · exact ⟨[], rfl, by simpa using expendable⟩
      · rename_i stale
        have moved : Expendable cutoff size (dropped ++ [entry]) rest := by
          clear ih
          induction dropped with
          | nil =>
              refine ⟨?_, trivial⟩
              simp only [List.nil_append]
              omega
          | cons first others ih =>
              refine ⟨?_, ih expendable.2⟩
              simpa using expendable.1
        obtain ⟨gone, split, final⟩ := ih moved
        exact ⟨entry :: gone, by rw [List.cons_append, ← split], by simpa using final⟩

theorem Expendable.spared {cutoff size : Int} {front back kept : List (κ × Int)} {entry : κ × Int}
    (expendable : Expendable cutoff size (front ++ entry :: back) kept) :
    entry.2 < cutoff ∨ size ≤ ((back ++ kept).length : Int) := by
  induction front with
  | nil => exact expendable.1
  | cons first front ih => exact ih expendable.2

theorem prune_head (cutoff size : Int) (entries : List (κ × Int)) :
    prune cutoff size entries = [] ∨ ∃ entry rest, prune cutoff size entries = entry :: rest ∧
      cutoff ≤ entry.2 ∧ ((entry :: rest).length : Int) ≤ size := by
  induction entries with
  | nil => exact .inl rfl
  | cons entry rest ih =>
      unfold prune
      split
      · rename_i fresh
        exact .inr ⟨entry, rest, rfl, fresh.1, fresh.2⟩
      · exact ih

/-- What is dropped next is expendable as well. -/
theorem Expendable.append {cutoff size : Int} {dropped gone kept : List (κ × Int)}
    (before : Expendable cutoff size dropped (gone ++ kept))
    (here : Expendable cutoff size gone kept) : Expendable cutoff size (dropped ++ gone) kept := by
  induction dropped with
  | nil => exact here
  | cons entry rest ih =>
      refine ⟨?_, ih before.2⟩
      show entry.2 < cutoff ∨ size ≤ ((rest ++ gone ++ kept).length : Int)
      rw [List.append_assoc]
      exact before.1

theorem Expendable.of_old {cutoff size : Int} {dropped : List (κ × Int)} (kept : List (κ × Int))
    (old : ∀ entry ∈ dropped, entry.2 < cutoff) : Expendable cutoff size dropped kept := by
  induction dropped with
  | nil => trivial
  | cons entry rest ih =>
      exact ⟨.inl (old entry List.mem_cons_self),
        ih fun other member => old other (List.mem_cons_of_mem _ member)⟩

theorem Expendable.of_many {cutoff size : Int} (dropped : List (κ × Int)) {kept : List (κ × Int)}
    (many : size ≤ (kept.length : Int)) : Expendable cutoff size dropped kept := by
  induction dropped with
  | nil => trivial
  | cons entry rest ih =>
      refine ⟨.inr ?_, ih⟩
      rw [List.length_append]
      omega

/-- In the order of time the old entries are in front. -/
theorem filter_fresh_split (cutoff : Int) {entries : List (κ × Int)}
    (sorted : (entries.map Prod.snd).Pairwise (· ≤ ·)) :
    ∃ gone, entries = gone ++ entries.filter (fun entry => cutoff ≤ entry.2) ∧
      ∀ entry ∈ gone, entry.2 < cutoff := by
  induction entries with
  | nil => exact ⟨[], rfl, by simp⟩
  | cons entry rest ih =>
      rw [List.map_cons, List.pairwise_cons] at sorted
      by_cases fresh : cutoff ≤ entry.2
      · refine ⟨[], ?_, by simp⟩
        rw [List.nil_append, eq_comm, List.filter_eq_self]
        intro other member
        obtain rfl | later := List.mem_cons.mp member
        · exact decide_eq_true fresh
        · exact decide_eq_true (Int.le_trans fresh (sorted.1 _ (List.mem_map_of_mem later)))
      · obtain ⟨gone, split, old⟩ := ih sorted.2
        refine ⟨entry :: gone, ?_, fun other member => ?_⟩
        · rw [List.filter_cons_of_neg (by simpa using fresh), List.cons_append, ← split]
        · obtain rfl | later := List.mem_cons.mp member
          · exact Int.not_le.mp fresh
          · exact old other later

end pruning

section history

variable {κ : Type} [DecidableEq κ]

theorem latest_concat (history : List (κ × Int)) (key : κ) (time : Int) :
    latest (history ++ [(key, time)]) = touch key time (latest history) := by
  simp [latest]

theorem touch_keys (key : κ) (time : Int) (entries : List (κ × Int)) :
    (touch key time entries).map Prod.fst = (entries.map Prod.fst).filter (· ≠ key) ++ [key] := by
  simp [touch, List.filter_map, Function.comp_def]

theorem latest_nodup (history : List (κ × Int)) : ((latest history).map Prod.fst).Nodup := by
  induction history using List.reverseRecOn with
  | nil => simp [latest]
  | append_singleton history use ih =>
      rw [latest_concat, touch_keys, List.nodup_append]
      refine ⟨ih.filter _, by simp, ?_⟩
      intro left member right isKey
      rw [List.mem_singleton.mp isKey]
      simpa using (List.mem_filter.mp member).2

/-- What stands behind the last use of a key are the keys used since. -/
theorem latest_split (before : List (κ × Int)) {after : List (κ × Int)} {key : κ} (time : Int)
    (last : key ∉ after.map Prod.fst) :
    ∃ front back, latest (before ++ (key, time) :: after) = front ++ (key, time) :: back ∧
      back.length = (after.map Prod.fst).dedup.length := by
  suffices split : ∃ front back, latest (before ++ (key, time) :: after) =
      front ++ (key, time) :: back ∧ ∀ other, other ∈ back.map Prod.fst ↔
        other ∈ after.map Prod.fst by
    obtain ⟨front, back, found, members⟩ := split
    refine ⟨front, back, found, ?_⟩
    have distinct := latest_nodup (before ++ (key, time) :: after)
    rw [found, List.map_append, List.map_cons, List.nodup_append, List.nodup_cons] at distinct
    have perm : (back.map Prod.fst).Perm (after.map Prod.fst).dedup :=
      (List.perm_ext_iff_of_nodup distinct.2.1.2 (List.nodup_dedup _)).mpr
        (fun other => by rw [members, List.mem_dedup])
    simpa using perm.length_eq
  induction after using List.reverseRecOn with
  | nil => exact ⟨_, [], latest_concat before key time, by simp⟩
  | append_singleton after use ih =>
      obtain ⟨other, otherTime⟩ := use
      simp only [List.map_append, List.map_cons, List.map_nil, List.mem_append,
        List.mem_singleton, not_or] at last
      obtain ⟨front, back, found, members⟩ := ih last.1
      refine ⟨front.filter (fun entry => entry.1 ≠ other), touch other otherTime back, ?_, ?_⟩
      · rw [← List.cons_append, ← List.append_assoc, latest_concat, found, touch,
          List.filter_append, List.filter_cons_of_pos (by simpa using last.2), touch]
        simp
      · intro name
        rw [touch_keys]
        simp only [List.mem_append, List.mem_filter, members, decide_not, Bool.not_eq_eq_eq_not,
          Bool.not_true, decide_eq_false_iff_not, List.mem_singleton, List.map_append,
          List.map_cons, List.map_nil]
        by_cases same : name = other <;> simp [same]

theorem touch_length_le (key : κ) (time : Int) {entries : List (κ × Int)}
    (distinct : (entries.map Prod.fst).Nodup) :
    entries.length ≤ (touch key time entries).length := by
  have erased : ((entries.map Prod.fst).filter (· ≠ key)) = (entries.map Prod.fst).erase key := by
    rw [distinct.erase_eq_filter key]
    apply List.filter_congr
    intro other _
    simp [bne, beq_eq_decide]
  have shorter := List.le_length_erase (a := key) (l := entries.map Prod.fst)
  have keys := congrArg List.length (touch_keys key time entries)
  simp only [erased, List.length_map, List.length_append, List.length_singleton] at keys shorter
  omega

theorem Expendable.touch {cutoff size : Int} {dropped kept : List (κ × Int)} (key : κ)
    (time : Int) (distinct : ((dropped ++ kept).map Prod.fst).Nodup)
    (expendable : Expendable cutoff size dropped kept) :
    Expendable cutoff size (dropped.filter (fun entry => entry.1 ≠ key))
      (Recency.touch key time kept) := by
  induction dropped with
  | nil => trivial
  | cons entry rest ih =>
      simp only [List.cons_append, List.map_cons, List.nodup_cons] at distinct
      have later := ih distinct.2 expendable.2
      by_cases same : entry.1 = key
      · simpa [same] using later
      · rw [List.filter_cons_of_pos (by simpa using same)]
        refine ⟨expendable.1.imp_right fun room => ?_, later⟩
        have grows := touch_length_le key time distinct.2
        have joined : Recency.touch key time (rest ++ kept) =
            rest.filter (fun entry => entry.1 ≠ key) ++ Recency.touch key time kept := by
          simp [Recency.touch]
        rw [joined] at grows
        omega

/-- The list of kept entries is the end of the history's latest uses, and what is missing from it
may be missing at the time `clock`. -/
structure Keeps (ttl size : Int) (history kept : List (κ × Int)) (clock : Int) : Prop where
  past : ∀ use ∈ history, use.2 ≤ clock
  sorted : ((latest history).map Prod.snd).Pairwise (· ≤ ·)
  split : ∃ dropped, latest history = dropped ++ kept ∧
    Expendable (clock - ttl) size dropped kept

theorem mem_latest {history : List (κ × Int)} {entry : κ × Int}
    (member : entry ∈ latest history) : entry ∈ history := by
  induction history using List.reverseRecOn with
  | nil => simp [latest] at member
  | append_singleton history use ih =>
      rw [latest_concat, touch, List.mem_append, List.mem_filter, List.mem_singleton] at member
      rcases member with old | new
      · exact List.mem_append_left _ (ih old.1)
      · exact List.mem_append_right _ (by simp [new])

theorem Keeps.nil (ttl size clock : Int) : Keeps ttl size ([] : List (κ × Int)) [] clock :=
  ⟨by simp, by simp [latest], [], rfl, trivial⟩

theorem Keeps.later {ttl size : Int} {history kept : List (κ × Int)} {clock now : Int}
    (keeps : Keeps ttl size history kept clock) (passed : clock ≤ now) :
    Keeps ttl size history kept now := by
  obtain ⟨past, sorted, dropped, split, expendable⟩ := keeps
  exact ⟨fun use member => Int.le_trans (past use member) passed, sorted, dropped, split,
    expendable.later (by omega)⟩

theorem Keeps.touch {ttl size : Int} {history kept : List (κ × Int)} {clock : Int} (key : κ)
    (keeps : Keeps ttl size history kept clock) :
    Keeps ttl size (history ++ [(key, clock)]) (Recency.touch key clock kept) clock := by
  obtain ⟨past, sorted, dropped, split, expendable⟩ := keeps
  refine ⟨?_, ?_, dropped.filter (fun entry => entry.1 ≠ key), ?_, ?_⟩
  · intro use member
    rcases List.mem_append.mp member with old | new
    · exact past use old
    · exact Int.le_of_eq (by rw [List.mem_singleton.mp new])
  · rw [latest_concat, Recency.touch, List.map_append, List.pairwise_append]
    refine ⟨sorted.sublist (List.filter_sublist.map _), by simp, ?_⟩
    intro time member other isClock
    obtain ⟨entry, inside, rfl⟩ := List.mem_map.mp member
    simp only [List.map_cons, List.map_nil, List.mem_singleton] at isClock
    rw [isClock]
    exact past entry (mem_latest (List.mem_filter.mp inside).1)
  · rw [latest_concat, split]
    simp [Recency.touch]
  · exact expendable.touch key clock (split ▸ latest_nodup history)

theorem Keeps.prune {ttl size : Int} {history kept : List (κ × Int)} {clock : Int}
    (keeps : Keeps ttl size history kept clock) :
    Keeps ttl size history (Recency.prune (clock - ttl) size kept) clock := by
  obtain ⟨past, sorted, dropped, split, expendable⟩ := keeps
  obtain ⟨gone, parts, final⟩ := expendable.prune
  exact ⟨past, sorted, dropped ++ gone, by rw [split, List.append_assoc, ← parts], final⟩

theorem last_use {history : List (κ × Int)} {key : κ} (used : key ∈ history.map Prod.fst) :
    ∃ before time after, history = before ++ (key, time) :: after ∧
      key ∉ after.map Prod.fst := by
  induction history using List.reverseRecOn with
  | nil => simp at used
  | append_singleton history use ih =>
      by_cases same : use.1 = key
      · exact ⟨history, use.2, [], by rw [← same], by simp⟩
      · rw [List.map_append, List.mem_append] at used
        rcases used with old | new
        · obtain ⟨before, time, after, split, last⟩ := ih old
          refine ⟨before, time, after ++ [use], by simp [split], ?_⟩
          rw [List.map_append, List.mem_append, not_or]
          exact ⟨last, by simpa using fun equal => same equal.symm⟩
        · exact absurd (by simpa using new : key = use.1).symm same

/-- An entry has one place among the latest uses. -/
theorem latest_place {history front back tail : List (κ × Int)} {entry : κ × Int}
    (found : latest history = front ++ entry :: back) (head : List (κ × Int))
    (placed : latest history = head ++ entry :: tail) : back = tail := by
  have distinct := (latest_nodup history).of_map
  rw [found, List.nodup_append, List.nodup_cons] at distinct
  obtain ⟨-, ⟨notBehind, -⟩, apart⟩ := distinct
  have notBefore : entry ∉ front := fun member => apart entry member entry (by simp) rfl
  exact ((List.append_cons_inj_of_notMem notBefore notBehind).mp (found.symm.trans placed)).2.2

/-- After pruning, exactly the keys of recent use are left. -/
theorem Keeps.mem_prune {ttl size : Int} {history kept : List (κ × Int)} {clock : Int}
    (keeps : Keeps ttl size history kept clock) (key : κ) :
    key ∈ (Recency.prune (clock - ttl) size kept).map Prod.fst ↔
      Recent (clock - ttl) size history key := by
  obtain ⟨-, sorted, dropped, split, expendable⟩ := keeps.prune
  constructor
  · intro member
    obtain ⟨⟨_, stamp⟩, inside, rfl⟩ := List.mem_map.mp member
    have inLatest : (_, stamp) ∈ latest history := split ▸ List.mem_append_right dropped inside
    obtain ⟨before, time, after, parts, last⟩ :=
      last_use (List.mem_map_of_mem (mem_latest inLatest))
    obtain ⟨front, back, found, count⟩ := latest_split before time last
    rw [← parts] at found
    have sameEntry := List.inj_on_of_nodup_map (latest_nodup history) inLatest
      (by rw [found]; simp : (_, time) ∈ latest history) rfl
    obtain rfl := (Prod.mk.inj sameEntry).2
    obtain ⟨head, tail, shape⟩ := List.append_of_mem inside
    have placed : back = tail := by
      apply latest_place found (dropped ++ head)
      rw [split, shape, List.append_assoc]
    rcases prune_head (clock - ttl) size kept with none | ⟨first, rest, whole, young, fits⟩
    · simp [none] at inside
    · have oldest : first.2 ≤ stamp := by
        rw [split, whole, List.map_append, List.pairwise_append] at sorted
        rw [whole] at inside
        rcases List.mem_cons.mp inside with here | behind
        · simp [← here]
        · exact (List.pairwise_cons.mp sorted.2.1).1 _ (List.mem_map_of_mem behind)
      have length := congrArg List.length (whole.symm.trans shape)
      simp only [List.length_append, List.length_cons] at length fits
      refine ⟨before, stamp, after, parts, last, by omega, ?_⟩
      rw [← count, placed]
      omega
  · rintro ⟨before, time, after, parts, last, young, few⟩
    obtain ⟨front, back, found, count⟩ := latest_split before time last
    rw [← parts] at found
    have inside : (key, time) ∈ dropped ++ Recency.prune (clock - ttl) size kept := by
      rw [← split, found]
      simp
    rcases List.mem_append.mp inside with isDropped | isKept
    · obtain ⟨head, tail, shape⟩ := List.append_of_mem isDropped
      have placed : back = tail ++ Recency.prune (clock - ttl) size kept := by
        apply latest_place found head
        rw [split, shape, List.append_assoc, List.cons_append]
      rw [shape] at expendable
      rcases expendable.spared with old | crowded
      · simp only at old
        omega
      · rw [← placed, count] at crowded
        omega
    · exact List.mem_map_of_mem isKept

theorem Keeps.drop {ttl size : Int} {history gone kept : List (κ × Int)} {clock : Int}
    (keeps : Keeps ttl size history (gone ++ kept) clock)
    (expendable : Expendable (clock - ttl) size gone kept) :
    Keeps ttl size history kept clock := by
  obtain ⟨past, sorted, dropped, split, before⟩ := keeps
  exact ⟨past, sorted, dropped ++ gone, by rw [split, List.append_assoc],
    before.append expendable⟩

theorem Keeps.kept_sorted {ttl size : Int} {history kept : List (κ × Int)} {clock : Int}
    (keeps : Keeps ttl size history kept clock) : (kept.map Prod.snd).Pairwise (· ≤ ·) := by
  obtain ⟨-, sorted, dropped, split, -⟩ := keeps
  rw [split, List.map_append, List.pairwise_append] at sorted
  exact sorted.2.1

/-- The old entries may go. -/
theorem Keeps.fresh {ttl size : Int} {history kept : List (κ × Int)} {clock : Int}
    (keeps : Keeps ttl size history kept clock) :
    Keeps ttl size history (kept.filter fun entry => clock - ttl ≤ entry.2) clock := by
  obtain ⟨gone, split, old⟩ := filter_fresh_split (clock - ttl) keeps.kept_sorted
  rw [split] at keeps
  exact keeps.drop (Expendable.of_old _ old)

/-- All but the newest may go. -/
theorem Keeps.capped {ttl size : Int} {history kept : List (κ × Int)} {clock : Int}
    (keeps : Keeps ttl size history kept clock) :
    Keeps ttl size history (kept.drop (kept.length - size.toNat)) clock := by
  by_cases crowded : size.toNat ≤ kept.length
  · rw [← List.take_append_drop (kept.length - size.toNat) kept] at keeps
    refine keeps.drop (Expendable.of_many _ ?_)
    rw [List.length_drop]
    omega
  · rw [Nat.sub_eq_zero_of_le (by omega), List.drop_zero]
    exact keeps

/-- Kept entries that are few enough and not old are the window. -/
theorem Keeps.window_eq {ttl size : Int} {history kept : List (κ × Int)} {clock : Int}
    (keeps : Keeps ttl size history kept clock)
    (fresh : ∀ entry ∈ kept, clock - ttl ≤ entry.2) (few : (kept.length : Int) ≤ size) :
    window (clock - ttl) size history = kept.map Prod.fst := by
  obtain ⟨-, sorted, dropped, split, expendable⟩ := keeps
  have young : kept.filter (fun entry => decide (clock - ttl ≤ entry.2)) = kept :=
    List.filter_eq_self.mpr fun entry member => decide_eq_true (fresh entry member)
  have front : (dropped.map Prod.snd).Pairwise (· ≤ ·) := by
    rw [split, List.map_append, List.pairwise_append] at sorted
    exact sorted.1
  obtain ⟨gone, parts, old⟩ := filter_fresh_split (clock - ttl) front
  unfold window
  dsimp only
  rw [split, List.filter_append, young]
  cases left : dropped.filter (fun entry => decide (clock - ttl ≤ entry.2)) with
  | nil => simp [Nat.sub_eq_zero_of_le (show kept.length ≤ size.toNat by omega)]
  | cons entry rest =>
      -- The last entry dropped before its time has `size` entries behind it.
      have shape : dropped = gone ++ (entry :: rest) := by rw [← left]; exact parts
      obtain ⟨others, last, ended⟩ := List.eq_nil_or_concat (entry :: rest) |>.resolve_left (by simp)
      rw [shape, ended, List.concat_eq_append, ← List.append_assoc] at expendable
      have lastFresh : clock - ttl ≤ last.2 := by
        have member : last ∈ dropped.filter fun entry => decide (clock - ttl ≤ entry.2) := by
          rw [left, ended]
          simp
        exact of_decide_eq_true (List.mem_filter.mp member).2
      have crowded := expendable.spared.resolve_left (by omega)
      rw [List.nil_append] at crowded
      rw [List.length_append, show (entry :: rest).length + kept.length - size.toNat =
        (entry :: rest).length by omega, List.drop_left]

end history

end Recency
