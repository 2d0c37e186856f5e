import PyDht.Bencode

set_option autoImplicit false

namespace PyDht

namespace Value

def keys : Value → List Bytes
  | .dict entries => entries.map Prod.fst
  | _ => []

/-- The byte strings a value holds itself, its keys included. -/
def texts : Value → List Bytes
  | .bytes text => [text]
  | value => value.keys

def ShortInteger : Value → Prop
  | .int number => (Decimal.write number.natAbs).length ≤ Bencode.maxStrDigits
  | _ => True

mutual

/-- `test` holds of the value and of every value nested in it, each at its own
depth; the value itself is at `depth`. -/
def Every (test : Nat → Value → Prop) (depth : Nat) : Value → Prop
  | .int number => test depth (.int number)
  | .bytes text => test depth (.bytes text)
  | .list items => test depth (.list items) ∧ EveryItem test (depth + 1) items
  | .dict entries => test depth (.dict entries) ∧ EveryEntry test (depth + 1) entries

def EveryItem (test : Nat → Value → Prop) (depth : Nat) : List Value → Prop
  | [] => True
  | item :: items => item.Every test depth ∧ EveryItem test depth items

def EveryEntry (test : Nat → Value → Prop) (depth : Nat) : List (Bytes × Value) → Prop
  | [] => True
  | (_, item) :: entries => item.Every test depth ∧ EveryEntry test depth entries

end

mutual

/-- The number of values and dictionary keys. -/
def count : Value → Nat
  | .int _ | .bytes _ => 1
  | .list items => 1 + countItems items
  | .dict entries => 1 + countEntries entries

def countItems : List Value → Nat
  | [] => 0
  | item :: items => item.count + countItems items

def countEntries : List (Bytes × Value) → Nat
  | [] => 0
  | (_, item) :: entries => 1 + item.count + countEntries entries

end

mutual

/-- Python's `==`: the order of a dictionary's entries does not count. -/
def Same : Value → Value → Prop
  | .int left, .int right => left = right
  | .bytes left, .bytes right => left = right
  | .list left, .list right => SameItems left right
  | .dict left, .dict right => left.length = right.length ∧ SameEntries left right
  | _, _ => False

def SameItems : List Value → List Value → Prop
  | [], [] => True
  | left :: lefts, right :: rights => left.Same right ∧ SameItems lefts rights
  | _, _ => False

def SameEntries : List (Bytes × Value) → List (Bytes × Value) → Prop
  | [], _ => True
  | (key, left) :: lefts, rights =>
      (∃ right, (key, right) ∈ rights ∧ left.Same right) ∧ SameEntries lefts rights

end

mutual

/-- The value with the entries of every dictionary in ascending order of their keys. -/
def canonical : Value → Value
  | .int number => .int number
  | .bytes text => .bytes text
  | .list items => .list (canonicalItems items)
  | .dict entries => .dict (Bencode.sortPairs (canonicalEntries entries))

def canonicalItems : List Value → List Value
  | [] => []
  | item :: items => item.canonical :: canonicalItems items

def canonicalEntries : List (Bytes × Value) → List (Bytes × Value)
  | [] => []
  | (key, item) :: entries => (key, item.canonical) :: canonicalEntries entries

end

def writeBytes (text : Bytes) : Bytes := Decimal.write text.length ++ 58 :: text

mutual

/-- The spelling of a value with its entries in the order they have. -/
def write : Value → Bytes
  | .int number => 105 :: Decimal.writeInt number ++ [101]
  | .bytes text => writeBytes text
  | .list items => 108 :: writeItems items ++ [101]
  | .dict entries => 100 :: writeEntries entries ++ [101]

def writeItems : List Value → Bytes
  | [] => []
  | item :: items => item.write ++ writeItems items

def writeEntries : List (Bytes × Value) → Bytes
  | [] => []
  | (key, item) :: entries => writeBytes key ++ item.write ++ writeEntries entries

end

/-- `test` holds of the value and of every value nested in it. -/
def All (test : Value → Prop) (value : Value) : Prop := value.Every (fun _ node => test node) 0

def Distinct (value : Value) : Prop := value.All fun node => node.keys.Nodup

def Ordered (value : Value) : Prop := value.All fun node => node.keys.Pairwise (· ≤ ·)

def ShortIntegers (value : Value) : Prop := value.All ShortInteger

def DepthWithin (maxDepth : Int) (value : Value) : Prop :=
  value.Every (fun depth _ => (depth : Int) ≤ maxDepth) 0

def TextsWithin (maxStringLength : Int) (value : Value) : Prop :=
  value.All fun node => ∀ text ∈ node.texts, (text.length : Int) ≤ maxStringLength

/-- Induction over values: what holds of every element or entry carries over to the container. -/
theorem induct {motive : Value → Prop} (int : ∀ number, motive (.int number))
    (bytes : ∀ text, motive (.bytes text))
    (list : ∀ items, (∀ item ∈ items, motive item) → motive (.list items))
    (dict : ∀ entries, (∀ entry ∈ entries, motive entry.2) → motive (.dict entries))
    (value : Value) : motive value := by
  refine @Value.rec motive (fun items => ∀ item ∈ items, motive item)
    (fun entries => ∀ entry ∈ entries, motive entry.2) (fun entry => motive entry.2)
    int bytes list dict ?_ ?_ ?_ ?_ ?_ value
  · simp
  · intro item items head tail
    simpa using And.intro head tail
  · simp
  · intro entry entries head tail
    simpa using And.intro head tail
  · intro key item holds
    exact holds

section equations

theorem everyItem_iff (test : Nat → Value → Prop) (depth : Nat) (items : List Value) :
    EveryItem test depth items ↔ ∀ item ∈ items, item.Every test depth := by
  induction items with
  | nil => simp [EveryItem]
  | cons item items ih => simp [EveryItem, ih]

theorem everyEntry_iff (test : Nat → Value → Prop) (depth : Nat)
    (entries : List (Bytes × Value)) :
    EveryEntry test depth entries ↔ ∀ entry ∈ entries, entry.2.Every test depth := by
  induction entries with
  | nil => simp [EveryEntry]
  | cons entry entries ih => simp [EveryEntry, ih]

theorem countItems_eq (items : List Value) : countItems items = (items.map count).sum := by
  induction items with
  | nil => rfl
  | cons item items ih => simp [countItems, ih]

theorem countEntries_eq (entries : List (Bytes × Value)) :
    countEntries entries = (entries.map fun entry => 1 + entry.2.count).sum := by
  induction entries with
  | nil => rfl
  | cons entry entries ih => simp [countEntries, ih]

theorem canonicalItems_eq (items : List Value) : canonicalItems items = items.map canonical := by
  induction items with
  | nil => rfl
  | cons item items ih => simp [canonicalItems, ih]

theorem canonicalEntries_eq (entries : List (Bytes × Value)) :
    canonicalEntries entries = entries.map fun entry => (entry.1, entry.2.canonical) := by
  induction entries with
  | nil => rfl
  | cons entry entries ih => simp [canonicalEntries, ih]

theorem sameItems_iff (lefts rights : List Value) :
    SameItems lefts rights ↔ List.Forall₂ Same lefts rights := by
  induction lefts generalizing rights with
  | nil => cases rights <;> simp [SameItems]
  | cons left lefts ih => cases rights <;> simp [SameItems, ih]

theorem sameEntries_iff (lefts rights : List (Bytes × Value)) :
    SameEntries lefts rights ↔
      ∀ left ∈ lefts, ∃ right, (left.1, right) ∈ rights ∧ left.2.Same right := by
  induction lefts with
  | nil => simp [SameEntries]
  | cons left lefts ih => simp [SameEntries, ih]

@[simp] theorem every_int (test : Nat → Value → Prop) (depth : Nat) (number : Int) :
    (Value.int number).Every test depth ↔ test depth (.int number) := Iff.rfl

@[simp] theorem every_bytes (test : Nat → Value → Prop) (depth : Nat) (text : Bytes) :
    (Value.bytes text).Every test depth ↔ test depth (.bytes text) := Iff.rfl

@[simp] theorem every_list (test : Nat → Value → Prop) (depth : Nat) (items : List Value) :
    (Value.list items).Every test depth ↔
      test depth (.list items) ∧ ∀ item ∈ items, item.Every test (depth + 1) := by
  rw [← everyItem_iff]
  rfl

@[simp] theorem every_dict (test : Nat → Value → Prop) (depth : Nat)
    (entries : List (Bytes × Value)) :
    (Value.dict entries).Every test depth ↔
      test depth (.dict entries) ∧ ∀ entry ∈ entries, entry.2.Every test (depth + 1) := by
  rw [← everyEntry_iff]
  rfl

end equations

section every

variable {test other : Nat → Value → Prop}

theorem every_and (value : Value) (depth : Nat) :
    value.Every (fun depth node => test depth node ∧ other depth node) depth ↔
      value.Every test depth ∧ value.Every other depth := by
  induction value using induct generalizing depth with
  | int number => simp
  | bytes text => simp
  | list items ih =>
      simp only [every_list]
      constructor
      · rintro ⟨⟨first, second⟩, inner⟩
        exact ⟨⟨first, fun item member => ((ih item member _).mp (inner item member)).1⟩,
          second, fun item member => ((ih item member _).mp (inner item member)).2⟩
      · rintro ⟨⟨first, firsts⟩, second, seconds⟩
        exact ⟨⟨first, second⟩, fun item member =>
          (ih item member _).mpr ⟨firsts item member, seconds item member⟩⟩
  | dict entries ih =>
      simp only [every_dict]
      constructor
      · rintro ⟨⟨first, second⟩, inner⟩
        exact ⟨⟨first, fun entry member => ((ih entry member _).mp (inner entry member)).1⟩,
          second, fun entry member => ((ih entry member _).mp (inner entry member)).2⟩
      · rintro ⟨⟨first, firsts⟩, second, seconds⟩
        exact ⟨⟨first, second⟩, fun entry member =>
          (ih entry member _).mpr ⟨firsts entry member, seconds entry member⟩⟩

theorem every_imp (implies : ∀ depth node, test depth node → other depth node) (value : Value)
    (depth : Nat) (holds : value.Every test depth) : value.Every other depth := by
  induction value using induct generalizing depth with
  | int number => exact implies _ _ holds
  | bytes text => exact implies _ _ holds
  | list items ih =>
      simp only [every_list] at holds ⊢
      exact ⟨implies _ _ holds.1, fun item member => ih item member _ (holds.2 item member)⟩
  | dict entries ih =>
      simp only [every_dict] at holds ⊢
      exact ⟨implies _ _ holds.1, fun entry member => ih entry member _ (holds.2 entry member)⟩

theorem every_shift {test : Value → Prop} (value : Value) (depth : Nat) :
    value.Every (fun _ node => test node) depth ↔ value.All test := by
  unfold All
  suffices shift : ∀ first second, value.Every (fun _ node => test node) first →
      value.Every (fun _ node => test node) second from ⟨shift _ _, shift _ _⟩
  induction value using induct with
  | int number => exact fun _ _ holds => holds
  | bytes text => exact fun _ _ holds => holds
  | list items ih =>
      intro first second holds
      simp only [every_list] at holds ⊢
      exact ⟨holds.1, fun item member => ih item member _ _ (holds.2 item member)⟩
  | dict entries ih =>
      intro first second holds
      simp only [every_dict] at holds ⊢
      exact ⟨holds.1, fun entry member => ih entry member _ _ (holds.2 entry member)⟩

@[simp] theorem all_int (test : Value → Prop) (number : Int) :
    (Value.int number).All test ↔ test (.int number) := Iff.rfl

@[simp] theorem all_bytes (test : Value → Prop) (text : Bytes) :
    (Value.bytes text).All test ↔ test (.bytes text) := Iff.rfl

@[simp] theorem all_list (test : Value → Prop) (items : List Value) :
    (Value.list items).All test ↔ test (.list items) ∧ ∀ item ∈ items, item.All test := by
  rw [All, every_list]
  exact and_congr_right fun _ => forall₂_congr fun item _ => every_shift item _

@[simp] theorem all_dict (test : Value → Prop) (entries : List (Bytes × Value)) :
    (Value.dict entries).All test ↔
      test (.dict entries) ∧ ∀ entry ∈ entries, entry.2.All test := by
  rw [All, every_dict]
  exact and_congr_right fun _ => forall₂_congr fun entry _ => every_shift entry.2 _

end every

end Value

namespace Bencode

theorem sortPairs_perm {α : Type} (pairs : List (Bytes × α)) : (sortPairs pairs).Perm pairs :=
  List.perm_insertionSort _ pairs

theorem mem_sortPairs {α : Type} (pairs : List (Bytes × α)) (pair : Bytes × α) :
    pair ∈ sortPairs pairs ↔ pair ∈ pairs := (sortPairs_perm pairs).mem_iff

instance keyOrderTotal {α : Type} :
    Std.Total (fun left right : Bytes × α => left.1 ≤ right.1) :=
  ⟨fun left right => List.le_total left.1 right.1⟩

instance keyOrderTrans {α : Type} :
    IsTrans (Bytes × α) (fun left right => left.1 ≤ right.1) :=
  ⟨fun _ _ _ first second => List.le_trans first second⟩

theorem sortPairs_sorted {α : Type} (pairs : List (Bytes × α)) :
    (sortPairs pairs).Pairwise (fun left right => left.1 ≤ right.1) :=
  List.pairwise_insertionSort _ pairs

theorem eq_of_key {α : Type} {pairs : List (Bytes × α)} (distinct : (pairs.map Prod.fst).Nodup)
    {left right : Bytes × α} (first : left ∈ pairs) (second : right ∈ pairs)
    (same : left.1 = right.1) : left = right :=
  List.inj_on_of_nodup_map distinct first second same

/-- Pairs with distinct keys have only one sorted arrangement. -/
theorem sortPairs_unique {α : Type} {pairs sorted : List (Bytes × α)}
    (distinct : (pairs.map Prod.fst).Nodup) (perm : sorted.Perm pairs)
    (ordered : sorted.Pairwise (fun left right => left.1 ≤ right.1)) :
    sorted = sortPairs pairs := by
  apply List.Perm.eq_of_pairwise _ ordered (sortPairs_sorted pairs)
    (perm.trans (sortPairs_perm pairs).symm)
  intro left right first second below above
  exact eq_of_key distinct (perm.mem_iff.mp first) ((mem_sortPairs pairs right).mp second)
    (List.le_antisymm below above)

theorem map_sortPairs {α β : Type} (change : α → β) (pairs : List (Bytes × α)) :
    (sortPairs pairs).map (fun pair => (pair.1, change pair.2)) =
      sortPairs (pairs.map fun pair => (pair.1, change pair.2)) :=
  List.map_insertionSort _ _ _ pairs (fun _ _ _ _ => Iff.rfl)

end Bencode

namespace Value

open Bencode

theorem keys_canonical (value : Value) : value.canonical.keys.Perm value.keys := by
  cases value with
  | int number => exact List.Perm.refl _
  | bytes text => exact List.Perm.refl _
  | list items => exact List.Perm.refl _
  | dict entries =>
      simp only [canonical, keys]
      have sorted := (sortPairs_perm (canonicalEntries entries)).map Prod.fst
      simp only [canonicalEntries_eq, List.map_map] at sorted ⊢
      exact sorted

theorem every_canonical {test : Nat → Value → Prop}
    (stable : ∀ depth node, test depth node.canonical ↔ test depth node) (value : Value)
    (depth : Nat) : value.canonical.Every test depth ↔ value.Every test depth := by
  induction value using induct generalizing depth with
  | int number => exact Iff.rfl
  | bytes text => exact Iff.rfl
  | list items ih =>
      have here := stable depth (.list items)
      simp only [canonical, canonicalItems_eq, every_list, List.forall_mem_map] at here ⊢
      rw [here]
      exact and_congr_right fun _ => forall₂_congr fun item member => ih item member _
  | dict entries ih =>
      have here := stable depth (.dict entries)
      simp only [canonical, every_dict, mem_sortPairs, canonicalEntries_eq,
        List.forall_mem_map] at here ⊢
      rw [here]
      exact and_congr_right fun _ => forall₂_congr fun entry member => ih entry member _

theorem count_canonical (value : Value) : value.canonical.count = value.count := by
  induction value using induct with
  | int number => rfl
  | bytes text => rfl
  | list items ih =>
      simp only [canonical, count, canonicalItems_eq, countItems_eq, List.map_map]
      congr 2
      exact List.map_congr_left ih
  | dict entries ih =>
      simp only [canonical, count, countEntries_eq]
      rw [((sortPairs_perm _).map _).sum_eq, canonicalEntries_eq, List.map_map]
      congr 2
      apply List.map_congr_left
      intro entry member
      simp [ih entry member]

theorem canonical_keys_distinct {entries : List (Bytes × Value)}
    (distinct : (entries.map Prod.fst).Nodup) :
    ((canonicalEntries entries).map Prod.fst).Nodup := by
  rw [canonicalEntries_eq, List.map_map]
  exact distinct

/-- Equal values with distinct keys have one canonical form. -/
theorem canonical_eq_of_same {left right : Value} (distinctLeft : left.Distinct)
    (distinctRight : right.Distinct) (same : left.Same right) :
    left.canonical = right.canonical := by
  induction left using induct generalizing right with
  | int number => cases right <;> simp_all [Same]
  | bytes text => cases right <;> simp_all [Same]
  | list items ih =>
      cases right with
      | int number => simp [Same] at same
      | bytes text => simp [Same] at same
      | dict entries => simp [Same] at same
      | list others =>
          simp only [Same, sameItems_iff] at same
          simp only [Distinct, all_list] at distinctLeft distinctRight
          simp only [canonical, canonicalItems_eq, Value.list.injEq]
          have inner := distinctLeft.2
          have outer := distinctRight.2
          clear distinctLeft distinctRight
          induction same with
          | nil => rfl
          | cons equal _ remaining =>
              simp only [List.forall_mem_cons] at ih inner outer
              simp only [List.map_cons, ih.1 inner.1 outer.1 equal,
                remaining ih.2 inner.2 outer.2]
  | dict entries ih =>
      cases right with
      | int number => simp [Same] at same
      | bytes text => simp [Same] at same
      | list others => simp [Same] at same
      | dict others =>
          simp only [Same, sameEntries_iff] at same
          simp only [Distinct, all_dict] at distinctLeft distinctRight
          simp only [canonical, Value.dict.injEq]
          have distinct := canonical_keys_distinct distinctLeft.1
          -- each entry of the one dictionary is, in canonical form, one of the other
          have included : canonicalEntries entries ⊆ canonicalEntries others := by
            intro pair member
            rw [canonicalEntries_eq, List.mem_map] at member ⊢
            obtain ⟨entry, inside, rfl⟩ := member
            obtain ⟨other, found, equal⟩ := same.2 entry inside
            refine ⟨(entry.1, other), found, ?_⟩
            rw [ih entry inside (distinctLeft.2 entry inside) (distinctRight.2 _ found) equal]
          have perm : (canonicalEntries entries).Perm (canonicalEntries others) := by
            apply (List.subperm_of_subset distinct.of_map included).perm_of_length_le
            simp [canonicalEntries_eq, same.1]
          apply sortPairs_unique (canonical_keys_distinct distinctRight.1)
          · exact (sortPairs_perm _).trans perm
          · exact sortPairs_sorted _

theorem all_canonical {test : Value → Prop} (stable : ∀ node, test node.canonical ↔ test node)
    (value : Value) : value.canonical.All test ↔ value.All test :=
  every_canonical (fun _ node => stable node) value 0

theorem distinct_canonical (value : Value) : value.canonical.Distinct ↔ value.Distinct :=
  all_canonical (fun node => (keys_canonical node).nodup_iff) value

theorem same_canonical (value : Value) : value.canonical.Same value := by
  induction value using induct with
  | int number => rfl
  | bytes text => rfl
  | list items ih =>
      simp only [canonical, Same, sameItems_iff, canonicalItems_eq, List.forall₂_map_left_iff,
        List.forall₂_same]
      exact ih
  | dict entries ih =>
      simp only [canonical, Same, sameEntries_iff, mem_sortPairs, canonicalEntries_eq]
      refine ⟨by rw [(sortPairs_perm _).length_eq, List.length_map], ?_⟩
      intro pair member
      obtain ⟨entry, inside, rfl⟩ := List.mem_map.mp member
      exact ⟨entry.2, inside, ih entry inside⟩

/-- A value whose dictionaries are all in ascending order is its own canonical form. -/
theorem canonical_of_ordered {value : Value} (distinct : value.Distinct)
    (ordered : value.Ordered) : value.canonical = value := by
  induction value using induct with
  | int number => rfl
  | bytes text => rfl
  | list items ih =>
      simp only [Distinct, Ordered, all_list] at distinct ordered
      simp only [canonical, canonicalItems_eq, Value.list.injEq]
      conv_rhs => rw [← List.map_id items]
      apply List.map_congr_left
      intro item member
      exact ih item member (distinct.2 item member) (ordered.2 item member)
  | dict entries ih =>
      simp only [Distinct, Ordered, all_dict] at distinct ordered
      have unchanged : canonicalEntries entries = entries := by
        rw [canonicalEntries_eq]
        conv_rhs => rw [← List.map_id entries]
        apply List.map_congr_left
        intro entry member
        rw [ih entry member (distinct.2 entry member) (ordered.2 entry member)]
        rfl
      simp only [canonical, unchanged, Value.dict.injEq]
      symm
      apply sortPairs_unique distinct.1 (List.Perm.refl _)
      exact List.pairwise_map.mp ordered.1

theorem ordered_canonical (value : Value) : value.canonical.Ordered := by
  induction value using induct with
  | int number => exact List.Pairwise.nil
  | bytes text => exact List.Pairwise.nil
  | list items ih =>
      simp only [Ordered, canonical, canonicalItems_eq, all_list, List.forall_mem_map]
      exact ⟨List.Pairwise.nil, ih⟩
  | dict entries ih =>
      simp only [Ordered, canonical, all_dict, mem_sortPairs]
      constructor
      · exact List.pairwise_map.mpr (sortPairs_sorted _)
      · simp only [canonicalEntries_eq, List.forall_mem_map]
        exact ih

end Value

end PyDht
