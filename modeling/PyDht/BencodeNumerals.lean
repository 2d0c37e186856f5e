import PyDht.BencodeErrors
import PyDht.BencodeRoundTrip
import PyDht.PeerWire

set_option autoImplicit false

namespace PyDht

open Value

namespace Bencode

/-- A value, or the one exception that callers of the decoder expect. -/
def Settles {α : Type} (outcome : Except PyError α) : Prop :=
  (∃ result, outcome = .ok result) ∨ ∃ text, outcome = .error (.bencodeError text)

/-- Here ends an integer whose digits `int` refuses to convert. -/
def OverlongInteger (tail : Bytes) : Prop :=
  ∃ (number : Int) (rest : Bytes), tail = Decimal.writeInt number ++ 101 :: rest ∧
    ¬ (Value.int number).ShortInteger

/-- Here ends the length of a byte string whose digits `int` refuses to convert. -/
def OverlongLength (data : Bytes) : Prop :=
  ∃ (size : Nat) (rest : Bytes), data = Decimal.write size ++ 58 :: rest ∧
    maxStrDigits < (Decimal.write size).length

theorem overlongInteger_of {numeral : Bytes} (canonical : Decimal.CanonicalInt numeral)
    (long : maxStrDigits < (Decimal.unsigned numeral).length) (rest : Bytes) :
    OverlongInteger (numeral ++ 101 :: rest) := by
  have spelled := Decimal.writeInt_readInt canonical
  refine ⟨Decimal.readInt numeral, rest, by rw [spelled], not_le.mpr ?_⟩
  rw [← Decimal.unsigned_writeInt, spelled]
  exact long

theorem overlongLength_of {numeral : Bytes} (canonical : Decimal.Canonical numeral)
    (long : maxStrDigits < numeral.length) (rest : Bytes) :
    OverlongLength (numeral ++ 58 :: rest) := by
  have spelled := Decimal.write_read canonical
  refine ⟨Decimal.read numeral, rest, by rw [spelled], ?_⟩
  rw [spelled]
  exact long

/-- A container that is open, with what it holds so far; in a dictionary the decoder
stands in front of a value, whose key it has read. -/
inductive Opened where
  | items (before : List Value)
  | entries (before : List (Bytes × Value)) (key : Bytes)

namespace Opened

def write : Opened → Bytes
  | .items before => 108 :: writeItems before
  | .entries before key => 100 :: (writeEntries before ++ writeBytes key)

def count : Opened → Nat
  | .items before => 1 + countItems before
  | .entries before _ => 1 + countEntries before + 1

end Opened

namespace Decoder

/-- What the decoder demands of the entries that stand in front of the next key. -/
structure AdmitsEntries (decoder : Decoder) (depth : Nat) (before : List (Bytes × Value)) :
    Prop where
  names : ∀ entry ∈ before, ShortLength entry.1 ∧
    (entry.1.length : Int) ≤ decoder.limits.maxStringLength
  distinct : (before.map Prod.fst).Nodup
  sorted : decoder.requireSortedKeys → (before.map Prod.fst).Pairwise (· ≤ ·)
  each : ∀ entry ∈ before, entry.2.Every decoder.Admits (depth + 1)

/-- What it demands of a container that is open at the given depth. -/
def AdmitsOpened (decoder : Decoder) (depth : Nat) : Opened → Prop
  | .items before => ∀ item ∈ before, item.Every decoder.Admits (depth + 1)
  | .entries before key => decoder.AdmitsEntries depth before ∧ ShortLength key ∧
      (key.length : Int) ≤ decoder.limits.maxStringLength ∧ key ∉ before.map Prod.fst ∧
      (decoder.requireSortedKeys → ∀ last, before.getLast?.map Prod.fst = some last → last ≤ key)

/-- Within the limits the decoder arrives at a numeral that `int` refuses: at an
integer, at the length of a byte string or at that of a key. -/
def ArrivesAtOverlong (decoder : Decoder) (depth items : Nat) (data : Bytes) : Prop :=
  (∃ tail, data = 105 :: tail ∧ OverlongInteger tail) ∨ OverlongLength data ∨
    ∃ before rest, data = 100 :: (writeEntries before ++ rest) ∧
      decoder.AdmitsEntries depth before ∧ OverlongLength rest ∧
      ((items + 1 + countEntries before + 1 : Nat) : Int) ≤ decoder.limits.maxItems

/-- The same inside the containers that are open, the outermost first. -/
def OverlongInside (decoder : Decoder) : List Opened → Nat → Nat → Bytes → Prop
  | [], depth, items, data => (depth : Int) ≤ decoder.limits.maxDepth ∧
      ((items + 1 : Nat) : Int) ≤ decoder.limits.maxItems ∧
      decoder.ArrivesAtOverlong depth items data
  | opened :: inner, depth, items, data => (depth : Int) ≤ decoder.limits.maxDepth ∧
      ((items + opened.count : Nat) : Int) ≤ decoder.limits.maxItems ∧
      decoder.AdmitsOpened depth opened ∧
      ∃ rest, data = opened.write ++ rest ∧
        decoder.OverlongInside inner (depth + 1) (items + opened.count) rest

/-- The decoder comes to a numeral of more digits than `int` converts. -/
def Overlong (decoder : Decoder) (depth items : Nat) (data : Bytes) : Prop :=
  ∃ containers, decoder.OverlongInside containers depth items data

theorem bind_pure_error {α β : Type} {first : Except PyError α} {next : α → β} {fault : PyError}
    (failed : (first >>= fun value => pure (next value)) = .error fault) :
    first = .error fault := by
  cases first with
  | error other =>
      cases failed
      rfl
  | ok value => cases failed

theorem pyInt_overlong (text : Bytes) (long : maxStrDigits < (Decimal.unsigned text).length) :
    ∃ cause, pyInt text = .error (.valueError cause) := by
  unfold pyInt
  rw [if_pos long]
  exact ⟨_, rfl⟩

theorem parseInt_overlong {tail : Bytes} (long : OverlongInteger tail) :
    ∃ cause, parseInt tail = .error (.valueError cause) := by
  obtain ⟨number, rest, rfl, long⟩ := long
  have noStop : (101 : UInt8) ∉ Decimal.writeInt number := by
    intro member
    obtain same | digit := Decimal.mem_writeInt member
    · exact absurd same (by decide)
    · exact absurd digit (by decide)
  have found := (cut_eq_some_iff 101 _ _ rest).mpr ⟨rfl, noStop⟩
  obtain ⟨nonempty, canonical, notSign, digits⟩ :=
    (canonicalInt_iff _).mp (Decimal.canonicalInt_writeInt number)
  obtain ⟨cause, refused⟩ := pyInt_overlong (Decimal.writeInt number) (by
    rw [Decimal.unsigned_writeInt]
    exact not_le.mp long)
  refine ⟨cause, ?_⟩
  unfold parseInt
  simp only [found, nonempty, canonical, notSign, digits, if_false, Bool.not_true,
    Bool.false_eq_true, refused]
  rfl

theorem parseInt_faults {tail : Bytes} {fault : PyError} (failed : parseInt tail = .error fault) :
    (∃ text, fault = .bencodeError text) ∨ OverlongInteger tail := by
  unfold parseInt at failed
  split at failed
  · cases failed
    exact .inl ⟨_, rfl⟩
  · rename_i raw after found
    split at failed
    · cases failed
      exact .inl ⟨_, rfl⟩
    rename_i nonempty
    split at failed
    · cases failed
      exact .inl ⟨_, rfl⟩
    rename_i canonical
    split at failed
    · cases failed
      exact .inl ⟨_, rfl⟩
    rename_i notSign
    split at failed
    · cases failed
      exact .inl ⟨_, rfl⟩
    rename_i digits
    have isCanonical := (canonicalInt_iff raw).mpr
      ⟨nonempty, canonical, notSign, by simpa using digits⟩
    by_cases long : maxStrDigits < (Decimal.unsigned raw).length
    · rw [((cut_eq_some_iff _ _ _ _).mp found).1]
      exact .inr (overlongInteger_of isCanonical long after)
    · have converted : pyInt raw = .ok (Decimal.readInt raw) :=
        pyInt_ok_iff.mpr ⟨by omega, rfl⟩
      rw [converted] at failed
      cases failed

theorem parseBytes_overlong (decoder : Decoder) {data : Bytes} (long : OverlongLength data) :
    ∃ cause, decoder.parseBytes data = .error (.valueError cause) := by
  obtain ⟨size, rest, rfl, long⟩ := long
  have canonical := Decimal.write_canonical size
  have noStop : (58 : UInt8) ∉ Decimal.write size := fun member =>
    absurd (canonical.digits 58 member) (by decide)
  have found := (cut_eq_some_iff 58 _ _ rest).mpr ⟨rfl, noStop⟩
  have digits := (isDigits_iff _).mpr ⟨canonical.nonempty, canonical.digits⟩
  have single : ¬ (1 < (Decimal.write size).length ∧ (Decimal.write size).head? = some 48) := by
    intro leading
    have short := canonical.noLeadingZero leading.2
    omega
  obtain ⟨cause, refused⟩ := pyInt_overlong (Decimal.write size) (by
    rw [Decimal.unsigned, if_neg (Decimal.not_sign canonical)]
    exact long)
  refine ⟨cause, ?_⟩
  unfold parseBytes
  simp only [found, canonical.nonempty, digits, single, if_false, Bool.not_true,
    Bool.false_eq_true, or_self, refused]
  rfl

theorem parseBytes_faults {decoder : Decoder} {data : Bytes} {fault : PyError}
    (failed : decoder.parseBytes data = .error fault) :
    (∃ text, fault = .bencodeError text) ∨ OverlongLength data := by
  unfold parseBytes at failed
  split at failed
  · cases failed
    exact .inl ⟨_, rfl⟩
  · rename_i raw after found
    split at failed
    · cases failed
      exact .inl ⟨_, rfl⟩
    rename_i figures
    split at failed
    · cases failed
      exact .inl ⟨_, rfl⟩
    rename_i canonical
    rw [not_or, Bool.not_eq_true', Bool.not_eq_false] at figures
    rw [not_and'] at canonical
    have digits := (isDigits_iff raw).mp figures.2
    have isCanonical : Decimal.Canonical raw := by
      refine ⟨figures.1, digits.2, fun leading => ?_⟩
      have positive := List.length_pos_iff.mpr figures.1
      have short := canonical leading
      omega
    by_cases long : maxStrDigits < raw.length
    · rw [((cut_eq_some_iff _ _ _ _).mp found).1]
      exact .inr (overlongLength_of isCanonical long after)
    · have converted : pyInt raw = .ok (Decimal.readInt raw) := by
        refine pyInt_ok_iff.mpr ⟨?_, rfl⟩
        rw [Decimal.unsigned, if_neg (Decimal.not_sign isCanonical)]
        omega
      rw [converted] at failed
      simp only [bind, Except.bind] at failed
      split at failed
      · cases failed
        exact .inl ⟨_, rfl⟩
      · split at failed
        · cases failed
          exact .inl ⟨_, rfl⟩
        · cases failed

theorem length_head (size : Nat) (rest : Bytes) :
    ∃ first others, Decimal.write size ++ 58 :: rest = first :: others ∧
      Decimal.isDigit first = true := by
  have canonical := Decimal.write_canonical size
  cases spelled : Decimal.write size with
  | nil => exact absurd spelled canonical.nonempty
  | cons first others =>
      exact ⟨first, _, rfl, canonical.digits first (by rw [spelled]; exact List.mem_cons_self)⟩

/-- What is overlong begins like a value, not like the end of a container. -/
theorem overlongInside_head {decoder : Decoder} {containers : List Opened} {depth items : Nat}
    {data : Bytes} (long : decoder.OverlongInside containers depth items data) :
    ∃ first others, data = first :: others ∧ first ≠ 101 := by
  cases containers with
  | nil =>
      obtain ⟨-, -, ⟨tail, rfl, -⟩ | ⟨size, rest, rfl, -⟩ | ⟨before, rest, rfl, -⟩⟩ := long
      · exact ⟨105, tail, rfl, by decide⟩
      · obtain ⟨first, others, spelled, digit⟩ := length_head size rest
        exact ⟨first, others, spelled, (isDigit_not_marker digit).2.2.2⟩
      · exact ⟨100, _, rfl, by decide⟩
  | cons opened inner =>
      obtain ⟨-, -, -, rest, rfl, -⟩ := long
      cases opened with
      | items before => exact ⟨108, _, rfl, by decide⟩
      | entries before key => exact ⟨100, _, rfl, by decide⟩

/-- The decoder gets past the entries that it admits, to what follows them. -/
theorem parse_entries {decoder : Decoder} {depth : Nat} {before : List (Bytes × Value)}
    (items steps : Nat) (rest : Bytes) (shallow : (depth : Int) ≤ decoder.limits.maxDepth)
    (room : ((items + 1 + countEntries before : Nat) : Int) ≤ decoder.limits.maxItems)
    (admitted : decoder.AdmitsEntries depth before)
    (enough : 2 * (writeEntries before ++ rest).length + 2 ≤ steps) :
    ∃ left, 2 * rest.length + 2 ≤ left ∧
      decoder.parse (steps + 1) (100 :: (writeEntries before ++ rest)) depth items =
        decoder.parseEntries left rest depth (items + 1 + countEntries before) before
          (before.getLast?.map Prod.fst) := by
  obtain ⟨names, distinct, sorted, each⟩ := admitted
  rw [List.length_append] at enough
  have short := length_le_writeEntries before
  obtain ⟨left, rfl, opened⟩ := parseEntries_open (fun entry member => parse_write (each entry member))
    names steps (items + 1) [] rest distinct sorted room (by omega)
  refine ⟨left, by omega, ?_⟩
  rw [parse_marker _ _ _ shallow (by omega), if_neg (by decide), if_neg (by decide), if_pos rfl]
  exact opened

/-- A numeral that `int` refuses makes the decoder raise what is no `BencodeError`. -/
theorem parse_overlong {decoder : Decoder} {containers : List Opened} {depth items : Nat}
    {data : Bytes} (long : decoder.OverlongInside containers depth items data) (steps : Nat)
    (enough : 2 * data.length + 1 ≤ steps) :
    ∃ cause, decoder.parse steps data depth items = .error (.valueError cause) := by
  obtain ⟨steps, rfl⟩ := Nat.exists_eq_add_of_lt (show 0 < steps by omega)
  rw [Nat.zero_add] at enough ⊢
  induction containers generalizing depth items data steps with
  | nil =>
      obtain ⟨shallow, room, arrives⟩ := long
      obtain ⟨tail, rfl, number⟩ | size | ⟨before, rest, rfl, admitted, size, space⟩ := arrives
      · obtain ⟨cause, refused⟩ := parseInt_overlong number
        refine ⟨cause, ?_⟩
        rw [parse_marker _ _ _ shallow room, if_pos rfl, refused]
        rfl
      · obtain ⟨cause, refused⟩ := parseBytes_overlong decoder size
        obtain ⟨size, rest, rfl, -⟩ := size
        obtain ⟨first, others, spelled, digit⟩ := length_head size rest
        obtain ⟨notInt, notList, notDict, -⟩ := isDigit_not_marker digit
        rw [spelled] at refused ⊢
        refine ⟨cause, ?_⟩
        rw [parse_marker _ _ _ shallow room, if_neg notInt, if_neg notList, if_neg notDict,
          if_pos digit, refused]
        rfl
      · obtain ⟨cause, refused⟩ := parseBytes_overlong decoder size
        rw [List.length_cons] at enough
        obtain ⟨left, more, stepped⟩ := parse_entries items steps rest shallow (by omega)
          admitted (by omega)
        obtain ⟨size, after, rfl, -⟩ := size
        obtain ⟨first, others, spelled, digit⟩ := length_head size after
        refine ⟨cause, ?_⟩
        obtain ⟨left, rfl⟩ := Nat.exists_eq_add_of_lt (show 0 < left by omega)
        rw [stepped]
        rw [spelled] at refused ⊢
        rw [parseEntries, if_neg (isDigit_not_marker digit).2.2.2, count_ok space]
        simp only [bind, Except.bind, refused]
  | cons opened inner ih =>
      obtain ⟨shallow, room, admitted, rest, rfl, long⟩ := long
      obtain ⟨first, others, begun, notClose⟩ := overlongInside_head long
      cases opened with
      | items before =>
          simp only [Opened.write, Opened.count, List.cons_append, List.length_cons,
            List.length_append] at room enough long ⊢
          have short := length_le_writeItems before
          obtain ⟨left, rfl, passed⟩ := parseItems_open
            (fun item member => parse_write (admitted item member)) steps (items + 1) [] rest
            (by omega) (by omega)
          obtain ⟨left, rfl⟩ := Nat.exists_eq_add_of_lt (show 1 < left by omega)
          obtain ⟨cause, refused⟩ := ih long left (by omega)
          refine ⟨cause, ?_⟩
          rw [parse_marker _ _ _ shallow (by omega), if_neg (by decide), if_pos rfl, passed]
          rw [begun] at refused ⊢
          rw [show 1 + left + 1 = left + 1 + 1 by omega, parseItems, if_neg notClose]
          rw [Nat.add_assoc items, refused]
          rfl
      | entries before key =>
          simp only [Opened.write, Opened.count, List.cons_append, List.length_cons,
            List.length_append, List.append_assoc] at room enough long ⊢
          obtain ⟨entries, names, fits, fresh, inOrder⟩ := admitted
          obtain ⟨left, more, stepped⟩ := parse_entries items steps (writeBytes key ++ rest)
            shallow (by omega) entries (by simp only [List.length_append]; omega)
          have read := (parseBytes_ok_iff decoder (writeBytes key ++ rest) key rest).mpr
            ⟨names, fits, rfl⟩
          obtain ⟨head, spelling, spelled, digit⟩ := writeBytes_head key
          simp only [List.length_append] at more
          have positive : 1 ≤ (writeBytes key).length := by
            rw [spelled, List.length_cons]
            omega
          obtain ⟨left, rfl⟩ := Nat.exists_eq_add_of_lt (show 1 < left by omega)
          obtain ⟨cause, refused⟩ := ih long left (by omega)
          refine ⟨cause, ?_⟩
          have ordered : ¬ (decoder.requireSortedKeys = true ∧
              (before.getLast?.map Prod.fst).any (key < ·) = true) := by
            intro below
            obtain ⟨last, found, lower⟩ := (Option.any_eq_true _ _).mp below.2
            exact List.not_lt.mpr (inOrder below.1 last found) (of_decide_eq_true lower)
          rw [stepped]
          rw [spelled] at read ⊢
          rw [show 1 + left + 1 = left + 1 + 1 by omega]
          simp only [List.cons_append] at read ⊢
          rw [parseEntries, if_neg (isDigit_not_marker digit).2.2.2, count_ok (by omega)]
          simp only [bind, Except.bind, read, fresh, ordered, if_false]
          rw [show items + 1 + countEntries before + 1 = items + (1 + countEntries before + 1) by
            omega, refused]

/-- Behind the items that the loop of a list steps over stands something overlong. -/
def OverlongItems (decoder : Decoder) (depth items : Nat) (data : Bytes) : Prop :=
  ∃ before rest, data = writeItems before ++ rest ∧
    (∀ item ∈ before, item.Every decoder.Admits (depth + 1)) ∧
    decoder.Overlong (depth + 1) (items + countItems before) rest

/-- Behind the entries that the loop of a dictionary adds to `out` stands the overlong
length of a key, or a key and something overlong. -/
def OverlongEntries (decoder : Decoder) (depth items : Nat) (out : List (Bytes × Value))
    (data : Bytes) : Prop :=
  ∃ before rest, data = writeEntries before ++ rest ∧ decoder.Extends out before ∧
    (∀ entry ∈ before, ShortLength entry.1 ∧
      (entry.1.length : Int) ≤ decoder.limits.maxStringLength) ∧
    (∀ entry ∈ before, entry.2.Every decoder.Admits (depth + 1)) ∧
    ((items + countEntries before + 1 : Nat) : Int) ≤ decoder.limits.maxItems ∧
    (OverlongLength rest ∨ ∃ key after, rest = writeBytes key ++ after ∧ ShortLength key ∧
      (key.length : Int) ≤ decoder.limits.maxStringLength ∧
      key ∉ (out ++ before).map Prod.fst ∧
      (decoder.requireSortedKeys →
        ∀ last, (out ++ before).getLast?.map Prod.fst = some last → last ≤ key) ∧
      decoder.Overlong (depth + 1) (items + countEntries before + 1) after)

theorem Overlong.list {decoder : Decoder} {depth items : Nat} {tail : Bytes}
    (shallow : (depth : Int) ≤ decoder.limits.maxDepth)
    (long : decoder.OverlongItems depth (items + 1) tail) :
    decoder.Overlong depth items (108 :: tail) := by
  obtain ⟨before, rest, rfl, each, containers, long⟩ := long
  have space : ((items + 1 + countItems before : Nat) : Int) ≤ decoder.limits.maxItems := by
    cases containers with
    | nil =>
        have room := long.2.1
        omega
    | cons opened inner =>
        have room := long.2.1
        omega
  rw [Nat.add_assoc] at long space
  exact ⟨.items before :: containers, shallow, space, each, rest, rfl, long⟩

theorem Overlong.dict {decoder : Decoder} {depth items : Nat} {tail : Bytes}
    (shallow : (depth : Int) ≤ decoder.limits.maxDepth)
    (long : decoder.OverlongEntries depth (items + 1) [] tail) :
    decoder.Overlong depth items (100 :: tail) := by
  obtain ⟨before, rest, rfl, added, names, each, space, long⟩ := long
  have admitted : decoder.AdmitsEntries depth before :=
    ⟨names, added.distinct List.nodup_nil, fun strict => added.sorted strict List.Pairwise.nil,
      each⟩
  obtain length | ⟨key, after, rfl, short, fits, fresh, inOrder, containers, long⟩ := long
  · refine ⟨[], shallow, by omega, .inr (.inr ⟨before, rest, rfl, admitted, length, space⟩)⟩
  · have counted : items + 1 + countEntries before + 1 = items + (1 + countEntries before + 1) := by
      omega
    rw [counted] at long space
    exact ⟨.entries before key :: containers, shallow, space,
      ⟨admitted, short, fits, fresh, inOrder⟩, after, by simp [Opened.write], long⟩

theorem OverlongItems.cons {decoder : Decoder} {depth items : Nat} {item : Value} {rest : Bytes}
    (admitted : item.Every decoder.Admits (depth + 1))
    (long : decoder.OverlongItems depth (items + item.count) rest) :
    decoder.OverlongItems depth items (item.write ++ rest) := by
  obtain ⟨before, after, rfl, each, long⟩ := long
  refine ⟨item :: before, after, by simp [writeItems],
    List.forall_mem_cons.mpr ⟨admitted, each⟩, ?_⟩
  rw [countItems, ← Nat.add_assoc]
  exact long

theorem OverlongEntries.cons {decoder : Decoder} {depth items : Nat}
    {out : List (Bytes × Value)} {key : Bytes} {item : Value} {rest : Bytes}
    (short : ShortLength key) (fits : (key.length : Int) ≤ decoder.limits.maxStringLength)
    (fresh : key ∉ out.map Prod.fst)
    (inOrder : ¬ (decoder.requireSortedKeys = true ∧
      ((out.getLast?).map Prod.fst).any (key < ·) = true))
    (admitted : item.Every decoder.Admits (depth + 1))
    (long : decoder.OverlongEntries depth (items + 1 + item.count) (out ++ [(key, item)]) rest) :
    decoder.OverlongEntries depth items out (writeBytes key ++ (item.write ++ rest)) := by
  obtain ⟨before, after, rfl, added, names, each, space, long⟩ := long
  have counted : items + countEntries ((key, item) :: before) =
      items + 1 + item.count + countEntries before := by
    simp only [countEntries]
    omega
  refine ⟨(key, item) :: before, after, by simp [writeEntries], added.cons fresh inOrder,
    List.forall_mem_cons.mpr ⟨⟨short, fits⟩, names⟩, List.forall_mem_cons.mpr ⟨admitted, each⟩,
    by rw [counted]; exact space, ?_⟩
  rw [counted]
  simpa only [List.append_assoc, List.singleton_append] using long

mutual

/-- What `parse` raises is a `BencodeError`, or it came to an overlong numeral. -/
theorem parse_faults (decoder : Decoder) :
    ∀ (steps : Nat) (data : Bytes) (depth items : Nat) (fault : PyError),
      2 * data.length + 1 ≤ steps → decoder.parse steps data depth items = .error fault →
      (∃ text, fault = .bencodeError text) ∨ decoder.Overlong depth items data
  | 0, _, _, _, _, enough, _ => by omega
  | steps + 1, [], depth, items, fault, _, failed => by
      unfold parse at failed
      split at failed <;> cases failed <;> exact .inl ⟨_, rfl⟩
  | steps + 1, marker :: tail, depth, items, fault, enough, failed => by
      rw [List.length_cons] at enough
      by_cases deep : decoder.limits.maxDepth < (depth : Int)
      · rw [parse, if_pos deep] at failed
        cases failed
        exact .inl ⟨_, rfl⟩
      by_cases full : decoder.limits.maxItems < ((items + 1 : Nat) : Int)
      · rw [parse, if_neg deep, count, if_pos full] at failed
        cases failed
        exact .inl ⟨_, rfl⟩
      have shallow : (depth : Int) ≤ decoder.limits.maxDepth := by omega
      have room : ((items + 1 : Nat) : Int) ≤ decoder.limits.maxItems := by omega
      rw [parse_marker _ _ _ shallow room] at failed
      split at failed
      · rename_i integer
        obtain malformed | long := parseInt_faults (bind_pure_error failed)
        · exact .inl malformed
        · exact .inr ⟨[], shallow, room, .inl ⟨tail, by rw [integer], long⟩⟩
      split at failed
      · rename_i list
        rw [list]
        exact (parseItems_faults decoder steps tail depth (items + 1) [] fault (by omega)
          failed).imp_right (Overlong.list shallow)
      split at failed
      · rename_i dict
        rw [dict]
        exact (parseEntries_faults decoder steps tail depth (items + 1) [] none fault (by omega)
          rfl failed).imp_right (Overlong.dict shallow)
      split at failed
      · obtain malformed | long := parseBytes_faults (bind_pure_error failed)
        · exact .inl malformed
        · exact .inr ⟨[], shallow, room, .inr (.inl long)⟩
      · cases failed
        exact .inl ⟨_, rfl⟩

theorem parseItems_faults (decoder : Decoder) :
    ∀ (steps : Nat) (data : Bytes) (depth items : Nat) (out : List Value) (fault : PyError),
      2 * data.length + 2 ≤ steps → decoder.parseItems steps data depth items out = .error fault →
      (∃ text, fault = .bencodeError text) ∨ decoder.OverlongItems depth items data
  | 0, _, _, _, _, _, enough, _ => by omega
  | steps + 1, [], _, _, _, _, _, failed => by
      cases failed
      exact .inl ⟨_, rfl⟩
  | steps + 1, byte :: tail, depth, items, out, fault, enough, failed => by
      unfold parseItems at failed
      split at failed
      · cases failed
      · cases outcome : decoder.parse steps (byte :: tail) (depth + 1) items with
        | error other =>
            rw [outcome] at failed
            cases failed
            refine (parse_faults decoder steps _ _ _ _ (by omega) outcome).imp_right fun long => ?_
            exact ⟨[], byte :: tail, rfl, by simp, long⟩
        | ok parsed =>
            obtain ⟨item, rest, counted⟩ := parsed
            rw [outcome] at failed
            have shorter := parse_shorter outcome
            obtain ⟨spelled, rfl, -, every⟩ := parse_sound decoder _ _ _ _ _ _ _ outcome
            rw [spelled]
            exact (parseItems_faults decoder steps rest depth _ _ fault (by omega)
              failed).imp_right (OverlongItems.cons every)

theorem parseEntries_faults (decoder : Decoder) :
    ∀ (steps : Nat) (data : Bytes) (depth items : Nat) (out : List (Bytes × Value))
      (previous : Option Bytes) (fault : PyError), 2 * data.length + 2 ≤ steps →
      previous = out.getLast?.map Prod.fst →
      decoder.parseEntries steps data depth items out previous = .error fault →
      (∃ text, fault = .bencodeError text) ∨ decoder.OverlongEntries depth items out data
  | 0, _, _, _, _, _, _, enough, _, _ => by omega
  | steps + 1, [], _, _, _, _, _, _, _, failed => by
      cases failed
      exact .inl ⟨_, rfl⟩
  | steps + 1, byte :: tail, depth, items, out, previous, fault, enough, last, failed => by
      unfold parseEntries at failed
      split at failed
      · cases failed
      by_cases full : decoder.limits.maxItems < ((items + 1 : Nat) : Int)
      · rw [count, if_pos full] at failed
        cases failed
        exact .inl ⟨_, rfl⟩
      rw [count_ok (by omega)] at failed
      simp only [bind, Except.bind] at failed
      cases named : decoder.parseBytes (byte :: tail) with
      | error other =>
          rw [named] at failed
          cases failed
          refine (parseBytes_faults named).imp_right fun long => ?_
          exact ⟨[], byte :: tail, rfl, ⟨by simp, by simp⟩, by simp, by simp,
            by simp only [countEntries]; omega, .inl long⟩
      | ok name =>
          obtain ⟨key, rest⟩ := name
          rw [named] at failed
          have shortened := parseBytes_shorter named
          obtain ⟨short, fits, spelled⟩ := (parseBytes_ok_iff _ _ _ _).mp named
          dsimp only at failed
          split at failed
          · cases failed
            exact .inl ⟨_, rfl⟩
          rename_i fresh
          split at failed
          · cases failed
            exact .inl ⟨_, rfl⟩
          rename_i inOrder
          rw [last] at inOrder
          cases outcome : decoder.parse steps rest (depth + 1) (items + 1) with
          | error other =>
              rw [outcome] at failed
              cases failed
              refine (parse_faults decoder steps _ _ _ _ (by omega) outcome).imp_right fun long => ?_
              refine ⟨[], byte :: tail, rfl, ⟨by simp, by simp⟩, by simp, by simp,
                by simp only [countEntries]; omega, .inr ⟨key, rest, spelled, short, fits,
                  by simpa using fresh, fun strict before found => ?_, long⟩⟩
              rw [List.append_nil] at found
              rw [found] at inOrder
              simp only [strict, Option.any_some, decide_eq_true_eq, true_and] at inOrder
              exact List.not_lt.mp inOrder
          | ok parsed =>
              obtain ⟨item, after, counted⟩ := parsed
              rw [outcome] at failed
              have shorter := parse_shorter outcome
              obtain ⟨written, rfl, -, every⟩ := parse_sound decoder _ _ _ _ _ _ _ outcome
              rw [spelled, written]
              exact (parseEntries_faults decoder steps after depth _ _ _ fault (by omega)
                (by simp) failed).imp_right (OverlongEntries.cons short fits fresh inOrder every)

end

end Decoder

section settles

variable {α β : Type} {first : Except PyError α} {next : α → Except PyError β}

theorem Settles.bind (here : Settles first)
    (later : ∀ value, first = .ok value → Settles (next value)) : Settles (first >>= next) := by
  obtain ⟨value, rfl⟩ | ⟨text, rfl⟩ := here
  · exact later value rfl
  · exact .inr ⟨text, rfl⟩

theorem not_settles {cause : String} (raised : first = .error (.valueError cause)) :
    ¬ Settles first := by
  intro settles
  obtain ⟨value, found⟩ | ⟨text, found⟩ := settles
  · rw [raised] at found
    cases found
  · rw [raised] at found
    cases found

end settles

theorem enough_steps (data : Bytes) : 2 * data.length + 1 ≤ stepBound data := by
  unfold stepBound
  omega

section overlong

variable {data : Bytes} {limits : DecodeLimits} {requireSortedKeys : Bool}

theorem decodePrefix_overlong
    (long : Decoder.Overlong ⟨data.length, limits, requireSortedKeys⟩ 0 0 data) :
    ∃ cause, decodePrefix data limits requireSortedKeys = .error (.valueError cause) := by
  obtain ⟨containers, long⟩ := long
  obtain ⟨cause, refused⟩ := Decoder.parse_overlong long (stepBound data) (enough_steps data)
  refine ⟨cause, ?_⟩
  rw [decodePrefix, refused]
  rfl

theorem decode_overlong
    (long : Decoder.Overlong ⟨data.length, limits, requireSortedKeys⟩ 0 0 data) :
    ∃ cause, decode data limits requireSortedKeys = .error (.valueError cause) := by
  obtain ⟨cause, failed⟩ := decodePrefix_overlong long
  refine ⟨cause, ?_⟩
  rw [decode, failed]
  rfl

theorem decodePrefix_settles
    (short : ¬ Decoder.Overlong ⟨data.length, limits, requireSortedKeys⟩ 0 0 data) :
    Settles (decodePrefix data limits requireSortedKeys) := by
  have parsed : Settles (Decoder.parse ⟨data.length, limits, requireSortedKeys⟩ (stepBound data)
      data 0 0) := by
    cases outcome : Decoder.parse ⟨data.length, limits, requireSortedKeys⟩ (stepBound data) data
        0 0 with
    | ok found => exact .inl ⟨found, rfl⟩
    | error fault =>
        obtain ⟨text, rfl⟩ :=
          (Decoder.parse_faults _ _ _ _ _ _ (enough_steps data) outcome).resolve_right short
        exact .inr ⟨text, rfl⟩
  exact parsed.bind fun _ _ => .inl ⟨_, rfl⟩

theorem decode_settles
    (short : ¬ Decoder.Overlong ⟨data.length, limits, requireSortedKeys⟩ 0 0 data) :
    Settles (decode data limits requireSortedKeys) := by
  refine (decodePrefix_settles short).bind fun found _ => ?_
  obtain ⟨value, consumed⟩ := found
  by_cases whole : consumed ≠ data.length
  · exact .inr ⟨_, if_pos whole⟩
  · exact .inl ⟨_, if_neg whole⟩

end overlong

/-- The decoder comes to a value or to a `BencodeError`, if and only if it comes to no numeral of
more than 4300 digits. -/
theorem settles_iff (data : Bytes) (limits : DecodeLimits) (requireSortedKeys : Bool) :
    (Settles (decodePrefix data limits requireSortedKeys) ↔
      ¬ Decoder.Overlong ⟨data.length, limits, requireSortedKeys⟩ 0 0 data) ∧
    (Settles (decode data limits requireSortedKeys) ↔
      ¬ Decoder.Overlong ⟨data.length, limits, requireSortedKeys⟩ 0 0 data) := by
  refine ⟨⟨fun settles long => ?_, decodePrefix_settles⟩, ⟨fun settles long => ?_, decode_settles⟩⟩
  · obtain ⟨cause, failed⟩ := decodePrefix_overlong long
    exact not_settles failed settles
  · obtain ⟨cause, failed⟩ := decode_overlong long
    exact not_settles failed settles

/-- `i11…1e`. -/
def onesInteger (digits : Nat) : Bytes := 105 :: (List.replicate digits 49 ++ [101])

theorem onesInteger_overlong (decoder : Decoder) (deep : 0 ≤ decoder.limits.maxDepth)
    (room : 1 ≤ decoder.limits.maxItems) (digits : Nat) (long : maxStrDigits ≤ digits) :
    decoder.Overlong 0 0 (onesInteger (digits + 1)) := by
  have natural : Decimal.unsigned (List.replicate (digits + 1) 49) =
      List.replicate (digits + 1) 49 := by
    rw [Decimal.unsigned, if_neg (by simp [List.replicate_succ])]
  have canonical : Decimal.CanonicalInt (List.replicate (digits + 1) 49) := by
    refine ⟨?_, by simp [List.replicate_succ]⟩
    rw [natural]
    refine ⟨by simp, fun byte member => ?_, by simp [List.replicate_succ]⟩
    rw [(List.mem_replicate.mp member).2]
    decide
  have more : maxStrDigits < (Decimal.unsigned (List.replicate (digits + 1) 49)).length := by
    rw [natural, List.length_replicate]
    omega
  exact ⟨[], deep, room, .inl ⟨_, rfl, overlongInteger_of canonical more []⟩⟩

/-- The exception that leaves the decoder at an integer of 4301 digits is no `BencodeError`; the
parser of extension handshakes, which catches only that one, lets it through. -/
theorem overlong_escapes :
    ¬ Settles (decode (onesInteger 4301) (PeerWire.limits {}) false) ∧
    ¬ Settles (decodePrefix (onesInteger 4301) (PeerWire.limits {}) false) ∧
    ∃ cause, PeerWire.parseExtensionHandshake {} (onesInteger 4301) =
      .error (.valueError cause) := by
  have long : Decoder.Overlong ⟨(onesInteger 4301).length, PeerWire.limits {}, false⟩ 0 0
      (onesInteger 4301) :=
    onesInteger_overlong _ (by decide) (by decide) 4300 (by decide)
  obtain ⟨cause, failed⟩ := decode_overlong long
  obtain ⟨other, stopped⟩ := decodePrefix_overlong long
  refine ⟨not_settles failed, not_settles stopped, cause, ?_⟩
  rw [PeerWire.parseExtensionHandshake, failed]
  rfl

end Bencode

end PyDht
