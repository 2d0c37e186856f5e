import PyDht.RoutingRestore
import PyDht.Lib.Collections

set_option autoImplicit false

namespace PyDht

/-- A `float`, as `json.loads` reads it; `Infinity` and `NaN` are among them. -/
inductive JsonFloat where
  | finite (value : Rat)
  | infinite (negative : Bool)
  | nan

/-- What a line of JSON stands for. -/
inductive JsonValue where
  | null
  | bool (value : Bool)
  | int (value : Int)
  | float (value : JsonFloat)
  | str (text : String)
  | list (items : List JsonValue)
  | dict (entries : List (String × JsonValue))

abbrev JsonRecord := List (String × JsonValue)

/-- The exceptions of the language that reading a snapshot can meet. -/
inductive BuiltinError where
  | jsonDecodeError
  | valueError
  | typeError
  | keyError
  | overflowError
  | recursionError
deriving DecidableEq, Repr

/-- `except (KeyError, TypeError, ValueError)`. -/
def BuiltinError.isSkipped : BuiltinError → Bool
  | .keyError | .typeError | .valueError | .jsonDecodeError => true
  | .overflowError | .recursionError => false

/-- The conversions whose results the code only passes on: `str` of what is no string, and `int` of
a string, where `none` stands for its `ValueError`. -/
structure Conversions where
  str : JsonValue → Except BuiltinError String
  int : String → Option Int

/-- What `json.loads` makes of a line. -/
abbrev SnapshotLine := Except BuiltinError JsonValue

namespace JsonRecord

/-- `record[key]`. -/
def item (record : JsonRecord) (key : String) : Except BuiltinError JsonValue :=
  match Dict.get? key record with
  | some value => .ok value
  | none => .error .keyError

/-- `record.get(key)`, if it is a string. -/
def text? (record : JsonRecord) (key : String) : Option String :=
  match Dict.get? key record with
  | some (.str text) => some text
  | _ => none

/-- The node ID of a header, if it has one. -/
def localNodeId (record : JsonRecord) : Option Bytes :=
  if record.text? "event" = some "header" then
    ((record.text? "local_node_id").map fun raw => (fromHex raw).getD []).filter (·.length = 20)
  else none

end JsonRecord

/-- `bytes.fromhex(value)`. -/
def hexOf : JsonValue → Except BuiltinError Bytes
  | .str text =>
      match fromHex text with
      | some nodeId => .ok nodeId
      | none => .error .valueError
  | _ => .error .typeError

namespace Conversions

/-- `str(value)`. -/
def textOf (conversions : Conversions) : JsonValue → Except BuiltinError String
  | .str text => .ok text
  | value => conversions.str value

/-- `int(value)`, which cuts off the fraction of a float. -/
def intOf (conversions : Conversions) : JsonValue → Except BuiltinError Int
  | .int value => .ok value
  | .bool value => .ok (if value then 1 else 0)
  | .float (.finite value) => .ok (value.num.tdiv value.den)
  | .float (.infinite _) => .error .overflowError
  | .float .nan => .error .valueError
  | .str text =>
      match conversions.int text with
      | some value => .ok value
      | none => .error .valueError
  | .null | .list _ | .dict _ => .error .typeError

/-- The `try` block of `restore_contacts`. -/
def readContact (conversions : Conversions) (record : JsonRecord) :
    Except BuiltinError (Bytes × String × Int) := do
  let nodeId ← hexOf (← record.item "node_id")
  let ip ← conversions.textOf (← record.item "ip")
  let port ← conversions.intOf (← record.item "udp_port")
  return (nodeId, ip, port)

end Conversions

/-- What `load_routing_snapshot` returns. -/
structure RoutingSnapshot where
  localNodeId : Option Bytes := none
  records : List JsonRecord := []

namespace RoutingSnapshot

/-- One round of the loop over the lines. -/
def takeLine (snapshot : RoutingSnapshot) : SnapshotLine → Except BuiltinError RoutingSnapshot
  | .error .jsonDecodeError => .ok snapshot
  | .error fault => .error fault
  | .ok (.dict record) =>
      .ok { localNodeId := JsonRecord.localNodeId record <|> snapshot.localNodeId
            records := snapshot.records ++ [record] }
  | .ok _ => .ok snapshot

/-- `load_routing_snapshot`; `none` is a file that is not there. -/
def load : Option (List SnapshotLine) → Except BuiltinError RoutingSnapshot
  | none => .ok {}
  | some lines => lines.foldlM takeLine {}

/-- The records of a file, all other lines skipped. -/
def recordsOf (file : Option (List SnapshotLine)) : List JsonRecord :=
  (file.getD []).filterMap fun line =>
    match line with
    | .ok (.dict record) => some record
    | _ => none

end RoutingSnapshot

/-- What can end the restore: an exception of the language, or one of the table. -/
inductive RestoreError where
  | builtin (fault : BuiltinError)
  | table (fault : PyError)
deriving DecidableEq, Repr

/-- The table, and the contacts that it took a look at so far: `observe` turns its own node ID away,
and one that is not 20 bytes long. -/
structure Restoring where
  table : RoutingTable
  observed : List (Bytes × String × Int) := []

namespace Restoring

/-- One round of `restore_contacts`. -/
def restoreRecord (conversions : Conversions) (config : Config) (now : Int) (record : JsonRecord)
    (state : Restoring) : Except RestoreError Restoring :=
  if record.text? "event" ≠ some "contact" then .ok state
  else
    match conversions.readContact record with
    | .ok contact =>
        match state.table.observe config now contact.1 contact.2.1 contact.2.2 {} with
        | .ok (table, some _) => .ok { table, observed := state.observed ++ [contact] }
        | .ok (table, none) => .ok { state with table }
        | .error fault => .error (.table fault)
    | .error fault => if fault.isSkipped then .ok state else .error (.builtin fault)

/-- `restore_contacts`, which reads the clock anew for each record. -/
def restoreContacts (conversions : Conversions) (config : Config) (clock : Nat → Int) :
    Nat → List JsonRecord → Restoring → Except RestoreError Restoring
  | _, [], state => .ok state
  | tick, record :: records, state => do
      restoreContacts conversions config clock (tick + 1) records
        (← restoreRecord conversions config (clock tick) record state)

/-- The restore in `async_main`: a node without a saved ID draws one. -/
def startup (conversions : Conversions) (config : Config) (clock : Nat → Int) (drawn : Bytes)
    (file : Option (List SnapshotLine)) : Except RestoreError Restoring := do
  let snapshot ← (RoutingSnapshot.load file).mapError .builtin
  let table ← (RoutingTable.new (snapshot.localNodeId.getD drawn) (clock 0)).mapError .table
  restoreContacts conversions config clock 1 snapshot.records { table }

end Restoring

namespace RoutingSnapshot

/-- The line is a value, or `json.loads` raises what the loop expects. -/
def Decoded (line : SnapshotLine) : Prop := ∀ fault, line = .error fault → fault = .jsonDecodeError

theorem recordsOf_cons (line : SnapshotLine) (lines : List SnapshotLine) :
    recordsOf (some (line :: lines)) = recordsOf (some [line]) ++ recordsOf (some lines) :=
  @List.filterMap_append _ _ [line] lines _

theorem localNodeId_length {record : JsonRecord} {found : Bytes}
    (named : JsonRecord.localNodeId record = some found) : found.length = 20 := by
  unfold JsonRecord.localNodeId at named
  split at named
  · exact of_decide_eq_true (Option.filter_eq_some_iff.mp named).2
  · cases named

/-- A line that the loop can take adds its record, if it is one. -/
theorem takeLine_ok {line : SnapshotLine} (decoded : Decoded line) (snapshot : RoutingSnapshot) :
    ∃ nodeId, snapshot.takeLine line =
        .ok { localNodeId := nodeId, records := snapshot.records ++ recordsOf (some [line]) } ∧
      ∀ found, nodeId = some found → snapshot.localNodeId = some found ∨ found.length = 20 := by
  have unchanged : ∀ other : SnapshotLine, recordsOf (some [other]) = [] →
      ({ localNodeId := snapshot.localNodeId
         records := snapshot.records ++ recordsOf (some [other]) } : RoutingSnapshot) = snapshot := by
    intro other none
    rw [none, List.append_nil]
  cases line with
  | error fault =>
      rw [decoded fault rfl]
      exact ⟨_, congrArg Except.ok (unchanged _ rfl).symm, fun _ known => .inl known⟩
  | ok value =>
      cases value with
      | dict record =>
          refine ⟨_, rfl, fun found known => ?_⟩
          cases named : JsonRecord.localNodeId record with
          | none =>
              rw [named] at known
              exact .inl known
          | some nodeId =>
              rw [named] at known
              rw [← Option.some.inj known]
              exact .inr (localNodeId_length named)
      | _ => exact ⟨_, congrArg Except.ok (unchanged _ rfl).symm, fun _ known => .inl known⟩

/-- Such lines are taken one after the other. -/
theorem takeLines_ok {lines : List SnapshotLine} (decoded : ∀ line ∈ lines, Decoded line)
    (snapshot : RoutingSnapshot) :
    ∃ nodeId, lines.foldlM takeLine snapshot =
        .ok { localNodeId := nodeId, records := snapshot.records ++ recordsOf (some lines) } ∧
      ∀ found, nodeId = some found → snapshot.localNodeId = some found ∨ found.length = 20 := by
  induction lines generalizing snapshot with
  | nil => exact ⟨snapshot.localNodeId, congrArg Except.ok (by rw [recordsOf]; simp),
      fun _ known => .inl known⟩
  | cons line lines ih =>
      obtain ⟨here, behind⟩ := List.forall_mem_cons.mp decoded
      obtain ⟨first, taken, lengths⟩ := takeLine_ok here snapshot
      obtain ⟨last, folded, further⟩ := ih behind
        { localNodeId := first, records := snapshot.records ++ recordsOf (some [line]) }
      refine ⟨last, ?_, fun found known => ?_⟩
      · rw [List.foldlM_cons, taken, recordsOf_cons line lines, ← List.append_assoc]
        exact folded
      · obtain before | length := further found known
        · exact lengths found before
        · exact .inr length

/-- Another line ends the load. -/
theorem takeLines_raise {lines : List SnapshotLine} {line : SnapshotLine} (member : line ∈ lines)
    (other : ¬ Decoded line) (snapshot : RoutingSnapshot) :
    ∃ fault, lines.foldlM takeLine snapshot = .error fault := by
  induction lines generalizing snapshot with
  | nil => exact absurd member List.not_mem_nil
  | cons first lines ih =>
      rw [List.foldlM_cons]
      cases taken : snapshot.takeLine first with
      | error fault => exact ⟨fault, rfl⟩
      | ok next =>
          obtain isFirst | later := List.mem_cons.mp member
          · exfalso
            apply other
            intro fault raised
            rw [← isFirst, raised] at taken
            unfold takeLine at taken
            cases fault with
            | jsonDecodeError => rfl
            | _ => cases taken
          · exact ih later next

end RoutingSnapshot

namespace Conversions

/-- The conversions of a contact end the restore: its ID and its address are there, and its address
cannot be written or its port is infinite. -/
def Overflows (conversions : Conversions) (record : JsonRecord) : Prop :=
  ∃ nodeId ip, ((record.text? "node_id").bind fromHex) = some nodeId ∧
    Dict.get? "ip" record = some ip ∧
      ((∃ fault, conversions.textOf ip = .error fault ∧ fault.isSkipped = false) ∨
        ∃ text negative, conversions.textOf ip = .ok text ∧
          Dict.get? "udp_port" record = some (.float (.infinite negative)))

theorem item_ok_iff {record : JsonRecord} {key : String} {value : JsonValue} :
    record.item key = .ok value ↔ Dict.get? key record = some value := by
  unfold JsonRecord.item
  cases Dict.get? key record with
  | none =>
      constructor
      · intro read
        cases read
      · intro read
        cases read
  | some found => simp

theorem item_skipped {record : JsonRecord} {key : String} {fault : BuiltinError}
    (raised : record.item key = .error fault) : fault.isSkipped = true := by
  unfold JsonRecord.item at raised
  split at raised
  · cases raised
  · cases raised
    rfl

theorem hexOf_skipped {value : JsonValue} {fault : BuiltinError}
    (raised : hexOf value = .error fault) : fault.isSkipped = true := by
  unfold hexOf at raised
  split at raised
  · split at raised
    · cases raised
    · cases raised
      rfl
  · cases raised
    rfl

/-- The ID of a contact is read from a string of hexadecimal digits. -/
theorem nodeId_ok_iff {record : JsonRecord} {nodeId : Bytes} :
    (∃ value, record.item "node_id" = .ok value ∧ hexOf value = .ok nodeId) ↔
      (record.text? "node_id").bind fromHex = some nodeId := by
  unfold JsonRecord.text?
  constructor
  · intro read
    obtain ⟨value, found, hex⟩ := read
    rw [item_ok_iff.mp found]
    cases value with
    | str text =>
        unfold hexOf at hex
        dsimp only at hex
        split at hex
        · rename_i found
          rw [← Except.ok.inj hex]
          exact found
        · cases hex
    | _ => cases hex
  · intro named
    obtain ⟨text, isText, digits⟩ := Option.bind_eq_some_iff.mp named
    split at isText
    · rename_i text' found
      rw [← Option.some.inj isText] at digits
      refine ⟨.str text', item_ok_iff.mpr found, ?_⟩
      unfold hexOf
      dsimp only
      rw [digits]
    · cases isText

/-- Only an infinite number is too much for `int`. -/
theorem intOf_raises_iff (conversions : Conversions) (value : JsonValue) :
    (∃ fault, conversions.intOf value = .error fault ∧ fault.isSkipped = false) ↔
      ∃ negative, value = .float (.infinite negative) := by
  constructor
  · intro raises
    obtain ⟨fault, raised, other⟩ := raises
    unfold intOf at raised
    split at raised
    case h_4 negative => exact ⟨negative, rfl⟩
    case h_6 text =>
      split at raised
      · cases raised
      · cases raised
        cases other
    all_goals
      cases raised
      try cases other
  · intro infinite
    obtain ⟨negative, rfl⟩ := infinite
    exact ⟨.overflowError, rfl, rfl⟩

/-- The `try` block raises something else exactly for such a record. -/
theorem readContact_raises_iff (conversions : Conversions) (record : JsonRecord) :
    (∃ fault, conversions.readContact record = .error fault ∧ fault.isSkipped = false) ↔
      conversions.Overflows record := by
  constructor
  · intro raises
    obtain ⟨fault, raised, other⟩ := raises
    have expected : ∀ {known : BuiltinError}, known.isSkipped = true → known = fault → False := by
      intro known skipped same
      rw [same, other] at skipped
      cases skipped
    unfold readContact at raised
    rcases bind_error_iff.mp raised with noId | ⟨idValue, hasId, raised⟩
    · exact (expected (item_skipped noId) rfl).elim
    rcases bind_error_iff.mp raised with noHex | ⟨nodeId, hex, raised⟩
    · exact (expected (hexOf_skipped noHex) rfl).elim
    have named := nodeId_ok_iff.mp ⟨idValue, hasId, hex⟩
    rcases bind_error_iff.mp raised with noIp | ⟨ip, hasIp, raised⟩
    · exact (expected (item_skipped noIp) rfl).elim
    refine ⟨nodeId, ip, named, item_ok_iff.mp hasIp, ?_⟩
    rcases bind_error_iff.mp raised with noText | ⟨text, written, raised⟩
    · exact .inl ⟨fault, noText, other⟩
    rcases bind_error_iff.mp raised with noPort | ⟨port, hasPort, raised⟩
    · exact (expected (item_skipped noPort) rfl).elim
    rcases bind_error_iff.mp raised with noInt | ⟨number, converted, raised⟩
    · obtain ⟨negative, infinite⟩ := (conversions.intOf_raises_iff port).mp ⟨fault, noInt, other⟩
      rw [infinite] at hasPort
      exact .inr ⟨text, negative, written, item_ok_iff.mp hasPort⟩
    · cases raised
  · intro overflows
    obtain ⟨nodeId, ip, named, hasIp, cause⟩ := overflows
    obtain ⟨idValue, hasId, hex⟩ := nodeId_ok_iff.mpr named
    have reads : ∀ fault, (do
        let text ← conversions.textOf ip
        let port ← conversions.intOf (← record.item "udp_port")
        return (nodeId, text, port)) = .error fault → conversions.readContact record = .error fault := by
      intro fault raised
      exact bind_error_iff.mpr (.inr ⟨idValue, hasId, bind_error_iff.mpr (.inr ⟨nodeId, hex,
        bind_error_iff.mpr (.inr ⟨ip, item_ok_iff.mpr hasIp, raised⟩)⟩)⟩)
    rcases cause with ⟨fault, noText, other⟩ | ⟨text, negative, written, hasPort⟩
    · exact ⟨fault, reads fault (bind_error_iff.mpr (.inl noText)), other⟩
    · refine ⟨.overflowError, reads _ (bind_error_iff.mpr (.inr ⟨text, written, ?_⟩)), rfl⟩
      rw [item_ok_iff.mpr hasPort]
      rfl

end Conversions

end PyDht
