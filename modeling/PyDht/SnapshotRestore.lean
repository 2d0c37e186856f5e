import PyDht.RoutingSnapshot

set_option autoImplicit false

namespace PyDht

namespace Conversions

/-- The contact of a record, if it can be read. -/
def contact? (conversions : Conversions) (record : JsonRecord) : Option (Bytes × String × Int) :=
  if record.text? "event" = some "contact" then (conversions.readContact record).toOption else none

end Conversions

namespace Restoring

variable {config : Config} {conversions : Conversions}

/-- What a round of the loop adds to the contacts. -/
def taken (conversions : Conversions) (localNodeId : Bytes) (record : JsonRecord) :
    Option (Bytes × String × Int) :=
  (conversions.contact? record).filter fun contact =>
    contact.1.length = DHT_NODE_ID_BYTES ∧ contact.1 ≠ localNodeId

/-- A record whose conversions are sound is skipped or observed. -/
theorem restoreRecord_ok (validConfig : 1 ≤ config.dhtRoutingBadAfterFailures) {record : JsonRecord}
    (sound : record.text? "event" = some "contact" → ¬ conversions.Overflows record)
    {state : Restoring} {depth : Nat} (inv : RoutingTable.Inv config state.table depth) (now : Int) :
    ∃ next depth', restoreRecord conversions config now record state = .ok next ∧
      RoutingTable.Inv config next.table depth' ∧
      next.table.localNodeId = state.table.localNodeId ∧
      next.observed = state.observed ++ (taken conversions state.table.localNodeId record).toList := by
  by_cases event : record.text? "event" = some "contact"
  · cases read : conversions.readContact record with
    | error fault =>
        have skipped : fault.isSkipped = true := by
          by_contra other
          exact sound event ((conversions.readContact_raises_iff record).mp
            ⟨fault, read, Bool.eq_false_iff.mpr other⟩)
        refine ⟨state, depth, ?_, inv, rfl, ?_⟩
        · simp [restoreRecord, event, read, skipped]
        · simp [taken, Conversions.contact?, event, read, Except.toOption]
    | ok contact =>
        obtain ⟨table, found, depth', run, inv', sameLocal⟩ :=
          inv.observe validConfig now contact.1 contact.2.1 contact.2.2 {}
        have looked := RoutingTable.observe_found run
        have isTaken : taken conversions state.table.localNodeId record =
            if found.isSome then some contact else none := by
          rw [looked]
          simp [taken, Conversions.contact?, event, read, Except.toOption, Option.filter]
        cases found with
        | none =>
            refine ⟨{ state with table }, depth', ?_, inv', sameLocal, ?_⟩
            · simp [restoreRecord, event, read, run]
            · simp [isTaken]
        | some seen =>
            refine ⟨{ table, observed := state.observed ++ [contact] }, depth', ?_, inv', sameLocal, ?_⟩
            · simp [restoreRecord, event, read, run]
            · simp [isTaken]
  · refine ⟨state, depth, ?_, inv, rfl, ?_⟩
    · simp [restoreRecord, event]
    · simp [taken, Conversions.contact?, event]

/-- Any other contact record ends the restore. -/
theorem restoreRecord_raises {record : JsonRecord} (event : record.text? "event" = some "contact")
    (overflows : conversions.Overflows record) (now : Int) (state : Restoring) :
    ∃ fault, restoreRecord conversions config now record state = .error fault := by
  obtain ⟨fault, raised, other⟩ := (conversions.readContact_raises_iff record).mpr overflows
  refine ⟨.builtin fault, ?_⟩
  simp [restoreRecord, event, raised, other]

/-- The loop over sound records observes the contacts of all of them, in their order. -/
theorem restoreContacts_ok (validConfig : 1 ≤ config.dhtRoutingBadAfterFailures)
    (clock : Nat → Int) {records : List JsonRecord}
    (sound : ∀ record ∈ records,
      record.text? "event" = some "contact" → ¬ conversions.Overflows record)
    {state : Restoring} {depth : Nat} (inv : RoutingTable.Inv config state.table depth) (tick : Nat) :
    ∃ last, restoreContacts conversions config clock tick records state = .ok last ∧
      last.table.localNodeId = state.table.localNodeId ∧
      last.observed =
        state.observed ++ records.filterMap (taken conversions state.table.localNodeId) := by
  induction records generalizing state depth tick with
  | nil => exact ⟨state, rfl, rfl, (List.append_nil _).symm⟩
  | cons record records ih =>
      obtain ⟨here, behind⟩ := List.forall_mem_cons.mp sound
      obtain ⟨next, depth', run, inv', sameLocal, grown⟩ :=
        restoreRecord_ok validConfig here inv (clock tick)
      obtain ⟨last, runs, sameLocal', observed⟩ := ih behind inv' (tick + 1)
      refine ⟨last, bind_ok_iff.mpr ⟨next, run, runs⟩, sameLocal'.trans sameLocal, ?_⟩
      rw [observed, grown, sameLocal, List.append_assoc]
      cases found : taken conversions state.table.localNodeId record with
      | none => rw [List.filterMap_cons_none found, Option.toList_none, List.nil_append]
      | some contact => rw [List.filterMap_cons_some found, Option.toList_some, List.singleton_append]

theorem restoreContacts_raises (clock : Nat → Int) {records : List JsonRecord} {record : JsonRecord}
    (member : record ∈ records) (event : record.text? "event" = some "contact")
    (overflows : conversions.Overflows record) (tick : Nat) (state : Restoring) :
    ∃ fault, restoreContacts conversions config clock tick records state = .error fault := by
  induction records generalizing tick state with
  | nil => exact absurd member List.not_mem_nil
  | cons first records ih =>
      cases run : restoreRecord conversions config (clock tick) first state with
      | error fault => exact ⟨fault, bind_error_iff.mpr (.inl run)⟩
      | ok next =>
          obtain isFirst | later := List.mem_cons.mp member
          · obtain ⟨fault, raised⟩ := restoreRecord_raises event overflows (clock tick) state
            rw [isFirst, run] at raised
            cases raised
          · obtain ⟨fault, raised⟩ := ih later (tick + 1) next
            exact ⟨fault, bind_error_iff.mpr (.inr ⟨next, run, raised⟩)⟩

end Restoring

/-- Forty hexadecimal digits. -/
structure HexId (text : String) : Prop where
  length : text.toList.length = 40
  digits : ∀ digit ∈ text.toList, (hexValue digit).isSome

theorem hexValue_visible {digit : Char} (isDigit : (hexValue digit).isSome) :
    isAsciiSpace digit = false := by
  unfold hexValue at isDigit
  have bounds : ∀ low high : Char, low ≤ digit ∧ digit ≤ high →
      low.toNat ≤ digit.toNat ∧ digit.toNat ≤ high.toNat := fun _ _ inside => inside
  have range : 48 ≤ digit.toNat := by
    split at isDigit
    · rename_i inside
      exact (bounds '0' '9' inside).1
    · split at isDigit
      · rename_i inside
        exact Nat.le_trans (by decide) (bounds 'a' 'f' inside).1
      · split at isDigit
        · rename_i inside
          exact Nat.le_trans (by decide) (bounds 'A' 'F' inside).1
        · cases isDigit
  have other : ∀ space : Char, space.toNat < 48 → digit ≠ space := by
    intro space low same
    rw [same] at range
    omega
  unfold isAsciiSpace
  simp [other ' ' (by decide), other '\t' (by decide), other '\n' (by decide),
    other '\r' (by decide)]
  omega

/-- Digits are read two by two. -/
theorem fromHexChars_digits (count : Nat) {digits : List Char} (length : digits.length = 2 * count)
    (valid : ∀ digit ∈ digits, (hexValue digit).isSome) :
    ∃ value, fromHexChars digits = some value ∧ value.length = count := by
  induction count generalizing digits with
  | zero =>
      rw [List.length_eq_zero_iff.mp length]
      exact ⟨[], rfl, rfl⟩
  | succ count ih =>
      obtain ⟨high, low, rest, rfl⟩ : ∃ high low rest, digits = high :: low :: rest := by
        cases digits with
        | nil => simp at length
        | cons high digits =>
            cases digits with
            | nil =>
                simp only [List.length_cons, List.length_nil] at length
                omega
            | cons low rest => exact ⟨high, low, rest, rfl⟩
      obtain ⟨isHigh, valid⟩ := List.forall_mem_cons.mp valid
      obtain ⟨isLow, valid⟩ := List.forall_mem_cons.mp valid
      obtain ⟨value, read, size⟩ := ih (by simp only [List.length_cons] at length; omega) valid
      obtain ⟨top, hasTop⟩ := Option.isSome_iff_exists.mp isHigh
      obtain ⟨bottom, hasBottom⟩ := Option.isSome_iff_exists.mp isLow
      refine ⟨UInt8.ofNat (16 * top + bottom) :: value, ?_, by simp [size]⟩
      rw [fromHexChars, hexValue_visible isHigh]
      simp [hasTop, hasBottom, read]

theorem HexId.nodeId {text : String} (isId : HexId text) :
    ∃ nodeId, fromHex text = some nodeId ∧ nodeId.length = DHT_NODE_ID_BYTES :=
  fromHexChars_digits 20 isId.length isId.digits

/-- A contact record as `snapshot_records` writes it, of another node. -/
structure WellFormed (localNodeId : Bytes) (record : JsonRecord) (digits ip : String) (port : Int) :
    Prop where
  event : record.text? "event" = some "contact"
  nodeId : record.text? "node_id" = some digits
  isId : HexId digits
  foreign : fromHex digits ≠ some localNodeId
  ip : record.text? "ip" = some ip
  port : Dict.get? "udp_port" record = some (.int port)

theorem JsonRecord.text?_eq_some {record : JsonRecord} {key text : String}
    (found : record.text? key = some text) : Dict.get? key record = some (.str text) := by
  unfold JsonRecord.text? at found
  split at found
  · rename_i text' isText
    rw [isText, Option.some.inj found]
  · cases found

theorem WellFormed.taken {conversions : Conversions} {localNodeId : Bytes} {record : JsonRecord}
    {digits ip : String} {port : Int} (wellFormed : WellFormed localNodeId record digits ip port) :
    ∃ nodeId, fromHex digits = some nodeId ∧
      Restoring.taken conversions localNodeId record = some (nodeId, ip, port) := by
  obtain ⟨nodeId, read, length⟩ := wellFormed.isId.nodeId
  have foreign : nodeId ≠ localNodeId := by
    intro same
    exact wellFormed.foreign (by rw [read, same])
  obtain ⟨idValue, hasId, hex⟩ := Conversions.nodeId_ok_iff.mpr
    (show (record.text? "node_id").bind fromHex = some nodeId by
      rw [wellFormed.nodeId, Option.bind_some, read])
  have contact : conversions.readContact record = .ok (nodeId, ip, port) := by
    refine bind_ok_iff.mpr ⟨idValue, hasId, bind_ok_iff.mpr ⟨nodeId, hex, ?_⟩⟩
    refine bind_ok_iff.mpr ⟨.str ip, Conversions.item_ok_iff.mpr
      (JsonRecord.text?_eq_some wellFormed.ip), bind_ok_iff.mpr ⟨ip, rfl, ?_⟩⟩
    exact bind_ok_iff.mpr ⟨.int port, Conversions.item_ok_iff.mpr wellFormed.port,
      bind_ok_iff.mpr ⟨port, rfl, rfl⟩⟩
  refine ⟨nodeId, read, ?_⟩
  simp [Restoring.taken, Conversions.contact?, wellFormed.event, contact, Except.toOption,
    Option.filter, length, foreign]

namespace Restoring

/-- The restore skipped the malformed records of the file and no well-formed one. -/
structure Restored (conversions : Conversions) (file : Option (List SnapshotLine))
    (state : Restoring) : Prop where
  kept : ∀ record ∈ RoutingSnapshot.recordsOf file, ∀ digits ip port,
    WellFormed state.table.localNodeId record digits ip port →
      ∃ nodeId, fromHex digits = some nodeId ∧ (nodeId, ip, port) ∈ state.observed
  read : ∀ contact ∈ state.observed, ∃ record ∈ RoutingSnapshot.recordsOf file,
    conversions.contact? record = some contact

/-- Each line is a value or no JSON at all, and the conversions of each contact are sound. -/
structure Readable (conversions : Conversions) (file : Option (List SnapshotLine)) : Prop where
  decoded : ∀ line ∈ file.getD [], RoutingSnapshot.Decoded line
  sound : ∀ record ∈ RoutingSnapshot.recordsOf file,
    record.text? "event" = some "contact" → ¬ conversions.Overflows record

end Restoring

namespace RoutingSnapshot

theorem load_ok {file : Option (List SnapshotLine)}
    (decoded : ∀ line ∈ file.getD [], Decoded line) :
    ∃ nodeId, load file = .ok { localNodeId := nodeId, records := recordsOf file } ∧
      ∀ found, nodeId = some found → found.length = DHT_NODE_ID_BYTES := by
  cases file with
  | none =>
      refine ⟨none, rfl, fun found named => ?_⟩
      cases named
  | some lines =>
      obtain ⟨nodeId, taken, lengths⟩ := takeLines_ok decoded {}
      refine ⟨nodeId, taken, fun found named => ?_⟩
      obtain before | length := lengths found named
      · cases before
      · exact length

theorem load_raises {file : Option (List SnapshotLine)} {line : SnapshotLine}
    (member : line ∈ file.getD []) (other : ¬ Decoded line) :
    ∃ fault, load file = .error fault := by
  cases file with
  | none => exact absurd member List.not_mem_nil
  | some lines => exact takeLines_raise member other {}

end RoutingSnapshot

namespace Restoring

variable {config : Config}

/-- With a readable file the restore returns. -/
theorem Readable.startup {conversions : Conversions} {file : Option (List SnapshotLine)}
    (readable : Readable conversions file) (validConfig : 1 ≤ config.dhtRoutingBadAfterFailures)
    (clock : Nat → Int) {drawn : Bytes} (length : drawn.length = DHT_NODE_ID_BYTES) :
    ∃ state, startup conversions config clock drawn file = .ok state ∧
      Restored conversions file state := by
  obtain ⟨nodeId, loaded, lengths⟩ := RoutingSnapshot.load_ok readable.decoded
  have nodeLength : (nodeId.getD drawn).length = DHT_NODE_ID_BYTES := by
    cases nodeId with
    | none => exact length
    | some found => exact lengths found rfl
  obtain ⟨table, made, inv, sameLocal⟩ := RoutingTable.new_inv config nodeLength (clock 0)
  have start : RoutingTable.Inv config ({ table } : Restoring).table 0 := inv
  obtain ⟨last, run, sameLocal', observed⟩ :=
    restoreContacts_ok validConfig clock readable.sound start 1
  rw [List.nil_append, ← sameLocal'] at observed
  refine ⟨last, ?_, ⟨?_, ?_⟩⟩
  · refine bind_ok_iff.mpr ⟨_, by rw [loaded]; rfl, bind_ok_iff.mpr ⟨table, ?_, run⟩⟩
    rw [made]
    rfl
  · intro record member digits ip port wellFormed
    obtain ⟨found, read, taken⟩ := @WellFormed.taken conversions _ _ _ _ _ wellFormed
    exact ⟨found, read, observed ▸ List.mem_filterMap.mpr ⟨record, member, taken⟩⟩
  · intro contact member
    rw [observed] at member
    obtain ⟨record, present, taken⟩ := List.mem_filterMap.mp member
    exact ⟨record, present, (Option.filter_eq_some_iff.mp taken).1⟩

/-- Any other file ends the restore. -/
theorem readable_of_startup {conversions : Conversions} {clock : Nat → Int} {drawn : Bytes}
    {file : Option (List SnapshotLine)} {state : Restoring}
    (run : startup conversions config clock drawn file = .ok state) : Readable conversions file := by
  obtain ⟨snapshot, loads, run⟩ := bind_ok_iff.mp run
  have decoded : ∀ line ∈ file.getD [], RoutingSnapshot.Decoded line := by
    intro line member
    by_contra other
    obtain ⟨fault, raised⟩ := RoutingSnapshot.load_raises member other
    rw [raised] at loads
    cases loads
  obtain ⟨nodeId, loaded, -⟩ := RoutingSnapshot.load_ok decoded
  rw [loaded] at loads
  obtain ⟨table, -, run⟩ := bind_ok_iff.mp run
  refine ⟨decoded, fun record member event overflows => ?_⟩
  rw [← Except.ok.inj loads] at run
  obtain ⟨fault, raised⟩ :=
    @restoreContacts_raises config _ clock _ _ member event overflows 1 { table }
  rw [raised] at run
  cases run

/-- The node starts, and skips nothing but what is malformed, exactly with a readable file. -/
theorem startup_restores_iff (conversions : Conversions) (config : Config)
    (validConfig : 1 ≤ config.dhtRoutingBadAfterFailures) (clock : Nat → Int) (drawn : Bytes)
    (length : drawn.length = DHT_NODE_ID_BYTES) (file : Option (List SnapshotLine)) :
    (∃ state, startup conversions config clock drawn file = .ok state ∧
      Restored conversions file state) ↔ Readable conversions file := by
  constructor
  · intro starts
    obtain ⟨state, run, -⟩ := starts
    exact readable_of_startup run
  · intro readable
    exact readable.startup validConfig clock length

def sampleConversions : Conversions := { str := fun _ => .error .recursionError, int := fun _ => none }

/-- A contact record with this port. -/
def sampleRecord (port : JsonValue) : JsonRecord :=
  [("event", .str "contact"), ("node_id", .str (hex (List.replicate 20 1))),
    ("ip", .str "192.0.2.1"), ("udp_port", port)]

theorem sampleRecord_ip (port : JsonValue) :
    Dict.get? "ip" (sampleRecord port) = some (.str "192.0.2.1") := by
  simp [sampleRecord, Dict.get?]

theorem sampleRecord_port (port : JsonValue) :
    Dict.get? "udp_port" (sampleRecord port) = some port := by
  simp [sampleRecord, Dict.get?]

/-- A line that is no JSON, a number, and a contact whose port is no number are skipped. -/
theorem startup_restores_iff_sample :
    ∃ state, startup sampleConversions {} (fun _ => 0) (List.replicate 20 2)
        (some [.error .jsonDecodeError, .ok (.int 7), .ok (.dict (sampleRecord .null)),
          .ok (.dict (sampleRecord (.int 6881)))]) = .ok state ∧
      Restored sampleConversions (some [.error .jsonDecodeError, .ok (.int 7),
        .ok (.dict (sampleRecord .null)), .ok (.dict (sampleRecord (.int 6881)))]) state := by
  apply (startup_restores_iff sampleConversions {} (by decide) (fun _ => 0) (List.replicate 20 2)
    (by decide) _).mpr
  have sound : ∀ port : JsonValue, (∀ negative, port ≠ .float (.infinite negative)) →
      ¬ sampleConversions.Overflows (sampleRecord port) := by
    intro port finite overflows
    obtain ⟨nodeId, ip, -, isIp, noText | noPort⟩ := overflows
    · obtain ⟨fault, raised, -⟩ := noText
      rw [sampleRecord_ip] at isIp
      rw [← Option.some.inj isIp] at raised
      cases raised
    · obtain ⟨text, negative, -, isPort⟩ := noPort
      rw [sampleRecord_port] at isPort
      exact finite negative (Option.some.inj isPort)
  constructor
  · intro line member fault raised
    simp only [Option.getD_some, List.mem_cons, List.not_mem_nil, or_false] at member
    rcases member with rfl | rfl | rfl | rfl <;> cases raised
    rfl
  · intro record member event
    simp only [RoutingSnapshot.recordsOf, Option.getD_some, List.filterMap_cons,
      List.filterMap_nil, List.mem_cons, List.not_mem_nil, or_false] at member
    rcases member with rfl | rfl
    · exact sound _ fun negative same => JsonValue.noConfusion same
    · exact sound _ fun negative same => JsonValue.noConfusion same

/-- One contact with the port `Infinity` keeps the node from starting. -/
theorem startup_infinitePort :
    ¬ ∃ state, startup sampleConversions {} (fun _ => 0) (List.replicate 20 2)
        (some [.ok (.dict (sampleRecord (.float (.infinite false))))]) = .ok state ∧
      Restored sampleConversions
        (some [.ok (.dict (sampleRecord (.float (.infinite false))))]) state := by
  intro starts
  obtain ⟨state, run, -⟩ := starts
  have event : JsonRecord.text? (sampleRecord (.float (.infinite false))) "event" =
      some "contact" := by
    simp [sampleRecord, JsonRecord.text?, Dict.get?]
  have nodeId : JsonRecord.text? (sampleRecord (.float (.infinite false))) "node_id" =
      some (hex (List.replicate 20 1)) := by
    simp [sampleRecord, JsonRecord.text?, Dict.get?]
  apply (readable_of_startup run).sound _ List.mem_cons_self event
  refine ⟨List.replicate 20 1, .str "192.0.2.1", ?_, sampleRecord_ip _,
    .inr ⟨"192.0.2.1", false, rfl, sampleRecord_port _⟩⟩
  rw [nodeId, Option.bind_some, fromHex_hex]

end Restoring

/-- The JSON of a record of a snapshot. -/
def SnapshotRecord.fields (record : SnapshotRecord) : JsonRecord :=
  [("event", record.event.map JsonValue.str), ("local_node_id", record.localNodeId.map .str),
    ("node_id", record.nodeId.map .str), ("ip", record.ip.map .str),
    ("udp_port", record.udpPort.map .int)].filterMap fun field =>
      field.2.map fun value => (field.1, value)

theorem Dict.get?_filterMap_cons {κ α : Type} [DecidableEq κ] (key : κ) (field : κ × Option α)
    (rest : List (κ × Option α)) :
    Dict.get? key ((field :: rest).filterMap fun field =>
        field.2.map fun value => (field.1, value)) =
      if field.1 = key ∧ field.2.isSome then field.2
      else Dict.get? key (rest.filterMap fun field => field.2.map fun value => (field.1, value)) := by
  obtain ⟨name, value⟩ := field
  cases value with
  | none => simp
  | some value => simp [Dict.get?_cons]

/-- Read back from JSON, a record is restored as the table restores what it wrote. -/
theorem Restoring.restoreRecord_fields (conversions : Conversions) (config : Config) (now : Int)
    (record : SnapshotRecord) (state : Restoring) :
    (restoreRecord conversions config now record.fields state).map Restoring.table =
      (state.table.restoreRecord config now record).mapError RestoreError.table := by
  have event : JsonRecord.text? record.fields "event" = record.event := by
    simp only [JsonRecord.text?, SnapshotRecord.fields, Dict.get?_filterMap_cons]
    cases record.event <;> simp [Dict.get?]
  have nodeId : Dict.get? "node_id" record.fields = record.nodeId.map .str := by
    simp only [SnapshotRecord.fields, Dict.get?_filterMap_cons]
    cases record.nodeId <;> simp [Dict.get?]
  have ip : Dict.get? "ip" record.fields = record.ip.map .str := by
    simp only [SnapshotRecord.fields, Dict.get?_filterMap_cons]
    cases record.ip <;> simp [Dict.get?]
  have port : Dict.get? "udp_port" record.fields = record.udpPort.map .int := by
    simp only [SnapshotRecord.fields, Dict.get?_filterMap_cons]
    cases record.udpPort <;> simp [Dict.get?]
  unfold restoreRecord RoutingTable.restoreRecord Conversions.readContact JsonRecord.item
  rw [event, nodeId, ip, port]
  split
  · rfl
  · cases record.nodeId with
    | none => rfl
    | some digits =>
        cases read : fromHex digits with
        | none =>
            simp only [Option.map_some, Option.bind_some, read, bind, Except.bind, hexOf]
            rfl
        | some found =>
            cases record.ip with
            | none =>
                simp only [Option.map_some, Option.bind_some, read, bind, Except.bind, hexOf]
                rfl
            | some ip =>
                cases record.udpPort with
                | none =>
                    simp only [Option.map_some, Option.bind_some, read, bind, Except.bind, hexOf]
                    rfl
                | some port =>
                    simp only [Option.map_some, Option.bind_some, read, bind, Except.bind, hexOf,
                      Conversions.textOf, Conversions.intOf, pure, Except.pure]
                    cases state.table.observe config now found ip port {} with
                    | error fault => rfl
                    | ok result =>
                        obtain ⟨table, seen⟩ := result
                        cases seen <;> rfl

end PyDht
