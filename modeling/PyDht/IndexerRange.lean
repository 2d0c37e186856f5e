import PyDht.BencodeRoundTrip
import PyDht.Indexer
import Mathlib.Algebra.Order.BigOperators.Group.List

set_option autoImplicit false

namespace PyDht

/-- The integers that `persist_torrent` binds from a torrent. -/
def IndexedTorrent.bound (torrent : IndexedTorrent) : List Int :=
  [torrent.totalSize, (torrent.fileCount : Int), (torrent.metadataSize : Int)] ++
    torrent.pieceLength.toList ++
    torrent.files.flatMap fun file => [(file.index : Int), file.size]

def IndexedTorrent.Bindable (torrent : IndexedTorrent) : Prop :=
  ∀ number ∈ torrent.bound, InSqliteRange number

namespace Indexer

/-- The integer under `length`. -/
def declaredSize (fields : List (Bytes × Value)) : Option Int :=
  match Dict.get? (ascii "length") fields with
  | some (.int size) => some size
  | _ => none

/-- The sizes that the metadata declares for its files. -/
def declaredSizes (info : List (Bytes × Value)) : List Int :=
  match Dict.get? (ascii "files") info with
  | some (.list entries) => entries.filterMap fun entry =>
      match entry with
      | .dict fields => declaredSize fields
      | _ => none
  | _ => (declaredSize info).toList

/-- The metadata declares less than 8 EiB in all, and shorter pieces than that. -/
def DeclaresLittle (info : List (Bytes × Value)) : Prop :=
  (declaredSizes info).sum < 2 ^ 63 ∧
    ∀ length, Dict.get? (ascii "piece length") info = some (.int length) → length < 2 ^ 63

theorem length_ok {message : String} {value : Option Value} {size : Int}
    (parsed : length message value = .ok size) : value = some (.int size) ∧ 0 ≤ size := by
  unfold length at parsed
  split at parsed
  · split at parsed <;> cases parsed
    exact ⟨rfl, by omega⟩
  · cases parsed

theorem parseFile_size {config : Config} {index : Nat} {entry : Value} {file : IndexedFile}
    (parsed : parseFile config index entry = .ok file) :
    ∃ fields, entry = .dict fields ∧ declaredSize fields = some file.size ∧ 0 ≤ file.size := by
  unfold parseFile at parsed
  split at parsed
  · rename_i fields
    rw [bind_ok_iff] at parsed
    obtain ⟨size, sized, parsed⟩ := parsed
    obtain ⟨declared, positive⟩ := length_ok sized
    split at parsed
    · split at parsed
      · cases parsed
      · rw [bind_ok_iff] at parsed
        obtain ⟨components, -, built⟩ := parsed
        rw [← pure_ok_iff.mp built]
        exact ⟨fields, rfl, by rw [declaredSize, declared], positive⟩
    · cases parsed
  · cases parsed

theorem parseFiles_sizes {config : Config} {start : Nat} {entries : List Value}
    {found : List IndexedFile} (parsed : parseFiles config start entries = .ok found) :
    (entries.filterMap fun entry =>
        match entry with
        | .dict fields => declaredSize fields
        | _ => none) = found.map IndexedFile.size ∧
      found.length = entries.length ∧ ∀ file ∈ found, 0 ≤ file.size := by
  induction entries generalizing start found with
  | nil =>
      cases parsed
      exact ⟨rfl, rfl, fun _ member => absurd member List.not_mem_nil⟩
  | cons entry entries ih =>
      rw [parseFiles, bind_ok_iff] at parsed
      obtain ⟨file, first, parsed⟩ := parsed
      rw [bind_ok_iff] at parsed
      obtain ⟨rest, others, built⟩ := parsed
      obtain ⟨fields, rfl, declared, positive⟩ := parseFile_size first
      obtain ⟨sizes, count, nonnegative⟩ := ih others
      rw [← pure_ok_iff.mp built]
      refine ⟨?_, by simp [count], ?_⟩
      · rw [List.filterMap_cons, List.map_cons, ← sizes]
        simp only [declared]
      · intro other member
        obtain rfl | later := List.mem_cons.mp member
        · exact positive
        · exact nonnegative other later

/-- The sizes of the files are those that the metadata declares. -/
theorem files_sizes {config : Config} {name : Option String} {info : List (Bytes × Value)}
    {found : List IndexedFile} (parsed : files config name info = .ok found) :
    declaredSizes info = found.map IndexedFile.size ∧ (∀ file ∈ found, 0 ≤ file.size) ∧
      (found.length = 1 ∨ ∃ entries, Dict.get? (ascii "files") info = some (.list entries) ∧
        found.length = entries.length) := by
  unfold files at parsed
  unfold declaredSizes
  split at parsed
  · rename_i entries listed
    split at parsed
    · cases parsed
    · obtain ⟨sizes, count, positive⟩ := parseFiles_sizes parsed
      simp only [listed]
      exact ⟨sizes, positive, .inr ⟨entries, rfl, count⟩⟩
  · cases parsed
  · rename_i single
    rw [bind_ok_iff] at parsed
    obtain ⟨size, sized, built⟩ := parsed
    obtain ⟨declared, positive⟩ := length_ok sized
    rw [← pure_ok_iff.mp built]
    simp only [single, declaredSize, declared]
    refine ⟨rfl, ?_, .inl rfl⟩
    intro file member
    rw [List.mem_singleton.mp member]
    exact positive

theorem pieceLength_ok {info : List (Bytes × Value)} {found : Option Int}
    (parsed : pieceLength info = .ok found) :
    (∀ length, Dict.get? (ascii "piece length") info = some (.int length) ↔ found = some length) ∧
      ∀ length, found = some length → 0 < length := by
  unfold pieceLength at parsed
  split at parsed
  · rename_i absent
    cases parsed
    simp [absent]
  · rename_i length declared
    split at parsed <;> cases parsed
    refine ⟨fun other => by simp [declared], fun other same => ?_⟩
    cases same
    omega
  · cases parsed

end Indexer

namespace Value

theorem write_le_writeEntries {entries : List (Bytes × Value)} {key : Bytes} {value : Value}
    (member : (key, value) ∈ entries) :
    value.write.length ≤ (writeEntries entries).length := by
  induction entries with
  | nil => cases member
  | cons entry entries ih =>
      obtain ⟨other, item⟩ := entry
      rw [writeEntries, List.length_append, List.length_append]
      obtain same | later := List.mem_cons.mp member
      · cases same
        omega
      · have there := ih later
        omega

end Value

namespace Indexer

/-- A list inside the metadata has no more items than the metadata has bytes. -/
theorem items_le {info : List (Bytes × Value)} {key : Bytes} {items : List Value}
    (listed : Dict.get? key info = some (.list items)) :
    items.length ≤ (Value.dict info).write.length := by
  have inside := Value.write_le_writeEntries (Dict.mem_of_get? listed)
  have within := Bencode.Decoder.length_le_writeItems items
  simp only [Value.write, List.length_append, List.length_cons, List.length_nil] at inside ⊢
  omega

/-- The files are no more than the bytes that list them, and each is no larger than all together. -/
theorem files_bounds {config : Config} {name : Option String} {info : List (Bytes × Value)}
    {found : List IndexedFile} (parsed : files config name info = .ok found) :
    (found.length : Int) ≤ (Value.dict info).write.length ∧
      0 ≤ (found.map IndexedFile.size).sum ∧ ∀ file ∈ found,
        (file.index : Int) < found.length ∧ 0 ≤ file.size ∧
          file.size ≤ (found.map IndexedFile.size).sum := by
  obtain ⟨-, positive, count⟩ := files_sizes parsed
  have sizes : ∀ size ∈ found.map IndexedFile.size, 0 ≤ size := by
    intro size member
    obtain ⟨file, listed, rfl⟩ := List.mem_map.mp member
    exact positive file listed
  refine ⟨?_, List.sum_nonneg sizes, fun file member => ⟨?_, positive file member, ?_⟩⟩
  · obtain one | ⟨entries, listed, count⟩ := count
    · have some := Bencode.Decoder.write_pos (Value.dict info)
      omega
    · have within := items_le listed
      omega
  · have numbered : file.index ∈ List.range found.length := by
      rw [← files_index parsed]
      exact List.mem_map_of_mem member
    exact_mod_cast List.mem_range.mp numbered
  · exact List.single_le_sum sizes file.size (List.mem_map_of_mem member)

/-- A torrent that the indexer accepts can be bound, if and only if its metadata declares little
and is no longer than SQLite can count. -/
theorem parseValidatedInfo_bindable_iff (config : Config) (rawInfo : Bytes) (torrentUid : String)
    (torrent : IndexedTorrent)
    (parsed : parseValidatedInfo config rawInfo torrentUid = .ok torrent) :
    torrent.Bindable ↔
      ∃ info, Bencode.decode rawInfo
          { maxDepth := config.maxBencodeDepth, maxItems := config.maxBencodeItems,
            maxStringLength := config.maxBencodeStringLength } = .ok (.dict info) ∧
        DeclaresLittle info ∧ (rawInfo.length : Int) < 2 ^ 63 := by
  unfold parseValidatedInfo at parsed
  rw [bind_ok_iff] at parsed
  obtain ⟨value, decoded, parsed⟩ := parsed
  split at parsed
  · rename_i info
    rw [bind_ok_iff] at parsed
    obtain ⟨piece, pieced, parsed⟩ := parsed
    rw [bind_ok_iff] at parsed
    obtain ⟨found, listed, built⟩ := parsed
    obtain rfl := pure_ok_iff.mp built
    obtain ⟨declared, -, -⟩ := files_sizes listed
    obtain ⟨pieceDeclared, piecePositive⟩ := pieceLength_ok pieced
    obtain ⟨count, total, each⟩ := files_bounds listed
    have written := ((Bencode.decode_ok_iff _ _ _ _).mp decoded).2
    rw [← written] at count
    constructor
    · intro bindable
      refine ⟨info, decoded, ⟨?_, fun length same => ?_⟩, ?_⟩
      · rw [declared]
        exact (bindable _ (by simp [IndexedTorrent.bound])).2
      · rw [pieceDeclared] at same
        exact (bindable length (by simp [IndexedTorrent.bound, same])).2
      · exact (bindable (rawInfo.length : Int) (by simp [IndexedTorrent.bound])).2
    · intro little
      obtain ⟨other, same, ⟨sum, pieces⟩, short⟩ := little
      rw [decoded] at same
      cases same
      rw [declared] at sum
      intro number member
      simp only [IndexedTorrent.bound, List.cons_append, List.nil_append, List.mem_append,
        List.mem_cons, List.mem_flatMap, Option.mem_toList, List.not_mem_nil, or_false] at member
      unfold InSqliteRange
      obtain rfl | rfl | rfl | same | ⟨file, inside, rfl | rfl⟩ := member
      · omega
      · omega
      · omega
      · have positive := piecePositive number same
        have below := pieces number ((pieceDeclared number).mpr same)
        omega
      · obtain ⟨numbered, -, -⟩ := each file inside
        omega
      · obtain ⟨-, positive, below⟩ := each file inside
        omega
  · cases parsed

/-- A single file of `size` bytes. -/
def loneFile (size : Int) (rawInfo : Bytes) : IndexedTorrent :=
  { torrentUid := "btih:01", name := some "a", totalSize := size, fileCount := 1,
    pieceLength := none, metadataSize := rawInfo.length, rawInfo := rawInfo,
    files := [{ index := 0, path := "a", size := size }] }

def loneInfo : List (Bytes × Value) :=
  [(ascii "length", .int 3), (ascii "name", .bytes (ascii "a"))]

theorem loneInfo_decoded :
    Bencode.decode (ascii "d6:lengthi3e4:name1:ae")
      { maxDepth := 64, maxItems := 200000, maxStringLength := 4194304 } =
        .ok (.dict loneInfo) := by
  refine (Bencode.decode_ok_iff _ _ _ _).mpr ⟨⟨?_, ?_, ?_, ?_, ?_, fun _ => ?_⟩, by decide +kernel⟩
  · simp [loneInfo, Value.DepthWithin]
  · decide
  · simp [loneInfo, Value.TextsWithin, Value.texts, Value.keys, ascii]
  · simp only [loneInfo, Value.All, Value.Every, Value.EveryEntry, Bencode.Convertible,
      Bencode.ShortLength, Value.texts, Value.keys, Value.ShortInteger]
    decide +kernel
  · simp only [loneInfo, Value.Distinct, Value.All, Value.Every, Value.EveryEntry, Value.keys]
    decide
  · simp only [loneInfo, Value.Ordered, Value.All, Value.Every, Value.EveryEntry, Value.keys]
    decide

theorem parseValidatedInfo_bindable_iff_sample :
    (loneFile 3 (ascii "d6:lengthi3e4:name1:ae")).Bindable := by
  refine (parseValidatedInfo_bindable_iff {} (ascii "d6:lengthi3e4:name1:ae") "btih:01" _
    (by decide +kernel)).mpr ⟨loneInfo, loneInfo_decoded, ⟨by decide, ?_⟩, by decide⟩
  intro length declared
  cases declared

/-- A size of 2^63 bytes is accepted, and SQLite cannot bind it. -/
theorem unbindable_accepted :
    parseValidatedInfo {} (ascii "d6:lengthi9223372036854775808e4:name1:ae") "btih:01" =
        .ok (loneFile 9223372036854775808 (ascii "d6:lengthi9223372036854775808e4:name1:ae")) ∧
      ¬(loneFile 9223372036854775808
        (ascii "d6:lengthi9223372036854775808e4:name1:ae")).Bindable := by
  refine ⟨by decide +kernel, fun bindable => ?_⟩
  have bound := bindable 9223372036854775808 (by simp [IndexedTorrent.bound, loneFile])
  unfold InSqliteRange at bound
  omega

end Indexer

end PyDht
