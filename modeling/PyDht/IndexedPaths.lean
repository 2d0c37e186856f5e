import PyDht.IndexerRange
import PyDht.Lib.Segments

set_option autoImplicit false

namespace PyDht

namespace Indexer

open Segments (trim)

/-- A name that stays in the directory that it is looked up in. -/
structure SafeSegment (segment : List Char) : Prop where
  noBackslash : '\\' ∉ segment
  noNul : ∀ char ∈ segment, char.toNat ≠ 0
  nonempty : segment ≠ []
  notDot : segment ≠ ['.']
  notDots : segment ≠ ['.', '.']

/-- `path.split("/")`. -/
def segments (path : String) : List (List Char) := path.toList.splitOn '/'

/-- The components of the path of a file entry. -/
def pathParts : Value → List Value
  | .dict entry =>
      match (Dict.get? (ascii "path.utf-8") entry).or (Dict.get? (ascii "path") entry) with
      | some (.list parts) => parts
      | _ => []
  | _ => []

/-- A text cut at its slashes and backslashes, the NULs left out. -/
def pieces (raw : List Char) : List (List Char) :=
  (raw.filter fun char => char.toNat ≠ 0).splitOnP fun char => char = '/' || char = '\\'

/-- Between the separators at its ends the component has no piece that is empty, `.` or `..`. -/
def Plain (config : Config) (part : Value) : Prop :=
  ∀ raw, text config (some part) = some raw → ∀ piece ∈ trim List.isEmpty (pieces raw.toList),
    piece ≠ [] ∧ piece ≠ ['.'] ∧ piece ≠ ['.', '.']

/-- `text.replace("\\", "/").replace("\x00", "")`. -/
def rewritten (raw : List Char) : List Char :=
  (raw.map fun char => if char = '\\' then '/' else char).filter fun char => char.toNat ≠ 0

theorem rewritten_eq (raw : List Char) :
    rewritten raw = (raw.filter fun char => char.toNat ≠ 0).map
      fun char => if char = '\\' then '/' else char := by
  rw [rewritten, List.filter_map]
  congr 1
  apply List.filter_congr
  intro char _
  by_cases backslash : char = '\\'
  · rw [Function.comp_apply, if_pos backslash, backslash]
    rfl
  · rw [Function.comp_apply, if_neg backslash]

theorem pieces_eq (raw : List Char) : pieces raw = (rewritten raw).splitOnP (· == '/') := by
  rw [rewritten_eq, Segments.splitOnP_map_of_same, pieces]
  · congr 1
    funext char
    by_cases backslash : char = '\\'
    · simp [backslash]
    · simp [backslash, Bool.beq_eq_decide_eq]
  · intro char kept
    by_cases backslash : char = '\\'
    · simp [backslash] at kept
    · rw [if_neg backslash]

theorem mem_rewritten {raw : List Char} {char : Char} (member : char ∈ rewritten raw) :
    char ≠ '\\' ∧ char.toNat ≠ 0 := by
  rw [rewritten, List.mem_filter, List.mem_map] at member
  obtain ⟨⟨original, _, same⟩, kept⟩ := member
  refine ⟨?_, by simpa using kept⟩
  intro backslash
  by_cases here : original = '\\'
  · rw [if_pos here, backslash] at same
    cases same
  · rw [if_neg here] at same
    exact here (same.trans backslash)

/-- What `_component` makes of a byte string. -/
theorem component_ok {config : Config} {part : Value} {found : String}
    (accepted : component config part = .ok found) :
    ∃ raw, text config (some part) = some raw ∧ found.toList ≠ [] ∧
      found.toList = trim (· == '/') (rewritten raw.toList) := by
  unfold component at accepted
  split at accepted
  · cases accepted
  · rename_i raw isText
    dsimp only at accepted
    split at accepted
    · cases accepted
    · rename_i kept
      cases accepted
      refine ⟨raw, isText, fun empty => kept (.inl ?_), ?_⟩
      · exact String.toList_eq_nil_iff.mp empty
      · rw [String.toList_ofList]
        rfl

theorem segments_component {config : Config} {part : Value} {found : String}
    (accepted : component config part = .ok found) :
    ∃ raw, text config (some part) = some raw ∧
      segments found = trim List.isEmpty (pieces raw.toList) := by
  obtain ⟨raw, isText, some, stripped⟩ := component_ok accepted
  refine ⟨raw, isText, ?_⟩
  have kept : ∃ char ∈ rewritten raw.toList, (char == '/') = false := by
    by_contra slashes
    push Not at slashes
    have nothing : (rewritten raw.toList).dropWhile (· == '/') = [] :=
      List.dropWhile_eq_nil_iff.mpr fun char member => by simpa using slashes char member
    rw [stripped, trim, nothing] at some
    exact some rfl
  obtain ⟨char, member, apart⟩ := kept
  rw [segments, stripped, List.splitOn_eq_splitOnP, Segments.splitOnP_trim member apart, pieces_eq]

theorem mapM_ok {α β : Type} {read : α → Except PyError β} {parts : List α} {found : List β}
    (accepted : parts.mapM read = .ok found) :
    List.Forall₂ (fun part result => read part = .ok result) parts found := by
  induction parts generalizing found with
  | nil =>
      cases accepted
      exact .nil
  | cons part parts ih =>
      rw [List.mapM_cons, bind_ok_iff] at accepted
      obtain ⟨first, here, accepted⟩ := accepted
      rw [bind_ok_iff] at accepted
      obtain ⟨rest, later, built⟩ := accepted
      rw [← pure_ok_iff.mp built]
      exact .cons here (ih later)

theorem parseFile_path {config : Config} {index : Nat} {entry : Value} {file : IndexedFile}
    (parsed : parseFile config index entry = .ok file) :
    ∃ components, List.Forall₂ (fun part found => component config part = .ok found)
        (pathParts entry) components ∧ components ≠ [] ∧
      file.path = "/".intercalate components := by
  unfold parseFile at parsed
  split at parsed
  · rename_i fields
    rw [bind_ok_iff] at parsed
    obtain ⟨size, -, parsed⟩ := parsed
    split at parsed
    · rename_i part parts listed
      split at parsed
      · cases parsed
      · rw [bind_ok_iff] at parsed
        obtain ⟨components, accepted, built⟩ := parsed
        rw [← pure_ok_iff.mp built]
        have each := mapM_ok accepted
        refine ⟨components, ?_, ?_, rfl⟩
        · rw [pathParts, listed]
          exact each
        · intro empty
          rw [empty] at each
          cases each
    · cases parsed
  · cases parsed

/-- The segments of the path are those of its components. -/
theorem segments_path {components : List String} (some : components ≠ []) :
    segments ("/".intercalate components) = components.flatMap segments := by
  rw [segments, String.toList_intercalate]
  show (['/'].intercalate (components.map String.toList)).splitOn '/' = _
  rw [Segments.splitOn_intercalate _ (by simpa using some), List.flatMap_map]
  rfl

theorem safe_segment_iff {config : Config} {part : Value} {found : String}
    (accepted : component config part = .ok found) :
    (∀ segment ∈ segments found, SafeSegment segment) ↔ Plain config part := by
  obtain ⟨raw, isText, cut⟩ := segments_component accepted
  have clean : ∀ segment ∈ segments found, ∀ char ∈ segment, char ≠ '\\' ∧ char.toNat ≠ 0 := by
    intro segment member char inside
    rw [cut, pieces_eq] at member
    exact mem_rewritten (Segments.mem_piece (Segments.mem_of_mem_trim member) inside).1
  constructor
  · intro safe other isOther piece member
    rw [isText] at isOther
    cases isOther
    have here := safe piece (cut ▸ member)
    exact ⟨here.nonempty, here.notDot, here.notDots⟩
  · intro plain segment member
    have here := plain raw isText segment (cut ▸ member)
    exact ⟨fun backslash => (clean segment member _ backslash).1 rfl,
      fun char inside => (clean segment member char inside).2, here.1, here.2.1, here.2.2⟩

theorem parseFile_safe_iff {config : Config} {index : Nat} {entry : Value} {file : IndexedFile}
    (parsed : parseFile config index entry = .ok file) :
    (∀ segment ∈ segments file.path, SafeSegment segment) ↔
      ∀ part ∈ pathParts entry, Plain config part := by
  obtain ⟨components, accepted, some, path⟩ := parseFile_path parsed
  rw [path, segments_path some]
  clear path some
  generalize pathParts entry = parts at accepted ⊢
  induction accepted with
  | nil => simp
  | cons here _ ih =>
      rw [List.flatMap_cons, List.forall_mem_append, List.forall_mem_cons, ih,
        safe_segment_iff here]

theorem parseFiles_safe_iff {config : Config} {start : Nat} {entries : List Value}
    {found : List IndexedFile} (parsed : parseFiles config start entries = .ok found) :
    List.Forall₂ (fun entry file =>
      (∀ segment ∈ segments file.path, SafeSegment segment) ↔
        ∀ part ∈ pathParts entry, Plain config part) entries found := by
  induction entries generalizing start found with
  | nil =>
      cases parsed
      exact .nil
  | cons entry entries ih =>
      rw [parseFiles, bind_ok_iff] at parsed
      obtain ⟨file, first, parsed⟩ := parsed
      rw [bind_ok_iff] at parsed
      obtain ⟨rest, others, built⟩ := parsed
      rw [← pure_ok_iff.mp built]
      exact .cons (parseFile_safe_iff first) (ih others)

/-- The path of an accepted file entry has only safe segments, if and only if its components are
plain: the check of a component looks at it as a whole. -/
theorem parseValidatedInfo_paths_iff (config : Config) (rawInfo : Bytes) (torrentUid : String)
    (torrent : IndexedTorrent) (info : List (Bytes × Value)) (entries : List Value)
    (decoded : Bencode.decode rawInfo
      { maxDepth := config.maxBencodeDepth, maxItems := config.maxBencodeItems,
        maxStringLength := config.maxBencodeStringLength } = .ok (.dict info))
    (listed : Dict.get? (ascii "files") info = some (.list entries))
    (parsed : parseValidatedInfo config rawInfo torrentUid = .ok torrent) :
    List.Forall₂ (fun entry file =>
      (∀ segment ∈ segments file.path, SafeSegment segment) ↔
        ∀ part ∈ pathParts entry, Plain config part) entries torrent.files := by
  unfold parseValidatedInfo at parsed
  rw [bind_ok_iff] at parsed
  obtain ⟨value, isValue, parsed⟩ := parsed
  rw [decoded] at isValue
  cases isValue
  rw [bind_ok_iff] at parsed
  obtain ⟨piece, _, parsed⟩ := parsed
  rw [bind_ok_iff] at parsed
  obtain ⟨found, filed, built⟩ := parsed
  rw [← pure_ok_iff.mp built]
  unfold files at filed
  rw [listed] at filed
  dsimp only at filed
  split at filed
  · cases filed
  · exact parseFiles_safe_iff filed

/-- A file of one byte under the given path. -/
def pathTorrent (path : String) (rawInfo : Bytes) : IndexedTorrent :=
  { torrentUid := "btih:01", name := some "n", totalSize := 1, fileCount := 1,
    pieceLength := none, metadataSize := rawInfo.length, rawInfo := rawInfo,
    files := [{ index := 0, path := path, size := 1 }] }

def pathEntry (part : String) : List (Bytes × Value) :=
  [(ascii "length", .int 1), (ascii "path", .list [.bytes (ascii part)])]

def pathInfo : List (Bytes × Value) :=
  [(ascii "files", .list [.dict (pathEntry "a/b")]), (ascii "name", .bytes (ascii "n"))]

theorem pathInfo_decoded :
    Bencode.decode (ascii "d5:filesld6:lengthi1e4:pathl3:a/beee4:name1:ne")
      { maxDepth := 64, maxItems := 200000, maxStringLength := 4194304 } =
        .ok (.dict pathInfo) := by
  refine (Bencode.decode_ok_iff _ _ _ _).mpr ⟨⟨?_, ?_, ?_, ?_, ?_, fun _ => ?_⟩, by decide +kernel⟩
  · simp [pathInfo, pathEntry, Value.DepthWithin]
  · simp [pathInfo, pathEntry, Value.count, Value.countEntries, Value.countItems]
  · simp [pathInfo, pathEntry, Value.TextsWithin, Value.texts, Value.keys, ascii]
  · simp only [pathInfo, pathEntry, Value.All, Value.Every, Value.EveryEntry, Value.EveryItem,
      Bencode.Convertible, Bencode.ShortLength, Value.texts, Value.keys, Value.ShortInteger]
    decide +kernel
  · simp only [pathInfo, pathEntry, Value.Distinct, Value.All, Value.Every, Value.EveryEntry,
      Value.EveryItem, Value.keys]
    decide
  · simp only [pathInfo, pathEntry, Value.Ordered, Value.All, Value.Every, Value.EveryEntry,
      Value.EveryItem, Value.keys]
    decide

/-- A file `a/b` that is given as one component. -/
theorem parseValidatedInfo_paths_iff_sample :
    List.Forall₂ (fun entry file =>
      (∀ segment ∈ segments file.path, SafeSegment segment) ↔
        ∀ part ∈ pathParts entry, Plain {} part) [.dict (pathEntry "a/b")]
      (pathTorrent "a/b" (ascii "d5:filesld6:lengthi1e4:pathl3:a/beee4:name1:ne")).files :=
  parseValidatedInfo_paths_iff {} (ascii "d5:filesld6:lengthi1e4:pathl3:a/beee4:name1:ne")
    "btih:01" _ pathInfo [.dict (pathEntry "a/b")] pathInfo_decoded rfl (by decide +kernel)

/-- A component with `..` in its middle is accepted, and is a segment of the path. -/
theorem climbing_path_accepted :
    parseValidatedInfo {} (ascii "d5:filesld6:lengthi1e4:pathl6:a/../beee4:name1:ne") "btih:01" =
        .ok (pathTorrent "a/../b" (ascii "d5:filesld6:lengthi1e4:pathl6:a/../beee4:name1:ne")) ∧
      ['.', '.'] ∈ segments "a/../b" ∧ ¬ SafeSegment ['.', '.'] :=
  ⟨by decide +kernel, by decide +kernel, fun safe => safe.notDots rfl⟩

end Indexer

end PyDht
