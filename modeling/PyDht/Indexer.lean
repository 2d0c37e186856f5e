import PyDht.BencodeErrors
import PyDht.Catalogue
import PyDht.Text

set_option autoImplicit false

namespace PyDht

namespace Indexer

/-- `_text`; anything but a byte string gives `none`. -/
def text (config : Config) : Option Value → Option String
  | some (.bytes raw) =>
      some (String.ofList ((Utf8.decodeReplace raw).take config.maxIndexTextLength.toNat))
  | _ => none

/-- `text.strip("/")`. -/
def stripSlashes (path : List Char) : List Char :=
  ((path.dropWhile (· = '/')).reverse.dropWhile (· = '/')).reverse

/-- `_component`. -/
def component (config : Config) (value : Value) : Except PyError String :=
  match text config (some value) with
  | none => .error (.indexingError "path component is not a byte string")
  | some found =>
      let slashed := found.toList.map fun char => if char = '\\' then '/' else char
      let stripped := String.ofList (stripSlashes (slashed.filter fun char => char.toNat ≠ 0))
      if stripped = "" ∨ stripped = "." ∨ stripped = ".." then
        .error (.indexingError "unsafe or empty path component")
      else .ok stripped

/-- A size of a file, under the message of its place in the metadata. -/
def length (message : String) : Option Value → Except PyError Int
  | some (.int size) => if size < 0 then .error (.indexingError message) else .ok size
  | _ => .error (.indexingError message)

/-- The body of the loop over the file entries. -/
def parseFile (config : Config) (index : Nat) : Value → Except PyError IndexedFile
  | .dict entry => do
      let size ← length "invalid file length" (Dict.get? (ascii "length") entry)
      match (Dict.get? (ascii "path.utf-8") entry).or (Dict.get? (ascii "path") entry) with
      | some (.list (part :: parts)) =>
          if config.maxPathComponents < ((part :: parts).length : Int) then
            .error (.indexingError "maximum path components exceeded")
          else
            let components ← (part :: parts).mapM (component config)
            return { index, path := "/".intercalate components, size }
      | _ => .error (.indexingError "invalid file path")
  | _ => .error (.indexingError "file entry must be a dictionary")

def parseFiles (config : Config) : Nat → List Value → Except PyError (List IndexedFile)
  | _, [] => .ok []
  | index, entry :: entries => do
      let file ← parseFile config index entry
      let files ← parseFiles config (index + 1) entries
      return file :: files

/-- The files of the decoded metadata, a single one when it lists none. -/
def files (config : Config) (name : Option String) (info : List (Bytes × Value)) :
    Except PyError (List IndexedFile) :=
  match Dict.get? (ascii "files") info with
  | some (.list entries) =>
      if config.maxFilesPerTorrent < (entries.length : Int) then
        .error (.indexingError "maximum file count exceeded")
      else parseFiles config 0 entries
  | some _ => .error (.indexingError "files must be a list")
  | none => do
      let size ← length "single-file torrent requires non-negative length"
        (Dict.get? (ascii "length") info)
      let path := if name = none ∨ name = some "" then "unnamed" else name.getD ""
      return [{ index := 0, path, size }]

def pieceLength (info : List (Bytes × Value)) : Except PyError (Option Int) :=
  match Dict.get? (ascii "piece length") info with
  | none => .ok none
  | some (.int length) =>
      if length ≤ 0 then .error (.indexingError "invalid piece length") else .ok (some length)
  | some _ => .error (.indexingError "invalid piece length")

def parseValidatedInfo (config : Config) (rawInfo : Bytes) (torrentUid : String) :
    Except PyError IndexedTorrent := do
  let limits : Bencode.DecodeLimits :=
    { maxDepth := config.maxBencodeDepth, maxItems := config.maxBencodeItems,
      maxStringLength := config.maxBencodeStringLength }
  match ← Bencode.decode rawInfo limits with
  | .dict info =>
      let preferred := text config (Dict.get? (ascii "name.utf-8") info)
      let name :=
        if preferred = none ∨ preferred = some "" then
          text config (Dict.get? (ascii "name") info)
        else preferred
      let pieceLength ← pieceLength info
      let files ← files config name info
      return {
        torrentUid, name, totalSize := (files.map IndexedFile.size).sum
        fileCount := files.length, pieceLength, metadataSize := rawInfo.length, rawInfo, files }
  | _ => .error (.indexingError "info metadata must be a dictionary")

theorem parseFile_index {config : Config} {index : Nat} {entry : Value} {file : IndexedFile}
    (parsed : parseFile config index entry = .ok file) : file.index = index := by
  unfold parseFile at parsed
  split at parsed
  · rw [bind_ok_iff] at parsed
    obtain ⟨size, -, parsed⟩ := parsed
    split at parsed
    · split at parsed
      · cases parsed
      · rw [bind_ok_iff] at parsed
        obtain ⟨components, -, built⟩ := parsed
        rw [← pure_ok_iff.mp built]
    · cases parsed
  · cases parsed

theorem parseFiles_index {config : Config} {start : Nat} {entries : List Value}
    {found : List IndexedFile} (parsed : parseFiles config start entries = .ok found) :
    found.map IndexedFile.index = List.range' start found.length := by
  induction entries generalizing start found with
  | nil =>
      cases parsed
      rfl
  | cons entry entries ih =>
      rw [parseFiles, bind_ok_iff] at parsed
      obtain ⟨file, first, parsed⟩ := parsed
      rw [bind_ok_iff] at parsed
      obtain ⟨rest, others, built⟩ := parsed
      rw [← pure_ok_iff.mp built, List.map_cons, List.length_cons, List.range'_succ, ih others,
        parseFile_index first]

theorem files_index {config : Config} {name : Option String} {info : List (Bytes × Value)}
    {found : List IndexedFile} (parsed : files config name info = .ok found) :
    found.map IndexedFile.index = List.range found.length := by
  rw [List.range_eq_range']
  unfold files at parsed
  split at parsed
  · split at parsed
    · cases parsed
    · exact parseFiles_index parsed
  · cases parsed
  · rw [bind_ok_iff] at parsed
    obtain ⟨size, -, built⟩ := parsed
    rw [← pure_ok_iff.mp built]
    rfl

section raises

open Bencode (ValueFault)

theorem length_raises (message : String) (value : Option Value) :
    Raises ValueFault (length message value) := by
  unfold length
  split
  · split
    · exact .error rfl
    · exact .ok _
  · exact .error rfl

theorem component_raises (config : Config) (value : Value) :
    Raises ValueFault (component config value) := by
  unfold component
  split
  · exact .error rfl
  · dsimp only
    split
    · exact .error rfl
    · exact .ok _

theorem components_raises (config : Config) (parts : List Value) :
    Raises ValueFault (parts.mapM (component config)) := by
  induction parts with
  | nil => exact .pure _
  | cons part parts ih =>
      rw [List.mapM_cons]
      exact (component_raises config part).bind fun _ _ => ih.bind fun _ _ => .pure _

theorem parseFile_raises (config : Config) (index : Nat) (entry : Value) :
    Raises ValueFault (parseFile config index entry) := by
  unfold parseFile
  split
  · apply (length_raises _ _).bind
    intro size _
    split
    · split
      · exact .error rfl
      · exact (components_raises config _).bind fun _ _ => .pure _
    · exact .error rfl
  · exact .error rfl

theorem parseFiles_raises (config : Config) (start : Nat) (entries : List Value) :
    Raises ValueFault (parseFiles config start entries) := by
  induction entries generalizing start with
  | nil => exact .ok _
  | cons entry entries ih =>
      exact (parseFile_raises config start entry).bind fun _ _ =>
        (ih (start + 1)).bind fun _ _ => .pure _

theorem files_raises (config : Config) (name : Option String) (info : List (Bytes × Value)) :
    Raises ValueFault (files config name info) := by
  unfold files
  split
  · split
    · exact .error rfl
    · exact parseFiles_raises config 0 _
  · exact .error rfl
  · exact (length_raises _ _).bind fun _ _ => .pure _

theorem pieceLength_raises (info : List (Bytes × Value)) : Raises ValueFault (pieceLength info) := by
  unfold pieceLength
  split
  · exact .ok _
  · split
    · exact .error rfl
    · exact .ok _
  · exact .error rfl

/-- Metadata is rejected with what `except (IndexingError, ValueError)` catches. -/
theorem parseValidatedInfo_raises (config : Config) (rawInfo : Bytes) (torrentUid : String) :
    Raises ValueFault (parseValidatedInfo config rawInfo torrentUid) := by
  apply (Bencode.decode_raises rawInfo _ _).bind
  intro value _
  split
  · exact (pieceLength_raises _).bind fun _ _ => (files_raises config _ _).bind fun _ _ => .pure _
  · exact .error rfl

end raises

end Indexer

/-- What the rows of a torrent and of its files rely on. -/
structure IndexedTorrent.Wellformed (torrent : IndexedTorrent) : Prop where
  numbered : torrent.files.map IndexedFile.index = List.range torrent.fileCount
  total : (torrent.files.map IndexedFile.size).sum = torrent.totalSize

theorem Indexer.parseValidatedInfo_wellformed {config : Config} {rawInfo : Bytes}
    {torrentUid : String} {torrent : IndexedTorrent}
    (parsed : parseValidatedInfo config rawInfo torrentUid = .ok torrent) :
    torrent.Wellformed ∧ torrent.torrentUid = torrentUid := by
  unfold parseValidatedInfo at parsed
  rw [bind_ok_iff] at parsed
  obtain ⟨value, -, parsed⟩ := parsed
  split at parsed
  · rw [bind_ok_iff] at parsed
    obtain ⟨length, -, parsed⟩ := parsed
    rw [bind_ok_iff] at parsed
    obtain ⟨found, listed, built⟩ := parsed
    rw [← pure_ok_iff.mp built]
    exact ⟨⟨files_index listed, rfl⟩, rfl⟩
  · cases parsed

end PyDht
