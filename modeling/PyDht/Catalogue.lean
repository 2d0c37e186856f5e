import PyDht.Bytes
import PyDht.DatabaseWorker
import PyDht.Lib.Collections
import Mathlib.Data.List.Sort

set_option autoImplicit false

namespace PyDht

structure IndexedFile where
  index : Nat
  path : String
  size : Int
deriving DecidableEq, Repr

structure IndexedTorrent where
  torrentUid : String
  name : Option String
  totalSize : Int
  fileCount : Nat
  pieceLength : Option Int
  metadataSize : Nat
  rawInfo : Bytes
  files : List IndexedFile
deriving DecidableEq, Repr

structure KeywordResult where
  keywords : List String
  matched : List String
deriving DecidableEq, Repr

/-- The values of the column `state` of `torrent_candidates`. -/
inductive CandidateStatus where
  | new
  | fetching
  | fetchFailed
  | unsupported
  | complete
deriving DecidableEq, Repr

structure CandidateRow where
  state : CandidateStatus
  firstSeen : Int
  lastSeen : Int
  attempts : Int := 0
  lastAttempt : Option Int := none
  nextAttemptAt : Option Int := none
  lastError : Option String := none
  torrentUid : Option String := none
deriving DecidableEq, Repr

/-- `state NOT IN ('complete','unsupported')`. -/
def CandidateRow.isOpen (row : CandidateRow) : Bool :=
  row.state ≠ .complete && row.state ≠ .unsupported

/-- The time at which a failed fetch is to be tried again. -/
def CandidateRow.dueAt (row : CandidateRow) : Option Int :=
  if row.state = .fetchFailed then row.nextAttemptAt else none

/-- A fetch that a stop of the process has cut off counts as failed. -/
def CandidateRow.recovered (nowNs : Int) (row : CandidateRow) : CandidateRow :=
  if row.state = .fetching then
    { row with
      state := .fetchFailed
      nextAttemptAt := some (row.nextAttemptAt.getD nowNs)
      lastError := some (row.lastError.getD "interrupted by restart") }
  else row

/-- A row of `torrents` without the stored form of the info bytes. -/
structure TorrentRow where
  name : Option String
  totalSize : Int
  fileCount : Nat
  pieceLength : Option Int
  metadataSize : Nat
  firstSeen : Int
  lastSeen : Int
deriving DecidableEq, Repr

structure FileRow where
  torrentUid : String
  file : IndexedFile
deriving DecidableEq, Repr

inductive NotificationStatus where
  | pending
  | sent
  | failed
deriving DecidableEq, Repr

structure NotificationRow where
  keywords : List String
  matched : List String
  status : NotificationStatus := .pending
  createdAt : Int
  lastAttempt : Option Int := none
  nextAttemptAt : Option Int := none
  sentAt : Option Int := none
  attempts : Int := 0
  lastError : Option String := none
deriving DecidableEq, Repr

/-- What `due_notifications` reads of a notification and its torrent. -/
structure DueNotification where
  torrentUid : String
  notification : NotificationRow
  torrent : TorrentRow
deriving DecidableEq, Repr

/-- What SQLite can bind as an integer. -/
def InSqliteRange (number : Int) : Prop := -2 ^ 63 ≤ number ∧ number < 2 ^ 63

instance InSqliteRange.decidable : DecidablePred InSqliteRange :=
  fun number => inferInstanceAs (Decidable (-2 ^ 63 ≤ number ∧ number < 2 ^ 63))

/-- The four tables, each by its primary key. -/
structure Catalogue where
  candidates : List (String × CandidateRow) := []
  torrents : List (String × TorrentRow) := []
  files : List FileRow := []
  notifications : List (String × NotificationRow) := []
deriving DecidableEq, Repr

namespace Catalogue

/-- `UPDATE torrent_candidates SET .. WHERE dht_key=? AND ..`. -/
def updateCandidate (dhtKey : String) (matching : CandidateRow → Bool)
    (change : CandidateRow → CandidateRow) (catalogue : Catalogue) : Catalogue :=
  match Dict.get? dhtKey catalogue.candidates with
  | none => catalogue
  | some row =>
      if matching row then
        { catalogue with candidates := Dict.set dhtKey (change row) catalogue.candidates }
      else catalogue

def insertOrSeen (dhtKey : String) (firstSeen lastSeen : Int) (catalogue : Catalogue) :
    Catalogue :=
  let row : CandidateRow :=
    match Dict.get? dhtKey catalogue.candidates with
    | none => { state := .new, firstSeen, lastSeen }
    | some known => { known with lastSeen := max known.lastSeen lastSeen }
  { catalogue with candidates := Dict.set dhtKey row catalogue.candidates }

def torrentSeen (dhtKey : String) (lastSeen : Int) (catalogue : Catalogue) : Catalogue :=
  match (Dict.get? dhtKey catalogue.candidates).bind CandidateRow.torrentUid with
  | none => catalogue
  | some uid =>
      match Dict.get? uid catalogue.torrents with
      | none => catalogue
      | some row =>
          { catalogue with
            torrents := Dict.set uid { row with lastSeen := max row.lastSeen lastSeen }
              catalogue.torrents }

def upsertCandidateSeen (dhtKey : String) (firstSeen lastSeen : Int) :
    Operation Catalogue (Option CandidateRow) :=
  { statements := [insertOrSeen dhtKey firstSeen lastSeen, torrentSeen dhtKey lastSeen]
    result := fun catalogue =>
      Dict.get? dhtKey (insertOrSeen dhtKey firstSeen lastSeen catalogue).candidates }

def candidateState (dhtKey : String) : Operation Catalogue (Option CandidateRow) :=
  { statements := [], result := fun catalogue => Dict.get? dhtKey catalogue.candidates }

/-- `mark_fetching`; the result says whether a row was there to be marked. -/
def markFetching (dhtKey : String) (nowNs : Int) : Operation Catalogue Bool :=
  { statements := [updateCandidate dhtKey CandidateRow.isOpen fun row =>
      { row with
        state := .fetching, attempts := row.attempts + 1, lastAttempt := some nowNs,
        nextAttemptAt := none, lastError := none }]
    result := fun catalogue => (Dict.get? dhtKey catalogue.candidates).any CandidateRow.isOpen }

def markFetchFailed (config : Config) (dhtKey error : String) (nowNs : Int)
    (nextAttemptNs : Option Int) : Operation Catalogue Unit :=
  { statements := [updateCandidate dhtKey (fun row => row.state ≠ .complete) fun row =>
      { row with
        state := .fetchFailed, lastAttempt := some nowNs, nextAttemptAt := nextAttemptNs,
        lastError := some (error.take config.maxIndexTextLength.toNat).toString }]
    result := fun _ => () }

/-- `mark_unsupported`, the one update of a candidate without a guard on its state. -/
def markUnsupported (dhtKey : String) (error : Option String) : Operation Catalogue Unit :=
  { statements := [updateCandidate dhtKey (fun _ => true) fun row =>
      { row with state := .unsupported, lastError := error, nextAttemptAt := none }]
    result := fun _ => () }

/-- `LIMIT ?`, where a negative number stands for no limit. -/
def limited {α : Type} (limit : Int) (rows : List α) : List α :=
  if limit < 0 then rows else rows.take limit.toNat

/-- `due_candidates`: the earliest first, those of one time in the order of their keys. -/
def dueCandidates (nowNs limit : Int) : Operation Catalogue (List String) :=
  { statements := []
    result := fun catalogue =>
      let due := catalogue.candidates.filterMap fun entry =>
        (entry.2.dueAt.filter (· ≤ nowNs)).map (entry.1, ·)
      let sorted := due.insertionSort fun left right =>
        left.2 < right.2 ∨ left.2 = right.2 ∧ left.1 ≤ right.1
      (limited limit sorted).map Prod.fst }

def insertTorrent (torrent : IndexedTorrent) (nowNs : Int) (catalogue : Catalogue) : Catalogue :=
  let firstSeen :=
    match Dict.get? torrent.torrentUid catalogue.torrents with
    | some existing => existing.firstSeen
    | none => nowNs
  let row : TorrentRow :=
    { name := torrent.name, totalSize := torrent.totalSize, fileCount := torrent.fileCount,
      pieceLength := torrent.pieceLength, metadataSize := torrent.metadataSize,
      firstSeen, lastSeen := nowNs }
  { catalogue with torrents := Dict.set torrent.torrentUid row catalogue.torrents }

def deleteFiles (torrentUid : String) (catalogue : Catalogue) : Catalogue :=
  { catalogue with files := catalogue.files.filter (fun row => row.torrentUid ≠ torrentUid) }

def insertFiles (torrent : IndexedTorrent) (catalogue : Catalogue) : Catalogue :=
  { catalogue with
    files := catalogue.files ++ torrent.files.map fun file =>
      { torrentUid := torrent.torrentUid, file } }

def insertNotification (torrentUid : String) (notification : KeywordResult) (nowNs : Int)
    (catalogue : Catalogue) : Catalogue :=
  if torrentUid ∈ Dict.keys catalogue.notifications then catalogue
  else
    let row : NotificationRow :=
      { keywords := notification.keywords, matched := notification.matched, createdAt := nowNs,
        nextAttemptAt := some nowNs }
    { catalogue with notifications := Dict.set torrentUid row catalogue.notifications }

def completeCandidate (dhtKey torrentUid : String) : Catalogue → Catalogue :=
  updateCandidate dhtKey (fun _ => true) fun row =>
    { row with
      state := .complete, torrentUid := some torrentUid, nextAttemptAt := none,
      lastError := none }

/-- `persist_torrent` behind its `BEGIN`. The statement itself is left out: where it fails, because a
transaction is open, the operation goes on here. -/
def persistTorrent (torrent : IndexedTorrent) (dhtKey : String)
    (notification : Option KeywordResult) (nowNs : Int) : Operation Catalogue Unit :=
  { statements :=
      [insertTorrent torrent nowNs, deleteFiles torrent.torrentUid, insertFiles torrent] ++
        notification.toList.map (fun found => insertNotification torrent.torrentUid found nowNs) ++
        [completeCandidate dhtKey torrent.torrentUid]
    result := fun _ => ()
    rollsBack := true }

def markNotificationResult (config : Config) (torrentUid : String) (success : Bool) (nowNs : Int)
    (nextAttemptNs : Option Int) (error : Option String) : Operation Catalogue Unit :=
  let change (row : NotificationRow) : NotificationRow :=
    if success then
      { row with
        status := .sent, attempts := row.attempts + 1, lastAttempt := some nowNs,
        sentAt := some nowNs, nextAttemptAt := none, lastError := none }
    else
      { row with
        status := if nextAttemptNs.isSome then .pending else .failed,
        attempts := row.attempts + 1, lastAttempt := some nowNs, nextAttemptAt := nextAttemptNs,
        lastError := some ((error.getD "").take config.maxIndexTextLength.toNat).toString }
  { statements := [fun catalogue =>
      match Dict.get? torrentUid catalogue.notifications with
      | none => catalogue
      | some row =>
          { catalogue with
            notifications := Dict.set torrentUid (change row) catalogue.notifications }]
    result := fun _ => () }

def dueNotifications (nowNs limit : Int) : Operation Catalogue (List DueNotification) :=
  { statements := []
    result := fun catalogue =>
      let due := catalogue.notifications.filterMap fun entry =>
        if entry.2.status = .pending then
          (entry.2.nextAttemptAt.filter (· ≤ nowNs)).bind fun dueAt =>
            (Dict.get? entry.1 catalogue.torrents).map fun torrent =>
              (dueAt, { torrentUid := entry.1, notification := entry.2, torrent })
        else none
      (limited limit (due.insertionSort fun left right => left.1 ≤ right.1)).map Prod.snd }

/-- `LIKE`, which tells no upper from lower case among the ASCII letters. -/
def like : (pattern text : List Char) → Bool
  | [], text => text.isEmpty
  | sign :: pattern, text =>
      if sign = '%' then text.tails.any (like pattern)
      else
        match text with
        | [] => false
        | letter :: rest => (sign = '_' || sign.toLower = letter.toLower) && like pattern rest

/-- `search`, which fails when the limit cannot be bound. -/
def search (text : String) (limit : Int) :
    Operation Catalogue (Except PyError (List (String × TorrentRow))) :=
  { statements := []
    result := fun catalogue =>
      let pattern := '%' :: text.toList ++ ['%']
      let found := catalogue.torrents.filter fun entry =>
        entry.2.name.any (fun name => like pattern name.toList) ||
          catalogue.files.any fun row =>
            row.torrentUid = entry.1 && like pattern row.file.path.toList
      if InSqliteRange limit then
        .ok (limited limit
          (found.insertionSort fun left right => right.2.lastSeen ≤ left.2.lastSeen))
      else .error (.overflowError "Python int too large to convert to SQLite INTEGER") }

/-- What `_connect` does to the rows of the last process. -/
def recoverInterrupted (nowNs : Int) (catalogue : Catalogue) : Catalogue :=
  { catalogue with
    candidates := catalogue.candidates.map fun entry => (entry.1, entry.2.recovered nowNs) }

end Catalogue

end PyDht
