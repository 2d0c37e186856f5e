import PyDht.CatalogueConsistency

set_option autoImplicit false

namespace PyDht

/-- The row has of the torrent what is stored of it. -/
structure TorrentRow.Describes (row : TorrentRow) (torrent : IndexedTorrent) : Prop where
  name : row.name = torrent.name
  totalSize : row.totalSize = torrent.totalSize
  fileCount : row.fileCount = torrent.fileCount
  pieceLength : row.pieceLength = torrent.pieceLength
  metadataSize : row.metadataSize = torrent.metadataSize

/-- What the callers of `persist_torrent` stand for: that a torrent is the one behind the key of a
candidate, and what the keywords have found in it. -/
abbrev Voucher := String → IndexedTorrent → Option KeywordResult → Prop

namespace Catalogue

/-- Nothing is in the tables of torrents but what somebody has vouched for. -/
structure Authentic (vouched : Voucher) (catalogue : Catalogue) : Prop where
  torrents : ∀ uid row, catalogue.torrent uid = some row → ∃ dhtKey torrent found,
    vouched dhtKey torrent found ∧ torrent.torrentUid = uid ∧ row.Describes torrent ∧
      catalogue.filesOf uid = torrent.files
  files : ∀ uid, catalogue.torrent uid = none → catalogue.filesOf uid = []
  notifications : ∀ uid row, catalogue.notification uid = some row → ∃ dhtKey torrent,
    vouched dhtKey torrent (some { keywords := row.keywords, matched := row.matched }) ∧
      torrent.torrentUid = uid
  candidates : ∀ dhtKey row uid, catalogue.candidate dhtKey = some row →
    row.torrentUid = some uid → ∃ torrent found,
      vouched dhtKey torrent found ∧ torrent.torrentUid = uid

section changes

variable {vouched : Voucher} {catalogue other : Catalogue}

theorem empty_authentic (vouched : Voucher) : Authentic vouched {} := by
  constructor <;> simp [torrent, filesOf, notification, candidate, Dict.get?]

/-- A change that touches nothing that anybody has to vouch for. -/
theorem Authentic.transfer (authentic : catalogue.Authentic vouched)
    (torrents : ∀ uid row, other.torrent uid = some row → ∃ old,
      catalogue.torrent uid = some old ∧ ∀ torrent, old.Describes torrent → row.Describes torrent)
    (absent : ∀ uid, other.torrent uid = none → catalogue.torrent uid = none)
    (files : other.files = catalogue.files)
    (notifications : ∀ uid row, other.notification uid = some row → ∃ old,
      catalogue.notification uid = some old ∧ row.keywords = old.keywords ∧
        row.matched = old.matched)
    (candidates : ∀ dhtKey row uid, other.candidate dhtKey = some row →
      row.torrentUid = some uid → ∃ old, catalogue.candidate dhtKey = some old ∧
        old.torrentUid = some uid) : other.Authentic vouched := by
  have filesSame : ∀ uid, other.filesOf uid = catalogue.filesOf uid := by
    intro uid
    rw [filesOf, files, filesOf]
  constructor
  · intro uid row known
    obtain ⟨old, before, still⟩ := torrents uid row known
    obtain ⟨dhtKey, torrent, found, stands, named, described, listed⟩ :=
      authentic.torrents uid old before
    exact ⟨dhtKey, torrent, found, stands, named, still torrent described,
      (filesSame uid).trans listed⟩
  · intro uid nothing
    exact (filesSame uid).trans (authentic.files uid (absent uid nothing))
  · intro uid row known
    obtain ⟨old, before, keywords, matched⟩ := notifications uid row known
    rw [keywords, matched]
    exact authentic.notifications uid old before
  · intro dhtKey row uid known named
    obtain ⟨old, before, same⟩ := candidates dhtKey row uid known named
    exact authentic.candidates dhtKey old uid before same

/-- A change of the candidates that gives none of them a torrent. -/
theorem Authentic.ofCandidates (authentic : catalogue.Authentic vouched)
    (torrents : other.torrents = catalogue.torrents) (files : other.files = catalogue.files)
    (notifications : other.notifications = catalogue.notifications)
    (candidates : ∀ dhtKey row uid, other.candidate dhtKey = some row →
      row.torrentUid = some uid → ∃ old, catalogue.candidate dhtKey = some old ∧
        old.torrentUid = some uid) : other.Authentic vouched := by
  apply authentic.transfer _ _ files _ candidates
  · intro uid row known
    rw [torrent, torrents] at known
    exact ⟨row, known, fun _ described => described⟩
  · intro uid nothing
    rwa [torrent, torrents] at nothing
  · intro uid row known
    rw [notification, notifications] at known
    exact ⟨row, known, rfl, rfl⟩

theorem updateCandidate_authentic (dhtKey : String) (matching : CandidateRow → Bool)
    {change : CandidateRow → CandidateRow}
    (keeps : ∀ row, (change row).torrentUid = row.torrentUid) :
    Follows (Authentic vouched) (.free Catalogue) (updateCandidate dhtKey matching change) := by
  intro content authentic
  obtain ⟨torrents, files, notifications⟩ := updateCandidate_others dhtKey matching change content
  refine ⟨authentic.ofCandidates torrents files notifications ?_, trivial⟩
  intro key row uid found named
  rw [candidate_updateCandidate] at found
  split at found
  · obtain ⟨old, known, same⟩ := Option.map_eq_some_iff.mp found
    refine ⟨old, known, ?_⟩
    rw [← named, ← same]
    split
    · exact (keeps old).symm
    · rfl
  · exact ⟨row, found, named⟩

theorem insertOrSeen_authentic (dhtKey : String) (firstSeen lastSeen : Int) :
    Follows (Authentic vouched) (.free Catalogue) (insertOrSeen dhtKey firstSeen lastSeen) := by
  intro content authentic
  have kept : (insertOrSeen dhtKey firstSeen lastSeen content).Authentic vouched := by
    refine authentic.ofCandidates ?_ ?_ ?_ ?_
    · rfl
    · rfl
    · rfl
    intro key row uid found named
    rw [candidate_insertOrSeen] at found
    split at found
    · cases known : content.candidate key with
      | none =>
          rw [known] at found
          cases found
          cases named
      | some old =>
          rw [known] at found
          cases found
          exact ⟨old, rfl, named⟩
    · exact ⟨row, found, named⟩
  exact ⟨kept, trivial⟩

theorem recoverInterrupted_authentic (nowNs : Int) :
    Follows (Authentic vouched) (.free Catalogue) (recoverInterrupted nowNs) := by
  intro content authentic
  have kept : (recoverInterrupted nowNs content).Authentic vouched := by
    refine authentic.ofCandidates ?_ ?_ ?_ ?_
    · rfl
    · rfl
    · rfl
    intro key row uid found named
    rw [candidate_recoverInterrupted] at found
    obtain ⟨old, known, same⟩ := Option.map_eq_some_iff.mp found
    refine ⟨old, known, ?_⟩
    rw [← named, ← same]
    unfold CandidateRow.recovered
    split <;> rfl
  exact ⟨kept, trivial⟩

theorem torrentSeen_authentic (dhtKey : String) (lastSeen : Int) :
    Follows (Authentic vouched) (.free Catalogue) (torrentSeen dhtKey lastSeen) := by
  intro content authentic
  refine ⟨?_, trivial⟩
  unfold torrentSeen
  split
  · exact authentic
  · rename_i uid name
    split
    · exact authentic
    · rename_i row found
      refine authentic.transfer ?_ ?_ rfl (fun _ row known => ⟨row, known, rfl, rfl⟩)
        fun _ row _ known named => ⟨row, known, named⟩
      · intro other later there
        rw [torrent, Dict.get?_set] at there
        split at there
        · rename_i same
          cases there
          exact ⟨row, same ▸ found, fun _ described =>
            ⟨described.name, described.totalSize, described.fileCount, described.pieceLength,
              described.metadataSize⟩⟩
        · exact ⟨later, there, fun _ described => described⟩
      · intro other nothing
        rw [torrent, Dict.get?_set] at nothing
        split at nothing
        · cases nothing
        · exact nothing

/-- The result of a notification leaves the keywords of the row. -/
theorem markNotificationResult_authentic (config : Config) (torrentUid : String) (success : Bool)
    (nowNs : Int) (nextAttemptNs : Option Int) (error : Option String)
    {statement : Catalogue → Catalogue}
    (single : (markNotificationResult config torrentUid success nowNs nextAttemptNs
      error).statements = [statement]) :
    Follows (Authentic vouched) (.free Catalogue) statement := by
  intro content authentic
  refine ⟨?_, trivial⟩
  cases single
  dsimp only
  split
  · exact authentic
  · rename_i row found
    generalize written : (if success then _ else _ : NotificationRow) = changed
    have kept : changed.keywords = row.keywords ∧ changed.matched = row.matched := by
      subst written
      split <;> exact ⟨rfl, rfl⟩
    refine authentic.transfer (fun _ row known => ⟨row, known, fun _ described => described⟩)
      (fun _ nothing => nothing) rfl ?_ fun _ row _ known named => ⟨row, known, named⟩
    intro uid later there
    rw [notification, Dict.get?_set] at there
    split at there
    · rename_i same
      cases there
      exact ⟨row, same ▸ found, kept⟩
    · exact ⟨later, there, rfl, rfl⟩

end changes

section persisting

variable {vouched : Voucher} {dhtKey : String} {torrent : IndexedTorrent}
  {found : Option KeywordResult}

theorem describes_replaced (torrent : IndexedTorrent) (nowNs : Int) (catalogue : Catalogue)
    (uid : String) :
    ∃ row : TorrentRow, row.Describes torrent ∧
      (replaced torrent nowNs catalogue).torrent uid =
        if uid = torrent.torrentUid then some row else catalogue.torrent uid :=
  ⟨_, ⟨rfl, rfl, rfl, rfl, rfl⟩, Dict.get?_set _ _ _ _⟩

/-- The rows of a torrent are replaced as a whole, so that no file of other metadata is left. -/
theorem replaced_authentic (stands : vouched dhtKey torrent found) (nowNs : Int)
    {catalogue : Catalogue} (authentic : catalogue.Authentic vouched) :
    (replaced torrent nowNs catalogue).Authentic vouched := by
  constructor
  · intro uid later known
    obtain ⟨row, described, after⟩ := describes_replaced torrent nowNs catalogue uid
    rw [filesOf_replaced]
    by_cases same : uid = torrent.torrentUid
    · rw [if_pos same] at after ⊢
      cases Option.some.inj (known.symm.trans after)
      exact ⟨dhtKey, torrent, found, stands, same.symm, described, rfl⟩
    · rw [if_neg same] at after ⊢
      exact authentic.torrents uid later (after.symm.trans known)
  · intro uid nothing
    obtain ⟨row, -, after⟩ := describes_replaced torrent nowNs catalogue uid
    rw [filesOf_replaced]
    by_cases same : uid = torrent.torrentUid
    · rw [if_pos same] at after
      cases nothing.symm.trans after
    · rw [if_neg same] at after ⊢
      exact authentic.files uid (after.symm.trans nothing)
  · exact authentic.notifications
  · exact authentic.candidates

theorem insertNotification_authentic {found : KeywordResult}
    (stands : vouched dhtKey torrent (some found)) (nowNs : Int) {catalogue : Catalogue}
    (authentic : catalogue.Authentic vouched) :
    (insertNotification torrent.torrentUid found nowNs catalogue).Authentic vouched := by
  unfold insertNotification
  split
  · exact authentic
  · refine ⟨authentic.torrents, authentic.files, ?_, authentic.candidates⟩
    intro uid row known
    rw [notification, Dict.get?_set] at known
    split at known
    · rename_i same
      cases known
      exact ⟨dhtKey, torrent, stands, same.symm⟩
    · exact authentic.notifications uid row known

theorem completeCandidate_authentic (stands : vouched dhtKey torrent found)
    {catalogue : Catalogue} (authentic : catalogue.Authentic vouched) :
    (completeCandidate dhtKey torrent.torrentUid catalogue).Authentic vouched := by
  obtain ⟨torrents, files, notifications⟩ := updateCandidate_others dhtKey (fun _ => true)
    (fun row => { row with
      state := .complete, torrentUid := some torrent.torrentUid, nextAttemptAt := none
      lastError := none }) catalogue
  constructor
  · intro uid row known
    have before : catalogue.torrent uid = some row := by
      rw [Catalogue.torrent, ← torrents]
      exact known
    obtain ⟨key, indexed, hits, vouches, named, described, listed⟩ :=
      authentic.torrents uid row before
    refine ⟨key, indexed, hits, vouches, named, described, ?_⟩
    rw [← listed, filesOf, filesOf, ← files]
    rfl
  · intro uid nothing
    have before : catalogue.torrent uid = none := by
      rw [Catalogue.torrent, ← torrents]
      exact nothing
    have listed := authentic.files uid before
    rw [filesOf, ← files] at listed
    exact listed
  · intro uid row known
    refine authentic.notifications uid row ?_
    rw [notification, ← notifications]
    exact known
  · intro key row uid known named
    rw [completeCandidate, candidate_updateCandidate] at known
    split at known
    · rename_i same
      obtain ⟨old, -, changed⟩ := Option.map_eq_some_iff.mp known
      rw [if_pos rfl] at changed
      subst changed
      cases named
      exact ⟨torrent, found, same ▸ stands, rfl⟩
    · exact authentic.candidates key row uid known named

theorem persistTorrent_authentic (stands : vouched dhtKey torrent found) (nowNs : Int) :
    Follows (Authentic vouched) (.free Catalogue)
      (persistTorrent torrent dhtKey found nowNs).effect := by
  intro content authentic
  have stored := replaced_authentic stands nowNs authentic
  refine ⟨?_, trivial⟩
  cases found with
  | none => exact completeCandidate_authentic stands stored
  | some hits =>
      exact completeCandidate_authentic stands (insertNotification_authentic stands nowNs stored)

end persisting

end Catalogue

/-- Somebody vouches for the torrents that the call writes. -/
def DatabaseCall.Vouched (vouched : Voucher) : DatabaseCall → Prop
  | .persistTorrent torrent dhtKey found _ => vouched dhtKey torrent found
  | _ => True

theorem DatabaseCall.obeys_authentic {vouched : Voucher} {config : Config}
    {request : DatabaseCall} (stands : request.Vouched vouched) :
    (request.operation config).Obeys (Catalogue.Authentic vouched) (.free Catalogue) := by
  cases request with
  | upsertCandidateSeen dhtKey firstSeen lastSeen =>
      intro statement member
      have either : statement = Catalogue.insertOrSeen dhtKey firstSeen lastSeen ∨
          statement = Catalogue.torrentSeen dhtKey lastSeen := by
        simpa [operation, Operation.map, Catalogue.upsertCandidateSeen] using member
      rcases either with rfl | rfl
      · exact Catalogue.insertOrSeen_authentic dhtKey firstSeen lastSeen
      · exact Catalogue.torrentSeen_authentic dhtKey lastSeen
  | markFetching dhtKey nowNs =>
      exact Operation.obeys_of_statement rfl
        (Catalogue.updateCandidate_authentic dhtKey _ fun _ => rfl)
  | markFetchFailed dhtKey error nowNs nextAttemptNs =>
      exact Operation.obeys_of_statement rfl
        (Catalogue.updateCandidate_authentic dhtKey _ fun _ => rfl)
  | markUnsupported dhtKey error =>
      exact Operation.obeys_of_statement rfl
        (Catalogue.updateCandidate_authentic dhtKey _ fun _ => rfl)
  | persistTorrent torrent dhtKey found nowNs =>
      exact Catalogue.persistTorrent_authentic stands nowNs
  | markNotificationResult torrentUid success nowNs nextAttemptNs error =>
      exact Operation.obeys_of_statement rfl (Catalogue.markNotificationResult_authentic config
        torrentUid success nowNs nextAttemptNs error rfl)
  | candidateState dhtKey => exact Operation.obeys_of_reads rfl
  | dueCandidates nowNs limit => exact Operation.obeys_of_reads rfl
  | dueNotifications nowNs limit => exact Operation.obeys_of_reads rfl
  | search text limit => exact Operation.obeys_of_reads rfl

end PyDht
