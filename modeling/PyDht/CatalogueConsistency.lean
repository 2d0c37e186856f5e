import PyDht.CandidateRows
import PyDht.Indexer

set_option autoImplicit false

namespace PyDht

namespace Catalogue

def filesOf (torrentUid : String) (catalogue : Catalogue) : List IndexedFile :=
  (catalogue.files.filter fun row => row.torrentUid = torrentUid).map FileRow.file

def torrent (torrentUid : String) (catalogue : Catalogue) : Option TorrentRow :=
  Dict.get? torrentUid catalogue.torrents

def notification (torrentUid : String) (catalogue : Catalogue) : Option NotificationRow :=
  Dict.get? torrentUid catalogue.notifications

/-- The candidate names a torrent that is there, and has one when it is complete. -/
structure Linked (catalogue : Catalogue) (row : CandidateRow) : Prop where
  named : ∀ uid, row.torrentUid = some uid → ∃ found, catalogue.torrent uid = some found
  complete : row.state = .complete → ∃ uid, row.torrentUid = some uid

/-- What the rows of the four tables say about each other. -/
structure Consistent (catalogue : Catalogue) : Prop where
  torrents : (Dict.keys catalogue.torrents).Nodup
  notifications : (Dict.keys catalogue.notifications).Nodup
  numbered : ∀ uid row, catalogue.torrent uid = some row →
    (catalogue.filesOf uid).map IndexedFile.index = List.range row.fileCount
  total : ∀ uid row, catalogue.torrent uid = some row →
    ((catalogue.filesOf uid).map IndexedFile.size).sum = row.totalSize
  linked : ∀ key row, catalogue.candidate key = some row → catalogue.Linked row
  notified : ∀ uid row, catalogue.notification uid = some row →
    ∃ found, catalogue.torrent uid = some found
  pending : ∀ uid row, catalogue.notification uid = some row →
    (row.status = .pending ↔ row.nextAttemptAt.isSome)

/-- A torrent keeps the time of its first sighting, and a notification stays the one that was
created. -/
def lasting : Evolution Catalogue where
  leads earlier later :=
    (∀ uid row, earlier.torrent uid = some row →
      ∃ next, later.torrent uid = some next ∧ next.firstSeen = row.firstSeen) ∧
    ∀ uid row, earlier.notification uid = some row →
      ∃ next, later.notification uid = some next ∧ next.createdAt = row.createdAt ∧
        next.keywords = row.keywords ∧ next.matched = row.matched
  refl _ := ⟨fun _ row known => ⟨row, known, rfl⟩, fun _ row known => ⟨row, known, rfl, rfl, rfl⟩⟩
  trans early late := by
    constructor
    · intro uid row known
      obtain ⟨next, found, same⟩ := early.1 uid row known
      obtain ⟨last, again, still⟩ := late.1 uid next found
      exact ⟨last, again, still.trans same⟩
    · intro uid row known
      obtain ⟨next, found, created, words, values⟩ := early.2 uid row known
      obtain ⟨last, again, created', words', values'⟩ := late.2 uid next found
      exact ⟨last, again, created'.trans created, words'.trans words, values'.trans values⟩

theorem empty_consistent : Consistent {} := by
  constructor <;> simp [torrent, candidate, notification, Dict.get?, Dict.keys]

/-- A change of the candidates alone. -/
theorem Consistent.ofCandidates {catalogue other : Catalogue} (consistent : catalogue.Consistent)
    (torrents : other.torrents = catalogue.torrents) (files : other.files = catalogue.files)
    (notifications : other.notifications = catalogue.notifications)
    (linked : ∀ key row, other.candidate key = some row → catalogue.Linked row) :
    other.Consistent ∧ lasting.leads catalogue other := by
  have torrentSame : ∀ uid, other.torrent uid = catalogue.torrent uid := by
    intro uid
    rw [torrent, torrents, torrent]
  have filesSame : ∀ uid, other.filesOf uid = catalogue.filesOf uid := by
    intro uid
    rw [filesOf, files, filesOf]
  have notificationSame : ∀ uid, other.notification uid = catalogue.notification uid := by
    intro uid
    rw [notification, notifications, notification]
  refine ⟨⟨torrents ▸ consistent.torrents, notifications ▸ consistent.notifications, ?_, ?_, ?_, ?_,
    ?_⟩, ?_, ?_⟩
  · intro uid row found
    rw [filesSame]
    exact consistent.numbered uid row (torrentSame uid ▸ found)
  · intro uid row found
    rw [filesSame]
    exact consistent.total uid row (torrentSame uid ▸ found)
  · intro key row found
    obtain ⟨named, complete⟩ := linked key row found
    exact ⟨fun uid name => torrentSame uid ▸ named uid name, complete⟩
  · intro uid row found
    rw [torrentSame]
    exact consistent.notified uid row (notificationSame uid ▸ found)
  · intro uid row found
    exact consistent.pending uid row (notificationSame uid ▸ found)
  · intro uid row known
    exact ⟨row, torrentSame uid ▸ known, rfl⟩
  · intro uid row known
    exact ⟨row, notificationSame uid ▸ known, rfl, rfl, rfl⟩

/-- A candidate without a torrent that is not complete either. -/
theorem linked_of_open {catalogue : Catalogue} {row changed : CandidateRow}
    (linked : catalogue.Linked row) (same : changed.torrentUid = row.torrentUid)
    (incomplete : changed.state = .complete → row.state = .complete) : catalogue.Linked changed := by
  constructor
  · intro uid name
    exact linked.named uid (same ▸ name)
  · intro complete
    rw [same]
    exact linked.complete (incomplete complete)

theorem updateCandidate_others (dhtKey : String) (matching : CandidateRow → Bool)
    (change : CandidateRow → CandidateRow) (catalogue : Catalogue) :
    (updateCandidate dhtKey matching change catalogue).torrents = catalogue.torrents ∧
      (updateCandidate dhtKey matching change catalogue).files = catalogue.files ∧
      (updateCandidate dhtKey matching change catalogue).notifications =
        catalogue.notifications := by
  unfold updateCandidate
  split
  · exact ⟨rfl, rfl, rfl⟩
  · split <;> exact ⟨rfl, rfl, rfl⟩

theorem updateCandidate_follows (dhtKey : String) (matching : CandidateRow → Bool)
    {change : CandidateRow → CandidateRow}
    (keeps : ∀ row, (change row).torrentUid = row.torrentUid ∧ (change row).state ≠ .complete) :
    Follows Consistent lasting (updateCandidate dhtKey matching change) := by
  intro content consistent
  obtain ⟨torrents, files, notifications⟩ :=
    updateCandidate_others dhtKey matching change content
  apply consistent.ofCandidates torrents files notifications
  intro key row found
  rw [candidate_updateCandidate] at found
  split at found
  · obtain ⟨old, known, rfl⟩ := Option.map_eq_some_iff.mp found
    have linked := consistent.linked key old known
    split
    · exact linked_of_open linked (keeps old).1 fun complete => absurd complete (keeps old).2
    · exact linked
  · exact consistent.linked key row found

theorem insertOrSeen_follows (dhtKey : String) (firstSeen lastSeen : Int) :
    Follows Consistent lasting (insertOrSeen dhtKey firstSeen lastSeen) := by
  intro content consistent
  refine @Consistent.ofCandidates _ (insertOrSeen dhtKey firstSeen lastSeen content) consistent
    rfl rfl rfl ?_
  intro key row found
  rw [candidate_insertOrSeen] at found
  split at found
  · cases known : content.candidate key with
    | none =>
        rw [known] at found
        cases found
        exact ⟨fun uid name => (by cases name), fun complete => (by cases complete)⟩
    | some old =>
        rw [known] at found
        cases found
        exact linked_of_open (consistent.linked key old known) rfl id
  · exact consistent.linked key row found

theorem recoverInterrupted_follows (nowNs : Int) :
    Follows Consistent lasting (recoverInterrupted nowNs) := by
  intro content consistent
  refine @Consistent.ofCandidates _ (recoverInterrupted nowNs content) consistent rfl rfl rfl ?_
  intro key row found
  rw [candidate_recoverInterrupted] at found
  obtain ⟨old, known, rfl⟩ := Option.map_eq_some_iff.mp found
  have linked := consistent.linked key old known
  unfold CandidateRow.recovered
  split
  · exact linked_of_open linked rfl fun complete => by cases complete
  · exact linked

/-- A change of the torrents that keeps what the other tables rely on. -/
theorem torrentSeen_follows (dhtKey : String) (lastSeen : Int) :
    Follows Consistent lasting (torrentSeen dhtKey lastSeen) := by
  intro content consistent
  unfold torrentSeen
  split
  · exact ⟨consistent, lasting.refl content⟩
  · rename_i uid name
    split
    · exact ⟨consistent, lasting.refl content⟩
    · rename_i row found
      have known : content.torrent uid = some row := found
      have torrentOf : ∀ other later, Dict.get? other (Dict.set uid
          { row with lastSeen := max row.lastSeen lastSeen } content.torrents) = some later →
          ∃ old, content.torrent other = some old ∧ later.fileCount = old.fileCount ∧
            later.totalSize = old.totalSize := by
        intro other later there
        rw [Dict.get?_set] at there
        split at there
        · rename_i same
          cases there
          exact ⟨row, same ▸ known, rfl, rfl⟩
        · exact ⟨later, there, rfl, rfl⟩
      have still : ∀ other old, content.torrent other = some old → ∃ next,
          Dict.get? other (Dict.set uid { row with lastSeen := max row.lastSeen lastSeen }
            content.torrents) = some next ∧ next.firstSeen = old.firstSeen := by
        intro other old there
        rw [Dict.get?_set]
        split
        · rename_i same
          cases Option.some.inj ((same ▸ known).symm.trans there)
          exact ⟨_, rfl, rfl⟩
        · exact ⟨old, there, rfl⟩
      refine ⟨⟨Dict.nodup_keys_set uid _ consistent.torrents, consistent.notifications, ?_, ?_, ?_,
        ?_, consistent.pending⟩, still, fun _ row known => ⟨row, known, rfl, rfl, rfl⟩⟩
      · intro other later there
        obtain ⟨old, before, count, -⟩ := torrentOf other later there
        rw [count]
        exact consistent.numbered other old before
      · intro other later there
        obtain ⟨old, before, -, size⟩ := torrentOf other later there
        rw [size]
        exact consistent.total other old before
      · intro key candidate there
        obtain ⟨named, complete⟩ := consistent.linked key candidate there
        refine ⟨fun other name => ?_, complete⟩
        obtain ⟨old, before⟩ := named other name
        obtain ⟨next, after, -⟩ := still other old before
        exact ⟨next, after⟩
      · intro other notification there
        obtain ⟨old, before⟩ := consistent.notified other notification there
        obtain ⟨next, after, -⟩ := still other old before
        exact ⟨next, after⟩

/-- The row of the torrent with its set of files, as `persist_torrent` replaces both. -/
def replaced (torrent : IndexedTorrent) (nowNs : Int) (catalogue : Catalogue) : Catalogue :=
  insertFiles torrent (deleteFiles torrent.torrentUid (insertTorrent torrent nowNs catalogue))

theorem filesOf_replaced (torrent : IndexedTorrent) (nowNs : Int) (catalogue : Catalogue)
    (uid : String) :
    (replaced torrent nowNs catalogue).filesOf uid =
      if uid = torrent.torrentUid then torrent.files else catalogue.filesOf uid := by
  simp only [replaced, insertFiles, deleteFiles, insertTorrent, filesOf, List.filter_append,
    List.map_append, List.filter_filter, List.filter_map, List.map_map]
  by_cases same : uid = torrent.torrentUid
  · subst same
    simp [Function.comp_def]
  · have other : ¬ torrent.torrentUid = uid := Ne.symm same
    have kept : (catalogue.files.filter fun row =>
        decide (row.torrentUid = uid) && decide (row.torrentUid ≠ torrent.torrentUid)) =
        catalogue.files.filter fun row => row.torrentUid = uid := by
      apply List.filter_congr
      intro row _
      by_cases here : row.torrentUid = uid
      · simp [here, same]
      · simp [here]
    rw [kept]
    simp [Function.comp_def, other, same]

theorem torrent_replaced (torrent : IndexedTorrent) (nowNs : Int) (catalogue : Catalogue)
    (uid : String) :
    ∃ row : TorrentRow, row.fileCount = torrent.fileCount ∧ row.totalSize = torrent.totalSize ∧
      (∀ old, catalogue.torrent torrent.torrentUid = some old → row.firstSeen = old.firstSeen) ∧
      (replaced torrent nowNs catalogue).torrent uid =
        if uid = torrent.torrentUid then some row else catalogue.torrent uid := by
  refine ⟨_, rfl, rfl, fun old known => ?_, Dict.get?_set _ _ _ _⟩
  rw [Catalogue.torrent] at known
  simp only [known]

/-- What refers to torrents may go on referring to them when torrents are added or replaced. -/
theorem linked_mono {catalogue other : Catalogue} {row : CandidateRow}
    (grows : ∀ uid found, catalogue.torrent uid = some found → ∃ next, other.torrent uid = some next)
    (linked : catalogue.Linked row) : other.Linked row := by
  refine ⟨fun uid name => ?_, linked.complete⟩
  obtain ⟨found, known⟩ := linked.named uid name
  exact grows uid found known

theorem replaced_follows {torrent : IndexedTorrent} (wellformed : torrent.Wellformed)
    (nowNs : Int) : Follows Consistent lasting (replaced torrent nowNs) := by
  intro content consistent
  have still : ∀ uid old, content.torrent uid = some old →
      ∃ next, (replaced torrent nowNs content).torrent uid = some next ∧
        next.firstSeen = old.firstSeen := by
    intro uid old known
    obtain ⟨row, -, -, seen, found⟩ := torrent_replaced torrent nowNs content uid
    by_cases same : uid = torrent.torrentUid
    · rw [if_pos same] at found
      exact ⟨row, found, seen old (same ▸ known)⟩
    · rw [if_neg same] at found
      exact ⟨old, found.trans known, rfl⟩
  have grows : ∀ uid found, content.torrent uid = some found →
      ∃ next, (replaced torrent nowNs content).torrent uid = some next := by
    intro uid old known
    obtain ⟨next, found, -⟩ := still uid old known
    exact ⟨next, found⟩
  refine ⟨⟨Dict.nodup_keys_set torrent.torrentUid _ consistent.torrents, consistent.notifications,
    ?_, ?_, ?_, ?_, consistent.pending⟩, still, fun _ row known => ⟨row, known, rfl, rfl, rfl⟩⟩
  · intro uid later known
    obtain ⟨row, count, -, -, found⟩ := torrent_replaced torrent nowNs content uid
    rw [filesOf_replaced]
    by_cases same : uid = torrent.torrentUid
    · rw [if_pos same] at found ⊢
      cases Option.some.inj (known.symm.trans found)
      rw [count, wellformed.numbered]
    · rw [if_neg same] at found ⊢
      exact consistent.numbered uid later (found.symm.trans known)
  · intro uid later known
    obtain ⟨row, -, size, -, found⟩ := torrent_replaced torrent nowNs content uid
    rw [filesOf_replaced]
    by_cases same : uid = torrent.torrentUid
    · rw [if_pos same] at found ⊢
      cases Option.some.inj (known.symm.trans found)
      rw [size, wellformed.total]
    · rw [if_neg same] at found ⊢
      exact consistent.total uid later (found.symm.trans known)
  · intro key row known
    exact linked_mono grows (consistent.linked key row known)
  · intro uid row known
    obtain ⟨found, there⟩ := consistent.notified uid row known
    exact grows uid found there

/-- A change of the notifications alone. -/
theorem Consistent.withNotifications {catalogue : Catalogue} (consistent : catalogue.Consistent)
    {notifications : List (String × NotificationRow)} (distinct : (Dict.keys notifications).Nodup)
    (known : ∀ uid row, Dict.get? uid notifications = some row →
      (∃ found, catalogue.torrent uid = some found) ∧
        (row.status = .pending ↔ row.nextAttemptAt.isSome)) :
    Consistent { catalogue with notifications } := by
  refine ⟨consistent.torrents, distinct, consistent.numbered, consistent.total, ?_,
    fun uid row found => (known uid row found).1, fun uid row found => (known uid row found).2⟩
  intro key row found
  obtain ⟨named, complete⟩ := consistent.linked key row found
  exact ⟨named, complete⟩

theorem insertNotification_follows {torrentUid : String} (found : KeywordResult) (nowNs : Int) :
    Follows (fun content => Consistent content ∧ ∃ row, content.torrent torrentUid = some row)
      lasting (insertNotification torrentUid found nowNs) := by
  intro content before
  obtain ⟨consistent, there⟩ := before
  unfold insertNotification
  split
  · exact ⟨⟨consistent, there⟩, lasting.refl content⟩
  · rename_i absent
    have nothing : content.notification torrentUid = none :=
      (Dict.get?_eq_none_iff torrentUid _).mpr absent
    have notificationOf : ∀ uid row, Dict.get? uid (Dict.set torrentUid
        ({ keywords := found.keywords, matched := found.matched, createdAt := nowNs,
           nextAttemptAt := some nowNs } : NotificationRow) content.notifications) = some row →
        (uid = torrentUid ∧ row.status = .pending ∧ row.nextAttemptAt = some nowNs) ∨
          content.notification uid = some row := by
      intro uid row known
      rw [Dict.get?_set] at known
      split at known
      · rename_i same
        cases known
        exact .inl ⟨same, rfl, rfl⟩
      · exact .inr known
    refine ⟨⟨consistent.withNotifications (Dict.nodup_keys_set torrentUid _
      consistent.notifications) ?_, there⟩, fun _ row known => ⟨row, known, rfl⟩, ?_⟩
    · intro uid row known
      obtain ⟨same, pending, timed⟩ | old := notificationOf uid row known
      · exact ⟨same ▸ there, by simp [pending, timed]⟩
      · exact ⟨consistent.notified uid row old, consistent.pending uid row old⟩
    · intro uid row known
      have other : uid ≠ torrentUid := by
        intro same
        rw [same, nothing] at known
        cases known
      exact ⟨row, (Dict.get?_set_ne other _ _).trans known, rfl, rfl, rfl⟩

theorem completeCandidate_follows (dhtKey torrentUid : String) :
    Follows (fun content => Consistent content ∧ ∃ row, content.torrent torrentUid = some row)
      lasting (completeCandidate dhtKey torrentUid) := by
  intro content before
  obtain ⟨consistent, there⟩ := before
  obtain ⟨torrents, files, notifications⟩ := updateCandidate_others dhtKey (fun _ => true)
    (fun row => { row with
      state := .complete, torrentUid := some torrentUid, nextAttemptAt := none
      lastError := none }) content
  have kept := consistent.ofCandidates torrents files notifications fun key row found => by
    rw [candidate_updateCandidate] at found
    split at found
    · obtain ⟨old, known, rfl⟩ := Option.map_eq_some_iff.mp found
      refine ⟨fun uid name => ?_, fun _ => ⟨torrentUid, rfl⟩⟩
      cases name
      exact there
    · exact consistent.linked key row found
  obtain ⟨row, found⟩ := there
  refine ⟨⟨kept.1, row, ?_⟩, kept.2⟩
  rw [torrent] at found ⊢
  rw [← found]
  exact congrArg (Dict.get? torrentUid) torrents

/-- A failure of the notification and a success leave it pending exactly when it has a time. -/
theorem markNotificationResult_follows (config : Config) (torrentUid : String) (success : Bool)
    (nowNs : Int) (nextAttemptNs : Option Int) (error : Option String)
    {statement : Catalogue → Catalogue}
    (single : (markNotificationResult config torrentUid success nowNs nextAttemptNs
      error).statements = [statement]) : Follows Consistent lasting statement := by
  intro content consistent
  cases single
  dsimp only
  split
  · exact ⟨consistent, lasting.refl content⟩
  · rename_i row found
    have known : content.notification torrentUid = some row := found
    generalize written : (if success then _ else _ : NotificationRow) = changed
    have facts : (changed.status = .pending ↔ changed.nextAttemptAt.isSome) ∧
        changed.createdAt = row.createdAt ∧ changed.keywords = row.keywords ∧
          changed.matched = row.matched := by
      subst written
      cases success
      · cases nextAttemptNs <;> simp
      · simp
    obtain ⟨timed, same⟩ := facts
    refine ⟨consistent.withNotifications (Dict.nodup_keys_set torrentUid _
      consistent.notifications) ?_, fun _ row known => ⟨row, known, rfl⟩, ?_⟩
    · intro uid later there
      rw [Dict.get?_set] at there
      split at there
      · rename_i here
        cases there
        exact ⟨here ▸ consistent.notified torrentUid row known, timed⟩
      · exact ⟨consistent.notified uid later there, consistent.pending uid later there⟩
    · intro uid old there
      by_cases here : uid = torrentUid
      · cases Option.some.inj ((here ▸ known).symm.trans there)
        refine ⟨changed, ?_, same⟩
        rw [notification, here]
        exact Dict.get?_set_self _ _ _
      · refine ⟨old, ?_, rfl, rfl, rfl⟩
        rw [notification, Dict.get?_set_ne here]
        exact there

theorem persistTorrent_follows {torrent : IndexedTorrent} (wellformed : torrent.Wellformed)
    (dhtKey : String) (notification : Option KeywordResult) (nowNs : Int) :
    Follows Consistent lasting (persistTorrent torrent dhtKey notification nowNs).effect := by
  intro content consistent
  obtain ⟨kept, led⟩ := replaced_follows wellformed nowNs content consistent
  have there : ∃ row, (replaced torrent nowNs content).torrent torrent.torrentUid = some row := by
    obtain ⟨row, -, -, -, found⟩ := torrent_replaced torrent nowNs content torrent.torrentUid
    exact ⟨row, found.trans (if_pos rfl)⟩
  cases notification with
  | none =>
      have last := completeCandidate_follows dhtKey torrent.torrentUid _ ⟨kept, there⟩
      exact ⟨last.1.1, lasting.trans led last.2⟩
  | some found =>
      have noted := insertNotification_follows found nowNs _ ⟨kept, there⟩
      have last := completeCandidate_follows dhtKey torrent.torrentUid _ noted.1
      exact ⟨last.1.1, lasting.trans led (lasting.trans noted.2 last.2)⟩

end Catalogue

/-- The torrents that the call writes come from `parse_validated_info`. -/
def DatabaseCall.Parsed (config : Config) : DatabaseCall → Prop
  | .persistTorrent torrent _ _ _ =>
      ∃ rawInfo, Indexer.parseValidatedInfo config rawInfo torrent.torrentUid = .ok torrent
  | _ => True

theorem DatabaseCall.obeys_consistent {config : Config} {request : DatabaseCall}
    (parsed : request.Parsed config) :
    (request.operation config).Obeys Catalogue.Consistent Catalogue.lasting := by
  cases request with
  | upsertCandidateSeen dhtKey firstSeen lastSeen =>
      intro statement member
      have either : statement = Catalogue.insertOrSeen dhtKey firstSeen lastSeen ∨
          statement = Catalogue.torrentSeen dhtKey lastSeen := by
        simpa [operation, Operation.map, Catalogue.upsertCandidateSeen] using member
      obtain rfl | rfl := either
      · exact Catalogue.insertOrSeen_follows dhtKey firstSeen lastSeen
      · exact Catalogue.torrentSeen_follows dhtKey lastSeen
  | markFetching dhtKey nowNs =>
      exact Operation.obeys_of_statement rfl (Catalogue.updateCandidate_follows _ _ fun _ =>
        ⟨rfl, CandidateStatus.noConfusion⟩)
  | markFetchFailed dhtKey error nowNs nextAttemptNs =>
      exact Operation.obeys_of_statement rfl (Catalogue.updateCandidate_follows _ _ fun _ =>
        ⟨rfl, CandidateStatus.noConfusion⟩)
  | markUnsupported dhtKey error =>
      exact Operation.obeys_of_statement rfl (Catalogue.updateCandidate_follows _ _ fun _ =>
        ⟨rfl, CandidateStatus.noConfusion⟩)
  | persistTorrent torrent dhtKey notification nowNs =>
      obtain ⟨rawInfo, parsed⟩ := parsed
      exact Catalogue.persistTorrent_follows (Indexer.parseValidatedInfo_wellformed parsed).1 dhtKey
        notification nowNs
  | markNotificationResult torrentUid success nowNs nextAttemptNs error =>
      exact Operation.obeys_of_statement rfl (Catalogue.markNotificationResult_follows config
        torrentUid success nowNs nextAttemptNs error rfl)
  | candidateState dhtKey => exact Operation.obeys_of_reads rfl
  | dueCandidates nowNs limit => exact Operation.obeys_of_reads rfl
  | dueNotifications nowNs limit => exact Operation.obeys_of_reads rfl
  | search text limit => exact Operation.obeys_of_reads rfl

namespace Operation

variable {Db Result : Type}

/-- Where the turn commits, the size check behind the commit passes. -/
def ChecksOut (attempts : Nat → Attempt) (turn : Nat) : Prop :=
  (attempts turn).before = .passes → OpenAt attempts turn →
    (attempts turn).func = .commits → (attempts turn).after = .passes

/-- The first turn that is not turned back does not fail behind its commit. -/
def RaisesUncommitted (config : Config) (attempts : Nat → Attempt) : Prop :=
  ∀ turn ≤ config.dbReopenRetryCount.toNat,
    (∀ earlier < turn, TurnedBack attempts earlier) → ChecksOut attempts turn

/-- A turn that is neither turned back nor fails behind its commit ends the loop, and gives an
exception only when it has left the committed content alone. -/
theorem attemptOnce_untouched {operation : Operation Db Result} {attempts : Nat → Attempt}
    {turn : Nat} {session : Session Db} (opened : session.isOpen = true ↔ OpenAt attempts turn)
    (decisive : ¬ TurnedBack attempts turn) (checks : ChecksOut attempts turn) (retries : Nat)
    {error : PyError}
    (raised : (operation.serve attempts retries turn session).reply = .exception error) :
    (operation.serve attempts retries turn session).session.committed = session.committed := by
  cases before : (attempts turn).before with
  | statFails text => exact absurd (.inl ⟨text, before⟩) decisive
  | tooLarge =>
      have refused : (attempts turn).before.outcome =
          .error (.storageError "DATABASE_MAX_BYTES reached") := by
        rw [before]
        rfl
      rw [serve_stopped rfl (attemptOnce_blocked operation refused)]
  | passes =>
      have isOpenAt : OpenAt attempts turn := by
        by_contra closed
        exact decisive (.inr ⟨before, .inl closed⟩)
      have isOpen := opened.mpr isOpenAt
      cases func : (attempts turn).func with
      | commits =>
          have after := checks before isOpenAt func
          cases tried : operation.attemptOnce (attempts turn) session with
          | mk outcome later =>
              cases outcome with
              | ok value =>
                  rw [serve_ok tried] at raised
                  cases raised
              | error fault =>
                  simp only [attemptOnce, before, SizeCheck.outcome, call, isOpen, if_true, func,
                    after] at tried
                  split at tried
                  · rename_i failed
                    split at failed <;> cases failed
                  · cases tried
      | raises statements fault =>
          have final : fault.isRecoverable = false := by
            by_contra again
            exact decisive (.inr ⟨before, .inr ⟨statements, fault, func, by simpa using again⟩⟩)
          rw [serve_stopped final (attemptOnce_raises operation before isOpen func)]
          split <;> rfl

theorem serve_untouched {operation : Operation Db Result} (attempts : Nat → Attempt)
    (retries turn : Nat) {session : Session Db}
    (opened : session.isOpen = true ↔ OpenAt attempts turn)
    (uncommitted : ∀ later ≤ retries,
      (∀ earlier < later, TurnedBack attempts (turn + earlier)) →
        ChecksOut attempts (turn + later))
    {error : PyError}
    (raised : (operation.serve attempts retries turn session).reply = .exception error) :
    (operation.serve attempts retries turn session).session.committed = session.committed := by
  induction retries generalizing turn session with
  | zero =>
      rw [turns_zero attempts turn (ChecksOut attempts)] at uncommitted
      by_cases back : TurnedBack attempts turn
      · obtain ⟨-, fault, after, again, tried, committed, -⟩ := operation.turned_back opened back
        rw [serve_exhausted again tried]
        exact committed
      · exact attemptOnce_untouched opened back uncommitted 0 raised
  | succ retries ih =>
      rw [turns_succ attempts retries turn (ChecksOut attempts)] at uncommitted
      by_cases back : TurnedBack attempts turn
      · obtain ⟨-, fault, after, again, tried, committed, -⟩ := operation.turned_back opened back
        rw [serve_retry again tried] at raised ⊢
        rw [ih (turn + 1) (recovered_isOpen attempts turn after) (uncommitted.2 back) raised,
          (recovered_committed _ _).1, committed]
      · exact attemptOnce_untouched opened back uncommitted.1 (retries + 1) raised

theorem run_untouched {operation : Operation Db Result} {config : Config}
    {attempts : Nat → Attempt} (uncommitted : RaisesUncommitted config attempts)
    {session : Session Db} (opened : session.isOpen = true) {error : PyError}
    (raised : (operation.run config attempts session).reply = .exception error) :
    (operation.run config attempts session).session.committed = session.committed := by
  refine serve_untouched attempts _ 0 (by simp [opened, OpenAt]) ?_ raised
  unfold RaisesUncommitted at uncommitted
  simpa only [Nat.zero_add] using uncommitted

end Operation

namespace Store

variable {config : Config}

/-- A connection that serves calls is open. -/
structure Ready (store : Store) : Prop where
  sane : Operation.Sane store.session
  opened : store.thread = .serving → store.session.isOpen = true

theorem step_ready {store next : Store} {event : StoreEvent} (ready : store.Ready)
    (taken : step config store event = some next) : next.Ready := by
  cases event with
  | start nowNs =>
      simp only [step] at taken
      split at taken <;> cases taken
      exact ⟨fun _ => rfl, fun _ => rfl⟩
  | serve request attempts =>
      simp only [step] at taken
      split at taken <;> cases taken
      obtain ⟨sane, stays⟩ := (request.operation config).serve_leaves attempts
        config.dbReopenRetryCount.toNat 0 ready.sane
      refine ⟨sane, fun serving => stays ?_⟩
      by_contra fatal
      rw [Bool.not_eq_false] at fatal
      simp only [Operation.run, fatal, if_true] at serving
      cases serving
  | stop =>
      simp only [step] at taken
      split at taken <;> cases taken
      refine ⟨fun _ => ?_, fun serving => (by cases serving)⟩
      unfold Session.leave
      split <;> rfl
  | kill =>
      cases taken
      exact ⟨fun _ => rfl, fun serving => (by cases serving)⟩

theorem run_ready {events : List StoreEvent} {final : Store}
    (ran : Transition.run (step config) empty events = some final) : final.Ready :=
  Transition.invariant_run Ready (fun _ _ _ => step_ready) ran
    ⟨fun _ => rfl, fun serving => by cases serving⟩

end Store

/-- What a run's calls of `persist_torrent` are given, and that none fails behind its commit. -/
def StoreEvent.Persists (config : Config) : StoreEvent → Prop
  | .serve (.persistTorrent torrent dhtKey notification nowNs) attempts =>
      (DatabaseCall.persistTorrent torrent dhtKey notification nowNs).Parsed config ∧
        Operation.RaisesUncommitted config attempts
  | _ => True

namespace Store

variable {config : Config}

theorem parsed_of_persists {request : DatabaseCall} {attempts : Nat → Attempt}
    (persists : (StoreEvent.serve request attempts).Persists config) : request.Parsed config := by
  cases request with
  | persistTorrent torrent dhtKey notification nowNs => exact persists.1
  | upsertCandidateSeen dhtKey firstSeen lastSeen => trivial
  | markFetching dhtKey nowNs => trivial
  | markFetchFailed dhtKey error nowNs nextAttemptNs => trivial
  | markUnsupported dhtKey error => trivial
  | markNotificationResult torrentUid success nowNs nextAttemptNs error => trivial
  | candidateState dhtKey => trivial
  | dueCandidates nowNs limit => trivial
  | dueNotifications nowNs limit => trivial
  | search text limit => trivial

/-- In a run whose calls of `persist_torrent` get parsed torrents and do not fail behind their
commit, what is committed is consistent at every moment, no torrent changes its first sighting, no
notification is created twice, and a `persist_torrent` that raises changes nothing. -/
theorem run_consistent (config : Config) (before after : List StoreEvent) (middle final : Store)
    (persists : ∀ event ∈ before ++ after, event.Persists config)
    (reached : Transition.run (step config) empty before = some middle)
    (ran : Transition.run (step config) middle after = some final) :
    final.session.committed.Consistent ∧
      Catalogue.lasting.leads middle.session.committed final.session.committed ∧
      ∀ torrent dhtKey notification nowNs attempts, after = [.serve
        (.persistTorrent torrent dhtKey notification nowNs) attempts] →
        ∀ error, (((DatabaseCall.persistTorrent torrent dhtKey notification nowNs).operation config).run
          config attempts middle.session).reply = .exception error →
          final.session.committed = middle.session.committed := by
  have recovers : ∀ nowNs, Follows Catalogue.Consistent Catalogue.lasting
      (Catalogue.recoverInterrupted nowNs) := Catalogue.recoverInterrupted_follows
  obtain ⟨within, -⟩ := run_within recovers (fun request attempts member =>
    DatabaseCall.obeys_consistent (parsed_of_persists (persists _ (List.mem_append_left _ member))))
    reached (.same rfl Catalogue.empty_consistent)
  obtain ⟨last, led⟩ := run_within recovers (fun request attempts member =>
    DatabaseCall.obeys_consistent (parsed_of_persists (persists _ (List.mem_append_right _ member))))
    ran within
  refine ⟨last.committed, led, ?_⟩
  intro torrent dhtKey notification nowNs attempts single error raised
  subst single
  obtain ⟨next, taken, same⟩ := Transition.run_cons.mp ran
  cases same
  simp only [step] at taken
  split at taken
  · rename_i serving
    cases taken
    have settles := (persists _ (List.mem_append_right _ List.mem_cons_self)).2
    exact Operation.run_untouched settles ((run_ready reached).opened serving) raised
  · cases taken

/-- The metadata `d6:lengthi3e4:name1:ae`. -/
def smallInfo : Bytes := ascii "d6:lengthi3e4:name1:ae"

def smallTorrent : IndexedTorrent :=
  { torrentUid := "btih:01", name := some "a", totalSize := 3, fileCount := 1, pieceLength := none,
    metadataSize := 22, rawInfo := smallInfo, files := [{ index := 0, path := "a", size := 3 }] }

theorem smallTorrent_parsed :
    Indexer.parseValidatedInfo {} smallInfo smallTorrent.torrentUid = .ok smallTorrent := by
  decide +kernel

theorem run_consistent_sample :
    ∃ middle final,
      Transition.run (step {}) empty [.start 1,
        .serve (.upsertCandidateSeen "dht20:01" 2 2) fun _ => {}] = some middle ∧
      Transition.run (step {}) middle [.serve (.persistTorrent smallTorrent "dht20:01" none 3)
        fun _ => { func := .raises 2 (.overflowError "size") }] = some final ∧
      final.session.committed.Consistent ∧
      Catalogue.lasting.leads middle.session.committed final.session.committed ∧
      final.session.committed = middle.session.committed := by
  obtain ⟨consistent, led, untouched⟩ := run_consistent {} [.start 1,
      .serve (.upsertCandidateSeen "dht20:01" 2 2) fun _ => {}]
    [.serve (.persistTorrent smallTorrent "dht20:01" none 3)
      fun _ => { func := .raises 2 (.overflowError "size") }] _ _ (by
      intro event member
      simp only [List.cons_append, List.nil_append, List.mem_cons, List.not_mem_nil,
        or_false] at member
      obtain rfl | rfl | rfl := member
      · trivial
      · trivial
      · refine ⟨⟨smallInfo, smallTorrent_parsed⟩, ?_⟩
        intro turn _ _ _ _ commits
        cases commits) rfl rfl
  exact ⟨_, _, rfl, rfl, consistent, led, untouched _ _ _ _ _ rfl _ rfl⟩

/-- The size check behind the commit finds the database too large: the caller gets an exception for
a torrent that is in the catalogue. -/
theorem persisted_and_raised :
    ∃ middle final,
      Transition.run (step {}) empty [.start 1,
        .serve (.upsertCandidateSeen "dht20:01" 2 2) fun _ => {}] = some middle ∧
      Transition.run (step {}) middle [.serve (.persistTorrent smallTorrent "dht20:01" none 3)
        fun _ => { after := .tooLarge }] = some final ∧
      (((DatabaseCall.persistTorrent smallTorrent "dht20:01" none 3).operation {}).run {}
        (fun _ => { after := .tooLarge }) middle.session).reply =
          .exception (.storageError "DATABASE_MAX_BYTES reached") ∧
      final.session.committed ≠ middle.session.committed :=
  ⟨_, _, rfl, rfl, rfl, by decide⟩

end Store

end PyDht
