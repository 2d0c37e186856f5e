import PyDht.CatalogueConsistency
import PyDht.Lib.Chronicle
import PyDht.Notifier

set_option autoImplicit false

namespace PyDht

open Chronicle (Lawful)

section aligned

variable {Db Result View : Type} {view : Db → View}

/-- The connection reads what is committed, as far as it can be seen. -/
def Session.Aligned (view : Db → View) (session : Session Db) : Prop :=
  view session.working = view session.committed

/-- What can be seen changes with a commit only. -/
def Operation.Withholds (view : Db → View) (operation : Operation Db Result) : Prop :=
  operation.rollsBack = true ∨
    ∀ statement ∈ operation.statements, ∀ content, view (statement content) = view content

theorem view_foldl {statements : List (Db → Db)}
    (still : ∀ statement ∈ statements, ∀ content, view (statement content) = view content)
    (content : Db) :
    view (statements.foldl (fun content statement => statement content) content) =
      view content := by
  induction statements generalizing content with
  | nil => rfl
  | cons first statements ih =>
      rcases List.forall_mem_cons.mp still with ⟨here, later⟩
      exact (ih later (first content)).trans (here content)

namespace Operation

variable {operation : Operation Db Result} {session : Session Db}

theorem Withholds.attemptOnce (withholds : operation.Withholds view) (attempt : Attempt)
    (aligned : session.Aligned view) :
    (operation.attemptOnce attempt session).2.Aligned view := by
  rcases attemptOnce_session operation attempt session with
    same | ⟨statements, error, stopped⟩ | ⟨-, committed⟩
  · rw [same]
    exact aligned
  · rw [stopped]
    dsimp only
    split
    · rfl
    · rename_i direct
      have still := withholds.resolve_left direct
      exact (view_foldl (fun statement member => still statement (List.mem_of_mem_take member))
        session.working).trans aligned
  · rw [committed]
    rfl

theorem Withholds.run (withholds : operation.Withholds view) (config : Config)
    (attempts : Nat → Attempt) (aligned : session.Aligned view) :
    (operation.run config attempts session).session.Aligned view := by
  refine serve_rule (motive := fun session served => session.Aligned view →
    served.session.Aligned view) ?_ ?_ ?_ ?_ _ 0 session aligned
  · intro turn session value after tried aligned
    have kept := withholds.attemptOnce (attempts turn) aligned
    rwa [tried] at kept
  · intro turn session error after final tried aligned
    have kept := withholds.attemptOnce (attempts turn) aligned
    rwa [tried] at kept
  · intro turn session error after again tried aligned
    rfl
  · intro turn session error after served again tried later aligned
    exact later (congrArg view (recovered_clean (attempts turn) after).working)

end Operation

end aligned

/-- A step keeps what is seen aligned when the call that it serves does. -/
theorem Store.step_aligned {View : Type} {view : Catalogue → View} {config : Config}
    {store next : Store} {event : StoreEvent}
    (serves : ∀ request attempts, event = .serve request attempts →
      (request.operation config).Withholds view)
    (aligned : store.session.Aligned view) (taken : store.step config event = some next) :
    next.session.Aligned view := by
  cases event with
  | start nowNs =>
      simp only [step] at taken
      split at taken
      · cases taken
        rfl
      · cases taken
  | serve request attempts =>
      simp only [step] at taken
      split at taken
      · cases taken
        exact (serves request attempts rfl).run config attempts aligned
      · cases taken
  | stop =>
      simp only [step] at taken
      split at taken
      · cases taken
      · cases taken
        show store.session.leave.Aligned view
        unfold Session.leave
        split <;> rfl
  | kill =>
      cases taken
      rfl

namespace Catalogue

/-- The torrents with a notification. -/
def notified (catalogue : Catalogue) : List String := Dict.keys catalogue.notifications

theorem torrentSeen_notifications (dhtKey : String) (lastSeen : Int) (catalogue : Catalogue) :
    (torrentSeen dhtKey lastSeen catalogue).notifications = catalogue.notifications := by
  unfold torrentSeen
  split
  · rfl
  · split <;> rfl

end Catalogue

theorem DatabaseCall.withholds_notified (config : Config) (request : DatabaseCall) :
    (request.operation config).Withholds Catalogue.notified := by
  have candidates : ∀ (dhtKey : String) (matching : CandidateRow → Bool)
      (change : CandidateRow → CandidateRow),
      ∀ statement ∈ [Catalogue.updateCandidate dhtKey matching change], ∀ content,
        (statement content).notified = content.notified := by
    intro dhtKey matching change statement member content
    rw [List.mem_singleton.mp member]
    exact congrArg Dict.keys (Catalogue.updateCandidate_others dhtKey matching change content).2.2
  cases request with
  | upsertCandidateSeen dhtKey firstSeen lastSeen =>
      right
      intro statement member content
      have either : statement = Catalogue.insertOrSeen dhtKey firstSeen lastSeen ∨
          statement = Catalogue.torrentSeen dhtKey lastSeen := by
        simpa [operation, Operation.map, Catalogue.upsertCandidateSeen] using member
      rcases either with rfl | rfl
      · rfl
      · exact congrArg Dict.keys (Catalogue.torrentSeen_notifications dhtKey lastSeen content)
  | markFetching => exact .inr (candidates _ _ _)
  | markFetchFailed => exact .inr (candidates _ _ _)
  | markUnsupported => exact .inr (candidates _ _ _)
  | persistTorrent => exact .inl rfl
  | markNotificationResult torrentUid success nowNs nextAttemptNs error =>
      right
      intro statement member content
      rw [List.mem_singleton.mp member]
      dsimp only
      split
      · rfl
      · rename_i row found
        exact Dict.keys_set_known _ (Dict.mem_keys_of_get? found)
  | candidateState => exact .inr fun _ member => absurd member List.not_mem_nil
  | dueCandidates => exact .inr fun _ member => absurd member List.not_mem_nil
  | dueNotifications => exact .inr fun _ member => absurd member List.not_mem_nil
  | search => exact .inr fun _ member => absurd member List.not_mem_nil

/-! What is noted of one torrent. -/

namespace Notice

def about (uid : String) : Notice → Bool
  | .started => false
  | .begun _ row _ => row.torrentUid = uid
  | .recorded torrentUid _ _ _ => torrentUid = uid
  | .lost torrentUid => torrentUid = uid

def isStart : Notice → Bool
  | .started => true
  | _ => false

def isBegun : Notice → Bool
  | .begun _ _ _ => true
  | _ => false

def isRecord : Notice → Bool
  | .recorded _ _ _ _ => true
  | _ => false

def isLoss : Notice → Bool
  | .lost _ => true
  | _ => false

end Notice

/-- The last result, where it is the last notice, lets the message go out again at this time. -/
def Permitted (notices : List Notice) (time : Int) : Prop :=
  ∀ earlier uid success stampNs next, notices = earlier ++ [.recorded uid success stampNs next] →
    success = false ∧ ∃ due, next = some due ∧ due ≤ time

/-- A notice may come behind the notices in front of it. -/
def Notice.Succeeds (config : TelegramConfig) (front : List Notice) : Notice → Prop
  | .started => False
  | .begun scanNs row _ => Permitted front scanNs ∧
      (front.countP isRecord : Int) ≤ row.notification.attempts
  | .recorded _ success stampNs next =>
      ∃ earlier scanNs row message, front = earlier ++ [.begun scanNs row message] ∧
        next = if success then none
          else config.nextNotification (row.notification.attempts + 1) stampNs
  | .lost _ => ∃ earlier scanNs row message, front = earlier ++ [.begun scanNs row message]

section notices

variable {config : TelegramConfig} {notices : List Notice} {notice : Notice} {time : Int}

theorem countP_notice (test : Notice → Bool) (notices : List Notice) (notice : Notice) :
    (notices ++ [notice]).countP test = notices.countP test + if test notice then 1 else 0 := by
  rw [List.countP_append, List.countP_singleton]

theorem Permitted.nil (time : Int) : Permitted [] time := by
  intro earlier uid success stampNs next same
  simp at same

/-- Behind a notice that is no result, the next time is free. -/
theorem Permitted.open (other : notice.isRecord = false) (time : Int) :
    Permitted (notices ++ [notice]) time := by
  intro earlier uid success stampNs next same
  have isRecorded := (List.append_inj' same rfl).2
  rw [List.singleton_inj.mp isRecorded] at other
  cases other

theorem Permitted.mono (permitted : Permitted notices time) {later : Int} (passed : time ≤ later) :
    Permitted notices later := by
  intro earlier uid success stampNs next same
  rcases permitted earlier uid success stampNs next same with ⟨failed, due, isNext, reached⟩
  exact ⟨failed, due, isNext, reached.trans passed⟩

/-- A result that lets the message go out again was not that of the last attempt. -/
theorem records_left {uid : String} {success : Bool} {stampNs : Int} {next : Option Int}
    (lawful : Lawful (Notice.Succeeds config) (notices ++ [.recorded uid success stampNs next]))
    (permitted : Permitted (notices ++ [.recorded uid success stampNs next]) time) :
    (notices.countP Notice.isRecord : Int) + 1 < config.notificationRetryMaxAttempts := by
  rcases permitted _ _ _ _ _ rfl with ⟨rfl, due, rfl, -⟩
  rcases lawful.last with ⟨earlier, scanNs, row, message, rfl, timed⟩
  have counted := lawful.front.last.2
  have none_more : (Notice.begun scanNs row message).isRecord = false := rfl
  rw [countP_notice, none_more]
  rw [if_neg Bool.false_ne_true, TelegramConfig.nextNotification] at timed
  split at timed
  · simp only [Bool.false_eq_true, if_false, Nat.add_zero]
    omega
  · cases timed

/-- There are never more results than attempts allowed, and fewer while one is open. -/
theorem records_few (lawful : Lawful (Notice.Succeeds config) notices) :
    (notices.countP Notice.isRecord : Int) ≤ max 1 config.notificationRetryMaxAttempts ∧
      ∀ earlier notice, notices = earlier ++ [notice] → notice.isRecord = false →
        (notices.countP Notice.isRecord : Int) < max 1 config.notificationRetryMaxAttempts := by
  induction notices using List.reverseRecOn with
  | nil =>
      refine ⟨?_, fun earlier notice same => by simp at same⟩
      show ((0 : Nat) : Int) ≤ _
      omega
  | append_singleton front notice ih =>
      rcases ih lawful.front with ⟨-, fewer⟩
      -- an open attempt stays open, and a new one comes behind a result that was not the last
      have bounded : notice.isRecord = false →
          (front.countP Notice.isRecord : Int) < max 1 config.notificationRetryMaxAttempts := by
        intro other
        cases notice with
        | started => exact lawful.last.elim
        | begun scanNs row message =>
            rcases List.eq_nil_or_concat front with rfl | ⟨earlier, last, rfl⟩
            · show ((0 : Nat) : Int) < _
              omega
            · rw [List.concat_eq_append] at lawful fewer ⊢
              cases isLast : last.isRecord with
              | false => exact fewer earlier last rfl isLast
              | true =>
                  cases last with
                  | recorded uid success stampNs next =>
                      have left := records_left lawful.front lawful.last.1
                      rw [countP_notice, isLast, if_pos rfl]
                      omega
                  | started => cases isLast
                  | begun => cases isLast
                  | lost => cases isLast
        | recorded => cases other
        | lost uid =>
            rcases lawful.last with ⟨earlier, scanNs, row, message, isFront⟩
            exact fewer _ _ isFront rfl
      rw [countP_notice]
      cases isLast : notice.isRecord with
      | false =>
          have still := bounded isLast
          simp only [Bool.false_eq_true, if_false, Nat.add_zero]
          exact ⟨still.le, fun _ _ _ _ => still⟩
      | true =>
          cases notice with
          | recorded uid success stampNs next =>
              rcases lawful.last with ⟨earlier, scanNs, row, message, isFront, -⟩
              have still := fewer _ _ isFront rfl
              simp only [if_true]
              refine ⟨by omega, fun _ other same isOther => ?_⟩
              rw [← List.singleton_inj.mp (List.append_inj' same rfl).2] at isOther
              cases isOther
          | started => cases isLast
          | begun => cases isLast
          | lost => cases isLast

end notices

/-- The torrent and what was found in it were handed to `persist_torrent`. -/
def Persisted (events : List NotifierEvent) (torrent : IndexedTorrent)
    (notification : Option KeywordResult) : Prop :=
  ∃ dhtKey nowNs attempts,
    .call (.persistTorrent torrent dhtKey notification nowNs) attempts ∈ events

/-- The row names the torrent as one call of `persist_torrent` did, and the keywords and matches
as one did. -/
structure DueNotification.Sincere (events : List NotifierEvent) (row : DueNotification) : Prop where
  named : ∃ torrent notification, torrent.torrentUid = row.torrentUid ∧
    torrent.name = row.torrent.name ∧ torrent.totalSize = row.torrent.totalSize ∧
    Persisted events torrent notification
  matched : ∃ torrent : IndexedTorrent, torrent.torrentUid = row.torrentUid ∧
    Persisted events torrent (some ⟨row.notification.keywords, row.notification.matched⟩)

/-- What a row of `notifications` says about the notices. -/
structure NotificationRow.Fits (events : List NotifierEvent) (uid : String)
    (notices : List Notice) (row : NotificationRow) : Prop where
  counted : (notices.countP Notice.isRecord : Int) ≤ row.attempts
  waits : ∀ due, row.status = .pending → row.nextAttemptAt = some due → Permitted notices due
  matched : ∃ torrent : IndexedTorrent, torrent.torrentUid = uid ∧
    Persisted events torrent (some ⟨row.keywords, row.matched⟩)

namespace Catalogue

/-- What the tables say about one torrent. Before it has a row in `notifications`, there is no
notice of it, and what is `free` then holds. -/
structure Fits (events : List NotifierEvent) (uid : String) (notices : List Notice) (free : Prop)
    (content : Catalogue) : Prop where
  distinct : content.notified.Nodup
  absent : uid ∉ content.notified → notices = [] ∧ free
  row : ∀ row, content.notification uid = some row → row.Fits events uid notices
  named : ∀ row, content.torrent uid = some row → ∃ torrent notification,
    torrent.torrentUid = uid ∧ torrent.name = row.name ∧ torrent.totalSize = row.totalSize ∧
      Persisted events torrent notification

variable {events : List NotifierEvent} {uid : String} {notices : List Notice} {free : Prop}
  {content other : Catalogue}

theorem Fits.empty : Fits events uid [] True {} where
  distinct := List.nodup_nil
  absent _ := ⟨rfl, trivial⟩
  row _ found := by cases found
  named _ found := by cases found

theorem Fits.later (fits : content.Fits events uid notices free) {more : List NotifierEvent}
    (grows : ∀ event ∈ events, event ∈ more) : content.Fits more uid notices free where
  distinct := fits.distinct
  absent := fits.absent
  row row found := by
    have before := fits.row row found
    rcases before.matched with ⟨torrent, same, dhtKey, nowNs, attempts, member⟩
    exact ⟨before.counted, before.waits, torrent, same, dhtKey, nowNs, attempts, grows _ member⟩
  named row found := by
    rcases fits.named row found with
      ⟨torrent, notification, same, name, size, dhtKey, nowNs, attempts, member⟩
    exact ⟨torrent, notification, same, name, size, dhtKey, nowNs, attempts, grows _ member⟩

/-- A change that leaves the notifications as they are, and of the torrents what is told. -/
theorem Fits.transfer (fits : content.Fits events uid notices free)
    (notifications : other.notifications = content.notifications)
    (torrents : ∀ row, other.torrent uid = some row → ∃ old, content.torrent uid = some old ∧
      old.name = row.name ∧ old.totalSize = row.totalSize) :
    other.Fits events uid notices free := by
  have same : other.notification uid = content.notification uid := by
    rw [notification, notifications, notification]
  have listed : other.notified = content.notified := congrArg Dict.keys notifications
  refine ⟨listed ▸ fits.distinct, listed ▸ fits.absent, fun row found => ?_, fun row found => ?_⟩
  · exact fits.row row (same ▸ found)
  · rcases torrents row found with ⟨old, known, name, size⟩
    rcases fits.named old known with ⟨torrent, notification, isUid, isName, isSize, persisted⟩
    exact ⟨torrent, notification, isUid, isName.trans name, isSize.trans size, persisted⟩

/-- A change that leaves both tables as they are. -/
theorem Fits.same (fits : content.Fits events uid notices free)
    (notifications : other.notifications = content.notifications)
    (torrents : other.torrents = content.torrents) : other.Fits events uid notices free := by
  refine fits.transfer notifications fun row found => ⟨row, ?_, rfl, rfl⟩
  rwa [torrent, torrents] at found

theorem Fits.torrentSeen (fits : content.Fits events uid notices free) (dhtKey : String)
    (lastSeen : Int) : (torrentSeen dhtKey lastSeen content).Fits events uid notices free := by
  refine fits.transfer (torrentSeen_notifications dhtKey lastSeen content) ?_
  unfold Catalogue.torrentSeen
  split
  · exact fun row found => ⟨row, found, rfl, rfl⟩
  · rename_i other name
    split
    · exact fun row found => ⟨row, found, rfl, rfl⟩
    · rename_i seen known
      intro row found
      rw [torrent, Dict.get?_set] at found
      split at found
      · rename_i same
        cases found
        exact ⟨seen, same ▸ known, rfl, rfl⟩
      · exact ⟨row, found, rfl, rfl⟩

/-- The row that `persist_torrent` writes names the torrent that it was given. -/
theorem Fits.replaced (fits : content.Fits events uid notices free) {torrent : IndexedTorrent}
    {notification : Option KeywordResult} (persisted : Persisted events torrent notification)
    (nowNs : Int) : (replaced torrent nowNs content).Fits events uid notices free := by
  refine ⟨fits.distinct, fits.absent, fits.row, fun row found => ?_⟩
  have written : Dict.get? uid (insertTorrent torrent nowNs content).torrents = some row := found
  unfold insertTorrent at written
  rw [Dict.get?_set] at written
  split at written
  · rename_i same
    cases written
    exact ⟨torrent, notification, same.symm, rfl, rfl, persisted⟩
  · exact fits.named row written

theorem Fits.insertNotification (fits : content.Fits events uid notices free)
    {torrent : IndexedTorrent} {found : KeywordResult}
    (persisted : Persisted events torrent (some found)) (nowNs : Int) :
    (insertNotification torrent.torrentUid found nowNs content).Fits events uid notices free := by
  unfold Catalogue.insertNotification
  split
  · exact fits
  · rename_i fresh
    refine ⟨Dict.nodup_keys_set _ _ fits.distinct, fun missing => ?_, fun row there => ?_,
      fits.named⟩
    · apply fits.absent
      intro known
      unfold notified at missing
      dsimp only at missing
      rw [Dict.set_new _ fresh] at missing
      simp only [Dict.keys, List.map_append, List.mem_append, not_or] at missing
      exact missing.1 known
    · rw [notification, Dict.get?_set] at there
      split at there
      · rename_i same
        cases there
        rcases fits.absent (same ▸ fresh) with ⟨rfl, -⟩
        exact ⟨Int.le_refl 0, fun due _ _ => Permitted.nil due, torrent, same.symm, persisted⟩
      · exact fits.row row there

end Catalogue

/-- The row behind `mark_notification_result`. -/
def NotificationRow.marked (config : Config) (success : Bool) (nowNs : Int)
    (nextAttemptNs : Option Int) (error : Option String) (row : NotificationRow) :
    NotificationRow :=
  if success then
    { row with
      status := .sent, attempts := row.attempts + 1, lastAttempt := some nowNs,
      sentAt := some nowNs, nextAttemptAt := none, lastError := none }
  else
    { row with
      status := if nextAttemptNs.isSome then .pending else .failed,
      attempts := row.attempts + 1, lastAttempt := some nowNs, nextAttemptAt := nextAttemptNs,
      lastError := some ((error.getD "").take config.maxIndexTextLength.toNat).toString }

section marked

variable {config : Config} {torrentUid : String} {success : Bool} {stampNs : Int}
  {next : Option Int} {error : Option String} {events : List NotifierEvent} {uid : String}
  {notices more : List Notice} {free : Prop} {content : Catalogue}

/-- An attempt that is made while nothing else is known keeps what is known. -/
theorem NotificationRow.Fits.marked {row : NotificationRow} (fits : row.Fits events uid notices)
    (unsettled : ∀ time, Permitted notices time) :
    (row.marked config success stampNs next error).Fits events uid notices := by
  have counted := fits.counted
  unfold NotificationRow.marked
  split
  · exact ⟨by simp only []; omega, fun due _ _ => unsettled due, fits.matched⟩
  · exact ⟨by simp only []; omega, fun due _ _ => unsettled due, fits.matched⟩

/-- The result that is confirmed is counted, and its time is that of the row. -/
theorem NotificationRow.Fits.recorded {row : NotificationRow} (fits : row.Fits events uid notices) :
    (row.marked config success stampNs next error).Fits events uid
      (notices ++ [.recorded torrentUid success stampNs next]) := by
  have counted := fits.counted
  have more : ((notices ++ [Notice.recorded torrentUid success stampNs next]).countP
      Notice.isRecord : Int) = notices.countP Notice.isRecord + 1 := by
    rw [countP_notice]
    rfl
  unfold NotificationRow.marked
  split
  · refine ⟨?_, fun due pending => (by cases pending), fits.matched⟩
    simp only [more]
    omega
  · rename_i failed
    refine ⟨?_, fun due _ timed => ?_, fits.matched⟩
    · simp only [more]
      omega
    · intro earlier other isSuccess stamp isNext same
      have isLast := List.singleton_inj.mp (List.append_inj' same rfl).2
      cases isLast
      exact ⟨Bool.eq_false_iff.mpr failed, due, timed, Int.le_refl due⟩

theorem Catalogue.markNotificationResult_statements :
    (markNotificationResult config torrentUid success stampNs next error).statements =
      [(markNotificationResult config torrentUid success stampNs next error).effect] := rfl

theorem Catalogue.Fits.marked (fits : content.Fits events uid notices free)
    (rows : ∀ row : NotificationRow, torrentUid = uid → row.Fits events uid notices →
      (row.marked config success stampNs next error).Fits events uid more)
    (absent : torrentUid = uid → uid ∉ content.notified → more = [] ∧ free)
    (elsewhere : torrentUid ≠ uid → more = notices) :
    ((markNotificationResult config torrentUid success stampNs next error).effect content).Fits
      events uid more free := by
  have unmarked (missing : content.notification torrentUid = none) :
      (markNotificationResult config torrentUid success stampNs next error).effect content =
        content := by
    change Dict.get? torrentUid content.notifications = none at missing
    simp only [Operation.effect, markNotificationResult, List.foldl_cons, List.foldl_nil, missing]
  have marks {old : NotificationRow} (found : content.notification torrentUid = some old) :
      (markNotificationResult config torrentUid success stampNs next error).effect content =
        { content with
          notifications := Dict.set torrentUid
            (old.marked config success stampNs next error) content.notifications } := by
    change Dict.get? torrentUid content.notifications = some old at found
    simp only [Operation.effect, markNotificationResult, List.foldl_cons, List.foldl_nil, found]
    rfl
  cases known : content.notification torrentUid with
  | none =>
      rw [unmarked known]
      by_cases same : torrentUid = uid
      · have missing : uid ∉ content.notified := (Dict.get?_eq_none_iff _ _).mp (same ▸ known)
        refine ⟨fits.distinct, absent same, fun row found => ?_, fits.named⟩
        rw [← same, known] at found
        cases found
      · exact elsewhere same ▸ fits
  | some old =>
      rw [marks known]
      have listed : Dict.keys (Dict.set torrentUid
          (old.marked config success stampNs next error) content.notifications) =
          content.notified := Dict.keys_set_known _ (Dict.mem_keys_of_get? known)
      refine ⟨?_, ?_, fun row found => ?_, fits.named⟩
      · show (Dict.keys _).Nodup
        rw [listed]
        exact fits.distinct
      · show uid ∉ Dict.keys _ → _
        rw [listed]
        intro missing
        by_cases same : torrentUid = uid
        · exact absent same missing
        · rw [elsewhere same]
          exact fits.absent missing
      · change Dict.get? uid (Dict.set torrentUid _ content.notifications) = some row at found
        rw [Dict.get?_set] at found
        split at found
        · rename_i same
          cases found
          exact rows old same.symm (fits.row old (same ▸ known))
        · rename_i other
          rw [elsewhere (Ne.symm other)]
          exact fits.row row found

end marked

section obeys

variable {config : Config} {events : List NotifierEvent} {uid : String} {notices : List Notice}
  {free : Prop}

/-- Marking a result keeps what is known as long as the attempt is open. -/
theorem Catalogue.obeys_marked {torrentUid : String} (success : Bool) (stampNs : Int)
    (next : Option Int) (error : Option String)
    (unsettled : torrentUid = uid → ∀ time, Permitted notices time) :
    ((DatabaseCall.markNotificationResult torrentUid success stampNs next error).operation
      config).Obeys (Fits events uid notices free) (.free Catalogue) := by
  refine Operation.obeys_of_statement markNotificationResult_statements ?_
  intro content fits
  refine ⟨fits.marked (fun row same rowFits => rowFits.marked (unsettled same)) ?_ ?_, trivial⟩
  · exact fun _ missing => fits.absent missing
  · exact fun _ => rfl

/-- The calls of the other tasks keep what is known. -/
theorem DatabaseCall.obeys_notices {request : DatabaseCall} {attempts : Nat → Attempt}
    (other : request.marksNotification = false) (member : .call request attempts ∈ events) :
    (request.operation config).Obeys (Catalogue.Fits events uid notices free)
      (.free Catalogue) := by
  have candidates : ∀ (dhtKey : String) (matching : CandidateRow → Bool)
      (change : CandidateRow → CandidateRow), Follows (Catalogue.Fits events uid notices free)
        (.free Catalogue) (Catalogue.updateCandidate dhtKey matching change) := by
    intro dhtKey matching change content fits
    rcases Catalogue.updateCandidate_others dhtKey matching change content with
      ⟨torrents, -, notifications⟩
    exact ⟨fits.same notifications torrents, trivial⟩
  cases request with
  | upsertCandidateSeen dhtKey firstSeen lastSeen =>
      intro statement listed content fits
      have either : statement = Catalogue.insertOrSeen dhtKey firstSeen lastSeen ∨
          statement = Catalogue.torrentSeen dhtKey lastSeen := by
        simpa [operation, Operation.map, Catalogue.upsertCandidateSeen] using listed
      rcases either with rfl | rfl
      · exact ⟨fits.same rfl rfl, trivial⟩
      · exact ⟨fits.torrentSeen dhtKey lastSeen, trivial⟩
  | markFetching => exact Operation.obeys_of_statement rfl (candidates _ _ _)
  | markFetchFailed => exact Operation.obeys_of_statement rfl (candidates _ _ _)
  | markUnsupported => exact Operation.obeys_of_statement rfl (candidates _ _ _)
  | persistTorrent torrent dhtKey notification nowNs =>
      intro content fits
      have persisted : Persisted events torrent notification := ⟨dhtKey, nowNs, attempts, member⟩
      have written := fits.replaced persisted nowNs
      cases notification with
      | none => exact candidates dhtKey _ _ _ written
      | some found => exact candidates dhtKey _ _ _ (written.insertNotification persisted nowNs)
  | markNotificationResult => cases other
  | candidateState => exact Operation.obeys_of_reads rfl
  | dueCandidates => exact Operation.obeys_of_reads rfl
  | dueNotifications => exact Operation.obeys_of_reads rfl
  | search => exact Operation.obeys_of_reads rfl

end obeys

end PyDht
