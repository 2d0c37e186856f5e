import PyDht.NotificationRows
import PyDht.TelegramExchange

set_option autoImplicit false

namespace PyDht

open Chronicle (Lawful)

namespace Catalogue

theorem limited_sublist {α : Type} (limit : Int) (rows : List α) :
    (limited limit rows).Sublist rows := by
  unfold limited
  split
  · exact List.Sublist.refl _
  · exact List.take_sublist _ _

/-- The rows that are due: of each torrent one at most, pending, and their time has come. -/
theorem dueNotifications_rows {content : Catalogue} (distinct : content.notified.Nodup)
    (nowNs limit : Int) :
    (((dueNotifications nowNs limit).result content).map DueNotification.torrentUid).Nodup ∧
      ∀ row ∈ (dueNotifications nowNs limit).result content,
        content.notification row.torrentUid = some row.notification ∧
          content.torrent row.torrentUid = some row.torrent ∧ row.notification.status = .pending ∧
            ∃ due, row.notification.nextAttemptAt = some due ∧ due ≤ nowNs := by
  let dueOf (entry : String × NotificationRow) : Option (Int × DueNotification) :=
    if entry.2.status = .pending then
      (entry.2.nextAttemptAt.filter (· ≤ nowNs)).bind fun dueAt =>
        (Dict.get? entry.1 content.torrents).map fun torrent =>
          (dueAt, { torrentUid := entry.1, notification := entry.2, torrent })
    else none
  let due := content.notifications.filterMap dueOf
  have whole : (dueNotifications nowNs limit).result content =
      (limited limit (due.insertionSort fun left right => left.1 ≤ right.1)).map Prod.snd := rfl
  have facts : ∀ entry found, dueOf entry = some found → found.2.torrentUid = entry.1 ∧
      found.2.notification = entry.2 ∧ content.torrent entry.1 = some found.2.torrent ∧
        entry.2.status = .pending ∧ ∃ time, entry.2.nextAttemptAt = some time ∧ time ≤ nowNs := by
    intro entry found isDue
    dsimp only [dueOf] at isDue
    split at isDue
    · rename_i pending
      rcases Option.bind_eq_some_iff.mp isDue with ⟨dueAt, timed, told⟩
      rcases Option.map_eq_some_iff.mp told with ⟨torrent, known, rfl⟩
      rcases Option.filter_eq_some_iff.mp timed with ⟨isNext, passed⟩
      exact ⟨rfl, rfl, known, pending, dueAt, isNext, of_decide_eq_true passed⟩
    · cases isDue
  rw [whole]
  constructor
  · have apart : (due.map fun found => found.2.torrentUid).Nodup := by
      rw [List.Nodup, List.pairwise_map, List.pairwise_filterMap]
      refine (List.pairwise_map.mp distinct).imp fun different found here other there same => ?_
      rw [(facts _ _ here).1, (facts _ _ there).1] at same
      exact different same
    have sorted := ((List.perm_insertionSort (fun left right => left.1 ≤ right.1) due).map
      fun found => found.2.torrentUid).nodup_iff.mpr apart
    rw [List.map_map]
    exact sorted.sublist ((limited_sublist limit _).map _)
  · intro row member
    rcases List.mem_map.mp member with ⟨found, listed, rfl⟩
    have sorted := mem_of_mem_limited listed
    rw [List.mem_insertionSort, List.mem_filterMap] at sorted
    rcases sorted with ⟨entry, inside, isDue⟩
    rcases facts entry found isDue with ⟨isUid, isRow, torrent, pending, time, isNext, passed⟩
    rw [isUid, isRow]
    exact ⟨Dict.get?_of_mem distinct inside, torrent, pending, time, isNext, passed⟩

end Catalogue

/-- The row may be sent at the scan that has found it. -/
structure DueNotification.Ready (events : List NotifierEvent) (notices : List Notice)
    (scanNs : Int) (row : DueNotification) : Prop where
  permitted : Permitted notices scanNs
  counted : (notices.countP Notice.isRecord : Int) ≤ row.notification.attempts
  sincere : row.Sincere events

/-- The rows of one scan that are still to be sent. -/
structure Batch (events : List NotifierEvent) (uid : String) (notices : List Notice) (scanNs : Int)
    (rows : List DueNotification) : Prop where
  distinct : (rows.map DueNotification.torrentUid).Nodup
  ready : ∀ row ∈ rows, row.torrentUid = uid → row.Ready events notices scanNs

theorem ne_of_distinct {row other : DueNotification} {rows : List DueNotification}
    (distinct : ((row :: rows).map DueNotification.torrentUid).Nodup) (member : other ∈ rows) :
    other.torrentUid ≠ row.torrentUid := by
  intro same
  rw [List.map_cons, List.nodup_cons] at distinct
  exact distinct.1 (same ▸ List.mem_map_of_mem member)

namespace NotifierStage

/-- The rows that are in work. -/
def rows : NotifierStage → List DueNotification
  | .ended | .idle => []
  | .turning _ rows => rows
  | .sending _ row rows _ | .recording _ row rows _ _ _ _ => row :: rows

def mentions (uid : String) (stage : NotifierStage) : Prop :=
  uid ∈ stage.rows.map DueNotification.torrentUid

/-- What the scheduler may send for a torrent without a further result. -/
def spare (uid : String) : NotifierStage → Nat
  | .ended => 0
  | .idle | .turning _ _ => 1
  | .sending _ row _ _ | .recording _ row _ _ _ _ _ => if row.torrentUid = uid then 0 else 1

/-- What the scheduler knows about the row whose message is on its way. -/
structure Open (events : List NotifierEvent) (uid : String) (notices : List Notice) (scanNs : Int)
    (row : DueNotification) (rows : List DueNotification) : Prop where
  distinct : ((row :: rows).map DueNotification.torrentUid).Nodup
  ready : ∀ other ∈ rows, other.torrentUid = uid → other.Ready events notices scanNs
  begun : row.torrentUid = uid → ∃ earlier message, notices = earlier ++ [.begun scanNs row message]

def Sound (config : TelegramConfig) (events : List NotifierEvent) (uid : String)
    (notices : List Notice) : NotifierStage → Prop
  | .ended | .idle => True
  | .turning scanNs rows => Batch events uid notices scanNs rows
  | .sending scanNs row rows _ => Open events uid notices scanNs row rows
  | .recording scanNs row rows success stampNs next _ => Open events uid notices scanNs row rows ∧
      next = if success then none
        else config.nextNotification (row.notification.attempts + 1) stampNs

end NotifierStage

namespace Notifier

/-- What is noted of a torrent. -/
def notices (uid : String) (notifier : Notifier) : List Notice :=
  notifier.log.filter (Notice.about uid)

structure Sound (env : NotifierEnvironment) (uid : String) (events : List NotifierEvent)
    (notifier : Notifier) : Prop where
  within : notifier.store.session.Within (Catalogue.Fits events uid (notifier.notices uid)
    (¬ notifier.stage.mentions uid)) (.free Catalogue)
  aligned : notifier.store.session.Aligned Catalogue.notified
  lawful : Lawful (Notice.Succeeds env.config) (notifier.notices uid)
  told : ∀ scanNs row message, .begun scanNs row message ∈ notifier.notices uid →
    Telegram.rowMessage env.config row = .ok message ∧ row.Sincere events
  stage : notifier.stage.Sound env.config events uid (notifier.notices uid)
  balance : (notifier.notices uid).countP Notice.isBegun + notifier.stage.spare uid ≤
    (notifier.notices uid).countP Notice.isRecord + (notifier.notices uid).countP Notice.isLoss +
      notifier.log.countP Notice.isStart

end Notifier

section later

variable {events more : List NotifierEvent} {uid : String} {notices : List Notice} {scanNs : Int}
  {row : DueNotification} {rows : List DueNotification}

theorem Persisted.later {torrent : IndexedTorrent} {notification : Option KeywordResult}
    (persisted : Persisted events torrent notification)
    (grows : ∀ event ∈ events, event ∈ more) : Persisted more torrent notification := by
  rcases persisted with ⟨dhtKey, nowNs, attempts, member⟩
  exact ⟨dhtKey, nowNs, attempts, grows _ member⟩

theorem DueNotification.Sincere.later (sincere : row.Sincere events)
    (grows : ∀ event ∈ events, event ∈ more) : row.Sincere more := by
  rcases sincere.named with ⟨torrent, notification, isUid, name, size, persisted⟩
  rcases sincere.matched with ⟨other, same, found⟩
  exact ⟨⟨torrent, notification, isUid, name, size, persisted.later grows⟩,
    other, same, found.later grows⟩

theorem DueNotification.Ready.later (ready : row.Ready events notices scanNs)
    (grows : ∀ event ∈ events, event ∈ more) : row.Ready more notices scanNs :=
  ⟨ready.permitted, ready.counted, ready.sincere.later grows⟩

theorem NotifierStage.Open.later (isOpen : Open events uid notices scanNs row rows)
    (grows : ∀ event ∈ events, event ∈ more) : Open more uid notices scanNs row rows :=
  ⟨isOpen.distinct, fun other member same => (isOpen.ready other member same).later grows,
    isOpen.begun⟩

theorem NotifierStage.Sound.later {config : TelegramConfig} {stage : NotifierStage}
    (sound : stage.Sound config events uid notices) (grows : ∀ event ∈ events, event ∈ more) :
    stage.Sound config more uid notices := by
  cases stage with
  | ended => trivial
  | idle => trivial
  | turning scanNs rows =>
      exact ⟨sound.distinct, fun row member same => (sound.ready row member same).later grows⟩
  | sending => exact NotifierStage.Open.later sound grows
  | recording => exact ⟨sound.1.later grows, sound.2⟩

end later

/-- What holds of both contents may be weakened. -/
theorem Session.Within.weaken {inv other : Catalogue → Prop} {session : Session Catalogue}
    (within : session.Within inv (.free Catalogue)) (weaker : ∀ content, inv content → other content) :
    session.Within other (.free Catalogue) :=
  ⟨weaker _ within.committed, weaker _ within.working, trivial⟩

section fits

variable {events : List NotifierEvent} {uid : String} {notices : List Notice} {free other : Prop}
  {content : Catalogue}

theorem Catalogue.Fits.mono (fits : content.Fits events uid notices free) (weaker : free → other) :
    content.Fits events uid notices other :=
  ⟨fits.distinct, fun missing => (fits.absent missing).imp_right weaker, fits.row, fits.named⟩

/-- A notice that is no result, of a torrent with a notification. -/
theorem Catalogue.Fits.noted (fits : content.Fits events uid notices free) (known : ¬ free)
    {notice : Notice} (unsettled : notice.isRecord = false) :
    content.Fits events uid (notices ++ [notice]) other := by
  refine ⟨fits.distinct, fun missing => absurd (fits.absent missing).2 known, fun row found => ?_,
    fits.named⟩
  have before := fits.row row found
  refine ⟨?_, fun due _ _ => Permitted.open unsettled due, before.matched⟩
  rw [countP_notice, unsettled]
  exact before.counted

end fits

namespace Notifier

variable {env : NotifierEnvironment} {uid : String} {events : List NotifierEvent}
  {notifier : Notifier}

theorem Sound.later (sound : Sound env uid events notifier) {more : List NotifierEvent}
    (grows : ∀ event ∈ events, event ∈ more) : Sound env uid more notifier where
  within := sound.within.weaken fun _ fits => fits.later grows
  aligned := sound.aligned
  lawful := sound.lawful
  told scanNs row message member :=
    (sound.told scanNs row message member).imp_right (·.later grows)
  stage := sound.stage.later grows
  balance := sound.balance

/-- A step behind which the notices of the torrent are the same. -/
theorem Sound.settle (sound : Sound env uid events notifier) {next : Notifier}
    (noted : next.notices uid = notifier.notices uid)
    (within : next.store.session.Within (Catalogue.Fits events uid (notifier.notices uid)
      (¬ notifier.stage.mentions uid)) (.free Catalogue))
    (aligned : next.store.session.Aligned Catalogue.notified)
    (fewer : next.stage.mentions uid → notifier.stage.mentions uid)
    (stage : next.stage.Sound env.config events uid (notifier.notices uid))
    (spare : next.stage.spare uid + notifier.log.countP Notice.isStart ≤
      notifier.stage.spare uid + next.log.countP Notice.isStart) :
    Sound env uid events next := by
  have balance := sound.balance
  refine ⟨?_, aligned, noted ▸ sound.lawful, noted ▸ sound.told, noted ▸ stage, ?_⟩
  · rw [noted]
    exact within.weaken fun _ fits => fits.mono (mt fewer)
  · rw [noted]
    omega

/-- The scheduler ends, and the database stays as it is known. -/
theorem Sound.finish (sound : Sound env uid events notifier) {next : Notifier}
    (log : next.log = notifier.log) (ended : next.stage = .ended)
    (within : next.store.session.Within (Catalogue.Fits events uid (notifier.notices uid)
      (¬ notifier.stage.mentions uid)) (.free Catalogue))
    (aligned : next.store.session.Aligned Catalogue.notified) : Sound env uid events next := by
  refine sound.settle (congrArg (List.filter (Notice.about uid)) log) within aligned ?_ ?_ ?_
  · rw [ended]
    exact fun mentioned => absurd mentioned List.not_mem_nil
  · rw [ended]
    trivial
  · rw [ended, log]
    show 0 + _ ≤ _
    omega

/-- A step that adds a notice of the torrent. -/
theorem Sound.note (sound : Sound env uid events notifier) {next : Notifier} {notice : Notice}
    (log : next.log = notifier.log ++ [notice]) (about : notice.about uid = true)
    (succeeds : notice.Succeeds env.config (notifier.notices uid))
    (told : ∀ scanNs row message, notice = .begun scanNs row message →
      Telegram.rowMessage env.config row = .ok message ∧ row.Sincere events)
    (within : next.store.session.Within (Catalogue.Fits events uid
      (notifier.notices uid ++ [notice]) (¬ next.stage.mentions uid)) (.free Catalogue))
    (aligned : next.store.session.Aligned Catalogue.notified)
    (stage : next.stage.Sound env.config events uid (notifier.notices uid ++ [notice]))
    (spare : next.stage.spare uid + (if notice.isBegun then 1 else 0) ≤
      notifier.stage.spare uid + (if notice.isRecord then 1 else 0) +
        if notice.isLoss then 1 else 0) :
    Sound env uid events next := by
  have noted : next.notices uid = notifier.notices uid ++ [notice] := by
    rw [notices, log, List.filter_append, List.filter_singleton, about]
    rfl
  have unstarted : notice.isStart = false := by
    cases notice with
    | started => cases about
    | begun => rfl
    | recorded => rfl
    | lost => rfl
  have balance := sound.balance
  refine ⟨noted ▸ within, aligned, noted ▸ sound.lawful.concat succeeds, ?_, noted ▸ stage, ?_⟩
  · intro scanNs row message member
    rw [noted, List.mem_append, List.mem_singleton] at member
    rcases member with old | new
    · exact sound.told scanNs row message old
    · exact told scanNs row message new.symm
  · rw [noted, log]
    simp only [countP_notice, unstarted]
    simp only [Bool.false_eq_true, if_false]
    omega

theorem stageAfter_cases (env : NotifierEnvironment) (error : PyError) :
    env.timesOut error = true ∧ stageAfter env error = .idle ∨
      env.timesOut error = false ∧ stageAfter env error = .ended := by
  unfold stageAfter
  cases env.timesOut error with
  | true => exact .inl ⟨rfl, rfl⟩
  | false => exact .inr ⟨rfl, rfl⟩

/-- A step of the database that serves no call. -/
theorem Sound.store_moves (sound : Sound env uid events notifier) {event : StoreEvent}
    {store : Store} (unserved : ∀ request attempts, event ≠ .serve request attempts)
    (taken : notifier.store.step env.config.toConfig event = some store) :
    store.session.Within (Catalogue.Fits events uid (notifier.notices uid)
        (¬ notifier.stage.mentions uid)) (.free Catalogue) ∧
      store.session.Aligned Catalogue.notified := by
  refine ⟨(Store.step_within (fun nowNs _ content fits => ?_) (fun request attempts same => ?_)
    sound.within taken).1, Store.step_aligned (fun request attempts same => ?_) sound.aligned taken⟩
  · exact ⟨fits.same rfl rfl, trivial⟩
  · exact absurd same (unserved request attempts)
  · exact absurd same (unserved request attempts)

/-- A call that keeps what is known of the notifications. -/
theorem Sound.store_serves (sound : Sound env uid events notifier) {request : DatabaseCall}
    {attempts : Nat → Attempt} {store : Store}
    (obeys : (request.operation env.config.toConfig).Obeys (Catalogue.Fits events uid
      (notifier.notices uid) (¬ notifier.stage.mentions uid)) (.free Catalogue))
    (taken : notifier.store.step env.config.toConfig (.serve request attempts) = some store) :
    store.session.Within (Catalogue.Fits events uid (notifier.notices uid)
        (¬ notifier.stage.mentions uid)) (.free Catalogue) ∧
      store.session.Aligned Catalogue.notified := by
  refine ⟨(Store.step_within (fun nowNs same => ?_) (fun other others same => ?_) sound.within
    taken).1, Store.step_aligned (fun other others same => ?_) sound.aligned taken⟩
  · cases same
  · cases same
    exact obeys
  · exact other.withholds_notified env.config.toConfig

theorem Sound.start (sound : Sound env uid events notifier) {nowNs : Int} {infos : List String}
    {next : Notifier} (taken : notifier.step env (.start nowNs infos) = some next) :
    Sound env uid events next := by
  simp only [step] at taken
  split at taken
  · rename_i ended
    rcases Option.map_eq_some_iff.mp taken with ⟨store, moved, rfl⟩
    rcases sound.store_moves (fun _ _ same => by cases same) moved with ⟨within, aligned⟩
    refine sound.settle ?_ within aligned ?_ trivial ?_
    · rw [notices, List.filter_append]
      exact List.append_nil _
    · exact fun mentioned => absurd mentioned List.not_mem_nil
    · rw [ended, countP_notice]
      show 1 + _ ≤ 0 + (_ + 1)
      omega
  · cases taken

/-- The rows of a scan are those of torrents that are known, and none of them is early. -/
theorem Sound.scan (sound : Sound env uid events notifier) {nowNs : Int}
    {attempts : Nat → Attempt} {next : Notifier}
    (taken : notifier.step env (.scan nowNs attempts) = some next) :
    Sound env uid events next := by
  simp only [step] at taken
  split at taken
  · rename_i idle
    let request := DatabaseCall.dueNotifications nowNs env.config.notificationScanBatchSize
    rcases Option.map_eq_some_iff.mp taken with ⟨store, served, rfl⟩
    have reads : (request.operation env.config.toConfig).Obeys (Catalogue.Fits events uid
        (notifier.notices uid) (¬ notifier.stage.mentions uid)) (.free Catalogue) :=
      Operation.obeys_of_reads rfl
    rcases sound.store_serves reads served with ⟨within, aligned⟩
    have spare : notifier.stage.spare uid = 1 := by rw [idle.1]; rfl
    have unmentioned : ∀ {stage : NotifierStage}, stage = .idle ∨ stage = .ended →
        Sound env uid events { notifier with store, stage } := by
      rintro stage (rfl | rfl)
      · refine sound.settle rfl within aligned (fun mentioned => ?_) trivial ?_
        · exact absurd mentioned List.not_mem_nil
        · rw [spare]
          exact Nat.le_refl _
      · exact sound.finish rfl rfl within aligned
    cases answered : notifier.reply env request attempts with
    | exception error =>
        exact unmentioned ((stageAfter_cases env error).imp And.right And.right)
    | result answer =>
        rcases reads.run_result sound.within answered with ⟨content, fits, rfl, working, -⟩
        let rows := (Catalogue.dueNotifications nowNs
          env.config.notificationScanBatchSize).result content
        rcases Catalogue.dueNotifications_rows fits.distinct nowNs
          env.config.notificationScanBatchSize with ⟨distinct, due⟩
        have isWorking : store.session.working = content := by
          simp only [Store.step] at served
          split at served
          · cases served
            exact working
          · cases served
        have listed : uid ∈ rows.map DueNotification.torrentUid →
            uid ∈ store.session.working.notified ∧ uid ∈ store.session.committed.notified := by
          intro mentioned
          rcases List.mem_map.mp mentioned with ⟨row, member, rfl⟩
          have known := Dict.mem_keys_of_get? (due row member).1
          rw [← show store.session.working.notified = store.session.committed.notified from aligned,
            isWorking]
          exact ⟨known, known⟩
        have still : Batch events uid (notifier.notices uid) nowNs rows := by
          refine ⟨distinct, ?_⟩
          rintro row member rfl
          rcases due row member with ⟨found, torrent, pending, time, timed, passed⟩
          have rowFits := fits.row row.notification found
          exact ⟨(rowFits.waits time pending timed).mono passed, rowFits.counted,
            fits.named row.torrent torrent, rowFits.matched⟩
        have balance := sound.balance
        refine ⟨⟨?_, ?_, trivial⟩, aligned, sound.lawful, sound.told, still, ?_⟩
        · refine ⟨within.committed.distinct, fun missing => ?_, within.committed.row,
            within.committed.named⟩
          exact ⟨(within.committed.absent missing).1, fun known => missing (listed known).2⟩
        · refine ⟨within.working.distinct, fun missing => ?_, within.working.row,
            within.working.named⟩
          exact ⟨(within.working.absent missing).1, fun known => missing (listed known).1⟩
        · rw [spare] at balance
          exact balance
  · cases taken

/-- The next row of a scan goes out. -/
theorem Sound.begin (sound : Sound env uid events notifier) {scanNs : Int} {row : DueNotification}
    {rows : List DueNotification} (turning : notifier.stage = .turning scanNs (row :: rows))
    {message : String} (told : Telegram.rowMessage env.config row = .ok message) :
    Sound env uid events { notifier with
      stage := .sending scanNs row rows message
      log := notifier.log ++ [.begun scanNs row message] } := by
  have batch : Batch events uid (notifier.notices uid) scanNs (row :: rows) := by
    have stage := sound.stage
    rwa [turning] at stage
  have spare : notifier.stage.spare uid = 1 := by rw [turning]; rfl
  have mentions : notifier.stage.mentions uid ↔
      uid ∈ (row :: rows).map DueNotification.torrentUid := by
    rw [turning]
    rfl
  by_cases same : row.torrentUid = uid
  · have ready := batch.ready row List.mem_cons_self same
    have known : notifier.stage.mentions uid := mentions.mpr (same ▸ List.mem_cons_self)
    refine sound.note rfl (decide_eq_true same) ⟨ready.permitted, ready.counted⟩ ?_ ?_
      sound.aligned ⟨batch.distinct, ?_, fun _ => ⟨_, message, rfl⟩⟩ ?_
    · rintro _ _ _ ⟨⟩
      exact ⟨told, ready.sincere⟩
    · exact sound.within.weaken fun _ fits => fits.noted (not_not_intro known) rfl
    · intro other member isUid
      exact absurd (isUid.trans same.symm) (ne_of_distinct batch.distinct member)
    · rw [spare]
      show (if row.torrentUid = uid then 0 else 1) + 1 ≤ 1 + 0 + 0
      rw [if_pos same]
  · refine sound.settle ?_ sound.within sound.aligned mentions.mpr ⟨batch.distinct, ?_, ?_⟩ ?_
    · rw [notices, List.filter_append]
      simp [Notice.about, same, notices]
    · exact fun other member isUid => batch.ready other (List.mem_cons_of_mem _ member) isUid
    · exact fun isUid => absurd isUid same
    · rw [spare, countP_notice]
      show (if row.torrentUid = uid then 0 else 1) + _ ≤ 1 + (_ + 0)
      rw [if_neg same]
      exact Nat.le_refl _

theorem Sound.take (sound : Sound env uid events notifier) {stopping : Bool} {next : Notifier}
    (taken : notifier.step env (.take stopping) = some next) : Sound env uid events next := by
  simp only [step] at taken
  split at taken
  · rename_i scanNs rows turning
    cases taken
    unfold turn
    split
    · refine sound.settle rfl sound.within sound.aligned (fun mentioned => ?_) trivial ?_
      · exact absurd mentioned List.not_mem_nil
      · rw [turning]
        exact Nat.le_refl _
    · split
      · exact sound.finish rfl rfl sound.within sound.aligned
      · split
        · exact sound.finish rfl rfl sound.within sound.aligned
        · rename_i message told
          exact sound.begin turning told
  · cases taken

theorem Sound.deliver (sound : Sound env uid events notifier) {link : HttpLink} {nowNs : Int}
    {next : Notifier} (taken : notifier.step env (.deliver link nowNs) = some next) :
    Sound env uid events next := by
  simp only [step] at taken
  split at taken
  · rename_i scanNs row rows message sending
    cases taken
    have stage := sound.stage
    rw [sending] at stage
    have recording : ∀ (success : Bool) (error : Option String) (addresses : HttpSession),
        Sound env uid events { notifier with
          addresses
          stage := .recording scanNs row rows success nowNs (if success then none
            else env.config.nextNotification (row.notification.attempts + 1) nowNs) error } := by
      intro success error addresses
      refine sound.settle rfl sound.within sound.aligned ?_ ⟨stage, rfl⟩ ?_
      · rw [sending]
        exact id
      · rw [sending]
        exact Nat.le_refl _
    unfold sent
    split
    · exact sound.finish rfl rfl sound.within sound.aligned
    · exact recording true none _
    · exact recording false _ _
  · cases taken

section record

variable {scanNs stampNs : Int} {row : DueNotification} {rows : List DueNotification}
  {success : Bool} {nextNs : Option Int} {error : Option String} {attempts : Nat → Attempt}
  {store : Store}

/-- The database has confirmed the result. -/
theorem Sound.confirm (sound : Sound env uid events notifier)
    (recording : notifier.stage = .recording scanNs row rows success stampNs nextNs error)
    (served : notifier.store.step env.config.toConfig (.serve (.markNotificationResult
      row.torrentUid success stampNs nextNs error) attempts) = some store)
    {answer : Answer} (answered : notifier.reply env (.markNotificationResult row.torrentUid success
      stampNs nextNs error) attempts = .result answer)
    (obeys : ((DatabaseCall.markNotificationResult row.torrentUid success stampNs nextNs
      error).operation env.config.toConfig).Obeys (Catalogue.Fits events uid (notifier.notices uid)
        (¬ notifier.stage.mentions uid)) (.free Catalogue)) :
    Sound env uid events { notifier with
      store
      stage := .turning scanNs rows
      log := notifier.log ++ [.recorded row.torrentUid success stampNs nextNs] } := by
  rcases sound.store_serves obeys served with ⟨within, aligned⟩
  have stage := sound.stage
  rw [recording] at stage
  rcases stage with ⟨isOpen, timed⟩
  have mentions : notifier.stage.mentions uid ↔
      uid ∈ (row :: rows).map DueNotification.torrentUid := by
    rw [recording]
    rfl
  have fewer : uid ∈ rows.map DueNotification.torrentUid → notifier.stage.mentions uid :=
    fun inside => mentions.mpr (List.mem_cons_of_mem _ inside)
  have spare : notifier.stage.spare uid = if row.torrentUid = uid then 0 else 1 := by
    rw [recording]
    rfl
  have distinct := (List.nodup_cons.mp isOpen.distinct).2
  by_cases same : row.torrentUid = uid
  · have known : notifier.stage.mentions uid := mentions.mpr (same ▸ List.mem_cons_self)
    rcases isOpen.begun same with ⟨earlier, message, begun⟩
    refine sound.note rfl (decide_eq_true same) ⟨earlier, scanNs, row, message, begun, timed⟩ ?_ ?_
      aligned ⟨distinct, ?_⟩ ?_
    · rintro _ _ _ ⟨⟩
    · rcases obeys.run_result sound.within answered with
        ⟨content, fits, -, isWorking, isCommitted⟩
      have settled : ((Catalogue.markNotificationResult env.config.toConfig row.torrentUid success
          stampNs nextNs error).effect content).Fits events uid
            (notifier.notices uid ++ [.recorded row.torrentUid success stampNs nextNs])
            (uid ∉ rows.map DueNotification.torrentUid) := by
        refine (fits.marked (fun _ _ rowFits => rowFits.recorded) ?_ ?_).mono (absurd known)
        · exact fun _ missing => absurd known (fits.absent missing).2
        · exact fun other => absurd same other
      simp only [Store.step] at served
      split at served
      · cases served
        exact ⟨isCommitted (List.cons_ne_nil _ _) ▸ settled, isWorking ▸ settled, trivial⟩
      · cases served
    · intro other member isUid
      exact absurd (isUid.trans same.symm) (ne_of_distinct isOpen.distinct member)
    · rw [spare, if_pos same]
      exact Nat.le_refl 1
  · refine sound.settle ?_ within aligned fewer ⟨distinct, isOpen.ready⟩ ?_
    · rw [notices, List.filter_append]
      simp [Notice.about, same, notices]
    · rw [spare, if_neg same, countP_notice]
      exact Nat.le_refl _

/-- The marking of the result has ended in a `TimeoutError`. -/
theorem Sound.lose (sound : Sound env uid events notifier)
    (recording : notifier.stage = .recording scanNs row rows success stampNs nextNs error)
    (within : store.session.Within (Catalogue.Fits events uid (notifier.notices uid)
      (¬ notifier.stage.mentions uid)) (.free Catalogue))
    (aligned : store.session.Aligned Catalogue.notified) :
    Sound env uid events { notifier with
      store
      stage := .idle
      log := notifier.log ++ [.lost row.torrentUid] } := by
  have stage := sound.stage
  rw [recording] at stage
  have spare : notifier.stage.spare uid = if row.torrentUid = uid then 0 else 1 := by
    rw [recording]
    rfl
  by_cases same : row.torrentUid = uid
  · have known : notifier.stage.mentions uid := by
      rw [recording, ← same]
      exact List.mem_cons_self
    rcases stage.1.begun same with ⟨earlier, message, begun⟩
    refine sound.note rfl (decide_eq_true same) ⟨earlier, scanNs, row, message, begun⟩ ?_ ?_
      aligned trivial ?_
    · rintro _ _ _ ⟨⟩
    · exact within.weaken fun _ fits => fits.noted (not_not_intro known) rfl
    · rw [spare, if_pos same]
      exact Nat.le_refl 1
  · refine sound.settle ?_ within aligned (fun mentioned => ?_) trivial ?_
    · rw [notices, List.filter_append]
      simp [Notice.about, same, notices]
    · exact absurd mentioned List.not_mem_nil
    · rw [spare, if_neg same, countP_notice]
      exact Nat.le_refl _

theorem Sound.record (sound : Sound env uid events notifier) {heard : Bool} {next : Notifier}
    (taken : notifier.step env (.record attempts heard) = some next) :
    Sound env uid events next := by
  simp only [step] at taken
  split at taken
  · rename_i scanNs row rows success stampNs nextNs error recording
    rcases Option.map_eq_some_iff.mp taken with ⟨store, served, rfl⟩
    have obeys : ((DatabaseCall.markNotificationResult row.torrentUid success stampNs nextNs
        error).operation env.config.toConfig).Obeys (Catalogue.Fits events uid
          (notifier.notices uid) (¬ notifier.stage.mentions uid)) (.free Catalogue) := by
      apply Catalogue.obeys_marked
      intro same time
      have stage := sound.stage
      rw [recording] at stage
      rcases stage.1.begun same with ⟨earlier, message, begun⟩
      rw [begun]
      exact Permitted.open rfl time
    rcases sound.store_serves obeys served with ⟨within, aligned⟩
    cases heard with
    | false => exact sound.finish rfl rfl within aligned
    | true =>
        cases answered : notifier.reply env (.markNotificationResult row.torrentUid success stampNs
            nextNs error) attempts with
        | result answer => exact sound.confirm recording served answered obeys
        | exception fault =>
            simp only [if_true, recorded]
            rcases stageAfter_cases env fault with ⟨timedOut, idle⟩ | ⟨ending, ended⟩
            · rw [timedOut, idle, if_pos rfl]
              exact sound.lose recording within aligned
            · rw [ending, ended, if_neg Bool.false_ne_true, List.append_nil]
              exact sound.finish rfl rfl within aligned
  · cases taken

end record

theorem Sound.step (sound : Sound env uid events notifier) {event : NotifierEvent}
    {next : Notifier} (taken : notifier.step env event = some next) :
    Sound env uid (events ++ [event]) next := by
  have known : Sound env uid (events ++ [event]) notifier :=
    sound.later fun _ member => List.mem_append_left _ member
  cases event with
  | start nowNs infos => exact known.start taken
  | scan nowNs attempts => exact known.scan taken
  | take stopping => exact known.take taken
  | deliver link nowNs => exact known.deliver taken
  | record attempts heard => exact known.record taken
  | quit =>
      cases taken
      exact known.finish rfl rfl known.within known.aligned
  | call request attempts =>
      simp only [Notifier.step] at taken
      split at taken
      · cases taken
      · rename_i other
        rcases Option.map_eq_some_iff.mp taken with ⟨store, served, rfl⟩
        rcases known.store_serves (request.obeys_notices (Bool.eq_false_iff.mpr other)
          (List.mem_append_right _ List.mem_cons_self)) served with ⟨within, aligned⟩
        exact known.settle rfl within aligned id known.stage (Nat.le_refl _)
  | stop =>
      rcases Option.map_eq_some_iff.mp taken with ⟨store, moved, rfl⟩
      rcases known.store_moves (fun _ _ same => by cases same) moved with ⟨within, aligned⟩
      exact known.finish rfl rfl within aligned
  | kill =>
      cases taken
      have killed : notifier.store.step env.config.toConfig .kill = some _ := rfl
      rcases known.store_moves (fun _ _ same => by cases same) killed with ⟨within, aligned⟩
      exact known.finish rfl rfl within aligned

theorem Sound.run {final : Notifier}
    (ran : Transition.run (Notifier.step env) {} events = some final) :
    Sound env uid events final := by
  refine Transition.invariant_history (Sound env uid)
    (fun events event notifier next _ sound taken => sound.step taken) ?_ ran
  have fits : Catalogue.Fits [] uid [] (¬ NotifierStage.ended.mentions uid) {} :=
    Catalogue.Fits.empty.mono fun _ => List.not_mem_nil
  exact ⟨.same rfl fits, rfl, Lawful.nil, fun _ _ _ member => absurd member List.not_mem_nil,
    trivial, Nat.le_refl 0⟩

end Notifier

/-- What is noted of one torrent in any run. -/
structure Notifier.Orderly (env : NotifierEnvironment) (uid : String) (events : List NotifierEvent)
    (notifier : Notifier) : Prop where
  /-- Beyond the attempts allowed, only a stop of a process and a lost result cost a message. -/
  few : ((notifier.notices uid).countP Notice.isBegun : Int) ≤
    max 1 env.config.notificationRetryMaxAttempts + notifier.log.countP Notice.isStart +
      (notifier.notices uid).countP Notice.isLoss
  ends : ∀ front torrentUid success stampNs next back,
    notifier.notices uid = front ++ .recorded torrentUid success stampNs next :: back →
      success = true ∨ next = none → back = []
  delayed : ∀ front torrentUid stampNs next back,
    notifier.notices uid = front ++ .recorded torrentUid false stampNs next :: back →
      ∃ earlier scanNs row message, front = earlier ++ [.begun scanNs row message] ∧
        (earlier.countP Notice.isRecord : Int) ≤ row.notification.attempts ∧
        next = env.config.nextNotification (row.notification.attempts + 1) stampNs
  waits : ∀ front torrentUid success stampNs next scanNs row message back,
    notifier.notices uid = front ++ .recorded torrentUid success stampNs next ::
      .begun scanNs row message :: back → ∃ due, next = some due ∧ due ≤ scanNs
  told : ∀ scanNs row message, .begun scanNs row message ∈ notifier.notices uid →
    Telegram.rowMessage env.config row = .ok message ∧ row.Sincere events

namespace Notifier

variable {env : NotifierEnvironment} {uid : String} {events : List NotifierEvent}
  {notifier : Notifier}

theorem Sound.orderly (sound : Sound env uid events notifier) :
    notifier.Orderly env uid events where
  few := by
    have bounded := (records_few sound.lawful).1
    have balance := sound.balance
    omega
  ends front torrentUid success stampNs next back split final := by
    refine sound.lawful.ends split fun notice succeeds => ?_
    have unfollowed : ∀ earlier scanNs row message,
        front ++ [.recorded torrentUid success stampNs next] ≠
          earlier ++ [.begun scanNs row message] := by
      intro earlier scanNs row message same
      cases List.singleton_inj.mp (List.append_inj' same rfl).2
    cases notice with
    | started => exact succeeds
    | begun scanNs row message =>
        rcases succeeds.1 _ _ _ _ _ rfl with ⟨failed, due, isNext, -⟩
        rcases final with isSuccess | isLast
        · rw [failed] at isSuccess
          cases isSuccess
        · rw [isLast] at isNext
          cases isNext
    | recorded other isSuccess stamp isNext =>
        rcases succeeds with ⟨earlier, scanNs, row, message, same, -⟩
        exact unfollowed earlier scanNs row message same
    | lost other =>
        rcases succeeds with ⟨earlier, scanNs, row, message, same⟩
        exact unfollowed earlier scanNs row message same
  delayed front torrentUid stampNs next back split := by
    rcases sound.lawful _ _ _ split with ⟨earlier, scanNs, row, message, rfl, timed⟩
    refine ⟨earlier, scanNs, row, message, rfl, ?_, timed⟩
    refine (sound.lawful earlier (.begun scanNs row message)
      (.recorded torrentUid false stampNs next :: back) ?_).2
    rw [split, List.append_assoc, List.singleton_append]
  waits front torrentUid success stampNs next scanNs row message back split := by
    have succeeds := sound.lawful (front ++ [.recorded torrentUid success stampNs next])
      (.begun scanNs row message) back (by rw [split, List.append_assoc, List.singleton_append])
    exact (succeeds.1 _ _ _ _ _ rfl).2
  told := sound.told

/-- In every run, with any stops and failures, the messages of a torrent keep to the attempts, the
times and the rows that the database gives them. -/
theorem run_notices (env : NotifierEnvironment) (events : List NotifierEvent) (final : Notifier)
    (ran : Transition.run (Notifier.step env) {} events = some final) (uid : String) :
    final.Orderly env uid events :=
  (Sound.run ran).orderly

def sampleNotifier : NotifierEnvironment :=
  { config := Telegram.sampleTelegram, loads := Telegram.sampleLoads, timesOut := fun _ => false }

def sampleMatched : IndexedTorrent :=
  { torrentUid := "btih:0123456789abcdef0123456789abcdef01234567", name := some "a",
    totalSize := 5, fileCount := 1, pieceLength := none, metadataSize := 3, rawInfo := [],
    files := [⟨0, "a", 5⟩] }

/-- Two attempts that do not reach the server, the second one a minute behind the first. -/
def sampleUnsent : List NotifierEvent :=
  [.start 0 ["149.154.167.220"],
    .call (.persistTorrent sampleMatched "dht20:00" (some ⟨["k"], ["a"]⟩) 5) fun _ => {},
    .scan 10 fun _ => {}, .take false, .deliver { refused := some .timeout } 12,
    .record (fun _ => {}) true, .take false,
    .scan 60000000012 fun _ => {}, .take false, .deliver { refused := some .timeout } 60000000013,
    .record (fun _ => {}) true]

theorem run_notices_sample : ∃ final,
    Transition.run (Notifier.step sampleNotifier) {} sampleUnsent = some final ∧
      final.Orderly sampleNotifier sampleMatched.torrentUid sampleUnsent ∧
        (final.notices sampleMatched.torrentUid).countP Notice.isBegun = 2 :=
  ⟨_, rfl, run_notices sampleNotifier sampleUnsent _ rfl sampleMatched.torrentUid, rfl⟩

end Notifier

end PyDht
