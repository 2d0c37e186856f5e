import PyDht.CatalogueAuthenticity
import PyDht.CrawlerDials

set_option autoImplicit false

namespace PyDht

open Effects

namespace Peer

variable {config : CrawlerConfig} {sha1 : Bytes → Bytes} {infoHash : Bytes}

/-- A failed wait only becomes another exception: what is returned comes from the program. -/
theorem inStage_returns {α : Type} {program : Peer α} {returned : α → Prop}
    (ensures : Ensures (fun _ => True) program (fun value _ => returned value)
      (fun _ _ => True)) (stage timeoutCategory timeoutText failureCategory failureText : String) :
    Ensures (fun _ => True)
      (inStage stage timeoutCategory timeoutText failureCategory failureText program)
      (fun value _ => returned value) (fun _ _ => True) := by
  apply Ensures.tryCatch ensures
  intro fault
  apply Ensures.get
  intro session _
  split
  · exact Ensures.ite (fun _ => Ensures.throw fun _ _ => trivial)
      fun _ => Ensures.throw fun _ _ => trivial
  · exact Ensures.throw fun _ _ => trivial
  · exact Ensures.throw fun _ _ => trivial
  · exact Ensures.throw fun _ _ => trivial

theorem metadata_returns (offered : Int × Int × Int) :
    Ensures (fun _ => True) (metadata config sha1 infoHash offered)
      (fun raw _ => sha1 raw = infoHash) (fun _ _ => True) := by
  apply inStage_returns
  refine (Ensures.regardless _).bind fun raw => ?_
  refine Ensures.ite (fun _ => Ensures.throw fun _ _ => trivial) fun same => ?_
  exact Ensures.pure fun _ _ => not_not.mp same

theorem fetchMetadata_returns (peerId : Bytes) (endpoint : Endpoint) (refused : Option PeerFault)
    (lingers : Bool) :
    Ensures (fun _ => True) (fetchMetadata config sha1 peerId endpoint infoHash refused lingers)
      (fun raw _ => sha1 raw = infoHash) (fun _ _ => True) := by
  have session : Ensures (fun _ => True) (do
      let _ ← btHandshake infoHash peerId
      let offered ← extensionHandshake config
      metadata config sha1 infoHash offered)
      (fun raw _ => sha1 raw = infoHash) (fun _ _ => True) := by
    refine (Ensures.regardless _).bind fun _ => ?_
    exact (Ensures.regardless _).bind fun offered => metadata_returns offered
  have closed : Ensures (fun _ => True) (closing lingers (do
      let _ ← btHandshake infoHash peerId
      let offered ← extensionHandshake config
      metadata config sha1 infoHash offered))
      (fun raw _ => sha1 raw = infoHash) (fun _ _ => True) := by
    refine Ensures.ite (fun _ => ?_) fun _ => session
    exact (Ensures.regardless _).bind fun _ => Ensures.throw fun _ _ => trivial
  refine Ensures.tryCatch ((Ensures.regardless _).bind fun _ => closed) fun fault => ?_
  split <;> exact Ensures.throw fun _ _ => trivial

end Peer

/-- Whatever a peer sends, `fetch_metadata` returns bytes with the hash that was asked for. -/
theorem PeerScript.outcome_hash {script : PeerScript} {config : CrawlerConfig}
    {sha1 : Bytes → Bytes} {peerId infoHash raw : Bytes} {endpoint : Endpoint}
    (fetched : script.outcome config sha1 peerId endpoint infoHash = .ok raw) :
    sha1 raw = infoHash := by
  have holds := @Peer.fetchMetadata_returns config sha1 infoHash peerId endpoint script.refused
    script.lingers script.session trivial
  unfold outcome at fetched
  split at fetched
  · rename_i found session same
    rw [same] at holds
    cases fetched
    exact holds
  · cases fetched

theorem Indexer.parseValidatedInfo_rawInfo {config : Config} {rawInfo : Bytes}
    {torrentUid : String} {torrent : IndexedTorrent}
    (parsed : parseValidatedInfo config rawInfo torrentUid = .ok torrent) :
    torrent.rawInfo = rawInfo := by
  unfold parseValidatedInfo at parsed
  rw [bind_ok_iff] at parsed
  obtain ⟨value, -, parsed⟩ := parsed
  split at parsed
  · rw [bind_ok_iff] at parsed
    obtain ⟨length, -, parsed⟩ := parsed
    rw [bind_ok_iff] at parsed
    obtain ⟨found, listed, built⟩ := parsed
    rw [← pure_ok_iff.mp built]
  · cases parsed

theorem btihText_injective {left right : Bytes}
    (same : "btih:" ++ hex left = "btih:" ++ hex right) : left = right := by
  have texts : hex left = hex right := by simpa using same
  have read := congrArg fromHex texts
  rw [fromHex_hex, fromHex_hex] at read
  exact Option.some.inj read

/-- The torrent is what its info bytes say, the candidate is the one that their hash names, and the
keywords are those that the torrent matches. -/
structure CrawlerEnvironment.Vouches (env : CrawlerEnvironment) (dhtKey : String)
    (torrent : IndexedTorrent) (found : Option KeywordResult) : Prop where
  key : dhtKey = dhtKeyText (env.sha1 torrent.rawInfo)
  parsed : Indexer.parseValidatedInfo env.config.toConfig torrent.rawInfo
    ("btih:" ++ hex (env.sha1 torrent.rawInfo)) = .ok torrent
  found : found =
    if env.config.keywordMonitoringEnabled then
      Monitoring.matchKeywords env.casefold torrent env.config.keywords
        env.config.keywordCaseSensitive
    else none

theorem CrawlerEnvironment.Vouches.torrentUid {env : CrawlerEnvironment} {dhtKey : String}
    {torrent : IndexedTorrent} {found : Option KeywordResult}
    (stands : env.Vouches dhtKey torrent found) :
    torrent.torrentUid = "btih:" ++ hex (env.sha1 torrent.rawInfo) :=
  (Indexer.parseValidatedInfo_wellformed stands.parsed).2

/-- A call that stores a torrent vouches for it. -/
def WorkerStage.Vouched (env : CrawlerEnvironment) (key : Bytes) : WorkerStage → Prop
  | .persisting torrent found _ => env.Vouches (dhtKeyText key) torrent found
  | _ => True

namespace CrawlerEnvironment

variable {env : CrawlerEnvironment} {key : Bytes}

theorem tryHints_vouched (hints : List PeerHint) (search : PeerSearch) :
    (env.tryHints hints search).Vouched env key := by
  induction hints with
  | nil => trivial
  | cons hint rest ih =>
      unfold tryHints
      dsimp only
      split
      · exact ih
      · trivial

theorem tryPeers_vouched (peers : List Endpoint) (attempts : Int) (search : PeerSearch) :
    (env.tryPeers peers attempts search).Vouched env key := by
  induction peers with
  | nil => trivial
  | cons endpoint rest ih =>
      unfold tryPeers
      split
      · trivial
      · split
        · exact ih
        · trivial

/-- Metadata with the hash of the candidate is indexed under the name of the candidate. -/
theorem index_vouched {rawInfo : Bytes} (same : env.sha1 rawInfo = key) {errors : List String}
    {wallNs : Int} {stage : WorkerStage}
    (goes : env.index key rawInfo errors wallNs = .waits stage) : stage.Vouched env key := by
  unfold index at goes
  split at goes
  · split at goes
    · cases goes
      trivial
    · cases goes
  · rename_i torrent parsed
    cases goes
    have kept := Indexer.parseValidatedInfo_rawInfo parsed
    subst same
    refine ⟨?_, ?_, ?_⟩
    · rw [kept]
    · rw [kept]
      exact parsed
    · rfl

variable {manager : CandidateManager} {job : Processing} {stage : WorkerStage}

theorem resume_vouched {wallNs : Int}
    (goes : env.resume manager wallNs job = some (.waits stage)) :
    stage.Vouched env job.key := by
  unfold resume at goes
  split at goes
  · cases goes
  · cases goes
  · split at goes
    · have admitted := Option.some.inj goes
      unfold Processing.admission at admitted
      split at admitted
      · cases admitted
      · cases admitted
      · split at admitted
        · cases admitted
        · split at admitted <;> cases admitted
          trivial
      · cases admitted
        trivial
    · cases goes
      exact tryHints_vouched _ _
    · cases goes
    · cases goes
    · unfold giveUp at goes
      dsimp only at goes
      split at goes <;> cases goes <;> trivial
    · cases goes
    · cases goes

theorem fetched_vouched {outcome : Except PyError Bytes} {wallNs : Int}
    (genuine : ∀ rawInfo, outcome = .ok rawInfo → env.sha1 rawInfo = job.key)
    (goes : env.fetched job outcome wallNs = some (.waits stage)) :
    stage.Vouched env job.key := by
  unfold fetched at goes
  dsimp only at goes
  split at goes
  · cases goes
    exact tryHints_vouched _ _
  · cases goes
    exact tryPeers_vouched _ _ _
  · exact index_vouched (genuine _ rfl) (Option.some.inj goes)
  · exact index_vouched (genuine _ rfl) (Option.some.inj goes)
  · cases goes
  · cases goes
  · cases goes

theorem lookedUp_vouched {outcome : Except PyError (List Endpoint)}
    (goes : env.lookedUp manager job outcome = some (.waits stage)) :
    stage.Vouched env job.key := by
  unfold lookedUp at goes
  split at goes
  · cases goes
    exact tryPeers_vouched _ _ _
  · cases goes
    exact tryPeers_vouched _ _ _
  · cases goes

/-- Only metadata that a peer has sent, with the hash of the key, gets to the database. -/
theorem Goes.vouched (goes : env.Goes manager job (.waits stage)) : stage.Vouched env job.key := by
  cases goes with
  | resumed wallNs _ goes => exact resume_vouched goes
  | fetched script endpoint wallNs _ dialed goes =>
      exact fetched_vouched (fun rawInfo fetched => PeerScript.outcome_hash fetched) goes
  | lookedUp outcome _ goes => exact lookedUp_vouched goes

end CrawlerEnvironment

namespace Crawler

/-- Each call stands for what it has the database write. -/
def Vouched (env : CrawlerEnvironment) (crawler : Crawler) : Prop :=
  ∀ entry ∈ crawler.jobs, entry.2.stage.Vouched env entry.2.key

variable {env : CrawlerEnvironment} {crawler next : Crawler}

theorem Vouched.pop (vouched : crawler.Vouched env) {number : Nat} {other : Crawler}
    (jobs : other.jobs = Dict.pop number crawler.jobs) : other.Vouched env := by
  intro entry member
  rw [jobs] at member
  exact vouched entry (Dict.mem_of_mem_pop member)

theorem Vouched.proceed (vouched : crawler.Vouched env) {number : Nat} {job : Processing}
    {stamp now : Int} {onward : Onward}
    (goes : env.Goes crawler.candidates.manager job onward)
    (done : crawler.proceed env.config.toConfig number job stamp now onward = some next) :
    next.Vouched env := by
  cases onward with
  | waits stage =>
      cases done
      have stands : stage.Vouched env job.key := goes.vouched
      intro entry member
      rcases Dict.mem_of_mem_set member with before | same
      · exact vouched entry before
      · rw [same]
        exact stands
  | finishes =>
      rcases Option.map_eq_some_iff.mp done with ⟨candidates, -, rfl⟩
      exact vouched.pop rfl
  | raises error =>
      cases done
      exact vouched.pop rfl

theorem Vouched.step (vouched : crawler.Vouched env) (moved : Moved env crawler next) :
    next.Vouched env := by
  cases moved with
  | submitted candidates due kept sound => exact vouched
  | asked request attempts store due apart served => exact vouched
  | admitted candidates key rest wallNs nowNs up waits taken =>
      intro entry member
      rcases List.mem_append.mp member with before | new
      · exact vouched entry before
      · rw [List.mem_singleton.mp new]
        trivial
  | served number job request attempts next found asks waits done =>
      have stands := vouched _ (Dict.mem_of_get? found)
      rcases Option.map_eq_some_iff.mp done with ⟨store, -, rfl⟩
      intro entry member
      rcases Dict.mem_of_mem_set member with before | same
      · exact vouched entry before
      · rw [same]
        exact stands
  | proceeded number job onward stamp now next found goes done =>
      exact vouched.proceed goes done
  | started nowNs now store taken => exact vouched
  | halted event store ends taken =>
      intro entry member
      cases member

/-- A call asks the database for nothing that it does not vouch for. -/
theorem vouched_of_request {job : Processing} (stands : job.stage.Vouched env job.key)
    {request : DatabaseCall} (asks : job.request = some request) :
    request.Vouched env.Vouches := by
  unfold Processing.request at asks
  split at asks <;> cases asks
  · trivial
  · trivial
  · rename_i stage
    rw [stage] at stands
    exact stands
  · trivial
  · trivial

theorem vouched_of_target {vouched : Voucher} {request : DatabaseCall}
    (apart : request.target = none) : request.Vouched vouched := by
  cases request with
  | persistTorrent torrent dhtKey found nowNs => cases apart
  | upsertCandidateSeen dhtKey firstSeen lastSeen => trivial
  | markFetching dhtKey nowNs => trivial
  | markFetchFailed dhtKey error nowNs nextAttemptNs => trivial
  | markUnsupported dhtKey error => trivial
  | markNotificationResult torrentUid success nowNs nextAttemptNs error => trivial
  | candidateState dhtKey => trivial
  | dueCandidates nowNs limit => trivial
  | dueNotifications nowNs limit => trivial
  | search text limit => trivial

section within

variable {inv : Catalogue → Prop} {law : Evolution Catalogue}

/-- What the recovery keeps and every operation that is vouched for, a step of the crawler keeps. -/
theorem step_within (recovers : ∀ nowNs, Follows inv law (Catalogue.recoverInterrupted nowNs))
    (obeys : ∀ request : DatabaseCall, request.Vouched env.Vouches →
      (request.operation env.config.toConfig).Obeys inv law)
    (vouched : crawler.Vouched env) (within : crawler.store.session.Within inv law)
    (moved : Moved env crawler next) : next.store.session.Within inv law := by
  have serve : ∀ {request : DatabaseCall} {attempts : Nat → Attempt} {store : Store},
      request.Vouched env.Vouches →
      crawler.store.step env.config.toConfig (.serve request attempts) = some store →
      store.session.Within inv law := by
    intro request attempts store stands served
    refine (Store.step_within ?_ ?_ within served).1
    · intro nowNs other
      cases other
    · intro other turns same
      cases same
      exact obeys request stands
  cases moved with
  | submitted candidates due kept sound => exact within
  | asked request attempts store due apart served => exact serve (vouched_of_target apart) served
  | admitted candidates key rest wallNs nowNs up waits taken => exact within
  | served number job request attempts next found asks waits done =>
      have stands := vouched _ (Dict.mem_of_get? found)
      rcases Option.map_eq_some_iff.mp done with ⟨store, served, rfl⟩
      exact serve (vouched_of_request stands asks) served
  | proceeded number job onward stamp now next found goes done =>
      cases onward with
      | waits stage =>
          cases done
          exact within
      | finishes =>
          rcases Option.map_eq_some_iff.mp done with ⟨candidates, -, rfl⟩
          exact within
      | raises error =>
          cases done
          exact within
  | started nowNs now store taken =>
      refine (Store.step_within ?_ ?_ within taken).1
      · exact fun time _ => recovers time
      · intro request attempts other
        cases other
  | halted event store ends taken =>
      refine (Store.step_within (fun time _ => recovers time) ?_ within taken).1
      intro request attempts other
      rcases ends with rfl | rfl <;> cases other

theorem run_within (recovers : ∀ nowNs, Follows inv law (Catalogue.recoverInterrupted nowNs))
    (obeys : ∀ request : DatabaseCall, request.Vouched env.Vouches →
      (request.operation env.config.toConfig).Obeys inv law)
    (start : inv {}) {events : List CrawlerEvent} {final : Crawler}
    (ran : Transition.run (step env) fresh events = some final) :
    final.store.session.Within inv law := by
  have initial : fresh.Vouched env ∧ fresh.store.session.Within inv law := by
    constructor
    · intro entry member
      cases member
    · exact .same rfl start
  have kept := Transition.invariant_run
    (fun crawler => crawler.Vouched env ∧ crawler.store.session.Within inv law)
    (fun crawler event next holds taken => by
      have moved := step_moved taken
      exact ⟨holds.1.step moved, step_within recovers obeys holds.1 holds.2 moved⟩) ran initial
  exact kept.2

end within

theorem consistent_of_vouched {request : DatabaseCall} (stands : request.Vouched env.Vouches) :
    request.Parsed env.config.toConfig := by
  cases request with
  | persistTorrent torrent dhtKey found nowNs =>
      refine ⟨torrent.rawInfo, ?_⟩
      have parsed := CrawlerEnvironment.Vouches.parsed stands
      rwa [← CrawlerEnvironment.Vouches.torrentUid stands] at parsed
  | upsertCandidateSeen dhtKey firstSeen lastSeen => trivial
  | markFetching dhtKey nowNs => trivial
  | markFetchFailed dhtKey error nowNs nextAttemptNs => trivial
  | markUnsupported dhtKey error => trivial
  | markNotificationResult torrentUid success nowNs nextAttemptNs error => trivial
  | candidateState dhtKey => trivial
  | dueCandidates nowNs limit => trivial
  | dueNotifications nowNs limit => trivial
  | search text limit => trivial

/-- In every run, whatever the peers send, whenever processes stop or die and however the database
fails: what the tables hold, committed or not, is consistent, and comes from info bytes that were
parsed under their own SHA-1, with the keywords that they match. The candidate that is complete
has the stored torrent with its own hash. -/
theorem run_authentic (env : CrawlerEnvironment) (events : List CrawlerEvent) (final : Crawler)
    (ran : Transition.run (step env) fresh events = some final) (content : Catalogue)
    (held : content = final.store.session.committed ∨ content = final.store.session.working) :
    content.Consistent ∧ content.Authentic env.Vouches ∧
      ∀ key row, content.candidate (dhtKeyText key) = some row → row.state = .complete →
        ∃ stored torrent, content.torrent ("btih:" ++ hex key) = some stored ∧
          env.sha1 torrent.rawInfo = key ∧
          Indexer.parseValidatedInfo env.config.toConfig torrent.rawInfo ("btih:" ++ hex key) =
            .ok torrent ∧
          stored.Describes torrent ∧ content.filesOf ("btih:" ++ hex key) = torrent.files := by
  have consistent : content.Consistent := by
    have within := run_within Catalogue.recoverInterrupted_follows
      (fun request stands => DatabaseCall.obeys_consistent (consistent_of_vouched stands))
      Catalogue.empty_consistent ran
    rcases held with rfl | rfl
    · exact within.committed
    · exact within.working
  have authentic : content.Authentic env.Vouches := by
    have within := run_within Catalogue.recoverInterrupted_authentic
      (fun request stands => DatabaseCall.obeys_authentic stands)
      (Catalogue.empty_authentic env.Vouches) ran
    rcases held with rfl | rfl
    · exact within.committed
    · exact within.working
  refine ⟨consistent, authentic, ?_⟩
  intro key row found complete
  have linked := consistent.linked _ row found
  rcases linked.complete complete with ⟨uid, named⟩
  rcases authentic.candidates _ row uid found named with ⟨claimed, hits, stands, isNamed⟩
  have own : key = env.sha1 claimed.rawInfo := dhtKeyText_injective stands.key
  have isUid : uid = "btih:" ++ hex key := by rw [← isNamed, stands.torrentUid, own]
  subst isUid
  rcases linked.named _ named with ⟨stored, there⟩
  rcases authentic.torrents _ stored there with
    ⟨dhtKey, torrent, found, stands, isNamed, described, listed⟩
  have hash : env.sha1 torrent.rawInfo = key := btihText_injective (stands.torrentUid.symm.trans isNamed)
  have parsed := stands.parsed
  rw [hash] at parsed
  exact ⟨stored, torrent, there, hash, parsed, described, listed⟩

/-- A peer with the metadata of a torrent of one file. -/
def smallPeer : PeerScript :=
  { incoming := 19 :: BT_PROTOCOL ++ [0, 0, 0, 0, 0, 0x10, 0, 0] ++ sampleKey ++
      List.replicate 20 1 ++
      PeerWire.frame 0 (ascii "d1:md11:ut_metadatai1ee13:metadata_sizei22ee") ++
      PeerWire.frame 1 (ascii "d8:msg_typei1e5:piecei0e10:total_sizei22ee" ++ Store.smallInfo) }

/-- The metadata of a candidate is fetched and stored, and the process is killed. -/
def sampleStored : List CrawlerEvent :=
  [.start 1 0, .submit 0 5 sampleKey "announce_peer" (some ⟨"8.8.8.8", 6881, false⟩), .get 6 6,
    .serve 0 fun _ => {}, .resume 0 7 0 0, .serve 0 fun _ => {}, .resume 0 8 0 0,
    .fetch 0 smallPeer 9, .serve 0 fun _ => {}, .kill]

theorem run_authentic_sample :
    ∃ final stored torrent,
      Transition.run (step LoggedCrawler.sampleColliding) fresh sampleStored = some final ∧
      final.store.session.committed.torrent ("btih:" ++ hex sampleKey) = some stored ∧
      stored.Describes torrent ∧
      final.store.session.committed.filesOf ("btih:" ++ hex sampleKey) = torrent.files ∧
      stored.name = some "a" := by
  have checked : ((Transition.run (step LoggedCrawler.sampleColliding) fresh sampleStored).bind
      fun final => (final.store.session.committed.candidate (dhtKeyText sampleKey)).map fun row =>
        decide (row.state = .complete ∧
          (final.store.session.committed.torrent ("btih:" ++ hex sampleKey)).map TorrentRow.name =
            some (some "a"))) = some true := by decide +kernel
  rcases Option.bind_eq_some_iff.mp checked with ⟨final, ran, checked⟩
  rcases Option.map_eq_some_iff.mp checked with ⟨row, found, checked⟩
  have facts := of_decide_eq_true checked
  have whole := run_authentic LoggedCrawler.sampleColliding sampleStored final ran _ (.inl rfl)
  rcases whole.2.2 sampleKey row found facts.1 with
    ⟨stored, torrent, there, -, -, described, listed⟩
  refine ⟨final, stored, torrent, ran, there, described, listed, ?_⟩
  have named := facts.2
  rw [there] at named
  exact Option.some.inj named

end Crawler

end PyDht
