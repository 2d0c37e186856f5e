import PyDht.Krpc
import PyDht.RoutingClosest
import Mathlib.Data.List.Forall2

set_option autoImplicit false

namespace PyDht

open Effects (Ensures Preserves)

namespace Message

theorem get?_set_self (key : String) (value : Value) (message : Message) :
    (message.set key value).get? key = some value :=
  Dict.get?_set_self (ascii key) value message

theorem get?_set_ne {key other : String} (different : ascii other ≠ ascii key) (value : Value)
    (message : Message) : (message.set key value).get? other = message.get? other :=
  Dict.get?_set_ne different value message

end Message

namespace DHTNode

/-- A property that survives that the surroundings are asked and that a record
goes out which reports no key and no peer. -/
structure Noting (inv : DHTNode → Prop) : Prop where
  ticks : ∀ node, inv node → inv { node with ticks := node.ticks + 1 }
  note : ∀ node record, record.isFinding = false → inv node →
    inv { node with emitted := node.emitted ++ [record] }

namespace Noting

variable {inv : DHTNode → Prop} (noting : Noting inv) (env : Environment)
include noting

theorem monotonicNs : Preserves inv (monotonicNs env) := by
  apply Preserves.get
  intro node holds
  apply Ensures.setBind
  intro _
  apply Ensures.pure
  intro state same
  exact same ▸ noting.ticks node holds

theorem timeNs : Preserves inv (timeNs env) := by
  apply Preserves.get
  intro node holds
  apply Ensures.setBind
  intro _
  apply Ensures.pure
  intro state same
  exact same ▸ noting.ticks node holds

theorem emit {record : NodeRecord} (plain : record.isFinding = false) :
    Preserves inv (emit record) :=
  Preserves.modify fun node holds => noting.note node record plain holds

theorem emitError (source event : String) (endpoint : Option Endpoint) (detail : String) :
    Preserves inv (emitError env.config source event endpoint detail) :=
  noting.emit rfl

theorem reportContacts6 (index : Nat) (contacts : List (Bytes × Bytes × Nat)) :
    Preserves inv (reportContacts6 index contacts) := by
  induction contacts generalizing index with
  | nil => exact Preserves.pure ()
  | cons contact rest ih =>
      apply Preserves.bind (noting.emit rfl)
      intro _
      exact ih (index + 1)

/-- A sighting keeps what the observation of the table keeps. -/
theorem meet (nodeId : Bytes) (endpoint : Endpoint) (sighting : Sighting)
    (observes : ∀ node now observed, inv node →
      node.routing.observe env.config now nodeId endpoint.1 endpoint.2 sighting = .ok observed →
      inv { node with routing := observed.1 }) :
    Preserves inv (meet env nodeId endpoint sighting) := by
  apply Preserves.bind
  · apply Preserves.bind (noting.monotonicNs env)
    intro now
    apply Preserves.get
    intro node holds
    apply Ensures.raiseBind _ fun _ _ _ same => same ▸ holds
    intro observed ran
    apply Ensures.setBind
    intro _
    apply Ensures.pure
    intro state same
    exact same ▸ observes node now observed holds ran
  · intro _
    exact Preserves.pure ()

/-- So does the reception of a query. -/
theorem greet (msg : Message) (endpoint : Endpoint) (method remoteId : Bytes)
    (meets : ∀ sighting : Sighting, sighting.directResponse = false →
      Preserves inv (DHTNode.meet env remoteId endpoint sighting)) :
    Preserves inv (greet env msg endpoint method remoteId) := by
  apply Preserves.get
  intro node holds
  have introduced : Preserves inv (Effects.when
      (endpointAllowed env.config node.localIps endpoint.1 endpoint.2)
      (DHTNode.meet env remoteId endpoint
        { incomingQuery := true
          readOnly := ((msg.get? "ro").map Value.truth).getD false
          clientVersion := Value.asBytes (msg.get? "v") })) :=
    Preserves.when fun _ => meets _ rfl
  exact (introduced.bind fun _ => Preserves.when fun _ => noting.emit rfl).ensures
    (fun _ same => same ▸ holds) (fun _ _ after => after) fun _ _ after => after

end Noting

/-- A property that does not depend on how often the surroundings were asked
and on what was emitted. -/
structure Idle (inv : DHTNode → Prop) : Prop where
  ticks : ∀ node, inv node → inv { node with ticks := node.ticks + 1 }
  emitted : ∀ node emitted, inv node → inv { node with emitted }

/-- A property that does not depend on the candidates either. -/
structure Quiet (inv : DHTNode → Prop) : Prop extends Idle inv where
  candidates : ∀ node candidates, inv node → inv { node with candidates }

namespace Idle

variable {inv : DHTNode → Prop} (idle : Idle inv) (env : Environment)
include idle

theorem noting : Noting inv :=
  ⟨idle.ticks, fun node _ _ holds => idle.emitted node _ holds⟩

theorem monotonicNs : Preserves inv (monotonicNs env) := idle.noting.monotonicNs env

theorem emit (record : NodeRecord) : Preserves inv (emit record) :=
  Preserves.modify fun node holds => idle.emitted node _ holds

theorem emitValue (index : Nat) (raw : Value) :
    Preserves inv (emitValue index raw) := by
  unfold DHTNode.emitValue
  split
  · exact idle.emit _
  · exact Preserves.pure ()

theorem emitValues (index : Nat) (values : List Value) :
    Preserves inv (emitValues index values) := by
  induction values generalizing index with
  | nil => exact Preserves.pure ()
  | cons raw rest ih =>
      apply Preserves.bind (idle.emitValue index raw)
      intro _
      exact ih (index + 1)

end Idle

namespace Quiet

variable {inv : DHTNode → Prop} (quiet : Quiet inv) (env : Environment)
include quiet

theorem submit (key : Bytes) (source : String) (peerHint : Option PeerHint) :
    Preserves inv (submit env key source peerHint) := by
  apply Preserves.bind (quiet.monotonicNs env)
  intro now
  apply Preserves.bind (quiet.noting.timeNs env)
  intro wall
  exact Preserves.modify fun node holds => quiet.candidates node _ holds

theorem emitSamples (index : Nat) (keys : List Bytes) :
    Preserves inv (emitSamples env index keys) := by
  induction keys generalizing index with
  | nil => exact Preserves.pure ()
  | cons key rest ih =>
      apply Preserves.bind (quiet.emit _)
      intro _
      apply Preserves.bind (quiet.submit env key "bep51" none)
      intro _
      exact ih (index + 1)

theorem emitResponseEvidence (msg : Message) (endpoint : Endpoint) (query : Bytes)
    (direction : Direction) :
    Preserves inv (emitResponseEvidence env msg endpoint query direction) := by
  apply Preserves.bind (Preserves.when fun _ => quiet.emitSamples env 0 _)
  intro _
  apply Preserves.bind (quiet.emitValues 0 _)
  intro _
  exact quiet.emit _

end Quiet

theorem Quiet.and {left right : DHTNode → Prop} (first : Quiet left) (second : Quiet right) :
    Quiet fun node => left node ∧ right node where
  ticks node holds := ⟨first.ticks node holds.1, second.ticks node holds.2⟩
  emitted node emitted holds :=
    ⟨first.emitted node emitted holds.1, second.emitted node emitted holds.2⟩
  candidates node candidates holds :=
    ⟨first.candidates node candidates holds.1, second.candidates node candidates holds.2⟩

theorem Quiet.ofTokens (holds : TokenManager → Prop) : Quiet fun node => holds node.tokens :=
  ⟨⟨fun _ same => same, fun _ _ same => same⟩, fun _ _ same => same⟩

/-- What answering a query may do to a node: `added` says which announcements
may be new. -/
structure Working (env : Environment) (start : DHTNode)
    (added : Bytes × Endpoint × Int → Prop) (node : DHTNode) : Prop where
  nodeId : node.nodeId = start.nodeId
  localIps : node.localIps = start.localIps
  routing : node.routing = start.routing
  pending : node.pending = start.pending
  pendingSlots : node.pendingSlots = start.pendingSlots
  connected : node.connected = start.connected
  sent : node.sent = start.sent
  ticks : start.ticks ≤ node.ticks
  tokens : node.tokens = start.tokens ∨ ∃ tick, start.ticks ≤ tick ∧ tick < node.ticks ∧
    TokenManager.rotateIfDue env (env.monotonicNs tick) start.tokens = .ok node.tokens
  store : ∀ entry ∈ node.peerStore.entries, entry ∈ start.peerStore.entries ∨ added entry

/-- Packed contacts of the table, each of them GOOD at some reading of the clock. -/
def Advertised (config : Config) (routing : RoutingTable) (raw : Bytes) : Prop :=
  ∃ contacts packs, (∀ contact ∈ contacts, contact ∈ routing.allContacts ∧
      ∃ now, contact.state config now = .good) ∧
    List.Forall₂ (fun contact packed =>
      compactNode contact.nodeId (contact.ip, contact.port) = .ok packed) contacts packs ∧
    raw = packs.flatten

/-- The token was issued to the address at a reading between the start and the turn. -/
def IssuedSince (env : Environment) (start : DHTNode) (turn : Nat) (ip : String) (token : Bytes)
    (tokens : TokenManager) : Prop :=
  ∃ tick, start.ticks ≤ tick ∧ tick < turn ∧
    TokenManager.issue env (env.monotonicNs tick) ip start.tokens = .ok token tokens

/-- What a response tells that was made between the start and the turn: its nodes are contacts
of the table, and a token, which only `get_peers` is answered with, was issued for it. -/
structure Sincere (env : Environment) (start : DHTNode) (turn : Nat) (node : DHTNode)
    (method : Bytes) (ip : String) (response : Message) : Prop where
  nodes : ∀ raw, Value.asBytes (response.get? "nodes") = some raw →
    Advertised env.config node.routing raw
  token : ∀ token, Value.asBytes (response.get? "token") = some token →
    method = ascii "get_peers" ∧ IssuedSince env start turn ip token node.tokens

section working

variable {env : Environment} {start : DHTNode} {added : Bytes × Endpoint × Int → Prop}

theorem Working.refl (env : Environment) (start : DHTNode)
    (added : Bytes × Endpoint × Int → Prop) : Working env start added start :=
  ⟨rfl, rfl, rfl, rfl, rfl, rfl, rfl, Nat.le_refl _, .inl rfl, fun _ member => .inl member⟩

theorem Working.quiet (env : Environment) (start : DHTNode)
    (added : Bytes × Endpoint × Int → Prop) : Quiet (Working env start added) where
  ticks _ work := { work with
    ticks := Nat.le_succ_of_le work.ticks
    tokens := work.tokens.imp_right fun ⟨tick, lower, upper, turned⟩ =>
      ⟨tick, lower, Nat.lt_succ_of_lt upper, turned⟩ }
  emitted _ _ work := { work with }
  candidates _ _ work := { work with }

theorem IssuedSince.quiet (ip : String) (token : Bytes) :
    Quiet fun node => IssuedSince env start node.ticks ip token node.tokens where
  ticks _ given := given.imp fun _ read => ⟨read.1, Nat.lt_succ_of_lt read.2.1, read.2.2⟩
  emitted _ _ given := given
  candidates _ _ given := given

/-- The reading was taken between the two states. -/
def ReadSince (env : Environment) (start : DHTNode) (now : Int) (node : DHTNode) : Prop :=
  ∃ tick, start.ticks ≤ tick ∧ tick < node.ticks ∧ now = env.monotonicNs tick

theorem Idle.withReading {inv : DHTNode → Prop} (idle : Idle inv) (now : Int) :
    Idle fun node => inv node ∧ ReadSince env start now node where
  ticks node holds := by
    rcases holds with ⟨kept, tick, lower, upper, same⟩
    exact ⟨idle.ticks node kept, tick, lower, Nat.lt_succ_of_lt upper, same⟩
  emitted node emitted holds := ⟨idle.emitted node emitted holds.1, holds.2⟩

/-- A reading of the clock is one of those taken since the start. -/
theorem Idle.reading {inv : DHTNode → Prop} (idle : Idle inv) (env : Environment)
    (passed : ∀ node, inv node → start.ticks ≤ node.ticks) :
    Ensures inv (DHTNode.monotonicNs env)
      (fun now node => inv node ∧ ReadSince env start now node) (fun _ => inv) := by
  apply Ensures.get
  intro node holds
  apply Ensures.setBind
  intro _
  apply Ensures.pure
  rintro state rfl
  exact ⟨idle.ticks node holds, node.ticks, passed node holds, Nat.lt_succ_self _, rfl⟩

theorem issue_working (ip : String) (now : Int) :
    Ensures (fun node => (Working env start added node ∧ node.tokens = start.tokens) ∧
        ReadSince env start now node)
      (onTokens (TokenManager.issue env now ip))
      (fun token node => Working env start added node ∧
        IssuedSince env start node.ticks ip token node.tokens)
      (fun _ => Working env start added) := by
  apply Ensures.zoom
  rintro node ⟨⟨work, same⟩, tick, lower, upper, rfl⟩
  apply (TokenManager.issue_ensures env _ ip node.tokens).exactly.weaken (fun _ holds => holds)
  · rintro token next ⟨⟨turned, _⟩, issued⟩
    rw [same] at turned issued
    exact ⟨{ work with tokens := .inr ⟨tick, lower, upper, turned⟩ }, tick, lower, upper, issued⟩
  · rintro fault next (rfl | turned)
    · exact { work with }
    · rw [same] at turned
      exact { work with tokens := .inr ⟨tick, lower, upper, turned⟩ }

/-- Reading the store prunes it. -/
theorem readStore_working {α : Type} (holds : Nat → TokenManager → Prop)
    {read : PeerStore → α × PeerStore}
    (pruned : ∀ store, ∀ entry ∈ (read store).2.entries, entry ∈ store.entries) :
    Preserves (fun node => Working env start added node ∧ holds node.ticks node.tokens)
      (onPeerStore (modifyGet read)) := by
  apply Ensures.zoom
  rintro node ⟨work, same⟩ state rfl
  exact ⟨{ work with store := fun entry member => work.store entry (pruned _ entry member) }, same⟩

theorem closestGood_ensures {inv : DHTNode → Prop} (noting : Noting inv) (env : Environment)
    (target : Bytes) :
    Ensures inv (closestGood env target)
      (fun contacts node => inv node ∧ ∀ contact ∈ contacts, contact ∈ node.routing.allContacts ∧
        ∃ now, contact.state env.config now = .good)
      (fun _ => inv) := by
  apply Ensures.bind (noting.monotonicNs env)
  intro now
  apply Ensures.get
  intro node holds
  apply Ensures.raise
  · rintro contacts found state rfl
    refine ⟨holds, fun contact member => ?_⟩
    have facts := RoutingTable.closest_mem found contact member
    exact ⟨facts.1, now, facts.2.2 rfl⟩
  · rintro fault _ state rfl
    exact holds

theorem compactContacts_ok {contacts : List Contact} {raw : Bytes}
    (packed : compactContacts contacts = .ok raw) :
    ∃ packs, List.Forall₂ (fun contact packed =>
      compactNode contact.nodeId (contact.ip, contact.port) = .ok packed) contacts packs ∧
      raw = packs.flatten := by
  induction contacts generalizing raw with
  | nil => exact ⟨[], .nil, by simpa [compactContacts] using packed.symm⟩
  | cons contact rest ih =>
      rcases bind_ok_iff.mp packed with ⟨first, here, behind⟩
      rcases bind_ok_iff.mp behind with ⟨others, there, joined⟩
      rcases ih there with ⟨packs, all, rfl⟩
      exact ⟨first :: packs, .cons here all, (pure_ok_iff.mp joined).symm⟩

/-- The loop takes some of the contacts and packs them one after the other. -/
theorem fitNodes_ok {response : Message} {nodes raw : Bytes} {contacts : List Contact}
    (fitted : fitNodes env response nodes contacts = .ok raw) :
    ∃ taken packs, (∀ contact ∈ taken, contact ∈ contacts) ∧
      List.Forall₂ (fun contact packed =>
        compactNode contact.nodeId (contact.ip, contact.port) = .ok packed) taken packs ∧
      raw = nodes ++ packs.flatten := by
  induction contacts generalizing nodes with
  | nil => exact ⟨[], [], by simp, .nil, by simpa [fitNodes] using fitted.symm⟩
  | cons contact rest ih =>
      rcases bind_ok_iff.mp fitted with ⟨packed, here, behind⟩
      rcases bind_ok_iff.mp behind with ⟨size, _, chosen⟩
      split at chosen
      · exact ⟨[], [], by simp, .nil, by simpa using (pure_ok_iff.mp chosen).symm⟩
      · rcases ih chosen with ⟨taken, packs, within, all, rfl⟩
        refine ⟨contact :: taken, packed :: packs, ?_, .cons here all, by simp⟩
        intro other member
        rcases List.mem_cons.mp member with rfl | later
        · simp
        · exact List.mem_cons_of_mem _ (within other later)

/-- Dropping samples leaves the rest of the response as it is. -/
theorem trimSamples_ok {rounds : Nat} {response trimmed : Message} {samples : List Bytes}
    (ran : trimSamples env rounds response samples = .ok trimmed) (key : String)
    (other : ascii key ≠ ascii "samples") : trimmed.get? key = response.get? key := by
  induction rounds generalizing response samples with
  | zero => rw [Except.ok.inj ran]
  | succ rounds ih =>
      rcases bind_ok_iff.mp ran with ⟨size, _, chosen⟩
      split at chosen
      · rw [ih chosen, Message.get?_set_ne other]
      · rw [pure_ok_iff.mp chosen]

theorem fitNodes_advertised {response : Message}
    {contacts : List Contact} {raw : Bytes} {node : DHTNode}
    (closest : ∀ contact ∈ contacts, contact ∈ node.routing.allContacts ∧
      ∃ now, contact.state env.config now = .good)
    (fitted : fitNodes env response [] contacts = .ok raw) :
    Advertised env.config node.routing raw := by
  rcases fitNodes_ok fitted with ⟨taken, packs, within, all, rfl⟩
  exact ⟨taken, packs, fun contact member => closest contact (within contact member), all, rfl⟩

theorem asBytes_bytes (text : Bytes) : Value.asBytes (some (.bytes text)) = some text := rfl

theorem require20_ok {args : Message} {name : String} {key : Bytes}
    (required : require20 args name = .ok key) : Value.asKey (args.get? name) = some key := by
  unfold require20 at required
  split at required
  · rename_i value found
    exact found.trans (congrArg some (Except.ok.inj required))
  · cases required

theorem incomingGetPeers_ensures (env : Environment) (args : Message) (endpoint : Endpoint)
    (start : DHTNode) (added : Bytes × Endpoint × Int → Prop) :
    Ensures (· = start) (incomingGetPeers env args endpoint)
      (fun response node => Working env start added node ∧
        Sincere env start node.ticks node (ascii "get_peers") endpoint.1 response)
      (fun _ => Working env start added) := by
  have refl := Working.refl env start added
  have fresh : Quiet fun node => Working env start added node ∧ node.tokens = start.tokens :=
    (Working.quiet env start added).and (Quiet.ofTokens (· = start.tokens))
  unfold incomingGetPeers
  apply Ensures.raiseBind _ fun _ _ _ same => same ▸ refl
  intro key _
  apply Ensures.raiseBind _ fun _ _ _ same => same ▸ refl
  intro _ _
  have submitted : Ensures (· = start) (submit env key "get_peers" none)
      (fun _ node => Working env start added node ∧ node.tokens = start.tokens)
      (fun _ => Working env start added) :=
    (fresh.submit env key "get_peers" none).ensures (by rintro _ rfl; exact ⟨refl, rfl⟩)
      (fun _ _ holds => holds) fun _ _ holds => holds.1
  apply Ensures.bind submitted
  intro _
  apply Ensures.bind ((fresh.emit _).returns fun _ holds => holds.1)
  intro _
  apply Ensures.bind ((fresh.reading env fun node holds => holds.1.ticks).raises
    fun _ _ holds => holds.1)
  intro issuedNs
  apply Ensures.bind (issue_working endpoint.1 issuedNs)
  intro token
  let issues := fun turn tokens => IssuedSince env start turn endpoint.1 token tokens
  have issued : Quiet fun node => Working env start added node ∧ issues node.ticks node.tokens :=
    (Working.quiet env start added).and (IssuedSince.quiet endpoint.1 token)
  apply Ensures.get
  intro seen holds
  have read : Ensures (· = seen) (monotonicNs env)
      (fun _ node => Working env start added node ∧ issues node.ticks node.tokens)
      (fun _ => Working env start added) :=
    (issued.monotonicNs env).ensures (fun _ same => same ▸ holds) (fun _ _ after => after)
      fun _ _ after => after.1
  apply Ensures.bind read
  intro now
  have pruned : ∀ store : PeerStore, ∀ entry ∈ (store.get env.config now key).2.entries,
      entry ∈ store.entries := fun _ _ member => PeerStore.prune_entries member
  apply Ensures.bind ((readStore_working issues pruned).returns fun _ after => after.1)
  intro peers
  apply Ensures.ite
  · intro _
    apply Ensures.bind ((closestGood_ensures issued.noting env key).raises
      fun _ _ after => after.1)
    intro contacts
    apply Ensures.raiseBind
    · intro raw fitted
      apply Ensures.pure
      rintro node ⟨⟨work, given⟩, closest⟩
      refine ⟨work, fun listed found => ?_, fun told found => ?_⟩
      · rw [Message.get?_set_self, asBytes_bytes, Option.some.injEq] at found
        exact found ▸ fitNodes_advertised closest fitted
      · rw [Message.get?_set_ne (by decide)] at found
        have same : token = told := Option.some.inj found
        exact ⟨rfl, same ▸ given⟩
    · rintro fault _ node after
      exact after.1.1
  · intro _
    apply Ensures.raiseBind
    · intro values _
      apply Ensures.pure
      rintro node ⟨work, given⟩
      refine ⟨work, fun listed found => ?_, fun told found => ?_⟩
      · rw [Message.get?_set_ne (by decide)] at found
        simp [Message.get?, Dict.get?, Value.asBytes, ascii] at found
      · rw [Message.get?_set_ne (by decide)] at found
        have same : token = told := Option.some.inj found
        exact ⟨rfl, same ▸ given⟩
    · rintro fault _ node after
      exact after.1

/-- The store and the candidates are what they were. -/
def Untouched (start node : DHTNode) : Prop :=
  node.peerStore = start.peerStore ∧ node.candidates = start.candidates

/-- The token check of an announcement succeeds. -/
def Passes (env : Environment) (node : DHTNode) (ip : String) (token : Option Bytes) : Prop :=
  ∃ next, tokenValid env ip token node = .ok true next

/-- What an announcement may do to a node. -/
def Announced (env : Environment) (start : DHTNode) (ip : String) (token : Option Bytes)
    (node : DHTNode) : Prop :=
  Working env start (fun entry => entry.2.1.1 = ip ∧ Passes env start ip token) node ∧
    (¬ Passes env start ip token → Untouched start node)

theorem untouched_idle (env : Environment) (start : DHTNode)
    (added : Bytes × Endpoint × Int → Prop) :
    Idle fun node => Working env start added node ∧ Untouched start node where
  ticks node holds := ⟨(Working.quiet env start added).ticks node holds.1, holds.2⟩
  emitted node emitted holds :=
    ⟨(Working.quiet env start added).emitted node emitted holds.1, holds.2⟩

theorem tokenValid_ensures (env : Environment) (ip : String) (token : Option Bytes)
    (start : DHTNode) (added : Bytes × Endpoint × Int → Prop) :
    Ensures (· = start) (tokenValid env ip token)
      (fun _ node => Working env start added node ∧ Untouched start node)
      (fun _ node => Working env start added node ∧ Untouched start node) := by
  have refl : Working env start added start ∧ Untouched start start :=
    ⟨Working.refl env start added, rfl, rfl⟩
  have idle : Idle fun node => (Working env start added node ∧ Untouched start node) ∧
      node.tokens = start.tokens :=
    { ticks := fun node holds => ⟨(untouched_idle env start added).ticks node holds.1, holds.2⟩
      emitted := fun node emitted holds =>
        ⟨(untouched_idle env start added).emitted node emitted holds.1, holds.2⟩ }
  cases token with
  | none =>
      apply Ensures.pure
      rintro node rfl
      exact refl
  | some token =>
      have begin : ∀ node, node = start → (Working env start added node ∧
          Untouched start node) ∧ node.tokens = start.tokens := by
        rintro node rfl
        exact ⟨refl, rfl⟩
      apply Ensures.bind ((idle.reading env fun node holds => holds.1.1.ticks).weaken begin
        (fun _ _ holds => holds) fun _ _ holds => holds.1)
      intro due
      apply Ensures.bind (((idle.withReading due).monotonicNs env).returns
        fun _ holds => holds.1.1)
      intro now
      apply Ensures.zoom
      rintro node ⟨⟨⟨work, untouched⟩, same⟩, tick, lower, upper, rfl⟩
      have turned : ∀ next, next = node.tokens ∨
          TokenManager.rotateIfDue env (env.monotonicNs tick) node.tokens = .ok next →
          Working env start added { node with tokens := next } := by
        rintro next (rfl | rotated)
        · exact { work with }
        · rw [same] at rotated
          exact { work with tokens := .inr ⟨tick, lower, upper, rotated⟩ }
      apply (TokenManager.validate_ensures env _ now ip token node.tokens).weaken
        (fun _ holds => holds)
      · exact fun _ next holds => ⟨turned next (.inr holds.1), untouched⟩
      · exact fun _ next holds => ⟨turned next holds, untouched⟩

/-- A token that passes was checked against the two secrets after a rotation
that may have been due. -/
theorem Passes.valid {node : DHTNode} {ip : String} {token : Option Bytes}
    (passes : Passes env node ip token) : ∃ given next, token = some given ∧
      TokenManager.rotateIfDue env (env.monotonicNs node.ticks) node.tokens = .ok next ∧
      TokenManager.Valid env (env.monotonicNs (node.ticks + 1)) ip given next := by
  rcases passes with ⟨after, ran⟩
  cases token with
  | none => simp [tokenValid, pure, EStateM.pure] at ran
  | some given =>
      have checked : onTokens (TokenManager.validate env (env.monotonicNs node.ticks)
          (env.monotonicNs (node.ticks + 1)) ip given) { node with ticks := node.ticks + 2 } =
          .ok true after := ran
      have ensures := TokenManager.validate_ensures env (env.monotonicNs node.ticks)
        (env.monotonicNs (node.ticks + 1)) ip given node.tokens node.tokens rfl
      unfold onTokens Effects.zoom at checked
      dsimp only at checked
      split at checked
      · rename_i valid next outcome
        rw [outcome] at ensures
        cases checked
        exact ⟨given, next, rfl, ensures.1, ensures.2 rfl⟩
      · cases checked

theorem Sincere.ofId (env : Environment) (start : DHTNode) (turn : Nat) (node : DHTNode)
    (method : Bytes) (ip : String) (nodeId : Bytes) :
    Sincere env start turn node method ip [(ascii "id", .bytes nodeId)] where
  nodes raw found := by simp [Message.get?, Dict.get?, Value.asBytes, ascii] at found
  token token found := by simp [Message.get?, Dict.get?, Value.asBytes, ascii] at found

/-- Storing a peer adds its announcement only. -/
theorem storePeer_preserves (env : Environment) (key : Bytes) (peer : Endpoint) (implied : Bool)
    (start : DHTNode) (expected : ∀ stamp, added (key, peer, stamp)) :
    Preserves (Working env start added) (storePeer env key peer implied) := by
  have quiet := Working.quiet env start added
  apply Preserves.bind (quiet.monotonicNs env)
  intro now
  apply Preserves.bind (quiet.monotonicNs env)
  intro stamp
  apply Preserves.bind
  · apply Ensures.zoom
    intro node work
    have adds := PeerStore.add_ensures env.config now stamp key peer node.peerStore
    have store : ∀ next : PeerStore, PeerStore.Adds node.peerStore (key, peer, stamp) next →
        Working env start added { node with peerStore := next } := by
      intro next only
      refine { work with store := fun entry member => ?_ }
      rcases only entry member with old | new
      · exact work.store entry old
      · exact .inr (new ▸ expected stamp)
    apply adds.weaken
    · rintro state rfl entry member
      exact .inl member
    · exact fun _ next only => store next only
    · exact fun _ next only => store next only
  · intro _
    exact quiet.submit env key _ _

theorem incomingAnnouncePeer_ensures (env : Environment) (args : Message) (endpoint : Endpoint)
    (msg : Message) (start : DHTNode) :
    Ensures (· = start) (incomingAnnouncePeer env args endpoint msg)
      (fun response node =>
        Announced env start endpoint.1 (Value.asBytes (args.get? "token")) node ∧
          Sincere env start node.ticks node (ascii "announce_peer") endpoint.1 response)
      (fun _ => Announced env start endpoint.1 (Value.asBytes (args.get? "token"))) := by
  generalize given : Value.asBytes (args.get? "token") = token
  have refl : Announced env start endpoint.1 token start :=
    ⟨Working.refl env start _, fun _ => ⟨rfl, rfl⟩⟩
  unfold incomingAnnouncePeer
  rw [given]
  apply Ensures.raiseBind _ fun _ _ _ same => same ▸ refl
  intro key _
  apply Ensures.raiseBind _ fun _ _ _ same => same ▸ refl
  intro portArgument _
  apply Ensures.raiseBind _ fun _ _ _ same => same ▸ refl
  intro implied _
  generalize (if implied = true then endpoint.2 else portArgument) = effectivePort
  let added := fun entry : Bytes × Endpoint × Int =>
    entry.2.1.1 = endpoint.1 ∧ Passes env start endpoint.1 token
  have quietly : Idle fun node => Working env start added node ∧ Untouched start node :=
    untouched_idle env start added
  have checked : Ensures (· = start) (tokenValid env endpoint.1 token)
      (fun valid node => (Working env start added node ∧ Untouched start node) ∧
        (valid = true → Passes env start endpoint.1 token))
      (fun _ => Announced env start endpoint.1 token) :=
    (tokenValid_ensures env endpoint.1 token start added).exactly.weaken (fun _ holds => holds)
      (fun valid node holds => ⟨holds.1, fun yes => ⟨node, yes ▸ holds.2⟩⟩)
      fun _ _ holds => ⟨holds.1.1, fun _ => holds.1.2⟩
  apply Ensures.bind checked
  intro valid
  have emitted : Idle fun node => (Working env start added node ∧ Untouched start node) ∧
      (valid = true → Passes env start endpoint.1 token) :=
    { ticks := fun node holds => ⟨quietly.ticks node holds.1, holds.2⟩
      emitted := fun node emitted holds => ⟨quietly.emitted node emitted holds.1, holds.2⟩ }
  apply Ensures.bind ((emitted.emit _).returns fun _ holds => ⟨holds.1.1, fun _ => holds.1.2⟩)
  intro _
  have refused : Ensures (fun node => (Working env start added node ∧ Untouched start node) ∧
        (valid = true → Passes env start endpoint.1 token))
      (Effects.check valid (PyError.krpcError 203 "Bad token"))
      (fun _ node => Working env start added node ∧ Passes env start endpoint.1 token)
      (fun _ => Announced env start endpoint.1 token) :=
    Ensures.check (fun yes node holds => ⟨holds.1.1, holds.2 yes⟩)
      fun _ node holds => ⟨holds.1.1, fun _ => holds.1.2⟩
  apply Ensures.bind refused
  intro _
  apply Ensures.get
  rintro seen ⟨work, passes⟩
  have announced : ∀ node, Working env start added node →
      Announced env start endpoint.1 token node :=
    fun node holds => ⟨holds, fun fails => absurd passes fails⟩
  have stored : Ensures (· = seen) (Effects.when
      (endpointAllowed env.config seen.localIps endpoint.1 effectivePort)
      (storePeer env key (endpoint.1, effectivePort) implied))
      (fun _ => Announced env start endpoint.1 token)
      (fun _ => Announced env start endpoint.1 token) :=
    (Preserves.when fun _ => storePeer_preserves env key _ implied start
      fun _ => ⟨rfl, passes⟩).ensures (fun _ same => same ▸ work) (fun _ => announced)
      fun _ => announced
  apply Ensures.bind stored
  intro _
  apply Ensures.pure
  intro node holds
  exact ⟨holds, Sincere.ofId env start _ node _ endpoint.1 _⟩

theorem currentSamples_preserves (env : Environment) (keys : List Bytes) (start : DHTNode)
    (added : Bytes × Endpoint × Int → Prop) :
    Preserves (Working env start added) (currentSamples env keys) := by
  apply Preserves.bind ((Working.quiet env start added).monotonicNs env)
  intro now
  apply Preserves.get
  intro node work
  split
  · apply Ensures.pure
    rintro state rfl
    exact work
  · apply Ensures.raiseBind
    · intro sampled _
      apply Ensures.setBind
      intro _
      apply Ensures.pure
      rintro state rfl
      have asked := (Working.quiet env start added).ticks node work
      exact { asked with }
    · rintro fault _ state rfl
      exact work

theorem incomingSampleInfohashes_ensures (env : Environment) (args : Message) (ip : String)
    (start : DHTNode) (added : Bytes × Endpoint × Int → Prop) :
    Ensures (· = start) (incomingSampleInfohashes env args)
      (fun response node => Working env start added node ∧
        Sincere env start node.ticks node (ascii "sample_infohashes") ip response)
      (fun _ => Working env start added) := by
  have refl := Working.refl env start added
  have quiet := Working.quiet env start added
  unfold incomingSampleInfohashes
  apply Ensures.raiseBind _ fun _ _ _ same => same ▸ refl
  intro target _
  have listed : Ensures (· = start) (monotonicNs env) (fun _ => Working env start added)
      (fun _ => Working env start added) :=
    (quiet.monotonicNs env).ensures (fun _ same => same ▸ refl) (fun _ _ holds => holds)
      fun _ _ holds => holds
  apply Ensures.bind listed
  intro now
  have keysRead : Preserves (Working env start added)
      (onPeerStore (modifyGet fun peerStore => peerStore.keys env.config now)) := by
    have pruned : ∀ store : PeerStore, ∀ entry ∈ (store.keys env.config now).2.entries,
        entry ∈ store.entries := fun _ _ member => PeerStore.prune_entries member
    exact (readStore_working (fun _ _ => True) pruned).weaken (fun _ holds => ⟨holds, trivial⟩)
      (fun _ _ holds => holds.1) fun _ _ holds => holds.1
  apply Ensures.bind keysRead
  intro keys
  apply Ensures.bind (currentSamples_preserves env keys start added)
  intro samples
  apply Ensures.get
  intro seen work
  have closest : Ensures (· = seen) (closestGood env target)
      (fun contacts node => Working env start added node ∧
        ∀ contact ∈ contacts, contact ∈ node.routing.allContacts ∧
          ∃ now, contact.state env.config now = .good)
      (fun _ => Working env start added) :=
    (closestGood_ensures quiet.noting env target).weaken (fun _ same => same ▸ work)
      (fun _ _ holds => holds) fun _ _ holds => holds
  apply Ensures.bind closest
  intro contacts
  apply Ensures.raiseBind
  · intro raw fitted
    apply Ensures.raise
    · rintro response trimmed node ⟨after, near⟩
      refine ⟨after, fun listed found => ?_, fun given found => ?_⟩
      · rw [trimSamples_ok trimmed "nodes" (by decide), Message.get?_set_self, asBytes_bytes,
          Option.some.injEq] at found
        exact found ▸ fitNodes_advertised near fitted
      · rw [trimSamples_ok trimmed "token" (by decide), Message.get?_set_ne (by decide)] at found
        simp [Message.get?, Dict.get?, Value.asBytes, ascii] at found
    · rintro fault _ node holds
      exact holds.1
  · rintro fault _ node holds
    exact holds.1

theorem compactClosest_ensures {inv : DHTNode → Prop} (noting : Noting inv) (env : Environment)
    (target : Bytes) :
    Ensures inv (compactClosest env target)
      (fun raw node => inv node ∧ Advertised env.config node.routing raw) (fun _ => inv) := by
  apply Ensures.bind (closestGood_ensures noting env target)
  intro contacts
  apply Ensures.raise
  · rintro raw packed node ⟨holds, near⟩
    rcases compactContacts_ok packed with ⟨packs, all, rfl⟩
    exact ⟨holds, contacts, packs, near, all, rfl⟩
  · rintro fault _ node holds
    exact holds.1

/-- What answering a query with the given method may do to a node. -/
def Replied (env : Environment) (start : DHTNode) (method : Bytes) (args : Message)
    (endpoint : Endpoint) (node : DHTNode) : Prop :=
  let passes := Passes env start endpoint.1 (Value.asBytes (args.get? "token"))
  Working env start (fun entry => method = ascii "announce_peer" ∧ entry.2.1.1 = endpoint.1 ∧
      passes) node ∧
    (method = ascii "announce_peer" → ¬ passes → Untouched start node)

theorem reply_ensures (env : Environment) (method : Bytes) (args : Message)
    (endpoint : Endpoint) (msg : Message) (start : DHTNode) :
    Ensures (· = start) (reply env method args endpoint msg)
      (fun response node => Replied env start method args endpoint node ∧
        ∀ answer, response = some answer →
          Sincere env start node.ticks node method endpoint.1 answer)
      (fun _ => Replied env start method args endpoint) := by
  have refl : Replied env start method args endpoint start :=
    ⟨Working.refl env start _, fun _ _ => ⟨rfl, rfl⟩⟩
  let added := fun entry : Bytes × Endpoint × Int => method = ascii "announce_peer" ∧
    entry.2.1.1 = endpoint.1 ∧
      Passes env start endpoint.1 (Value.asBytes (args.get? "token"))
  have other : method ≠ ascii "announce_peer" → ∀ node, Working env start added node →
      Replied env start method args endpoint node :=
    fun different node work => ⟨work, fun same => absurd same different⟩
  unfold reply
  apply Ensures.get
  rintro seen rfl
  apply Ensures.ite
  · intro _
    apply Ensures.pure
    rintro node rfl
    refine ⟨refl, ?_⟩
    rintro answer ⟨⟩
    exact Sincere.ofId env _ _ node _ endpoint.1 _
  intro _
  apply Ensures.ite
  · intro isFindNode
    have different : method ≠ ascii "announce_peer" := by
      rw [isFindNode]
      decide
    apply Ensures.raiseBind _ fun _ _ _ same => same ▸ refl
    intro target _
    have closest : Ensures (· = seen) (compactClosest env target)
        (fun raw node => Working env seen added node ∧
          Advertised env.config node.routing raw)
        (fun _ => Replied env seen method args endpoint) :=
      (compactClosest_ensures (Working.quiet env seen added).noting env target).weaken
        (fun _ same => same ▸ Working.refl env seen added) (fun _ _ holds => holds)
        fun _ => other different
    apply Ensures.bind closest
    intro raw
    apply Ensures.pure
    rintro node ⟨work, advertised⟩
    refine ⟨other different node work, ?_⟩
    rintro answer ⟨⟩
    refine ⟨fun listed found => ?_, fun given found => ?_⟩
    · have same : raw = listed := Option.some.inj found
      exact same ▸ advertised
    · simp [Message.get?, Dict.get?, Value.asBytes, ascii] at found
  intro _
  apply Ensures.ite
  · intro isGetPeers
    have different : method ≠ ascii "announce_peer" := by
      rw [isGetPeers]
      decide
    apply Ensures.bind ((incomingGetPeers_ensures env args endpoint seen added).raises
      fun _ => other different)
    intro response
    apply Ensures.pure
    rintro node ⟨work, sincere⟩
    refine ⟨other different node work, ?_⟩
    rintro answer ⟨⟩
    exact isGetPeers ▸ sincere
  intro _
  apply Ensures.ite
  · intro isAnnounce
    have announced : ∀ node, Announced env seen endpoint.1
        (Value.asBytes (args.get? "token")) node → Replied env seen method args endpoint node := by
      rintro node ⟨work, untouched⟩
      refine ⟨{ work with store := fun entry member => ?_ }, fun _ => untouched⟩
      exact (work.store entry member).imp_right fun kept => ⟨isAnnounce, kept.1, kept.2⟩
    apply Ensures.bind ((incomingAnnouncePeer_ensures env args endpoint msg seen).raises
      fun _ => announced)
    intro response
    apply Ensures.pure
    rintro node ⟨holds, sincere⟩
    refine ⟨announced node holds, ?_⟩
    rintro answer ⟨⟩
    exact isAnnounce ▸ sincere
  intro _
  apply Ensures.ite
  · rintro ⟨isSampling, _⟩
    have different : method ≠ ascii "announce_peer" := by
      rw [isSampling]
      decide
    apply Ensures.bind ((incomingSampleInfohashes_ensures env args endpoint.1 seen added).raises
      fun _ => other different)
    intro response
    apply Ensures.pure
    rintro node ⟨work, sincere⟩
    refine ⟨other different node work, ?_⟩
    rintro answer ⟨⟩
    exact isSampling ▸ sincere
  · intro _
    apply Ensures.pure
    rintro node rfl
    exact ⟨refl, by simp⟩

end working

end DHTNode

end PyDht
