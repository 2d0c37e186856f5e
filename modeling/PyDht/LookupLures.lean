import PyDht.CompactNodes
import PyDht.LookupRuns
import PyDht.RoutingAnswers
import PyDht.RoutingEntries

set_option autoImplicit false

/-! Responders that keep a lookup going: each node that is asked names the next one, which is closer
to the target than all before it. -/

namespace PyDht

open Effects (Ensures)

/-- So many bytes of a number, the highest one first. -/
def bigEndian : Nat → Nat → Bytes
  | 0, _ => []
  | width + 1, number => bigEndian width (number / 256) ++ [UInt8.ofNat number]

theorem length_bigEndian (width number : Nat) : (bigEndian width number).length = width := by
  induction width generalizing number with
  | zero => rfl
  | succ width ih => rw [bigEndian, List.length_append, ih, List.length_singleton]

theorem fromBytes_concat (front : Bytes) (last : UInt8) :
    fromBytes (front ++ [last]) = last.toNat + 256 * fromBytes front := by
  rw [fromBytes, List.reverse_append, List.reverse_singleton, List.singleton_append, List.map_cons,
    Nat.ofDigits_cons]
  rfl

theorem fromBytes_bigEndian {width number : Nat} (fits : number < 256 ^ width) :
    fromBytes (bigEndian width number) = number := by
  induction width generalizing number with
  | zero =>
      rw [pow_zero] at fits
      have zero : number = 0 := by omega
      rw [zero]
      rfl
  | succ width ih =>
      rw [pow_succ] at fits
      rw [bigEndian, fromBytes_concat, ih (Nat.div_lt_of_lt_mul (by omega)), UInt8.toNat_ofNat']
      omega

/-- The node ID that spells a number. -/
@[irreducible] def numbered (number : Nat) : Bytes := bigEndian DHT_NODE_ID_BYTES number

theorem length_numbered (number : Nat) : (numbered number).length = DHT_NODE_ID_BYTES := by
  unfold numbered
  exact length_bigEndian _ _

theorem fromBytes_numbered {number : Nat} (fits : number < DHT_ID_SPACE) :
    fromBytes (numbered number) = number := by
  unfold numbered
  exact fromBytes_bigEndian fits

theorem numbered_injective {left right : Nat} (first : left < DHT_ID_SPACE)
    (second : right < DHT_ID_SPACE) (same : numbered left = numbered right) : left = right := by
  have spelled := congrArg fromBytes same
  rwa [fromBytes_numbered first, fromBytes_numbered second] at spelled

/-- Where all the luring nodes are. -/
def lureHost : Endpoint := ("9.9.9.9", 6881)

theorem lureHost_allowed (config : Config) :
    endpointAllowed config [] lureHost.1 lureHost.2 = true := by
  have address : ipAddress lureHost.1 = .ok (.v4 9 9 9 9) := by decide +kernel
  unfold endpointAllowed
  rw [if_neg (by decide), address]
  dsimp only
  rw [if_neg (by decide)]
  cases config.allowNonGlobalEndpoints with
  | false => decide
  | true => decide

def lure (number : Nat) : Bytes × Endpoint := (numbered number, lureHost)

def lureContact (number : Nat) : Contact where
  nodeId := numbered number
  ip := lureHost.1
  port := lureHost.2
  firstSeenNs := 0

/-- A table in one bucket; the local ID is zero. -/
def lureTable (numbers : List Nat) : RoutingTable where
  localNodeId := numbered 0
  buckets := [{ low := 0, high := DHT_ID_SPACE, contacts := numbers.map lureContact,
                lastChangedNs := 0 }]

/-- Numbers of nodes: all different, none of them zero. -/
structure Distinct (numbers : List Nat) : Prop where
  once : numbers.Nodup
  positive : ∀ number ∈ numbers, 0 < number
  fits : ∀ number ∈ numbers, number < DHT_ID_SPACE

theorem Distinct.ids {numbers : List Nat} (distinct : Distinct numbers) :
    (numbers.map numbered).Nodup := by
  rw [List.nodup_map_iff_inj_on distinct.once]
  intro left first right second
  exact numbered_injective (distinct.fits left first) (distinct.fits right second)

theorem Distinct.foreign {numbers : List Nat} (distinct : Distinct numbers) {number : Nat}
    (member : number ∈ numbers) : numbered number ≠ numbered 0 := by
  intro same
  have zero := numbered_injective (distinct.fits number member) (by decide) same
  have positive := distinct.positive number member
  omega

theorem lureTable_inv (config : Config) {numbers : List Nat} (distinct : Distinct numbers)
    (few : numbers.length ≤ DHT_K) : RoutingTable.Inv config (lureTable numbers) 0 := by
  refine ⟨length_numbered _, by simp [lureTable, DHT_ID_SPACE], by omega, ?_, ?_⟩
  · intro bucket member
    rw [List.mem_singleton.mp member]
    exact Or.inl rfl
  · intro bucket member
    rw [List.mem_singleton.mp member]
    have ids := distinct.ids
    constructor
    · simpa using few
    · simp
    · simp [Bucket.entries, lureContact, length_numbered]
    · intro contact listed
      obtain ⟨number, named, rfl⟩ := List.mem_map.mp (by simpa [Bucket.entries] using listed)
      simp [Bucket.contains, lureContact, fromBytes_numbered (distinct.fits number named),
        distinct.fits number named]
    · intro contact listed
      obtain ⟨number, named, rfl⟩ := List.mem_map.mp (by simpa [Bucket.entries] using listed)
      exact distinct.foreign named
    · simpa [Bucket.entries, lureContact, Function.comp_def] using ids
    · simp
    · simp
    · simp
    · simp

/-- With a limit that is high enough `closest` returns all contacts, in some order. -/
theorem RoutingTable.closest_perm {config : Config} {table : RoutingTable} {now : Int}
    {target : Bytes} {limit : Nat} {contacts : List Contact}
    (found : table.closest config now target limit false = .ok contacts)
    (enough : table.allContacts.length ≤ limit)
    (writable : ∀ contact ∈ table.allContacts, contact.readOnly = false) :
    contacts.Perm table.allContacts := by
  obtain ⟨keyed, ran, result⟩ := bind_ok_iff.mp found
  have kept : table.allContacts.filter (!·.readOnly) = table.allContacts := by
    rw [List.filter_eq_self]
    intro contact member
    rw [writable contact member]
    rfl
  have listed : keyed.map Prod.snd = table.allContacts := by
    rw [RoutingTable.keyed_contacts ran, kept]
    rfl
  have sorted := (List.mergeSort_perm keyed fun left right => decide (left.1 ≤ right.1)).map Prod.snd
  rw [listed] at sorted
  rw [← pure_ok_iff.mp result, List.take_of_length_le (by rw [sorted.length_eq]; exact enough)]
  exact sorted

/-- Contacts with different IDs make up the shortlist as they come. -/
theorem Shortlist.ofContacts_eq {contacts : List Contact}
    (distinct : (contacts.map Contact.nodeId).Nodup) :
    Shortlist.ofContacts contacts =
      contacts.map fun contact => (contact.nodeId, (contact.ip, contact.port)) := by
  suffices grown : ∀ start : Shortlist, (Dict.keys start ++ contacts.map Contact.nodeId).Nodup →
      contacts.foldl (fun shortlist contact =>
        Dict.set contact.nodeId (contact.ip, contact.port) shortlist) start =
      start ++ contacts.map fun contact => (contact.nodeId, (contact.ip, contact.port)) from
    grown [] distinct
  clear distinct
  induction contacts with
  | nil => exact fun start _ => (List.append_nil start).symm
  | cons contact rest ih =>
      intro start apart
      have absent : contact.nodeId ∉ Dict.keys start := by
        intro member
        exact (List.nodup_append.mp apart).2.2 _ member _ List.mem_cons_self rfl
      rw [List.foldl_cons, Dict.set_new _ absent, ih]
      · rw [List.append_assoc, List.map_cons, List.singleton_append]
      · simpa [Dict.keys] using apart

/-- The lookup for the target zero starts out with the contacts of the table. -/
theorem opening_lures (config : Config) {numbers : List Nat} (distinct : Distinct numbers)
    (few : numbers.length ≤ DHT_K) (reading : Int) :
    ∃ lookup, PeerLookup.opening config (lureTable numbers) reading (numbered 0) = .ok lookup ∧
      lookup.key = numbered 0 ∧ lookup.shortlist.Perm (numbers.map lure) ∧ lookup.peers = [] := by
  have all : (lureTable numbers).allContacts = numbers.map lureContact := List.flatMap_singleton _ _
  obtain ⟨contacts, found⟩ := @RoutingTable.closest_ok config (lureTable numbers)
    (by rw [all]; simp [lureContact, length_numbered, DHT_NODE_ID_BYTES]) reading _
    (length_numbered 0) (max DHT_K config.dhtLookupParallelism.toNat) false
  have perm := RoutingTable.closest_perm found
    (by rw [all, List.length_map]; omega) (by rw [all]; simp [lureContact])
  rw [all] at perm
  have ids : (contacts.map Contact.nodeId).Nodup := by
    rw [(perm.map Contact.nodeId).nodup_iff, List.map_map]
    exact distinct.ids
  refine ⟨{ key := numbered 0, shortlist := Shortlist.ofContacts contacts }, ?_, rfl, ?_, rfl⟩
  · unfold PeerLookup.opening
    dsimp only
    rw [if_neg (by simp [length_numbered, DHT_NODE_ID_BYTES])]
    exact bind_ok_iff.mpr ⟨contacts, found, rfl⟩
  · rw [Shortlist.ofContacts_eq ids]
    have mapped := perm.map fun contact => (contact.nodeId, (contact.ip, contact.port))
    rwa [List.map_map] at mapped

/-- A response that names such nodes. -/
def lures (numbers : List Nat) : Message :=
  [(ascii "nodes", .bytes ((compactNodes (numbers.map lure)).toOption.getD []))]

theorem lures_values (numbers : List Nat) : (lures numbers).get? "values" = none := by
  have apart : ascii "values" ≠ ascii "nodes" := by decide
  simp [lures, Message.get?, Dict.get?, apart.symm]

theorem lureHost_compact : CompactEndpoint lureHost :=
  ⟨⟨9, 9, 9, 9, by decide +kernel⟩, by decide, by decide⟩

theorem returnedContacts_lures (numbers : List Nat) :
    DHTNode.returnedContacts (lures numbers) = numbers.map lure := by
  obtain ⟨data, packed, read⟩ := @compactNodes_reads (numbers.map lure) (by
    intro entry member
    obtain ⟨number, _, rfl⟩ := List.mem_map.mp member
    exact ⟨length_numbered _, lureHost_compact⟩)
  have named : Value.asBytes ((lures numbers).get? "nodes") = some data := by
    simp [lures, packed, Message.get?, Dict.get?, Except.toOption, Value.asBytes]
  unfold DHTNode.returnedContacts
  rw [named, Option.map_some, read]

/-- The contact is where the luring nodes are. -/
def AtHost (contact : Contact) : Prop := (contact.ip, contact.port) = lureHost

theorem AtHost.refresh {contact : Contact} (atHost : AtHost contact) (now : Int)
    (sighting : Sighting) : AtHost (contact.refresh now lureHost.1 lureHost.2 sighting) := by
  unfold AtHost
  rw [RoutingTable.refresh_endpoint]
  split
  · rfl
  · exact atHost

/-- The routing table takes in the node, and has it at its endpoint. -/
def Welcomes (config : Config) (inv : RoutingTable → Prop) (node : Bytes × Endpoint) : Prop :=
  ∀ table now, inv table → ∃ result contact,
    table.observe config now node.1 node.2.1 node.2.2 {} = .ok (result, some contact) ∧
      (contact.ip, contact.port) = node.2 ∧ inv result

/-- What a lookup at the luring nodes finds in its routing table. -/
structure LuringTable (config : Config) (table : RoutingTable) : Prop where
  inv : ∃ depth, RoutingTable.Inv config table depth
  localNodeId : table.localNodeId = numbered 0
  hosted : RoutingTable.Every AtHost table

theorem welcomes_lure {config : Config} (fits : 1 ≤ config.dhtRoutingBadAfterFailures) {number : Nat}
    (foreign : numbered number ≠ numbered 0) :
    Welcomes config (LuringTable config) (lure number) := by
  intro table now luring
  show ∃ result contact, table.observe config now (numbered number) lureHost.1 lureHost.2 {} =
    .ok (result, some contact) ∧ AtHost contact ∧ LuringTable config result
  obtain ⟨⟨depth, inv⟩, sameLocal, hosted⟩ := luring
  have length : (numbered number).length = DHT_NODE_ID_BYTES := length_numbered _
  rw [← sameLocal] at foreign
  obtain ⟨result, found, deeper, observed, kept, keptLocal⟩ :=
    inv.observe fits now (numbered number) lureHost.1 lureHost.2 {}
  have still : LuringTable config result :=
    ⟨⟨deeper, kept⟩, keptLocal.trans sameLocal, hosted.observe
      (fun contact atHost _ => atHost.refresh now {}) (fun _ => rfl) observed⟩
  obtain ⟨front, bucket, back, located⟩ := inv.located length
  cases known : bucket.contacts.find? (·.nodeId = numbered number) with
  | some contact =>
      have refreshed := @RoutingTable.observe_known config _ _ _ _ _ located length foreign _ known
        now lureHost.1 lureHost.2 {}
      rw [refreshed] at observed
      cases observed
      have atHost := hosted bucket located.member contact
        (List.mem_append_left _ (RoutingTable.find_contact known).1)
      exact ⟨_, _, refreshed, atHost.refresh now {}, still⟩
  | none =>
      obtain ⟨settled, final, _, admitted⟩ := inv.observe_new located length foreign known now
        lureHost.1 lureHost.2 {} rfl
      rw [admitted] at observed
      cases observed
      exact ⟨_, _, admitted, rfl, still⟩

/-- New nodes that are allowed and that the routing table takes in join the shortlist. -/
theorem takeUp_new {config : Config} {localIps : List String} {inv : RoutingTable → Prop}
    (readings : Nat → Int) (index : Nat) {nodes : List (Bytes × Endpoint)} {start : Shortlist}
    (allowed : ∀ node ∈ nodes, endpointAllowed config localIps node.2.1 node.2.2 = true)
    (welcome : ∀ node ∈ nodes, Welcomes config inv node)
    (fresh : (Dict.keys start ++ nodes.map Prod.fst).Nodup) :
    Ensures (fun state : RoutingTable × Shortlist => inv state.1 ∧ state.2 = start)
      (Shortlist.takeUp config localIps readings index nodes)
      (fun _ state => state.2 = start ++ nodes) (fun _ _ => False) := by
  induction nodes generalizing index start with
  | nil =>
      refine Ensures.pure fun state holds => ?_
      rw [holds.2]
      exact (List.append_nil start).symm
  | cons node rest ih =>
      obtain ⟨nodeId, ip, port⟩ := node
      obtain ⟨here, later⟩ := List.forall_mem_cons.mp welcome
      have absent : nodeId ∉ Dict.keys start := by
        intro member
        exact (List.nodup_append.mp fresh).2.2 _ member _ List.mem_cons_self rfl
      have further := @ih (index + 1) (start ++ [(nodeId, (ip, port))])
        (List.forall_mem_cons.mp allowed).2 later (by simpa [Dict.keys] using fresh)
      rw [List.append_assoc, List.singleton_append] at further
      refine Ensures.bind (Ensures.when (fun _ => ?_) fun blocked => ?_) fun _ => further
      · apply Ensures.get
        rintro ⟨routing, shortlist⟩ ⟨sane, same⟩
        obtain ⟨table, contact, observed, endpoint, kept⟩ := here routing (readings index) sane
        dsimp only at observed endpoint same ⊢
        rw [observed]
        apply Ensures.raiseBind
        · intro pair found
          cases found
          apply Ensures.set
          intro _ _
          refine ⟨kept, ?_⟩
          rw [same, Dict.set_new _ absent, endpoint]
        · intro fault failed
          cases failed
      · rw [allowed _ List.mem_cons_self] at blocked
        cases blocked

theorem lureTable_luring (config : Config) {numbers : List Nat} (distinct : Distinct numbers)
    (few : numbers.length ≤ DHT_K) : LuringTable config (lureTable numbers) where
  inv := ⟨0, lureTable_inv config distinct few⟩
  localNodeId := rfl
  hosted := by
    intro bucket member contact listed
    rw [List.mem_singleton.mp member] at listed
    obtain ⟨number, _, rfl⟩ := List.mem_map.mp (by simpa [Bucket.entries] using listed)
    rfl

/-- The response of a luring node lengthens the shortlist and leaves the rest of the lookup. -/
theorem gather_lures {config : Config} (fits : 1 ≤ config.dhtRoutingBadAfterFailures)
    {table : RoutingTable} (luring : LuringTable config table) (readings : Nat → Nat → Int)
    {numbers : List Nat} (lookup : PeerLookup)
    (foreign : ∀ number ∈ numbers, numbered number ≠ numbered 0)
    (fresh : (Dict.keys lookup.shortlist ++ numbers.map numbered).Nodup) :
    ∃ routing, PeerLookup.gather config [] readings 0 [some (lures numbers)] (table, lookup) =
      .ok () (routing, { lookup with shortlist := lookup.shortlist ++ numbers.map lure }) := by
  have unmoved : PeerLookup.addResponse config [] (lures numbers) lookup = lookup := by
    unfold PeerLookup.addResponse
    rw [lures_values]
    rfl
  have gathered : Ensures (· = (table, lookup))
      (PeerLookup.gather config [] readings 0 [some (lures numbers)])
      (fun _ state => state.2 = { lookup with
        shortlist := lookup.shortlist ++ numbers.map lure }) (fun _ _ => False) := by
    have added : Ensures (· = (table, lookup))
        (modify fun state => (state.1, PeerLookup.addResponse config [] (lures numbers) state.2))
        (fun _ state => state = (table, lookup)) (fun (_ : PyError) _ => False) := by
      apply Ensures.modify
      rintro _ rfl
      rw [unmoved]
    refine Ensures.bind added fun _ => Ensures.bind (Ensures.zoom ?_) fun _ =>
      Ensures.pure fun _ holds => holds
    rintro _ rfl
    rw [returnedContacts_lures]
    refine (@takeUp_new config [] (LuringTable config) (readings 0) 0 (numbers.map lure)
      lookup.shortlist ?_ ?_ ?_).weaken ?_ ?_ fun _ _ impossible => impossible
    · intro node member
      obtain ⟨number, _, rfl⟩ := List.mem_map.mp member
      exact lureHost_allowed config
    · intro node member
      obtain ⟨number, named, rfl⟩ := List.mem_map.mp member
      exact welcomes_lure fits (foreign number named)
    · rw [List.map_map]
      exact fresh
    · rintro _ rfl
      exact ⟨luring, rfl⟩
    · intro _ state grown
      rw [grown]
  have ensured := gathered (table, lookup) rfl
  cases outcome : PeerLookup.gather config [] readings 0 [some (lures numbers)] (table, lookup) with
  | ok _ state =>
      rw [outcome] at ensured
      exact ⟨state.1, by rw [← ensured]⟩
  | error _ state =>
      rw [outcome] at ensured
      exact ensured.elim

namespace Searching

variable {config : Config} {asked names : List Nat} {low : Nat} {state : Searching}

/-- The call has queried the nodes `asked` and knows those of `names` besides; `low` is one of
these, and no node is closer to the target. -/
structure Lured (asked names : List Nat) (low : Nat) (state : Searching) : Prop where
  deciding : state.phase = .deciding
  key : state.lookup.key = numbered 0
  peers : state.lookup.peers = []
  listed : state.lookup.shortlist.Perm ((asked ++ names).map lure)
  issued : state.issued = asked.map lure
  queried : state.lookup.queried = asked.map numbered
  counted : state.lookup.queryCount = asked.length
  distinct : Distinct (asked ++ names)
  waits : low ∈ names
  lowest : ∀ number ∈ asked ++ names, low ≤ number

theorem Lured.keys (lured : Lured asked names low state) :
    (Dict.keys state.lookup.shortlist).Perm ((asked ++ names).map numbered) := by
  have keys := lured.listed.map Prod.fst
  rwa [List.map_map] at keys

theorem Lured.unqueried (lured : Lured asked names low state) (config : Config) :
    (state.lookup.unqueried config []).Perm (names.map lure) := by
  have apart := (List.nodup_append.mp (List.map_append ▸ lured.distinct.ids)).2.2
  refine (lured.listed.filter _).trans ?_
  rw [List.map_append, List.filter_append, List.filter_eq_nil_iff.mpr, List.filter_eq_self.mpr,
    List.nil_append]
  · intro contact member
    obtain ⟨number, named, rfl⟩ := List.mem_map.mp member
    have fresh : numbered number ∉ asked.map numbered := fun old =>
      apart _ old _ (List.mem_map_of_mem named) rfl
    rw [lured.queried]
    simp [lure, fresh, lureHost_allowed]
  · intro contact member
    obtain ⟨number, old, rfl⟩ := List.mem_map.mp member
    have known : numbered number ∈ asked.map numbered := List.mem_map_of_mem old
    rw [lured.queried]
    simp [lure, known]

/-- The closest node has not been queried yet. -/
theorem Lured.unsettled (lured : Lured asked names low state) {contacts : Shortlist}
    (sorted : state.lookup.shortlist.ordered state.lookup.key = .ok contacts) :
    ¬ state.lookup.Settled contacts := by
  intro settled
  have member : lure low ∈ state.lookup.shortlist :=
    lured.listed.mem_iff.mpr (List.mem_map_of_mem (List.mem_append_right _ lured.waits))
  have distances : ∀ number ∈ asked ++ names,
      Shortlist.distance state.lookup.key (numbered number) = number := by
    intro number known
    rw [lured.key, Shortlist.distance, fromBytes_numbered (lured.distinct.fits number known),
      fromBytes_numbered (by decide), Nat.xor_zero]
  have close : state.lookup.shortlist.closer state.lookup.key (numbered low) < DHT_K := by
    rw [Shortlist.closer, List.filter_eq_nil_iff.mpr]
    · decide
    · intro other inside
      obtain ⟨number, known, rfl⟩ := List.mem_map.mp (lured.listed.mem_iff.mp inside)
      rw [lure, distances number known,
        distances low (List.mem_append_right _ lured.waits), decide_eq_true_eq]
      exact Nat.not_lt.mpr (lured.lowest number known)
  have first := Shortlist.mem_take_of_closer sorted
    (lured.keys.nodup_iff.mpr lured.distinct.ids) member close
  have old : numbered low ∈ state.lookup.queried := settled.2 _ (List.mem_map_of_mem first)
  rw [lured.queried] at old
  exact (List.nodup_append.mp (List.map_append ▸ lured.distinct.ids)).2.2 (numbered low) old
    (numbered low) (List.mem_map_of_mem lured.waits) rfl

/-- The lookup with a batch of queries under way. -/
def sent (frontier : List Bytes) (batch : Shortlist) (lookup : PeerLookup) : PeerLookup :=
  { lookup with
    queried := lookup.queried ++ batch.map Prod.fst
    queryCount := lookup.queryCount + batch.length
    previousFrontier := some frontier
    batch }

/-- All nodes that are known but not queried make up the next batch, if it may be that large. -/
theorem Lured.turn (lured : Lured asked names low state)
    (parallel : (names.length : Int) ≤ config.dhtLookupParallelism)
    (budget : (asked.length : Int) < config.maxDhtQueriesPerTorrent)
    (room : 0 < config.maxPeersPerTorrent) :
    ∃ batch frontier, batch.Perm (names.map lure) ∧ state.turn config [] false =
      { lookup := sent frontier batch state.lookup, phase := .waiting,
        issued := state.issued ++ batch } := by
  have key : state.lookup.key.length = 20 := by
    rw [lured.key]
    exact length_numbered 0
  have lengths : ∀ contact ∈ state.lookup.shortlist, contact.1.length = 20 := by
    intro contact member
    obtain ⟨number, _, rfl⟩ := List.mem_map.mp (lured.listed.mem_iff.mp member)
    exact length_numbered number
  have goes : state.lookup.Goes config false := by
    refine ⟨rfl, ?_, ?_⟩
    · rw [lured.counted]
      exact budget
    · rw [lured.peers]
      exact room
  rcases state.lookup.turn_cases config [] false with
    ⟨halts, _⟩ | ⟨_, error, failed, _⟩ | ⟨_, contacts, sorted, decided⟩
  · exact absurd goes halts
  · obtain ⟨contacts, sorted⟩ := Shortlist.ordered_ok key lengths
    rw [sorted] at failed
    cases failed
  · have perm : (PeerLookup.nextBatch config [] contacts state.lookup.queried).Perm
        (names.map lure) := by
      have left := ((Shortlist.ordered_perm sorted).filter _).trans
        (lured.unqueried config)
      have width := left.length_eq
      rw [List.length_map] at width
      rw [PeerLookup.nextBatch, List.take_of_length_le (by omega)]
      exact left
    rcases decided with ⟨ends, _⟩ | ⟨_, _, sends⟩
    · rcases ends with empty | settled
      · rw [empty] at perm
        have none := List.map_eq_nil_iff.mp perm.symm.eq_nil
        have waits := lured.waits
        rw [none] at waits
        cases waits
      · exact absurd settled (lured.unsettled sorted)
    · refine ⟨_, (contacts.take DHT_K).map Prod.fst, perm, ?_⟩
      rw [Searching.turn, sends]
      rfl

theorem relocate_nil (shortlist : Shortlist) : shortlist.relocate [] = shortlist :=
  List.map_id shortlist

/-- The events of a round in which one node is asked, and names others. -/
def lureRound (table : RoutingTable) (names : List Nat) : List LookupEvent :=
  [.turn false, .gather [] table [some (lures names)] fun _ _ => 0]

/-- Numbers that lie between two others, and the lower one among them. -/
structure Below (low floor : Nat) (names : List Nat) : Prop where
  once : names.Nodup
  positive : 0 < floor
  waits : floor ∈ names
  lowest : ∀ number ∈ names, floor ≤ number
  smaller : ∀ number ∈ names, number < low

theorem Lured.distinct_append (lured : Lured asked [low] low state) {floor : Nat}
    (below : Below low floor names) : Distinct (asked ++ [low] ++ names) := by
  obtain ⟨once, positive, fits⟩ := lured.distinct
  refine ⟨List.nodup_append.mpr ⟨once, below.once, ?_⟩, ?_, ?_⟩
  · intro old known new named same
    have above := lured.lowest old known
    have smaller := below.smaller new named
    omega
  · intro number member
    rcases List.mem_append.mp member with known | named
    · exact positive number known
    · exact Nat.lt_of_lt_of_le below.positive (below.lowest number named)
  · intro number member
    rcases List.mem_append.mp member with known | named
    · exact fits number known
    · exact (below.smaller number named).trans
        (fits low (List.mem_append_right _ List.mem_cons_self))

theorem Lured.lowest_append (lured : Lured asked [low] low state) {floor : Nat}
    (below : Below low floor names) : ∀ number ∈ asked ++ [low] ++ names, floor ≤ number := by
  intro number member
  rcases List.mem_append.mp member with known | named
  · have above := lured.lowest number known
    have smaller := below.smaller floor below.waits
    omega
  · exact below.lowest number named

/-- The node that is asked names others that are closer, and the lookup follows. -/
theorem Lured.round (fits : 1 ≤ config.dhtRoutingBadAfterFailures) {table : RoutingTable}
    (luring : LuringTable config table) (lured : Lured asked [low] low state)
    (parallel : 1 ≤ config.dhtLookupParallelism)
    (budget : (asked.length : Int) < config.maxDhtQueriesPerTorrent)
    (room : 0 < config.maxPeersPerTorrent) {floor : Nat} (below : Below low floor names) :
    ∃ next, Transition.run (step config []) state (lureRound table names) = some next ∧
      Lured (asked ++ [low]) names floor next := by
  obtain ⟨batch, frontier, perm, turned⟩ := lured.turn parallel budget room
  have one : batch = [lure low] := List.perm_singleton.mp perm
  have distinct := lured.distinct_append below
  have fresh : (Dict.keys state.lookup.shortlist ++ names.map numbered).Nodup := by
    have ids := distinct.ids
    rw [List.map_append] at ids
    exact ((lured.keys.append_right _).nodup_iff).mpr ids
  obtain ⟨routing, gathered⟩ := gather_lures fits luring (fun _ _ => 0)
    (sent frontier batch state.lookup)
    (fun number named => distinct.foreign (List.mem_append_right _ named)) fresh
  have gathers : step config [] (state.turn config [] false)
      (.gather [] table [some (lures names)] fun _ _ => 0) = some
        { lookup := { sent frontier batch state.lookup with
            shortlist := state.lookup.shortlist ++ names.map lure }
          phase := .deciding
          issued := state.issued ++ batch } := by
    rw [turned, step, if_pos ⟨rfl, by rw [one]; rfl⟩, gather, relocate_nil]
    dsimp only
    rw [gathered]
    rfl
  refine ⟨_, Transition.run_cons.mpr ⟨_, if_pos lured.deciding,
    Transition.run_cons.mpr ⟨_, gathers, rfl⟩⟩, ?_⟩
  refine ⟨rfl, lured.key, lured.peers, ?_, ?_, ?_, ?_, distinct, below.waits,
    lured.lowest_append below⟩
  · rw [List.map_append]
    exact lured.listed.append_right _
  · rw [one, lured.issued, List.map_append]
    rfl
  · show state.lookup.queried ++ batch.map Prod.fst = _
    rw [one, lured.queried, List.map_append]
    rfl
  · show state.lookup.queryCount + batch.length = _
    rw [one, lured.counted, List.length_append]
    rfl

/-- From a node far out the lookup comes down to the last two nodes, one query for each on its way. -/
theorem Lured.falls (fits : 1 ≤ config.dhtRoutingBadAfterFailures) {table : RoutingTable}
    (luring : LuringTable config table) {height : Nat}
    (lured : Lured asked [height + 3] (height + 3) state)
    (parallel : 1 ≤ config.dhtLookupParallelism)
    (budget : ((asked.length + height + 2 : Nat) : Int) ≤ config.maxDhtQueriesPerTorrent)
    (room : 0 < config.maxPeersPerTorrent) :
    ∃ events next queried, Transition.run (step config []) state events = some next ∧
      (∀ event ∈ events, ∃ names, event ∈ lureRound table names) ∧
      Lured queried [2, 1] 1 next ∧ queried.length = asked.length + height + 1 := by
  induction height generalizing asked state with
  | zero =>
      obtain ⟨next, ran, there⟩ := lured.round fits luring parallel (by omega) room
        (⟨by decide, by decide, by decide, by decide, by decide⟩ : Below 3 1 [2, 1])
      exact ⟨lureRound table [2, 1], next, _, ran, fun event member => ⟨_, member⟩, there,
        by simp⟩
  | succ height ih =>
      have below : Below (height + 1 + 3) (height + 3) [height + 3] :=
        ⟨by simp, by omega, by simp, by simp, by simp⟩
      obtain ⟨next, ran, there⟩ := lured.round fits luring parallel (by omega) room below
      obtain ⟨events, last, queried, further, rounds, ends, count⟩ := ih there (by
        rw [List.length_append, List.length_singleton]
        omega)
      rw [List.length_append, List.length_singleton] at count
      refine ⟨lureRound table [height + 3] ++ events, last, queried,
        Transition.run_append.mpr ⟨next, ran, further⟩, ?_, ends, by omega⟩
      intro event member
      rcases List.mem_append.mp member with first | later
      · exact ⟨_, first⟩
      · exact rounds event later

theorem opening_lured (config : Config) {numbers : List Nat} {low : Nat}
    (distinct : Distinct numbers) (few : numbers.length ≤ DHT_K) (waits : low ∈ numbers)
    (lowest : ∀ number ∈ numbers, low ≤ number) :
    ∃ lookup, PeerLookup.opening config (lureTable numbers) 0 (numbered 0) = .ok lookup ∧
      Lured [] numbers low { lookup } := by
  obtain ⟨lookup, opened, key, listed, peers⟩ := opening_lures config distinct few 0
  have start : Inv config [] { lookup } := opening_inv opened
  refine ⟨lookup, opened, rfl, key, peers, listed, rfl, start.queried, start.counted, distinct,
    waits, lowest⟩

/-- With two nodes left and one query to go both are asked. -/
theorem Lured.beyond (lured : Lured asked [2, 1] 1 state)
    (parallel : 2 ≤ config.dhtLookupParallelism) (room : 0 < config.maxPeersPerTorrent)
    (last : (asked.length : Int) + 1 = config.maxDhtQueriesPerTorrent) :
    step config [] state (.turn false) = some (state.turn config [] false) ∧
      config.maxDhtQueriesPerTorrent < (state.turn config [] false).issued.length := by
  refine ⟨if_pos lured.deciding, ?_⟩
  obtain ⟨batch, frontier, perm, turned⟩ := lured.turn parallel (by omega) room
  rw [turned, List.length_append, perm.length_eq, lured.issued]
  simp only [List.length_map, List.length_cons, List.length_nil]
  omega

/-- Two queries at a time go beyond any budget that does not cover the whole ID space. -/
theorem lured_beyond (config : Config) (fits : 1 ≤ config.dhtRoutingBadAfterFailures)
    (parallel : 2 ≤ config.dhtLookupParallelism) (room : 0 < config.maxPeersPerTorrent)
    (positive : 0 < config.maxDhtQueriesPerTorrent)
    (small : config.maxDhtQueriesPerTorrent + 1 < DHT_ID_SPACE) :
    ∃ table lookup events state, LuringTable config table ∧
      PeerLookup.opening config table 0 (numbered 0) = .ok lookup ∧
      (∀ event ∈ events, event = .turn false ∨ ∃ names, event ∈ lureRound table names) ∧
      Transition.run (step config []) { lookup } events = some state ∧
      config.maxDhtQueriesPerTorrent < state.issued.length := by
  by_cases one : config.maxDhtQueriesPerTorrent = 1
  · have distinct : Distinct [2, 1] := ⟨by decide, by decide, by simp [DHT_ID_SPACE]⟩
    obtain ⟨lookup, opened, lured⟩ :=
      opening_lured config distinct (by decide) (by decide : 1 ∈ [2, 1]) (by decide)
    obtain ⟨taken, beyond⟩ := lured.beyond parallel room (by rw [one]; rfl)
    refine ⟨lureTable [2, 1], lookup, [.turn false], _, lureTable_luring config distinct (by decide),
      opened, by simp, Transition.run_cons.mpr ⟨_, taken, rfl⟩, beyond⟩
  · obtain ⟨height, enough⟩ := Int.eq_ofNat_of_zero_le
      (show 0 ≤ config.maxDhtQueriesPerTorrent - 2 by omega)
    have distinct : Distinct [height + 3] :=
      ⟨by simp, by simp, by simp only [List.mem_singleton, forall_eq]; omega⟩
    have few : [height + 3].length ≤ DHT_K := by simp [DHT_K]
    have luring := lureTable_luring config distinct few
    obtain ⟨lookup, opened, lured⟩ :=
      opening_lured config distinct few List.mem_cons_self (by simp)
    obtain ⟨events, state, queried, ran, rounds, there, count⟩ :=
      lured.falls fits luring (by omega) (by simp; omega) room
    obtain ⟨taken, beyond⟩ := there.beyond parallel room (by
      rw [count, List.length_nil]
      omega)
    refine ⟨lureTable [height + 3], lookup, events ++ [.turn false], _, luring, opened, ?_,
      Transition.run_concat.mpr ⟨state, ran, taken⟩, beyond⟩
    intro event member
    rcases List.mem_append.mp member with early | final
    · exact .inr (rounds event early)
    · exact .inl (List.mem_singleton.mp final)

end Searching

end PyDht
