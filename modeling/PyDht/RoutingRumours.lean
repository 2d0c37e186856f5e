import PyDht.RoutingRetention

set_option autoImplicit false

namespace PyDht

/-- A sighting of a node ID, at the clock reading and the endpoint that it comes with. -/
structure Rumour where
  now : Int
  ip : String
  port : Int
  sighting : Sighting
deriving DecidableEq, Repr

/-- The call of `observe` by which a sighting of the node ID reaches the table. -/
def Rumour.call (nodeId : Bytes) (rumour : Rumour) : TableCall :=
  .observe rumour.now nodeId rumour.ip rumour.port rumour.sighting

/-- It is no direct response and comes from another endpoint than the contact's. -/
structure Rumour.Elsewhere (contact : Contact) (rumour : Rumour) : Prop where
  indirect : rumour.sighting.directResponse = false
  endpoint : ¬ (contact.ip = rumour.ip ∧ contact.port = rumour.port)

/-- The filters of `closest`. -/
def Contact.eligible (config : Config) (now : Int) (goodOnly : Bool) (contact : Contact) : Bool :=
  !contact.readOnly && (!goodOnly || decide (contact.state config now = .good))

/-- The contact is where it was, in the state that it was in at every time, and
`closest` treats it as before. -/
structure Contact.Unchanged (config : Config) (contact later : Contact) : Prop where
  ip : later.ip = contact.ip
  port : later.port = contact.port
  state : ∀ now, later.state config now = contact.state config now
  readOnly : later.readOnly = contact.readOnly
  eligible : ∀ now goodOnly,
    later.eligible config now goodOnly = contact.eligible config now goodOnly

/-- A query noted at this time makes no difference to the state: the contact is BAD, it has never
answered, or it has answered no earlier or asked at the same time. -/
def Contact.Deaf (config : Config) (contact : Contact) (now : Int) : Prop :=
  contact.Bad config ∨ contact.everResponded = false ∨ contact.lastQueryNs = some now ∨
    ∃ answered, contact.lastResponseNs = some answered ∧ now ≤ answered ∧
      ∀ asked, contact.lastQueryNs = some asked → asked ≤ answered

/-- The rumour says what is known of the read-only flag, and is no query that would count. -/
structure Rumour.Harmless (config : Config) (contact : Contact) (rumour : Rumour) : Prop where
  readOnly : rumour.sighting.readOnly = contact.readOnly
  deaf : rumour.sighting.incomingQuery = true → contact.Deaf config rumour.now

/-- What two contacts have in common that differ in what a rumour can write. -/
structure Contact.Alike (contact later : Contact) : Prop where
  nodeId : later.nodeId = contact.nodeId
  ip : later.ip = contact.ip
  port : later.port = contact.port
  lastResponse : later.lastResponseNs = contact.lastResponseNs
  failures : later.failures = contact.failures
  everResponded : later.everResponded = contact.everResponded

theorem Contact.state_of_bad {config : Config} {contact : Contact} (bad : contact.Bad config)
    (now : Int) : contact.state config now = .bad :=
  (contact.state_bad_iff config now).mpr bad

theorem Contact.state_good_iff {config : Config} {contact : Contact}
    (sound : ¬ contact.Bad config) (now : Int) :
    contact.state config now = .good ↔
      recent contact.lastResponseNs now (nanoseconds config.dhtRoutingGoodTtl) = true ∨
        contact.everResponded = true ∧
          recent contact.lastQueryNs now (nanoseconds config.dhtRoutingGoodTtl) = true := by
  unfold Contact.Bad at sound
  unfold Contact.state
  rw [if_neg sound]
  dsimp only
  split
  · rename_i good
    simpa using good
  · rename_i questionable
    simpa using questionable

/-- Sound contacts are in the same state once they are GOOD at the same times. -/
theorem Contact.state_congr {config : Config} {contact later : Contact}
    (sound : ¬ contact.Bad config) (stillSound : ¬ later.Bad config) {now : Int}
    (good : later.state config now = .good ↔ contact.state config now = .good) :
    later.state config now = contact.state config now := by
  have notBad := mt (contact.state_bad_iff config now).mp sound
  have laterNotBad := mt (later.state_bad_iff config now).mp stillSound
  cases first : contact.state config now with
  | bad => exact absurd first notBad
  | good => exact good.mpr first
  | questionable =>
      cases second : later.state config now with
      | bad => exact absurd second laterNotBad
      | good =>
          rw [good.mp second] at first
          cases first
      | questionable => rfl

theorem recent_none (now cutoff : Int) : recent none now cutoff = false := rfl

theorem recent_some (taken now cutoff : Int) :
    recent (some taken) now cutoff = true ↔ now ≤ taken + cutoff := by
  simp only [recent, decide_eq_true_eq]
  omega

/-- The state at all times tells whether a later query was heard. -/
theorem Contact.state_eq_iff {config : Config} {contact later : Contact}
    (alike : contact.Alike later) {asked : Int} (query : later.lastQueryNs = some asked) :
    (∀ now, later.state config now = contact.state config now) ↔ contact.Deaf config asked := by
  have same : later.Bad config ↔ contact.Bad config := by
    rw [Contact.Bad, Contact.Bad, alike.failures]
  by_cases bad : contact.Bad config
  · refine iff_of_true (fun now => ?_) (.inl bad)
    rw [Contact.state_of_bad bad, Contact.state_of_bad (same.mpr bad)]
  have stillSound := mt same.mp bad
  by_cases silent : contact.everResponded = false
  · refine iff_of_true (fun now => Contact.state_congr bad stillSound ?_) (.inr (.inl silent))
    rw [Contact.state_good_iff stillSound, Contact.state_good_iff bad, alike.lastResponse,
      alike.everResponded, silent]
    simp
  have responded := Bool.of_not_eq_false silent
  have good (now : Int) : later.state config now = .good ↔
      recent contact.lastResponseNs now (nanoseconds config.dhtRoutingGoodTtl) = true ∨
        now ≤ asked + nanoseconds config.dhtRoutingGoodTtl := by
    rw [Contact.state_good_iff stillSound, alike.lastResponse, alike.everResponded, query,
      recent_some]
    simp [responded]
  have was (now : Int) : contact.state config now = .good ↔
      recent contact.lastResponseNs now (nanoseconds config.dhtRoutingGoodTtl) = true ∨
        recent contact.lastQueryNs now (nanoseconds config.dhtRoutingGoodTtl) = true := by
    rw [Contact.state_good_iff bad]
    simp [responded]
  constructor
  · intro unchanged
    have felt (now : Int) :
        (recent contact.lastResponseNs now (nanoseconds config.dhtRoutingGoodTtl) = true ∨
            now ≤ asked + nanoseconds config.dhtRoutingGoodTtl) ↔
          (recent contact.lastResponseNs now (nanoseconds config.dhtRoutingGoodTtl) = true ∨
            recent contact.lastQueryNs now (nanoseconds config.dhtRoutingGoodTtl) = true) := by
      rw [← good, ← was, unchanged]
    -- The last moments at which the two would count tell them apart.
    have heard := felt (asked + nanoseconds config.dhtRoutingGoodTtl)
    refine .inr (.inr ?_)
    cases answer : contact.lastResponseNs with
    | none =>
        cases known : contact.lastQueryNs with
        | none => simp [answer, known, recent_none] at heard
        | some previous =>
            have missed := felt (previous + nanoseconds config.dhtRoutingGoodTtl)
            simp only [answer, known, recent_some, recent_none, Bool.false_eq_true, false_or]
              at heard missed
            exact .inl (congrArg some (by omega))
    | some answered =>
        cases known : contact.lastQueryNs with
        | none =>
            simp only [answer, known, recent_some, recent_none, Bool.false_eq_true, or_false] at heard
            exact .inr ⟨answered, rfl, by omega, fun previous none => by cases none⟩
        | some previous =>
            have missed := felt (previous + nanoseconds config.dhtRoutingGoodTtl)
            simp only [answer, known, recent_some] at heard missed
            by_cases same : previous = asked
            · exact .inl (congrArg some same)
            · refine .inr ⟨answered, rfl, by omega, fun other isOther => ?_⟩
              cases isOther
              omega
  · intro deaf
    refine fun now => Contact.state_congr bad stillSound ((good now).trans (Iff.trans ?_ (was now).symm))
    obtain isBad | never | again | ⟨answered, answer, after, others⟩ := deaf
    · exact absurd isBad bad
    · exact absurd never silent
    · rw [again, recent_some]
    · rw [answer, recent_some]
      cases known : contact.lastQueryNs with
      | none =>
          simp only [recent_none, Bool.false_eq_true, or_false]
          omega
      | some previous =>
          have before := others previous known
          rw [recent_some]
          omega

theorem Contact.Alike.refl (contact : Contact) : contact.Alike contact :=
  ⟨rfl, rfl, rfl, rfl, rfl, rfl⟩

/-- All that a rumour writes is the flag, the version and, for a query, its time. -/
theorem Contact.Alike.refresh {contact later : Contact} (alike : contact.Alike later)
    {rumour : Rumour} (elsewhere : rumour.Elsewhere contact) :
    contact.Alike (later.refresh rumour.now rumour.ip rumour.port rumour.sighting) ∧
      (later.refresh rumour.now rumour.ip rumour.port rumour.sighting).readOnly =
        rumour.sighting.readOnly ∧
      (later.refresh rumour.now rumour.ip rumour.port rumour.sighting).lastQueryNs =
        if rumour.sighting.incomingQuery then some rumour.now else later.lastQueryNs := by
  obtain ⟨nodeId, ip, port, lastResponse, failures, everResponded⟩ := alike
  obtain ⟨indirect, endpoint⟩ := elsewhere
  unfold Contact.refresh
  rw [ip, port, indirect]
  simp only [endpoint, Bool.false_eq_true, or_self, if_false]
  split <;> exact ⟨⟨nodeId, ip, port, lastResponse, failures, everResponded⟩, trivial, rfl⟩

theorem Contact.Alike.unchanged {config : Config} {contact later : Contact}
    (alike : contact.Alike later) (readOnly : later.readOnly = contact.readOnly)
    (state : ∀ now, later.state config now = contact.state config now) :
    contact.Unchanged config later := by
  refine ⟨alike.ip, alike.port, state, readOnly, fun now goodOnly => ?_⟩
  rw [Contact.eligible, Contact.eligible, readOnly, state]

/-- What the contact is after some rumours have been seen. -/
def Contact.told (contact : Contact) (rumours : List Rumour) : Contact :=
  rumours.foldl (fun later rumour =>
    later.refresh rumour.now rumour.ip rumour.port rumour.sighting) contact

theorem Contact.told_concat (contact : Contact) (rumours : List Rumour) (rumour : Rumour) :
    contact.told (rumours ++ [rumour]) =
      (contact.told rumours).refresh rumour.now rumour.ip rumour.port rumour.sighting := by
  simp [Contact.told]

theorem Contact.told_alike {contact : Contact} {rumours : List Rumour}
    (elsewhere : ∀ rumour ∈ rumours, rumour.Elsewhere contact) :
    contact.Alike (contact.told rumours) := by
  induction rumours using List.reverseRecOn with
  | nil => exact Contact.Alike.refl contact
  | append_singleton rumours rumour ih =>
      rw [Contact.told_concat]
      exact ((ih fun earlier member => elsewhere earlier (List.mem_append_left _ member)).refresh
        (elsewhere rumour (by simp))).1

/-- Harmless rumours leave the contact as it was. -/
theorem Contact.told_unchanged {config : Config} {contact : Contact} {rumours : List Rumour}
    (elsewhere : ∀ rumour ∈ rumours, rumour.Elsewhere contact)
    (harmless : ∀ rumour ∈ rumours, rumour.Harmless config contact) :
    contact.Unchanged config (contact.told rumours) := by
  have flags : (contact.told rumours).readOnly = contact.readOnly ∧
      ((contact.told rumours).lastQueryNs = contact.lastQueryNs ∨
        ∃ asked, (contact.told rumours).lastQueryNs = some asked ∧ contact.Deaf config asked) := by
    induction rumours using List.reverseRecOn with
    | nil => exact ⟨rfl, .inl rfl⟩
    | append_singleton rumours rumour ih =>
        have before (earlier : Rumour) (member : earlier ∈ rumours) :
            earlier ∈ rumours ++ [rumour] := List.mem_append_left _ member
        obtain ⟨-, query⟩ := ih (fun earlier member => elsewhere earlier (before earlier member))
          fun earlier member => harmless earlier (before earlier member)
        have last := harmless rumour (by simp)
        obtain ⟨-, readOnly, asked⟩ :=
          (Contact.told_alike fun earlier member => elsewhere earlier (before earlier member)).refresh
            (elsewhere rumour (by simp))
        rw [Contact.told_concat]
        refine ⟨readOnly.trans last.readOnly, ?_⟩
        rw [asked]
        by_cases incoming : rumour.sighting.incomingQuery = true
        · rw [if_pos incoming]
          exact .inr ⟨rumour.now, rfl, last.deaf incoming⟩
        · rw [if_neg incoming]
          exact query
  have alike := Contact.told_alike elsewhere
  refine alike.unchanged flags.1 ?_
  obtain same | ⟨asked, query, deaf⟩ := flags.2
  · intro now
    rw [Contact.state, Contact.state, alike.failures, alike.lastResponse, alike.everResponded, same]
  · exact (Contact.state_eq_iff alike query).mpr deaf

/-- A rumour behind which the contact is as it was is harmless. -/
theorem Contact.harmless_of_unchanged {config : Config} {contact : Contact}
    {rumours : List Rumour} {rumour : Rumour}
    (elsewhere : ∀ earlier ∈ rumours ++ [rumour], earlier.Elsewhere contact)
    (unchanged : contact.Unchanged config (contact.told (rumours ++ [rumour]))) :
    rumour.Harmless config contact := by
  have alike := Contact.told_alike elsewhere
  obtain ⟨-, readOnly, asked⟩ :=
    (Contact.told_alike fun earlier member =>
      elsewhere earlier (List.mem_append_left _ member)).refresh (elsewhere rumour (by simp))
  rw [← Contact.told_concat] at readOnly asked
  refine ⟨readOnly.symm.trans unchanged.readOnly, fun incoming => ?_⟩
  rw [if_pos incoming] at asked
  exact (Contact.state_eq_iff alike asked).mp unchanged.state

namespace RoutingTable

section rumours

variable {config : Config} {table result : RoutingTable} {depth : Nat}

/-- `observe` of a contact's own node ID writes into the contact. -/
theorem Inv.observe_refreshes (inv : Inv config table depth) {now : Int} {contact : Contact}
    (member : contact ∈ table.allContacts) {ip : String} {port : Int} {sighting : Sighting}
    {found : Option Contact}
    (ran : table.observe config now contact.nodeId ip port sighting = .ok (result, found)) :
    contact.refresh now ip port sighting ∈ result.allContacts := by
  obtain ⟨bucket, inside, present⟩ := List.mem_flatMap.mp member
  have entry : contact ∈ bucket.entries := List.mem_append_left _ present
  have valid := inv.valid bucket inside
  cases inv.observe_effect (valid.idLength contact entry) (valid.notLocal contact entry) ran with
  | refreshed old same exchanged _ =>
      obtain rfl | ⟨-, other⟩ := inv.exchanged_cases exchanged member
      · exact exchanged.mem_new List.mem_cons_self
      · exact absurd same.symm other
  | ignored absent _ _ => exact absurd rfl (absent contact member)
  | added absent _ _ _ => exact absurd rfl (absent contact member)
  | succeeded bad _ absent _ _ _ => exact absurd rfl (absent contact member)
  | cached absent _ _ _ => exact absurd rfl (absent contact member)

theorem Inv.find_eq (inv : Inv config table depth) {contact : Contact}
    (member : contact ∈ table.allContacts) : table.find contact.nodeId = .ok (some contact) := by
  obtain ⟨bucket, inside, present⟩ := List.mem_flatMap.mp member
  have length := (inv.valid bucket inside).idLength contact (List.mem_append_left _ present)
  obtain ⟨front, holder, back, located⟩ := inv.located length
  have here := (inv.mem_contacts_iff located rfl).mp member
  rw [located.find_eq]
  cases found : holder.contacts.find? (·.nodeId = contact.nodeId) with
  | none => simpa using List.find?_eq_none.mp found contact here
  | some other =>
      obtain ⟨there, same⟩ := find_contact found
      have both := List.inj_on_of_nodup_map inv.ids_nodup member
        ((inv.mem_contacts_iff located same).mpr there) same.symm
      rw [both]

/-- Rumours about a contact all reach it. -/
theorem Inv.run_told (validConfig : 1 ≤ config.dhtRoutingBadAfterFailures)
    (rumours : List Rumour) :
    ∀ {table : RoutingTable} {depth : Nat} {contact : Contact}, Inv config table depth →
      contact ∈ table.allContacts →
      ∃ result depth', table.run config (rumours.map (Rumour.call contact.nodeId)) = .ok result ∧
        Inv config result depth' ∧ contact.told rumours ∈ result.allContacts := by
  induction rumours with
  | nil => exact fun inv member => ⟨_, _, rfl, inv, member⟩
  | cons rumour rest ih =>
      intro table depth contact inv member
      obtain ⟨next, found, depth', observed, inv', -⟩ :=
        inv.observe validConfig rumour.now contact.nodeId rumour.ip rumour.port rumour.sighting
      obtain ⟨result, depth'', ran, inv'', reached⟩ := ih inv' (inv.observe_refreshes member observed)
      refine ⟨result, depth'', ?_, inv'', reached⟩
      rw [Contact.refresh_nodeId] at ran
      simpa [RoutingTable.run, Rumour.call, apply, observed, Except.map, bind, Except.bind] using ran

end rumours

/-- Whatever the table and its contact, a run of rumours from elsewhere leaves the contact as it
was throughout, if and only if each of them is harmless. -/
theorem run_rumours_iff (config : Config) (validConfig : 1 ≤ config.dhtRoutingBadAfterFailures)
    (localNodeId : Bytes) (length : localNodeId.length = DHT_NODE_ID_BYTES) (start : Int)
    (earlier : List TableCall)
    (failures : ∀ now nodeId, .markFailure now nodeId ∈ earlier →
      nodeId.length = DHT_NODE_ID_BYTES) :
    ∃ first table, RoutingTable.new localNodeId start = .ok first ∧
      first.run config earlier = .ok table ∧
      ∀ contact ∈ table.allContacts, ∀ rumours : List Rumour,
        (∀ rumour ∈ rumours, rumour.Elsewhere contact) →
        ((∀ seen, seen <+: rumours → ∃ result later,
            table.run config (seen.map (Rumour.call contact.nodeId)) = .ok result ∧
            result.find contact.nodeId = .ok (some later) ∧ contact.Unchanged config later) ↔
          ∀ rumour ∈ rumours, rumour.Harmless config contact) := by
  obtain ⟨first, created, fresh, -⟩ := new_inv config length start
  obtain ⟨table, depth, reached, inv, -⟩ := Inv.run validConfig earlier fresh failures
  refine ⟨first, table, created, reached, fun contact member rumours elsewhere => ?_⟩
  have sees (seen : List Rumour) (part : seen <+: rumours) :
      ∃ result, table.run config (seen.map (Rumour.call contact.nodeId)) = .ok result ∧
        result.find contact.nodeId = .ok (some (contact.told seen)) := by
    obtain ⟨result, depth', ran, inv', present⟩ := Inv.run_told validConfig seen inv member
    have alike := Contact.told_alike fun rumour inside => elsewhere rumour (part.subset inside)
    refine ⟨result, ran, ?_⟩
    rw [← alike.nodeId]
    exact inv'.find_eq present
  constructor
  · intro unchanged rumour inside
    obtain ⟨before, after, rfl⟩ := List.append_of_mem inside
    have part : before ++ [rumour] <+: before ++ rumour :: after := ⟨after, by simp⟩
    obtain ⟨result, later, ran, found, same⟩ := unchanged _ part
    obtain ⟨other, again, told⟩ := sees _ part
    rw [ran] at again
    cases again
    rw [found] at told
    cases told
    exact Contact.harmless_of_unchanged
      (fun earlier member => elsewhere earlier (part.subset member)) same
  · intro harmless seen part
    obtain ⟨result, ran, found⟩ := sees seen part
    exact ⟨result, _, ran, found, Contact.told_unchanged
      (fun rumour inside => elsewhere rumour (part.subset inside))
      fun rumour inside => harmless rumour (part.subset inside)⟩

/-- A contact that has answered from 8.8.8.8. -/
def answeredContact : Contact :=
  { nodeId := List.replicate 20 1, ip := "8.8.8.8", port := 6881, firstSeenNs := 1,
    lastResponseNs := some 1, everResponded := true }

def answeredTable : List TableCall :=
  [.observe 1 (List.replicate 20 1) "8.8.8.8" 6881 { directResponse := true }]

theorem run_rumours_iff_sample :
    ∃ first table result later, RoutingTable.new (List.replicate 20 0) 0 = .ok first ∧
      first.run {} answeredTable = .ok table ∧
      table.run {} [.observe 2 (List.replicate 20 1) "9.9.9.9" 1 {}] = .ok result ∧
      result.find (List.replicate 20 1) = .ok (some later) ∧
      answeredContact.Unchanged {} later := by
  obtain ⟨first, table, created, reached, unmoved⟩ := run_rumours_iff {} (by decide)
    (List.replicate 20 0) rfl 0 answeredTable (by
      intro now nodeId member
      simp [answeredTable] at member)
  have known : answeredContact ∈ table.allContacts := by
    cases created
    cases reached
    exact List.mem_cons_self
  obtain ⟨result, later, ran, found, same⟩ := (unmoved answeredContact known
    [{ now := 2, ip := "9.9.9.9", port := 1, sighting := {} }] (by
      intro rumour member
      rw [List.mem_singleton.mp member]
      exact ⟨rfl, by decide⟩)).mpr (by
      intro rumour member
      rw [List.mem_singleton.mp member]
      exact ⟨rfl, fun incoming => by cases incoming⟩) _ (List.prefix_refl _)
  exact ⟨first, table, result, later, created, reached, ran, found, same⟩

/-- One unverified mention at another endpoint, marked read-only, hides a GOOD contact. -/
theorem hidden_by_rumour :
    ∃ first table result later, RoutingTable.new (List.replicate 20 0) 0 = .ok first ∧
      first.run {} answeredTable = .ok table ∧ answeredContact ∈ table.allContacts ∧
      Rumour.Elsewhere answeredContact
        { now := 2, ip := "9.9.9.9", port := 1, sighting := { readOnly := true } } ∧
      table.run {} [.observe 2 (List.replicate 20 1) "9.9.9.9" 1 { readOnly := true }] =
        .ok result ∧
      result.find (List.replicate 20 1) = .ok (some later) ∧
      answeredContact.eligible {} 3 true = true ∧ later.eligible {} 3 true = false :=
  ⟨_, _, _, _, rfl, rfl, List.mem_cons_self, ⟨rfl, by decide⟩, rfl, rfl, by decide, by decide⟩

end RoutingTable

end PyDht
