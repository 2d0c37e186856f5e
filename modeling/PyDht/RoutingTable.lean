import PyDht.Bytes
import PyDht.Config
import PyDht.Exceptions
import PyDht.Lib.FirstMatch

set_option autoImplicit false

namespace PyDht

def DHT_NODE_ID_BYTES : Nat := 20
def DHT_K : Nat := 8
def DHT_ID_SPACE : Nat := 2 ^ 160

inductive ContactState where
  | bad
  | good
  | questionable
deriving DecidableEq, Repr

structure Contact where
  nodeId : Bytes
  ip : String
  port : Int
  firstSeenNs : Int
  lastResponseNs : Option Int := none
  lastQueryNs : Option Int := none
  failures : Nat := 0
  everResponded : Bool := false
  readOnly : Bool := false
  clientVersion : Option Bytes := none
deriving DecidableEq, Repr

/-- `stamp is not None and now_ns - stamp <= cutoff`. -/
def recent (stamp : Option Int) (nowNs cutoff : Int) : Bool :=
  match stamp with
  | none => false
  | some taken => decide (nowNs - taken ≤ cutoff)

def Contact.state (config : Config) (contact : Contact) (nowNs : Int) : ContactState :=
  if config.dhtRoutingBadAfterFailures ≤ contact.failures then .bad
  else
    let cutoff := nanoseconds config.dhtRoutingGoodTtl
    let responsive := recent contact.lastResponseNs nowNs cutoff
    let queriedUs := recent contact.lastQueryNs nowNs cutoff
    if responsive || (contact.everResponded && queriedUs) then .good else .questionable

structure Bucket where
  low : Nat
  high : Nat
  contacts : List Contact := []
  replacements : List Contact := []
  lastChangedNs : Int
deriving DecidableEq, Repr

def Bucket.contains (bucket : Bucket) (nodeId : Bytes) : Bool :=
  decide (bucket.low ≤ fromBytes nodeId ∧ fromBytes nodeId < bucket.high)

inductive RoutingEvent where
  | bucketSplit
  | nodeCandidate
  | nodeValidated
  | nodeQuestionable
  | nodeAdded
  | nodeRemoved
  | nodeBad
deriving DecidableEq, Repr

/-- The part of a routing record that describes a contact. -/
structure RoutingSubject where
  nodeId : Bytes
  ip : String
  port : Int
  state : ContactState
  previous : Option ContactState
deriving DecidableEq, Repr

structure RoutingRecord where
  event : RoutingEvent
  bucketMin : Nat
  bucketMax : Nat
  bucketLastChangedNs : Int
  subject : Option RoutingSubject
deriving DecidableEq, Repr

/-- The table and, in order, the records it has passed to its event callback. -/
structure RoutingTable where
  localNodeId : Bytes
  buckets : List Bucket
  events : List RoutingRecord := []
deriving DecidableEq, Repr

namespace RoutingTable

/-- `RoutingTable.__init__` at the given clock reading. -/
def new (localNodeId : Bytes) (now : Int) : Except PyError RoutingTable :=
  if localNodeId.length ≠ DHT_NODE_ID_BYTES then
    .error (.valueError "local node ID must be 20 bytes")
  else .ok { localNodeId, buckets := [{ low := 0, high := DHT_ID_SPACE, lastChangedNs := now }] }

def bucketFor (table : RoutingTable) (nodeId : Bytes) : Except PyError Bucket :=
  match table.buckets.find? (·.contains nodeId) with
  | some bucket => .ok bucket
  | none => .error (.assertionError "routing bucket coverage invariant broken")

def emit (config : Config) (now : Int) (event : RoutingEvent) (contact : Option Contact)
    (bucket : Bucket) (previous : Option ContactState) (table : RoutingTable) : RoutingTable :=
  let subject := contact.map fun known =>
    { nodeId := known.nodeId, ip := known.ip, port := known.port,
      state := known.state config now, previous }
  { table with events := table.events ++ [{
      event, bucketMin := bucket.low, bucketMax := bucket.high - 1,
      bucketLastChangedNs := bucket.lastChangedNs, subject }] }

/-- What the table shows after a bucket object has been changed in place. -/
def store (table : RoutingTable) (bucket changed : Bucket) : RoutingTable :=
  { table with buckets := FirstMatch.modify (· = bucket) (fun _ => changed) table.buckets }

/-- The two halves of a bucket with its contacts and, as far as they fit, its
replacements dealt out to them. -/
def halves (bucket : Bucket) (now : Int) : Bucket × Bucket :=
  let midpoint := (bucket.low + bucket.high) / 2
  let left : Bucket := { low := bucket.low, high := midpoint, lastChangedNs := now }
  let right : Bucket := { low := midpoint, high := bucket.high, lastChangedNs := now }
  ({ left with
      contacts := bucket.contacts.filter (left.contains ·.nodeId)
      replacements := (bucket.replacements.filter (left.contains ·.nodeId)).take DHT_K },
   { right with
      contacts := bucket.contacts.filter (!left.contains ·.nodeId)
      replacements := (bucket.replacements.filter (!left.contains ·.nodeId)).take DHT_K })

/-- `RoutingTable._split`. -/
def split (config : Config) (now : Int) (table : RoutingTable) (bucket : Bucket) : RoutingTable :=
  let (left, right) := halves bucket now
  let buckets := FirstMatch.splice (· = bucket) (fun _ => [left, right]) table.buckets
  emit config now .bucketSplit none left none { table with buckets }

def find (table : RoutingTable) (nodeId : Bytes) : Except PyError (Option Contact) := do
  let bucket ← table.bucketFor nodeId
  return bucket.contacts.find? (·.nodeId = nodeId)

end RoutingTable

/-- The keyword arguments of `RoutingTable.observe`. -/
structure Sighting where
  directResponse : Bool := false
  incomingQuery : Bool := false
  readOnly : Bool := false
  clientVersion : Option Bytes := none
deriving DecidableEq, Repr

/-- `seen or known` for optional byte strings: an empty one counts as absent. -/
def orKnown (seen known : Option Bytes) : Option Bytes :=
  match seen with
  | none | some [] => known
  | some (first :: rest) => some (first :: rest)

/-- What `observe` writes into a contact that the bucket already holds. -/
def Contact.refresh (contact : Contact) (now : Int) (ip : String) (port : Int)
    (sighting : Sighting) : Contact :=
  -- A node ID that turns up at another endpoint moves only when it answers from there.
  let moved :=
    if sighting.directResponse ∨ (contact.ip = ip ∧ contact.port = port) then
      { contact with ip, port }
    else contact
  let answered :=
    if sighting.directResponse then
      { moved with lastResponseNs := some now, everResponded := true, failures := 0 }
    else moved
  let asked :=
    if sighting.incomingQuery then { answered with lastQueryNs := some now } else answered
  { asked with
      readOnly := sighting.readOnly
      clientVersion := orKnown sighting.clientVersion asked.clientVersion }

/-- The contact that `observe` makes for a node ID it does not know. -/
def Contact.candidate (nodeId : Bytes) (now : Int) (ip : String) (port : Int)
    (sighting : Sighting) : Contact where
  nodeId
  ip
  port
  firstSeenNs := now
  lastResponseNs := if sighting.directResponse then some now else none
  lastQueryNs := if sighting.incomingQuery then some now else none
  everResponded := sighting.directResponse
  readOnly := sighting.readOnly
  clientVersion := sighting.clientVersion

namespace RoutingTable

/-- Bound on the rounds of the `while` loop in `observe`: a bucket around the
local ID can be halved at most once for each bit of an ID. -/
def splitRounds : Nat := 161

/-- `while len(bucket.contacts) >= DHT_K and bucket.contains(self.local_node_id)`. -/
def splitWhileFull (config : Config) (now : Int) (nodeId : Bytes) :
    Nat → RoutingTable → Bucket → Except PyError (RoutingTable × Bucket)
  | 0, _, _ => .error .stalled
  | rounds + 1, table, bucket =>
      if DHT_K ≤ bucket.contacts.length ∧ bucket.contains table.localNodeId then do
        let table := table.split config now bucket
        let bucket ← table.bucketFor nodeId
        splitWhileFull config now nodeId rounds table bucket
      else .ok (table, bucket)

/-- The branch of `observe` for a contact that the bucket holds. -/
def refresh (config : Config) (now : Int) (table : RoutingTable) (bucket : Bucket)
    (contact : Contact) (ip : String) (port : Int) (sighting : Sighting) : RoutingTable :=
  let refreshed := contact.refresh now ip port sighting
  let changed := { bucket with
    contacts := FirstMatch.modify (·.nodeId = contact.nodeId) (fun _ => refreshed)
      bucket.contacts }
  let stored := table.store bucket changed
  let previous := contact.state config now
  let current := refreshed.state config now
  if current ≠ previous then
    stored.emit config now (if current = .good then .nodeValidated else .nodeQuestionable)
      refreshed changed previous
  else stored

/-- The end of `observe`: the candidate is appended, takes the place of a BAD
contact, or joins the replacement cache. -/
def insertCandidate (config : Config) (now : Int) (table : RoutingTable) (bucket : Bucket)
    (candidate : Contact) : RoutingTable :=
  if bucket.contacts.length < DHT_K then
    let changed := { bucket with
      contacts := bucket.contacts ++ [candidate], lastChangedNs := now }
    (table.store bucket changed).emit config now .nodeAdded candidate changed none
  else
    match bucket.contacts.find? (·.state config now = .bad) with
    | some bad =>
        let changed := { bucket with
          contacts := bucket.contacts.erase bad ++ [candidate], lastChangedNs := now }
        ((table.store bucket changed).emit config now .nodeRemoved bad changed none).emit
          config now .nodeAdded candidate changed none
    | none =>
        if bucket.replacements.all (·.nodeId ≠ candidate.nodeId) then
          let kept :=
            if DHT_K ≤ bucket.replacements.length then bucket.replacements.tail
            else bucket.replacements
          table.store bucket { bucket with replacements := kept ++ [candidate] }
        else table

/-- `RoutingTable.observe` with one clock reading for the whole call. -/
def observe (config : Config) (table : RoutingTable) (now : Int) (nodeId : Bytes) (ip : String)
    (port : Int) (sighting : Sighting) : Except PyError (RoutingTable × Option Contact) :=
  if nodeId.length ≠ DHT_NODE_ID_BYTES ∨ nodeId = table.localNodeId then .ok (table, none)
  else do
    let bucket ← table.bucketFor nodeId
    match bucket.contacts.find? (·.nodeId = nodeId) with
    | some contact =>
        return (table.refresh config now bucket contact ip port sighting,
          some (contact.refresh now ip port sighting))
    | none =>
        let candidate := Contact.candidate nodeId now ip port sighting
        let table := table.emit config now .nodeCandidate candidate bucket none
        if sighting.readOnly then return (table, some candidate)
        let (table, bucket) ← table.splitWhileFull config now nodeId splitRounds bucket
        return (table.insertCandidate config now bucket candidate, some candidate)

/-- The end of `mark_failure`: a contact that is BAD now yields to the newest replacement. -/
def promote (config : Config) (now : Int) (table : RoutingTable) (bucket : Bucket)
    (contact : Contact) : RoutingTable :=
  match bucket.replacements.getLast? with
  | some replacement =>
      let changed := { bucket with
        contacts := bucket.contacts.erase contact ++ [replacement]
        replacements := bucket.replacements.dropLast, lastChangedNs := now }
      ((table.store bucket changed).emit config now .nodeRemoved contact changed none).emit
        config now .nodeAdded replacement changed none
  | none => table

/-- `RoutingTable.mark_failure`. -/
def markFailure (config : Config) (table : RoutingTable) (now : Int) (nodeId : Bytes) :
    Except PyError RoutingTable := do
  match ← table.find nodeId with
  | none => return table
  | some contact =>
      let bucket ← table.bucketFor nodeId
      let failed : Contact := { contact with failures := contact.failures + 1 }
      let changed := { bucket with
        contacts := FirstMatch.modify (·.nodeId = nodeId) (fun _ => failed) bucket.contacts }
      let stored := table.store bucket changed
      let previous := contact.state config now
      let current := failed.state config now
      let reported :=
        if current ≠ previous then
          stored.emit config now (if current = .bad then .nodeBad else .nodeQuestionable)
            failed changed previous
        else stored
      if current = .bad then return reported.promote config now changed failed
      else return reported

def allContacts (table : RoutingTable) : List Contact := table.buckets.flatMap Bucket.contacts

end RoutingTable

/-- `xor_distance`. -/
def xorDistance (left right : Bytes) : Except PyError Nat :=
  if left.length ≠ 20 ∨ right.length ≠ 20 then .error (.valueError "node IDs must be 20 bytes")
  else .ok (fromBytes left ^^^ fromBytes right)

/-- `RoutingTable.closest`; the sort is stable, as Python's is. -/
def RoutingTable.closest (config : Config) (table : RoutingTable) (now : Int) (target : Bytes)
    (limit : Nat) (goodOnly : Bool) : Except PyError (List Contact) := do
  let contacts := table.allContacts.filter (!·.readOnly)
  let contacts := if goodOnly then contacts.filter (·.state config now = .good) else contacts
  let keyed ← contacts.mapM fun contact => return (← xorDistance contact.nodeId target, contact)
  return ((keyed.mergeSort (fun left right => left.1 ≤ right.1)).map Prod.snd).take limit

/-- One record of a routing snapshot with the keys that are read back; `none`
stands for a key that is missing or holds a value of another type. -/
structure SnapshotRecord where
  event : Option String
  localNodeId : Option String := none
  nodeId : Option String := none
  ip : Option String := none
  udpPort : Option Int := none
  routingState : Option ContactState := none
deriving DecidableEq, Repr

namespace RoutingTable

def snapshotRecords (config : Config) (table : RoutingTable) (now : Int) : List SnapshotRecord :=
  { event := some "header", localNodeId := some (hex table.localNodeId) } ::
    table.allContacts.map fun contact =>
      { event := some "contact", nodeId := some (hex contact.nodeId), ip := some contact.ip,
        udpPort := some contact.port, routingState := some (contact.state config now) }

/-- One round of the loop in `restore_contacts`. -/
def restoreRecord (config : Config) (table : RoutingTable) (now : Int)
    (record : SnapshotRecord) : Except PyError RoutingTable :=
  if record.event ≠ some "contact" then .ok table
  else
    match record.nodeId.bind fromHex, record.ip, record.udpPort with
    | some nodeId, some ip, some port =>
        (table.observe config now nodeId ip port {}).map Prod.fst
    | _, _, _ => .ok table

/-- `RoutingTable.restore_contacts`; each record comes with the clock reading of its round. -/
def restoreContacts (config : Config) (table : RoutingTable)
    (records : List (Int × SnapshotRecord)) : Except PyError RoutingTable :=
  records.foldlM (fun table timed => table.restoreRecord config timed.1 timed.2) table

end RoutingTable

end PyDht
