import PyDht.Bytes
import PyDht.Config
import PyDht.Exceptions
import PyDht.Lib.Decimal

set_option autoImplicit false

namespace PyDht

/-- An IP address as text, and a port. -/
abbrev Endpoint := String × Int

instance : LawfulBEq Endpoint := inferInstance

inductive IPAddress where
  | v4 (first second third fourth : UInt8)
  | v6 (packed : Bytes)
deriving DecidableEq, Repr

namespace IPAddress

def packed : IPAddress → Bytes
  | .v4 first second third fourth => [first, second, third, fourth]
  | .v6 packed => packed

def asciiByte (char : Char) : UInt8 := UInt8.ofNat char.toNat

def asciiChar (byte : UInt8) : Char := Char.ofNat byte.toNat

/-- One part of a dotted IPv4 address. -/
def parseOctet (text : List Char) : Option UInt8 :=
  if text = [] ∨ !text.all Char.isDigit ∨ 3 < text.length then none
  else if text.head? = some '0' ∧ 1 < text.length then none
  else if 255 < Decimal.read (text.map asciiByte) then none
  else some (UInt8.ofNat (Decimal.read (text.map asciiByte)))

def parseV4 (text : List Char) : Option IPAddress :=
  match text.splitOn '.' with
  | [first, second, third, fourth] =>
      match parseOctet first, parseOctet second, parseOctet third, parseOctet fourth with
      | some first, some second, some third, some fourth => some (.v4 first second third fourth)
      | _, _, _, _ => none
  | _ => none

def octetText (value : UInt8) : List Char := (Decimal.write value.toNat).map asciiChar

/-- `str(IPv4Address(..))`. -/
def v4Text (first second third fourth : UInt8) : String :=
  String.ofList
    (List.intercalate ['.'] [octetText first, octetText second, octetText third, octetText fourth])

def parseHextet (text : List Char) : Option Nat :=
  if text = [] ∨ 4 < text.length then none
  else text.foldlM (fun value char => (hexValue char).map (16 * value + ·)) 0

/-- A dotted IPv4 address at the end of an IPv6 one stands for two parts. -/
def expandSuffix (parts : List (List Char)) : Option (List (List Char)) :=
  match parts.getLast? with
  | none => some parts
  | some last =>
      if last.contains '.' then
        match parseV4 last with
        | some address =>
            let number := fromBytes address.packed
            some (parts.dropLast ++
              [Nat.toDigits 16 (number / 65536), Nat.toDigits 16 (number % 65536)])
        | none => none
      else some parts

/-- The eight numbers of an IPv6 address; an empty inner part stands for a run of zeros. -/
def hextets (parts : List (List Char)) : Option (List Nat) :=
  let gaps := (List.range parts.length).filter fun place =>
    decide (0 < place ∧ place + 1 < parts.length) && parts[place]? = some []
  match gaps with
  | [] => if parts.length ≠ 8 then none else parts.mapM parseHextet
  | [gap] =>
      let front := parts.take gap
      let back := parts.drop (gap + 1)
      let high := if front = [[]] then [] else front
      let low := if back = [[]] then [] else back
      if 8 ≤ high.length + low.length then none
      else do
        let first ← high.mapM parseHextet
        let last ← low.mapM parseHextet
        return first ++ List.replicate (8 - (high.length + low.length)) 0 ++ last
  | _ => none

/-- The sixteen bytes of an IPv6 address. -/
def parseV6 (text : List Char) : Option Bytes := do
  if text.contains '/' then none
  let address ←
    match text.splitOn '%' with
    | [address] => some address
    | [address, scope] => if scope = [] then none else some address
    | _ => none
  let parts := address.splitOn ':'
  if parts.length < 3 then none
  let parts ← expandSuffix parts
  if 9 < parts.length then none
  let numbers ← hextets parts
  return numbers.flatMap packUInt16

/-- `ipaddress.ip_address`; `none` stands for its `ValueError`. -/
def parse (text : String) : Option IPAddress :=
  match parseV4 text.toList with
  | some address => some address
  | none => (parseV6 text.toList).map .v6

def number (address : IPAddress) : Nat := fromBytes address.packed

/-- `self in network` for IPv4. -/
def inNetwork (address : IPAddress) (network : Bytes × Nat) : Bool :=
  let width := 2 ^ (32 - network.2)
  decide (address.number / width = fromBytes network.1 / width)

def sharedNetwork : Bytes × Nat := ([100, 64, 0, 0], 10)

def multicastNetwork : Bytes × Nat := ([224, 0, 0, 0], 4)

def privateNetworks : List (Bytes × Nat) :=
  [([0, 0, 0, 0], 8), ([10, 0, 0, 0], 8), ([127, 0, 0, 0], 8), ([169, 254, 0, 0], 16),
    ([172, 16, 0, 0], 12), ([192, 0, 0, 0], 24), ([192, 0, 0, 170], 31), ([192, 0, 2, 0], 24),
    ([192, 168, 0, 0], 16), ([198, 18, 0, 0], 15), ([198, 51, 100, 0], 24),
    ([203, 0, 113, 0], 24), ([240, 0, 0, 0], 4), ([255, 255, 255, 255], 32)]

def privateExceptions : List (Bytes × Nat) := [([192, 0, 0, 9], 32), ([192, 0, 0, 10], 32)]

def isPrivate (address : IPAddress) : Bool :=
  privateNetworks.any address.inNetwork && !privateExceptions.any address.inNetwork

def isGlobal (address : IPAddress) : Bool :=
  !address.inNetwork sharedNetwork && !address.isPrivate

def isMulticast (address : IPAddress) : Bool := address.inNetwork multicastNetwork

def isUnspecified (address : IPAddress) : Bool := decide (address.number = 0)

end IPAddress

/-- `ipaddress.ip_address`. -/
def ipAddress (ip : String) : Except PyError IPAddress :=
  match IPAddress.parse ip with
  | some address => .ok address
  | none => .error (.valueError ("\x27" ++ ip ++ "\x27 does not appear to be an IPv4 or IPv6 address"))

/-- `endpoint_allowed`. -/
def endpointAllowed (config : Config) (localIps : List String) (ip : String) (port : Int) : Bool :=
  if ¬ (1 ≤ port ∧ port ≤ 65535) then false
  else
    match ipAddress ip with
    | .error _ | .ok (.v6 _) => false
    | .ok (.v4 first second third fourth) =>
        let address := IPAddress.v4 first second third fourth
        if localIps.contains (IPAddress.v4Text first second third fourth) then false
        else if config.allowNonGlobalEndpoints then
          !(address.isUnspecified || address.isMulticast)
        else address.isGlobal

def COMPACT_IPV4_PEER_BYTES : Nat := 6
def COMPACT_IPV4_NODE_BYTES : Nat := 26
def COMPACT_IPV6_NODE_BYTES : Nat := 38

/-- `compact_peer`. -/
def compactPeer (endpoint : Endpoint) : Except PyError Bytes := do
  match ← ipAddress endpoint.1 with
  | .v4 first second third fourth =>
      if 1 ≤ endpoint.2 ∧ endpoint.2 ≤ 65535 then
        return [first, second, third, fourth] ++ packUInt16 endpoint.2.toNat
      else throw (.valueError "compact peer requires IPv4 and valid port")
  | .v6 _ => throw (.valueError "compact peer requires IPv4 and valid port")

/-- `parse_compact_peer`. -/
def parseCompactPeer : Bytes → Except PyError Endpoint
  | [first, second, third, fourth, high, low] =>
      .ok (IPAddress.v4Text first second third fourth, fromBytes [high, low])
  | _ => .error (.valueError "compact IPv4 peer must be 6 bytes")

/-- `compact_node`. -/
def compactNode (nodeId : Bytes) (endpoint : Endpoint) : Except PyError Bytes := do
  if nodeId.length ≠ 20 then throw (.valueError "node ID must be 20 bytes")
  return nodeId ++ (← compactPeer endpoint)

/-- The first `count` slices of the given size. -/
def slices (size : Nat) : Nat → Bytes → List Bytes
  | 0, _ => []
  | count + 1, data => data.take size :: slices size count (data.drop size)

/-- `parse_compact_nodes(data, 4)`. -/
def parseCompactNodes (data : Bytes) : Except PyError (List (Bytes × String × Int)) :=
  if data.length % COMPACT_IPV4_NODE_BYTES ≠ 0 then
    .error (.valueError "invalid compact node list length")
  else
    (slices COMPACT_IPV4_NODE_BYTES (data.length / COMPACT_IPV4_NODE_BYTES) data).mapM fun part =>
      return (part.take 20, ← parseCompactPeer (part.drop 20))

/-- `parse_compact_nodes(data, 6)`; the code only reports these addresses, so they stay packed. -/
def parseCompactNodes6 (data : Bytes) : Except PyError (List (Bytes × Bytes × Nat)) :=
  if data.length % COMPACT_IPV6_NODE_BYTES ≠ 0 then
    .error (.valueError "invalid compact node list length")
  else
    .ok ((slices COMPACT_IPV6_NODE_BYTES (data.length / COMPACT_IPV6_NODE_BYTES) data).map
      fun part => (part.take 20, (part.drop 20).take 16, fromBytes (part.drop 36)))

namespace IPAddress

theorem asciiChar_asciiByte {char : Char} (figure : char.isDigit = true) :
    asciiChar (asciiByte char) = char := by
  have range : char.toNat < 256 := by
    simp only [Char.isDigit, Bool.and_eq_true, decide_eq_true_eq] at figure
    have upper : char.toNat ≤ 57 := by simpa using UInt32.le_iff_toNat_le.mp figure.2
    omega
  have byte : (UInt8.ofNat char.toNat).toNat = char.toNat := by
    rw [UInt8.toNat_ofNat', Nat.mod_eq_of_lt range]
  rw [asciiChar, asciiByte, byte, Char.ofNat_toNat]

theorem isDigit_asciiByte {char : Char} (figure : char.isDigit = true) :
    Decimal.isDigit (asciiByte char) = true := by
  simp only [Char.isDigit, Bool.and_eq_true, decide_eq_true_eq] at figure
  have lower : 48 ≤ char.toNat := by simpa using UInt32.le_iff_toNat_le.mp figure.1
  have upper : char.toNat ≤ 57 := by simpa using UInt32.le_iff_toNat_le.mp figure.2
  rw [Decimal.isDigit_iff, asciiByte, UInt8.toNat_ofNat']
  omega

theorem canonical_of_digits {text : List Char} (nonempty : text ≠ [])
    (digits : ∀ char ∈ text, char.isDigit = true)
    (noZero : ¬ (text.head? = some '0' ∧ 1 < text.length)) :
    Decimal.Canonical (text.map asciiByte) := by
  refine ⟨by simpa using nonempty, ?_, ?_⟩
  · intro byte member
    rcases List.mem_map.mp member with ⟨char, inside, rfl⟩
    exact isDigit_asciiByte (digits char inside)
  · intro zero
    cases text with
    | nil => simp at nonempty
    | cons char rest =>
        simp only [List.map_cons, List.head?_cons, Option.some.injEq] at zero
        have isZero : char = '0' := by
          have spelled := asciiChar_asciiByte (digits char (by simp))
          rw [zero] at spelled
          exact spelled.symm
        have short : ¬ 1 < (char :: rest).length := fun long => noZero ⟨by simp [isZero], long⟩
        simp only [List.length_cons, List.length_map] at short ⊢
        omega

/-- A part that is read is the only spelling of its value. -/
theorem octetText_of_parseOctet {text : List Char} {value : UInt8}
    (read : parseOctet text = some value) : octetText value = text := by
  unfold parseOctet at read
  split at read
  · simp at read
  · rename_i digits
    simp only [not_or, Bool.not_eq_true, Bool.not_eq_false', List.all_eq_true] at digits
    split at read
    · simp at read
    · rename_i noZero
      split at read
      · simp at read
      · rename_i small
        have spelled := canonical_of_digits digits.1 digits.2.1 noZero
        have number : value.toNat = Decimal.read (text.map asciiByte) := by
          rw [← Option.some.inj read, UInt8.toNat_ofNat']
          omega
        rw [octetText, number, Decimal.write_read spelled, List.map_map]
        have unchanged : text.map (asciiChar ∘ asciiByte) = text.map id :=
          List.map_congr_left fun char member => asciiChar_asciiByte (digits.2.1 char member)
        rw [unchanged, List.map_id]

theorem v4Text_of_parseV4 {text : List Char} {address : IPAddress}
    (read : parseV4 text = some address) :
    ∃ first second third fourth, address = .v4 first second third fourth ∧
      v4Text first second third fourth = String.ofList text := by
  unfold parseV4 at read
  split at read
  · rename_i one two three four parts
    split at read
    · rename_i first second third fourth readFirst readSecond readThird readFourth
      refine ⟨first, second, third, fourth, (Option.some.inj read).symm, ?_⟩
      rw [v4Text, octetText_of_parseOctet readFirst, octetText_of_parseOctet readSecond,
        octetText_of_parseOctet readThird, octetText_of_parseOctet readFourth, ← parts,
        List.intercalate_splitOn]
    · simp at read
  · simp at read

/-- The text of an IPv4 address is determined by the address. -/
theorem text_of_parse {text : String} {first second third fourth : UInt8}
    (read : parse text = some (.v4 first second third fourth)) :
    v4Text first second third fourth = text := by
  unfold parse at read
  split at read
  · rename_i address found
    rcases v4Text_of_parseV4 found with ⟨one, two, three, four, rfl, spelled⟩
    cases read
    rw [spelled, String.ofList_toList]
  · simp at read

end IPAddress

theorem fromBytes_packUInt16 {value : Nat} (small : value < 65536) :
    fromBytes (packUInt16 value) = value := by
  have high : (UInt8.ofNat (value / 256)).toNat = value / 256 := by
    rw [UInt8.toNat_ofNat']
    omega
  have low : (UInt8.ofNat (value % 256)).toNat = value % 256 := by
    rw [UInt8.toNat_ofNat']
    omega
  simp only [fromBytes, packUInt16, List.reverse_cons, List.reverse_nil, List.nil_append,
    List.cons_append, List.map_cons, List.map_nil, high, low, Nat.ofDigits_cons, Nat.ofDigits_nil]
  omega

/-- An allowed endpoint has an IPv4 address and a port that fits in two bytes. -/
theorem endpointAllowed_v4 {config : Config} {localIps : List String} {ip : String} {port : Int}
    (allowed : endpointAllowed config localIps ip port = true) :
    1 ≤ port ∧ port ≤ 65535 ∧ ∃ first second third fourth,
      ipAddress ip = .ok (.v4 first second third fourth) := by
  unfold endpointAllowed at allowed
  split at allowed
  · simp at allowed
  · rename_i range
    refine ⟨by omega, by omega, ?_⟩
    split at allowed
    · simp at allowed
    · simp at allowed
    · rename_i first second third fourth parsed
      exact ⟨first, second, third, fourth, parsed⟩

theorem text_of_ipAddress {ip : String} {first second third fourth : UInt8}
    (parsed : ipAddress ip = .ok (.v4 first second third fourth)) :
    IPAddress.v4Text first second third fourth = ip := by
  unfold ipAddress at parsed
  split at parsed
  · rename_i address read
    cases parsed
    exact IPAddress.text_of_parse read
  · simp at parsed

/-- An IPv4 address, as its text, and a port from 1 on. -/
structure CompactEndpoint (endpoint : Endpoint) : Prop where
  address : ∃ first second third fourth, ipAddress endpoint.1 = .ok (.v4 first second third fourth)
  lower : 1 ≤ endpoint.2
  upper : endpoint.2 ≤ 65535

/-- A peer is read back from its compact form. -/
theorem compactPeer_reads {endpoint : Endpoint} (compact : CompactEndpoint endpoint) :
    ∃ data, compactPeer endpoint = .ok data ∧ data.length = COMPACT_IPV4_PEER_BYTES ∧
      parseCompactPeer data = .ok endpoint := by
  obtain ⟨first, second, third, fourth, parsed⟩ := compact.address
  have lower := compact.lower
  have upper := compact.upper
  have number := fromBytes_packUInt16 (show endpoint.2.toNat < 65536 by omega)
  have port : ((endpoint.2.toNat : Nat) : Int) = endpoint.2 := by omega
  refine ⟨[first, second, third, fourth] ++ packUInt16 endpoint.2.toNat, ?_, rfl, ?_⟩
  · simp [compactPeer, parsed, lower, upper, bind, Except.bind, pure, Except.pure]
  · simp only [packUInt16, List.cons_append, List.nil_append, parseCompactPeer] at number ⊢
    rw [number, text_of_ipAddress parsed, port]

/-- The packed form of a contact is read back as that contact. -/
structure Packs (entry : Bytes × String × Int) (packed : Bytes) : Prop where
  length : packed.length = COMPACT_IPV4_NODE_BYTES
  nodeId : packed.take 20 = entry.1
  endpoint : parseCompactPeer (packed.drop 20) = .ok entry.2

/-- A node ID and an endpoint that can be packed. -/
structure CompactNode (entry : Bytes × String × Int) : Prop where
  nodeId : entry.1.length = 20
  endpoint : CompactEndpoint entry.2

theorem CompactNode.packs {entry : Bytes × String × Int} (compact : CompactNode entry) :
    ∃ packed, compactNode entry.1 entry.2 = .ok packed ∧ Packs entry packed := by
  obtain ⟨data, packed, length, read⟩ := compactPeer_reads compact.endpoint
  have nodeId := compact.nodeId
  refine ⟨entry.1 ++ data, ?_, ?_, ?_, ?_⟩
  · simp [compactNode, packed, nodeId, bind, Except.bind, pure, Except.pure]
  · rw [List.length_append, nodeId, length]
    rfl
  · rw [← nodeId, List.take_left]
  · rw [← nodeId, List.drop_left]
    exact read

theorem compactNode_packs {config : Config} {localIps : List String} {nodeId : Bytes}
    {ip : String} {port : Int} (length : nodeId.length = 20)
    (allowed : endpointAllowed config localIps ip port = true) :
    ∃ packed, compactNode nodeId (ip, port) = .ok packed ∧ Packs (nodeId, ip, port) packed := by
  obtain ⟨lower, upper, address⟩ := endpointAllowed_v4 allowed
  have compact : CompactNode (nodeId, ip, port) := ⟨length, address, lower, upper⟩
  exact compact.packs

theorem slices_cons {size count : Nat} {first rest : Bytes} (length : first.length = size) :
    slices size (count + 1) (first ++ rest) = first :: slices size count rest := by
  simp [slices, ← length]

/-- A list of packed contacts is read back entry by entry. -/
theorem parseCompactNodes_flatten {entries : List (Bytes × String × Int)} {packs : List Bytes}
    (packed : List.Forall₂ Packs entries packs) : parseCompactNodes packs.flatten = .ok entries := by
  have length : packs.flatten.length = packs.length * COMPACT_IPV4_NODE_BYTES := by
    induction packed with
    | nil => rfl
    | cons first rest ih =>
        rw [List.flatten_cons, List.length_append, List.length_cons, first.length, ih, Nat.succ_mul,
          Nat.add_comm]
  have count : packs.flatten.length / COMPACT_IPV4_NODE_BYTES = packs.length := by
    rw [length, Nat.mul_div_cancel _ (by decide)]
  unfold parseCompactNodes
  rw [if_neg (by rw [length, Nat.mul_mod_left]; simp), count]
  clear length count
  induction packed with
  | nil => rfl
  | cons first rest ih =>
      rw [List.flatten_cons, List.length_cons, slices_cons first.length, List.mapM_cons, ih,
        first.nodeId, first.endpoint]
      rfl

end PyDht
