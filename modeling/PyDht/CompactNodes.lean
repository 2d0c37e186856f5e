import PyDht.Krpc

set_option autoImplicit false

namespace PyDht

namespace IPAddress

theorem toNat_asciiChar (byte : UInt8) : (asciiChar byte).toNat = byte.toNat := by
  have small : byte.toNat < 256 := byte.toNat_lt
  have valid : byte.toNat.isValidChar := .inl (by omega)
  unfold asciiChar Char.ofNat
  rw [dif_pos valid]
  rfl

theorem asciiByte_asciiChar (byte : UInt8) : asciiByte (asciiChar byte) = byte := by
  rw [asciiByte, toNat_asciiChar, UInt8.ofNat_toNat]

theorem isDigit_asciiChar {byte : UInt8} (figure : Decimal.isDigit byte = true) :
    (asciiChar byte).isDigit = true := by
  have range := (Decimal.isDigit_iff byte).mp figure
  have spelled := toNat_asciiChar byte
  rw [Char.isDigit, Bool.and_eq_true, decide_eq_true_eq, decide_eq_true_eq]
  constructor
  · exact UInt32.le_iff_toNat_le.mpr (show 48 ≤ (asciiChar byte).toNat by omega)
  · exact UInt32.le_iff_toNat_le.mpr (show (asciiChar byte).toNat ≤ 57 by omega)

/-- A part of an address is read back from its text. -/
theorem parseOctet_octetText (value : UInt8) : parseOctet (octetText value) = some value := by
  have canonical := Decimal.write_canonical value.toNat
  have small : value.toNat < 256 := value.toNat_lt
  have bytes : (octetText value).map asciiByte = Decimal.write value.toNat := by
    rw [octetText, List.map_map]
    have unchanged : (Decimal.write value.toNat).map (asciiByte ∘ asciiChar) =
        (Decimal.write value.toNat).map id :=
      List.map_congr_left fun byte _ => asciiByte_asciiChar byte
    rw [unchanged, List.map_id]
  have length : (octetText value).length = (Decimal.write value.toNat).length := List.length_map _
  have short : (octetText value).length ≤ 3 := by
    rw [length]
    exact Decimal.length_write_le (by omega) (by omega)
  have digits : (octetText value).all Char.isDigit = true := by
    rw [List.all_eq_true]
    intro char member
    obtain ⟨byte, inside, rfl⟩ := List.mem_map.mp member
    exact isDigit_asciiChar (canonical.digits byte inside)
  have noZero : ¬ ((octetText value).head? = some '0' ∧ 1 < (octetText value).length) := by
    intro padded
    have zero : (Decimal.write value.toNat).head? = some 48 := by
      rw [← bytes, List.head?_map, padded.1]
      rfl
    have single := canonical.noLeadingZero zero
    omega
  have nonempty : octetText value ≠ [] := by
    intro empty
    exact canonical.nonempty (List.length_eq_zero_iff.mp (by rw [← length, empty, List.length_nil]))
  unfold parseOctet
  rw [digits, bytes, Decimal.read_write, if_neg (by simp [nonempty]; omega), if_neg noZero,
    if_neg (by omega), UInt8.ofNat_toNat]

theorem dot_not_mem_octetText (value : UInt8) : '.' ∉ octetText value := by
  intro member
  obtain ⟨byte, inside, dot⟩ := List.mem_map.mp member
  have figure := isDigit_asciiChar ((Decimal.write_canonical value.toNat).digits byte inside)
  rw [dot] at figure
  exact absurd figure (by decide)

/-- An IPv4 address is read back from its text. -/
theorem parse_v4Text (first second third fourth : UInt8) :
    parse (v4Text first second third fourth) = some (.v4 first second third fourth) := by
  have parts : (v4Text first second third fourth).toList.splitOn '.' =
      [octetText first, octetText second, octetText third, octetText fourth] := by
    rw [v4Text, String.toList_ofList]
    apply List.splitOn_intercalate
    · simp only [List.forall_mem_cons, List.not_mem_nil, false_implies, implies_true, and_true]
      exact ⟨dot_not_mem_octetText first, dot_not_mem_octetText second,
        dot_not_mem_octetText third, dot_not_mem_octetText fourth⟩
    · exact List.cons_ne_nil _ _
  have read : parseV4 (v4Text first second third fourth).toList =
      some (.v4 first second third fourth) := by
    unfold parseV4
    rw [parts]
    dsimp only
    rw [parseOctet_octetText, parseOctet_octetText, parseOctet_octetText, parseOctet_octetText]
  unfold parse
  rw [read]

end IPAddress

theorem ipAddress_v4Text (first second third fourth : UInt8) :
    ipAddress (IPAddress.v4Text first second third fourth) = .ok (.v4 first second third fourth) := by
  unfold ipAddress
  rw [IPAddress.parse_v4Text]

theorem packUInt16_fromBytes (high low : UInt8) : packUInt16 (fromBytes [high, low]) = [high, low] := by
  have upper : high.toNat < 256 := high.toNat_lt
  have lower : low.toNat < 256 := low.toNat_lt
  have value : fromBytes [high, low] = high.toNat * 256 + low.toNat := by
    simp only [fromBytes, List.reverse_cons, List.reverse_nil, List.nil_append, List.cons_append,
      List.map_cons, List.map_nil, Nat.ofDigits_cons, Nat.ofDigits_nil]
    omega
  have first : (high.toNat * 256 + low.toNat) / 256 = high.toNat := by omega
  have last : (high.toNat * 256 + low.toNat) % 256 = low.toNat := by omega
  rw [value, packUInt16, first, last, UInt8.ofNat_toNat, UInt8.ofNat_toNat]

theorem parseCompactPeer_ok {data : Bytes} {endpoint : Endpoint}
    (read : parseCompactPeer data = .ok endpoint) :
    ∃ first second third fourth high low, data = [first, second, third, fourth, high, low] ∧
      endpoint = (IPAddress.v4Text first second third fourth, (fromBytes [high, low] : Int)) := by
  unfold parseCompactPeer at read
  split at read
  · rename_i first second third fourth high low
    exact ⟨first, second, third, fourth, high, low, rfl, (Except.ok.inj read).symm⟩
  · cases read

/-- Six bytes are made again from the peer that they spell, unless its port is zero. -/
theorem parseCompactPeer_packs {data : Bytes} {endpoint : Endpoint}
    (read : parseCompactPeer data = .ok endpoint) (port : endpoint.2 ≠ 0) :
    compactPeer endpoint = .ok data := by
  obtain ⟨first, second, third, fourth, high, low, rfl, rfl⟩ := parseCompactPeer_ok read
  have small := fromBytes_lt [high, low]
  simp only [List.length_cons, List.length_nil, Nat.reduceAdd, Nat.reducePow] at small
  have range : 1 ≤ (fromBytes [high, low] : Int) ∧ (fromBytes [high, low] : Int) ≤ 65535 := by
    dsimp only at port
    omega
  unfold compactPeer
  dsimp only
  rw [ipAddress_v4Text]
  show (if 1 ≤ (fromBytes [high, low] : Int) ∧ (fromBytes [high, low] : Int) ≤ 65535 then
    Except.ok ([first, second, third, fourth] ++ packUInt16 (fromBytes [high, low])) else _) = _
  rw [if_pos range, packUInt16_fromBytes]
  rfl

theorem parseCompactPeer_total {data : Bytes} (length : data.length = COMPACT_IPV4_PEER_BYTES) :
    ∃ endpoint, parseCompactPeer data = .ok endpoint := by
  obtain _ | ⟨first, _ | ⟨second, _ | ⟨third, _ | ⟨fourth, _ | ⟨high, _ | ⟨low, _ | ⟨more, rest⟩⟩⟩⟩⟩⟩⟩ :=
    data
  all_goals
    first
    | exact ⟨_, rfl⟩
    | simp [COMPACT_IPV4_PEER_BYTES] at length

/-- `b"".join(compact_node(node_id, (ip, port)) for ..)`. -/
def compactNodes : List (Bytes × String × Int) → Except PyError Bytes
  | [] => return []
  | entry :: entries => do
      let packed ← compactNode entry.1 entry.2
      return packed ++ (← compactNodes entries)

/-- What the node makes of contacts in an answer. -/
theorem compactContacts_eq (contacts : List Contact) :
    DHTNode.compactContacts contacts =
      compactNodes (contacts.map fun contact => (contact.nodeId, contact.ip, contact.port)) := by
  induction contacts with
  | nil => rfl
  | cons contact rest ih => rw [DHTNode.compactContacts, ih, List.map_cons, compactNodes]

/-- Nodes that can be packed are read back, in their order. -/
theorem compactNodes_reads {entries : List (Bytes × String × Int)}
    (compact : ∀ entry ∈ entries, CompactNode entry) :
    ∃ data, compactNodes entries = .ok data ∧ parseCompactNodes data = .ok entries := by
  have packed : ∃ packs, compactNodes entries = .ok packs.flatten ∧
      List.Forall₂ Packs entries packs := by
    induction entries with
    | nil => exact ⟨[], rfl, .nil⟩
    | cons entry entries ih =>
        obtain ⟨first, isFirst, here⟩ := (compact entry List.mem_cons_self).packs
        obtain ⟨packs, isRest, rest⟩ := ih fun other member =>
          compact other (List.mem_cons_of_mem _ member)
        refine ⟨first :: packs, ?_, .cons here rest⟩
        rw [compactNodes, isFirst, isRest]
        rfl
  obtain ⟨packs, isPacked, all⟩ := packed
  exact ⟨packs.flatten, isPacked, parseCompactNodes_flatten all⟩

/-- Entry by entry, what a list of slices spells is packed again into their concatenation. -/
theorem slices_pack {data : Bytes} {entries : List (Bytes × String × Int)} {count : Nat}
    (length : data.length = count * COMPACT_IPV4_NODE_BYTES)
    (read : ((slices COMPACT_IPV4_NODE_BYTES count data).mapM fun part =>
      return (part.take 20, ← parseCompactPeer (part.drop 20))) = Except.ok entries)
    (ports : ∀ entry ∈ entries, entry.2.2 ≠ 0) : compactNodes entries = .ok data := by
  induction count generalizing data entries with
  | zero =>
      have empty : data = [] := List.length_eq_zero_iff.mp (by omega)
      rw [slices, List.mapM_nil] at read
      rw [← pure_ok_iff.mp read, empty]
      rfl
  | succ count ih =>
      have long : COMPACT_IPV4_NODE_BYTES ≤ data.length := by
        rw [length, Nat.succ_mul]
        omega
      rw [slices, List.mapM_cons] at read
      obtain ⟨first, isFirst, read⟩ := bind_ok_iff.mp read
      obtain ⟨rest, isRest, read⟩ := bind_ok_iff.mp read
      obtain ⟨endpoint, isEndpoint, same⟩ := bind_ok_iff.mp isFirst
      rw [← pure_ok_iff.mp same] at read
      rw [← pure_ok_iff.mp read] at ports ⊢
      have packed := parseCompactPeer_packs isEndpoint (ports _ List.mem_cons_self)
      have shorter : (data.drop COMPACT_IPV4_NODE_BYTES).length =
          count * COMPACT_IPV4_NODE_BYTES := by
        rw [List.length_drop, length, Nat.succ_mul]
        omega
      have further := ih shorter isRest fun entry member =>
        ports entry (List.mem_cons_of_mem _ member)
      have nodeId : ((data.take COMPACT_IPV4_NODE_BYTES).take 20).length = 20 := by
        rw [List.length_take, List.length_take, COMPACT_IPV4_NODE_BYTES] at *
        omega
      rw [compactNodes, further]
      dsimp only
      have node : compactNode ((data.take COMPACT_IPV4_NODE_BYTES).take 20) endpoint =
          .ok (data.take COMPACT_IPV4_NODE_BYTES) := by
        simp only [compactNode, nodeId, ne_eq, not_true_eq_false, if_false, packed]
        show Except.ok (List.take 20 _ ++ List.drop 20 _) = _
        rw [List.take_append_drop]
      rw [node]
      show Except.ok (data.take COMPACT_IPV4_NODE_BYTES ++ data.drop COMPACT_IPV4_NODE_BYTES) = _
      rw [List.take_append_drop]

/-- A byte string that is read is made again from its nodes, unless a port is zero. -/
theorem parseCompactNodes_packs {data : Bytes} {entries : List (Bytes × String × Int)}
    (read : parseCompactNodes data = .ok entries) (ports : ∀ entry ∈ entries, entry.2.2 ≠ 0) :
    compactNodes entries = .ok data := by
  unfold parseCompactNodes at read
  split at read
  · cases read
  · rename_i whole
    have length : data.length = data.length / COMPACT_IPV4_NODE_BYTES * COMPACT_IPV4_NODE_BYTES := by
      rw [Nat.div_mul_cancel (Nat.dvd_of_mod_eq_zero (not_not.mp whole))]
    exact slices_pack length read ports

theorem parseCompactNodes_rejects {data : Bytes}
    (length : data.length % COMPACT_IPV4_NODE_BYTES ≠ 0) :
    parseCompactNodes data = .error (.valueError "invalid compact node list length") := by
  unfold parseCompactNodes
  rw [if_pos length]

/-- Packing and reading are inverse to each other, for lists of nodes and for single peers. -/
theorem compact_roundTrip :
    (∀ entries, (∀ entry ∈ entries, CompactNode entry) →
      ∃ data, compactNodes entries = .ok data ∧ parseCompactNodes data = .ok entries) ∧
    (∀ data entries, parseCompactNodes data = .ok entries →
      (∀ entry ∈ entries, entry.2.2 ≠ 0) → compactNodes entries = .ok data) ∧
    (∀ data : Bytes, data.length % COMPACT_IPV4_NODE_BYTES ≠ 0 →
      ∃ fault, parseCompactNodes data = .error fault) ∧
    (∀ endpoint, CompactEndpoint endpoint → ∃ data, compactPeer endpoint = .ok data ∧
      data.length = COMPACT_IPV4_PEER_BYTES ∧ parseCompactPeer data = .ok endpoint) ∧
    (∀ data : Bytes, data.length = COMPACT_IPV4_PEER_BYTES → fromBytes (data.drop 4) ≠ 0 →
      ∃ endpoint, parseCompactPeer data = .ok endpoint ∧ compactPeer endpoint = .ok data) := by
  refine ⟨fun entries => compactNodes_reads, fun data entries => parseCompactNodes_packs, ?_,
    fun endpoint => compactPeer_reads, ?_⟩
  · intro data length
    exact ⟨_, parseCompactNodes_rejects length⟩
  · intro data length port
    obtain ⟨endpoint, read⟩ := parseCompactPeer_total length
    refine ⟨endpoint, read, parseCompactPeer_packs read ?_⟩
    obtain ⟨first, second, third, fourth, high, low, rfl, rfl⟩ := parseCompactPeer_ok read
    exact fun zero => port (Int.ofNat_eq_zero.mp zero)

/-- Two nodes that are packed and read back, and six bytes that are read and packed again. -/
theorem compact_roundTrip_sample :
    (∃ data, compactNodes [(List.replicate 20 7, "8.8.8.8", 6881),
        (List.replicate 20 9, "1.2.3.4", 65535)] = .ok data ∧
      parseCompactNodes data = .ok [(List.replicate 20 7, "8.8.8.8", 6881),
        (List.replicate 20 9, "1.2.3.4", 65535)]) ∧
    ∃ endpoint, parseCompactPeer [1, 2, 3, 4, 26, 225] = .ok endpoint ∧
      compactPeer endpoint = .ok [1, 2, 3, 4, 26, 225] := by
  have first : CompactNode (List.replicate 20 7, "8.8.8.8", 6881) :=
    ⟨rfl, ⟨8, 8, 8, 8, by decide +kernel⟩, by decide, by decide⟩
  have second : CompactNode (List.replicate 20 9, "1.2.3.4", 65535) :=
    ⟨rfl, ⟨1, 2, 3, 4, by decide +kernel⟩, by decide, by decide⟩
  obtain ⟨nodes, _, _, _, peers⟩ := compact_roundTrip
  refine ⟨nodes _ ?_, peers _ rfl (by decide +kernel)⟩
  simp only [List.forall_mem_cons, List.not_mem_nil, false_implies, implies_true, and_true]
  exact ⟨first, second⟩

end PyDht
