import PyDht.Endpoints
import PyDht.PeerSession

set_option autoImplicit false

namespace PyDht

open Effects (Ensures raise)

namespace PeerWire

/-- A message on the connection, with its length in front; `none` is a keep-alive. -/
def wire (message : Option Bytes) : Bytes :=
  packUInt32 (message.getD []).length ++ message.getD []

/-- A message that a length can announce and that the client does not find too long. -/
def Framed (config : Config) (message : Option Bytes) : Prop :=
  ∀ body, message = some body →
    body ≠ [] ∧ (body.length : Int) ≤ config.maxPeerMessageSize ∧ body.length < 2 ^ 32

theorem length_packUInt32 (value : Nat) : (packUInt32 value).length = 4 := rfl

theorem fromBytes_packUInt32 {value : Nat} (small : value < 2 ^ 32) :
    fromBytes (packUInt32 value) = value := by
  have digits : fromBytes (packUInt32 value) =
      65536 * fromBytes (packUInt16 (value / 65536 % 65536)) +
        fromBytes (packUInt16 (value % 65536)) := by
    simp only [fromBytes, packUInt32, packUInt16, List.cons_append, List.nil_append,
      List.reverse_cons, List.reverse_nil, List.map_cons, List.map_nil, Nat.ofDigits_cons,
      Nat.ofDigits_nil]
    omega
  rw [digits, fromBytes_packUInt16 (by omega), fromBytes_packUInt16 (by omega)]
  omega

theorem packUInt32_fromBytes {length : Bytes} (four : length.length = 4) :
    packUInt32 (fromBytes length) = length := by
  have small := fromBytes_lt length
  rw [four] at small
  exact fromBytes_injective four.symm (fromBytes_packUInt32 (by omega))

theorem length_wire (message : Option Bytes) :
    (wire message).length = 4 + (message.getD []).length := by
  rw [wire, List.length_append, length_packUInt32]

/-- The first four bytes say how long the message is. -/
theorem wire_head {config : Config} {message : Option Bytes} {length rest behind : Bytes}
    (framed : Framed config message) (four : length.length = 4)
    (same : length ++ rest = wire message ++ behind) :
    fromBytes length = (message.getD []).length ∧ rest = message.getD [] ++ behind := by
  rw [wire, List.append_assoc] at same
  obtain ⟨rfl, tail⟩ := List.append_inj same four
  refine ⟨fromBytes_packUInt32 ?_, tail⟩
  cases message with
  | none => decide
  | some body => exact (framed body rfl).2.2

end PeerWire

namespace Peer

open PeerWire (Framed wire packUInt32_fromBytes)

/-- A wait for the send buffer ends as the connection says, and touches nothing else. -/
theorem drain_cases (session : PeerSession) :
    (∃ drains, (∀ ending ∈ drains, ending ∈ session.drains) ∧
      drain session = .ok () { session with drains }) ∨
    ∃ fault drains expired, some fault ∈ session.drains ∧
      drain session = .error fault.error { session with drains, expired } := by
  obtain ⟨incoming, ending, waits, written, expired⟩ := session
  cases waits with
  | nil => exact .inl ⟨[], by simp, rfl⟩
  | cons first drains =>
      cases first with
      | none => exact .inl ⟨drains, fun _ later => List.mem_cons_of_mem _ later, rfl⟩
      | some fault => exact .inr ⟨fault, drains, _, List.mem_cons_self, rfl⟩

theorem readExactly_cases (size : Nat) (session : PeerSession) :
    (∃ data rest, data.length = size ∧ session.incoming = data ++ rest ∧
      readExactly size session = .ok data { session with incoming := rest }) ∨
    (session.incoming.length < size ∧ ∃ expired,
      readExactly size session = .error session.ending.error { session with expired }) := by
  by_cases fits : size ≤ session.incoming.length
  · left
    refine ⟨session.incoming.take size, session.incoming.drop size, by simpa using fits,
      (List.take_append_drop size session.incoming).symm, ?_⟩
    show (if size ≤ session.incoming.length then
      (do set { session with incoming := session.incoming.drop size }
          return session.incoming.take size : Peer Bytes) else interrupt session.ending) session = _
    rw [if_pos fits]
    rfl
  · right
    refine ⟨by omega, session.expired || session.ending = .deadline, ?_⟩
    show (if size ≤ session.incoming.length then
      (do set { session with incoming := session.incoming.drop size }
          return session.incoming.take size : Peer Bytes) else interrupt session.ending) session = _
    rw [if_neg fits]
    rfl

/-- A message is read, or there is none to read or it is too long. -/
theorem readMessage_cases (config : Config) (category stage : String) (session : PeerSession) :
    (∃ message rest, Framed config message ∧ session.incoming = wire message ++ rest ∧
      readMessage config category stage session = .ok message { session with incoming := rest }) ∨
    ((∀ message behind, Framed config message → session.incoming ≠ wire message ++ behind) ∧
      ∃ fault incoming expired,
        (fault = session.ending.error ∨
          fault = .peerError category stage "peer message exceeds configured limit") ∧
        readMessage config category stage session =
          .error fault { session with incoming, expired }) := by
  unfold readMessage
  rcases readExactly_cases 4 session with ⟨length, rest, four, data, read⟩ | ⟨short, expired, failed⟩
  · rw [Effects.bind_returns read, data]
    by_cases empty : fromBytes length = 0
    · left
      refine ⟨none, rest, ?_, ?_, ?_⟩
      · intro body same
        cases same
      · rw [← packUInt32_fromBytes four, empty]
        rfl
      · rw [if_pos empty]
        rfl
    rw [if_neg empty]
    by_cases long : config.maxPeerMessageSize < (fromBytes length : Int)
    · right
      rw [if_pos long]
      refine ⟨?_, _, rest, session.expired, .inr rfl, rfl⟩
      intro message behind framed same
      obtain ⟨count, tail⟩ := PeerWire.wire_head framed four same
      cases message with
      | none =>
          rw [count] at empty
          exact empty rfl
      | some body =>
          have allowed := (framed body rfl).2.1
          rw [Option.getD_some] at count
          omega
    rw [if_neg long]
    rcases readExactly_cases (fromBytes length) { session with incoming := rest } with
      ⟨body, behind, count, same, read⟩ | ⟨short, expired, failed⟩
    · left
      refine ⟨some body, behind, ?_, ?_, ?_⟩
      · intro other same
        cases same
        have small := fromBytes_lt length
        rw [four] at small
        refine ⟨fun none => ?_, by omega, by omega⟩
        rw [none] at count
        exact empty count.symm
      · change rest = body ++ behind at same
        rw [same, wire, Option.getD_some, count, packUInt32_fromBytes four, List.append_assoc]
      · rw [Effects.bind_returns read]
        rfl
    · right
      rw [Effects.bind_raises failed]
      refine ⟨?_, _, rest, expired, .inl rfl, rfl⟩
      intro message behind framed same
      obtain ⟨count, tail⟩ := PeerWire.wire_head framed four same
      change rest.length < fromBytes length at short
      rw [count, tail, List.length_append] at short
      omega
  · right
    rw [Effects.bind_raises failed]
    refine ⟨?_, _, session.incoming, expired, .inl rfl, rfl⟩
    intro message behind framed same
    rw [same, List.length_append, PeerWire.length_wire] at short
    omega

end Peer

end PyDht
