import PyDht.Krpc
import PyDht.RoutingClosest

set_option autoImplicit false

namespace PyDht

/-- The `shortlist` of a lookup or a sampling round: node IDs, each with the endpoint that its
contact has at present. -/
abbrev Shortlist := List (Bytes × Endpoint)

namespace Shortlist

/-- `{c.node_id: c for c in contacts}`. -/
def ofContacts (contacts : List Contact) : Shortlist :=
  contacts.foldl (fun shortlist contact =>
    Dict.set contact.nodeId (contact.ip, contact.port) shortlist) []

/-- The contacts in the order of their distance to the target; the sort is stable. -/
def ordered (target : Bytes) (shortlist : Shortlist) : Except PyError Shortlist := do
  let keyed ← shortlist.mapM fun contact => return (← xorDistance contact.1 target, contact)
  return (keyed.mergeSort (fun left right => left.1 ≤ right.1)).map Prod.snd

/-- The contacts that have moved have their new endpoints. -/
def relocate (moved : List (Bytes × Endpoint)) (shortlist : Shortlist) : Shortlist :=
  shortlist.map fun contact => (contact.1, (Dict.get? contact.1 moved).getD contact.2)

/-- The nodes of a response go into the table and the shortlist; `readings` has the clock. -/
def takeUp (config : Config) (localIps : List String) (readings : Nat → Int) :
    Nat → List (Bytes × String × Int) → EStateM PyError (RoutingTable × Shortlist) Unit
  | _, [] => pure ()
  | index, (nodeId, ip, port) :: rest => do
      Effects.when (endpointAllowed config localIps ip port) do
        let (routing, shortlist) ← get
        let (routing, candidate) ← Effects.raise
          (routing.observe config (readings index) nodeId ip port {})
        match candidate with
        | none => set (routing, shortlist)
        | some contact => set (routing, Dict.set nodeId (contact.ip, contact.port) shortlist)
      takeUp config localIps readings (index + 1) rest

theorem ordered_perm {target : Bytes} {shortlist contacts : Shortlist}
    (sorted : shortlist.ordered target = .ok contacts) : contacts.Perm shortlist := by
  obtain ⟨keyed, ran, result⟩ := bind_ok_iff.mp sorted
  rw [← pure_ok_iff.mp result, ← RoutingTable.keyed_contacts ran]
  exact (List.mergeSort_perm keyed _).map Prod.snd

theorem keys_relocate (moved : List (Bytes × Endpoint)) (shortlist : Shortlist) :
    Dict.keys (shortlist.relocate moved) = Dict.keys shortlist := by
  simp [relocate, Dict.keys]

end Shortlist

end PyDht
