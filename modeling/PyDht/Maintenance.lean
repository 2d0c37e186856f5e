import PyDht.QueryRuns

set_option autoImplicit false

namespace PyDht

namespace DHTNode

/-- The query of `ping`; the contact may have moved to another endpoint since it was chosen. -/
def pingRequest (contact : Contact) (endpoint : Endpoint) : Request where
  caller := .ping
  endpoint
  method := ascii "ping"
  args := []
  expectedNodeId := some contact.nodeId

/-- `[c for c in .. if c.state() == "QUESTIONABLE"]`; each `state()` reads the clock. -/
def questionable (env : Environment) : Nat → List Contact → List Contact
  | _, [] => []
  | tick, contact :: contacts =>
      if contact.state env.config (env.monotonicNs tick) = .questionable then
        contact :: questionable env (tick + 1) contacts
      else questionable env (tick + 1) contacts

theorem questionable_sublist (env : Environment) (tick : Nat) (contacts : List Contact) :
    (questionable env tick contacts).Sublist contacts := by
  induction contacts generalizing tick with
  | nil => exact .slnil
  | cons contact contacts ih =>
      unfold questionable
      split
      · exact (ih (tick + 1)).cons_cons contact
      · exact (ih (tick + 1)).cons contact

/-- `questionable[:DHT_K]`, the contacts that a round pings. -/
def chosen (env : Environment) (node : DHTNode) : List Contact :=
  (questionable env node.ticks node.routing.allContacts).take DHT_K

theorem chosen_sublist (env : Environment) (node : DHTNode) :
    (node.chosen env).Sublist node.routing.allContacts :=
  (List.take_sublist _ _).trans (questionable_sublist _ _ _)

end DHTNode

/-- The node with the coroutine `maintenance_once`: the contacts that it has still to ping and the
ping that it awaits, if any, as the node ID and the number of the query. `rounds` keeps what each
round has chosen and `ended` the pings that have returned. -/
structure Maintenance where
  system : NodeSystem
  todo : List Contact := []
  pinging : Option (Bytes × Nat) := none
  rounds : List (List Bytes) := []
  ended : List Bytes := []

/-- A round starts to ping once its bootstrap, a query like others, is done. -/
inductive MaintenanceEvent where
  | node (event : NodeEvent)
  | round
  | ping (endpoint : Endpoint)
  | pong

namespace Maintenance

/-- No round is pinging contacts. -/
def Idle (maintenance : Maintenance) : Prop :=
  maintenance.todo = [] ∧ maintenance.pinging = none

instance (maintenance : Maintenance) : Decidable maintenance.Idle :=
  inferInstanceAs (Decidable (maintenance.todo = [] ∧ maintenance.pinging = none))

/-- The coroutine is cancelled while it awaits this query. -/
def cancels (number : Nat) (system : NodeSystem) : NodeEvent → Bool
  | .abandon other | .decline other => decide (other = number)
  | .resume other => decide (other = number) &&
      ((Dict.get? number system.flying).bind Flight.interrupt == some .cancelled)
  | _ => false

/-- One event. A ping that fails returns like one that is answered, a cancelled one takes the
round along. -/
def step (env : Environment) (maintenance : Maintenance) : MaintenanceEvent → Option Maintenance
  | .node event =>
      (maintenance.system.step env event).map fun system =>
        if maintenance.pinging.any fun pinged => cancels pinged.2 maintenance.system event then
          { maintenance with system, todo := [], pinging := none }
        else { maintenance with system }
  | .round =>
      if maintenance.Idle then
        let node := maintenance.system.node
        some { maintenance with
          system := { maintenance.system with
            node := { node with ticks := node.ticks + node.routing.allContacts.length } }
          todo := node.chosen env
          rounds := maintenance.rounds ++ [(node.chosen env).map Contact.nodeId] }
      else none
  | .ping endpoint =>
      match maintenance.pinging, maintenance.todo with
      | none, contact :: todo =>
          let request := DHTNode.pingRequest contact endpoint
          match maintenance.system.node.admitted env request with
          | .error _ => some { maintenance with
              todo, ended := maintenance.ended ++ [contact.nodeId] }
          | .ok () =>
              (maintenance.system.step env (.query request)).map fun system =>
                { maintenance with
                  system, todo, pinging := some (contact.nodeId, maintenance.system.calls) }
      | _, _ => none
  | .pong =>
      match maintenance.pinging with
      | none => none
      | some (nodeId, number) =>
          if number ∈ maintenance.system.active then none
          else some { maintenance with pinging := none, ended := maintenance.ended ++ [nodeId] }

end Maintenance

end PyDht
