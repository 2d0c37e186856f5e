import PyDht.Lib.Transition
import PyDht.QueryTickets

set_option autoImplicit false

namespace PyDht

open Effects (Ensures Preserves)

namespace DHTNode

/-- A property that the books of the node's own queries do not touch, and that only
a finding can break otherwise. -/
structure Unbooked (inv : DHTNode → Prop) : Prop extends Noting inv where
  pending : ∀ node pending, inv node → inv { node with pending }
  pendingSlots : ∀ node pendingSlots, inv node → inv { node with pendingSlots }
  txCounter : ∀ node txCounter, inv node → inv { node with txCounter }
  connected : ∀ node connected, inv node → inv { node with connected }
  closing : ∀ node closing, inv node → inv { node with closing }

/-- A property that the node's own queries do not touch. -/
structure Detached (inv : DHTNode → Prop) : Prop extends Quiet inv where
  pending : ∀ node pending, inv node → inv { node with pending }
  pendingSlots : ∀ node pendingSlots, inv node → inv { node with pendingSlots }
  txCounter : ∀ node txCounter, inv node → inv { node with txCounter }
  connected : ∀ node connected, inv node → inv { node with connected }
  closing : ∀ node closing, inv node → inv { node with closing }

theorem Detached.unbooked {inv : DHTNode → Prop} (detached : Detached inv) : Unbooked inv :=
  { detached.noting with
    pending := detached.pending
    pendingSlots := detached.pendingSlots
    txCounter := detached.txCounter
    connected := detached.connected
    closing := detached.closing }

/-- A property of what a node keeps for others, which the routing table does not
touch either. -/
structure Passive (inv : DHTNode → Prop) : Prop extends Detached inv where
  routing : ∀ node routing, inv node → inv { node with routing }

theorem Passive.aside {inv : DHTNode → Prop} (passive : Passive inv) : Aside inv :=
  { passive.toQuiet with routing := passive.routing }

theorem queryMessage_has_no_response (env : Environment) (node : DHTNode) (tid : Bytes)
    (request : Request) : (queryMessage env node tid request).get? "r" = none := by
  unfold queryMessage
  dsimp only
  split <;> simp [base, Message.get?, Dict.get?, ascii]

namespace Unbooked

variable {inv : DHTNode → Prop} (unbooked : Unbooked inv)
include unbooked

theorem settle (tid : Bytes) (outcome : QueryFuture) (pending : PendingQuery) :
    Preserves inv (settle tid outcome pending) := by
  unfold DHTNode.settle
  split
  · exact Preserves.modify fun node holds => unbooked.pending node _ holds
  · exact Preserves.pure ()

theorem forget (tid : Bytes) : Preserves inv (forget tid) :=
  Preserves.modify fun node holds =>
    unbooked.pendingSlots _ (node.pendingSlots + 1)
      (unbooked.pending node (Dict.pop tid node.pending) holds)

theorem expire (env : Environment) (request : Request) (tid : Bytes)
    (marks : ∀ nodeId, Preserves inv (markFailure env nodeId)) :
    Preserves inv (expire env request tid) := by
  apply Preserves.bind
  · apply Preserves.tryCatch
    · exact (Preserves.when fun _ => marks _).bind fun _ => unbooked.emitError env _ _ _ _
    · intro fault
      exact (unbooked.forget tid).bind fun _ => Preserves.throw fault
  · intro _
    exact unbooked.forget tid

theorem cancelFuture (tid : Bytes) : Preserves inv (cancelFuture tid) := by
  apply Preserves.get
  intro node holds
  have keep : ∀ program : Node Unit, Preserves inv program →
      Ensures (· = node) program (fun _ => inv) (fun _ => inv) :=
    fun program preserves => preserves.ensures (fun _ same => same ▸ holds)
      (fun _ _ after => after) fun _ _ after => after
  split
  · exact keep _ (Preserves.pure ())
  · exact keep _ (unbooked.settle tid .cancelled _)

theorem closeIngress : Preserves inv closeIngress :=
  Preserves.modify fun node holds =>
    unbooked.pending _ _ (unbooked.connected _ false (unbooked.closing node true holds))

theorem launch (env : Environment) (request : Request)
    (asked : ∀ message : Message, message.get? "r" = none →
      Outgoing inv message request.endpoint) :
    Preserves inv (launch env request) := by
  apply Preserves.get
  intro node holds
  have keep : ∀ program : Node Bytes, Preserves inv program →
      Ensures (· = node) program (fun _ => inv) (fun _ => inv) :=
    fun program preserves => preserves.ensures (fun _ same => same ▸ holds)
      (fun _ _ after => after) fun _ _ after => after
  apply Ensures.raiseBind _ fun _ _ state same => same ▸ holds
  intro named _
  apply keep
  dsimp only
  apply Preserves.bind (unbooked.monotonicNs env)
  intro sentNs
  apply Preserves.bind (Preserves.modify fun node holds =>
    unbooked.pending _ _ (unbooked.txCounter node named.2 holds))
  intro _
  apply Preserves.bind (Preserves.when fun _ => unbooked.emit rfl)
  intro _
  apply Preserves.bind
  · apply Preserves.tryCatch
    · exact send_preserves (asked _ (queryMessage_has_no_response env node named.1 request))
    · intro fault
      exact (unbooked.forget named.1).bind fun _ => Preserves.throw fault
  · intro _
    exact Preserves.pure named.1

end Unbooked

/-- A response that is accepted or not leaves such a property alone. -/
theorem Passive.handleResponseOrError {inv : DHTNode → Prop} (passive : Passive inv)
    (env : Environment) (msg : Message) (source : Endpoint)
    (kind : Value.asBytes (msg.get? "y") = some (ascii "r") ∨
      Value.asBytes (msg.get? "y") = some (ascii "e")) (start : DHTNode) (holds : inv start) :
    Ensures (· = start) (handleResponseOrError env msg source) (fun _ => inv) (fun _ => inv) :=
  handleResponseOrError_rule passive.noting env msg source start kind holds
    (fun pending _ _ _ _ => passive.unbooked.settle _ _ pending)
    fun pending response remoteId _ =>
      passive.aside.acceptResponse env msg source _ pending response remoteId
        (passive.unbooked.settle _ _ pending)

/-- A property that every program of the node keeps, apart from what a datagram makes it do. -/
structure Enduring (env : Environment) (inv : DHTNode → Prop) : Prop where
  connect : ∀ node, inv node → inv { node with connected := true }
  pendingSlots : ∀ node pendingSlots, inv node → inv { node with pendingSlots }
  restoreContacts : ∀ records, Preserves inv (restoreContacts env records)
  launch : ∀ request, Preserves inv (launch env request)
  cancelFuture : ∀ tid, Preserves inv (cancelFuture tid)
  forget : ∀ tid, Preserves inv (forget tid)
  expire : ∀ request tid, Preserves inv (expire env request tid)
  continueWith : ∀ caller endpoint response, Preserves inv (continueWith env caller endpoint response)
  takeNodes : ∀ response, Preserves inv (takeNodes env response)
  refreshBucket : ∀ place now, Preserves inv (refreshBucket place now)
  closeIngress : Preserves inv closeIngress

/-- A property that the programs of the node keep, apart from what a datagram and a timeout make
it do. -/
structure Bearing (env : Environment) (inv : DHTNode → Prop) : Prop where
  connect : ∀ node, inv node → inv { node with connected := true }
  pendingSlots : ∀ node pendingSlots, inv node → inv { node with pendingSlots }
  restoreContacts : ∀ records, Preserves inv (restoreContacts env records)
  launch : ∀ request, Preserves inv (launch env request)
  cancelFuture : ∀ tid, Preserves inv (cancelFuture tid)
  forget : ∀ tid, Preserves inv (forget tid)
  continueWith : ∀ caller endpoint response, Preserves inv (continueWith env caller endpoint response)
  takeNodes : ∀ response, Preserves inv (takeNodes env response)
  refreshBucket : ∀ place now, Preserves inv (refreshBucket place now)
  closeIngress : Preserves inv closeIngress

theorem Enduring.bearing {env : Environment} {inv : DHTNode → Prop}
    (enduring : Enduring env inv) : Bearing env inv :=
  { enduring with }

/-- A property that every program of the node keeps. -/
structure Lasting (env : Environment) (inv : DHTNode → Prop) : Prop extends
    Enduring env inv where
  datagramReceived : ∀ data source, Preserves inv (datagramReceived env data source)

/-- A property that neither the routing table nor the books of the queries touch endures. -/
theorem Roaming.enduring {inv : DHTNode → Prop} (roaming : Roaming inv) (unbooked : Unbooked inv)
    (env : Environment) (asked : ∀ (message : Message) (endpoint : Endpoint),
      message.get? "r" = none → Outgoing inv message endpoint) : Enduring env inv where
  connect node := unbooked.connected node true
  pendingSlots := unbooked.pendingSlots
  restoreContacts := roaming.restoreContacts env
  launch request := unbooked.launch env request fun message => asked message request.endpoint
  cancelFuture := unbooked.cancelFuture
  forget := unbooked.forget
  expire request tid := unbooked.expire env request tid (roaming.markFailure env)
  continueWith := roaming.continueWith env
  takeNodes _ := roaming.learnContacts env false 0 _
  refreshBucket := roaming.refreshBucket
  closeIngress := unbooked.closeIngress

/-- Of such a property only the answers to queries and the queries that go out matter. -/
theorem Passive.lasting {inv : DHTNode → Prop} (passive : Passive inv) (env : Environment)
    (asked : ∀ (message : Message) (endpoint : Endpoint), message.get? "r" = none →
      Outgoing inv message endpoint)
    (answers : ∀ msg source start, inv start →
      Ensures (· = start) (handleQuery env msg source) (fun _ => inv) (fun _ => inv)) :
    Lasting env inv where
  toEnduring := passive.aside.roaming.enduring passive.unbooked env asked
  datagramReceived data source start holds :=
    datagramReceived_rule passive.noting env data source start holds
      (fun msg _ _ _ _ => answers msg source start holds)
      (fun msg _ _ kind => passive.handleResponseOrError env msg source kind start holds) start rfl

end DHTNode

namespace NodeSystem

variable {env : Environment} {inv : DHTNode → Prop} {start system next : NodeSystem}

theorem node_of_resume (bearing : DHTNode.Bearing env inv) {number : Nat} {flight : Flight}
    (expires : flight.interrupt = some .timedOut →
      inv (Effects.after (DHTNode.expire env flight.request flight.tid) system.node))
    (holds : inv system.node) (resumed : system.resumeFlight env number flight = some next) :
    inv next.node := by
  have freed := (bearing.forget flight.tid).after holds
  unfold resumeFlight at resumed
  dsimp only at resumed
  split at resumed
  · rename_i expired
    cases resumed
    exact expires expired
  · cases resumed
    exact freed
  · split at resumed
    · cases resumed
      exact freed
    · rename_i response _
      cases resumed
      exact (bearing.continueWith _ _ response).after freed
    · cases resumed

/-- What the programs of the node keep, every event keeps, provided that datagrams and timeouts
do, too. -/
theorem node_of_bearing (bearing : DHTNode.Bearing env inv) {event : NodeEvent}
    (receives : ∀ data source, event = .datagram data source →
      inv (Effects.after (DHTNode.datagramReceived env data source) system.node))
    (expires : ∀ number flight, event = .resume number →
      Dict.get? number system.flying = some flight → flight.interrupt = some .timedOut →
      inv (Effects.after (DHTNode.expire env flight.request flight.tid) system.node))
    (holds : inv system.node) (taken : step env system event = some next) : inv next.node := by
  cases event with
  | connect =>
      cases taken
      exact bearing.connect _ holds
  | restore records =>
      cases taken
      exact (bearing.restoreContacts records).after holds
  | datagram data source =>
      cases taken
      exact receives data source rfl
  | query request =>
      simp only [step] at taken
      split at taken <;> cases taken <;> exact holds
  | abandon number =>
      rcases Option.map_eq_some_iff.mp taken with ⟨_, _, rfl⟩
      exact holds
  | grant number =>
      rcases Option.bind_eq_some_iff.mp taken with ⟨_, _, given⟩
      split at given
      · cases given
      · cases given
        exact bearing.pendingSlots _ _ holds
  | decline number =>
      rcases Option.map_eq_some_iff.mp taken with ⟨_, _, rfl⟩
      exact bearing.pendingSlots _ _ holds
  | launch number =>
      rcases Option.map_eq_some_iff.mp taken with ⟨request, _, same⟩
      have launched := bearing.launch request system.node holds
      dsimp only at same
      split at same
      · rename_i outcome
        rw [outcome] at launched
        exact same ▸ launched
      · rename_i outcome
        rw [outcome] at launched
        exact same ▸ launched
  | timeout number =>
      rcases Option.bind_eq_some_iff.mp taken with ⟨flight, _, given⟩
      split at given
      · cases given
      · cases given
        exact (bearing.cancelFuture flight.tid).after holds
  | cancel number =>
      rcases Option.map_eq_some_iff.mp taken with ⟨flight, _, rfl⟩
      exact (bearing.cancelFuture flight.tid).after holds
  | resume number =>
      rcases Option.bind_eq_some_iff.mp taken with ⟨flight, found, resumed⟩
      exact node_of_resume bearing (expires number flight rfl found) holds resumed
  | lookup place =>
      rcases Option.map_eq_some_iff.mp taken with ⟨response, _, rfl⟩
      exact (bearing.takeNodes response).after holds
  | refreshBucket place now =>
      cases taken
      exact (bearing.refreshBucket place now).after holds
  | closeIngress =>
      cases taken
      exact bearing.closeIngress.after holds

/-- What the programs of the node keep, every event keeps. -/
theorem node_of_event (enduring : DHTNode.Enduring env inv) {event : NodeEvent}
    (receives : ∀ data source, event = .datagram data source →
      inv (Effects.after (DHTNode.datagramReceived env data source) system.node))
    (holds : inv system.node) (taken : step env system event = some next) : inv next.node :=
  node_of_bearing enduring.bearing receives
    (fun _ flight _ _ _ => (enduring.expire flight.request flight.tid).after holds) holds taken

theorem node_of_step (lasting : DHTNode.Lasting env inv) {event : NodeEvent}
    (holds : inv system.node) (taken : step env system event = some next) : inv next.node :=
  node_of_event lasting.toEnduring (fun data source _ =>
    (lasting.datagramReceived data source).after holds) holds taken

/-- What the programs of the node keep holds in every state of every run. -/
theorem node_of_run (lasting : DHTNode.Lasting env inv) (initial : inv start.node)
    {events : List NodeEvent} (ran : Transition.run (step env) start events = some system) :
    inv system.node :=
  Transition.invariant_run (fun system => inv system.node)
    (fun _ _ _ holds taken => node_of_step lasting holds taken) ran initial

end NodeSystem

end PyDht
