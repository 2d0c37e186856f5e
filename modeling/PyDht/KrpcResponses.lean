import PyDht.BencodeErrors
import PyDht.KrpcReplies

set_option autoImplicit false

namespace PyDht

open Effects (Ensures Preserves Total)

namespace DHTNode

namespace Noting

variable {inv : DHTNode → Prop} (noting : Noting inv) (env : Environment)
include noting

theorem learnContacts
    (meets : ∀ nodeId endpoint, Preserves inv (DHTNode.meet env nodeId endpoint {}))
    (emitChildren : Bool) (index : Nat) (contacts : List (Bytes × String × Int)) :
    Preserves inv (learnContacts env emitChildren index contacts) := by
  induction contacts generalizing index with
  | nil => exact Preserves.pure ()
  | cons contact rest ih =>
      apply Preserves.bind (Preserves.when fun _ => noting.emit rfl)
      intro _
      apply Preserves.get
      intro node holds
      have met : Preserves inv (Effects.when
          (endpointAllowed env.config node.localIps contact.2.1 contact.2.2)
          (DHTNode.meet env contact.1 contact.2 {})) :=
        Preserves.when fun _ => meets _ _
      exact (met.bind fun _ => ih (index + 1)).ensures (fun _ same => same ▸ holds)
        (fun _ _ holds => holds) fun _ _ holds => holds

theorem parseResponseContacts
    (meets : ∀ nodeId endpoint, Preserves inv (DHTNode.meet env nodeId endpoint {}))
    (response : Message) (emitChildren : Bool) :
    Preserves inv (parseResponseContacts env response emitChildren) := by
  apply Preserves.bind (noting.learnContacts env meets emitChildren 0 _)
  intro _
  exact Preserves.when fun _ => noting.reportContacts6 0 _

/-- What accepting a response does, apart from its evidence and settling its
query, are observations. -/
theorem acceptResponse {later : DHTNode → Prop}
    (meets : ∀ nodeId endpoint sighting,
      Preserves inv (DHTNode.meet env nodeId endpoint sighting))
    (msg : Message) (endpoint : Endpoint) (tid : Bytes) (pending : PendingQuery)
    (response : Message) (remoteId : Bytes) (weaker : ∀ node, inv node → later node)
    (evidence : Ensures inv (emitResponseEvidence env msg endpoint pending.query .incoming)
      (fun _ => later) (fun _ => later))
    (settles : Preserves later (settle tid (.result response) pending)) :
    Ensures inv (acceptResponse env msg endpoint tid pending response remoteId)
      (fun _ => later) (fun _ => later) := by
  apply Ensures.get
  intro node holds
  have introduced : Preserves inv (Effects.when
      (endpointAllowed env.config node.localIps endpoint.1 endpoint.2)
      (DHTNode.meet env remoteId endpoint
        { directResponse := true, clientVersion := Value.asBytes (msg.get? "v") })) :=
    Preserves.when fun _ => meets _ _ _
  have rest : ∀ important : Bool, Ensures inv (do
      DHTNode.parseResponseContacts env response important
      Effects.when important (emitResponseEvidence env msg endpoint pending.query .incoming)
      settle tid (.result response) pending) (fun _ => later) (fun _ => later) := by
    intro important
    apply Ensures.bind ((noting.parseResponseContacts env (fun _ _ => meets _ _ _) response
      important).ensures (fun _ holds => holds) (fun _ _ holds => holds) fun _ => weaker)
    intro _
    apply Ensures.bind (Ensures.when (fun _ => evidence) fun _ => weaker)
    intro _
    exact settles
  have begin : ∀ state, state = node → inv state := fun state same => same ▸ holds
  exact (introduced.ensures begin (fun _ _ holds => holds) fun _ => weaker).bind fun _ => rest _

end Noting

/-- A property that the observations made beside a query do not touch, and that
only a finding can break otherwise. -/
structure Roaming (inv : DHTNode → Prop) : Prop extends Noting inv where
  routing : ∀ node routing, inv node → inv { node with routing }

namespace Roaming

variable {inv : DHTNode → Prop} (roaming : Roaming inv) (env : Environment)
include roaming

theorem meet (nodeId : Bytes) (endpoint : Endpoint) (sighting : Sighting) :
    Preserves inv (meet env nodeId endpoint sighting) :=
  roaming.toNoting.meet env nodeId endpoint sighting fun node _ observed holds _ =>
    roaming.routing node observed.1 holds

theorem learnContacts (emitChildren : Bool) (index : Nat)
    (contacts : List (Bytes × String × Int)) :
    Preserves inv (learnContacts env emitChildren index contacts) :=
  roaming.toNoting.learnContacts env (fun _ _ => roaming.meet env _ _ _) emitChildren index contacts

theorem greet (msg : Message) (endpoint : Endpoint) (method remoteId : Bytes) :
    Preserves inv (greet env msg endpoint method remoteId) :=
  roaming.toNoting.greet env msg endpoint method remoteId fun sighting _ =>
    roaming.meet env remoteId endpoint sighting

/-- What accepting a response does, apart from its evidence and settling its
query, is beside the point. -/
theorem acceptResponse {later : DHTNode → Prop} (msg : Message) (endpoint : Endpoint)
    (tid : Bytes) (pending : PendingQuery) (response : Message) (remoteId : Bytes)
    (weaker : ∀ node, inv node → later node)
    (evidence : Ensures inv (emitResponseEvidence env msg endpoint pending.query .incoming)
      (fun _ => later) (fun _ => later))
    (settles : Preserves later (settle tid (.result response) pending)) :
    Ensures inv (acceptResponse env msg endpoint tid pending response remoteId)
      (fun _ => later) (fun _ => later) :=
  roaming.toNoting.acceptResponse env (roaming.meet env) msg endpoint tid pending response
    remoteId weaker evidence settles

end Roaming

/-- A property that the observations made beside a query do not touch either. -/
structure Aside (inv : DHTNode → Prop) : Prop extends Quiet inv where
  routing : ∀ node routing, inv node → inv { node with routing }

namespace Aside

variable {inv : DHTNode → Prop} (aside : Aside inv)
include aside

theorem roaming : Roaming inv :=
  { aside.noting with routing := aside.routing }

theorem acceptResponse (env : Environment) (msg : Message) (endpoint : Endpoint) (tid : Bytes)
    (pending : PendingQuery) (response : Message) (remoteId : Bytes)
    (settles : Preserves inv (settle tid (.result response) pending)) :
    Preserves inv (acceptResponse env msg endpoint tid pending response remoteId) :=
  aside.roaming.acceptResponse env msg endpoint tid pending response remoteId
    (fun _ holds => holds) (aside.emitResponseEvidence env msg endpoint _ _) settles

end Aside

/-- The transaction ID of a message. -/
def transaction (msg : Message) : Bytes := (Value.asBytes (msg.get? "t")).getD []

/-- The response that a message holds is accepted for a query that is pending:
it comes from the endpoint the query went to and passes all checks. -/
structure Accepted (node : DHTNode) (msg : Message) (source : Endpoint) (pending : PendingQuery)
    (response : Message) (remoteId : Bytes) : Prop where
  awaited : Dict.get? (transaction msg) node.pending = some pending
  origin : pending.endpoint = source
  kind : Value.asBytes (msg.get? "y") = some (ascii "r")
  content : Value.asDict (msg.get? "r") = some response
  named : Value.asKey (response.get? "id") = some remoteId
  expected : pending.expectedNodeId.any (· ≠ remoteId) = false
  shape : responseMatchesQuery pending.query response = true

/-- The kinds of messages that get past the envelope checks. -/
theorem receive_kind {config : Config} {data : Bytes} {msg : Message}
    (received : receive config data = .ok msg) :
    Value.asBytes (msg.get? "y") = some (ascii "q") ∨
      Value.asBytes (msg.get? "y") = some (ascii "r") ∨
      Value.asBytes (msg.get? "y") = some (ascii "e") := by
  rcases bind_ok_iff.mp received with ⟨value, _, envelope⟩
  split at envelope
  · dsimp only at envelope
    split at envelope
    · cases envelope
    · cases envelope
    · split at envelope
      · cases envelope
      · cases envelope
      · rename_i kind isKind
        split at envelope
        · rename_i listed
          cases pure_ok_iff.mp envelope
          rw [isKind]
          simpa [Value.asBytes] using listed
        · cases envelope
      · cases envelope
  · cases envelope

/-- What is wrong with the envelope of a datagram is caught as a `ValueError` or a `TypeError`. -/
theorem receive_raises (config : Config) (data : Bytes) :
    Raises (fun fault => fault.isValueOrTypeError = true) (receive config data) := by
  have wider : ∀ fault, Bencode.ValueFault fault → fault.isValueOrTypeError = true := by
    intro fault isValue
    cases fault <;> first | rfl | cases isValue
  have decoded := Bencode.decode_raises data
    ⟨config.maxBencodeDepth, config.maxBencodeItems,
      min config.maxBencodeStringLength config.dhtReceiveMaxBytes⟩ true
  apply (decoded.mono wider).bind
  intro value _
  split
  · dsimp only
    split
    · exact Raises.error rfl
    · exact Raises.error rfl
    · split
      · exact Raises.error rfl
      · exact Raises.error rfl
      · split
        · exact Raises.pure _
        · exact Raises.error rfl
      · exact Raises.error rfl
  · exact Raises.error rfl

theorem emit_total (record : NodeRecord) : Total (emit record) := Total.modify _

/-- A response or an error changes a node only when it is for a pending query
and comes from the endpoint of that query; all else is reported. -/
theorem handleResponseOrError_ensures {inv : DHTNode → Prop} {raised : PyError → DHTNode → Prop}
    (noting : Noting inv) (env : Environment) (msg : Message) (source : Endpoint) (start : DHTNode)
    (kind : Value.asBytes (msg.get? "y") = some (ascii "r") ∨
      Value.asBytes (msg.get? "y") = some (ascii "e"))
    (holds : inv start)
    (failing : ∀ pending error, Dict.get? (transaction msg) start.pending = some pending →
      Value.asBytes (msg.get? "y") = some (ascii "e") → pending.endpoint = source →
      Ensures (· = start) (settle (transaction msg) (.failed error) pending) (fun _ => inv) raised)
    (accepting : ∀ pending response remoteId,
      Accepted start msg source pending response remoteId →
      Ensures (· = start)
        (acceptResponse env msg source (transaction msg) pending response remoteId)
        (fun _ => inv) raised) :
    Ensures (· = start) (handleResponseOrError env msg source) (fun _ => inv) raised := by
  have plainly : ∀ record, record.isFinding = false →
      Ensures inv (emit record) (fun _ => inv) raised :=
    fun record plain => ((emit_total record).keeps (noting.emit plain)).raises
      fun _ _ impossible => impossible.elim
  have note : ∀ record, record.isFinding = false →
      Ensures (· = start) (emit record) (fun _ => inv) raised :=
    fun record plain => (plainly record plain).weaken (fun _ same => same ▸ holds)
      (fun _ _ after => after) fun _ _ after => after
  unfold handleResponseOrError
  apply Ensures.get
  intro node same
  rw [same]
  dsimp only
  split
  · exact Ensures.pure fun _ same => same ▸ holds
  · rename_i pending isPending
    split
    · exact note _ rfl
    · rename_i isSource
      have isSource : pending.endpoint = source := (not_not.mp isSource).symm
      split
      · rename_i isError
        exact (failing pending _ isPending isError isSource).bind fun _ => plainly _ rfl
      · rename_i noError
        have answer := kind.resolve_right noError
        split
        · exact note _ rfl
        · rename_i response isResponse
          split
          · exact note _ rfl
          · rename_i remoteId named
            split
            · exact note _ rfl
            · rename_i expected
              split
              · exact note _ rfl
              · rename_i fits
                exact accepting pending response remoteId
                  ⟨isPending, isSource, answer, isResponse, named, by simpa using expected,
                    by simpa using fits⟩

/-- The same for what holds all along. -/
theorem handleResponseOrError_rule {inv : DHTNode → Prop} {raised : PyError → DHTNode → Prop}
    (noting : Noting inv) (env : Environment) (msg : Message) (source : Endpoint) (start : DHTNode)
    (kind : Value.asBytes (msg.get? "y") = some (ascii "r") ∨
      Value.asBytes (msg.get? "y") = some (ascii "e"))
    (holds : inv start)
    (failing : ∀ pending error, Dict.get? (transaction msg) start.pending = some pending →
      Value.asBytes (msg.get? "y") = some (ascii "e") → pending.endpoint = source →
      Ensures inv (settle (transaction msg) (.failed error) pending) (fun _ => inv) raised)
    (accepting : ∀ pending response remoteId,
      Accepted start msg source pending response remoteId →
      Ensures inv (acceptResponse env msg source (transaction msg) pending response remoteId)
        (fun _ => inv) raised) :
    Ensures (· = start) (handleResponseOrError env msg source) (fun _ => inv) raised := by
  have keep : ∀ program : Node Unit, Ensures inv program (fun _ => inv) raised →
      Ensures (· = start) program (fun _ => inv) raised :=
    fun program ensures => ensures.weaken (fun _ same => same ▸ holds)
      (fun _ _ after => after) fun _ _ after => after
  exact handleResponseOrError_ensures noting env msg source start kind holds
    (fun pending error isPending isError isSource =>
      keep _ (failing pending error isPending isError isSource))
    fun pending response remoteId accepted => keep _ (accepting pending response remoteId accepted)

/-- The whole way of a datagram: what is not a query or a response leaves a
report at most. -/
theorem handleDatagram_rule {inv : DHTNode → Prop} {raised : PyError → DHTNode → Prop}
    (noting : Noting inv) (env : Environment) (data : Bytes) (source : Endpoint) (start : DHTNode)
    (holds : inv start)
    (asking : ∀ msg, receive env.config data = .ok msg →
      Value.asBytes (msg.get? "y") = some (ascii "q") → env.config.dhtReadOnly = false →
      Ensures (· = start) (handleQuery env msg source) (fun _ => inv) raised)
    (answering : ∀ msg, receive env.config data = .ok msg →
      Value.asBytes (msg.get? "y") = some (ascii "r") ∨
        Value.asBytes (msg.get? "y") = some (ascii "e") →
      Ensures (· = start) (handleResponseOrError env msg source) (fun _ => inv) raised) :
    Ensures (· = start) (handleDatagram env data source) (fun _ => inv) raised := by
  unfold handleDatagram
  split
  · rename_i fault failed
    rw [if_pos (receive_raises env.config data fault failed)]
    exact ((emit_total _).keeps (noting.emit rfl)).weaken (fun _ same => same ▸ holds)
      (fun _ _ after => after) fun _ _ impossible => impossible.elim
  · rename_i msg received
    split
    · rename_i isQuery
      split
      · exact Ensures.pure fun _ same => same ▸ holds
      · rename_i readWrite
        exact asking msg received isQuery (by simpa using readWrite)
    · rename_i noQuery
      exact answering msg received ((receive_kind received).resolve_left noQuery)

theorem datagramReceived_rule {inv : DHTNode → Prop} {raised : PyError → DHTNode → Prop}
    (noting : Noting inv) (env : Environment) (data : Bytes) (source : Endpoint) (start : DHTNode)
    (holds : inv start)
    (asking : ∀ msg, (data.length : Int) ≤ env.config.dhtReceiveMaxBytes →
      receive env.config data = .ok msg → Value.asBytes (msg.get? "y") = some (ascii "q") →
      env.config.dhtReadOnly = false →
      Ensures (· = start) (handleQuery env msg source) (fun _ => inv) raised)
    (answering : ∀ msg, (data.length : Int) ≤ env.config.dhtReceiveMaxBytes →
      receive env.config data = .ok msg →
      Value.asBytes (msg.get? "y") = some (ascii "r") ∨
        Value.asBytes (msg.get? "y") = some (ascii "e") →
      Ensures (· = start) (handleResponseOrError env msg source) (fun _ => inv) raised) :
    Ensures (· = start) (datagramReceived env data source) (fun _ => inv) raised := by
  unfold datagramReceived
  split
  · exact ((emit_total _).keeps (noting.emit rfl)).weaken (fun _ same => same ▸ holds)
      (fun _ _ after => after) fun _ _ impossible => impossible.elim
  · rename_i small
    have small : (data.length : Int) ≤ env.config.dhtReceiveMaxBytes := by omega
    exact handleDatagram_rule noting env data source start holds (fun msg => asking msg small)
      fun msg => answering msg small

end DHTNode

end PyDht
