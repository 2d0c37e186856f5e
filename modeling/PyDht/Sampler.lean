import PyDht.Lib.Transition
import PyDht.Shortlist

set_option autoImplicit false

namespace PyDht

/-- How the query of a sampling round ends: `failed` stands for a `DHTError` and for a timeout. -/
inductive SampleOutcome where
  | response (message : Message)
  | krpcError (code : Int)
  | failed

/-- `bep51_once` while it awaits the query to `contact` at `endpoint`. -/
structure SampleRound where
  nowNs : Int
  target : Bytes
  shortlist : Shortlist
  visited : List Bytes := []
  maxNodes : Nat
  processed : Nat := 0
  contact : Bytes := []
  endpoint : Endpoint := ("", 0)
  sent : Bool := false
deriving DecidableEq

/-- What the sampling rounds work on. `bep51State` has the due time and the time of the round for
each endpoint; `queried` keeps what was sent, and when. -/
structure Sampler where
  routing : RoutingTable
  bep51State : List (Endpoint × Int × Int) := []
  round : Option SampleRound := none
  clock : Int
  queried : List (Endpoint × Int) := []
deriving DecidableEq

/-- What happens to the sampling rounds. With `elsewhere` the rest of the node leaves another table
and contacts that have moved; the other events have the time at which they happen. -/
inductive SampleEvent where
  | elsewhere (routing : RoutingTable) (moved : List (Bytes × Endpoint))
  | start (now reading : Int) (queued maxsize : Int) (target : Bytes)
  | sent (now : Int)
  | returned (now : Int) (outcome : SampleOutcome) (readings : Nat → Int)

namespace SampleOutcome

/-- The interval that the round goes by: the one of the response, or the global one if that is none
or out of range. -/
def interval (config : Config) (message : Message) : Rat :=
  let globalInterval := config.dhtBep51GlobalInterval
  let interval :=
    match Value.asInt (message.get? "interval") with
    | some interval =>
        if 0 ≤ interval ∧ interval ≤ 21600 then interval
        else globalInterval.num.tdiv globalInterval.den
    | none => globalInterval.num.tdiv globalInterval.den
  if globalInterval ≤ interval then interval else globalInterval

/-- How long after the start of the round the endpoint is due again; `none` if the round does not
remember it. -/
def pause (config : Config) : SampleOutcome → Option Int
  | .response message => some (nanoseconds (interval config message))
  | .krpcError code =>
      if code = 204 then some (nanoseconds config.dhtBep51UnsupportedBackoff) else none
  | .failed => none

def isFailed : SampleOutcome → Bool
  | .failed => true
  | _ => false

end SampleOutcome

namespace SampleRound

/-- The endpoint may be queried: it is not remembered, or its due time has come. -/
def due (nowNs : Int) (bep51State : List (Endpoint × Int × Int)) (endpoint : Endpoint) : Bool :=
  match Dict.get? endpoint bep51State with
  | none => true
  | some state => decide (state.1 ≤ nowNs)

/-- The loop from one query to the next. The shortlist does not change in between, so the loop
walks along the sorted contacts; the result has the visited ones and the one to query. -/
def pick (nowNs : Int) (bep51State : List (Endpoint × Int × Int)) :
    Shortlist → List Bytes → List Bytes × Option (Bytes × Endpoint)
  | [], visited => (visited, none)
  | contact :: rest, visited =>
      if contact.1 ∈ visited then pick nowNs bep51State rest visited
      else if due nowNs bep51State contact.2 then (visited ++ [contact.1], some contact)
      else pick nowNs bep51State rest (visited ++ [contact.1])

/-- The loop of the round up to its next query; `none` when the round has ended, also with an
exception. -/
def next (bep51State : List (Endpoint × Int × Int)) (round : SampleRound) : Option SampleRound :=
  if round.maxNodes ≤ round.processed then none
  else
    match round.shortlist.ordered round.target with
    | .error _ => none
    | .ok contacts =>
        let (visited, picked) := pick round.nowNs bep51State contacts round.visited
        picked.map fun contact =>
          { round with visited, contact := contact.1, endpoint := contact.2, sent := false }

def relocate (moved : List (Bytes × Endpoint)) (round : SampleRound) : SampleRound :=
  { round with shortlist := round.shortlist.relocate moved }

end SampleRound

namespace Sampler

/-- `_remember_bep51`; `BEP51_NODE_STATE_MAX` is positive. -/
def rememberBep51 (config : Config) (endpoint : Endpoint) (dueNs seenNs : Int)
    (bep51State : List (Endpoint × Int × Int)) : List (Endpoint × Int × Int) :=
  let entries := Dict.pop endpoint bep51State ++ [(endpoint, dueNs, seenNs)]
  entries.drop (entries.length - config.bep51NodeStateMax.toNat)

/-- `_prune_bep51_state`. -/
def pruneBep51State (config : Config) (nowNs : Int) (bep51State : List (Endpoint × Int × Int)) :
    List (Endpoint × Int × Int) :=
  let cutoff := nowNs - nanoseconds config.bep51NodeStateTtl
  bep51State.filter fun entry => !decide (entry.2.2 < cutoff)

/-- `bep51_once` up to its first query. -/
def start (config : Config) (now reading : Int) (queued maxsize : Int) (target : Bytes)
    (sampler : Sampler) : Sampler :=
  let utilization : Rat := (queued : Rat) / ((max 1 maxsize : Int) : Rat)
  if !config.dhtBep51Enabled ∨ config.bep51QueueHighWatermark ≤ utilization then sampler
  else
    let bep51State := pruneBep51State config now sampler.bep51State
    match sampler.routing.closest config reading target DHT_K true with
    | .error _ => { sampler with bep51State }
    | .ok contacts =>
        let shortlist := Shortlist.ofContacts contacts
        let maxNodes := if utilization ≤ config.bep51QueueLowWatermark then DHT_K else 1
        let round : SampleRound := { nowNs := now, target, shortlist, maxNodes }
        { sampler with bep51State, round := round.next bep51State }

/-- The round goes on with what its query has returned or raised, up to the next query. -/
def resume (config : Config) (localIps : List String) (outcome : SampleOutcome)
    (readings : Nat → Int) (round : SampleRound) (sampler : Sampler) : Sampler :=
  let endpoint := (Dict.get? round.contact round.shortlist).getD round.endpoint
  let bep51State :=
    match outcome.pause config with
    | none => sampler.bep51State
    | some pause =>
        rememberBep51 config endpoint (round.nowNs + pause) round.nowNs sampler.bep51State
  match outcome with
  | .failed | .krpcError _ => { sampler with bep51State, round := round.next bep51State }
  | .response message =>
      match Shortlist.takeUp config localIps readings 0 (DHTNode.returnedContacts message)
        (sampler.routing, round.shortlist) with
      | .error _ (routing, _) => { sampler with routing, bep51State, round := none }
      | .ok _ (routing, shortlist) =>
          let round := { round with shortlist, processed := round.processed + 1 }
          { sampler with routing, bep51State, round := round.next bep51State }

/-- One event; `none` when it cannot happen now. A response or an error only comes for a query that
was sent. -/
def step (config : Config) (localIps : List String) (sampler : Sampler) :
    SampleEvent → Option Sampler
  | .elsewhere routing moved =>
      some { sampler with routing, round := sampler.round.map (SampleRound.relocate moved) }
  | .start now reading queued maxsize target =>
      if sampler.round.isSome ∨ now < sampler.clock ∨ reading < now then none
      else some { sampler.start config now reading queued maxsize target with clock := reading }
  | .sent now =>
      sampler.round.bind fun round =>
        if round.sent ∨ now < sampler.clock ∨
            !endpointAllowed config localIps round.endpoint.1 round.endpoint.2 then none
        else
          some { sampler with
            round := some { round with sent := true }
            clock := now
            queried := sampler.queried ++ [(round.endpoint, now)] }
  | .returned now outcome readings =>
      sampler.round.bind fun round =>
        if now < sampler.clock ∨ !round.sent ∧ !outcome.isFailed then none
        else some { sampler.resume config localIps outcome readings round with clock := now }

end Sampler

end PyDht
