import PyDht.CrawlerDials
import PyDht.NodeSystem
import PyDht.PeerLookup

set_option autoImplicit false

namespace PyDht

/-- The node of a process with the surroundings that it asks. -/
structure NodeProcess where
  env : Environment
  system : NodeSystem

/-- The program: the workers with their log, the node of the running process, and the lookups of the
calls of `_process_candidate`, under the numbers of the calls. The node and the workers share the
candidates, which are kept with the workers. -/
structure MainProgram where
  logged : LoggedCrawler := {}
  process : Option NodeProcess := none
  lookups : List (Nat × PeerLookup) := []

/-- `search` begins the lookup of a call, and `gather` goes on with it when all queries of its batch
have ended; the queries themselves are events of the node. -/
inductive MainEvent where
  | start (surroundings : Environment) (nodeId : Bytes) (txCounter : Nat) (nowNs now : Int)
  | node (event : NodeEvent)
  | worker (event : CrawlerEvent)
  | search (number : Nat) (reading : Int) (late : Bool)
  | gather (number : Nat) (results : List (Option Message)) (readings : Nat → Nat → Int)
      (late : Bool)
  | stop
  | kill

/-- The event is one of the workers and schedulers alone. -/
def CrawlerEvent.isOwn : CrawlerEvent → Bool
  | .submit .. | .lookup .. | .start .. | .stop | .kill => false
  | _ => true

def Crawler.withManager (manager : CandidateManager) (crawler : Crawler) : Crawler :=
  { crawler with candidates := { crawler.candidates with manager } }

def NodeProcess.withRouting (routing : RoutingTable) (process : NodeProcess) : NodeProcess :=
  { process with system := { process.system with node := { process.system.node with routing } } }

namespace MainProgram

/-- An event of the node, which works on the candidates of the workers. -/
def nodeStep (program : MainProgram) (process : NodeProcess) (event : NodeEvent) :
    Option MainProgram :=
  let candidates := program.logged.crawler.candidates.manager
  let node := { process.system.node with candidates }
  (NodeSystem.step process.env { process.system with node } event).map fun system =>
    { program with
      logged := { program.logged with
        crawler := program.logged.crawler.withManager system.node.candidates }
      process := some { process with system } }

/-- The lookup of a call has returned or raised. -/
def answer (env : CrawlerEnvironment) (program : MainProgram) (number : Nat)
    (outcome : Except PyError (List Endpoint)) : Option MainProgram :=
  (program.logged.step env (.lookup number outcome)).map fun logged =>
    { program with
      logged
      lookups := Dict.pop number program.lookups }

/-- The lookup of a call goes on with its loop. -/
def pursue (env : CrawlerEnvironment) (program : MainProgram) (localIps : List String)
    (number : Nat) (late : Bool) (lookup : PeerLookup) : Option MainProgram :=
  match lookup.turn env.config.toConfig localIps late with
  | .error error => program.answer env number (.error error)
  | .ok none => program.answer env number (.ok (lookup.result env.config.toConfig))
  | .ok (some next) => some { program with lookups := Dict.set number next program.lookups }

def search (env : CrawlerEnvironment) (program : MainProgram) (process : NodeProcess)
    (number : Nat) (job : Processing) (reading : Int) (late : Bool) : Option MainProgram :=
  match job.stage with
  | .lookingUp _ =>
      if number ∈ Dict.keys program.lookups then none
      else
        let node := process.system.node
        match PeerLookup.opening env.config.toConfig node.routing reading job.key with
        | .error error => program.answer env number (.error error)
        | .ok lookup => program.pursue env node.localIps number late lookup
  | _ => none

def gather (env : CrawlerEnvironment) (program : MainProgram) (process : NodeProcess)
    (number : Nat) (lookup : PeerLookup) (results : List (Option Message))
    (readings : Nat → Nat → Int) (late : Bool) : Option MainProgram :=
  let node := process.system.node
  let took := PeerLookup.gather env.config.toConfig node.localIps readings 0 results
  match took (node.routing, lookup) with
  | .error error (routing, _) =>
      { program with process := some (process.withRouting routing) }.answer env number
        (.error error)
  | .ok _ (routing, lookup) =>
      { program with process := some (process.withRouting routing) }.pursue env node.localIps
        number late lookup

def step (env : CrawlerEnvironment) (program : MainProgram) : MainEvent → Option MainProgram
  | .start surroundings nodeId txCounter nowNs now =>
      (program.logged.step env (.start nowNs now)).bind fun logged =>
        let surroundings := { surroundings with config := env.config.toConfig }
        match NodeSystem.new surroundings nodeId logged.crawler.candidates.manager txCounter
            env.localIps with
        | .error _ => none
        | .ok system => some { logged, process := some { env := surroundings, system } }
  | .node event => program.process.bind fun process => program.nodeStep process event
  | .worker event =>
      if event.isOwn then
        (program.logged.step env event).map fun logged => { program with logged }
      else none
  | .search number reading late =>
      program.process.bind fun process =>
        (Dict.get? number program.logged.crawler.jobs).bind fun job =>
          program.search env process number job reading late
  | .gather number results readings late =>
      program.process.bind fun process =>
        (Dict.get? number program.lookups).bind fun lookup =>
          if results.length = lookup.batch.length then
            program.gather env process number lookup results readings late
          else none
  | .stop => (program.logged.step env .stop).map fun logged => { logged }
  | .kill => (program.logged.step env .kill).map fun logged => { logged }

end MainProgram

end PyDht
