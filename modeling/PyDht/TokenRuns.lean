import PyDht.NodeRuns
import PyDht.QueryRuns

set_option autoImplicit false

namespace PyDht

open Effects (Ensures Preserves)

namespace TokenManager

variable {env : Environment} {tokens next : TokenManager} {current previous : Nat}

/-- The manager works with the secrets of these two draws. -/
structure Keyed (env : Environment) (tokens : TokenManager) (current previous : Nat) : Prop where
  apart : current ≠ previous
  currentDrawn : current < tokens.drawn
  previousDrawn : previous < tokens.drawn
  isCurrent : tokens.current = env.secretAt current
  isPrevious : tokens.previous = env.secretAt previous

/-- If the secret of that draw is still in use, it was made by the given time. -/
structure MadeBy (tokens : TokenManager) (current previous index : Nat) (time : Int) : Prop where
  ofCurrent : index = current → tokens.currentCreatedNs ≤ time
  ofPrevious : index = previous → tokens.previousCreatedNs ≤ time

theorem keyed_new (env : Environment) (now : Int) : Keyed env (TokenManager.new env now) 0 1 where
  apart := by decide
  currentDrawn := by
    show 0 < 2
    omega
  previousDrawn := by
    show 1 < 2
    omega
  isCurrent := rfl
  isPrevious := rfl

/-- What a rotation that may be due does: secrets are only drawn anew, and one
that stays in use keeps the time it was made at. -/
structure Rotated (env : Environment) (now : Int) (tokens : TokenManager)
    (current previous : Nat) (next : TokenManager) (current' previous' : Nat) : Prop where
  keyed : Keyed env next current' previous'
  drawn : tokens.drawn ≤ next.drawn ∧ next.drawn ≤ tokens.drawn + 2
  made : ∀ index time, index < tokens.drawn → MadeBy tokens current previous index time →
    MadeBy next current' previous' index time
  young : next.currentCreatedNs = tokens.currentCreatedNs ∨ next.currentCreatedNs = now

theorem Keyed.rotate {now : Int} (keyed : Keyed env tokens current previous)
    (turned : rotateIfDue env now tokens = .ok next) :
    ∃ current' previous', Rotated env now tokens current previous next current' previous' := by
  have last := keyed.currentDrawn
  unfold rotateIfDue at turned
  dsimp only at turned
  split at turned
  · cases turned
    exact ⟨current, previous, keyed, ⟨by omega, by omega⟩, fun _ _ _ made => made, .inl rfl⟩
  split at turned
  · cases turned
  split at turned
  · -- the current secret becomes the previous one
    cases turned
    refine ⟨tokens.drawn, current, ⟨by omega, ?_, ?_, rfl, keyed.isCurrent⟩, ⟨?_, ?_⟩,
      fun index time old made => ⟨fun same => ?_, fun same => made.ofCurrent same⟩, .inr rfl⟩
    all_goals dsimp only
    all_goals omega
  · -- both secrets are new
    cases turned
    refine ⟨tokens.drawn + 1, tokens.drawn, ⟨by omega, ?_, ?_, rfl, rfl⟩, ⟨?_, ?_⟩,
      fun index time old made => ⟨fun same => ?_, fun same => ?_⟩, .inr rfl⟩
    all_goals dsimp only
    all_goals omega

end TokenManager

/-- The datagram carries a response with the token. -/
def Sent.Issues (datagram : Sent) (token : Bytes) : Prop :=
  ∃ response, Value.asDict (datagram.message.get? "r") = some response ∧
    Value.asBytes (response.get? "token") = some token

namespace DHTNode

/-- The tokens that went out are those of drawn secrets, each made by the time
the token was issued, and the datagrams with them have the given property. -/
def Tokened (env : Environment) (asked : Sent → Bytes → Nat → Prop) (node : DHTNode) : Prop :=
  ∃ current previous, TokenManager.Keyed env node.tokens current previous ∧
    (∀ tick, node.ticks ≤ tick → node.tokens.currentCreatedNs ≤ env.monotonicNs tick) ∧
    ∀ datagram ∈ node.sent, ∀ token, Sent.Issues datagram token → ∃ tick,
      asked datagram token tick ∧ ∃ index, index < node.tokens.drawn ∧
        TokenManager.derive env (env.secretAt index) datagram.endpoint.1 = .ok token ∧
        TokenManager.MadeBy node.tokens current previous index (env.monotonicNs tick)

section tokened

variable {env : Environment} {asked : Sent → Bytes → Nat → Prop} {start node : DHTNode}

theorem Tokened.mono {more : Sent → Bytes → Nat → Prop} (tokened : Tokened env asked node)
    (grows : ∀ datagram token tick, asked datagram token tick → more datagram token tick) :
    Tokened env more node := by
  rcases tokened with ⟨current, previous, keyed, young, issued⟩
  exact ⟨current, previous, keyed, young, fun datagram member token issues =>
    (issued datagram member token issues).imp fun tick => And.imp_left (grows datagram token tick)⟩

theorem tokened_roaming (env : Environment) (asked : Sent → Bytes → Nat → Prop) :
    Roaming (Tokened env asked) where
  ticks node tokened := by
    rcases tokened with ⟨current, previous, keyed, young, issued⟩
    exact ⟨current, previous, keyed, fun tick later => young tick (Nat.le_of_succ_le later),
      issued⟩
  note _ _ _ tokened := tokened
  routing _ _ tokened := tokened

theorem tokened_unbooked (env : Environment) (asked : Sent → Bytes → Nat → Prop) :
    Unbooked (Tokened env asked) :=
  { (tokened_roaming env asked).toNoting with
    pending := fun _ _ tokened => tokened
    pendingSlots := fun _ _ tokened => tokened
    txCounter := fun _ _ tokened => tokened
    connected := fun _ _ tokened => tokened
    closing := fun _ _ tokened => tokened }

theorem tokened_outgoing {message : Message} (none : message.get? "r" = none)
    (endpoint : Endpoint) : Outgoing (Tokened env asked) message endpoint := by
  intro node payload tokened
  rcases tokened with ⟨current, previous, keyed, young, issued⟩
  refine ⟨current, previous, keyed, young, fun datagram member token issues => ?_⟩
  rcases List.mem_append.mp member with old | new
  · exact issued datagram old token issues
  · rcases issues with ⟨response, isResponse, _⟩
    rw [List.mem_singleton.mp new] at isResponse
    simp [none, Value.asDict] at isResponse

/-- Meeting the sender of a query leaves the tokens alone. -/
theorem Greeted.tokened (met : Greeted start node) (tokened : Tokened env asked start) :
    Tokened env asked node := by
  rcases tokened with ⟨current, previous, keyed, young, issued⟩
  rw [met.same]
  exact ⟨current, previous, keyed, fun tick later => young tick (Nat.le_trans met.ticks later),
    issued⟩

/-- A datagram that went to the endpoint between the two states, with a token that was issued
before it went out. -/
structure Tells (env : Environment) (start node : DHTNode) (endpoint : Endpoint)
    (datagram : Sent) (token : Bytes) (tick : Nat) : Prop where
  sent : datagram ∈ node.sent
  goal : datagram.endpoint = endpoint
  begun : start.ticks ≤ tick
  issuing : ∃ tokens,
    TokenManager.issue env (env.monotonicNs tick) endpoint.1 start.tokens = .ok token tokens
  later : tick < datagram.tick
  ended : datagram.tick ≤ node.ticks

/-- A token that goes out is the one of the current secret, which is older. -/
theorem Answered.tokened
    (monotone : ∀ earlier later, earlier ≤ later → env.monotonicNs earlier ≤ env.monotonicNs later)
    {method : Bytes} {args : Message} {endpoint : Endpoint} (tokened : Tokened env asked start)
    (answered : Answered env start method args endpoint node)
    (answers : method = ascii "get_peers" → ∀ datagram token tick,
      Tells env start node endpoint datagram token tick → asked datagram token tick) :
    Tokened env asked node := by
  rcases tokened with ⟨current, previous, keyed, young, issued⟩
  rcases answered with ⟨turn, responded⟩
  have begun := responded.begun
  have passed := responded.ticks
  have turned : ∃ now current' previous', now ≤ env.monotonicNs turn ∧
      TokenManager.Rotated env now start.tokens current previous node.tokens current' previous' := by
    rcases responded.tokens with same | ⟨tick, _, upper, rotated⟩
    · refine ⟨env.monotonicNs turn, current, previous, Int.le_refl _, ?_⟩
      rw [same]
      exact ⟨keyed, ⟨by omega, by omega⟩, fun _ _ _ made => made, .inl rfl⟩
    · rcases keyed.rotate rotated with ⟨current', previous', rotation⟩
      exact ⟨_, current', previous', monotone tick turn (by omega), rotation⟩
  rcases turned with ⟨now, current', previous', early, rotation⟩
  have made : ∀ tick, turn ≤ tick → node.tokens.currentCreatedNs ≤ env.monotonicNs tick := by
    intro tick later
    have since := monotone turn tick later
    rcases rotation.young with old | new
    · rw [old]
      exact young tick (by omega)
    · rw [new]
      omega
  refine ⟨current', previous', rotation.keyed, fun tick later => made tick (by omega), ?_⟩
  intro datagram member token issues
  rcases responded.sent datagram member with old | ⟨goal, later, before, told⟩
  · rcases issued datagram old token issues with ⟨tick, wasAsked, index, drawn, derived, madeBy⟩
    have more := rotation.drawn
    exact ⟨tick, wasAsked, index, by omega, derived, rotation.made index _ drawn madeBy⟩
  · rcases issues with ⟨response, isResponse, isToken⟩
    rcases (told response isResponse).token token isToken with
      ⟨isGetPeers, tick, lower, upper, issuing⟩
    rcases TokenManager.issue_ok issuing with ⟨rotated, derived⟩
    rcases keyed.rotate rotated with ⟨_, _, issuance⟩
    have fresh : node.tokens.currentCreatedNs ≤ env.monotonicNs tick := by
      rcases issuance.young with old | new
      · rw [old]
        exact young tick lower
      · exact Int.le_of_eq new
    refine ⟨tick, answers isGetPeers datagram token tick ⟨member, goal, lower,
      ⟨_, issuing⟩, by omega, before⟩, current', rotation.keyed.currentDrawn, ?_,
      ⟨fun _ => fresh, fun same => absurd same rotation.keyed.apart⟩⟩
    rw [← rotation.keyed.isCurrent, goal]
    exact derived

/-- A query from `source` was answered with the datagram. -/
theorem Queried.tokened
    (monotone : ∀ earlier later, earlier ≤ later → env.monotonicNs earlier ≤ env.monotonicNs later)
    {msg : Message} {source : Endpoint} (tokened : Tokened env asked start)
    (queried : Queried env msg source start node)
    (answers : ∀ args remoteId, Asks msg (ascii "get_peers") args remoteId →
      ∀ datagram token tick, Tells env start node source datagram token tick →
      asked datagram token tick) : Tokened env asked node := by
  rcases queried with refused | ⟨method, args, remoteId, asks, answered⟩
  · exact Answered.tokened monotone tokened refused fun same => absurd same (by decide)
  · have met := greeted_greeted env msg source method remoteId start
    apply Answered.tokened monotone (met.tokened tokened) answered
    intro isGetPeers datagram token tick tells
    have sameTokens : (greeted env msg source method remoteId start).tokens = start.tokens := by
      rw [met.same]
    exact answers args remoteId (isGetPeers ▸ asks) datagram token tick { tells with
      begun := Nat.le_trans met.ticks tells.begun
      issuing := sameTokens ▸ tells.issuing }

theorem Passes.token_given {ip : String} {args : Message}
    (passes : Passes env node ip (Value.asBytes (args.get? "token"))) : args ≠ [] := by
  intro empty
  rcases passes.valid with ⟨given, _, isGiven, _⟩
  rw [empty] at isGiven
  cases isGiven

/-- What a datagram that is not answered leaves as it was. -/
structure Unanswered (start node : DHTNode) : Prop where
  tokens : node.tokens = start.tokens
  sent : node.sent = start.sent
  peerStore : node.peerStore = start.peerStore
  ticks : start.ticks ≤ node.ticks

theorem unanswered_passive (start : DHTNode) : Passive (Unanswered start) where
  ticks _ same := { same with ticks := Nat.le_succ_of_le same.ticks }
  emitted _ _ same := { same with }
  candidates _ _ same := { same with }
  pending _ _ same := { same with }
  pendingSlots _ _ same := { same with }
  txCounter _ _ same := { same with }
  connected _ _ same := { same with }
  closing _ _ same := { same with }
  routing _ _ same := { same with }

theorem Queried.idle (env : Environment) (msg : Message) (source : Endpoint) (start : DHTNode) :
    Idle (Queried env msg source start) where
  ticks node queried := by
    rcases queried with refused | ⟨method, args, remoteId, asks, answered⟩
    · exact .inl ((Answered.idle env start _ _ source).ticks node refused)
    · exact .inr ⟨method, args, remoteId, asks, (Answered.idle env _ _ _ source).ticks node answered⟩
  emitted node emitted queried := by
    rcases queried with refused | ⟨method, args, remoteId, asks, answered⟩
    · exact .inl ((Answered.idle env start _ _ source).emitted node emitted refused)
    · exact .inr ⟨method, args, remoteId, asks,
        (Answered.idle env _ _ _ source).emitted node emitted answered⟩

/-- A datagram is a query that is answered, or nothing goes out; a query that
is not answered leaves the candidates alone too. -/
theorem datagramReceived_cases (env : Environment) (data : Bytes) (source : Endpoint)
    (start : DHTNode) :
    let node := Effects.after (datagramReceived env data source) start
    (∃ msg, receive env.config data = .ok msg ∧
      Value.asBytes (msg.get? "y") = some (ascii "q") ∧ Queried env msg source start node) ∨
    Unanswered start node ∧ ∀ msg, receive env.config data = .ok msg →
      Value.asBytes (msg.get? "y") = some (ascii "q") → Untouched start node := by
  have passive := unanswered_passive start
  have noting : Noting fun node => (∃ msg, receive env.config data = .ok msg ∧
        Value.asBytes (msg.get? "y") = some (ascii "q") ∧ Queried env msg source start node) ∨
      Unanswered start node ∧ ∀ msg, receive env.config data = .ok msg →
        Value.asBytes (msg.get? "y") = some (ascii "q") → Untouched start node :=
    { ticks := by
        intro node holds
        rcases holds with ⟨msg, received, isQuery, queried⟩ | quiet
        · exact .inl ⟨msg, received, isQuery, (Queried.idle env msg source start).ticks node queried⟩
        · exact .inr ⟨passive.ticks node quiet.1, quiet.2⟩
      note := by
        intro node record _ holds
        rcases holds with ⟨msg, received, isQuery, queried⟩ | quiet
        · exact .inl ⟨msg, received, isQuery,
            (Queried.idle env msg source start).emitted node _ queried⟩
        · exact .inr ⟨passive.emitted node _ quiet.1, quiet.2⟩ }
  have same : Unanswered start start := ⟨rfl, rfl, rfl, Nat.le_refl _⟩
  refine (datagramReceived_rule noting env data source start
    (.inr ⟨same, fun _ _ _ => ⟨rfl, rfl⟩⟩) ?_ ?_).after rfl
  · intro msg _ received isQuery _
    exact (handleQuery_ensures env msg source start).weaken (fun _ same => same)
      (fun _ _ queried => .inl ⟨msg, received, isQuery, queried⟩)
      fun _ _ queried => .inl ⟨msg, received, isQuery, queried⟩
  · intro msg _ received kind
    have noQuery : ∀ node other, receive env.config data = .ok other →
        Value.asBytes (other.get? "y") = some (ascii "q") → Untouched start node := by
      intro node other isOther isQuery
      rw [received] at isOther
      rw [← Except.ok.inj isOther] at isQuery
      rcases kind with same | same <;> exact absurd (same.symm.trans isQuery) (by decide)
    exact (passive.handleResponseOrError env msg source kind start same).weaken
      (fun _ same => same) (fun _ node quiet => .inr ⟨quiet, noQuery node⟩)
      fun _ node quiet => .inr ⟨quiet, noQuery node⟩

end tokened

end DHTNode

namespace NodeSystem

variable {env : Environment} {start system next : NodeSystem}

/-- The datagram went out in answer to a `get_peers` query that arrived in the run, with the
token that the reading at that tick issued for it. -/
def AnswersGetPeers (env : Environment) (start : NodeSystem) (events : List NodeEvent)
    (datagram : Sent) (token : Bytes) (tick : Nat) : Prop :=
  ∃ earlier data rest before msg args remoteId,
    events = earlier ++ .datagram data datagram.endpoint :: rest ∧
      Transition.run (step env) start earlier = some before ∧
      DHTNode.receive env.config data = .ok msg ∧
      Value.asBytes (msg.get? "y") = some (ascii "q") ∧
      DHTNode.Asks msg (ascii "get_peers") args remoteId ∧
      DHTNode.Tells env before.node
        (Effects.after (DHTNode.datagramReceived env data datagram.endpoint) before.node)
        datagram.endpoint datagram token tick

theorem AnswersGetPeers.snoc {events : List NodeEvent} {datagram : Sent} {token : Bytes} {tick : Nat}
    (answers : AnswersGetPeers env start events datagram token tick) (event : NodeEvent) :
    AnswersGetPeers env start (events ++ [event]) datagram token tick := by
  rcases answers with ⟨earlier, data, rest, before, msg, args, remoteId, split, others⟩
  exact ⟨earlier, data, rest ++ [event], before, msg, args, remoteId, by simp [split], others⟩

/-- Every token that went out in a run answers a `get_peers` query. -/
theorem run_tokened
    (monotone : ∀ earlier later, earlier ≤ later → env.monotonicNs earlier ≤ env.monotonicNs later)
    {nodeId : Bytes} {candidates : CandidateManager} {txCounter : Nat} {localIps : List String}
    (made : new env nodeId candidates txCounter localIps = .ok start) {events : List NodeEvent}
    (ran : Transition.run (step env) start events = some system) :
    DHTNode.Tokened env (AnswersGetPeers env start events) system.node := by
  refine Transition.invariant_history (fun events system =>
    DHTNode.Tokened env (AnswersGetPeers env start events) system.node) ?_ ?_ ran
  · intro inputs event state next before tokened taken
    have grown := tokened.mono fun datagram token tick answers => answers.snoc event
    have roaming := DHTNode.tokened_roaming env (AnswersGetPeers env start (inputs ++ [event]))
    have enduring := roaming.enduring (DHTNode.tokened_unbooked env _) env
      fun message endpoint none => DHTNode.tokened_outgoing none endpoint
    refine node_of_event enduring (fun data source same => ?_) grown taken
    rcases DHTNode.datagramReceived_cases env data source state.node with
      ⟨msg, received, isQuery, queried⟩ | ⟨quiet, _⟩
    · apply DHTNode.Queried.tokened monotone grown queried
      intro args remoteId asks datagram token tick tells
      have goal := tells.goal
      rw [same]
      exact ⟨inputs, data, [], state, msg, args, remoteId, by rw [goal], before, received, isQuery,
        asks, by rw [goal]; exact tells⟩
    · rcases grown with ⟨current, previous, keyed, young, issued⟩
      refine ⟨current, previous, quiet.tokens ▸ keyed, fun tick later => ?_, ?_⟩
      · rw [quiet.tokens]
        exact young tick (Nat.le_trans quiet.ticks later)
      · rw [quiet.tokens, quiet.sent]
        exact issued
  · rcases new_ok made with ⟨_, _, routing, _, same⟩
    rw [same]
    refine ⟨0, 1, TokenManager.keyed_new env _, fun tick later => ?_, fun _ member => ?_⟩
    · exact monotone 1 tick (Nat.le_of_succ_le later)
    · exact absurd member (List.not_mem_nil)

/-- Different pairs of a drawn secret and an address give different tokens. -/
def Distinctive (env : Environment) (drawn : Nat) (ips : String → Prop) : Prop :=
  ∀ first second ip other token, first < drawn → second < drawn → ips ip → ips other →
    TokenManager.derive env (env.secretAt first) ip = .ok token →
    TokenManager.derive env (env.secretAt second) other = .ok token → first = second ∧ ip = other

/-- The address of the source of some datagram. -/
def Sourced (events : List NodeEvent) (ip : String) : Prop :=
  ∃ data port, NodeEvent.datagram data (ip, port) ∈ events

/-- A sender of an announcement with a token that passes uses one that the node has issued. -/
def Honest (env : Environment) (system : NodeSystem) (data : Bytes) (source : Endpoint) : Prop :=
  ∀ msg args remoteId token, DHTNode.receive env.config data = .ok msg →
    DHTNode.Asks msg (ascii "announce_peer") args remoteId →
    Value.asBytes (args.get? "token") = some token →
    DHTNode.Passes env
      (DHTNode.greeted env msg source (ascii "announce_peer") remoteId system.node) source.1
      (some token) →
    ∃ datagram ∈ system.node.sent, datagram.Issues token

/-- What a datagram may add to the peer store: endpoints at the address that it
came from, with a token that was issued to this address no longer before than tokens are valid. -/
structure Announces (env : Environment) (start : NodeSystem) (events : List NodeEvent)
    (system : NodeSystem) (data : Bytes) (source : Endpoint) (next : NodeSystem) : Prop where
  added : ∀ entry ∈ next.node.peerStore.entries, entry ∉ system.node.peerStore.entries →
    entry.2.1.1 = source.1 ∧ ∃ msg args remoteId token datagram tick,
      DHTNode.receive env.config data = .ok msg ∧
      Value.asBytes (msg.get? "y") = some (ascii "q") ∧
      DHTNode.Asks msg (ascii "announce_peer") args remoteId ∧
      Value.asBytes (args.get? "token") = some token ∧
      datagram ∈ system.node.sent ∧ datagram.Issues token ∧ datagram.endpoint.1 = source.1 ∧
      AnswersGetPeers env start events datagram token tick ∧
      -- of the two readings that the check makes the second one is compared
      env.monotonicNs ((DHTNode.greeted env msg source (ascii "announce_peer") remoteId
        system.node).ticks + 1) - env.monotonicNs tick ≤
          nanoseconds env.config.dhtTokenValidity
  refused : ∀ msg args remoteId, DHTNode.receive env.config data = .ok msg →
    Value.asBytes (msg.get? "y") = some (ascii "q") →
    DHTNode.Asks msg (ascii "announce_peer") args remoteId →
    ¬ DHTNode.Passes env
      (DHTNode.greeted env msg source (ascii "announce_peer") remoteId system.node) source.1
      (Value.asBytes (args.get? "token")) →
    next.node.peerStore = system.node.peerStore ∧ next.node.candidates = system.node.candidates

/-- A token that passes was issued to the same address, and is young enough. -/
theorem token_issued {events : List NodeEvent} {data : Bytes} {source : Endpoint} {msg args : Message}
    {remoteId : Bytes} {asked : Sent → Bytes → Nat → Prop}
    (tokened : DHTNode.Tokened env asked system.node)
    (heard : ∀ datagram token tick, asked datagram token tick → Sourced events datagram.endpoint.1)
    (distinctive : Distinctive env (system.node.tokens.drawn + 2)
      fun ip => ip = source.1 ∨ Sourced events ip)
    (honest : Honest env system data source)
    (received : DHTNode.receive env.config data = .ok msg)
    (asks : DHTNode.Asks msg (ascii "announce_peer") args remoteId)
    (passes : DHTNode.Passes env
      (DHTNode.greeted env msg source (ascii "announce_peer") remoteId system.node) source.1
      (Value.asBytes (args.get? "token"))) :
    ∃ token datagram tick, Value.asBytes (args.get? "token") = some token ∧
      datagram ∈ system.node.sent ∧ datagram.Issues token ∧ datagram.endpoint.1 = source.1 ∧
      asked datagram token tick ∧
      env.monotonicNs ((DHTNode.greeted env msg source (ascii "announce_peer") remoteId
        system.node).ticks + 1) - env.monotonicNs tick ≤
          nanoseconds env.config.dhtTokenValidity := by
  have met := DHTNode.greeted_greeted env msg source (ascii "announce_peer") remoteId system.node
  have sameTokens : (DHTNode.greeted env msg source (ascii "announce_peer") remoteId
      system.node).tokens = system.node.tokens := by
    rw [met.same]
  rcases passes.valid with ⟨token, turned, isToken, rotated, valid⟩
  rcases honest msg args remoteId token received asks isToken (isToken ▸ passes) with
    ⟨datagram, member, issues⟩
  rcases tokened with ⟨current, previous, keyed, _, issued⟩
  rcases issued datagram member token issues with ⟨tick, wasAsked, index, drawn, derived, madeBy⟩
  have sourced := heard datagram token tick wasAsked
  rw [sameTokens] at rotated
  rcases keyed.rotate rotated with ⟨current', previous', rotation⟩
  have stillMade := rotation.made index _ drawn madeBy
  have few := rotation.drawn
  have newer := rotation.keyed.currentDrawn
  have older := rotation.keyed.previousDrawn
  rcases valid with ⟨young, gives⟩ | ⟨young, gives⟩
  · rw [rotation.keyed.isCurrent] at gives
    have same := distinctive index current' _ _ token (by omega) (by omega)
      (.inr sourced) (.inl rfl) derived gives
    have made := stillMade.ofCurrent same.1
    exact ⟨token, datagram, tick, isToken, member, issues, same.2, wasAsked, by omega⟩
  · rw [rotation.keyed.isPrevious] at gives
    have same := distinctive index previous' _ _ token (by omega) (by omega)
      (.inr sourced) (.inl rfl) derived gives
    have made := stillMade.ofPrevious same.1
    exact ⟨token, datagram, tick, isToken, member, issues, same.2, wasAsked, by omega⟩

/-- In every run with a clock that does not go back, whatever rotations are
late or left out, a peer is stored only for its own address and with a token
that was issued to this address and has not expired. -/
theorem run_announces (env : Environment)
    (monotone : ∀ earlier later, earlier ≤ later → env.monotonicNs earlier ≤ env.monotonicNs later)
    (nodeId : Bytes) (candidates : CandidateManager) (txCounter : Nat) (localIps : List String)
    (start : NodeSystem) (made : new env nodeId candidates txCounter localIps = .ok start)
    (events : List NodeEvent) (system : NodeSystem)
    (ran : Transition.run (step env) start events = some system) (data : Bytes)
    (source : Endpoint) (next : NodeSystem)
    (taken : step env system (.datagram data source) = some next)
    (distinctive : Distinctive env (system.node.tokens.drawn + 2)
      fun ip => ip = source.1 ∨ Sourced events ip)
    (honest : Honest env system data source) :
    Announces env start events system data source next := by
  have tokened := run_tokened monotone made ran
  have heard : ∀ datagram token tick, AnswersGetPeers env start events datagram token tick →
      Sourced events datagram.endpoint.1 := by
    intro datagram token tick answers
    rcases answers with ⟨earlier, query, rest, _, _, _, _, split, _⟩
    exact ⟨query, datagram.endpoint.2, by simp [split]⟩
  cases taken
  have cases := DHTNode.datagramReceived_cases env data source system.node
  constructor
  · intro entry member new
    rcases cases with ⟨msg, received, isQuery, queried⟩ | ⟨quiet, _⟩
    · rcases queried with ⟨turn, refused⟩ | ⟨method, args, remoteId, asks, turn, responded⟩
      · rcases refused.store entry member with old | ⟨_, _, passes⟩
        · exact absurd old new
        · exact absurd rfl passes.token_given
      · have met := (DHTNode.greeted_greeted env msg source method remoteId system.node).same
        rcases responded.store entry member with old | ⟨isAnnounce, sameIp, passes⟩
        · rw [met] at old
          exact absurd old new
        · rw [isAnnounce] at asks passes
          rcases token_issued tokened heard distinctive honest received asks passes with
            ⟨token, datagram, tick, isToken, sent, issues, goal, answers, young⟩
          exact ⟨sameIp, msg, args, remoteId, token, datagram, tick, received, isQuery, asks,
            isToken, sent, issues, goal, answers, young⟩
    · exact absurd (quiet.peerStore ▸ member) new
  · intro msg args remoteId received isQuery asks fails
    rcases cases with ⟨other, isOther, _, queried⟩ | ⟨_, untouched⟩
    · have same : other = msg := Except.ok.inj (isOther.symm.trans received)
      rw [same] at queried
      rcases queried with ⟨turn, refused⟩ | ⟨method, others, otherId, otherAsks, turn, responded⟩
      · exact refused.untouched rfl fun passes => absurd rfl passes.token_given
      · have sameMethod : method = ascii "announce_peer" :=
          Option.some.inj (otherAsks.query.symm.trans asks.query)
        have sameArgs : others = args :=
          Option.some.inj (otherAsks.arguments.symm.trans asks.arguments)
        rw [sameArgs] at otherAsks responded
        have sameId : otherId = remoteId :=
          Option.some.inj (otherAsks.sender.symm.trans asks.sender)
        rw [sameMethod, sameId] at responded
        have untouched := responded.untouched rfl fails
        have met := (DHTNode.greeted_greeted env msg source (ascii "announce_peer") remoteId
          system.node).same
        rw [met] at untouched
        exact untouched
    · exact untouched msg received isQuery

/-- A node that has been asked for peers. -/
def asked : List NodeEvent :=
  [.connect,
    .datagram (ascii ("d1:ad2:id20:qrstuvwxyzabcdefghij9:info_hash20:ABCDEFGHIJKLMNOPQRSTe" ++
      "1:q9:get_peers1:t2:aa1:y1:qe")) ("9.9.9.9", 6881)]

/-- An announcement with the token that was in the answer. -/
def announcing : Bytes :=
  ascii ("d1:ad2:id20:qrstuvwxyzabcdefghij9:info_hash20:ABCDEFGHIJKLMNOPQRST" ++
    "4:porti6881e5:token5:\x09\x09\x09\x09\x00e1:q13:announce_peer1:t2:aa1:y1:qe")

/-- The token in the response of a datagram that went out. -/
def issuedToken (datagram : Sent) : Option Bytes :=
  Value.asBytes (((Value.asDict (datagram.message.get? "r")).getD []).get? "token")

theorem issues_of_issuedToken {datagram : Sent} {token : Bytes}
    (issued : issuedToken datagram = some token) : datagram.Issues token := by
  unfold issuedToken at issued
  cases found : Value.asDict (datagram.message.get? "r") with
  | none =>
      rw [found] at issued
      cases issued
  | some response =>
      rw [found] at issued
      exact ⟨response, found, issued⟩

theorem quietWorld_distinctive : Distinctive quietWorld 4
    fun ip => ip = ("9.9.9.9", (6881 : Int)).1 ∨ Sourced asked ip := by
  have derives : ∀ index, index < 4 → TokenManager.derive quietWorld
      (quietWorld.secretAt index) "9.9.9.9" = .ok [9, 9, 9, 9, UInt8.ofNat index] := by
    decide +kernel
  have only : ∀ ip, (ip = ("9.9.9.9", (6881 : Int)).1 ∨ Sourced asked ip) → ip = "9.9.9.9" := by
    intro ip known
    rcases known with same | ⟨data, port, member⟩
    · exact same
    · simp [asked] at member
      exact member.2.1
  intro first second ip other token small smaller known knownOther left right
  rw [only ip known, only other knownOther] at *
  rw [derives first small] at left
  rw [derives second smaller, ← left] at right
  simp only [Except.ok.injEq, List.cons.injEq, and_true, true_and] at right
  have same := congrArg UInt8.toNat right
  simp only [UInt8.toNat_ofNat'] at same
  exact ⟨by omega, rfl⟩

theorem run_announces_sample : ∃ start system next, quietNode = .ok start ∧
    Transition.run (step quietWorld) start asked = some system ∧
    step quietWorld system (.datagram announcing ("9.9.9.9", 6881)) = some next ∧
    next.node.peerStore.entries ≠ [] ∧
    Announces quietWorld start asked system announcing ("9.9.9.9", 6881) next := by
  rcases quiet_check (show (quietNode.toOption.bind fun start =>
      (Transition.run (step quietWorld) start asked).map fun system =>
        decide (system.node.tokens.drawn = 2) &&
        system.node.sent.any (fun datagram => issuedToken datagram = some [9, 9, 9, 9, 0]) &&
        !(Effects.after (DHTNode.datagramReceived quietWorld announcing ("9.9.9.9", 6881))
          system.node).peerStore.entries.isEmpty) =
        some true by decide +kernel) with ⟨start, system, made, ran, checked⟩
  simp only [Bool.and_eq_true, decide_eq_true_eq, List.any_eq_true] at checked
  rcases checked with ⟨⟨drawn, datagram, member, issued⟩, stored⟩
  have offered : (DHTNode.receive quietWorld.config announcing).toOption.map (fun msg =>
      Value.asBytes (((Value.asDict (msg.get? "a")).getD []).get? "token")) =
      some (some [9, 9, 9, 9, 0]) := by decide +kernel
  refine ⟨start, system, _, made, ran, rfl, ?_, ?_⟩
  · intro empty
    rw [empty] at stored
    cases stored
  apply run_announces quietWorld (fun _ _ order => Int.ofNat_le.mpr order) _ _ _ _ start made
    asked system ran announcing ("9.9.9.9", 6881) _ rfl
  · rw [drawn]
    exact quietWorld_distinctive
  · intro msg args remoteId token received asks isToken _
    rw [received] at offered
    have same : Value.asBytes (((Value.asDict (msg.get? "a")).getD []).get? "token") =
        some [9, 9, 9, 9, 0] := Option.some.inj offered
    rw [asks.arguments, Option.getD_some, isToken] at same
    exact ⟨datagram, member, issues_of_issuedToken (issued.trans same.symm)⟩

end NodeSystem

end PyDht
