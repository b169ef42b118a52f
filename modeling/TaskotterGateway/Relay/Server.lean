import TaskotterGateway.Relay.Handler

/-! The gateway serves many relay requests at once, in any order of their steps (`main.rs`,
`lib.rs`). The handlers share nothing but the source of new identifiers, which the provider
adapter and others draw from as well. The policy engine and the provider may answer
differently each time that they are asked; a client that goes away leaves a handler that no
later step takes up.
-/

namespace TaskotterGateway.Relay

open Interleaving

/-- What the policy engine may decide, and what the provider may answer. -/
structure Surroundings where
  Decides : PolicyCheck → PolicyDecision → Prop
  Routes
    : NormalizedProviderRequest → PolicyDecision → Except GatewayError ProviderResponse → Prop

/-- The surroundings answer a handler; a new identifier is the next one of the source. -/
inductive Surroundings.Responds (surroundings : Surroundings) (ids : Nat → Uuid)
    : Nat → Handled → Nat → Prop where
  | decides {drawn : Nat} {check : PolicyCheck} {decision : PolicyDecision}
    (decides : surroundings.Decides check decision)
    : Responds surroundings ids drawn (evaluated check decision) drawn
  | routes {drawn : Nat} {request : NormalizedProviderRequest} {decision : PolicyDecision}
    {result : Except GatewayError ProviderResponse}
    (routes : surroundings.Routes request decision result)
    : Responds surroundings ids drawn (routed request decision result) drawn
  | draws {drawn : Nat} : Responds surroundings ids drawn (drew (ids drawn)) (drawn + 1)

abbrev Server (κ : Type) :=
  System Question.Answer (Except GatewayError AiRelayResponse) κ Nat

variable {κ : Type} [DecidableEq κ]

/-- The gateway with a submission on each of its connections. -/
def server (surroundings : Surroundings) (submissions : κ → Submission) (source : UuidSource)
    : Server κ where
  start connection := (submissions connection).served
  initial := source.drawn
  Responds := surroundings.Responds source.ids
  Drifts before after := before ≤ after

variable {surroundings : Surroundings} {submissions : κ → Submission} {source : UuidSource}
  {state : State Question.Answer (Except GatewayError AiRelayResponse) κ Nat}

-----------------------------------------------------------------------------------------
-- The calls of a connection
-----------------------------------------------------------------------------------------

/-- The call that an exchange answers; drawing an identifier is none. -/
def callOf (exchange : Handled) : Option Call :=
  match exchange.question with
  | .evaluate check => some (.evaluate check)
  | .route request decision => some (.route request decision)
  | .newV4 => none

/-- The calls that a connection has made, in order. -/
def callsOf (connection : κ) (log : List (κ × Handled)) : List Call :=
  (exchangesOf connection log).filterMap callOf

/-- The identifiers that a submission may be handled under: its own, or one to be drawn. -/
def Submission.Obtains (submission : Submission) (source : UuidSource) (id : Uuid) : Prop :=
  match submission.requestId with
  | some name => id = name
  | none => ∃ place, source.drawn ≤ place ∧ id = source.ids place

theorem Submission.Obtains.eq_of_named {submission : Submission} {source : UuidSource}
    {id : Uuid} (obtains : submission.Obtains source id)
    : ∀ name ∈ submission.requestId, id = name := by
  intro name present
  rw [Option.mem_def] at present
  simpa [Obtains, present] using obtains

/-- What a connection has gone through, once its submission has an identifier. -/
structure Served (submission : Submission) (trace : List Handled)
    (rest : Handler (Except GatewayError AiRelayResponse)) (id : Uuid)
    (later : List Handled)
    : Prop where
  trace : ∃ opening, submission.Opens id opening ∧ trace = opening ++ later
  handling : Handling (submission.request id) later rest

theorem drawn_le_of_reachable
    (reachable : (server surroundings submissions source).Reachable state)
    : source.drawn ≤ state.surroundings := by
  apply reachable.invariant (Nat.le_refl _)
  intro before after step drawn
  cases step with
  | drift drifts => exact Nat.le_trans drawn drifts
  | answer _ responds =>
      cases responds with
      | decides => exact drawn
      | routes => exact drawn
      | draws => exact Nat.le_succ_of_le drawn

/-- A drawn identifier is one that the source still had. -/
theorem exists_place_of_drew
    (reachable : (server surroundings submissions source).Reachable state) {connection : κ}
    {id : Uuid} (logged : (connection, drew id) ∈ state.log)
    : ∃ place, source.drawn ≤ place ∧ id = source.ids place := by
  obtain ⟨earlier, after, reached, responds⟩ := reachable.responded logged
  have drawn := drawn_le_of_reachable reached
  cases responds with
  | draws => exact ⟨earlier.surroundings, drawn, rfl⟩

/-- A connection that has begun is handled under an identifier of its submission. -/
theorem served_of_reachable
    (reachable : (server surroundings submissions source).Reachable state) (connection : κ)
    : (exchangesOf connection state.log = []
        ∧ state.running connection = (submissions connection).served)
      ∨ ∃ id later,
          (submissions connection).Obtains source id
          ∧ Served (submissions connection) (exchangesOf connection state.log)
            (state.running connection) id later := by
  rcases Submission.served_reaches (reachable.reaches connection) with
    ⟨_, empty, waiting⟩ | ⟨id, opening, later, opens, trace, handling⟩
  · exact .inl ⟨empty, waiting⟩
  · refine .inr ⟨id, later, ?_, ⟨opening, opens, trace⟩, handling⟩
    cases opens with
    | named named => simp [Submission.Obtains, named]
    | unnamed unnamed =>
        have logged : (connection, drew id) ∈ state.log := by
          rw [← mem_exchangesOf_iff, trace]
          exact List.mem_cons_self
        simpa [Submission.Obtains, unnamed] using exists_place_of_drew reachable logged

/-- Getting an identifier is no call. -/
theorem Submission.Opens.calls {submission : Submission} {id : Uuid} {opening : List Handled}
    (opens : submission.Opens id opening)
    : opening.filterMap callOf = [] := by
  cases opens <;> rfl

theorem Served.calls {submission : Submission} {trace later : List Handled}
    {rest : Handler (Except GatewayError AiRelayResponse)} {id : Uuid}
    (served : Served submission trace rest id later)
    : trace.filterMap callOf = later.filterMap callOf := by
  obtain ⟨opening, opens, rfl⟩ := served.trace
  rw [List.filterMap_append, opens.calls, List.nil_append]

/-- The calls of an attempt are those of the endpoint. -/
theorem Attempted.calls {payload : AiRelayRequest} {calls : List Handled}
    {decision : PolicyDecision} {result : Except GatewayError ProviderResponse}
    (attempted : Attempted payload calls decision result)
    : calls.filterMap callOf
      = .evaluate payload.policyCheck
        :: if decision.allowed then [.route payload.normalized decision] else [] := by
  cases attempted with
  | denied denied =>
      rw [denied]
      rfl
  | passed allowed result =>
      rw [allowed]
      rfl

/-- An identifier that was drawn for the request itself is not among its calls. -/
theorem Served.mem_later {submission : Submission} {trace later : List Handled}
    {rest : Handler (Except GatewayError AiRelayResponse)} {id : Uuid}
    (served : Served submission trace rest id later) {exchange : Handled} {call : Call}
    (calls : callOf exchange = some call) (member : exchange ∈ trace)
    : exchange ∈ later := by
  obtain ⟨opening, opens, rfl⟩ := served.trace
  cases opens with
  | named => exact member
  | unnamed unnamed id =>
      rcases List.mem_cons.mp member with rfl | member
      · cases calls
      · exact member

/-- An attempt asks the provider with its own request, and comes to what it answers. -/
theorem Attempted.eq_of_routed {payload : AiRelayRequest} {calls : List Handled}
    {decided : PolicyDecision} {came : Except GatewayError ProviderResponse}
    (attempted : Attempted payload calls decided came) {request : NormalizedProviderRequest}
    {decision : PolicyDecision} {result : Except GatewayError ProviderResponse}
    (asked : routed request decision result ∈ calls)
    : request = payload.normalized
      ∧ decision = decided
      ∧ result = came
      ∧ decided.allowed = true
      ∧ calls
        = [evaluated payload.policyCheck decision, routed payload.normalized decision result] := by
  cases attempted with
  | denied => cases List.mem_singleton.mp asked
  | passed allowed answer =>
      rcases List.mem_cons.mp asked with same | asked
      · cases same
      · cases List.mem_singleton.mp asked
        exact ⟨rfl, rfl, rfl, allowed, rfl⟩

/-- A handler that has asked the provider was allowed to by the engine just before. Witness:
cases on the place that the handler is at.
-/
theorem Handling.routed_allowed {payload : AiRelayRequest} {trace : List Handled}
    {rest : Handler (Except GatewayError AiRelayResponse)}
    (handling : Handling payload trace rest) {request : NormalizedProviderRequest}
    {decision : PolicyDecision} {result : Except GatewayError ProviderResponse}
    (asked : routed request decision result ∈ trace)
    : request = payload.normalized
      ∧ decision.allowed = true
      ∧ evaluated payload.policyCheck decision ∈ trace
      ∧ trace.filterMap callOf = [.evaluate payload.policyCheck, .route request decision] := by
  cases handling with
  | received => cases asked
  | waiting =>
      cases List.mem_singleton.mp asked
  | attempted attempted =>
      obtain ⟨rfl, rfl, rfl, allowed, rfl⟩ := attempted.eq_of_routed asked
      exact ⟨rfl, allowed, List.mem_cons_self, rfl⟩
  | answered attempted eventId =>
      rcases List.mem_append.mp asked with asked | asked
      · obtain ⟨rfl, rfl, rfl, allowed, rfl⟩ := attempted.eq_of_routed asked
        exact ⟨rfl, allowed, List.mem_cons_self, rfl⟩
      · cases List.mem_singleton.mp asked

/-- Whatever happens on the other connections, the provider is asked only with the request of
the connection itself, under a decision by which the engine has allowed this very request, and
once.
-/
theorem server_routes_only_allowed
    (reachable : (server surroundings submissions source).Reachable state) {connection : κ}
    {request : NormalizedProviderRequest} {decision : PolicyDecision}
    {result : Except GatewayError ProviderResponse}
    (asked : (connection, routed request decision result) ∈ state.log)
    : let submission := submissions connection
      let check : PolicyCheck := {
        subject := submission.subject
        provider := submission.provider
        operation := "ai.relay"
        requestedMaxTokens := submission.requestedMaxTokens
        estimatedCostMicroUsd := submission.estimatedCostMicroUsd
      }
      ∃ id,
        submission.Obtains source id
        ∧ request
          = {
              requestId := id
              provider := submission.provider
              messages := submission.messages
              stream := submission.stream
              timeoutMs := submission.timeoutMs
            }
        ∧ decision.allowed = true
        ∧ (connection, evaluated check decision) ∈ state.log
        ∧ callsOf connection state.log = [.evaluate check, .route request decision] := by
  intro submission check
  have exchanged := mem_exchangesOf_iff.mpr asked
  rcases served_of_reachable reachable connection with
    ⟨empty, _⟩ | ⟨id, later, obtains, served⟩
  · rw [empty] at exchanged
    cases exchanged
  · obtain ⟨same, allowed, decided, calls⟩ :=
      served.handling.routed_allowed (served.mem_later rfl exchanged)
    refine ⟨id, obtains, same, allowed, ?_, ?_⟩
    · obtain ⟨opening, _, trace⟩ := served.trace
      rw [← mem_exchangesOf_iff, trace]
      exact List.mem_append_right opening decided
    · rw [callsOf, served.calls]
      exact calls

/-- A submission of a request, with its identifier or without it. -/
def AiRelayRequest.submitted (payload : AiRelayRequest) (named : Bool) : Submission where
  requestId := if named then some payload.requestId else none
  subject := payload.subject
  provider := payload.provider
  messages := payload.messages
  stream := payload.stream
  timeoutMs := payload.timeoutMs
  requestedMaxTokens := payload.requestedMaxTokens
  estimatedCostMicroUsd := payload.estimatedCostMicroUsd

/-- An engine and a provider that may do anything. -/
def Surroundings.any : Surroundings where
  Decides _ _ := True
  Routes _ _ _ := True

/-- A decision that allows a request, without limits. -/
def allowingDecision : PolicyDecision where
  allowed := true
  decisionId := "decision_1"
  reason := none
  maxTokens := none
  maxCostMicroUsd := none

/-- A provider that has no quota left. -/
def exhaustedResult : Except GatewayError ProviderResponse :=
  .error (.quotaExceededError "usage quota exceeded")

/-- What a request goes through that is allowed, and for which no quota is left. -/
def exhaustedCalls (payload : AiRelayRequest) : List Handled :=
  [evaluated payload.policyCheck allowingDecision,
    routed payload.normalized allowingDecision exhaustedResult]

/-- Two submissions of one request are answered, of which the one with an identifier is decided
on first and answered last.
-/
theorem interleaved_reachable
    : ∃ state id,
        (server .any boundRelayPayload.submitted World.fresh.source).Reachable state
        ∧ state.surroundings = 3
        ∧ (∀ named, ∃ outcome, state.running named = .done outcome)
        ∧ (false,
            routed ((boundRelayPayload.submitted false).request id).normalized allowingDecision
              exhaustedResult)
          ∈ state.log := by
  let source := World.fresh.source
  let gateway := server .any boundRelayPayload.submitted source
  let request := (boundRelayPayload.submitted false).request (source.ids 0)
  have decided : (gateway.begin.running true).Reaches
      [evaluated boundRelayPayload.policyCheck allowingDecision]
      (.ask (.route boundRelayPayload.normalized allowingDecision)
        (accounting boundRelayPayload allowingDecision)) :=
    .ask (.stay _)
  have serves : gateway.Serves 0 [evaluated boundRelayPayload.policyCheck allowingDecision] 0 :=
    .cons (.decides trivial) (.nil 0)
  obtain ⟨waiting, first, waits, _, at0⟩ := System.exists_following decided serves
  have opens : (boundRelayPayload.submitted false).Opens (source.ids 0)
      [drew (source.ids 0)] :=
    .unnamed rfl _
  have attempted : Attempted request (exhaustedCalls request) allowingDecision exhaustedResult :=
    .passed rfl _
  have handled := opens.reaches.trans
    (attempted.reaches.trans (accounting_reaches _ _ _ (source.ids 1)))
  have idle : waiting.running false = (boundRelayPayload.submitted false).served := by
    rw [waits]
    rfl
  rw [← idle] at handled
  have serves : gateway.Serves waiting.surroundings
      ([drew (source.ids 0)] ++ (exhaustedCalls request ++ [drew (source.ids 1)])) 2 := by
    rw [at0]
    exact .cons .draws (.cons (.decides trivial) (.cons (.routes trivial) (.cons .draws (.nil 2))))
  obtain ⟨answered, second, finishes, log, at2⟩ := System.exists_following handled serves
  have last : (answered.running true).Reaches
      [routed boundRelayPayload.normalized allowingDecision exhaustedResult,
        drew (source.ids 2)]
      (.done
        (withAccount exhaustedResult
          (boundRelayPayload.eventUnder allowingDecision (attemptStatus exhaustedResult)
            (source.ids 2)))) := by
    rw [finishes, waits]
    exact .ask (.ask (.stay _))
  have serves : gateway.Serves answered.surroundings
      [routed boundRelayPayload.normalized allowingDecision exhaustedResult,
        drew (source.ids 2)] 3 := by
    rw [at2]
    exact .cons (.routes trivial) (.cons .draws (.nil 3))
  obtain ⟨final, third, ends, logged, at3⟩ := System.exists_following last serves
  refine ⟨final, source.ids 0, (first.trans second).trans third, at3, ?_, ?_⟩
  · intro named
    rw [ends, finishes]
    cases named with
    | false => exact ⟨_, rfl⟩
    | true => exact ⟨_, rfl⟩
  · rw [logged, log]
    simp [exhaustedCalls, request]

/-- The provider is asked for one submission while another waits for its answer. -/
theorem server_routes_only_allowed_interleaved
    : ∃ state id,
        (server .any boundRelayPayload.submitted World.fresh.source).Reachable state
        ∧ (boundRelayPayload.submitted false).Obtains World.fresh.source id
        ∧ callsOf false state.log
          = [.evaluate ((boundRelayPayload.submitted false).request id).policyCheck,
              .route ((boundRelayPayload.submitted false).request id).normalized
                allowingDecision] := by
  obtain ⟨state, _, reachable, _, _, asked⟩ := interleaved_reachable
  obtain ⟨id, obtains, same, _, _, calls⟩ := server_routes_only_allowed reachable asked
  rw [same] at calls
  exact ⟨state, id, reachable, obtains, calls⟩

-----------------------------------------------------------------------------------------
-- A connection among others behaves as it does alone
-----------------------------------------------------------------------------------------

/-- A gateway answers what a request asks in a way that the surroundings may. -/
structure Surroundings.Permits (surroundings : Surroundings) (gateway : GatewayState)
    (payload : AiRelayRequest)
    : Prop where
  decides : surroundings.Decides payload.policyCheck (gateway.policy payload.policyCheck)
  routes : (gateway.policy payload.policyCheck).allowed = true → ∀ source,
    surroundings.Routes payload.normalized (gateway.policy payload.policyCheck)
      ((gateway.providers.route payload.normalized (gateway.policy payload.policyCheck)).run
        source).1

/-- A gateway whose engine and provider always answer the same. -/
def GatewayState.answering (decision : PolicyDecision)
    (result : Except GatewayError ProviderResponse)
    : GatewayState where
  providers := { stub := fun _ _ => pure result }
  policy _ := decision

/-- A gateway that answers as the attempt was answered makes the same attempt. -/
theorem Attempted.run_answering {payload : AiRelayRequest} {calls : List Handled}
    {decision : PolicyDecision} {result : Except GatewayError ProviderResponse}
    (attempted : Attempted payload calls decision result) (world : World)
    : (attempt (.answering decision result) payload).run world
      = (result, { world with calls := world.calls ++ calls.filterMap callOf }) := by
  cases attempted with
  | denied denied =>
      rw [attempt_run_denied denied]
      rfl
  | passed allowed =>
      rw [attempt_run_allowed allowed]
      have joined :=
        List.append_assoc world.calls [.evaluate payload.policyCheck]
          [.route payload.normalized decision]
      exact congrArg (fun calls => (result, { world with calls := calls })) joined

omit [DecidableEq κ] in
/-- What a permitted gateway makes of a request is an attempt that the surroundings may
answer, by cases on the decision.
-/
theorem Surroundings.Permits.attempted {gateway : GatewayState} {payload : AiRelayRequest}
    (permits : surroundings.Permits gateway payload) (submissions : κ → Submission)
    (source : UuidSource) (world : World) (drawn : Nat)
    : ∃ calls,
        Attempted payload calls (gateway.policy payload.policyCheck)
          ((attempt gateway payload).run world).1
        ∧ (server surroundings submissions source).Serves drawn calls drawn := by
  cases allowed : (gateway.policy payload.policyCheck).allowed with
  | false =>
      rw [attempt_run_denied allowed]
      exact ⟨_, .denied allowed, .cons (.decides permits.decides) (.nil drawn)⟩
  | true =>
      rw [attempt_run_allowed allowed]
      exact ⟨_, .passed allowed _,
        .cons (.decides permits.decides)
          (.cons (.routes (permits.routes allowed world.source)) (.nil drawn))⟩

/-- Before anything is asked, a submission can get each identifier that it may be handled
under, drawing it once the others before it are drawn.
-/
theorem exists_opening (surroundings : Surroundings) {connection : κ} {id : Uuid}
    (obtains : (submissions connection).Obtains source id)
    : ∃ waiting opening drawn,
        (server surroundings submissions source).Reachable waiting
        ∧ waiting.running connection = (submissions connection).served
        ∧ waiting.log = []
        ∧ (submissions connection).Opens id opening
        ∧ (server surroundings submissions source).Serves waiting.surroundings opening drawn := by
  cases named : (submissions connection).requestId with
  | some name =>
      simp only [Submission.Obtains, named] at obtains
      subst obtains
      exact ⟨_, [], _, .refl, rfl, rfl, .named named, .nil _⟩
  | none =>
      simp only [Submission.Obtains, named] at obtains
      obtain ⟨place, later, rfl⟩ := obtains
      let waiting := { (server surroundings submissions source).begin with surroundings := place }
      have reached : (server surroundings submissions source).Reachable waiting :=
        .single (.drift later)
      exact ⟨waiting, [drew (source.ids place)], place + 1, reached, rfl, rfl,
        .unnamed named _, .cons .draws (.nil _)⟩

/-- A gateway that answers as an attempt was answered is permitted, by cases on the attempt.
-/
theorem Attempted.permits {payload : AiRelayRequest} {calls : List Handled}
    {decision : PolicyDecision} {result : Except GatewayError ProviderResponse}
    (attempted : Attempted payload calls decision result) {ids : Nat → Uuid}
    (responded : ∀ exchange ∈ calls, ∃ before after,
      surroundings.Responds ids before exchange after)
    : surroundings.Permits (.answering decision result) payload := by
  cases attempted with
  | denied denied =>
      obtain ⟨before, after, responds⟩ := responded _ List.mem_cons_self
      cases responds with
      | decides decides =>
          refine ⟨decides, ?_⟩
          intro allowed
          exact absurd (denied.symm.trans allowed) Bool.false_ne_true
  | passed allowed =>
      obtain ⟨before, after, decided⟩ := responded _ List.mem_cons_self
      obtain ⟨asked, answered, responds⟩ :=
        responded _ (List.mem_cons_of_mem _ List.mem_cons_self)
      cases decided with
      | decides decides =>
          cases responds with
          | routes routes => exact ⟨decides, fun _ _ => routes⟩

/-- The calls of a handled request are those of its attempt. -/
theorem relayAiRequest_calls (gateway : GatewayState) (payload : AiRelayRequest)
    (world : World)
    : ((relayAiRequest gateway payload).run world).2.calls
      = world.calls
        ++ .evaluate payload.policyCheck
          :: if (gateway.policy payload.policyCheck).allowed then
              [.route payload.normalized (gateway.policy payload.policyCheck)]
            else
              [] := by
  rw [relayAiRequest_run, ← attempt_calls]
  rfl

/-- The finished connections are listed, each once. -/
theorem recorded_of_reachable
    (reachable : (server surroundings submissions source).Reachable state)
    : System.Recorded state :=
  reachable.recorded (fun connection => (submissions connection).outcome_served)

/-- What a finished connection has gone through, under an identifier of its submission. -/
theorem attempted_of_finished
    (reachable : (server surroundings submissions source).Reachable state) {connection : κ}
    {outcome : Except GatewayError AiRelayResponse}
    (finished : (connection, outcome) ∈ state.finished)
    : ∃ id opening calls decision result eventId,
        (submissions connection).Obtains source id
        ∧ (submissions connection).Opens id opening
        ∧ Attempted ((submissions connection).request id) calls decision result
        ∧ exchangesOf connection state.log = opening ++ (calls ++ [drew eventId])
        ∧ outcome
          = withAccount result
              (((submissions connection).request id).eventUnder decision
                (attemptStatus result) eventId) := by
  have ended := (recorded_of_reachable reachable).listed.mp finished
  rcases served_of_reachable reachable connection with
    ⟨_, waiting⟩ | ⟨id, later, obtains, served⟩
  · have unfinished := (submissions connection).outcome_served
    rw [← waiting, ended] at unfinished
    cases unfinished
  · rw [ended] at served
    obtain ⟨opening, opens, trace⟩ := served.trace
    obtain ⟨calls, decision, result, eventId, attempted, rfl, same⟩ :=
      served.handling.finished
    exact ⟨id, opening, calls, decision, result, eventId, obtains, opens, attempted, trace, same⟩

/-- What a connection was answered is what the surroundings may answer. -/
theorem responded_of_exchangesOf
    (reachable : (server surroundings submissions source).Reachable state) {connection : κ}
    {exchange : Handled} (exchanged : exchange ∈ exchangesOf connection state.log)
    : ∃ before after, surroundings.Responds source.ids before exchange after := by
  obtain ⟨earlier, after, _, responds⟩ := reachable.responded (mem_exchangesOf_iff.mp exchanged)
  exact ⟨_, after, responds⟩

/-- A connection among others can be answered exactly as it can be when it has a gateway to
itself: with the same calls on the engine and the provider, and the same outcome, of which only
the identifier of the event is drawn. Witness: what it has gone through is replayed by a gateway
that answers so; a run by itself is one order of the steps.
-/
theorem server_answers_iff_alone (surroundings : Surroundings)
    (submissions : κ → Submission) (source : UuidSource) (connection : κ)
    (calls : List Call) (answered : Except GatewayError AiRelayResponse)
    : (∃ state outcome,
        (server surroundings submissions source).Reachable state
        ∧ (connection, outcome) ∈ state.finished
        ∧ callsOf connection state.log = calls
        ∧ mapEvent .unidentified outcome = answered)
      ↔ ∃ id gateway world,
          (submissions connection).Obtains source id
          ∧ surroundings.Permits gateway ((submissions connection).request id)
          ∧ let ran := (relayAiRequest gateway ((submissions connection).request id)).run world
            ran.2.calls = world.calls ++ calls
            ∧ mapEvent .unidentified ran.1 = answered := by
  constructor
  · intro among
    obtain ⟨state, outcome, reachable, finished, rfl, rfl⟩ := among
    obtain ⟨id, opening, exchanges, decision, result, eventId, obtains, opens, attempted, trace,
      rfl⟩ := attempted_of_finished reachable finished
    let world : World := { source := { ids := fun _ => eventId, drawn := 0 }, calls := [] }
    have permits : surroundings.Permits (.answering decision result)
        ((submissions connection).request id) := by
      apply attempted.permits
      intro exchange member
      have exchanged : exchange ∈ exchangesOf connection state.log := by
        rw [trace]
        exact List.mem_append_right _ (List.mem_append_left _ member)
      exact responded_of_exchangesOf reachable exchanged
    refine ⟨id, .answering decision result, world, obtains, permits, ?_, ?_⟩
    · rw [relayAiRequest_calls, callsOf, trace, List.filterMap_append, opens.calls,
        List.filterMap_append, attempted.calls]
      exact congrArg _ (List.append_nil _).symm
    · rw [relayAiRequest_run, attempted.run_answering]
      rfl
  · intro alone
    obtain ⟨id, gateway, world, obtains, permits, made, rfl⟩ := alone
    obtain ⟨waiting, opening, drawn, reached, running, empty, opens, serves⟩ :=
      exists_opening surroundings obtains
    obtain ⟨exchanges, attempted, served⟩ :=
      permits.attempted submissions source world drawn
    have reaches := opens.reaches.trans
      (attempted.reaches.trans (accounting_reaches _ _ _ (source.ids drawn)))
    rw [← running] at reaches
    obtain ⟨final, steps, running, log, _⟩ :=
      System.exists_following reaches (serves.trans (served.trans (.cons .draws (.nil _))))
    have finished := congrFun running connection
    rw [Function.update_self] at finished
    have reachable := Relation.ReflTransGen.trans reached steps
    refine ⟨final, _, reachable, (recorded_of_reachable reachable).listed.mpr finished, ?_, ?_⟩
    · rw [relayAiRequest_calls, List.append_cancel_left_eq, ← attempted.calls] at made
      rw [← made, callsOf, log, empty, List.nil_append, exchangesOf_map_self,
        List.filterMap_append, List.filterMap_append, opens.calls, List.nil_append]
      exact List.append_nil _
    · obtain ⟨eventId, outcome⟩ :=
        relayAiRequest_eventUnder gateway ((submissions connection).request id) world
      rw [outcome, mapEvent_withAccount, mapEvent_withAccount,
        AiRelayRequest.unidentified_eventUnder, AiRelayRequest.unidentified_eventUnder]

/-- What a submission is answered while another waits is what some gateway answers it alone. -/
theorem server_answers_iff_alone_interleaved
    : ∃ state outcome id gateway world,
        (server .any boundRelayPayload.submitted World.fresh.source).Reachable state
        ∧ (false, outcome) ∈ state.finished
        ∧ (boundRelayPayload.submitted false).Obtains World.fresh.source id
        ∧ let ran :=
            (relayAiRequest gateway ((boundRelayPayload.submitted false).request id)).run world
          ran.2.calls = world.calls ++ callsOf false state.log
          ∧ mapEvent .unidentified ran.1 = mapEvent .unidentified outcome := by
  obtain ⟨state, _, reachable, _, done, _⟩ := interleaved_reachable
  obtain ⟨outcome, ended⟩ := done false
  have finished := (recorded_of_reachable reachable).listed.mpr ended
  obtain ⟨id, gateway, world, obtains, _, alone⟩ :=
    (server_answers_iff_alone .any boundRelayPayload.submitted World.fresh.source false _ _).mp
      ⟨state, outcome, reachable, finished, rfl, rfl⟩
  exact ⟨state, outcome, id, gateway, world, reachable, finished, obtains, alone⟩

end TaskotterGateway.Relay
