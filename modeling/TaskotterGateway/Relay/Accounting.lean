import TaskotterGateway.Relay.Implementation

/-! Every relay attempt is accounted for by one event. The three paths through the endpoint
are one: the request is attempted, and then the result, whatever it is, is accounted for
by an event made for this request under the engine's decision.
-/

namespace TaskotterGateway.Relay

-----------------------------------------------------------------------------------------
-- An attempt, and its account
-----------------------------------------------------------------------------------------

/-- Drawing identifiers leaves the calls as they are. -/
@[simp]
theorem run_drawing {α : Type} (action : StateM UuidSource α) (world : World)
    : (drawing action).run world
      = ((action.run world.source).1, { world with source := (action.run world.source).2 }) :=
  rfl

/-- Binding threads the state; witness: definitional equality. -/
@[simp]
theorem run_bind {σ α β : Type} (action : StateM σ α) (next : α → StateM σ β) (state : σ)
    : (action >>= next).run state = (next (action.run state).1).run (action.run state).2 :=
  rfl

@[simp]
theorem GatewayState.run_evaluate (state : GatewayState) (check : PolicyCheck) (world : World)
    : (state.evaluate check).run world = (state.policy check, world.called (.evaluate check)) :=
  rfl

/-- What the engine and the provider make of a request. -/
def attempt (state : GatewayState) (payload : AiRelayRequest)
    : StateM World (Except GatewayError ProviderResponse) := do
  let decision ← state.evaluate payload.policyCheck
  if !decision.allowed then
    return .error (.policyDeniedError decision.reason)
  else
    state.route payload.normalized decision

/-- The status that an attempt is accounted for with. -/
def attemptStatus : Except GatewayError ProviderResponse → UsageAttemptStatus
  | .ok _ => .succeeded
  | .error error => error.usageStatus

/-- The result of an attempt with the event that accounts for it. -/
def withAccount (result : Except GatewayError ProviderResponse)
    (usageAuditEvent : UsageAuditEventV1)
    : Except GatewayError AiRelayResponse :=
  match result with
  | .ok response => .ok { response, usageAuditEvent }
  | .error error => .error (error.withUsageEvent usageAuditEvent)

/-- Accounts for the result of an attempt under the decision it was made with. -/
def account (payload : AiRelayRequest) (decision : PolicyDecision)
    (result : Except GatewayError ProviderResponse)
    : StateM UuidSource (Except GatewayError AiRelayResponse) := do
  let usageAuditEvent ←
    UsageAuditEventV1.new payload.requestId payload.subject payload.provider
      decision.decisionId (attemptStatus result)
  return withAccount result usageAuditEvent

/-- A request that the engine does not allow reaches no provider. -/
theorem attempt_run_denied {state : GatewayState} {payload : AiRelayRequest}
    (denied : (state.policy payload.policyCheck).allowed = false) (world : World)
    : (attempt state payload).run world
      = (.error (.policyDeniedError (state.policy payload.policyCheck).reason),
          world.called (.evaluate payload.policyCheck)) := by
  unfold attempt
  rw [run_bind, GatewayState.run_evaluate]
  simp only [denied, Bool.not_false, if_true]
  rfl

/-- An allowed request is routed once, under the decision that allowed it. -/
theorem attempt_run_allowed {state : GatewayState} {payload : AiRelayRequest}
    (allowed : (state.policy payload.policyCheck).allowed = true) (world : World)
    : (attempt state payload).run world
      = (state.route payload.normalized (state.policy payload.policyCheck)).run
          (world.called (.evaluate payload.policyCheck)) := by
  unfold attempt
  rw [run_bind, GatewayState.run_evaluate]
  simp only [allowed, Bool.not_true, Bool.false_eq_true, if_false]

/-- Every path through the endpoint is an attempt followed by its account. Witness: cases on
the decision, and for an allowed request on the answer of the provider.
-/
theorem relayAiRequest_run (state : GatewayState) (payload : AiRelayRequest) (world : World)
    : (relayAiRequest state payload).run world
      = (drawing
          (account payload (state.policy payload.policyCheck)
            ((attempt state payload).run world).1)).run
          ((attempt state payload).run world).2 := by
  unfold relayAiRequest
  rw [run_bind, GatewayState.run_evaluate]
  cases allowed : (state.policy payload.policyCheck).allowed with
  | false =>
      rw [attempt_run_denied allowed]
      simp only [Bool.not_false, if_true]
      rfl
  | true =>
      rw [attempt_run_allowed allowed]
      simp only [Bool.not_true, Bool.false_eq_true, if_false]
      rw [run_bind]
      generalize (state.route payload.normalized (state.policy payload.policyCheck)).run
        (world.called (.evaluate payload.policyCheck)) = routed
      obtain ⟨result, reached⟩ := routed
      cases result <;> rfl

/-- The outcome of a handled request is the result of its attempt, with an account of it. -/
theorem relayAiRequest_outcome (state : GatewayState) (payload : AiRelayRequest)
    (world : World)
    : ∃ event,
        ((relayAiRequest state payload).run world).1
        = withAccount ((attempt state payload).run world).1 event := by
  rw [relayAiRequest_run]
  exact ⟨_, rfl⟩

-----------------------------------------------------------------------------------------
-- The provider is asked only under an allowing decision
-----------------------------------------------------------------------------------------

/-- An attempt asks the engine once, and the provider once exactly when it is allowed. -/
theorem attempt_calls (state : GatewayState) (payload : AiRelayRequest) (world : World)
    : ((attempt state payload).run world).2.calls
      = world.calls
        ++ .evaluate payload.policyCheck
          :: if (state.policy payload.policyCheck).allowed then
              [.route payload.normalized (state.policy payload.policyCheck)]
            else
              [] := by
  cases allowed : (state.policy payload.policyCheck).allowed with
  | false =>
      rw [attempt_run_denied allowed]
      simp [World.called]
  | true =>
      rw [attempt_run_allowed allowed]
      simp [GatewayState.route, World.called]

-----------------------------------------------------------------------------------------
-- The account does not change the answer
-----------------------------------------------------------------------------------------

/-- The HTTP status that the result of an attempt is answered with. -/
def resultStatus : Except GatewayError ProviderResponse → Nat
  | .ok _ => 200
  | .error error => error.intoResponse.status

theorem status_withAccount (result : Except GatewayError ProviderResponse)
    (event : UsageAuditEventV1)
    : (intoResponse (withAccount result event)).status = resultStatus result := by
  cases result with
  | ok response => rfl
  | error error => cases error <;> rfl

/-- A handled request is answered with the status of its attempt. -/
theorem relayAiRequest_status (state : GatewayState) (payload : AiRelayRequest)
    (world : World)
    : (intoResponse ((relayAiRequest state payload).run world).1).status
      = resultStatus ((attempt state payload).run world).1 := by
  obtain ⟨event, outcome⟩ := relayAiRequest_outcome state payload world
  rw [outcome, status_withAccount]

/-- The outcome with its event changed, and nothing else. -/
def mapEvent (change : UsageAuditEventV1 → UsageAuditEventV1)
    : Except GatewayError AiRelayResponse → Except GatewayError AiRelayResponse
  | .ok response =>
      .ok { response with usageAuditEvent := change response.usageAuditEvent }
  | .error (.policyDenied message event) =>
      .error (.policyDenied message (event.map change))
  | .error (.timeout message timeoutMs event) =>
      .error (.timeout message timeoutMs (event.map change))
  | .error (.quotaExceeded message event) =>
      .error (.quotaExceeded message (event.map change))

/-- A changed event is the one that the result is accounted for by. -/
@[simp]
theorem mapEvent_withAccount (change : UsageAuditEventV1 → UsageAuditEventV1)
    (result : Except GatewayError ProviderResponse) (event : UsageAuditEventV1)
    : mapEvent change (withAccount result event) = withAccount result (change event) := by
  cases result with
  | ok response => rfl
  | error error => cases error <;> rfl

/-- An event without the identifier that is drawn for it. -/
def UsageAuditEventV1.unidentified (event : UsageAuditEventV1) : UsageAuditEventV1 :=
  { event with eventId := ⟨0⟩ }

-----------------------------------------------------------------------------------------
-- Each result is accounted for by one event
-----------------------------------------------------------------------------------------

/-- The events that the outcome of a handler carries. -/
def usageAuditEvents : Except GatewayError AiRelayResponse → List UsageAuditEventV1
  | .ok response => [response.usageAuditEvent]
  | .error (.policyDenied _ usageAuditEvent)
  | .error (.timeout _ _ usageAuditEvent)
  | .error (.quotaExceeded _ usageAuditEvent) => usageAuditEvent.toList

/-- The events that the body of a response carries. -/
def bodyEvents : ErrorBody ⊕ AiRelayResponse → List UsageAuditEventV1
  | .inl body => body.usageAuditEvent.toList
  | .inr response => [response.usageAuditEvent]

/-- The error code of a response, none when it relays an answer. -/
def errorCode : ErrorBody ⊕ AiRelayResponse → Option String
  | .inl body => some body.error.code
  | .inr _ => none

/-- The agreement of HTTP status, error code, event status and audit outcome, one row for
each way an attempt can end.
-/
inductive AttemptRow : Nat → Option String → UsageAttemptStatus → Contracts.AuditOutcome → Prop
  | succeeded : AttemptRow 200 none .succeeded .succeeded
  | policyDenied : AttemptRow 403 (some "policy_denied") .denied .denied
  | quotaExceeded : AttemptRow 402 (some "quota_exceeded") .quotaDenied .denied
  | timeout : AttemptRow 504 (some "provider_timeout") .timeout .failed

/-- The status that each result of the provider is accounted for with, whatever it says. -/
inductive AccountedAs : Except GatewayError ProviderResponse → UsageAttemptStatus → Prop
  | relayed (response : ProviderResponse) : AccountedAs (.ok response) .succeeded
  | policyDenied (message : String) (event : Option UsageAuditEventV1)
    : AccountedAs (.error (.policyDenied message event)) .denied
  | quotaExceeded (message : String) (event : Option UsageAuditEventV1)
    : AccountedAs (.error (.quotaExceeded message event)) .quotaDenied
  | timeout (message : String) (timeoutMs : Option UInt64) (event : Option UsageAuditEventV1)
    : AccountedAs (.error (.timeout message timeoutMs event)) .timeout

theorem accountedAs (result : Except GatewayError ProviderResponse)
    : AccountedAs result (attemptStatus result) := by
  cases result with
  | ok response => exact .relayed response
  | error error =>
      cases error with
      | policyDenied message event => exact .policyDenied message event
      | timeout message timeoutMs event => exact .timeout message timeoutMs event
      | quotaExceeded message event => exact .quotaExceeded message event

/-- An attempt is accounted for as a denial if the engine denies it, else as what the provider
makes of it.
-/
theorem attemptStatus_attempt (state : GatewayState) (payload : AiRelayRequest) (world : World)
    : let decision := state.policy payload.policyCheck
      let status := attemptStatus ((attempt state payload).run world).1
      (decision.allowed = false → status = .denied)
      ∧ (decision.allowed = true
        → AccountedAs
            ((state.providers.route payload.normalized decision).run world.source).1
            status) := by
  intro decision status
  constructor
  · intro denied
    simp only [status, attempt_run_denied denied]
    rfl
  · intro allowed
    simp only [status, attempt_run_allowed allowed]
    exact accountedAs _

/-- Attaching an event replaces any event that the result came with. -/
theorem usageAuditEvents_withAccount (result : Except GatewayError ProviderResponse)
    (event : UsageAuditEventV1)
    : usageAuditEvents (withAccount result event) = [event] := by
  cases result with
  | ok response => rfl
  | error error => cases error <;> rfl

/-- A response carries the events of the outcome it renders. -/
theorem bodyEvents_intoResponse (outcome : Except GatewayError AiRelayResponse)
    : bodyEvents (intoResponse outcome).body = usageAuditEvents outcome := by
  cases outcome with
  | ok response => rfl
  | error error => cases error <;> rfl

/-- The three independent matches on an error agree, for every result of an attempt. -/
theorem attemptRow_withAccount (result : Except GatewayError ProviderResponse)
    (event : UsageAuditEventV1)
    : AttemptRow (intoResponse (withAccount result event)).status
        (errorCode (intoResponse (withAccount result event)).body)
        (attemptStatus result) (attemptStatus result).auditOutcome := by
  cases result with
  | ok response => exact .succeeded
  | error error =>
      cases error with
      | policyDenied => exact .policyDenied
      | timeout => exact .timeout
      | quotaExceeded => exact .quotaExceeded

/-- Whatever the engine and the provider answer, the provider is asked only under an
allowing decision, and the outcome carries one event: made for this request under this
decision after the provider answered, with the status of the denial or of that answer, and
telling the same as the response.
-/
theorem relayAiRequest_accounted (state : GatewayState) (payload : AiRelayRequest)
    (world : World)
    : let decision := state.policy payload.policyCheck
      let answered := (relayAiRequest state payload).run world
      answered.2.calls
        = world.calls
          ++ .evaluate payload.policyCheck
            :: (if decision.allowed then [.route payload.normalized decision] else [])
      ∧ ∃ event,
          usageAuditEvents answered.1 = [event]
          ∧ bodyEvents (intoResponse answered.1).body = [event]
          ∧ (∃ source,
              (UsageAuditEventV1.new payload.requestId payload.subject payload.provider
                decision.decisionId event.status).run source
              = (event, answered.2.source))
          ∧ event.requestId = payload.requestId
          ∧ event.subject = payload.subject
          ∧ event.provider = payload.provider
          ∧ event.decisionId = decision.decisionId
          ∧ (decision.allowed = false → event.status = .denied)
          ∧ (decision.allowed = true
            → AccountedAs
                ((state.providers.route payload.normalized decision).run world.source).1
                event.status)
          ∧ AttemptRow (intoResponse answered.1).status
              (errorCode (intoResponse answered.1).body) event.status
              event.toAuditEvent.payload.outcome := by
  intro decision answered
  have attempted : answered
      = (drawing (account payload decision ((attempt state payload).run world).1)).run
          ((attempt state payload).run world).2 :=
    relayAiRequest_run state payload world
  have calls := attempt_calls state payload world
  obtain ⟨denied, allowed⟩ := attemptStatus_attempt state payload world
  obtain ⟨⟨result, reached⟩, same⟩ : ∃ ran, (attempt state payload).run world = ran := ⟨_, rfl⟩
  rw [same] at attempted calls denied allowed
  refine ⟨by rw [attempted]; exact calls, ?_⟩
  let event :=
    ((UsageAuditEventV1.new payload.requestId payload.subject payload.provider
      decision.decisionId (attemptStatus result)).run reached.source).1
  have outcome : answered.1 = withAccount result event := by
    rw [attempted]
    rfl
  refine ⟨event, ?_, ?_, ⟨reached.source, ?_⟩, rfl, rfl, rfl, rfl, denied, allowed, ?_⟩
  · rw [outcome]
    exact usageAuditEvents_withAccount result event
  · rw [bodyEvents_intoResponse, outcome]
    exact usageAuditEvents_withAccount result event
  · rw [attempted]
    rfl
  · rw [outcome]
    exact attemptRow_withAccount result event

end TaskotterGateway.Relay
