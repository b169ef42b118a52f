import Mathlib.Data.Finset.Card
import TaskotterGateway.Simulation.Types

/-! Validation of a simulation fixture as the harness computes it (`simulator.rs`): three
loops over the cases, which share one report and stop at the first error.
-/

namespace TaskotterGateway.Simulation

open Text Contracts RecordedChecks

/-- A validation with `report: &mut SimulationReport`: what it counted before an error stays
counted.
-/
abbrev Harness : Type → Type :=
  Check SimulationError SimulationReport

/-- `report.counter += 1`. -/
def bump (counter : SimulationCounter) : Harness Unit :=
  modify (fun report => report.bump counter)

/-- `if asked { report.counter += 1 }`. -/
def bumpIf (asked : Bool) (counter : SimulationCounter) : Harness Unit :=
  if asked then bump counter else pure ()

-----------------------------------------------------------------------------------------
-- Lineage of events
-----------------------------------------------------------------------------------------

def SimulationError.fromNormalized (caseId : String) (error : NormalizedError)
    : SimulationError where
  code := "normalized_contract_error"
  message := caseId ++ " failed contract validation: " ++ error.message

/-- The fields of an event envelope that say who is charged for what. -/
structure EventEnvelope where
  source : EventSource
  workingGroupId : String
  actor : EventActorRef
  correlationId : String
  requestId : String
  policyDecisionId : String
  deriving DecidableEq, Repr

def envelopeOfUsage (usage : UsageEvent) : EventEnvelope where
  source := usage.source
  workingGroupId := usage.workingGroupId
  actor := usage.actor
  correlationId := usage.correlationId
  requestId := usage.requestId
  policyDecisionId := usage.policyDecisionId

def envelopeOfAudit (audit : AuditEvent) : EventEnvelope where
  source := audit.source
  workingGroupId := audit.workingGroupId
  actor := audit.actor
  correlationId := audit.correlationId
  requestId := audit.requestId
  policyDecisionId := audit.policyDecisionId

/-- The comparison that the usage and the audit lineage of a model request share. -/
def lineageMismatch (event : EventEnvelope) (request : ScopedModelRequest) : Bool :=
  event.source != .gateway
  || event.requestId != request.requestId
  || event.correlationId != request.correlationId
  || event.policyDecisionId != request.policy.policyDecisionId
  || startsWith event.policyDecisionId "gwi_"

def validateUsageLineage (caseId : String) (usage : UsageEvent) (request : ScopedModelRequest)
    : Except SimulationError Unit :=
  if lineageMismatch (envelopeOfUsage usage) request then
    .error {
      code := "usage_lineage_mismatch"
      message := caseId ++ " usage event does not match request lineage"
    }
  else
    .ok ()

def validateAuditLineage (caseId : String) (audit : AuditEvent) (request : ScopedModelRequest)
    : Except SimulationError Unit :=
  if lineageMismatch (envelopeOfAudit audit) request then
    .error {
      code := "audit_lineage_mismatch"
      message := caseId ++ " audit event does not match request lineage"
    }
  else
    .ok ()

/-- The lineage of a session compares neither the source nor the instruction namespace. -/
def validateMcpLineage (caseId : String) (usage : UsageEvent) (audit : AuditEvent)
    (request : ScopedMcpSessionRequest)
    : Except SimulationError Unit :=
  if usage.requestId != request.sessionId
      || audit.requestId != request.sessionId
      || usage.correlationId != request.correlationId
      || audit.correlationId != request.correlationId
      || usage.policyDecisionId != request.policy.policyDecisionId
      || audit.policyDecisionId != request.policy.policyDecisionId then
    .error {
      code := "mcp_lineage_mismatch"
      message := caseId ++ " MCP usage/audit lineage does not match request"
    }
  else
    .ok ()

def validateDecisionId (caseId decisionId : String) (usage : UsageEvent)
    : Except SimulationError Unit :=
  if decisionId != usage.policyDecisionId then
    .error {
      code := "decision_id_mismatch"
      message := caseId ++ " decision id does not match usage event"
    }
  else
    .ok ()

-----------------------------------------------------------------------------------------
-- Stream frames
-----------------------------------------------------------------------------------------

/-- The loop over the numbered frames; a position is compared as a `u32`. -/
def validateFrameSequence (caseId : String) (frames : List StreamFrame)
    : Except SimulationError Unit :=
  forM frames.zipIdx (fun (frame, expected) =>
    if frame.sequence != UInt32.ofNat expected then
      throw {
        code := "stream_sequence_gap"
        message := caseId ++ " stream sequence is not contiguous"
      }
    else
      return)

def validateSuccessStream (caseId : String) (frames : List StreamFrame)
    : Except SimulationError Unit :=
  if frames.isEmpty then
    .error {
      code := "streaming_case_missing_frames"
      message := caseId ++ " declared streaming success without frames"
    }
  else if frames.head?.map StreamFrame.frameType != some .start
      || frames.getLast?.map StreamFrame.frameType != some .final
      || (frames.getLast?.bind StreamFrame.usage).isNone then
    .error {
      code := "streaming_success_invalid"
      message :=
        caseId ++ " streaming success must start, finish, and include final usage"
    }
  else
    validateFrameSequence caseId frames

def validateTerminalErrorFrame (caseId : String) (frames : List StreamFrame)
    (expectedCode : NormalizedErrorCode)
    : Except SimulationError Unit :=
  match frames.getLast? with
  | none => .ok ()
  | some last =>
      if last.frameType != .error || last.error.map NormalizedError.code != some expectedCode then
        .error {
          code := "terminal_error_frame_mismatch"
          message := caseId ++ " terminal stream error does not match outcome"
        }
      else
        validateFrameSequence caseId frames

def ensureFrame (caseId : String) (frames : List StreamFrame) (sequence : UInt32)
    : Except SimulationError Unit := do
  validateFrameSequence caseId frames
  if !frames.any (fun frame => frame.sequence == sequence) then
    throw {
      code := "stream_frame_missing"
      message :=
        caseId ++ " does not include expected frame sequence " ++ toString sequence.toNat
    }

-----------------------------------------------------------------------------------------
-- The three kinds of case
-----------------------------------------------------------------------------------------

def ProviderRouteSimulation.validate (route : ProviderRouteSimulation) (caseId : String)
    : Except SimulationError Unit :=
  if route.fallbackUsed then
    match route.fallbackProvider with
    | none =>
        .error {
          code := "fallback_missing_provider"
          message := caseId ++ " marks fallback_used without fallback_provider"
        }
    | some fallbackProvider =>
        if route.selectedProvider != fallbackProvider then
          .error {
            code := "fallback_selected_provider_mismatch"
            message := caseId ++ " selected provider must match fallback provider"
          }
        else
          .ok ()
  else if route.selectedProvider != route.primaryProvider then
    .error {
      code := "primary_selected_provider_mismatch"
      message := caseId ++ " selected provider must match primary provider"
    }
  else
    .ok ()

/-- The branches on the outcome. Some count before a check that may still fail. -/
def ProviderSimulationCase.validateOutcome (case : ProviderSimulationCase) : Harness Unit :=
  match case.outcome with
  | .success streaming _ => do
      bump .providerSuccess
      if streaming then
        validateSuccessStream case.id case.streamFrames
        bump .streamingSuccess
      else if !case.streamFrames.isEmpty then
        throw {
          code := "non_streaming_case_has_frames"
          message := case.id ++ " declared non-streaming but includes frames"
        }
      else
        bump .nonStreamingSuccess
  | .providerError error => do
      bump (if error.code == .rateLimited then .rateLimit else .providerError)
      validateTerminalErrorFrame case.id case.streamFrames error.code
  | .malformedChunk sequence => do
      ensureFrame case.id case.streamFrames sequence
      bump .malformedStream
  | .partialStream deliveredFrames => do
      .failIf (case.streamFrames.length != deliveredFrames.toNat)
        {
          code := "partial_stream_frame_count_mismatch"
          message := case.id ++ " delivered frame count does not match fixture"
        }
      .failIf (case.streamFrames.any (fun frame => frame.frameType == .final))
        {
          code := "partial_stream_has_final_frame"
          message := case.id ++ " partial stream must not include a final frame"
        }
      bump .partialStream
  | .timeout timeoutMs =>
      if timeoutMs == 0 then
        bump .timeout
      else
        throw {
          code := "timeout_fixture_not_deterministic"
          message := case.id ++ " timeout fixture must use zero elapsed wait"
        }
  | .cancellation cancelledAfterFrames => do
      .failIf (case.streamFrames.length < cancelledAfterFrames.toNat)
        {
          code := "cancellation_frame_count_mismatch"
          message := case.id ++ " cancellation frame count does not match fixture"
        }
      bump .cancellation
  | .policyDenial decisionId _ => do
      validateDecisionId case.id decisionId case.usageEvent
      bump .policyDenial
  | .quotaDenial decisionId _ expectedStatus => do
      validateDecisionId case.id decisionId case.usageEvent
      .failIf (expectedStatus != some "quota_denied")
        {
          code := "quota_denial_status_missing"
          message := case.id ++ " quota denial must declare expected_status"
        }
      bump .quotaDenial

def ProviderSimulationCase.validate (case : ProviderSimulationCase) : Harness Unit := do
  case.request.validateBoundary.mapError (SimulationError.fromNormalized case.id)
  case.route.validate case.id
  validateUsageLineage case.id case.usageEvent case.request
  validateAuditLineage case.id case.auditEvent case.request
  case.validateOutcome
  if case.route.fallbackUsed then
    bump .routingFallback
  else
    bump .routingPrimary

/-- The number of lifecycle events in a phase. -/
def McpSimulationCase.phaseCount (case : McpSimulationCase) (phase : McpLifecyclePhase) : Nat :=
  (case.lifecycleEvents.filter (fun event => event.phase == phase)).length

def McpSimulationCase.validate (case : McpSimulationCase) : Harness Unit := do
  case.request.validateBoundary.mapError (SimulationError.fromNormalized case.id)
  validateMcpLineage case.id case.usageEvent case.auditEvent case.request
  let hasPhase (phase : McpLifecyclePhase) : Bool :=
    case.lifecycleEvents.any (fun event => event.phase == phase)
  .failIf (!(hasPhase .start && hasPhase .health && hasPhase .toolCall && hasPhase .stop))
    {
      code := "mcp_lifecycle_incomplete"
      message := case.id ++ " must include start/health/tool_call/stop events"
    }
  let toolCalls := UInt32.ofNat (case.phaseCount .toolCall)
  let recordedToolCalls := case.usageEvent.payload.measurements.toolInvocations.getD 0
  .failIf (recordedToolCalls < toolCalls)
    {
      code := "mcp_usage_tool_invocations_missing"
      message := case.id ++ " usage event must record simulated tool calls"
    }
  bumpIf (case.request.hostingMode == .gatewayHosted) .mcpGatewayHosted
  bump .mcpLifecycle

/-- The loop over the replayed events, which collects their idempotency keys in a set. -/
def UsageReplayCase.uniqueChargeKeys (case : UsageReplayCase)
    : Finset String → List UsageEvent → Except SimulationError (Finset String)
  | keys, [] => .ok keys
  | keys, event :: rest => do
      validateUsageLineage case.id event case.request
      if (trim event.idempotencyKey).isEmpty then
        throw {
          code := "usage_idempotency_key_empty"
          message := case.id ++ " usage event has an empty idempotency key"
        }
      else
        case.uniqueChargeKeys (insert event.idempotencyKey keys) rest

def UsageReplayCase.validate (case : UsageReplayCase) : Harness Unit := do
  case.request.validateBoundary.mapError (SimulationError.fromNormalized case.id)
  .failIf case.usageEvents.isEmpty
    {
      code := "usage_replay_events_empty"
      message := case.id ++ " must include retry/replay usage events"
    }
  let uniqueChargeKeys ← case.uniqueChargeKeys ∅ case.usageEvents
  .failIf (uniqueChargeKeys.card != case.expectedUniqueChargeCount.toNat)
    {
      code := "usage_replay_unique_charge_mismatch"
      message := case.id ++ " replay would record duplicate usage charges"
    }
  bumpIf (case.usageEvents.length > uniqueChargeKeys.card) .usageReplayIdempotency

-----------------------------------------------------------------------------------------
-- The fixture
-----------------------------------------------------------------------------------------

def SimulationCounter.name : SimulationCounter → String
  | .providerSuccess => "provider_success"
  | .streamingSuccess => "streaming_success"
  | .nonStreamingSuccess => "non_streaming_success"
  | .routingPrimary => "routing_primary"
  | .routingFallback => "routing_fallback"
  | .providerError => "provider_error"
  | .rateLimit => "rate_limit"
  | .malformedStream => "malformed_stream"
  | .partialStream => "partial_stream"
  | .timeout => "timeout"
  | .cancellation => "cancellation"
  | .policyDenial => "policy_denial"
  | .quotaDenial => "quota_denial"
  | .usageReplayIdempotency => "usage_replay_idempotency"
  | .mcpLifecycle => "mcp_lifecycle"
  | .mcpGatewayHosted => "mcp_gateway_hosted"

/-- The counters that an accepted report must have raised, in the order of the check. -/
def requiredCounters : List SimulationCounter :=
  [
    .providerSuccess,
    .streamingSuccess,
    .nonStreamingSuccess,
    .routingPrimary,
    .routingFallback,
    .rateLimit,
    .malformedStream,
    .partialStream,
    .timeout,
    .cancellation,
    .policyDenial,
    .quotaDenial,
    .mcpLifecycle
  ]

def SimulationReport.validateRequiredCoverage (report : SimulationReport)
    : Except SimulationError Unit :=
  forM requiredCounters (fun counter =>
    if report.count counter == 0 then
      throw {
        code := "simulation_coverage_missing"
        message := "required coverage is missing: " ++ counter.name
      }
    else
      return)

namespace GatewaySimulationFixture

/-- The three loops over the cases, on one report. -/
def validateCases (fixture : GatewaySimulationFixture) : Harness Unit := do
  forM fixture.providerCases ProviderSimulationCase.validate
  forM fixture.mcpCases McpSimulationCase.validate
  forM fixture.usageReplayCases UsageReplayCase.validate

def validate (fixture : GatewaySimulationFixture)
    : Except SimulationError SimulationReport :=
  if (trim fixture.seed).isEmpty then
    .error {
      code := "fixture_seed_empty"
      message := "simulation fixture must declare a deterministic seed"
    }
  else if fixture.providerCases.isEmpty then
    .error {
      code := "provider_cases_empty"
      message := "simulation fixture must include provider cases"
    }
  else if fixture.mcpCases.isEmpty then
    .error {
      code := "mcp_cases_empty"
      message := "simulation fixture must include MCP cases"
    }
  else
    match fixture.validateCases.from {} with
    | (.error error, _) => .error error
    | (.ok (), report) => do
        report.validateRequiredCoverage
        return report

end GatewaySimulationFixture

-----------------------------------------------------------------------------------------
-- A fixture in the shape of the repository's own
-----------------------------------------------------------------------------------------

/-- A request of an agent, under a canonical decision and with a named secret. -/
def simulationRequest : ScopedModelRequest where
  protocolVersion := "gateway.v0.1"
  requestId := "req_sim"
  correlationId := "corr_sim"
  workingGroupId := "wg_sim"
  actor := { actorType := .agent, id := "agt_sim" }
  provider := "fake-hosted"
  model := "fake-deterministic-v1"
  messages := [{ role := "user", content := "simulate" }]
  stream := true
  policy := .decisionRef "poldec_sim" "2026-06-01T00:00:00Z"
  credentialRef := {
    kind := .secretRef
    reference := "secret_ref_sim"
    scope := "wg_sim/provider/fake-hosted"
  }

/-- A usage event of the request, charged to a working group. -/
def simulationUsage (workingGroupId : String) : UsageEvent where
  id := "evt_sim_usage"
  eventType := "usage.gateway_request.recorded"
  version := "0.1.0"
  occurredAt := "2026-01-01T00:00:01.000Z"
  source := .gateway
  workingGroupId
  actor := { actorType := .agent, id := "agt_sim" }
  resource := { resourceType := "provider", id := "fake-hosted" }
  correlationId := "corr_sim"
  requestId := "req_sim"
  policyDecisionId := "poldec_sim"
  idempotencyKey := "usage_req_sim"
  payload := {
    subject := { subjectType := .gatewayRequest, id := "req_sim" }
    measurements := {
      durationMs := 7
      inputTokens := some 3
      outputTokens := some 3
      toolInvocations := some 1
      estimatedCostMicros := some 0
      meteringUnit := none
      runtimeCapability := none
    }
  }

def simulationAudit : AuditEvent where
  id := "evt_sim_audit"
  eventType := "audit.policy_decision.allowed"
  version := "0.1.0"
  occurredAt := "2026-01-01T00:00:02.000Z"
  source := .gateway
  workingGroupId := "wg_sim"
  actor := { actorType := .agent, id := "agt_sim" }
  resource := { resourceType := "provider", id := "fake-hosted" }
  correlationId := "corr_sim"
  requestId := "req_sim"
  policyDecisionId := "poldec_sim"
  payload := {
    action := "gateway.provider.invoke"
    outcome := .succeeded
    runtimeCapability := none
    featureFlag := none
    approvalRef := none
  }

/-- A provider case with an outcome and frames, on its primary or its fallback route. -/
def simulationCase (outcome : ProviderSimulationOutcome) (streamFrames : List StreamFrame)
    (fallbackUsed : Bool)
    : ProviderSimulationCase where
  id := "provider_case"
  request := simulationRequest
  route := {
    primaryProvider := "fake-hosted"
    fallbackProvider := some "fake-hosted-fallback"
    selectedProvider := if fallbackUsed then "fake-hosted-fallback" else "fake-hosted"
    fallbackUsed
    reason := none
  }
  outcome
  usageEvent := simulationUsage "wg_sim"
  auditEvent := simulationAudit
  streamFrames

/-- The error of a failed provider. -/
def simulationFailure (code : NormalizedErrorCode) : NormalizedError where
  code
  message := "The fake provider simulated a failure."
  retryable := true
  upstreamStatus := none
  providerErrorClass := none

/-- A frame of a request; final frames carry usage, and error frames a rate limit. -/
def simulationFrame (requestId : String) (sequence : UInt32) (frameType : StreamFrameType)
    : StreamFrame where
  requestId
  sequence
  frameType
  delta := none
  usage :=
    if frameType = .final then
      some { inputTokens := 3, outputTokens := 3, totalTokens := 6 }
    else
      none
  error := if frameType = .error then some (simulationFailure .rateLimited) else none

/-- A tool session under a hosting mode, which may call one tool. -/
def simulationSession (hostingMode : McpHostingMode)
    (lifecycleEvents : List McpLifecycleEvent)
    : McpSimulationCase where
  id := "mcp_case"
  request := {
    protocolVersion := "gateway.v0.1"
    sessionId := "req_sim"
    correlationId := "corr_sim"
    workingGroupId := "wg_sim"
    actor := { actorType := .agent, id := "agt_sim" }
    mcpServerRef := "mcp_sim_server"
    hostingMode
    allowedToolRefs := ["tool_fixture_read"]
    policy := .decisionRef "poldec_sim" "2026-06-01T00:00:00Z"
    credentialRef := none
  }
  lifecycleEvents
  usageEvent := simulationUsage "wg_sim"
  auditEvent := simulationAudit

/-- A lifecycle event with its number and its phase, and the tool that it calls. -/
def lifecycleEvent (sequence : UInt32) (phase : McpLifecyclePhase) (toolRef : Option String)
    : McpLifecycleEvent where
  sequence
  phase
  state := "recorded"
  toolRef
  error := none

/-- The lifecycle of the repository's fixture: one call of the allowed tool. -/
def simulationLifecycle : List McpLifecycleEvent :=
  [
    lifecycleEvent 0 .start none,
    lifecycleEvent 1 .health none,
    lifecycleEvent 2 .toolCall (some "tool_fixture_read"),
    lifecycleEvent 3 .stop none
  ]

/-- The provider cases of the repository's fixture, which raise every required counter. -/
def simulationProviderCases : List ProviderSimulationCase :=
  let frame := simulationFrame "req_sim"
  let interrupted := [frame 0 .start, frame 1 .contentDelta]
  [
    simulationCase (.success true "fake")
      [frame 0 .start, frame 1 .contentDelta, frame 2 .usageDelta, frame 3 .final] false,
    simulationCase (.success false "fake") [] true,
    simulationCase (.providerError (simulationFailure .rateLimited))
      [frame 0 .start, frame 1 .error] false,
    simulationCase (.malformedChunk 1) interrupted false,
    simulationCase (.partialStream 2) interrupted false,
    simulationCase (.timeout 0) [] false,
    simulationCase (.cancellation 2) interrupted false,
    simulationCase (.policyDenial "poldec_sim" "provider disabled") [] false,
    simulationCase (.quotaDenial "poldec_sim" 0 (some "quota_denied")) [] false
  ]

/-- A retry that is charged once. -/
def simulationReplay : UsageReplayCase where
  id := "usage_retry_replay_idempotency"
  request := simulationRequest
  usageEvents := [simulationUsage "wg_sim", simulationUsage "wg_sim"]
  expectedUniqueChargeCount := 1

/-- The provider cases of the repository's fixture and some more, with one tool session. -/
def simulationFixture (more : List ProviderSimulationCase) (session : McpSimulationCase)
    : GatewaySimulationFixture where
  fixtureVersion := "gateway_simulation_eval.v1"
  seed := "taskotter-gateway-sim-seed-0001"
  providerCases := simulationProviderCases ++ more
  mcpCases := [session]
  usageReplayCases := [simulationReplay]

/-- The repository's fixture: one hosted session and no other case. -/
def evalFixture : GatewaySimulationFixture :=
  simulationFixture [] (simulationSession .gatewayHosted simulationLifecycle)

/-- The report of the repository's fixture. No provider error is generic. -/
def evalReport : SimulationReport where
  providerSuccess := 2
  streamingSuccess := 1
  nonStreamingSuccess := 1
  routingPrimary := 8
  routingFallback := 1
  rateLimit := 1
  malformedStream := 1
  partialStream := 1
  timeout := 1
  cancellation := 1
  policyDenial := 1
  quotaDenial := 1
  usageReplayIdempotency := 1
  mcpLifecycle := 1
  mcpGatewayHosted := 1

theorem evalFixture_validate : evalFixture.validate = .ok evalReport := by
  decide +kernel

end TaskotterGateway.Simulation
