import TaskotterGateway.Relay.Types

/-! Validation of provider fallbacks as the gateway computes it (`fallback.rs`): five
validators in sequence, and the failure with its usage and audit events.
-/

namespace TaskotterGateway.Fallback

open Contracts
open Relay (ProviderKind)

inductive FallbackAttemptKind where
  | retry
  | sameProvider
  | crossProvider
  | runnerLocal
  deriving DecidableEq, Repr

inductive RoutingReasonCode where
  | primaryRateLimited
  | primaryTimeout
  | primaryUnavailable
  | primaryMalformedResponse
  | runnerLocalRequired
  deriving DecidableEq, Repr

inductive RequiredProviderCapability where
  | streaming
  | jsonOutput
  | toolCalls
  deriving DecidableEq, Repr

structure FallbackPolicyLimits where
  maxTokens : Option UInt64
  maxCostMicroUsd : Option UInt64
  deriving DecidableEq, Repr

structure FallbackProviderCandidate where
  providerId : String
  providerKind : ProviderKind
  providerFamily : String
  model : String
  region : String
  dataResidency : String
  credentialScope : String
  supportsStreaming : Bool
  supportsJsonOutput : Bool
  supportsToolCalls : Bool
  deriving DecidableEq, Repr

def FallbackProviderCandidate.supports (candidate : FallbackProviderCandidate)
    : RequiredProviderCapability → Bool
  | .streaming => candidate.supportsStreaming
  | .jsonOutput => candidate.supportsJsonOutput
  | .toolCalls => candidate.supportsToolCalls

/-- A capability is supported exactly where its own flag is set. -/
theorem FallbackProviderCandidate.supports_iff {candidate : FallbackProviderCandidate}
    {capability : RequiredProviderCapability}
    : candidate.supports capability = true
      ↔ (capability = .streaming ∧ candidate.supportsStreaming = true)
        ∨ (capability = .jsonOutput ∧ candidate.supportsJsonOutput = true)
        ∨ (capability = .toolCalls ∧ candidate.supportsToolCalls = true) := by
  cases capability <;> simp [supports]

structure FallbackPolicyRequest where
  requestId : String
  correlationId : String
  workingGroupId : String
  actor : ActorRef
  policyDecisionId : String
  attemptKind : FallbackAttemptKind
  routingReason : RoutingReasonCode
  primary : FallbackProviderCandidate
  candidate : FallbackProviderCandidate
  requiredCapabilities : List RequiredProviderCapability
  originalLimits : FallbackPolicyLimits
  candidateLimits : FallbackPolicyLimits
  allowCrossProvider : Bool
  allowRunnerLocal : Bool
  deriving DecidableEq, Repr

structure FallbackPolicyDecision where
  allowed : Bool
  reason : RoutingReasonCode
  selectedProvider : String
  deriving DecidableEq, Repr

/-- A refused fallback; `failureClass` is the source's field `class`. -/
structure FallbackPolicyFailure where
  failureClass : String
  message : String
  normalizedError : NormalizedError
  usageEvent : UsageEvent
  auditEvent : AuditEvent
  deriving DecidableEq, Repr

def usageEvent (request : FallbackPolicyRequest) (failureClass : String) : UsageEvent where
  id := "evt_" ++ request.requestId ++ "_fallback_denied_usage"
  eventType := "usage.gateway_request.recorded"
  version := "0.1.0"
  occurredAt := "2026-01-01T00:00:01.000Z"
  source := .gateway
  workingGroupId := request.workingGroupId
  actor := .from request.actor
  resource := { resourceType := "provider", id := request.candidate.providerId }
  correlationId := request.correlationId
  requestId := request.requestId
  policyDecisionId := request.policyDecisionId
  idempotencyKey := "usage_" ++ request.requestId ++ "_fallback_denied"
  payload := {
    subject := { subjectType := .gatewayRequest, id := request.requestId }
    measurements := {
      durationMs := 0
      inputTokens := some 0
      outputTokens := some 0
      toolInvocations := some 0
      estimatedCostMicros := some 0
      meteringUnit := none
      runtimeCapability := some ("gateway.fallback_denied." ++ failureClass)
    }
  }

def auditEvent (request : FallbackPolicyRequest) (failureClass : String) : AuditEvent where
  id := "evt_" ++ request.requestId ++ "_fallback_denied_audit"
  eventType := "audit.policy_decision.denied"
  version := "0.1.0"
  occurredAt := "2026-01-01T00:00:02.000Z"
  source := .gateway
  workingGroupId := request.workingGroupId
  actor := .from request.actor
  resource := { resourceType := "provider", id := request.candidate.providerId }
  correlationId := request.correlationId
  requestId := request.requestId
  policyDecisionId := request.policyDecisionId
  payload := {
    action := "gateway.provider.fallback"
    outcome := .denied
    runtimeCapability := some ("gateway.fallback_denied." ++ failureClass)
    featureFlag := some "gateway.provider_routing.enabled"
    approvalRef := some request.policyDecisionId
  }

def failure (request : FallbackPolicyRequest) (failureClass message : String)
    : FallbackPolicyFailure where
  failureClass
  message
  normalizedError := {
    code := .policyDenied
    message
    retryable := false
    upstreamStatus := none
    providerErrorClass := some failureClass
  }
  usageEvent := usageEvent request failureClass
  auditEvent := auditEvent request failureClass

def isRetryableReason : RoutingReasonCode → Bool
  | .primaryRateLimited
  | .primaryTimeout
  | .primaryUnavailable
  | .primaryMalformedResponse
  | .runnerLocalRequired => true

def limitWidened : (original candidate : Option UInt64) → Bool
  | some original, some candidate => decide (original < candidate)
  | some _, none => true
  | none, _ => false

def validateAttemptBoundary (request : FallbackPolicyRequest)
    : Except FallbackPolicyFailure Unit :=
  if request.candidate.providerKind == .localRunner
      && !(request.attemptKind == .runnerLocal && request.allowRunnerLocal) then
    .error
      (failure request "runner_local_fallback_not_allowed"
        "Runner-local fallback requires an explicit runner-local attempt and policy allowance.")
  else
    match request.attemptKind with
    | .retry =>
        if request.primary.providerId == request.candidate.providerId
            && request.primary.model == request.candidate.model then
          .ok ()
        else
          .error
            (failure request "retry_target_changed"
              "Retry fallback must keep the same provider and model.")
    | .sameProvider =>
        if request.primary.providerFamily == request.candidate.providerFamily then
          .ok ()
        else
          .error
            (failure request "same_provider_family_changed"
              "Same-provider fallback cannot change provider family.")
    | .crossProvider =>
        if request.allowCrossProvider then
          .ok ()
        else
          .error
            (failure request "cross_provider_fallback_not_allowed"
              "Cross-provider fallback requires an explicit policy allowance.")
    | .runnerLocal =>
        if request.allowRunnerLocal && request.candidate.providerKind == .localRunner then
          .ok ()
        else
          .error
            (failure request "runner_local_fallback_not_allowed"
              "Runner-local fallback requires an explicit policy allowance and local runner candidate.")

/-- The loop over the required capabilities, which stops at the first dropped one. -/
def checkCapabilities (request : FallbackPolicyRequest)
    : List RequiredProviderCapability → Except FallbackPolicyFailure Unit
  | [] => .ok ()
  | capability :: rest =>
      if !request.candidate.supports capability then
        .error
          (failure request "required_capability_dropped"
            "Fallback candidate does not satisfy a required provider capability.")
      else
        checkCapabilities request rest

def validateRequiredCapabilities (request : FallbackPolicyRequest)
    : Except FallbackPolicyFailure Unit :=
  checkCapabilities request request.requiredCapabilities

/-- Region, data residency and credential scope are those of the primary. -/
def FallbackPolicyRequest.scopeMatches (request : FallbackPolicyRequest) : Bool :=
  request.primary.region == request.candidate.region
  && request.primary.dataResidency == request.candidate.dataResidency
  && request.primary.credentialScope == request.candidate.credentialScope

def validateScopeBoundary (request : FallbackPolicyRequest)
    : Except FallbackPolicyFailure Unit :=
  if request.scopeMatches then
    .ok ()
  else
    .error
      (failure request "fallback_scope_widened"
        "Fallback cannot widen region, data residency, or credential scope.")

def validatePolicyLimits (request : FallbackPolicyRequest)
    : Except FallbackPolicyFailure Unit :=
  if limitWidened request.originalLimits.maxTokens request.candidateLimits.maxTokens
      || limitWidened request.originalLimits.maxCostMicroUsd
          request.candidateLimits.maxCostMicroUsd then
    .error
      (failure request "fallback_policy_limit_widened"
        "Fallback cannot raise token or cost limits from the original policy decision.")
  else
    .ok ()

def validateFallback (request : FallbackPolicyRequest)
    : Except FallbackPolicyFailure FallbackPolicyDecision := do
  if !isRetryableReason request.routingReason then
    throw
      (failure request "fallback_reason_not_retryable"
        "Fallback is only allowed for retryable routing reasons.")
  validateAttemptBoundary request
  validateRequiredCapabilities request
  validateScopeBoundary request
  validatePolicyLimits request
  return {
    allowed := true
    reason := request.routingReason
    selectedProvider := request.candidate.providerId
  }

/-- A hosted provider of a family, in one region and residency, under a credential scope. -/
def fallbackCandidate (providerId providerFamily credentialScope : String)
    : FallbackProviderCandidate where
  providerId
  providerKind := .hosted
  providerFamily
  model := "test-model"
  region := "us"
  dataResidency := "us"
  credentialScope
  supportsStreaming := true
  supportsJsonOutput := true
  supportsToolCalls := false

/-- A fallback attempt of an agent after a rate limit, under unchanged limits. -/
def fallbackPolicyRequest (attemptKind : FallbackAttemptKind)
    (primary candidate : FallbackProviderCandidate)
    : FallbackPolicyRequest where
  requestId := "req_fallback_policy"
  correlationId := "corr_fallback_policy"
  workingGroupId := "wg_1"
  actor := { actorType := .agent, id := "agent_1" }
  policyDecisionId := "poldec_fallback_policy"
  attemptKind
  routingReason := .primaryRateLimited
  primary
  candidate
  requiredCapabilities := [.streaming, .jsonOutput]
  originalLimits := { maxTokens := some 8192, maxCostMicroUsd := some 50000 }
  candidateLimits := { maxTokens := some 8192, maxCostMicroUsd := some 50000 }
  allowCrossProvider := true
  allowRunnerLocal := false

example
    : (validateFallback
        (fallbackPolicyRequest .sameProvider
          (fallbackCandidate "provider_primary" "openai" "wg_1/provider")
          (fallbackCandidate "provider_other" "anthropic" "wg_1/provider"))).mapError
            FallbackPolicyFailure.failureClass
      = .error "same_provider_family_changed" := by
  decide +kernel

end TaskotterGateway.Fallback
