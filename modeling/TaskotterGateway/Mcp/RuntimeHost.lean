import TaskotterGateway.Contracts.Requests

/-! The host of MCP sessions as the gateway computes it (`mcp.rs`): opening a session, and
the two events that meter it.
-/

namespace TaskotterGateway.Mcp

open Contracts RecordedChecks

structure McpRuntimeHost where
  hostId : String
  featureFlags : RuntimeFeatureFlags
  deriving DecidableEq, Repr

structure McpSessionPlaceholder where
  sessionId : String
  hostId : String
  hostingMode : McpHostingMode
  allowedToolRefs : List String
  lifecycleState : String
  deriving DecidableEq, Repr

namespace McpRuntimeHost

def openSession (host : McpRuntimeHost) (request : ScopedMcpSessionRequest)
    : Except NormalizedError McpSessionPlaceholder := do
  request.validateBoundary
  if request.hostingMode == .gatewayHosted && !host.featureFlags.hostedMcpBillingEnabled then
    throw
      (.policyDenied "feature_flag_disabled" "Hosted MCP paid runtime is disabled by default.")
  else
    return {
      sessionId := request.sessionId
      hostId := host.hostId
      hostingMode := request.hostingMode
      allowedToolRefs := request.allowedToolRefs
      lifecycleState := "ready_placeholder"
    }

/-- The placeholder of a session that was opened. -/
def placeholder (host : McpRuntimeHost) (request : ScopedMcpSessionRequest)
    : McpSessionPlaceholder where
  sessionId := request.sessionId
  hostId := host.hostId
  hostingMode := request.hostingMode
  allowedToolRefs := request.allowedToolRefs
  lifecycleState := "ready_placeholder"

/-- A host opens exactly the sessions within the boundary that it does not have to bill, or
may bill.
-/
theorem openSession_ok_iff {host : McpRuntimeHost} {request : ScopedMcpSessionRequest}
    {session : McpSessionPlaceholder}
    : host.openSession request = .ok session
      ↔ WithinBoundary request.policy request.credentialRef
        ∧ (request.hostingMode = .gatewayHosted
          → host.featureFlags.hostedMcpBillingEnabled = true)
        ∧ host.placeholder request = session := by
  have billed
      : (request.hostingMode == .gatewayHosted
            && !host.featureFlags.hostedMcpBillingEnabled) = false
        ↔ (request.hostingMode = .gatewayHosted
          → host.featureFlags.hostedMcpBillingEnabled = true) := by
    simp
  have opened : (.ok (host.placeholder request) : Except NormalizedError _) = .ok session
      ↔ host.placeholder request = session := by
    rw [Except.ok.injEq]
  rw [openSession, andThen_ok_iff, ScopedMcpSessionRequest.validateBoundary_ok_iff, ← billed,
    ← opened]
  exact and_congr_right (fun _ => unless_then_ok_iff)

/-- The usage of a session. It counts a tool invocation for every tool that is allowed. -/
def usageEvent (_host : McpRuntimeHost) (request : ScopedMcpSessionRequest) : UsageEvent where
  id := "evt_01J9Z4P4BS0M9P2QJ6T8Z6W2EP"
  eventType := "usage.gateway_request.recorded"
  version := "0.1.0"
  occurredAt := "2026-01-01T00:00:01.000Z"
  source := .gateway
  workingGroupId := request.workingGroupId
  actor := .from request.actor
  resource := { resourceType := "mcp_server", id := request.mcpServerRef }
  correlationId := request.correlationId
  requestId := request.sessionId
  policyDecisionId := request.policy.policyDecisionId
  idempotencyKey := "usage_" ++ request.sessionId
  payload := {
    subject := { subjectType := .gatewayRequest, id := request.sessionId }
    measurements := {
      durationMs := 0
      inputTokens := some 0
      outputTokens := some 0
      toolInvocations := some (UInt32.ofNat request.allowedToolRefs.length)
      estimatedCostMicros := some 0
      meteringUnit := some "hosted_mcp_runtime_ms"
      runtimeCapability := some HighRiskGatewayCapability.hostedMcpBilling.contractName
    }
  }

/-- The audit of a session, which records a denial whether or not it was opened. -/
def auditEvent (_host : McpRuntimeHost) (request : ScopedMcpSessionRequest) : AuditEvent where
  id := "evt_01J9Z4P4BS0M9P2QJ6T8Z6W2EQ"
  eventType := "audit.policy_decision.denied"
  version := "0.1.0"
  occurredAt := "2026-01-01T00:00:02.000Z"
  source := .gateway
  workingGroupId := request.workingGroupId
  actor := .from request.actor
  resource := { resourceType := "mcp_server", id := request.mcpServerRef }
  correlationId := request.correlationId
  requestId := request.sessionId
  policyDecisionId := request.policy.policyDecisionId
  payload := {
    action := "gateway.mcp.session.open"
    outcome := .denied
    runtimeCapability := some HighRiskGatewayCapability.hostedMcpBilling.contractName
    featureFlag := some HighRiskGatewayCapability.hostedMcpBilling.featureFlag
    approvalRef := some "policy_decision_ref"
  }

end McpRuntimeHost

end TaskotterGateway.Mcp
