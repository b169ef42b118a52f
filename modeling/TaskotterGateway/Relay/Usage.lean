import TaskotterGateway.Relay.Types

/-! The event that accounts for a relay attempt, and its projections to the shared usage and
audit events (`usage.rs`). New identifiers come from a source that is part of the state.
-/

namespace TaskotterGateway.Relay

open Contracts

/-- Where new identifiers come from: all that will ever be drawn, and how many were. -/
structure UuidSource where
  ids : Nat → Uuid
  drawn : Nat

/-- `Uuid::new_v4`: the next identifier of the source. -/
def Uuid.newV4 : StateM UuidSource Uuid := do
  let source ← get
  set { source with drawn := source.drawn + 1 }
  return source.ids source.drawn

namespace UsageAttemptStatus

def contractName : UsageAttemptStatus → String
  | .succeeded => "succeeded"
  | .denied => "denied"
  | .quotaDenied => "quota_denied"
  | .timeout => "timeout"
  | .cancelled => "cancelled"
  | .failed => "failed"

def auditOutcome : UsageAttemptStatus → AuditOutcome
  | .succeeded => .succeeded
  | .denied | .quotaDenied => .denied
  | .timeout | .cancelled | .failed => .failed

end UsageAttemptStatus

/-- The agent of the subject, else its user. -/
def eventActor (subject : PolicySubject) : EventActorRef :=
  match subject.agentId with
  | some agentId => { actorType := .agent, id := agentId }
  | none => { actorType := .user, id := subject.userId }

namespace UsageAuditEventV1

def new (requestId : Uuid) (subject : PolicySubject) (provider : ProviderRef)
    (decisionId : String) (status : UsageAttemptStatus)
    : StateM UuidSource UsageAuditEventV1 := do
  let eventId ← Uuid.newV4
  return {
    schemaVersion := "usage_audit_event.v1"
    eventId
    requestId
    correlationId := none
    subject
    provider
    decisionId
    idempotencyKey := "usage:" ++ requestId.toString
    status
    promptTokens := 0
    completionTokens := 0
    estimatedCostMicroUsd := 0
  }

/-- `tokens.min(u32::MAX as u64) as u32`. -/
def saturateToU32 (tokens : UInt64) : UInt32 :=
  (min tokens (UInt32.size - 1).toUInt64).toUInt32

/-- The narrowed count is the largest `u32` at most the wide one. -/
theorem saturateToU32_toNat (tokens : UInt64)
    : (saturateToU32 tokens).toNat = min tokens.toNat (UInt32.size - 1) := by
  have largest : ((UInt32.size - 1).toUInt64).toNat = UInt32.size - 1 := by decide
  rw [saturateToU32, UInt64.toNat_toUInt32, UInt64.toNat_min, largest]
  apply Nat.mod_eq_of_lt
  have atMost := Nat.min_le_right tokens.toNat (UInt32.size - 1)
  have positive : UInt32.size - 1 < 2 ^ 32 := by decide
  omega

def toUsageEvent (event : UsageAuditEventV1) : UsageEvent where
  id := event.eventId.toString
  eventType := "usage.gateway_request.recorded"
  version := "0.1.0"
  occurredAt := "2026-01-01T00:00:00.000Z"
  source := .gateway
  workingGroupId := event.subject.workingGroupId
  actor := eventActor event.subject
  resource := { resourceType := "provider", id := event.provider.providerId }
  correlationId := event.correlationId.getD ""
  requestId := event.requestId.toString
  policyDecisionId := event.decisionId
  idempotencyKey := event.idempotencyKey
  payload := {
    subject := { subjectType := .gatewayRequest, id := event.requestId.toString }
    measurements := {
      durationMs := 0
      inputTokens := some (saturateToU32 event.promptTokens)
      outputTokens := some (saturateToU32 event.completionTokens)
      toolInvocations := some 0
      estimatedCostMicros := some event.estimatedCostMicroUsd
      meteringUnit := none
      runtimeCapability := some "gateway.provider_routing"
    }
  }

def toAuditEvent (event : UsageAuditEventV1) : AuditEvent where
  id := event.eventId.toString
  eventType := "audit.gateway_request." ++ event.status.contractName
  version := "0.1.0"
  occurredAt := "2026-01-01T00:00:00.000Z"
  source := .gateway
  workingGroupId := event.subject.workingGroupId
  actor := eventActor event.subject
  resource := { resourceType := "provider", id := event.provider.providerId }
  correlationId := event.correlationId.getD ""
  requestId := event.requestId.toString
  policyDecisionId := event.decisionId
  payload := {
    action := "gateway.provider.invoke"
    outcome := event.status.auditOutcome
    runtimeCapability := some "gateway.provider_routing"
    featureFlag := some "gateway.provider_routing.enabled"
    approvalRef := none
  }

end UsageAuditEventV1

end TaskotterGateway.Relay
