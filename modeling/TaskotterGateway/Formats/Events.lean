import TaskotterGateway.Formats.Contracts

/-! The JSON form of the usage and audit events (`contracts.rs`). Every record of the two
envelopes denies unknown fields, and some optional fields are left out where absent.
-/

namespace TaskotterGateway.Contracts

open JsonCodec

def EventSource.codec : Codec EventSource :=
  .enumeration {
    entries :=
      [(.controlPlane, "control_plane"), (.runner, "runner"), (.gateway, "gateway")]
  }

def EventActorType.codec : Codec EventActorType :=
  .enumeration {
    entries :=
      [(.user, "user"), (.agent, "agent"), (.service, "service")]
  }

def EventActorRef.codec : Codec EventActorRef :=
  .record .denied
    (Fields.build EventActorRef.mk
      |>.required "type" EventActorType.codec EventActorRef.actorType
      |>.required "id" .text EventActorRef.id)

def EventResourceRef.codec : Codec EventResourceRef :=
  .record .denied
    (Fields.build EventResourceRef.mk
      |>.required "type" .text EventResourceRef.resourceType
      |>.required "id" .text EventResourceRef.id)

def UsageSubjectType.codec : Codec UsageSubjectType :=
  .enumeration {
    entries :=
      [(.agentRun, "agent_run"), (.gatewayRequest, "gateway_request"),
        (.workflowRun, "workflow_run")]
  }

def UsageSubject.codec : Codec UsageSubject :=
  .record .denied
    (Fields.build UsageSubject.mk
      |>.required "type" UsageSubjectType.codec UsageSubject.subjectType
      |>.required "id" .text UsageSubject.id)

def UsageMeasurements.codec : Codec UsageMeasurements :=
  .record .denied
    (Fields.build UsageMeasurements.mk
      |>.required "duration_ms" .uint64 UsageMeasurements.durationMs
      |>.nullable "input_tokens" .uint32 UsageMeasurements.inputTokens
      |>.nullable "output_tokens" .uint32 UsageMeasurements.outputTokens
      |>.nullable "tool_invocations" .uint32 UsageMeasurements.toolInvocations
      |>.nullable "estimated_cost_micros" .uint64 UsageMeasurements.estimatedCostMicros
      |>.skippable "metering_unit" .text UsageMeasurements.meteringUnit
      |>.skippable "runtime_capability" .text UsageMeasurements.runtimeCapability)

def UsagePayload.codec : Codec UsagePayload :=
  .record .denied
    (Fields.build UsagePayload.mk
      |>.required "subject" UsageSubject.codec UsagePayload.subject
      |>.required "measurements" UsageMeasurements.codec UsagePayload.measurements)

def UsageEvent.codec : Codec UsageEvent :=
  .record .denied
    (Fields.build UsageEvent.mk
      |>.required "id" .text UsageEvent.id
      |>.required "type" .text UsageEvent.eventType
      |>.required "version" .text UsageEvent.version
      |>.required "occurred_at" .text UsageEvent.occurredAt
      |>.required "source" EventSource.codec UsageEvent.source
      |>.required "working_group_id" .text UsageEvent.workingGroupId
      |>.required "actor" EventActorRef.codec UsageEvent.actor
      |>.required "resource" EventResourceRef.codec UsageEvent.resource
      |>.required "correlation_id" .text UsageEvent.correlationId
      |>.required "request_id" .text UsageEvent.requestId
      |>.required "policy_decision_id" .text UsageEvent.policyDecisionId
      |>.required "idempotency_key" .text UsageEvent.idempotencyKey
      |>.required "payload" UsagePayload.codec UsageEvent.payload)

def AuditOutcome.codec : Codec AuditOutcome :=
  .enumeration {
    entries :=
      [(.allowed, "allowed"), (.denied, "denied"), (.succeeded, "succeeded"),
        (.failed, "failed")]
  }

def AuditPayload.codec : Codec AuditPayload :=
  .record .denied
    (Fields.build AuditPayload.mk
      |>.required "action" .text AuditPayload.action
      |>.required "outcome" AuditOutcome.codec AuditPayload.outcome
      |>.skippable "runtime_capability" .text AuditPayload.runtimeCapability
      |>.skippable "feature_flag" .text AuditPayload.featureFlag
      |>.skippable "approval_ref" .text AuditPayload.approvalRef)

def AuditEvent.codec : Codec AuditEvent :=
  .record .denied
    (Fields.build AuditEvent.mk
      |>.required "id" .text AuditEvent.id
      |>.required "type" .text AuditEvent.eventType
      |>.required "version" .text AuditEvent.version
      |>.required "occurred_at" .text AuditEvent.occurredAt
      |>.required "source" EventSource.codec AuditEvent.source
      |>.required "working_group_id" .text AuditEvent.workingGroupId
      |>.required "actor" EventActorRef.codec AuditEvent.actor
      |>.required "resource" EventResourceRef.codec AuditEvent.resource
      |>.required "correlation_id" .text AuditEvent.correlationId
      |>.required "request_id" .text AuditEvent.requestId
      |>.required "policy_decision_id" .text AuditEvent.policyDecisionId
      |>.required "payload" AuditPayload.codec AuditEvent.payload)

end TaskotterGateway.Contracts
