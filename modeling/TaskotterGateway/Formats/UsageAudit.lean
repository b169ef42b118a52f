import TaskotterGateway.Formats.Fixtures
import TaskotterGateway.Formats.ToolPolicy
import TaskotterGateway.Relay.Identifiers

/-! The JSON form of the event that accounts for a relay (`usage.rs`, `adapters.rs`,
`policy.rs`), and the round trip of all contract formats. How the text of an identifier is
parsed is left to its library; it must read the hyphenated form.
-/

namespace TaskotterGateway.Relay

open JsonCodec Contracts Simulation Mcp

/-- An identifier is written in its hyphenated form. -/
def Uuid.codec (parseUuid : String → Option Uuid)
    (parses : ∀ id : Uuid, parseUuid id.toString = some id)
    : Codec Uuid where
  encode id := .str id.toString
  decode json := json.text?.bind parseUuid
  round_trip id := parses id
  encode_ne_null _ := by simp

def ProviderKind.codec : Codec ProviderKind :=
  .enumeration {
    entries :=
      [(.hosted, "hosted"), (.openAiCompatible, "open_ai_compatible"),
        (.localRunner, "local_runner"), (.futureAdapter, "future_adapter")]
  }

def ProviderRef.codec : Codec ProviderRef :=
  .record .ignored
    (Fields.build ProviderRef.mk
      |>.required "provider_id" .text ProviderRef.providerId
      |>.required "kind" ProviderKind.codec ProviderRef.kind
      |>.required "model" .text ProviderRef.model
      |>.nullable "endpoint_id" .text ProviderRef.endpointId
      |>.defaulted "allowed_working_group_ids" (.list .text)
        ProviderRef.allowedWorkingGroupIds []
      |>.defaulted "allowed_agent_ids" (.list .text) ProviderRef.allowedAgentIds []
      |>.defaulted "allowed_workflow_ids" (.list .text) ProviderRef.allowedWorkflowIds []
      |>.defaulted "allowed_models" (.list .text) ProviderRef.allowedModels []
      |>.nullable "data_boundary_id" .text ProviderRef.dataBoundaryId)

def PolicySubject.codec : Codec PolicySubject :=
  .record .ignored
    (Fields.build PolicySubject.mk
      |>.required "user_id" .text PolicySubject.userId
      |>.required "working_group_id" .text PolicySubject.workingGroupId
      |>.nullable "agent_id" .text PolicySubject.agentId
      |>.nullable "workflow_id" .text PolicySubject.workflowId
      |>.nullable "data_boundary_id" .text PolicySubject.dataBoundaryId)

def UsageAttemptStatus.codec : Codec UsageAttemptStatus :=
  .enumeration {
    entries :=
      [(.succeeded, "succeeded"), (.denied, "denied"), (.quotaDenied, "quota_denied"),
        (.timeout, "timeout"), (.cancelled, "cancelled"), (.failed, "failed")]
  }

def UsageAuditEventV1.codec (parseUuid : String → Option Uuid)
    (parses : ∀ id : Uuid, parseUuid id.toString = some id)
    : Codec UsageAuditEventV1 :=
  .record .ignored
    (Fields.build UsageAuditEventV1.mk
      |>.required "schema_version" .text UsageAuditEventV1.schemaVersion
      |>.required "event_id" (Uuid.codec parseUuid parses) UsageAuditEventV1.eventId
      |>.required "request_id" (Uuid.codec parseUuid parses) UsageAuditEventV1.requestId
      |>.nullable "correlation_id" .text UsageAuditEventV1.correlationId
      |>.required "subject" PolicySubject.codec UsageAuditEventV1.subject
      |>.required "provider" ProviderRef.codec UsageAuditEventV1.provider
      |>.required "decision_id" .text UsageAuditEventV1.decisionId
      |>.required "idempotency_key" .text UsageAuditEventV1.idempotencyKey
      |>.required "status" UsageAttemptStatus.codec UsageAuditEventV1.status
      |>.required "prompt_tokens" .uint64 UsageAuditEventV1.promptTokens
      |>.required "completion_tokens" .uint64 UsageAuditEventV1.completionTokens
      |>.required "estimated_cost_micro_usd" .uint64
        UsageAuditEventV1.estimatedCostMicroUsd)
    (fun _ => rfl) (of_decide_eq_true rfl)

/-- The contract formats and the formats nested in them read back every value that they
write, and write different values differently. Witness: each codec is put together from the
laws of its fields, by the structure of the format.
-/
theorem contract_formats_faithful (parseUuid : String → Option Uuid)
    (parses : ∀ id : Uuid, parseUuid id.toString = some id)
    : GatewaySimulationFixture.codec.Faithful
      ∧ McpToolPolicyFixtureCase.codec.Faithful
      ∧ McpToolPolicyOutcome.codec.Faithful
      ∧ (UsageAuditEventV1.codec parseUuid parses).Faithful
      ∧ ScopedModelRequest.codec.Faithful
      ∧ ScopedMcpSessionRequest.codec.Faithful
      ∧ PolicyInstruction.codec.Faithful
      ∧ ProviderSimulationOutcome.codec.Faithful
      ∧ StreamFrame.codec.Faithful
      ∧ UsageEvent.codec.Faithful
      ∧ AuditEvent.codec.Faithful
      ∧ NormalizedError.codec.Faithful :=
  ⟨GatewaySimulationFixture.codec.faithful,
    McpToolPolicyFixtureCase.codec.faithful,
    McpToolPolicyOutcome.codec.faithful,
    (UsageAuditEventV1.codec parseUuid parses).faithful,
    ScopedModelRequest.codec.faithful,
    ScopedMcpSessionRequest.codec.faithful,
    PolicyInstruction.codec.faithful,
    ProviderSimulationOutcome.codec.faithful,
    StreamFrame.codec.faithful,
    UsageEvent.codec.faithful,
    AuditEvent.codec.faithful,
    NormalizedError.codec.faithful⟩

/-- The parser of the hyphenated form reads what is written. -/
theorem contract_formats_faithful_ofHyphenated
    : (UsageAuditEventV1.codec Uuid.ofHyphenated Uuid.ofHyphenated_toString).Faithful := by
  obtain ⟨_, _, _, usageAudit, _⟩ :=
    contract_formats_faithful Uuid.ofHyphenated Uuid.ofHyphenated_toString
  exact usageAudit

end TaskotterGateway.Relay
