import TaskotterGateway.Formats.Events
import TaskotterGateway.Mcp.ToolPolicy

/-! The JSON form of tool-call policy requests, outcomes and fixture cases (`mcp.rs`). These
records deny unknown fields; the lists and the flag of the metadata may be missing.
-/

namespace TaskotterGateway.Mcp

open JsonCodec Contracts

def McpToolRiskLevel.codec : Codec McpToolRiskLevel :=
  .enumeration {
    entries :=
      [(.readOnly, "read_only"), (.sensitiveRead, "sensitive_read"), (.mutating, "mutating"),
        (.execution, "execution")]
  }

def McpToolSideEffectProfile.codec : Codec McpToolSideEffectProfile :=
  .enumeration {
    entries :=
      [(.none, "none"), (.readsSensitiveData, "reads_sensitive_data"),
        (.mutatesWorkspaceState, "mutates_workspace_state"),
        (.executesCodeOrProcess, "executes_code_or_process")]
  }

def McpToolCredentialRequirement.codec : Codec McpToolCredentialRequirement :=
  .enumeration {
    entries :=
      [(.none, "none"), (.optionalScopedReference, "optional_scoped_reference"),
        (.requiredScopedReference, "required_scoped_reference")]
  }

def McpToolNetworkReach.codec : Codec McpToolNetworkReach :=
  .enumeration {
    entries :=
      [(.none, "none"), (.gatewayInternal, "gateway_internal"),
        (.runnerNetwork, "runner_network"), (.externalInternet, "external_internet")]
  }

def McpToolPolicyMetadata.codec : Codec McpToolPolicyMetadata :=
  .record .denied
    (Fields.build McpToolPolicyMetadata.mk
      |>.required "tool_ref" .text McpToolPolicyMetadata.toolRef
      |>.required "mcp_server_ref" .text McpToolPolicyMetadata.mcpServerRef
      |>.required "owner" .text McpToolPolicyMetadata.owner
      |>.required "working_group_id" .text McpToolPolicyMetadata.workingGroupId
      |>.required "risk_level" McpToolRiskLevel.codec McpToolPolicyMetadata.riskLevel
      |>.required "side_effect_profile" McpToolSideEffectProfile.codec
        McpToolPolicyMetadata.sideEffectProfile
      |>.required "credential_requirement" McpToolCredentialRequirement.codec
        McpToolPolicyMetadata.credentialRequirement
      |>.required "network_reach" McpToolNetworkReach.codec McpToolPolicyMetadata.networkReach
      |>.required "allowed_actor_types" (.list ActorType.codec)
        McpToolPolicyMetadata.allowedActorTypes
      |>.defaulted "allowed_actor_ids" (.list .text) McpToolPolicyMetadata.allowedActorIds []
      |>.defaulted "required_skill_refs" (.list .text)
        McpToolPolicyMetadata.requiredSkillRefs []
      |>.defaulted "allowed_agent_ids" (.list .text) McpToolPolicyMetadata.allowedAgentIds []
      |>.defaulted "allowed_runner_ids" (.list .text) McpToolPolicyMetadata.allowedRunnerIds []
      |>.defaulted "requires_approval" .flag McpToolPolicyMetadata.requiresApproval false)

def McpToolCallPolicyRequest.codec : Codec McpToolCallPolicyRequest :=
  .record .denied
    (Fields.build McpToolCallPolicyRequest.mk
      |>.required "call_id" .text McpToolCallPolicyRequest.callId
      |>.required "session_id" .text McpToolCallPolicyRequest.sessionId
      |>.required "correlation_id" .text McpToolCallPolicyRequest.correlationId
      |>.required "working_group_id" .text McpToolCallPolicyRequest.workingGroupId
      |>.required "actor" ActorRef.codec McpToolCallPolicyRequest.actor
      |>.nullable "agent_id" .text McpToolCallPolicyRequest.agentId
      |>.defaulted "skill_refs" (.list .text) McpToolCallPolicyRequest.skillRefs []
      |>.nullable "runner_id" .text McpToolCallPolicyRequest.runnerId
      |>.required "tool" McpToolPolicyMetadata.codec McpToolCallPolicyRequest.tool
      |>.required "policy" PolicyInstruction.codec McpToolCallPolicyRequest.policy
      |>.nullable "credential_ref" ScopedCredentialRef.codec
        McpToolCallPolicyRequest.credentialRef)

def McpToolPolicyEffect.codec : Codec McpToolPolicyEffect :=
  .enumeration {
    entries :=
      [(.allowed, "allowed"), (.denied, "denied"), (.approvalRequired, "approval_required")]
  }

def McpToolPolicyOutcome.codec : Codec McpToolPolicyOutcome :=
  .record .denied
    (Fields.build McpToolPolicyOutcome.mk
      |>.required "effect" McpToolPolicyEffect.codec McpToolPolicyOutcome.effect
      |>.required "policy_decision_id" .text McpToolPolicyOutcome.policyDecisionId
      |>.skippable "reason_code" .text McpToolPolicyOutcome.reasonCode
      |>.skippable "normalized_error" NormalizedError.codec McpToolPolicyOutcome.normalizedError
      |>.required "usage_event" UsageEvent.codec McpToolPolicyOutcome.usageEvent
      |>.required "audit_event" AuditEvent.codec McpToolPolicyOutcome.auditEvent)

def McpToolPolicyFixtureCase.codec : Codec McpToolPolicyFixtureCase :=
  .record .denied
    (Fields.build McpToolPolicyFixtureCase.mk
      |>.required "id" .text McpToolPolicyFixtureCase.id
      |>.required "request" McpToolCallPolicyRequest.codec McpToolPolicyFixtureCase.request
      |>.required "expected_effect" McpToolPolicyEffect.codec
        McpToolPolicyFixtureCase.expectedEffect
      |>.nullable "expected_reason_code" .text McpToolPolicyFixtureCase.expectedReasonCode)

end TaskotterGateway.Mcp
