import TaskotterGateway.Foundation.GuardCascade
import TaskotterGateway.Mcp.ToolPolicy

/-! The tool policy as one cascade of guards. The evaluator's early returns, its nested
matches on the credential requirement included, answer with the first guard that rejects
the call; everything else about an outcome follows from that answer.
-/

namespace TaskotterGateway.Mcp

open Text Contracts GuardCascade

/-- The denial reasons of a tool call, in the order in which they are tried. -/
def toolCallGuards : List (Guard McpToolCallPolicyRequest String) :=
  [
    ⟨fun request => request.workingGroupId != request.tool.workingGroupId,
      "working_group_scope_mismatch"⟩,
    ⟨fun request => !request.tool.allowedActorTypes.any (· == request.actor.actorType),
      "actor_type_not_allowed"⟩,
    ⟨fun request =>
        !request.tool.allowedActorIds.isEmpty
        && !request.tool.allowedActorIds.any (· == request.actor.id),
      "actor_id_not_allowed"⟩,
    ⟨fun request =>
        request.tool.requiredSkillRefs.any
          (fun required => !request.skillRefs.any (· == required)),
      "required_skill_missing"⟩,
    ⟨fun request =>
        !request.tool.allowedAgentIds.isEmpty
        && !request.requestAgentId.any
            (fun agentId => request.tool.allowedAgentIds.any (· == agentId)),
      "agent_binding_not_allowed"⟩,
    ⟨fun request =>
        !request.tool.allowedRunnerIds.isEmpty
        && !request.runnerId.any
            (fun runnerId => request.tool.allowedRunnerIds.any (· == runnerId)),
      "runner_binding_not_allowed"⟩,
    ⟨fun request =>
        request.tool.credentialRequirement == .none && request.credentialRef.isSome,
      "credential_reference_not_allowed"⟩,
    ⟨fun request =>
        request.tool.credentialRequirement == .requiredScopedReference
        && request.credentialRef.isNone,
      "credential_reference_required"⟩,
    ⟨fun request =>
        request.credentialRef.any
          (fun credentialRef =>
            !credentialScopeMatchesWorkingGroup credentialRef.scope request.workingGroupId),
      "credential_scope_mismatch"⟩,
    ⟨fun request =>
        request.credentialRef.any
          (fun credentialRef => !isToolCredentialKind credentialRef.kind),
      "credential_reference_kind_not_allowed"⟩
  ]

/-- The nested matches on the credential requirement compute the same reason as the flat
cascade. Witness: cases on the requirement and the presence of a credential.
-/
theorem toolCallDenialReason_eq_firstRefusal (request : McpToolCallPolicyRequest)
    : toolCallDenialReason request = firstRefusal toolCallGuards request := by
  unfold toolCallDenialReason
  cases presented : request.credentialRef with
  | none =>
      cases requirement : request.tool.credentialRequirement <;>
        simp [toolCallGuards, requirement, presented]
  | some credentialRef =>
      cases scope : credentialScopeMatchesWorkingGroup credentialRef.scope
          request.workingGroupId <;>
        cases kind : isToolCredentialKind credentialRef.kind <;>
        cases requirement : request.tool.credentialRequirement <;>
        simp [toolCallGuards, requirement, presented, validateScopedCredentialBinding,
          scope, kind]

/-- What a refused call is answered with: its reason code and its normalized error. -/
structure Refusal where
  reasonCode : String
  error : NormalizedError
  deriving DecidableEq, Repr

/-- Every check of the evaluator that can deny a call, with the refusal it answers. -/
def policyGuards : List (Guard McpToolCallPolicyRequest Refusal) :=
  [
    ⟨fun request => fails request.policy.validate,
      ⟨"policy_instruction_invalid", policyInstructionInvalid⟩⟩,
    ⟨fun request => request.tool.lacksDeclaration,
      ⟨"mcp_tool_risk_metadata_invalid", mcpToolMetadataIncomplete⟩⟩,
    ⟨fun request => !request.tool.matchesRiskRow,
      ⟨"mcp_tool_risk_metadata_invalid", mcpToolRiskMetadataInvalid⟩⟩,
    ⟨fun request =>
        request.credentialRef.any (fun credentialRef => fails credentialRef.validate),
      ⟨"raw_credential_value_rejected", rawCredentialValueRejected⟩⟩
  ]
  ++ toolCallGuards.map
      (fun guard => ⟨guard.rejects, ⟨guard.refusal, toolCallDenied guard.refusal⟩⟩)

/-- The outcome of a call once the cascade has answered. -/
def outcomeOf (request : McpToolCallPolicyRequest) : Option Refusal → McpToolPolicyOutcome
  | some refusal =>
      policyOutcome request .denied (some refusal.reasonCode) (some refusal.error)
        request.policy.policyDecisionId
  | none =>
      if request.tool.requiresApproval then
        policyOutcome request .approvalRequired
          (some "approval_required_before_tool_execution")
          (some approvalRequiredBeforeToolExecution) request.policy.policyDecisionId
      else
        policyOutcome request .allowed none none request.policy.policyDecisionId

/-- Calls that pass all validations are answered by the denial reasons alone. -/
theorem firstRefusal_policyGuards_of_valid {request : McpToolCallPolicyRequest}
    (policy : request.policy.validate = .ok ())
    (declared : request.tool.lacksDeclaration = false)
    (row : request.tool.matchesRiskRow = true)
    (reference
      : request.credentialRef.any (fun credentialRef => fails credentialRef.validate) = false)
    : firstRefusal policyGuards request
      = (firstRefusal toolCallGuards request).map
          (fun reason => ⟨reason, toolCallDenied reason⟩) := by
  rw [← firstRefusal_map (fun reason => (⟨reason, toolCallDenied reason⟩ : Refusal))]
  simp [policyGuards, policy, declared, row, reference]

/-- The evaluator answers with the first guard of the cascade that rejects the call.
Witness: cases on the answer of each validation, in the order the evaluator asks them.
-/
theorem evaluateToolCallPolicy_eq_outcomeOf (request : McpToolCallPolicyRequest)
    : evaluateToolCallPolicy request
      = outcomeOf request (firstRefusal policyGuards request) := by
  rcases request.policy.validate_cases with policy | policy
  case inr => simp [evaluateToolCallPolicy, policyGuards, outcomeOf, policy]
  cases declared : request.tool.lacksDeclaration
  case true =>
    simp [evaluateToolCallPolicy, McpToolPolicyMetadata.validateRiskMetadata, policyGuards,
      outcomeOf, policy, declared]
  cases row : request.tool.matchesRiskRow
  case false =>
    simp [evaluateToolCallPolicy, McpToolPolicyMetadata.validateRiskMetadata, policyGuards,
      outcomeOf, policy, declared, row]
  have metadata : request.tool.validateRiskMetadata = .ok () := by
    simp [McpToolPolicyMetadata.validateRiskMetadata, declared, row]
  have denials (reference : request.credentialRef.any (fun c => fails c.validate) = false)
      := firstRefusal_policyGuards_of_valid policy declared row reference
  cases presented : request.credentialRef with
  | none =>
      rw [denials (by simp [presented])]
      simp only [evaluateToolCallPolicy, policy, metadata, presented, Option.map_none,
        toolCallDenialReason_eq_firstRefusal]
      cases firstRefusal toolCallGuards request <;> rfl
  | some credentialRef =>
      rcases credentialRef.validate_cases with reference | reference
      · rw [denials (by simp [presented, reference])]
        simp only [evaluateToolCallPolicy, policy, metadata, presented, reference,
          Option.map_some, toolCallDenialReason_eq_firstRefusal]
        cases firstRefusal toolCallGuards request <;> rfl
      · simp [evaluateToolCallPolicy, policyGuards, outcomeOf, policy, metadata, declared, row,
          presented, reference]

/-- Whatever the answer, the outcome is about the decision that the call presented. -/
theorem evaluateToolCallPolicy_eq_policyOutcome (request : McpToolCallPolicyRequest)
    : ∃ effect reasonCode normalizedError,
        evaluateToolCallPolicy request
        = policyOutcome request effect reasonCode normalizedError
            request.policy.policyDecisionId := by
  rw [evaluateToolCallPolicy_eq_outcomeOf]
  cases firstRefusal policyGuards request with
  | some refusal => exact ⟨.denied, some refusal.reasonCode, some refusal.error, rfl⟩
  | none =>
      cases approval : request.tool.requiresApproval with
      | true =>
          refine ⟨.approvalRequired, some "approval_required_before_tool_execution",
            some approvalRequiredBeforeToolExecution, ?_⟩
          simp only [outcomeOf, approval, if_true]
      | false =>
          refine ⟨.allowed, none, none, ?_⟩
          simp only [outcomeOf, approval, Bool.false_eq_true, if_false]

/-- The effect of a call that passed every guard, by whether its tool needs approval. -/
def McpToolCallPolicyRequest.grantedEffect (request : McpToolCallPolicyRequest)
    : McpToolPolicyEffect :=
  if request.tool.requiresApproval then .approvalRequired else .allowed

/-- Passing the guards never denies. -/
theorem McpToolCallPolicyRequest.grantedEffect_ne_denied (request : McpToolCallPolicyRequest)
    : request.grantedEffect ≠ .denied := by
  unfold McpToolCallPolicyRequest.grantedEffect
  split <;> simp

/-- A call is denied when some guard refused it, and otherwise its effect only depends on
the approval flag.
-/
theorem evaluateToolCallPolicy_effect (request : McpToolCallPolicyRequest)
    : (evaluateToolCallPolicy request).effect
      = if (firstRefusal policyGuards request).isSome then
          .denied
        else
          request.grantedEffect := by
  rw [evaluateToolCallPolicy_eq_outcomeOf]
  cases firstRefusal policyGuards request with
  | some refusal => rfl
  | none =>
      cases approval : request.tool.requiresApproval <;>
        simp [outcomeOf, McpToolCallPolicyRequest.grantedEffect, approval, policyOutcome]

end TaskotterGateway.Mcp
