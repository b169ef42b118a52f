import TaskotterGateway.Mcp.Authorization

/-! What the risk matrix guarantees once a call is permitted: side effects wait for an
approval, and execution is bound to a listed runner and a scoped credential.
-/

namespace TaskotterGateway.Mcp

open Contracts

/-- Rows without an approval are the two reading rows, by cases on the matrix. -/
theorem McpToolPolicyMetadata.RiskRow.reads_only {tool : McpToolPolicyMetadata}
    (row : tool.RiskRow) (unapproved : tool.requiresApproval = false)
    : (tool.sideEffectProfile = .none ∨ tool.sideEffectProfile = .readsSensitiveData)
      ∧ (tool.riskLevel = .readOnly ∨ tool.riskLevel = .sensitiveRead) := by
  cases row with
  | readOnly level profile => exact ⟨Or.inl profile, Or.inl level⟩
  | sensitiveRead level profile => exact ⟨Or.inr profile, Or.inr level⟩
  | mutating level profile approval => simp [approval] at unapproved
  | execution level profile requirement runners approval => simp [approval] at unapproved

/-- The execution row is the only one with its risk level or its side effects, and it
demands a credential, a runner list and an approval.
-/
theorem McpToolPolicyMetadata.RiskRow.execution_demands {tool : McpToolPolicyMetadata}
    (row : tool.RiskRow)
    (executes
      : tool.sideEffectProfile = .executesCodeOrProcess ∨ tool.riskLevel = .execution)
    : tool.credentialRequirement = .requiredScopedReference
      ∧ tool.allowedRunnerIds ≠ []
      ∧ tool.requiresApproval = true := by
  cases row with
  | readOnly level profile => simp [level, profile] at executes
  | sensitiveRead level profile => simp [level, profile] at executes
  | mutating level profile => simp [level, profile] at executes
  | execution level profile requirement runners approval =>
      exact ⟨requirement, runners, approval⟩

/-- An authorized call of a tool that requires a credential presents a valid, bound one. -/
theorem McpToolCallPolicyRequest.Authorized.required_credential
    {request : McpToolCallPolicyRequest} (authorized : request.Authorized)
    (required : request.tool.credentialRequirement = .requiredScopedReference)
    : ∃ credentialRef,
        request.credentialRef = some credentialRef
        ∧ credentialRef.validate = .ok ()
        ∧ BoundTo credentialRef request.workingGroupId := by
  have fits := authorized.credential
  rw [McpToolCallPolicyRequest.CredentialFits, required] at fits
  obtain ⟨credentialRef, presented, bound⟩ := fits
  have named := authorized.reference credentialRef presented
  exact ⟨credentialRef, presented, ScopedCredentialRef.validate_ok_iff.mpr named, bound⟩

/-- An allowed call only reads and needs no approval; a permitted call that executes waits
for its approval, on a listed runner and with a credential bound to the working group.
-/
theorem evaluateToolCallPolicy_sideEffects (request : McpToolCallPolicyRequest)
    : ((evaluateToolCallPolicy request).effect = .allowed
        → (request.tool.sideEffectProfile = .none
            ∨ request.tool.sideEffectProfile = .readsSensitiveData)
          ∧ (request.tool.riskLevel = .readOnly ∨ request.tool.riskLevel = .sensitiveRead)
          ∧ request.tool.requiresApproval = false)
      ∧ ((evaluateToolCallPolicy request).effect ≠ .denied
        → request.tool.sideEffectProfile = .executesCodeOrProcess
          ∨ request.tool.riskLevel = .execution
        → (evaluateToolCallPolicy request).effect = .approvalRequired
          ∧ request.tool.allowedRunnerIds ≠ []
          ∧ (∃ runnerId,
              request.runnerId = some runnerId
              ∧ runnerId ∈ request.tool.allowedRunnerIds)
          ∧ ∃ credentialRef,
              request.credentialRef = some credentialRef
              ∧ credentialRef.validate = .ok ()
              ∧ (credentialRef.kind = .externalMcpCredentialRef
                ∨ credentialRef.kind = .runnerJobCredentialRef)
              ∧ ScopeWithin credentialRef.scope request.workingGroupId) := by
  constructor
  · intro allowed
    have permitted : (evaluateToolCallPolicy request).effect ≠ .denied := by simp [allowed]
    have authorized := authorized_of_ne_denied permitted
    have unapproved : request.tool.requiresApproval = false := by
      rw [authorized.effect, McpToolCallPolicyRequest.grantedEffect] at allowed
      split at allowed <;> simp_all
    obtain ⟨profile, level⟩ := authorized.metadata.2.reads_only unapproved
    exact ⟨profile, level, unapproved⟩
  · intro permitted executes
    have authorized := authorized_of_ne_denied permitted
    obtain ⟨required, runners, approval⟩ := authorized.metadata.2.execution_demands executes
    have waits : (evaluateToolCallPolicy request).effect = .approvalRequired := by
      rw [authorized.effect, McpToolCallPolicyRequest.grantedEffect, if_pos approval]
    obtain ⟨credentialRef, presented, valid, bound⟩ := authorized.required_credential required
    have runner := authorized.runner.resolve_left runners
    exact ⟨waits, runners, runner, credentialRef, presented, valid, bound.kind, bound.scope⟩

end TaskotterGateway.Mcp
