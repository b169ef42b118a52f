import TaskotterGateway.Mcp.Authorization

/-! The parts of an outcome agree. An outcome is assembled from an effect, a reason and an
error that the evaluator chooses at each of its exits; what the exits have in common is read
off the list of refusals, and one of the refusals has an error of another class.
-/

namespace TaskotterGateway.Mcp

open Contracts GuardCascade

-----------------------------------------------------------------------------------------
-- Effects and records
-----------------------------------------------------------------------------------------

/-- What all refusals have in common: a denial by policy that no retry changes, for another
reason than a missing approval.
-/
structure Refusal.Regular (refusal : Refusal) : Prop where
  code : refusal.error.code = .policyDenied
  final : refusal.error.retryable = false
  reason : refusal.reasonCode ≠ "approval_required_before_tool_execution"

theorem toolCallGuards_reasons
    : ∀ guard ∈ toolCallGuards, guard.refusal ≠ "approval_required_before_tool_execution" := by
  simp [toolCallGuards]

/-- Whatever guard refuses a tool call, its refusal is regular. -/
theorem policyGuards_regular : ∀ guard ∈ policyGuards, guard.refusal.Regular := by
  intro guard member
  rcases List.mem_append.mp member with validation | denial
  · simp only [List.mem_cons, List.not_mem_nil, or_false] at validation
    rcases validation with rfl | rfl | rfl | rfl <;> exact ⟨rfl, rfl, by decide⟩
  · obtain ⟨reason, listed, rfl⟩ := List.mem_map.mp denial
    exact ⟨rfl, rfl, toolCallGuards_reasons reason listed⟩

/-- The effect of an outcome, its reason, its error and its two events tell the same. -/
structure McpToolPolicyOutcome.Consistent (outcome : McpToolPolicyOutcome) : Prop where
  unreasoned : outcome.effect = .allowed ↔ outcome.reasonCode = none
  faultless : outcome.effect = .allowed ↔ outcome.normalizedError = none
  audited : outcome.effect = .allowed ↔ outcome.auditEvent.payload.outcome = .allowed
  announced
    : outcome.effect = .allowed
      ↔ outcome.auditEvent.eventType = "audit.policy_decision.allowed"
  failed
    : outcome.effect ≠ .allowed
      → ∃ error, outcome.normalizedError = some error
        ∧ error.code = .policyDenied
        ∧ error.retryable = false
  recorded
    : outcome.effect ≠ .allowed
      → outcome.auditEvent.payload.outcome = .denied
        ∧ outcome.auditEvent.eventType = "audit.policy_decision.denied"
  approval
    : outcome.auditEvent.payload.approvalRef
      = if outcome.effect = .approvalRequired then some outcome.policyDecisionId else none
  unmetered
    : outcome.usageEvent.payload.measurements.toolInvocations = some 0
      ∧ outcome.usageEvent.payload.measurements.inputTokens = some 0
      ∧ outcome.usageEvent.payload.measurements.outputTokens = some 0
      ∧ outcome.usageEvent.payload.measurements.estimatedCostMicros = some 0

/-- An allowed call is assembled without a reason and without an error. -/
theorem policyOutcome_allowed_consistent (request : McpToolCallPolicyRequest)
    (decisionId : String)
    : (policyOutcome request .allowed none none decisionId).Consistent := by
  constructor <;>
    simp [policyOutcome, McpToolPolicyEffect.auditOutcome, auditOutcomeName]

/-- Any other call is assembled with a final denial, and with the reason of the approval
exactly if it waits for one.
-/
theorem policyOutcome_refused_consistent {request : McpToolCallPolicyRequest}
    {effect : McpToolPolicyEffect} {reason : String} {error : NormalizedError}
    {decisionId : String} (refused : effect ≠ .allowed) (code : error.code = .policyDenied)
    (final : error.retryable = false)
    (waits : reason = "approval_required_before_tool_execution" ↔ effect = .approvalRequired)
    : (policyOutcome request effect (some reason) (some error) decisionId).Consistent := by
  have denied : effect.auditOutcome = .denied := by
    cases effect with
    | allowed => contradiction
    | denied => rfl
    | approvalRequired => rfl
  constructor <;>
    simp [policyOutcome, denied, auditOutcomeName, refused, code, final, waits]

/-- Every outcome of the policy is consistent, and about the decision that the call presents:
the refusals are regular, and the approval has the one reason that none of them has.
-/
theorem evaluateToolCallPolicy_consistent (request : McpToolCallPolicyRequest)
    : (evaluateToolCallPolicy request).Consistent
      ∧ (evaluateToolCallPolicy request).policyDecisionId = request.policy.policyDecisionId := by
  rw [evaluateToolCallPolicy_eq_outcomeOf]
  cases answer : firstRefusal policyGuards request with
  | some refusal =>
      obtain ⟨code, final, reason⟩ := firstRefusal_elim Refusal.Regular
        (fun guard member _ => policyGuards_regular guard member) answer
      refine ⟨?_, rfl⟩
      apply policyOutcome_refused_consistent (by simp) code final
      simp [reason]
  | none =>
      cases approval : request.tool.requiresApproval with
      | true =>
          simp only [outcomeOf, approval, if_true]
          refine ⟨?_, rfl⟩
          apply policyOutcome_refused_consistent <;> simp [approvalRequiredBeforeToolExecution]
      | false =>
          simp only [outcomeOf, approval, Bool.false_eq_true, if_false]
          exact ⟨policyOutcome_allowed_consistent _ _, rfl⟩

-----------------------------------------------------------------------------------------
-- Reasons and error classes
-----------------------------------------------------------------------------------------

/-- The error of the outcome is of the class that its reason names. -/
def McpToolPolicyOutcome.Labelled (outcome : McpToolPolicyOutcome) : Prop :=
  ∃ reason error, outcome.reasonCode = some reason
    ∧ outcome.normalizedError = some error
    ∧ error.providerErrorClass = some reason

/-- The refusal of incomplete metadata is the only one whose error is of another class. -/
theorem policyGuards_labelled {request : McpToolCallPolicyRequest}
    (complete : request.tool.Complete)
    : ∀ guard ∈ policyGuards, guard.rejects request = true
        → guard.refusal.error.providerErrorClass = some guard.refusal.reasonCode := by
  intro guard member rejects
  rcases List.mem_append.mp member with validation | denial
  · simp only [List.mem_cons, List.not_mem_nil, or_false] at validation
    rcases validation with rfl | rfl | rfl | rfl
    · rfl
    · have incomplete :=
        not_of_rejects McpToolPolicyMetadata.lacksDeclaration_eq_false_iff rejects
      exact absurd complete incomplete
    · rfl
    · rfl
  · obtain ⟨reason, _, rfl⟩ := List.mem_map.mp denial
    rfl

/-- Complete metadata labels every outcome that is not allowed. -/
theorem labelled_of_complete {request : McpToolCallPolicyRequest}
    (complete : request.tool.Complete)
    (refused : (evaluateToolCallPolicy request).effect ≠ .allowed)
    : (evaluateToolCallPolicy request).Labelled := by
  rw [evaluateToolCallPolicy_eq_outcomeOf] at refused ⊢
  cases answer : firstRefusal policyGuards request with
  | some refusal =>
      have labelled := firstRefusal_elim
        (fun refusal => refusal.error.providerErrorClass = some refusal.reasonCode)
        (policyGuards_labelled complete) answer
      exact ⟨refusal.reasonCode, refusal.error, rfl, rfl, labelled⟩
  | none =>
      rw [answer] at refused
      cases approval : request.tool.requiresApproval with
      | true =>
          simp only [outcomeOf, approval, if_true]
          exact ⟨_, _, rfl, rfl, rfl⟩
      | false =>
          simp only [outcomeOf, approval, Bool.false_eq_true, if_false] at refused
          contradiction

/-- A call with an invalid policy instruction is refused for that before all else. -/
theorem labelled_of_invalid {request : McpToolCallPolicyRequest}
    (invalid : request.policy.validate = .error policyInstructionInvalid)
    : (evaluateToolCallPolicy request).Labelled := by
  have answer : firstRefusal policyGuards request
      = some ⟨"policy_instruction_invalid", policyInstructionInvalid⟩ := by
    simp [policyGuards, invalid]
  rw [evaluateToolCallPolicy_eq_outcomeOf, answer]
  exact ⟨_, _, rfl, rfl, rfl⟩

/-- A valid instruction for a tool with incomplete metadata is refused under a reason that is
not the class of the error.
-/
theorem mislabelled_of_incomplete {request : McpToolCallPolicyRequest}
    (valid : request.policy.validate = .ok ()) (incomplete : ¬ request.tool.Complete)
    : (evaluateToolCallPolicy request).effect = .denied
      ∧ ¬ (evaluateToolCallPolicy request).Labelled := by
  have declared : request.tool.lacksDeclaration = true := by
    rw [← McpToolPolicyMetadata.lacksDeclaration_eq_false_iff, Bool.not_eq_false] at incomplete
    exact incomplete
  have answer : firstRefusal policyGuards request
      = some ⟨"mcp_tool_risk_metadata_invalid", mcpToolMetadataIncomplete⟩ := by
    simp [policyGuards, valid, declared]
  rw [evaluateToolCallPolicy_eq_outcomeOf, answer]
  refine ⟨rfl, ?_⟩
  intro labelled
  obtain ⟨reason, error, reasoned, failed, sameClass⟩ := labelled
  cases Option.some.inj reasoned
  cases Option.some.inj failed
  have differ : mcpToolMetadataIncomplete.providerErrorClass
      ≠ some "mcp_tool_risk_metadata_invalid" := by
    decide
  exact differ sameClass

/-- The reason of a call that is not allowed is the class of its error, unless a valid policy
instruction meets a tool whose metadata is incomplete; such a call is always mislabelled.
-/
theorem evaluateToolCallPolicy_labelled_iff (request : McpToolCallPolicyRequest)
    : ((evaluateToolCallPolicy request).effect ≠ .allowed
        → (evaluateToolCallPolicy request).Labelled)
      ↔ ¬ request.policy.Canonical ∨ request.tool.Complete := by
  rw [← PolicyInstruction.validate_ok_iff]
  constructor
  · intro labelled
    by_contra neither
    obtain ⟨valid, incomplete⟩ := not_or.mp neither
    obtain ⟨denied, mislabelled⟩ := mislabelled_of_incomplete (not_not.mp valid) incomplete
    apply mislabelled
    apply labelled
    rw [denied]
    simp
  · intro either refused
    rcases either with invalid | complete
    · exact labelled_of_invalid (request.policy.validate_cases.resolve_left invalid)
    · exact labelled_of_complete complete refused

/-- An execution call of a tool that declares no owner. -/
def unownedCall : McpToolCallPolicyRequest :=
  let call := executionCall "wg" "runner_approved" (runnerJobCredential "secret_ref_a" "wg/job")
  { call with tool := { call.tool with owner := "" } }

/-- The refusal of a tool without an owner is mislabelled. -/
theorem not_labelled_of_unowned
    : ¬ ∀ request : McpToolCallPolicyRequest,
          (evaluateToolCallPolicy request).effect ≠ .allowed
          → (evaluateToolCallPolicy request).Labelled := by
  intro assumed
  have incomplete : ¬ unownedCall.tool.Complete := fun complete => complete.owner rfl
  obtain ⟨denied, mislabelled⟩ :=
    @mislabelled_of_incomplete unownedCall (by decide +kernel) incomplete
  apply mislabelled
  apply assumed
  rw [denied]
  simp

end TaskotterGateway.Mcp
