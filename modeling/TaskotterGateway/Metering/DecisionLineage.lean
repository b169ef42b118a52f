import TaskotterGateway.Fallback.Admission
import TaskotterGateway.Mcp.PolicyCascade

/-! Which decision the events of a tool call and of a refused fallback are about. Both copy
the identifier that the request presents, whether or not it names a decision.
-/

namespace TaskotterGateway.Metering

open Contracts
open Mcp (McpToolCallPolicyRequest evaluateToolCallPolicy)
open Fallback (FallbackPolicyRequest FallbackPolicyFailure validateFallback)

/-- Both events are about a policy decision, and neither of them nor the approval that the
audit refers to names a dispatched instruction.
-/
structure KeepsDecisionLineage (usage : UsageEvent) (audit : AuditEvent) : Prop where
  usageDecision : NamesDecision usage.policyDecisionId
  auditDecision : NamesDecision audit.policyDecisionId
  usageNotDispatched : ¬ NamesInstruction usage.policyDecisionId
  auditNotDispatched : ¬ NamesInstruction audit.policyDecisionId
  approvalNotDispatched : ∀ approvalRef ∈ audit.payload.approvalRef,
    ¬ NamesInstruction approvalRef

/-- Both events copy one identifier, and so does the approval if there is one. -/
structure CopiesDecision (decisionId : String) (usage : UsageEvent) (audit : AuditEvent)
    : Prop where
  usageDecision : usage.policyDecisionId = decisionId
  auditDecision : audit.policyDecisionId = decisionId
  approval : ∀ approvalRef ∈ audit.payload.approvalRef, approvalRef = decisionId

/-- Copies keep the lineage of decisions exactly if what they copy names one. -/
theorem CopiesDecision.keeps_iff {decisionId : String} {usage : UsageEvent}
    {audit : AuditEvent} (copies : CopiesDecision decisionId usage audit)
    : KeepsDecisionLineage usage audit ↔ NamesDecision decisionId := by
  constructor
  · intro kept
    rw [← copies.usageDecision]
    exact kept.usageDecision
  · intro names
    have usage : NamesDecision usage.policyDecisionId := by
      rw [copies.usageDecision]
      exact names
    have audit : NamesDecision audit.policyDecisionId := by
      rw [copies.auditDecision]
      exact names
    refine ⟨usage, audit, usage.not_namesInstruction, audit.not_namesInstruction, ?_⟩
    intro approvalRef present
    rw [copies.approval approvalRef present]
    exact names.not_namesInstruction

/-- A tool call is accounted for under the decision it presents. Only a call that waits for
its approval refers to one, and then to this decision.
-/
theorem toolCall_copiesDecision (request : McpToolCallPolicyRequest)
    : CopiesDecision request.policy.policyDecisionId
        (evaluateToolCallPolicy request).usageEvent
        (evaluateToolCallPolicy request).auditEvent := by
  obtain ⟨effect, reasonCode, normalizedError, answer⟩ :=
    Mcp.evaluateToolCallPolicy_eq_policyOutcome request
  rw [answer]
  refine ⟨rfl, rfl, ?_⟩
  intro approvalRef present
  simp only [Mcp.policyOutcome, Option.mem_def] at present
  split at present
  · exact (Option.some.inj present).symm
  · contradiction

/-- A refused fallback is accounted for under the decision it presents. -/
theorem fallback_copiesDecision {request : FallbackPolicyRequest}
    {failure : FallbackPolicyFailure} (refused : validateFallback request = .error failure)
    : CopiesDecision request.policyDecisionId failure.usageEvent failure.auditEvent := by
  obtain ⟨refusal, _, rfl⟩ := Fallback.exists_refusal_of_validateFallback_error refused
  refine ⟨rfl, rfl, ?_⟩
  intro approvalRef present
  exact (Option.some.inj present).symm

/-- Decision lineage is kept by exactly the tool calls that present a decision, whether they
are granted or denied, and by exactly the fallbacks that are approved or present a decision.
-/
theorem keepsDecisionLineage_iff (call : McpToolCallPolicyRequest)
    (fallback : FallbackPolicyRequest)
    : (KeepsDecisionLineage (evaluateToolCallPolicy call).usageEvent
            (evaluateToolCallPolicy call).auditEvent
          ↔ NamesDecision call.policy.policyDecisionId)
      ∧ ((∀ failure, validateFallback fallback = .error failure
            → KeepsDecisionLineage failure.usageEvent failure.auditEvent)
          ↔ fallback.Admissible ∨ NamesDecision fallback.policyDecisionId) := by
  refine ⟨(toolCall_copiesDecision call).keeps_iff, ?_⟩
  constructor
  · intro kept
    cases answer : validateFallback fallback with
    | ok decision => exact Or.inl (Fallback.admissible_of_validateFallback_ok answer).1
    | error failure =>
        exact Or.inr ((fallback_copiesDecision answer).keeps_iff.mp (kept failure answer))
  · intro covered failure refused
    rcases covered with admissible | names
    · rw [admissible.approved] at refused
      contradiction
    · exact (fallback_copiesDecision refused).keeps_iff.mpr names

/-- A tool call that presents an instruction in place of a decision. -/
def dispatchedCall : McpToolCallPolicyRequest :=
  {
    Mcp.executionCall "wg" "runner_approved" (Mcp.runnerJobCredential "secret_ref_a" "wg/job") with
    policy := .decisionRef "gwi_dispatch" "2026-06-01T00:00:00Z"
  }

/-- A fallback that presents an instruction and is refused for its provider family. -/
def dispatchedFallback : FallbackPolicyRequest :=
  {
    Fallback.fallbackPolicyRequest .sameProvider
      (Fallback.fallbackCandidate "provider_primary" "openai" "wg_1/provider")
      (Fallback.fallbackCandidate "provider_other" "anthropic" "wg_1/provider") with
    policyDecisionId := "gwi_dispatch"
  }

/-- Decision lineage is not always kept: a call that is denied for its instruction is still
accounted for under it, and so is a refused fallback.
-/
theorem not_keepsDecisionLineage
    : (¬ ∀ request : McpToolCallPolicyRequest,
          KeepsDecisionLineage (evaluateToolCallPolicy request).usageEvent
            (evaluateToolCallPolicy request).auditEvent)
      ∧ ¬ ∀ (request : FallbackPolicyRequest) (failure : FallbackPolicyFailure),
            validateFallback request = .error failure
            → KeepsDecisionLineage failure.usageEvent failure.auditEvent := by
  have dispatched : NamesInstruction "gwi_dispatch" := ⟨"dispatch", rfl⟩
  refine ⟨?_, ?_⟩
  · intro assumed
    have kept := (assumed dispatchedCall).usageNotDispatched
    rw [(toolCall_copiesDecision dispatchedCall).usageDecision] at kept
    exact kept dispatched
  · intro assumed
    cases answer : validateFallback dispatchedFallback with
    | ok decision =>
        have admissible := (Fallback.admissible_of_validateFallback_ok answer).1
        have family := admissible.sameProvider rfl
        exact absurd family (by decide)
    | error failure =>
        have kept := (assumed dispatchedFallback failure answer).usageNotDispatched
        rw [(fallback_copiesDecision answer).usageDecision] at kept
        exact kept dispatched

end TaskotterGateway.Metering
