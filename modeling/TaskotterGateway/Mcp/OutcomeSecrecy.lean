import TaskotterGateway.Mcp.PolicyCascade

/-! The outcome of a tool call keeps its bindings secret. An outcome is rendered from the
cascade's answer and from fields other than the credential reference and the runner, and
the cascade asks only a few yes-or-no questions about these two.
-/

namespace TaskotterGateway.Mcp

open Contracts GuardCascade

/-- All that the policy asks about a presented credential. -/
structure CredentialFacts where
  valid : Bool
  scopeMatches : Bool
  kindAllowed : Bool
  deriving DecidableEq, Repr

/-- The answers for the presented credential, or none when no credential is presented. -/
def McpToolCallPolicyRequest.credentialFacts (request : McpToolCallPolicyRequest)
    : Option CredentialFacts :=
  request.credentialRef.map
    (fun credentialRef =>
      {
        valid := !fails credentialRef.validate
        scopeMatches :=
          credentialScopeMatchesWorkingGroup credentialRef.scope request.workingGroupId
        kindAllowed := isToolCredentialKind credentialRef.kind
      })

/-- All that the policy asks about the runner: whether it is present and listed. -/
def McpToolCallPolicyRequest.runnerListed (request : McpToolCallPolicyRequest) : Bool :=
  request.runnerId.any (fun runnerId => request.tool.allowedRunnerIds.any (· == runnerId))

/-- The request with its two secret fields blanked. -/
def McpToolCallPolicyRequest.withoutBindings (request : McpToolCallPolicyRequest)
    : McpToolCallPolicyRequest :=
  { request with runnerId := none, credentialRef := none }

/-- Rendering an answer reads neither the credential reference nor the runner. -/
theorem outcomeOf_withoutBindings (request : McpToolCallPolicyRequest)
    (answer : Option Refusal)
    : outcomeOf request.withoutBindings answer = outcomeOf request answer := by
  cases answer <;> rfl

/-- A question about the presented credential is a question about its facts, whenever the
facts answer it.
-/
theorem McpToolCallPolicyRequest.any_credentialRef (request : McpToolCallPolicyRequest)
    (asks : ScopedCredentialRef → Bool) (reads : CredentialFacts → Bool)
    (answers
      : ∀ credentialRef,
          asks credentialRef
          = reads {
              valid := !fails credentialRef.validate
              scopeMatches :=
                credentialScopeMatchesWorkingGroup credentialRef.scope request.workingGroupId
              kindAllowed := isToolCredentialKind credentialRef.kind
            })
    : request.credentialRef.any asks = request.credentialFacts.any reads := by
  rw [credentialFacts, Option.any_map]
  exact congrArg request.credentialRef.any (funext answers)

/-- Calls with the same visible fields and the same facts fail the same guards. -/
theorem policyGuards_agree {left right : McpToolCallPolicyRequest}
    (visible : left.withoutBindings = right.withoutBindings)
    (facts : left.credentialFacts = right.credentialFacts)
    (listed : left.runnerListed = right.runnerListed)
    : ∀ guard ∈ policyGuards, guard.rejects left = guard.rejects right := by
  simp only [McpToolCallPolicyRequest.withoutBindings, McpToolCallPolicyRequest.mk.injEq,
    and_true, true_and] at visible
  obtain ⟨-, -, -, group, actor, agent, skills, tool, policy⟩ := visible
  have present : left.credentialRef.isSome = right.credentialRef.isSome := by
    simpa only [McpToolCallPolicyRequest.credentialFacts, Option.isSome_map]
      using congrArg Option.isSome facts
  have absent : left.credentialRef.isNone = right.credentialRef.isNone := by
    simpa only [McpToolCallPolicyRequest.credentialFacts, Option.isNone_map]
      using congrArg Option.isNone facts
  have reference : left.credentialRef.any (fun c => fails c.validate)
      = right.credentialRef.any (fun c => fails c.validate) := by
    rw [left.any_credentialRef _ (fun facts => !facts.valid) (by simp),
      right.any_credentialRef _ (fun facts => !facts.valid) (by simp), facts]
  have scope
      : left.credentialRef.any
          (fun c => !credentialScopeMatchesWorkingGroup c.scope left.workingGroupId)
        = right.credentialRef.any
          (fun c => !credentialScopeMatchesWorkingGroup c.scope right.workingGroupId) := by
    rw [left.any_credentialRef _ (fun facts => !facts.scopeMatches) (by simp),
      right.any_credentialRef _ (fun facts => !facts.scopeMatches) (by simp), facts]
  have kind : left.credentialRef.any (fun c => !isToolCredentialKind c.kind)
      = right.credentialRef.any (fun c => !isToolCredentialKind c.kind) := by
    rw [left.any_credentialRef _ (fun facts => !facts.kindAllowed) (by simp),
      right.any_credentialRef _ (fun facts => !facts.kindAllowed) (by simp), facts]
  rw [group] at scope
  unfold McpToolCallPolicyRequest.runnerListed at listed
  rw [tool] at listed
  simp only [policyGuards, toolCallGuards, List.forall_mem_append, List.forall_mem_map,
    List.forall_mem_cons, List.not_mem_nil, false_implies, implies_true, and_true,
    McpToolCallPolicyRequest.requestAgentId, group, actor, agent, skills, tool, policy,
    listed, present, absent, reference, scope, kind]

/-- Calls that differ only in their credential reference and runner, and whose credentials
and runners answer the policy's questions alike, have equal outcomes in every field.
-/
theorem evaluateToolCallPolicy_hides_bindings (left right : McpToolCallPolicyRequest)
    (visible : left.withoutBindings = right.withoutBindings)
    (facts : left.credentialFacts = right.credentialFacts)
    (listed : left.runnerListed = right.runnerListed)
    : evaluateToolCallPolicy left = evaluateToolCallPolicy right := by
  have answers := firstRefusal_congr (policyGuards_agree visible facts listed)
  rw [evaluateToolCallPolicy_eq_outcomeOf, evaluateToolCallPolicy_eq_outcomeOf, answers,
    ← outcomeOf_withoutBindings left, ← outcomeOf_withoutBindings right, visible]

/-- Another credential of the same group and another listed runner leave no trace. -/
theorem evaluateToolCallPolicy_hides_bindings_execution
    : evaluateToolCallPolicy
          (executionCall "wg" "runner_approved" (runnerJobCredential "secret_ref_a" "wg/a"))
      = evaluateToolCallPolicy
          (executionCall "wg" "runner_spare" (runnerJobCredential "secret_ref_b" "wg/b")) :=
  evaluateToolCallPolicy_hides_bindings _ _ rfl (by decide +kernel) (by decide +kernel)

end TaskotterGateway.Mcp
