import TaskotterGateway.Fallback.Admission

/-! The result of a fallback keeps scope values secret. A result is rendered from the
cascade's answer and from fields other than the six scope values, and the cascade asks
about these only whether they match.
-/

namespace TaskotterGateway.Fallback

open GuardCascade

/-- The candidate with its scope values blanked. -/
def FallbackProviderCandidate.withoutScope (candidate : FallbackProviderCandidate)
    : FallbackProviderCandidate :=
  { candidate with region := "", dataResidency := "", credentialScope := "" }

/-- The request with the scope values of primary and candidate blanked. -/
def FallbackPolicyRequest.withoutScopes (request : FallbackPolicyRequest)
    : FallbackPolicyRequest :=
  {
    request with
    primary := request.primary.withoutScope
    candidate := request.candidate.withoutScope
  }

/-- Rendering an answer, whether a decision or a failure, reads no scope value. -/
theorem resultOf_withoutScopes (request : FallbackPolicyRequest) (answer : Option Refusal)
    : resultOf request.withoutScopes answer = resultOf request answer := by
  cases answer <;> rfl

/-- Apart from the scope guard, no guard reads a scope value. -/
theorem rejects_withoutScopes (request : FallbackPolicyRequest)
    : ∀ guard ∈ localRunnerGuard :: attemptKindGuards ++ [capabilityGuard, limitGuard],
        guard.rejects request.withoutScopes = guard.rejects request := by
  simp only [attemptKindGuards, List.forall_mem_append, List.forall_mem_cons,
    List.not_mem_nil, false_implies, implies_true, and_true]
  exact ⟨⟨rfl, rfl, rfl, rfl, rfl⟩, rfl, rfl⟩

/-- Requests with the same visible fields, whose scopes both match or both do not, fail the
same guards. Witness: the guards that read no scope value reject the blanked requests alike.
-/
theorem fallbackGuards_agree {left right : FallbackPolicyRequest}
    (visible : left.withoutScopes = right.withoutScopes)
    (matching : left.scopeMatches = right.scopeMatches)
    : ∀ guard ∈ fallbackGuards, guard.rejects left = guard.rejects right := by
  have blind : ∀ guard ∈ localRunnerGuard :: attemptKindGuards ++ [capabilityGuard, limitGuard],
      guard.rejects left = guard.rejects right := by
    intro guard member
    rw [← rejects_withoutScopes left guard member, visible,
      rejects_withoutScopes right guard member]
  have scope : scopeGuard.rejects left = scopeGuard.rejects right := by
    simp only [scopeGuard, matching]
  intro guard member
  simp only [fallbackGuards, List.mem_append, List.mem_singleton] at member
  rcases member with member | same | same | same
  · exact blind guard (List.mem_append_left _ member)
  · exact blind guard (by simp [same])
  · rw [same]
    exact scope
  · exact blind guard (by simp [same])

/-- Requests that differ only in their scope values, and whose scopes match alike, have
equal results in every field; and every failure is rendered from the blanked request and
from constant texts.
-/
theorem validateFallback_hides_scopes
    : (∀ left right : FallbackPolicyRequest,
          left.withoutScopes = right.withoutScopes
          → left.scopeMatches = right.scopeMatches
          → validateFallback left = validateFallback right)
      ∧ ∀ (request : FallbackPolicyRequest) (failure : FallbackPolicyFailure),
          validateFallback request = .error failure
          → ∃ guard ∈ fallbackGuards,
              failure = renderFailure request.withoutScopes guard.refusal := by
  constructor
  · intro left right visible matching
    have answers := firstRefusal_congr (fallbackGuards_agree visible matching)
    rw [validateFallback_eq_resultOf, validateFallback_eq_resultOf, answers,
      ← resultOf_withoutScopes left, ← resultOf_withoutScopes right, visible]
  · intro request failure refused
    obtain ⟨refusal, answer, rfl⟩ := exists_refusal_of_validateFallback_error refused
    obtain ⟨guard, member, same, _⟩ := exists_rejects_of_firstRefusal answer
    refine ⟨guard, member, ?_⟩
    rw [same]
    rfl

/-- Which credential scopes a refused fallback would have mixed leaves no trace. -/
theorem validateFallback_hides_scopes_crossProvider
    : let attempt (scope otherScope : String) :=
        fallbackPolicyRequest .crossProvider
          (fallbackCandidate "provider_primary" "openai" scope)
          (fallbackCandidate "provider_other" "anthropic" otherScope)
      validateFallback (attempt "wg_1/secret_ref_a" "wg_1/secret_ref_b")
      = validateFallback (attempt "wg_2/secret_ref_c" "wg_2") :=
  validateFallback_hides_scopes.1 _ _ rfl (by decide +kernel)

end TaskotterGateway.Fallback
