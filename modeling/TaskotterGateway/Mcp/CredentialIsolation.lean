import TaskotterGateway.Foundation.TreeOrder
import TaskotterGateway.Mcp.Authorization

/-! One credential serves one line of working groups. Scopes and working groups are paths
separated by `/`, so the scope test is a tree order: the groups that a scope matches are
its ancestors, and two ancestors of one scope lie below one another.
-/

namespace TaskotterGateway.Mcp

open SeparatedPath

/-- Scopes lie within working groups as their letters descend past the separator `/`. -/
theorem scopeWithin_iff_descends {scope workingGroupId : String}
    : ScopeWithin scope workingGroupId
      ↔ Descends '/' scope.toList workingGroupId.toList := by
  unfold ScopeWithin Descends
  apply or_congr String.toList_inj.symm
  constructor
  · intro below
    obtain ⟨path, rfl⟩ := below
    exact ⟨path.toList, by simp⟩
  · intro below
    obtain ⟨path, joined⟩ := below
    exact ⟨String.ofList path, String.toList_inj.mp (by simp [joined])⟩

/-- Lying within a working group is a tree order, pulled back from separated paths. -/
theorem scopeWithin_treeOrder : TreeOrder ScopeWithin := by
  have letters : Function.Injective String.toList := fun _ _ => String.toList_inj.mp
  have order := (descends_treeOrder '/').comap letters
  have same : ScopeWithin
      = fun scope workingGroupId => Descends '/' scope.toList workingGroupId.toList := by
    funext scope workingGroupId
    exact propext scopeWithin_iff_descends
  exact same ▸ order

/-- A working group without `/` lies within no other one. -/
theorem ScopeWithin.eq_of_notMem {scope workingGroupId : String}
    (within : ScopeWithin scope workingGroupId) (flat : '/' ∉ scope.toList)
    : scope = workingGroupId :=
  String.toList_inj.mp ((scopeWithin_iff_descends.mp within).eq_of_sep_notMem flat)

/-- A permitted call that presents a credential lies within the working group it acts for,
since a tool that takes no credential admits none.
-/
theorem McpToolCallPolicyRequest.Authorized.presented_scope
    {request : McpToolCallPolicyRequest} {credentialRef : Contracts.ScopedCredentialRef}
    (authorized : request.Authorized)
    (presented : request.credentialRef = some credentialRef)
    : ScopeWithin credentialRef.scope request.workingGroupId := by
  have fits := authorized.credential
  unfold McpToolCallPolicyRequest.CredentialFits at fits
  cases requirement : request.tool.credentialRequirement with
  | none => simp [requirement, presented] at fits
  | optionalScopedReference =>
      rw [requirement] at fits
      exact (fits credentialRef presented).scope
  | requiredScopedReference =>
      rw [requirement] at fits
      obtain ⟨bound, same, binding⟩ := fits
      obtain rfl : credentialRef = bound := Option.some.inj (presented.symm.trans same)
      exact binding.scope

/-- The scope test is a tree order on strings. Hence two permitted calls that present one
scope act for comparable working groups, and for the same one when neither contains `/`.
-/
theorem credentialScope_isolation
    : TreeOrder
        (fun scope workingGroupId =>
          credentialScopeMatchesWorkingGroup scope workingGroupId = true)
      ∧ ∀ (left right : McpToolCallPolicyRequest)
          (credentialRef otherRef : Contracts.ScopedCredentialRef),
          left.credentialRef = some credentialRef
          → right.credentialRef = some otherRef
          → credentialRef.scope = otherRef.scope
          → (evaluateToolCallPolicy left).effect ≠ .denied
          → (evaluateToolCallPolicy right).effect ≠ .denied
          → (left.workingGroupId = right.workingGroupId
              ∨ (∃ path, left.workingGroupId = right.workingGroupId ++ "/" ++ path)
              ∨ ∃ path, right.workingGroupId = left.workingGroupId ++ "/" ++ path)
            ∧ ('/' ∉ left.workingGroupId.toList
              → '/' ∉ right.workingGroupId.toList
              → left.workingGroupId = right.workingGroupId) := by
  constructor
  · simpa only [credentialScopeMatchesWorkingGroup_iff] using scopeWithin_treeOrder
  · intro left right credentialRef otherRef presentedLeft presentedRight shared
      permittedLeft permittedRight
    have withinLeft := (authorized_of_ne_denied permittedLeft).presented_scope presentedLeft
    have withinRight := (authorized_of_ne_denied permittedRight).presented_scope presentedRight
    rw [← shared] at withinRight
    rcases scopeWithin_treeOrder.comparable withinLeft withinRight with below | above
    · exact ⟨below.imp_right Or.inl, fun flat _ => below.eq_of_notMem flat⟩
    · refine ⟨?_, fun _ flat => (above.eq_of_notMem flat).symm⟩
      rcases above with same | descends
      · exact Or.inl same.symm
      · exact Or.inr (Or.inr descends)

/-- One credential is usable for a working group and for the group above it. -/
theorem credentialScope_isolation_nested
    : let credentialRef := runnerJobCredential "secret_ref_a" "wg/team/job"
      let left := executionCall "wg/team" "runner_approved" credentialRef
      let right := executionCall "wg" "runner_approved" credentialRef
      left.workingGroupId = right.workingGroupId
      ∨ (∃ path, left.workingGroupId = right.workingGroupId ++ "/" ++ path)
      ∨ ∃ path, right.workingGroupId = left.workingGroupId ++ "/" ++ path :=
  (credentialScope_isolation.2 _ _ _ _ rfl rfl rfl (by decide +kernel) (by decide +kernel)).1

end TaskotterGateway.Mcp
