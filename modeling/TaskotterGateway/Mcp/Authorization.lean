import TaskotterGateway.Foundation.AllowLists
import TaskotterGateway.Mcp.PolicyCascade

/-! What an MCP tool call must satisfy to be permitted, and that the policy permits
exactly these calls. Each guard of the policy cascade decides one of the conditions.
-/

namespace TaskotterGateway.Mcp

open Text Contracts GuardCascade AllowList

/-- The tool declares its identity, owner, scope and actor bounds. -/
structure McpToolPolicyMetadata.Complete (tool : McpToolPolicyMetadata) : Prop where
  toolRef : tool.toolRef ≠ ""
  mcpServerRef : tool.mcpServerRef ≠ ""
  owner : tool.owner ≠ ""
  workingGroupId : tool.workingGroupId ≠ ""
  allowedActorTypes : tool.allowedActorTypes ≠ []

/-- The risk matrix, one row for each risk level. -/
inductive McpToolPolicyMetadata.RiskRow (tool : McpToolPolicyMetadata) : Prop where
  | readOnly (level : tool.riskLevel = .readOnly)
    (profile : tool.sideEffectProfile = .none) (approval : tool.requiresApproval = false)
    (reach : tool.networkReach ≠ .externalInternet)
  | sensitiveRead (level : tool.riskLevel = .sensitiveRead)
    (profile : tool.sideEffectProfile = .readsSensitiveData)
    (requirement : tool.credentialRequirement ≠ .requiredScopedReference)
  | mutating (level : tool.riskLevel = .mutating)
    (profile : tool.sideEffectProfile = .mutatesWorkspaceState)
    (approval : tool.requiresApproval = true)
  | execution (level : tool.riskLevel = .execution)
    (profile : tool.sideEffectProfile = .executesCodeOrProcess)
    (requirement : tool.credentialRequirement = .requiredScopedReference)
    (runners : tool.allowedRunnerIds ≠ []) (approval : tool.requiresApproval = true)

/-- The scope is the working group itself or a descendant of it past a `/`. -/
def ScopeWithin (scope workingGroupId : String) : Prop :=
  scope = workingGroupId ∨ ∃ path, scope = workingGroupId ++ "/" ++ path

/-- The credential is of a kind that tools may use and is scoped to the working group. -/
structure BoundTo (credentialRef : ScopedCredentialRef) (workingGroupId : String)
    : Prop where
  scope : ScopeWithin credentialRef.scope workingGroupId
  kind
    : credentialRef.kind = .externalMcpCredentialRef
      ∨ credentialRef.kind = .runnerJobCredentialRef

/-- The call presents a credential exactly as its tool requires one. -/
def McpToolCallPolicyRequest.CredentialFits (request : McpToolCallPolicyRequest) : Prop :=
  match request.tool.credentialRequirement with
  | .none => request.credentialRef = none
  | .optionalScopedReference =>
      ∀ credentialRef,
        request.credentialRef = some credentialRef
        → BoundTo credentialRef request.workingGroupId
  | .requiredScopedReference =>
      ∃ credentialRef,
        request.credentialRef = some credentialRef
        ∧ BoundTo credentialRef request.workingGroupId

/-- The agent a call acts for is its declared agent, else the actor when it is an agent. -/
def McpToolCallPolicyRequest.EffectiveAgent (request : McpToolCallPolicyRequest)
    (agentId : String)
    : Prop :=
  request.agentId = some agentId
  ∨ request.agentId = none ∧ request.actor.actorType = .agent ∧ request.actor.id = agentId

/-- Everything a tool call must satisfy to be permitted, in the order of the checks. -/
structure McpToolCallPolicyRequest.Authorized (request : McpToolCallPolicyRequest)
    : Prop where
  policy : request.policy.Canonical
  metadata : request.tool.Complete ∧ request.tool.RiskRow
  reference
    : ∀ credentialRef,
        request.credentialRef = some credentialRef → credentialRef.NamesSecret
  workingGroup : request.workingGroupId = request.tool.workingGroupId
  actorType : request.actor.actorType ∈ request.tool.allowedActorTypes
  actorId
    : request.tool.allowedActorIds = [] ∨ request.actor.id ∈ request.tool.allowedActorIds
  skills : ∀ required ∈ request.tool.requiredSkillRefs, required ∈ request.skillRefs
  agent
    : request.tool.allowedAgentIds = []
      ∨ ∃ agentId,
          request.EffectiveAgent agentId ∧ agentId ∈ request.tool.allowedAgentIds
  runner
    : request.tool.allowedRunnerIds = []
      ∨ ∃ runnerId,
          request.runnerId = some runnerId ∧ runnerId ∈ request.tool.allowedRunnerIds
  credential : request.CredentialFits

/-- No declaration is missing exactly when the metadata is complete. -/
theorem McpToolPolicyMetadata.lacksDeclaration_eq_false_iff {tool : McpToolPolicyMetadata}
    : tool.lacksDeclaration = false ↔ tool.Complete := by
  simp only [McpToolPolicyMetadata.lacksDeclaration, Bool.or_eq_false_iff,
    String.isEmpty_eq_false_iff, List.isEmpty_eq_false_iff]
  constructor
  · intro declared
    obtain ⟨⟨⟨⟨toolRef, mcpServerRef⟩, owner⟩, workingGroupId⟩, allowedActorTypes⟩ := declared
    exact ⟨toolRef, mcpServerRef, owner, workingGroupId, allowedActorTypes⟩
  · intro complete
    exact ⟨⟨⟨⟨complete.toolRef, complete.mcpServerRef⟩, complete.owner⟩,
      complete.workingGroupId⟩, complete.allowedActorTypes⟩

/-- The evaluated row is the row of the matrix, by cases on the risk level. -/
theorem McpToolPolicyMetadata.matchesRiskRow_iff {tool : McpToolPolicyMetadata}
    : tool.matchesRiskRow = true ↔ tool.RiskRow := by
  unfold McpToolPolicyMetadata.matchesRiskRow
  constructor
  · intro row
    cases level : tool.riskLevel <;> simp only [level, Bool.and_eq_true, beq_iff_eq,
      bne_iff_ne, Bool.not_eq_true', List.isEmpty_eq_false_iff] at row
    case readOnly => exact .readOnly level row.1.1 row.1.2 row.2
    case sensitiveRead => exact .sensitiveRead level row.1 row.2
    case mutating => exact .mutating level row.1 row.2
    case execution => exact .execution level row.1.1.1 row.1.1.2 row.1.2 row.2
  · intro row
    cases row with
    | readOnly level profile approval reach => simp [level, profile, approval, reach]
    | sensitiveRead level profile requirement => simp [level, profile, requirement]
    | mutating level profile approval => simp [level, profile, approval]
    | execution level profile requirement runners approval =>
        simp [level, profile, requirement, runners, approval]

/-- The scope test accepts the working group and its `/`-descendants, nothing else. -/
theorem credentialScopeMatchesWorkingGroup_iff {scope workingGroupId : String}
    : credentialScopeMatchesWorkingGroup scope workingGroupId = true
      ↔ ScopeWithin scope workingGroupId := by
  simp only [credentialScopeMatchesWorkingGroup, Bool.or_eq_true, beq_iff_eq,
    Option.any_eq_true, stripPrefix_eq_some_iff, startsWith_iff]
  apply or_congr_right
  constructor
  · intro found
    obtain ⟨remainder, stripped, path, rest⟩ := found
    exact ⟨path, by rw [stripped, rest, String.append_assoc]⟩
  · intro found
    obtain ⟨path, joined⟩ := found
    exact ⟨"/" ++ path, by rw [joined, String.append_assoc], path, rfl⟩

/-- The binding helper has no objection exactly to credentials bound to the group. -/
theorem boundTo_iff {credentialRef : ScopedCredentialRef} {workingGroupId : String}
    : BoundTo credentialRef workingGroupId
      ↔ credentialScopeMatchesWorkingGroup credentialRef.scope workingGroupId = true
        ∧ isToolCredentialKind credentialRef.kind = true := by
  rw [credentialScopeMatchesWorkingGroup_iff]
  simp only [isToolCredentialKind, Bool.or_eq_true, beq_iff_eq]
  exact ⟨fun bound => ⟨bound.scope, bound.kind⟩, fun bound => ⟨bound.1, bound.2⟩⟩

/-- The computed agent of a call is its effective agent. -/
theorem McpToolCallPolicyRequest.requestAgentId_eq_some_iff
    {request : McpToolCallPolicyRequest} {agentId : String}
    : request.requestAgentId = some agentId ↔ request.EffectiveAgent agentId := by
  unfold McpToolCallPolicyRequest.requestAgentId McpToolCallPolicyRequest.EffectiveAgent
  cases declared : request.agentId <;> cases actor : request.actor.actorType <;> simp

/-- The four credential guards together decide whether the credential fits the tool. -/
theorem McpToolCallPolicyRequest.credentialFits_iff {request : McpToolCallPolicyRequest}
    : request.CredentialFits
      ↔ (request.tool.credentialRequirement == .none && request.credentialRef.isSome) = false
        ∧ (request.tool.credentialRequirement == .requiredScopedReference
            && request.credentialRef.isNone) = false
        ∧ request.credentialRef.any
            (fun credentialRef =>
              !credentialScopeMatchesWorkingGroup credentialRef.scope request.workingGroupId)
          = false
        ∧ request.credentialRef.any
            (fun credentialRef => !isToolCredentialKind credentialRef.kind) = false := by
  unfold McpToolCallPolicyRequest.CredentialFits
  cases request.tool.credentialRequirement <;> cases request.credentialRef <;>
    simp [boundTo_iff]

/-- A call passes every guard exactly when it is authorized. -/
theorem firstRefusal_policyGuards_eq_none_iff {request : McpToolCallPolicyRequest}
    : firstRefusal policyGuards request = none ↔ request.Authorized := by
  have policy : fails request.policy.validate = false ↔ request.policy.Canonical := by
    rw [fails_eq_false_iff, ← PolicyInstruction.validate_ok_iff]
  have reference
      : request.credentialRef.any (fun credentialRef => fails credentialRef.validate) = false
        ↔ ∀ credentialRef, request.credentialRef = some credentialRef
            → credentialRef.NamesSecret := by
    simp only [Option.any_eq_false, fails_eq_false_iff, ScopedCredentialRef.validate_ok_iff]
  have skills
      : (request.tool.requiredSkillRefs.any
          (fun required => !request.skillRefs.any (· == required))) = false
        ↔ ∀ required ∈ request.tool.requiredSkillRefs, required ∈ request.skillRefs := by
    rw [List.any_eq_false]
    simp only [Bool.not_eq_true, Bool.not_eq_false', any_beq_iff]
  rw [firstRefusal_eq_none_iff]
  simp only [policyGuards, toolCallGuards, List.forall_mem_append, List.forall_mem_map,
    List.forall_mem_cons, List.not_mem_nil, false_implies, implies_true, and_true, policy,
    reference, McpToolPolicyMetadata.lacksDeclaration_eq_false_iff, Bool.not_eq_false',
    McpToolPolicyMetadata.matchesRiskRow_iff, bne_eq_false_iff_eq, any_beq_iff,
    tests_some_eq_false_iff, tests_eq_false_iff, skills,
    ← McpToolCallPolicyRequest.credentialFits_iff]
  constructor
  · intro passed
    obtain ⟨⟨policy, complete, row, reference⟩, workingGroup, actorType, actorId, skills,
      agent, runner, credential⟩ := passed
    refine {
      policy, reference, workingGroup, actorType, actorId, skills, runner, credential
      metadata := ⟨complete, row⟩
      agent := ?_
    }
    simpa only [Admits, McpToolCallPolicyRequest.requestAgentId_eq_some_iff] using agent
  · intro authorized
    refine ⟨⟨authorized.policy, authorized.metadata.1, authorized.metadata.2,
      authorized.reference⟩, authorized.workingGroup, authorized.actorType,
      authorized.actorId, authorized.skills, ?_, authorized.runner, authorized.credential⟩
    simpa only [Admits, McpToolCallPolicyRequest.requestAgentId_eq_some_iff]
      using authorized.agent

/-- A call that is not denied passed every guard, hence is authorized. -/
theorem authorized_of_ne_denied {request : McpToolCallPolicyRequest}
    (permitted : (evaluateToolCallPolicy request).effect ≠ .denied)
    : request.Authorized := by
  rw [evaluateToolCallPolicy_effect] at permitted
  cases answer : firstRefusal policyGuards request with
  | none => exact firstRefusal_policyGuards_eq_none_iff.mp answer
  | some refusal => simp [answer] at permitted

/-- An authorized call is allowed, or waits for the approval its tool requires. -/
theorem McpToolCallPolicyRequest.Authorized.effect {request : McpToolCallPolicyRequest}
    (authorized : request.Authorized)
    : (evaluateToolCallPolicy request).effect = request.grantedEffect := by
  have passed := firstRefusal_policyGuards_eq_none_iff.mpr authorized
  rw [evaluateToolCallPolicy_effect, passed]
  rfl

/-- The policy denies exactly the calls that are not authorized. -/
theorem evaluateToolCallPolicy_ne_denied_iff (request : McpToolCallPolicyRequest)
    : (evaluateToolCallPolicy request).effect ≠ .denied ↔ request.Authorized := by
  constructor
  · exact authorized_of_ne_denied
  · intro authorized
    rw [authorized.effect]
    exact request.grantedEffect_ne_denied

end TaskotterGateway.Mcp
