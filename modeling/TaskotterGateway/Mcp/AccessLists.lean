import TaskotterGateway.Mcp.Authorization

/-! The tool policy reads its lists as sets, and granting more of them never revokes a call.
Each guard asks a list for a member or for whether it restricts anything at all.
-/

namespace TaskotterGateway.Mcp

open Contracts GuardCascade
open AllowList (SameMembers Extends)

/-- The lists that a tool call is checked against, and the skills it brings. -/
structure AccessLists where
  allowedActorTypes : List ActorType
  allowedActorIds : List String
  allowedAgentIds : List String
  allowedRunnerIds : List String
  requiredSkillRefs : List String
  skillRefs : List String
  deriving DecidableEq, Repr

def McpToolCallPolicyRequest.accessLists (request : McpToolCallPolicyRequest)
    : AccessLists where
  allowedActorTypes := request.tool.allowedActorTypes
  allowedActorIds := request.tool.allowedActorIds
  allowedAgentIds := request.tool.allowedAgentIds
  allowedRunnerIds := request.tool.allowedRunnerIds
  requiredSkillRefs := request.tool.requiredSkillRefs
  skillRefs := request.skillRefs

/-- The same call with other lists. -/
def McpToolCallPolicyRequest.withLists (request : McpToolCallPolicyRequest)
    (lists : AccessLists)
    : McpToolCallPolicyRequest :=
  {
    request with
    skillRefs := lists.skillRefs
    tool := {
      request.tool with
      allowedActorTypes := lists.allowedActorTypes
      allowedActorIds := lists.allowedActorIds
      allowedAgentIds := lists.allowedAgentIds
      allowedRunnerIds := lists.allowedRunnerIds
      requiredSkillRefs := lists.requiredSkillRefs
    }
  }

/-- Each list has the same members on both sides. -/
structure AccessLists.SameMembers (left right : AccessLists) : Prop where
  allowedActorTypes : AllowList.SameMembers left.allowedActorTypes right.allowedActorTypes
  allowedActorIds : AllowList.SameMembers left.allowedActorIds right.allowedActorIds
  allowedAgentIds : AllowList.SameMembers left.allowedAgentIds right.allowedAgentIds
  allowedRunnerIds : AllowList.SameMembers left.allowedRunnerIds right.allowedRunnerIds
  requiredSkillRefs : AllowList.SameMembers left.requiredSkillRefs right.requiredSkillRefs
  skillRefs : AllowList.SameMembers left.skillRefs right.skillRefs

/-- The right side grants more: its allow lists extend the left ones, it requires fewer
skills, and the call brings more of them.
-/
structure AccessLists.Extends (left right : AccessLists) : Prop where
  allowedActorTypes : AllowList.Extends left.allowedActorTypes right.allowedActorTypes
  allowedActorIds : AllowList.Extends left.allowedActorIds right.allowedActorIds
  allowedAgentIds : AllowList.Extends left.allowedAgentIds right.allowedAgentIds
  allowedRunnerIds : AllowList.Extends left.allowedRunnerIds right.allowedRunnerIds
  requiredSkillRefs : right.requiredSkillRefs ⊆ left.requiredSkillRefs
  skillRefs : left.skillRefs ⊆ right.skillRefs

variable {request : McpToolCallPolicyRequest} {lists : AccessLists}

-----------------------------------------------------------------------------------------
-- Lists as sets
-----------------------------------------------------------------------------------------

/-- Rendering an answer reads none of the lists. -/
theorem outcomeOf_withLists (answer : Option Refusal)
    : outcomeOf (request.withLists lists) answer = outcomeOf request answer := by
  cases answer <;> rfl

/-- The declarations of a tool ask its lists for emptiness alone. -/
theorem lacksDeclaration_withLists (same : request.accessLists.SameMembers lists)
    : (request.withLists lists).tool.lacksDeclaration = request.tool.lacksDeclaration := by
  have actorTypes := same.allowedActorTypes.isEmpty_eq
  simp only [McpToolCallPolicyRequest.accessLists] at actorTypes
  simp only [McpToolPolicyMetadata.lacksDeclaration, McpToolCallPolicyRequest.withLists,
    actorTypes]

theorem matchesRiskRow_withLists (same : request.accessLists.SameMembers lists)
    : (request.withLists lists).tool.matchesRiskRow = request.tool.matchesRiskRow := by
  have runners := same.allowedRunnerIds.isEmpty_eq
  simp only [McpToolCallPolicyRequest.accessLists] at runners
  simp only [McpToolPolicyMetadata.matchesRiskRow, McpToolCallPolicyRequest.withLists, runners]

/-- A required skill is missing from the members of both lists. -/
theorem missingSkill_withLists (same : request.accessLists.SameMembers lists)
    : lists.requiredSkillRefs.any (fun required => !lists.skillRefs.any (· == required))
      = request.tool.requiredSkillRefs.any
          (fun required => !request.skillRefs.any (· == required)) := by
  have brought (required : String)
      : lists.skillRefs.any (· == required) = request.skillRefs.any (· == required) :=
    (same.skillRefs.any_eq _).symm
  simp only [brought]
  exact (same.requiredSkillRefs.any_eq _).symm

/-- Calls that differ in the order and the repetitions of their lists fail the same guards. -/
theorem policyGuards_withLists (same : request.accessLists.SameMembers lists)
    : ∀ guard ∈ policyGuards,
        guard.rejects (request.withLists lists) = guard.rejects request := by
  have declared := lacksDeclaration_withLists same
  have row := matchesRiskRow_withLists same
  have skills := missingSkill_withLists same
  obtain ⟨actorTypes, actorIds, agentIds, runnerIds, _, _⟩ := same
  simp only [McpToolCallPolicyRequest.accessLists] at actorTypes actorIds agentIds runnerIds
  simp only [policyGuards, toolCallGuards, List.forall_mem_append, List.forall_mem_map,
    List.forall_mem_cons, List.not_mem_nil, false_implies, implies_true, and_true, declared, row]
  simp only [McpToolCallPolicyRequest.withLists, McpToolCallPolicyRequest.requestAgentId,
    actorTypes.any_eq, actorIds.any_eq, agentIds.any_eq, runnerIds.any_eq, actorIds.isEmpty_eq,
    agentIds.isEmpty_eq, runnerIds.isEmpty_eq, skills, and_self]

-----------------------------------------------------------------------------------------
-- Granting more
-----------------------------------------------------------------------------------------

/-- A row of the risk matrix keeps its runners, by cases on the matrix. -/
theorem McpToolPolicyMetadata.RiskRow.withLists (row : request.tool.RiskRow)
    (more : request.accessLists.Extends lists)
    : (request.withLists lists).tool.RiskRow := by
  cases row with
  | readOnly level profile approval reach => exact .readOnly level profile approval reach
  | sensitiveRead level profile requirement => exact .sensitiveRead level profile requirement
  | mutating level profile approval => exact .mutating level profile approval
  | execution level profile requirement runners approval =>
      exact .execution level profile requirement (more.allowedRunnerIds.ne_nil runners) approval

/-- An authorized call stays authorized when it is granted more. -/
theorem McpToolCallPolicyRequest.Authorized.withLists (authorized : request.Authorized)
    (more : request.accessLists.Extends lists)
    : (request.withLists lists).Authorized where
  policy := authorized.policy
  metadata := by
    obtain ⟨⟨toolRef, mcpServerRef, owner, workingGroupId, actorTypes⟩, row⟩ :=
      authorized.metadata
    exact ⟨⟨toolRef, mcpServerRef, owner, workingGroupId,
      more.allowedActorTypes.ne_nil actorTypes⟩, row.withLists more⟩
  reference := authorized.reference
  workingGroup := authorized.workingGroup
  actorType := more.allowedActorTypes.subset authorized.actorType
  actorId := by
    have admitted := AllowList.admits_some_iff.mpr authorized.actorId
    exact AllowList.admits_some_iff.mp (more.allowedActorIds.admits admitted)
  skills required member :=
    more.skillRefs (authorized.skills required (more.requiredSkillRefs member))
  agent := by
    rcases authorized.agent with unrestricted | ⟨agentId, effective, listed⟩
    · exact .inl (more.allowedAgentIds.unrestricted unrestricted)
    · exact .inr ⟨agentId, effective, more.allowedAgentIds.subset listed⟩
  runner := more.allowedRunnerIds.admits authorized.runner
  credential := authorized.credential

/-- The policy reads its lists as sets: lists with the same members leave the whole outcome
as it is. It is monotone in them: granting more leaves the effect of a permitted call as it is.
-/
theorem evaluateToolCallPolicy_withLists (request : McpToolCallPolicyRequest)
    (lists : AccessLists)
    : (request.accessLists.SameMembers lists
        → evaluateToolCallPolicy (request.withLists lists) = evaluateToolCallPolicy request)
      ∧ (request.accessLists.Extends lists
        → (evaluateToolCallPolicy request).effect ≠ .denied
        → (evaluateToolCallPolicy (request.withLists lists)).effect
          = (evaluateToolCallPolicy request).effect) := by
  constructor
  · intro same
    rw [evaluateToolCallPolicy_eq_outcomeOf, evaluateToolCallPolicy_eq_outcomeOf,
      firstRefusal_congr (policyGuards_withLists same), outcomeOf_withLists]
  · intro more permitted
    have authorized := authorized_of_ne_denied permitted
    rw [(authorized.withLists more).effect, authorized.effect]
    rfl

/-- More actors, agents and runners than an execution needs, and no skill that it has to bring.
-/
def generousLists : AccessLists where
  allowedActorTypes := [.user, .agent]
  allowedActorIds := ["agent_other", "agent_policy_executor"]
  allowedAgentIds := ["agent_policy_executor", "agent_other"]
  allowedRunnerIds := ["runner_spare", "runner_other", "runner_approved"]
  requiredSkillRefs := []
  skillRefs := ["skill_mcp_execute"]

/-- An execution waits for the same approval when more is granted to it. -/
theorem evaluateToolCallPolicy_withLists_generous
    : let request :=
        executionCall "wg" "runner_approved" (runnerJobCredential "secret_ref_a" "wg/job")
      (evaluateToolCallPolicy (request.withLists generousLists)).effect = .approvalRequired := by
  intro request
  have more : request.accessLists.Extends generousLists := {
    allowedActorTypes := ⟨by decide, by decide⟩
    allowedActorIds := ⟨by decide, by decide⟩
    allowedAgentIds := ⟨by decide, by decide⟩
    allowedRunnerIds := ⟨by decide, by decide⟩
    requiredSkillRefs := by decide
    skillRefs := by decide
  }
  have waits : (evaluateToolCallPolicy request).effect = .approvalRequired := by
    decide +kernel
  rw [(evaluateToolCallPolicy_withLists request generousLists).2 more (by rw [waits]; decide)]
  exact waits

end TaskotterGateway.Mcp
