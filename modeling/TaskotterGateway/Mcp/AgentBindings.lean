import TaskotterGateway.Mcp.Authorization

/-! Which agent a tool binds. A call names the agent it acts for, and only a call that names
none acts for its actor; the binding of the tool is compared with that agent.
-/

namespace TaskotterGateway.Mcp

open Contracts

/-- An agent that declares no other one acts for itself. -/
theorem McpToolCallPolicyRequest.EffectiveAgent.eq_actor
    {request : McpToolCallPolicyRequest} {agentId : String}
    (effective : request.EffectiveAgent agentId)
    (faithful : ∀ declared ∈ request.agentId, declared = request.actor.id)
    : agentId = request.actor.id := by
  rcases effective with declared | ⟨_, _, own⟩
  · exact faithful agentId declared
  · exact own.symm

/-- A tool with a binding list permits calls only for a listed agent: the one that the call
declares, or else the actor of the call, which then is an agent. An acting agent that declares
no other one is therefore listed.
-/
theorem evaluateToolCallPolicy_agentBinding (request : McpToolCallPolicyRequest)
    (bound : request.tool.allowedAgentIds ≠ [])
    (permitted : (evaluateToolCallPolicy request).effect ≠ .denied)
    : (∃ agentId, request.EffectiveAgent agentId ∧ agentId ∈ request.tool.allowedAgentIds)
      ∧ ((∀ declared ∈ request.agentId, declared = request.actor.id)
        → request.actor.id ∈ request.tool.allowedAgentIds) := by
  have authorized := authorized_of_ne_denied permitted
  obtain ⟨agentId, effective, listed⟩ := authorized.agent.resolve_left bound
  refine ⟨⟨agentId, effective, listed⟩, ?_⟩
  intro faithful
  rw [← effective.eq_actor faithful]
  exact listed

/-- A call of the listed agent, made by itself. -/
theorem evaluateToolCallPolicy_agentBinding_execution
    : let request :=
        executionCall "wg" "runner_approved" (runnerJobCredential "secret_ref_a" "wg/job")
      (∃ agentId, request.EffectiveAgent agentId ∧ agentId ∈ request.tool.allowedAgentIds)
      ∧ request.actor.id ∈ request.tool.allowedAgentIds := by
  intro request
  obtain ⟨listed, own⟩ :=
    evaluateToolCallPolicy_agentBinding request (by decide) (by decide +kernel)
  exact ⟨listed, own (by decide)⟩

/-- The same call by an agent that no list names, for the agent that is bound. -/
def borrowedCall : McpToolCallPolicyRequest :=
  let call := executionCall "wg" "runner_approved" (runnerJobCredential "secret_ref_a" "wg/job")
  {
    call with
    actor := { actorType := .agent, id := "agent_unlisted" }
    tool := { call.tool with allowedActorIds := [] }
  }

/-- The agent that makes a call need not be listed: it may declare one that is. -/
theorem not_evaluateToolCallPolicy_actorBound
    : ¬ ∀ request : McpToolCallPolicyRequest,
          request.actor.actorType = .agent
          → request.tool.allowedAgentIds ≠ []
          → (evaluateToolCallPolicy request).effect ≠ .denied
          → request.actor.id ∈ request.tool.allowedAgentIds := by
  intro assumed
  have listed := assumed borrowedCall rfl (by decide) (by decide +kernel)
  have unlisted : borrowedCall.actor.id ∉ borrowedCall.tool.allowedAgentIds := by decide
  exact unlisted listed

end TaskotterGateway.Mcp
