import TaskotterGateway.Relay.PromptSecrecy
import TaskotterGateway.Relay.StaticVerdict

/-! How the shipped gateway reads the bindings of a provider: as sets, and so that neither a
wider binding nor a smaller demand ever revokes a relay. Only the event, which quotes the
provider, tells one such request from the other.
-/

namespace TaskotterGateway.Relay

open GuardCascade

/-- The lists that bind a provider, and the amounts that a request demands of it. -/
structure Bindings where
  allowedWorkingGroupIds : List String
  allowedAgentIds : List String
  allowedWorkflowIds : List String
  allowedModels : List String
  requestedMaxTokens : Option UInt64
  estimatedCostMicroUsd : Option UInt64
  deriving DecidableEq, Repr

def AiRelayRequest.bindings (payload : AiRelayRequest) : Bindings where
  allowedWorkingGroupIds := payload.provider.allowedWorkingGroupIds
  allowedAgentIds := payload.provider.allowedAgentIds
  allowedWorkflowIds := payload.provider.allowedWorkflowIds
  allowedModels := payload.provider.allowedModels
  requestedMaxTokens := payload.requestedMaxTokens
  estimatedCostMicroUsd := payload.estimatedCostMicroUsd

/-- The same request under other bindings. -/
def AiRelayRequest.bound (payload : AiRelayRequest) (bindings : Bindings) : AiRelayRequest :=
  {
    payload with
    requestedMaxTokens := bindings.requestedMaxTokens
    estimatedCostMicroUsd := bindings.estimatedCostMicroUsd
    provider := {
      payload.provider with
      allowedWorkingGroupIds := bindings.allowedWorkingGroupIds
      allowedAgentIds := bindings.allowedAgentIds
      allowedWorkflowIds := bindings.allowedWorkflowIds
      allowedModels := bindings.allowedModels
    }
  }

/-- Lists with the same members, and the same demands. -/
structure Bindings.SameMembers (left right : Bindings) : Prop where
  workingGroups
    : AllowList.SameMembers left.allowedWorkingGroupIds right.allowedWorkingGroupIds
  agents : AllowList.SameMembers left.allowedAgentIds right.allowedAgentIds
  workflows : AllowList.SameMembers left.allowedWorkflowIds right.allowedWorkflowIds
  models : AllowList.SameMembers left.allowedModels right.allowedModels
  tokens : left.requestedMaxTokens = right.requestedMaxTokens
  cost : left.estimatedCostMicroUsd = right.estimatedCostMicroUsd

/-- A demand that is not made, or is made and no larger. -/
def DemandsNoMore (less more : Option UInt64) : Prop :=
  ∀ amount, less = some amount → ∃ bound, more = some bound ∧ amount ≤ bound

/-- The right side binds to more members, or drops a binding, and demands no more. -/
structure Bindings.Eases (left right : Bindings) : Prop where
  workingGroups : AllowList.Eases left.allowedWorkingGroupIds right.allowedWorkingGroupIds
  agents : AllowList.Eases left.allowedAgentIds right.allowedAgentIds
  workflows : AllowList.Eases left.allowedWorkflowIds right.allowedWorkflowIds
  models : AllowList.Eases left.allowedModels right.allowedModels
  tokens : DemandsNoMore right.requestedMaxTokens left.requestedMaxTokens
  cost : DemandsNoMore right.estimatedCostMicroUsd left.estimatedCostMicroUsd

variable {payload : AiRelayRequest} {bindings : Bindings}

/-- A demand that is over a limit was over it before. -/
theorem DemandsNoMore.exceeds {less more : Option UInt64} (fewer : DemandsNoMore less more)
    {limit : UInt64} (exceeded : ∃ amount, less = some amount ∧ limit < amount)
    : ∃ amount, more = some amount ∧ limit < amount := by
  obtain ⟨amount, same, larger⟩ := exceeded
  obtain ⟨bound, demanded, within⟩ := fewer amount same
  exact ⟨bound, demanded, UInt64.lt_of_lt_of_le larger within⟩

/-- What is refused under easier bindings was refused before, on the same grounds. -/
theorem refused_of_bound (eases : payload.bindings.Eases bindings)
    (refused : (payload.bound bindings).Refused)
    : payload.Refused := by
  rw [AiRelayRequest.refused_iff] at refused ⊢
  cases refused with
  | user denied => exact .user denied
  | provider disabled => exact .provider disabled
  | workingGroup outside =>
      exact .workingGroup (fun admitted => outside (eases.workingGroups.admits admitted))
  | agent unbound => exact .agent (fun admitted => unbound (eases.agents.admits admitted))
  | workflow unbound =>
      exact .workflow (fun admitted => unbound (eases.workflows.admits admitted))
  | model unlisted => exact .model (fun admitted => unlisted (eases.models.admits admitted))
  | dataBoundary hidden => exact .dataBoundary hidden
  | tokens exceeded => exact .tokens (eases.tokens.exceeds exceeded)
  | cost exceeded => exact .cost (eases.cost.exceeds exceeded)

/-- A check that is not refused gets the one decision that allows it. -/
theorem staticPolicyEngine_of_granted {check : PolicyCheck} (granted : ¬ check.Refused)
    : staticPolicyEngine check
      = {
          allowed := true
          decisionId := "local-policy:" ++ check.operation
          reason := none
          maxTokens := some 8192
          maxCostMicroUsd := some 50000
        } := by
  have none : policyDenialReason check = none := by
    rw [policyDenialReason_eq_firstRefusal]
    exact firstRefusal_staticPolicyGuards_eq_none_iff.mpr granted
  simp only [staticPolicyEngine, none, Option.isSome_none, Bool.not_false]

/-- Easier bindings keep an allowing decision. -/
theorem staticPolicyEngine_eases (eases : payload.bindings.Eases bindings)
    (granted : ¬ payload.Refused)
    : staticPolicyEngine (payload.bound bindings).policyCheck
      = staticPolicyEngine payload.policyCheck := by
  have still : ¬ (payload.bound bindings).Refused :=
    fun refused => granted (refused_of_bound eases refused)
  rw [AiRelayRequest.refused_iff] at granted still
  rw [staticPolicyEngine_of_granted granted, staticPolicyEngine_of_granted still]
  rfl

/-- Lists with the same members get the same decision: the guards ask them for members, and
for whether they have any.
-/
theorem staticPolicyEngine_sameMembers (same : payload.bindings.SameMembers bindings)
    : staticPolicyEngine (payload.bound bindings).policyCheck
      = staticPolicyEngine payload.policyCheck := by
  obtain ⟨workingGroups, agents, workflows, models, tokens, cost⟩ := same
  have reasons : policyDenialReason (payload.bound bindings).policyCheck
      = policyDenialReason payload.policyCheck := by
    rw [policyDenialReason_eq_firstRefusal, policyDenialReason_eq_firstRefusal]
    apply firstRefusal_congr
    simp only [AiRelayRequest.bindings] at workingGroups agents workflows models tokens cost
    simp only [staticPolicyGuards, List.forall_mem_cons, List.not_mem_nil, false_implies,
      implies_true, AiRelayRequest.bound, AiRelayRequest.policyCheck,
      workingGroups.contains_eq, workingGroups.isEmpty_eq, agents.contains_eq,
      agents.isEmpty_eq, workflows.contains_eq, workflows.isEmpty_eq, models.contains_eq,
      models.isEmpty_eq, tokens, cost, and_self]
  simp only [staticPolicyEngine, reasons]
  rfl

/-- An event that quotes another provider. -/
def UsageAuditEventV1.quoting (provider : ProviderRef) (event : UsageAuditEventV1)
    : UsageAuditEventV1 :=
  { event with provider }

/-- Under the same decision, the stub refuses the same: it does not look at the bindings. -/
theorem refusal_bound
    (decided
      : staticPolicyEngine (payload.bound bindings).policyCheck
        = staticPolicyEngine payload.policyCheck)
    : (payload.bound bindings).refusal staticPolicyEngine
      = payload.refusal staticPolicyEngine := by
  rw [AiRelayRequest.refusal, decided, firstRefusal_stubGuards_eq, AiRelayRequest.refusal,
    firstRefusal_stubGuards_eq]
  rfl

/-- Under the same decision, the bindings make no difference to what is drawn, or to the
outcome but where its event quotes the provider.
-/
theorem relayAiRequest_bound_of_decided
    (decided
      : staticPolicyEngine (payload.bound bindings).policyCheck
        = staticPolicyEngine payload.policyCheck)
    (world : World)
    : let answered := (relayAiRequest appState (payload.bound bindings)).run world
      let before := (relayAiRequest appState payload).run world
      answered.1 = mapEvent (.quoting (payload.bound bindings).provider) before.1
      ∧ answered.2.source = before.2.source := by
  intro answered before
  have refusal := refusal_bound decided
  have results
      : ((attempt appState (payload.bound bindings)).run world).1
        = ((attempt appState payload).run world).1 := by
    have left := attempt_run_stub staticPolicyEngine (payload.bound bindings) world
    have right := attempt_run_stub staticPolicyEngine payload world
    change _ = stubAnswer _ _ _ ((payload.bound bindings).refusal staticPolicyEngine) at left
    change _ = stubAnswer _ _ _ (payload.refusal staticPolicyEngine) at right
    rw [refusal, decided] at left
    refine left.trans (Eq.trans ?_ right.symm)
    cases payload.refusal staticPolicyEngine with
    | none => rfl
    | some refusal => cases refusal <;> rfl
  have sources
      : ((attempt appState (payload.bound bindings)).run world).2.source
        = ((attempt appState payload).run world).2.source := by
    have left := attempt_source_stub staticPolicyEngine (payload.bound bindings) world
    rw [refusal] at left
    exact left.trans (attempt_source_stub staticPolicyEngine payload world).symm
  simp only [answered, before]
  rw [relayAiRequest_run, relayAiRequest_run, run_drawing, run_drawing, results, sources]
  change withAccount _ _ = mapEvent _ (withAccount _ _) ∧ _
  rw [mapEvent_withAccount]
  simp only [appState, decided]
  exact ⟨rfl, rfl⟩

/-- The shipped gateway reads the bindings of a provider as sets: under lists with the same
members a request comes to the same outcome, event and all, with the same identifiers, but that
the event quotes the provider with its lists. And they are monotone: a request that is not
refused is not refused and comes to the same outcome in this sense when its provider is bound
to more, or no longer bound, or when it demands less.
-/
theorem relayAiRequest_bound (payload : AiRelayRequest) (bindings : Bindings) (world : World)
    : let answered := (relayAiRequest appState (payload.bound bindings)).run world
      let before := (relayAiRequest appState payload).run world
      (payload.bindings.SameMembers bindings
        → answered.1 = mapEvent (.quoting (payload.bound bindings).provider) before.1
          ∧ answered.2.source = before.2.source)
      ∧ (payload.bindings.Eases bindings
        → ¬ payload.Refused
        → ¬ (payload.bound bindings).Refused
          ∧ answered.1 = mapEvent (.quoting (payload.bound bindings).provider) before.1
          ∧ answered.2.source = before.2.source) := by
  intro answered before
  constructor
  · intro same
    exact relayAiRequest_bound_of_decided (staticPolicyEngine_sameMembers same) world
  · intro eases granted
    refine ⟨fun refused => granted (refused_of_bound eases refused), ?_⟩
    exact relayAiRequest_bound_of_decided (staticPolicyEngine_eases eases granted) world

/-- Bindings that name more agents, no workflow and no model, for fewer tokens. -/
def easyBindings : Bindings where
  allowedWorkingGroupIds := ["wg_1"]
  allowedAgentIds := ["agent_2", "agent_1"]
  allowedWorkflowIds := []
  allowedModels := []
  requestedMaxTokens := some 512
  estimatedCostMicroUsd := none

/-- The bound request is relayed under easier bindings as it was, to an event that quotes
them.
-/
theorem relayAiRequest_bound_easier
    : ¬ (boundRelayPayload.bound easyBindings).Refused
      ∧ ((relayAiRequest appState (boundRelayPayload.bound easyBindings)).run .fresh).1
        = mapEvent (.quoting (boundRelayPayload.bound easyBindings).provider)
            ((relayAiRequest appState boundRelayPayload).run .fresh).1 := by
  have eases : boundRelayPayload.bindings.Eases easyBindings := {
    workingGroups := .inr ⟨by decide, by decide⟩
    agents := .inr ⟨by decide, by decide⟩
    workflows := .inl rfl
    models := .inl rfl
    tokens := by
      rintro _ ⟨rfl⟩
      exact ⟨1024, rfl, by decide⟩
    cost := by
      rintro _ ⟨⟩
  }
  have granted : ¬ boundRelayPayload.Refused :=
    AiRelayRequest.allowed_iff.mp (by decide +kernel)
  obtain ⟨still, outcome, _⟩ :=
    (relayAiRequest_bound boundRelayPayload easyBindings .fresh).2 eases granted
  exact ⟨still, outcome⟩

end TaskotterGateway.Relay
