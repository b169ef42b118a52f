import TaskotterGateway.Relay.Refusals

/-! Which limits of a decision bind the stub adapter, whatever the policy engine. The token
limit always does. The cost limit is handed to the adapter and never read, so it binds a
relayed request only where the request's own estimate already keeps it.
-/

namespace TaskotterGateway.Relay

open GuardCascade

/-- The request's own estimate keeps the cost limit of the decision, where both exist. -/
def AiRelayRequest.CostWithin (payload : AiRelayRequest) (decision : PolicyDecision) : Prop :=
  ∀ maxCost cost,
    decision.maxCostMicroUsd = some maxCost
    → payload.estimatedCostMicroUsd = some cost
    → cost ≤ maxCost

/-- The request respects both limits of the decision it was given. -/
structure AiRelayRequest.RespectsLimits (payload : AiRelayRequest) (decision : PolicyDecision)
    : Prop where
  maxTokens
    : ∀ maxTokens,
        decision.maxTokens = some maxTokens → promptTokens payload.messages ≤ maxTokens.toNat
  maxCostMicroUsd : payload.CostWithin decision

/-- Over the stub adapter a request is relayed exactly when it has no grounds to refuse. -/
theorem relayed_iff_groundless (policy : PolicyEngine) (payload : AiRelayRequest)
    (world : World)
    : (∃ response,
        ((relayAiRequest { providers := { stub := stubProviderAdapter }, policy } payload).run
          world).1
        = .ok response)
      ↔ ∀ refusal : StubRefusal,
          ¬ refusal.Grounded payload.normalized (policy payload.policyCheck) := by
  rw [← firstRefusal_stubGuards_eq_none_iff]
  obtain ⟨event, outcome⟩ :=
    relayAiRequest_outcome { providers := { stub := stubProviderAdapter }, policy } payload world
  rw [outcome, attempt_run_stub]
  cases firstRefusal stubGuards (payload.normalized, policy payload.policyCheck) with
  | none => simp [stubAnswer, withAccount]
  | some refusal => simp [stubAnswer, withAccount]

/-- A request without grounds to refuse it keeps the token limit. -/
theorem tokens_within_of_groundless {payload : AiRelayRequest} {decision : PolicyDecision}
    (groundless : ∀ refusal : StubRefusal, ¬ refusal.Grounded payload.normalized decision)
    : ∀ maxTokens,
        decision.maxTokens = some maxTokens
        → promptTokens payload.messages ≤ maxTokens.toNat := by
  intro maxTokens limited
  have within := groundless .tokenQuota
  refine Nat.not_lt.mp ?_
  intro exceeded
  exact within ⟨maxTokens, limited, exceeded⟩

/-- Success over the stub adapter respects the limits of the decision exactly where the stub
has grounds to refuse anyway, or the estimate of the request keeps the cost limit by itself.
-/
theorem relayAiRequest_respectsLimits_iff (policy : PolicyEngine) (payload : AiRelayRequest)
    (world : World)
    : ((∃ response,
          ((relayAiRequest { providers := { stub := stubProviderAdapter }, policy } payload).run
            world).1
          = .ok response)
        → payload.RespectsLimits (policy payload.policyCheck))
      ↔ (∃ refusal : StubRefusal,
            refusal.Grounded payload.normalized (policy payload.policyCheck))
        ∨ payload.CostWithin (policy payload.policyCheck) := by
  rw [relayed_iff_groundless]
  constructor
  · intro respects
    by_cases grounds
        : ∃ refusal : StubRefusal,
            refusal.Grounded payload.normalized (policy payload.policyCheck)
    · exact Or.inl grounds
    · exact Or.inr (respects (not_exists.mp grounds)).maxCostMicroUsd
  · intro condition groundless
    rcases condition with grounds | costWithin
    · obtain ⟨refusal, grounded⟩ := grounds
      exact absurd grounded (groundless refusal)
    · exact ⟨tokens_within_of_groundless groundless, costWithin⟩

/-- An engine that allows every request, within a cost that it states. -/
def costLimitedEngine (maxCostMicroUsd : UInt64) : PolicyEngine :=
  fun check => {
    allowed := true
    decisionId := "local-policy:" ++ check.operation
    reason := none
    maxTokens := none
    maxCostMicroUsd := some maxCostMicroUsd
  }

/-- A request that is estimated at more than the decision allows is relayed all the same. -/
theorem relayAiRequest_exceeds_costLimit
    : ¬ ∀ (policy : PolicyEngine) (payload : AiRelayRequest) (world : World),
          (policy payload.policyCheck).allowed = true
          → (∃ response,
              ((relayAiRequest { providers := { stub := stubProviderAdapter }, policy }
                payload).run world).1
              = .ok response)
          → payload.RespectsLimits (policy payload.policyCheck) := by
  intro respects
  have relayed
      : ∃ response,
          ((relayAiRequest
              { providers := { stub := stubProviderAdapter }, policy := costLimitedEngine 10 }
              boundRelayPayload).run .fresh).1
          = .ok response := by
    rw [relayed_iff_groundless, ← firstRefusal_stubGuards_eq_none_iff]
    decide +kernel
  have limits := respects (costLimitedEngine 10) boundRelayPayload .fresh rfl relayed
  exact absurd (limits.maxCostMicroUsd 10 25000 rfl rfl) (by decide)

end TaskotterGateway.Relay
