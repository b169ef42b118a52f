import TaskotterGateway.Fallback.Admission
import TaskotterGateway.Foundation.LinkedSteps
import TaskotterGateway.Foundation.OptionalLimits

/-! Chains of fallbacks, each taking over from the candidate of the one before. What one
approved hop keeps is transitive, so a chain of any length keeps it too: the scope, the
limits, and for retries the provider itself.
-/

namespace TaskotterGateway.Fallback

theorem SameScope.trans {start middle later : FallbackProviderCandidate}
    (first : SameScope start middle) (second : SameScope middle later)
    : SameScope start later where
  region := first.region.trans second.region
  dataResidency := first.dataResidency.trans second.dataResidency
  credentialScope := first.credentialScope.trans second.credentialScope

/-- A limit as the bound it sets; an absent limit bounds nothing. -/
def limitBound (limit : Option UInt64) : WithTop Nat :=
  OptionalLimit.bound (limit.map UInt64.toNat)

/-- A limit is kept exactly when the candidate's bound is below the original one. -/
theorem limitKept_iff_limitBound_le {original candidate : Option UInt64}
    : LimitKept original candidate ↔ limitBound candidate ≤ limitBound original := by
  unfold limitBound
  rw [OptionalLimit.bound_le_bound_iff]
  unfold LimitKept
  cases original <;> cases candidate <;> simp [UInt64.le_iff_toNat_le]

/-- A limit kept twice is kept: an absent limit in between would have widened the present
one before it.
-/
theorem LimitKept.trans {start middle later : Option UInt64}
    (first : LimitKept start middle) (second : LimitKept middle later)
    : LimitKept start later := by
  rw [limitKept_iff_limitBound_le] at first second ⊢
  exact le_trans second first

theorem LimitsKept.trans {start middle later : FallbackPolicyLimits}
    (first : LimitsKept start middle) (second : LimitsKept middle later)
    : LimitsKept start later where
  maxTokens := first.maxTokens.trans second.maxTokens
  maxCostMicroUsd := first.maxCostMicroUsd.trans second.maxCostMicroUsd

/-- Two candidates are the same provider with the same model. -/
def SameTarget (original candidate : FallbackProviderCandidate) : Prop :=
  original.providerId = candidate.providerId ∧ original.model = candidate.model

theorem SameTarget.trans {start middle later : FallbackProviderCandidate}
    (first : SameTarget start middle) (second : SameTarget middle later)
    : SameTarget start later :=
  ⟨first.1.trans second.1, first.2.trans second.2⟩

/-- The next hop falls back from the candidate of this one, under its limits. -/
structure FollowedBy (hop next : FallbackPolicyRequest) : Prop where
  primary : next.primary = hop.candidate
  originalLimits : next.originalLimits = hop.candidateLimits

/-- A non-empty sequence of approved fallbacks, linked end to end, each of which requires
at least the capabilities that the first one requires.
-/
structure FallbackChain where
  first : FallbackPolicyRequest
  rest : List FallbackPolicyRequest
  linked : List.IsChain FollowedBy (first :: rest)
  approved : ∀ hop ∈ first :: rest, ∃ decision, validateFallback hop = .ok decision
  required : ∀ hop ∈ first :: rest, first.requiredCapabilities ⊆ hop.requiredCapabilities

namespace FallbackChain

variable (chain : FallbackChain)

def hops : List FallbackPolicyRequest :=
  chain.first :: chain.rest

def last : FallbackPolicyRequest :=
  chain.hops.getLast (List.cons_ne_nil chain.first chain.rest)

variable {chain}

theorem last_mem : chain.last ∈ chain.hops :=
  List.getLast_mem _

/-- Every hop of a chain is admissible, since it was approved. -/
theorem admissible {hop : FallbackPolicyRequest} (member : hop ∈ chain.hops)
    : hop.Admissible := by
  obtain ⟨_, approved⟩ := chain.approved hop member
  exact (admissible_of_validateFallback_ok approved).1

/-- No hop leaves the scope of the first primary, by transitivity along the chain. -/
theorem sameScope {hop : FallbackPolicyRequest} (member : hop ∈ chain.hops)
    : SameScope chain.first.primary hop.candidate := by
  have linked := chain.linked.imp (fun _ _ followed => followed.primary)
  exact LinkedSteps.related_to_start (fun later start => SameScope start later)
    (fun second first => first.trans second) linked
    (fun hop member => (admissible member).scope) hop member

/-- No hop widens the limits that the chain started from, by transitivity. -/
theorem limitsKept {hop : FallbackPolicyRequest} (member : hop ∈ chain.hops)
    : LimitsKept chain.first.originalLimits hop.candidateLimits := by
  have linked := chain.linked.imp (fun _ _ followed => followed.originalLimits)
  exact LinkedSteps.related_to_start (fun later start => LimitsKept start later)
    (fun second first => first.trans second) linked
    (fun hop member => (admissible member).limits) hop member

/-- A chain of retries stays with the first primary, by transitivity. -/
theorem sameTarget (retries : ∀ hop ∈ chain.hops, hop.attemptKind = .retry)
    {hop : FallbackPolicyRequest} (member : hop ∈ chain.hops)
    : SameTarget chain.first.primary hop.candidate := by
  have linked := chain.linked.imp (fun _ _ followed => followed.primary)
  exact LinkedSteps.related_to_start (fun later start => SameTarget start later)
    (fun second first => first.trans second) linked
    (fun hop member => (admissible member).retry (retries hop member)) hop member

/-- Every hop supports what the first one requires, since its own requirements contain it. -/
theorem supports {hop : FallbackPolicyRequest} (member : hop ∈ chain.hops)
    : ∀ capability ∈ chain.first.requiredCapabilities,
        hop.candidate.supports capability = true := by
  intro capability required
  exact (admissible member).capabilities capability (chain.required hop member required)

/-- A hop that is not allowed to run locally has no local runner. -/
theorem not_localRunner {hop : FallbackPolicyRequest} (member : hop ∈ chain.hops)
    (forbidden : hop.allowRunnerLocal = false)
    : hop.candidate.providerKind ≠ .localRunner := by
  intro localRunner
  obtain ⟨_, allowed⟩ := (admissible member).localRunner localRunner
  rw [forbidden] at allowed
  contradiction

end FallbackChain

/-- However many fallbacks follow one another, the last candidate stays in the scope,
capabilities and limits that the first request started from, and neither a local runner nor
a change of provider can slip in through a hop that does not permit it.
-/
theorem FallbackChain.keepsEnvelope (chain : FallbackChain)
    : SameScope chain.first.primary chain.last.candidate
      ∧ (∀ capability ∈ chain.first.requiredCapabilities,
          chain.last.candidate.supports capability = true)
      ∧ LimitsKept chain.first.originalLimits chain.last.candidateLimits
      ∧ ((∀ hop ∈ chain.hops, hop.allowRunnerLocal = false)
          → ∀ hop ∈ chain.hops, hop.candidate.providerKind ≠ .localRunner)
      ∧ ((∀ hop ∈ chain.hops, hop.attemptKind = .retry)
          → chain.last.candidate.providerId = chain.first.primary.providerId
            ∧ chain.last.candidate.model = chain.first.primary.model) := by
  refine ⟨sameScope last_mem, supports last_mem, limitsKept last_mem, ?_, ?_⟩
  · intro forbidden hop member
    exact not_localRunner member (forbidden hop member)
  · intro retries
    obtain ⟨providerId, model⟩ := sameTarget retries last_mem
    exact ⟨providerId.symm, model.symm⟩

/-- A retry of a provider, followed by a fallback from it to a provider of another family. -/
def retryThenCrossProvider : FallbackChain :=
  let primary := fallbackCandidate "provider_primary" "openai" "wg_1/provider"
  let other := fallbackCandidate "provider_other" "anthropic" "wg_1/provider"
  {
    first := fallbackPolicyRequest .retry primary primary
    rest := [fallbackPolicyRequest .crossProvider primary other]
    linked := .cons_cons ⟨rfl, rfl⟩ (.singleton _)
    approved := by
      simp only [List.forall_mem_cons, List.not_mem_nil, false_implies, implies_true, and_true]
      exact ⟨⟨_, rfl⟩, _, rfl⟩
    required := by
      simp only [List.forall_mem_cons, List.not_mem_nil, false_implies, implies_true, and_true]
      exact ⟨List.Subset.refl _, List.Subset.refl _⟩
  }

/-- The provider that a chain of two attempt kinds ends with is in the scope and bound by the
limits of the first request, sets the flags that it requires, and runs nowhere locally.
-/
theorem FallbackChain.keepsEnvelope_crossProvider
    : let chain := retryThenCrossProvider
      SameScope chain.first.primary chain.last.candidate
      ∧ chain.last.candidate.supportsStreaming = true
      ∧ chain.last.candidate.supportsJsonOutput = true
      ∧ LimitsKept chain.first.originalLimits chain.last.candidateLimits
      ∧ chain.last.candidate.providerKind ≠ .localRunner := by
  intro chain
  obtain ⟨scope, capabilities, limits, forbidden, _⟩ := chain.keepsEnvelope
  have streaming := capabilities .streaming (by decide)
  have jsonOutput := capabilities .jsonOutput (by decide)
  rw [FallbackProviderCandidate.supports_iff] at streaming jsonOutput
  refine ⟨scope, by simpa using streaming, by simpa using jsonOutput, limits, ?_⟩
  exact forbidden (by decide) chain.last FallbackChain.last_mem

end TaskotterGateway.Fallback
