import Mathlib.Logic.Relation
import TaskotterGateway.Fallback.Chains

/-! Which providers chains of approved fallbacks can reach. A retry may name any family for the
provider that it keeps, and a same-provider attempt keeps only that family, so two hops reach
everything that the scope, the limits and the required capabilities leave open.
-/

namespace TaskotterGateway.Fallback

/-- Where routing stands: a provider, under the limits that it is used with. -/
structure Footing where
  provider : FallbackProviderCandidate
  limits : FallbackPolicyLimits
  deriving DecidableEq, Repr

/-- The final provider, under the name and the model of the one that it is to replace. -/
def Footing.disguised (start final : Footing) : Footing where
  provider := {
    final.provider with
    providerId := start.provider.providerId
    model := start.provider.model
  }
  limits := final.limits

/-- A limit keeps itself. -/
theorem LimitKept.refl (limit : Option UInt64) : LimitKept limit limit := by
  rw [limitKept_iff_limitBound_le]

/-- What a caller asks of every fallback: the capabilities it requires, and whether it allows
other providers and local runners.
-/
structure Allowance where
  requiredCapabilities : List RequiredProviderCapability
  allowCrossProvider : Bool
  allowRunnerLocal : Bool
  deriving DecidableEq, Repr

namespace Allowance

variable (allowance : Allowance)

/-- One approved fallback, under the allowance, leads from one footing to another. -/
def Leads (start final : Footing) : Prop :=
  ∃ request,
    (∃ decision, validateFallback request = .ok decision)
    ∧ request.primary = start.provider
    ∧ request.originalLimits = start.limits
    ∧ request.candidate = final.provider
    ∧ request.candidateLimits = final.limits
    ∧ allowance.requiredCapabilities ⊆ request.requiredCapabilities
    ∧ request.allowCrossProvider = allowance.allowCrossProvider
    ∧ request.allowRunnerLocal = allowance.allowRunnerLocal

/-- What the allowance leaves open, as seen from a footing. -/
structure LeavesOpen (start final : Footing) : Prop where
  scope : SameScope start.provider final.provider
  limits : LimitsKept start.limits final.limits
  capabilities
    : ∀ capability ∈ allowance.requiredCapabilities, final.provider.supports capability = true
  localRunner : final.provider.providerKind = .localRunner → allowance.allowRunnerLocal = true

variable {allowance} {start middle final : Footing}

/-- What is left open from a footing that was left open is left open from the start. -/
theorem LeavesOpen.trans (first : allowance.LeavesOpen start middle)
    (second : allowance.LeavesOpen middle final)
    : allowance.LeavesOpen start final where
  scope := first.scope.trans second.scope
  limits := first.limits.trans second.limits
  capabilities := second.capabilities
  localRunner := second.localRunner

/-- An approved fallback leads to what is left open. -/
theorem Leads.leavesOpen (leads : allowance.Leads start final)
    : allowance.LeavesOpen start final := by
  obtain ⟨request, ⟨decision, approved⟩, primary, original, candidate, limits, required, _,
    runnerLocal⟩ := leads
  obtain ⟨admissible, _⟩ := admissible_of_validateFallback_ok approved
  constructor
  · rw [← primary, ← candidate]
    exact admissible.scope
  · rw [← original, ← limits]
    exact admissible.limits
  · intro capability member
    rw [← candidate]
    exact admissible.capabilities capability (required member)
  · intro localRunner
    rw [← candidate] at localRunner
    rw [← runnerLocal]
    exact (admissible.localRunner localRunner).2

/-- An attempt of a kind, from one footing to another. -/
def attempt (allowance : Allowance) (kind : FallbackAttemptKind) (start final : Footing)
    : FallbackPolicyRequest :=
  {
    fallbackPolicyRequest kind start.provider final.provider with
    requiredCapabilities := allowance.requiredCapabilities
    originalLimits := start.limits
    candidateLimits := final.limits
    allowCrossProvider := allowance.allowCrossProvider
    allowRunnerLocal := allowance.allowRunnerLocal
  }

/-- An attempt that its kind permits leads to what is left open. -/
theorem LeavesOpen.leads (leavesOpen : allowance.LeavesOpen start final)
    (kind : FallbackAttemptKind)
    (localRunner
      : (allowance.attempt kind start final).LocalRunnerPermitted)
    (retry : (allowance.attempt kind start final).RetryKeepsTarget)
    (sameProvider : (allowance.attempt kind start final).SameProviderKeepsFamily)
    (crossProvider : (allowance.attempt kind start final).CrossProviderPermitted)
    (runnerLocal : (allowance.attempt kind start final).RunnerLocalPermitted)
    : allowance.Leads start final := by
  have admissible : (allowance.attempt kind start final).Admissible :=
    {
      localRunner, retry, sameProvider, crossProvider, runnerLocal
      capabilities := leavesOpen.capabilities
      scope := leavesOpen.scope
      limits := leavesOpen.limits
    }
  exact ⟨_, ⟨_, admissible.approved⟩, rfl, rfl, rfl, rfl, fun _ member => member, rfl, rfl⟩

/-- A footing that is left open is reached by a retry that names its family, and a
same-provider attempt in this family. A local runner is reached at once.
-/
theorem LeavesOpen.transGen (leavesOpen : allowance.LeavesOpen start final)
    : Relation.TransGen allowance.Leads start final := by
  by_cases localRunner : final.provider.providerKind = .localRunner
  · have allowed := leavesOpen.localRunner localRunner
    apply Relation.TransGen.single
    refine leavesOpen.leads .runnerLocal ?_ ?_ ?_ ?_ ?_
    · intro _
      exact ⟨rfl, allowed⟩
    · exact nofun
    · exact nofun
    · exact nofun
    · intro _
      exact ⟨allowed, localRunner⟩
  · have kept : allowance.LeavesOpen start (start.disguised final) :=
      {
        scope := ⟨leavesOpen.scope.region, leavesOpen.scope.dataResidency,
          leavesOpen.scope.credentialScope⟩
        limits := leavesOpen.limits
        capabilities := leavesOpen.capabilities
        localRunner := leavesOpen.localRunner
      }
    have unmasked : allowance.LeavesOpen (start.disguised final) final :=
      {
        scope := ⟨rfl, rfl, rfl⟩
        limits := ⟨.refl _, .refl _⟩
        capabilities := leavesOpen.capabilities
        localRunner := leavesOpen.localRunner
      }
    refine Relation.TransGen.tail (b := start.disguised final) (.single ?_) ?_
    · refine kept.leads .retry ?_ ?_ ?_ ?_ ?_
      · exact fun isLocal => absurd isLocal localRunner
      · exact fun _ => ⟨rfl, rfl⟩
      · exact nofun
      · exact nofun
      · exact nofun
    · refine unmasked.leads .sameProvider ?_ ?_ ?_ ?_ ?_
      · exact fun isLocal => absurd isLocal localRunner
      · exact nofun
      · exact fun _ => rfl
      · exact nofun
      · exact nofun

end Allowance

/-- Chains of approved fallbacks reach exactly the providers in the same scope, with all
required capabilities and under limits that are kept, local runners only if they are allowed.
Whether other providers are allowed makes no difference to what can be reached. Witness:
induction on the chain, and a retry that disguises the provider it is to be replaced by.
-/
theorem Allowance.reaches_iff (allowance : Allowance) (start final : Footing)
    : Relation.TransGen allowance.Leads start final ↔ allowance.LeavesOpen start final := by
  constructor
  · intro chain
    induction chain with
    | single leads => exact leads.leavesOpen
    | tail _ leads ih => exact ih.trans leads.leavesOpen
  · exact LeavesOpen.transGen

end TaskotterGateway.Fallback
