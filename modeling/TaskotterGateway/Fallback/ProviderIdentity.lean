import TaskotterGateway.Fallback.Admission

/-! What an approved fallback keeps of its provider. Each kind of attempt compares its own
fields: a retry asks for the provider and the model but not for the family, and no attempt
asks for the reason it is made for.
-/

namespace TaskotterGateway.Fallback

open GuardCascade

-----------------------------------------------------------------------------------------
-- Provider families
-----------------------------------------------------------------------------------------

namespace FallbackPolicyRequest

variable (request : FallbackPolicyRequest)

/-- An approved fallback without an allowance for other providers keeps the family. -/
def KeepsFamily : Prop :=
  (∃ decision, validateFallback request = .ok decision)
  → request.allowCrossProvider = false
  → request.attemptKind ≠ .runnerLocal
  → request.candidate.providerFamily = request.primary.providerFamily

/-- What refuses a retry, whatever its families: its target, its kind of provider, its
capabilities, its scope or its limits.
-/
def RetryRefused : Prop :=
  ¬ request.RetryKeepsTarget
  ∨ request.candidate.providerKind = .localRunner
  ∨ ¬ request.CapabilitiesKept
  ∨ ¬ SameScope request.primary request.candidate
  ∨ ¬ LimitsKept request.originalLimits request.candidateLimits

end FallbackPolicyRequest

/-- A retry is approved exactly if nothing refuses it; its families are not compared. -/
theorem retry_approved_iff {request : FallbackPolicyRequest}
    (retry : request.attemptKind = .retry)
    : (∃ decision, validateFallback request = .ok decision) ↔ ¬ request.RetryRefused := by
  simp only [FallbackPolicyRequest.RetryRefused, not_or, not_not]
  constructor
  · rintro ⟨decision, approved⟩
    have admissible := (admissible_of_validateFallback_ok approved).1
    refine ⟨admissible.retry, ?_, admissible.capabilities, admissible.scope,
      admissible.limits⟩
    intro isLocal
    have runner := (admissible.localRunner isLocal).1
    rw [retry] at runner
    contradiction
  · rintro ⟨target, hosted, capabilities, scope, limits⟩
    have admissible : request.Admissible := {
      localRunner := fun runner => absurd runner hosted
      retry := target
      sameProvider := fun kind => by rw [retry] at kind; contradiction
      crossProvider := fun kind => by rw [retry] at kind; contradiction
      runnerLocal := fun kind => by rw [retry] at kind; contradiction
      capabilities, scope, limits
    }
    exact ⟨_, admissible.approved⟩

/-- Every attempt but a retry compares the families or needs an allowance. -/
theorem FallbackPolicyRequest.Admissible.keepsFamily {request : FallbackPolicyRequest}
    (admissible : request.Admissible) (notRetry : request.attemptKind ≠ .retry)
    (unallowed : request.allowCrossProvider = false)
    (notLocal : request.attemptKind ≠ .runnerLocal)
    : request.candidate.providerFamily = request.primary.providerFamily := by
  cases kind : request.attemptKind with
  | retry => exact absurd kind notRetry
  | sameProvider => exact (admissible.sameProvider kind).symm
  | crossProvider =>
      have allowed := admissible.crossProvider kind
      rw [unallowed] at allowed
      contradiction
  | runnerLocal => exact absurd kind notLocal

/-- Without an allowance an approved fallback keeps the family exactly if it is no retry, or
its families agree, or the retry is refused for something else.
-/
theorem keepsFamily_iff (request : FallbackPolicyRequest)
    : request.KeepsFamily
      ↔ request.attemptKind ≠ .retry
        ∨ request.candidate.providerFamily = request.primary.providerFamily
        ∨ request.allowCrossProvider = true
        ∨ request.RetryRefused := by
  by_cases retry : request.attemptKind = .retry
  · rw [FallbackPolicyRequest.KeepsFamily, retry_approved_iff retry]
    constructor
    · intro kept
      by_cases refused : request.RetryRefused
      · exact Or.inr (Or.inr (Or.inr refused))
      · cases allowed : request.allowCrossProvider with
        | true => exact Or.inr (Or.inr (Or.inl rfl))
        | false => exact Or.inr (Or.inl (kept refused allowed (by rw [retry]; simp)))
    · intro condition approved unallowed _
      rcases condition with other | same | allowed | refused
      · exact absurd retry other
      · exact same
      · rw [unallowed] at allowed
        contradiction
      · exact absurd refused approved
  · refine iff_of_true ?_ (Or.inl retry)
    rintro ⟨decision, approved⟩ unallowed notLocal
    exact (admissible_of_validateFallback_ok approved).1.keepsFamily retry unallowed notLocal

/-- A retry that keeps the provider and the model under another family, without an allowance
for other providers.
-/
def relabelledRetry : FallbackPolicyRequest :=
  {
    fallbackPolicyRequest .retry (fallbackCandidate "provider_primary" "openai" "wg_1/provider")
      (fallbackCandidate "provider_primary" "anthropic" "wg_1/provider") with
    allowCrossProvider := false
  }

/-- An approved fallback does not always keep the family: the retry compares other fields. -/
theorem not_keepsFamily : ¬ ∀ request : FallbackPolicyRequest, request.KeepsFamily := by
  intro assumed
  have approved : validateFallback relabelledRetry = .ok relabelledRetry.approval := by
    decide +kernel
  have same := assumed relabelledRetry ⟨_, approved⟩ rfl (by decide)
  have changed : relabelledRetry.candidate.providerFamily
      ≠ relabelledRetry.primary.providerFamily := by
    decide
  exact changed same

-----------------------------------------------------------------------------------------
-- Routing reasons
-----------------------------------------------------------------------------------------

/-- The same request, made for another reason. -/
def FallbackPolicyRequest.routedFor (request : FallbackPolicyRequest)
    (reason : RoutingReasonCode)
    : FallbackPolicyRequest :=
  { request with routingReason := reason }

/-- No guard reads the reason. -/
theorem firstRefusal_routedFor (request : FallbackPolicyRequest) (reason : RoutingReasonCode)
    : firstRefusal fallbackGuards (request.routedFor reason)
      = firstRefusal fallbackGuards request :=
  rfl

/-- Validation answers the same whatever the reason, which an approval only echoes. -/
theorem validateFallback_routedFor (request : FallbackPolicyRequest)
    (reason : RoutingReasonCode)
    : validateFallback (request.routedFor reason)
      = (validateFallback request).map (fun decision => { decision with reason }) := by
  rw [validateFallback_eq_resultOf, validateFallback_eq_resultOf, firstRefusal_routedFor]
  cases firstRefusal fallbackGuards request with
  | none => rfl
  | some refusal => rfl

/-- A local runner is approved for exactly the runner-local attempts, and these need their
allowance; the reason of an attempt decides nothing and is only echoed.
-/
theorem approved_localRunner_iff
    : (∀ (request : FallbackPolicyRequest) (decision : FallbackPolicyDecision),
        validateFallback request = .ok decision
        → (request.candidate.providerKind = .localRunner
            ↔ request.attemptKind = .runnerLocal)
          ∧ (request.attemptKind = .runnerLocal → request.allowRunnerLocal = true))
      ∧ ∀ (request : FallbackPolicyRequest) (reason : RoutingReasonCode),
          validateFallback { request with routingReason := reason }
          = (validateFallback request).map (fun decision => { decision with reason }) := by
  refine ⟨?_, validateFallback_routedFor⟩
  intro request decision approved
  have admissible := (admissible_of_validateFallback_ok approved).1
  refine ⟨⟨?_, ?_⟩, ?_⟩
  · intro runner
    exact (admissible.localRunner runner).1
  · intro kind
    exact (admissible.runnerLocal kind).2
  · intro kind
    exact (admissible.runnerLocal kind).1

/-- A fallback from a hosted provider to a local runner, where it is allowed. -/
def runnerLocalFallback : FallbackPolicyRequest :=
  let primary := fallbackCandidate "provider_primary" "openai" "wg_1/provider"
  {
    fallbackPolicyRequest .runnerLocal primary { primary with providerKind := .localRunner } with
    allowRunnerLocal := true
  }

/-- The fallback to the local runner is approved, and under another reason it is alike. -/
theorem approved_localRunner_iff_runner
    : (runnerLocalFallback.candidate.providerKind = .localRunner
        ↔ runnerLocalFallback.attemptKind = .runnerLocal)
      ∧ validateFallback { runnerLocalFallback with routingReason := .runnerLocalRequired }
        = .ok { runnerLocalFallback.approval with reason := .runnerLocalRequired } := by
  have approved : validateFallback runnerLocalFallback = .ok runnerLocalFallback.approval := by
    decide +kernel
  obtain ⟨kinds, reasons⟩ := approved_localRunner_iff
  refine ⟨(kinds runnerLocalFallback runnerLocalFallback.approval approved).1, ?_⟩
  rw [reasons, approved]
  rfl

/-- A requirement for a local runner that is answered with a hosted provider. -/
def hostedRetry : FallbackPolicyRequest :=
  let primary := fallbackCandidate "provider_primary" "openai" "wg_1/provider"
  { fallbackPolicyRequest .retry primary primary with routingReason := .runnerLocalRequired }

/-- The requirement for a local runner is not always honoured. -/
theorem not_runnerLocalRequired_honoured
    : ¬ ∀ (request : FallbackPolicyRequest) (decision : FallbackPolicyDecision),
          request.routingReason = .runnerLocalRequired
          → validateFallback request = .ok decision
          → request.candidate.providerKind = .localRunner
            ∧ request.attemptKind = .runnerLocal
            ∧ request.allowRunnerLocal = true := by
  intro assumed
  have approved : validateFallback hostedRetry = .ok hostedRetry.approval := by
    decide +kernel
  have runner := (assumed hostedRetry hostedRetry.approval rfl approved).1
  contradiction

end TaskotterGateway.Fallback
