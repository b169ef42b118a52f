import TaskotterGateway.Fallback.Implementation
import TaskotterGateway.Foundation.GuardCascade

/-! What a fallback must satisfy to be approved, and that validation approves exactly these
fallbacks. The five validators in sequence are one cascade of guards, and each guard
decides one condition.
-/

namespace TaskotterGateway.Fallback

open GuardCascade

/-- The candidate stays in the region, data residency and credential scope of the
original provider.
-/
structure SameScope (original candidate : FallbackProviderCandidate) : Prop where
  region : original.region = candidate.region
  dataResidency : original.dataResidency = candidate.dataResidency
  credentialScope : original.credentialScope = candidate.credentialScope

/-- An original limit binds the candidate: it is absent, or the candidate has a limit that
is not larger.
-/
def LimitKept (original candidate : Option UInt64) : Prop :=
  original = none
  ∨ ∃ bound limit, original = some bound ∧ candidate = some limit ∧ limit ≤ bound

/-- The candidate limits keep both original limits. -/
structure LimitsKept (original candidate : FallbackPolicyLimits) : Prop where
  maxTokens : LimitKept original.maxTokens candidate.maxTokens
  maxCostMicroUsd : LimitKept original.maxCostMicroUsd candidate.maxCostMicroUsd

namespace FallbackPolicyRequest

variable (request : FallbackPolicyRequest)

/-- A local runner appears only in a runner-local attempt that the policy allows. -/
def LocalRunnerPermitted : Prop :=
  request.candidate.providerKind = .localRunner
  → request.attemptKind = .runnerLocal ∧ request.allowRunnerLocal = true

/-- A retry keeps the provider and the model. -/
def RetryKeepsTarget : Prop :=
  request.attemptKind = .retry
  → request.primary.providerId = request.candidate.providerId
    ∧ request.primary.model = request.candidate.model

/-- A same-provider attempt keeps the provider family. -/
def SameProviderKeepsFamily : Prop :=
  request.attemptKind = .sameProvider
  → request.primary.providerFamily = request.candidate.providerFamily

/-- A cross-provider attempt is allowed by the policy. -/
def CrossProviderPermitted : Prop :=
  request.attemptKind = .crossProvider → request.allowCrossProvider = true

/-- A runner-local attempt is allowed by the policy and has a local runner. -/
def RunnerLocalPermitted : Prop :=
  request.attemptKind = .runnerLocal
  → request.allowRunnerLocal = true ∧ request.candidate.providerKind = .localRunner

/-- The candidate supports every required capability. -/
def CapabilitiesKept : Prop :=
  ∀ capability ∈ request.requiredCapabilities, request.candidate.supports capability = true

/-- Everything a fallback must satisfy to be approved, in the order of the checks. -/
structure Admissible : Prop where
  localRunner : request.LocalRunnerPermitted
  retry : request.RetryKeepsTarget
  sameProvider : request.SameProviderKeepsFamily
  crossProvider : request.CrossProviderPermitted
  runnerLocal : request.RunnerLocalPermitted
  capabilities : request.CapabilitiesKept
  scope : SameScope request.primary request.candidate
  limits : LimitsKept request.originalLimits request.candidateLimits

/-- A condition of `Admissible` fails for the request, and this is its failure class. The
class `fallback_reason_not_retryable` names none of them.
-/
inductive Violates : String → Prop where
  | localRunner (broken : ¬ request.LocalRunnerPermitted)
    : Violates "runner_local_fallback_not_allowed"
  | retry (broken : ¬ request.RetryKeepsTarget) : Violates "retry_target_changed"
  | sameProvider (broken : ¬ request.SameProviderKeepsFamily)
    : Violates "same_provider_family_changed"
  | crossProvider (broken : ¬ request.CrossProviderPermitted)
    : Violates "cross_provider_fallback_not_allowed"
  | runnerLocal (broken : ¬ request.RunnerLocalPermitted)
    : Violates "runner_local_fallback_not_allowed"
  | capabilities (broken : ¬ request.CapabilitiesKept)
    : Violates "required_capability_dropped"
  | scope (broken : ¬ SameScope request.primary request.candidate)
    : Violates "fallback_scope_widened"
  | limits (broken : ¬ LimitsKept request.originalLimits request.candidateLimits)
    : Violates "fallback_policy_limit_widened"

end FallbackPolicyRequest

/-- What a refused fallback is answered with: its failure class and its message. -/
structure Refusal where
  failureClass : String
  message : String
  deriving DecidableEq, Repr

def renderFailure (request : FallbackPolicyRequest) (refusal : Refusal)
    : FallbackPolicyFailure :=
  failure request refusal.failureClass refusal.message

def localRunnerGuard : Guard FallbackPolicyRequest Refusal where
  rejects request :=
    request.candidate.providerKind == .localRunner
    && !(request.attemptKind == .runnerLocal && request.allowRunnerLocal)
  refusal :=
    ⟨"runner_local_fallback_not_allowed",
      "Runner-local fallback requires an explicit runner-local attempt and policy allowance."⟩

/-- One guard for each attempt kind, which passes the other kinds. -/
def attemptKindGuards : List (Guard FallbackPolicyRequest Refusal) :=
  [
    ⟨fun request =>
        request.attemptKind == .retry
        && !(request.primary.providerId == request.candidate.providerId
          && request.primary.model == request.candidate.model),
      ⟨"retry_target_changed", "Retry fallback must keep the same provider and model."⟩⟩,
    ⟨fun request =>
        request.attemptKind == .sameProvider
        && !(request.primary.providerFamily == request.candidate.providerFamily),
      ⟨"same_provider_family_changed",
        "Same-provider fallback cannot change provider family."⟩⟩,
    ⟨fun request => request.attemptKind == .crossProvider && !request.allowCrossProvider,
      ⟨"cross_provider_fallback_not_allowed",
        "Cross-provider fallback requires an explicit policy allowance."⟩⟩,
    ⟨fun request =>
        request.attemptKind == .runnerLocal
        && !(request.allowRunnerLocal && request.candidate.providerKind == .localRunner),
      ⟨"runner_local_fallback_not_allowed",
        "Runner-local fallback requires an explicit policy allowance and local runner candidate."⟩⟩
  ]

def capabilityGuard : Guard FallbackPolicyRequest Refusal where
  rejects request :=
    request.requiredCapabilities.any
      (fun capability => !request.candidate.supports capability)
  refusal :=
    ⟨"required_capability_dropped",
      "Fallback candidate does not satisfy a required provider capability."⟩

def scopeGuard : Guard FallbackPolicyRequest Refusal where
  rejects request := !request.scopeMatches
  refusal :=
    ⟨"fallback_scope_widened",
      "Fallback cannot widen region, data residency, or credential scope."⟩

def limitGuard : Guard FallbackPolicyRequest Refusal where
  rejects request :=
    limitWidened request.originalLimits.maxTokens request.candidateLimits.maxTokens
    || limitWidened request.originalLimits.maxCostMicroUsd
        request.candidateLimits.maxCostMicroUsd
  refusal :=
    ⟨"fallback_policy_limit_widened",
      "Fallback cannot raise token or cost limits from the original policy decision."⟩

/-- Every check of the validation, in the order in which it is asked. -/
def fallbackGuards : List (Guard FallbackPolicyRequest Refusal) :=
  (localRunnerGuard :: attemptKindGuards)
  ++ ([capabilityGuard] ++ ([scopeGuard] ++ [limitGuard]))

/-- The match on the attempt kind asks the guard of that kind only. Witness: cases on the
attempt kind and the test of that kind.
-/
theorem validateAttemptBoundary_eq_check (request : FallbackPolicyRequest)
    : validateAttemptBoundary request
      = check renderFailure (localRunnerGuard :: attemptKindGuards) request := by
  rw [check_cons]
  unfold validateAttemptBoundary
  refine if_congr Iff.rfl rfl ?_
  cases kind : request.attemptKind with
  | retry =>
      cases kept
          : request.primary.providerId == request.candidate.providerId
            && request.primary.model == request.candidate.model <;>
        simp only [attemptKindGuards, check_cons, check_nil, kind, kept] <;>
        rfl
  | sameProvider =>
      cases kept : request.primary.providerFamily == request.candidate.providerFamily <;>
        simp only [attemptKindGuards, check_cons, check_nil, kind, kept] <;>
        rfl
  | crossProvider =>
      cases allowed : request.allowCrossProvider <;>
        simp only [attemptKindGuards, check_cons, check_nil, kind, allowed] <;>
        rfl
  | runnerLocal =>
      cases allowed
          : request.allowRunnerLocal && request.candidate.providerKind == .localRunner <;>
        simp only [attemptKindGuards, check_cons, check_nil, kind, allowed] <;>
        rfl

/-- The loop fails exactly when some capability is dropped, whichever comes first.
Witness: induction on the capabilities still to be checked.
-/
theorem checkCapabilities_eq (request : FallbackPolicyRequest)
    (capabilities : List RequiredProviderCapability)
    : checkCapabilities request capabilities
      = if capabilities.any (fun capability => !request.candidate.supports capability) then
          .error (renderFailure request capabilityGuard.refusal)
        else
          .ok () := by
  induction capabilities with
  | nil => rfl
  | cons capability rest ih =>
      unfold checkCapabilities
      cases supported : request.candidate.supports capability with
      | true => simpa [supported] using ih
      | false => simp [supported, renderFailure, capabilityGuard]

theorem validateRequiredCapabilities_eq_check (request : FallbackPolicyRequest)
    : validateRequiredCapabilities request
      = check renderFailure [capabilityGuard] request := by
  rw [check_cons, check_nil]
  exact checkCapabilities_eq request request.requiredCapabilities

theorem validateScopeBoundary_eq_check (request : FallbackPolicyRequest)
    : validateScopeBoundary request = check renderFailure [scopeGuard] request := by
  rw [check_cons, check_nil]
  unfold validateScopeBoundary
  cases matching : request.scopeMatches <;> simp [scopeGuard, matching, renderFailure]

theorem validatePolicyLimits_eq_check (request : FallbackPolicyRequest)
    : validatePolicyLimits request = check renderFailure [limitGuard] request := by
  rw [check_cons, check_nil]
  rfl

/-- The decision on an approved fallback. -/
def FallbackPolicyRequest.approval (request : FallbackPolicyRequest)
    : FallbackPolicyDecision where
  allowed := true
  reason := request.routingReason
  selectedProvider := request.candidate.providerId

/-- Every routing reason is retryable, so the first check never refuses. -/
theorem isRetryableReason_eq_true (reason : RoutingReasonCode)
    : isRetryableReason reason = true := by
  cases reason <;> rfl

/-- Validation answers with the first guard that rejects the fallback, and approves when
none does. Witness: the validators are cascades, and running them in sequence runs their
concatenation.
-/
theorem validateFallback_eq_check (request : FallbackPolicyRequest)
    : validateFallback request
      = (check renderFailure fallbackGuards request).map (fun _ => request.approval) := by
  simp only [fallbackGuards, check_append, ← validateAttemptBoundary_eq_check,
    ← validateRequiredCapabilities_eq_check, ← validateScopeBoundary_eq_check,
    ← validatePolicyLimits_eq_check]
  unfold validateFallback
  simp only [isRetryableReason_eq_true, Bool.not_true, Bool.false_eq_true, if_false]
  cases validateAttemptBoundary request with
  | error failure => rfl
  | ok _ =>
      cases validateRequiredCapabilities request with
      | error failure => rfl
      | ok _ =>
          cases validateScopeBoundary request with
          | error failure => rfl
          | ok _ => cases validatePolicyLimits request <;> rfl

/-- The result of a fallback once the cascade has answered. -/
def resultOf (request : FallbackPolicyRequest)
    : Option Refusal → Except FallbackPolicyFailure FallbackPolicyDecision
  | none => .ok request.approval
  | some refusal => .error (renderFailure request refusal)

theorem validateFallback_eq_resultOf (request : FallbackPolicyRequest)
    : validateFallback request = resultOf request (firstRefusal fallbackGuards request) := by
  rw [validateFallback_eq_check]
  unfold check
  cases firstRefusal fallbackGuards request <;> rfl

/-- The scope test compares all three scope values. -/
theorem FallbackPolicyRequest.scopeMatches_iff {request : FallbackPolicyRequest}
    : request.scopeMatches = true ↔ SameScope request.primary request.candidate := by
  simp only [FallbackPolicyRequest.scopeMatches, Bool.and_eq_true, beq_iff_eq]
  constructor
  · intro same
    obtain ⟨⟨region, dataResidency⟩, credentialScope⟩ := same
    exact ⟨region, dataResidency, credentialScope⟩
  · intro same
    exact ⟨⟨same.region, same.dataResidency⟩, same.credentialScope⟩

/-- A limit is not widened exactly when it is kept, by cases on the two limits. -/
theorem limitWidened_eq_false_iff {original candidate : Option UInt64}
    : limitWidened original candidate = false ↔ LimitKept original candidate := by
  unfold LimitKept
  cases original with
  | none => simp [limitWidened]
  | some bound =>
      cases candidate with
      | none => simp [limitWidened]
      | some limit => simp [limitWidened, UInt64.not_lt]

theorem capabilityGuard_passes_iff {request : FallbackPolicyRequest}
    : capabilityGuard.rejects request = false ↔ request.CapabilitiesKept := by
  simp [capabilityGuard, FallbackPolicyRequest.CapabilitiesKept]

theorem scopeGuard_passes_iff {request : FallbackPolicyRequest}
    : scopeGuard.rejects request = false ↔ SameScope request.primary request.candidate := by
  rw [← FallbackPolicyRequest.scopeMatches_iff]
  simp only [scopeGuard, Bool.not_eq_false']

/-- The limit guard passes exactly when both limits are kept. -/
theorem limitGuard_passes_iff {request : FallbackPolicyRequest}
    : limitGuard.rejects request = false
      ↔ LimitsKept request.originalLimits request.candidateLimits := by
  simp only [limitGuard, Bool.or_eq_false_iff, limitWidened_eq_false_iff]
  constructor
  · intro kept
    exact ⟨kept.1, kept.2⟩
  · intro kept
    exact ⟨kept.maxTokens, kept.maxCostMicroUsd⟩

/-- A fallback passes every guard exactly when it is admissible. -/
theorem firstRefusal_fallbackGuards_eq_none_iff {request : FallbackPolicyRequest}
    : firstRefusal fallbackGuards request = none ↔ request.Admissible := by
  rw [firstRefusal_eq_none_iff]
  simp only [fallbackGuards, attemptKindGuards, List.forall_mem_append, List.forall_mem_cons,
    List.not_mem_nil, false_implies, implies_true, and_true, capabilityGuard_passes_iff,
    scopeGuard_passes_iff, limitGuard_passes_iff]
  simp only [localRunnerGuard, conditional_passes_iff beq_iff_eq Iff.rfl, Bool.and_eq_true,
    beq_iff_eq]
  constructor
  · intro passed
    obtain ⟨⟨localRunner, retry, sameProvider, crossProvider, runnerLocal⟩, capabilities,
      scope, limits⟩ := passed
    exact {
      localRunner, retry, sameProvider, crossProvider, runnerLocal, capabilities, scope, limits
    }
  · intro admissible
    exact ⟨⟨admissible.localRunner, admissible.retry, admissible.sameProvider,
      admissible.crossProvider, admissible.runnerLocal⟩, admissible.capabilities,
      admissible.scope, admissible.limits⟩

/-- Every guard that rejects a fallback answers the class of a condition that fails.
Witness: each guard passes when its condition holds.
-/
theorem FallbackPolicyRequest.violates_of_rejects {request : FallbackPolicyRequest}
    : ∀ guard ∈ fallbackGuards,
        guard.rejects request = true → request.Violates guard.refusal.failureClass := by
  simp only [fallbackGuards, attemptKindGuards, List.forall_mem_append, List.forall_mem_cons,
    List.not_mem_nil, false_implies, implies_true, and_true]
  refine ⟨⟨?localRunner, ?retry, ?sameProvider, ?crossProvider, ?runnerLocal⟩,
    ?capabilities, ?scope, ?limits⟩
  case localRunner =>
    intro rejects
    exact .localRunner (not_of_rejects (conditional_passes_iff beq_iff_eq (by simp)) rejects)
  case retry =>
    intro rejects
    exact .retry (not_of_rejects (conditional_passes_iff beq_iff_eq (by simp)) rejects)
  case sameProvider =>
    intro rejects
    exact .sameProvider (not_of_rejects (conditional_passes_iff beq_iff_eq beq_iff_eq) rejects)
  case crossProvider =>
    intro rejects
    exact .crossProvider (not_of_rejects (conditional_passes_iff beq_iff_eq Iff.rfl) rejects)
  case runnerLocal =>
    intro rejects
    exact .runnerLocal (not_of_rejects (conditional_passes_iff beq_iff_eq (by simp)) rejects)
  case capabilities =>
    intro rejects
    exact .capabilities (not_of_rejects capabilityGuard_passes_iff rejects)
  case scope =>
    intro rejects
    exact .scope (not_of_rejects scopeGuard_passes_iff rejects)
  case limits =>
    intro rejects
    exact .limits (not_of_rejects limitGuard_passes_iff rejects)

/-- An approved fallback is admissible, and the decision names its candidate. -/
theorem admissible_of_validateFallback_ok {request : FallbackPolicyRequest}
    {decision : FallbackPolicyDecision} (approved : validateFallback request = .ok decision)
    : request.Admissible ∧ decision = request.approval := by
  rw [validateFallback_eq_resultOf] at approved
  cases answer : firstRefusal fallbackGuards request with
  | none =>
      simp only [answer, resultOf, Except.ok.injEq] at approved
      exact ⟨firstRefusal_fallbackGuards_eq_none_iff.mp answer, approved.symm⟩
  | some refusal => simp [answer, resultOf] at approved

/-- An admissible fallback is approved. -/
theorem FallbackPolicyRequest.Admissible.approved {request : FallbackPolicyRequest}
    (admissible : request.Admissible)
    : validateFallback request = .ok request.approval := by
  rw [validateFallback_eq_resultOf,
    firstRefusal_fallbackGuards_eq_none_iff.mpr admissible]
  rfl

/-- A refused fallback has a first refusal, and its failure is rendered from this. -/
theorem exists_refusal_of_validateFallback_error {request : FallbackPolicyRequest}
    {failure : FallbackPolicyFailure} (refused : validateFallback request = .error failure)
    : ∃ refusal,
        firstRefusal fallbackGuards request = some refusal
        ∧ failure = renderFailure request refusal := by
  rw [validateFallback_eq_resultOf] at refused
  cases answer : firstRefusal fallbackGuards request with
  | none => simp [answer, resultOf] at refused
  | some refusal =>
      simp only [answer, resultOf, Except.error.injEq] at refused
      exact ⟨refusal, rfl, refused.symm⟩

/-- A refused fallback is answered with the class of a condition it fails. -/
theorem violates_of_validateFallback_error {request : FallbackPolicyRequest}
    {failure : FallbackPolicyFailure} (refused : validateFallback request = .error failure)
    : request.Violates failure.failureClass := by
  obtain ⟨refusal, answer, rfl⟩ := exists_refusal_of_validateFallback_error refused
  exact firstRefusal_elim (fun refusal => request.Violates refusal.failureClass)
    FallbackPolicyRequest.violates_of_rejects answer

/-- Validation approves exactly the admissible fallbacks, each with its own reason and its
candidate, and names in every failure a condition that really fails.
-/
theorem validateFallback_admission (request : FallbackPolicyRequest)
    : ((∃ decision, validateFallback request = .ok decision) ↔ request.Admissible)
      ∧ (∀ decision,
          validateFallback request = .ok decision
          → decision.allowed = true
            ∧ decision.reason = request.routingReason
            ∧ decision.selectedProvider = request.candidate.providerId)
      ∧ (∀ failure,
          validateFallback request = .error failure
          → request.Violates failure.failureClass) := by
  refine ⟨⟨?_, ?_⟩, ?_, ?_⟩
  · intro approved
    obtain ⟨decision, approved⟩ := approved
    exact (admissible_of_validateFallback_ok approved).1
  · intro admissible
    exact ⟨request.approval, admissible.approved⟩
  · intro decision approved
    obtain ⟨_, same⟩ := admissible_of_validateFallback_ok approved
    rw [same]
    exact ⟨rfl, rfl, rfl⟩
  · intro failure refused
    exact violates_of_validateFallback_error refused

end TaskotterGateway.Fallback
