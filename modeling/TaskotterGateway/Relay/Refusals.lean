import TaskotterGateway.Foundation.AllowLists
import TaskotterGateway.Foundation.GuardCascade
import TaskotterGateway.Relay.Accounting

/-! What the static policy engine and the stub provider adapter refuse. Both are cascades of
guards, each of which decides one declarative condition.
-/

namespace TaskotterGateway.Relay

open Text GuardCascade AllowList

/-- The grounds on which the static engine denies a check. -/
inductive PolicyCheck.Refused (check : PolicyCheck) : Prop where
  | user (denied : check.subject.userId = "denied")
  | provider (disabled : ∃ rest, check.provider.providerId = "disabled_" ++ rest)
  | workingGroup
    (outside
      : ¬ Admits check.provider.allowedWorkingGroupIds (some check.subject.workingGroupId))
  | agent (unbound : ¬ Admits check.provider.allowedAgentIds check.subject.agentId)
  | workflow (unbound : ¬ Admits check.provider.allowedWorkflowIds check.subject.workflowId)
  | model (unlisted : ¬ Admits check.provider.allowedModels (some check.provider.model))
  | dataBoundary (hidden : check.provider.dataBoundaryId ≠ check.subject.dataBoundaryId)
  | tokens (exceeded : ∃ tokens, check.requestedMaxTokens = some tokens ∧ 8192 < tokens)
  | cost (exceeded : ∃ cost, check.estimatedCostMicroUsd = some cost ∧ 50000 < cost)

/-- The denial reasons of the static engine, in the order in which they are tried. -/
def staticPolicyGuards : List (Guard PolicyCheck String) :=
  [
    ⟨fun check =>
        check.subject.userId == "denied" || startsWith check.provider.providerId "disabled_",
      "request denied by gateway policy hook"⟩,
    ⟨fun check =>
        !check.provider.allowedWorkingGroupIds.isEmpty
        && !check.provider.allowedWorkingGroupIds.contains check.subject.workingGroupId,
      "provider not available to working group"⟩,
    ⟨fun check =>
        !check.provider.allowedAgentIds.isEmpty
        && check.subject.agentId.all
            (fun agentId => !check.provider.allowedAgentIds.contains agentId),
      "provider not bound to agent"⟩,
    ⟨fun check =>
        !check.provider.allowedWorkflowIds.isEmpty
        && check.subject.workflowId.all
            (fun workflowId => !check.provider.allowedWorkflowIds.contains workflowId),
      "provider not bound to workflow"⟩,
    ⟨fun check =>
        !check.provider.allowedModels.isEmpty
        && !check.provider.allowedModels.contains check.provider.model,
      "model not allowed for provider binding"⟩,
    ⟨fun check => check.provider.dataBoundaryId != check.subject.dataBoundaryId,
      "provider data boundary is not visible to subject"⟩,
    ⟨fun check => check.requestedMaxTokens.any (fun tokens => decide (8192 < tokens)),
      "request exceeds token quota"⟩,
    ⟨fun check => check.estimatedCostMicroUsd.any (fun cost => decide (50000 < cost)),
      "request exceeds cost quota"⟩
  ]

theorem policyDenialReason_eq_firstRefusal (check : PolicyCheck)
    : policyDenialReason check = firstRefusal staticPolicyGuards check :=
  rfl

/-- A check passes every guard exactly when there are no grounds to deny it. -/
theorem firstRefusal_staticPolicyGuards_eq_none_iff {check : PolicyCheck}
    : firstRefusal staticPolicyGuards check = none ↔ ¬ check.Refused := by
  have within {limit : UInt64} {amount : Option UInt64}
      : amount.any (fun amount => decide (limit < amount)) = false
        ↔ ¬ ∃ exceeding, amount = some exceeding ∧ limit < exceeding := by
    rw [← Bool.not_eq_true, Option.any_eq_true]
    simp only [decide_eq_true_eq]
  rw [firstRefusal_eq_none_iff]
  simp only [staticPolicyGuards, List.forall_mem_cons, List.not_mem_nil, false_implies,
    implies_true, and_true, contains_tests_eq_false_iff, absent_tests_eq_false_iff, within,
    bne_eq_false_iff_eq, Bool.or_eq_false_iff, beq_eq_false_iff_ne]
  constructor
  · intro passed refused
    obtain ⟨⟨user, provider⟩, workingGroup, agent, workflow, model, dataBoundary, tokens,
      cost⟩ := passed
    cases refused with
    | user denied => exact user denied
    | provider disabled => simp [startsWith_iff.mpr disabled] at provider
    | workingGroup outside => exact outside workingGroup
    | agent unbound => exact unbound agent
    | workflow unbound => exact unbound workflow
    | model unlisted => exact unlisted model
    | dataBoundary hidden => exact hidden dataBoundary
    | tokens exceeded => exact tokens exceeded
    | cost exceeded => exact cost exceeded
  · intro granted
    refine ⟨⟨fun denied => granted (.user denied), ?_⟩, ?_, ?_, ?_, ?_, ?_,
      fun exceeded => granted (.tokens exceeded), fun exceeded => granted (.cost exceeded)⟩
    · rw [← Bool.not_eq_true, startsWith_iff]
      exact fun disabled => granted (.provider disabled)
    · exact not_not.mp (fun outside => granted (.workingGroup outside))
    · exact not_not.mp (fun unbound => granted (.agent unbound))
    · exact not_not.mp (fun unbound => granted (.workflow unbound))
    · exact not_not.mp (fun unlisted => granted (.model unlisted))
    · exact not_not.mp (fun hidden => granted (.dataBoundary hidden))

/-- The static engine allows exactly the checks that it has no grounds to deny. -/
theorem staticPolicyEngine_allowed_iff {check : PolicyCheck}
    : (staticPolicyEngine check).allowed = true ↔ ¬ check.Refused := by
  rw [← firstRefusal_staticPolicyGuards_eq_none_iff, ← policyDenialReason_eq_firstRefusal]
  simp [staticPolicyEngine]

/-- Why the stub adapter refuses a request. -/
inductive StubRefusal where
  | denied
  | timedOut
  | midStreamQuota
  | tokenQuota
  deriving DecidableEq, Repr

/-- The grounds of each refusal, whichever of them comes first. -/
def StubRefusal.Grounded (request : NormalizedProviderRequest) (decision : PolicyDecision)
    : StubRefusal → Prop
  | .denied => decision.allowed = false
  | .timedOut => request.timeoutMs = some 0
  | .midStreamQuota =>
      ∃ message ∈ request.messages,
        contains message.content "simulate:mid_stream_quota" = true
  | .tokenQuota =>
      ∃ maxTokens,
        decision.maxTokens = some maxTokens ∧ maxTokens.toNat < promptTokens request.messages

/-- The refusals of the stub adapter, in the order in which they are tried. -/
def stubGuards : List (Guard (NormalizedProviderRequest × PolicyDecision) StubRefusal) :=
  [
    ⟨fun call => !call.2.allowed, .denied⟩,
    ⟨fun call => call.1.timeoutMs == some 0, .timedOut⟩,
    ⟨fun call =>
        call.1.messages.any
          (fun message => contains message.content "simulate:mid_stream_quota"),
      .midStreamQuota⟩,
    ⟨fun call =>
        call.2.maxTokens.any
          (fun maxTokens => decide (maxTokens.toNat < promptTokens call.1.messages)),
      .tokenQuota⟩
  ]

/-- Each guard of the stub adapter rejects exactly the requests with grounds to refuse. -/
theorem stubGuards_rejects_iff {request : NormalizedProviderRequest}
    {decision : PolicyDecision}
    : ∀ guard ∈ stubGuards,
        guard.rejects (request, decision) = true ↔ guard.refusal.Grounded request decision := by
  simp only [stubGuards, List.forall_mem_cons, List.not_mem_nil, false_implies, implies_true,
    and_true, StubRefusal.Grounded, Bool.not_eq_true', beq_iff_eq, List.any_eq_true,
    Option.any_eq_true, decide_eq_true_eq]

/-- The stub adapter refuses nothing without grounds. -/
theorem grounded_of_firstRefusal {request : NormalizedProviderRequest}
    {decision : PolicyDecision} {refusal : StubRefusal}
    (refused : firstRefusal stubGuards (request, decision) = some refusal)
    : refusal.Grounded request decision := by
  refine firstRefusal_elim (fun refusal => refusal.Grounded request decision) ?_ refused
  intro guard member rejects
  exact (stubGuards_rejects_iff guard member).mp rejects

/-- The stub adapter relays exactly the requests that it has no grounds to refuse. -/
theorem firstRefusal_stubGuards_eq_none_iff {request : NormalizedProviderRequest}
    {decision : PolicyDecision}
    : firstRefusal stubGuards (request, decision) = none
      ↔ ∀ refusal : StubRefusal, ¬ refusal.Grounded request decision := by
  rw [firstRefusal_eq_none_iff]
  constructor
  · intro passed refusal grounded
    have listed : ∃ guard ∈ stubGuards, guard.refusal = refusal := by
      cases refusal <;> simp [stubGuards]
    obtain ⟨guard, member, same⟩ := listed
    rw [← same] at grounded
    have rejects := (stubGuards_rejects_iff guard member).mpr grounded
    rw [passed guard member] at rejects
    contradiction
  · intro groundless guard member
    rw [← Bool.not_eq_true, stubGuards_rejects_iff guard member]
    exact groundless guard.refusal

/-- The error that the stub adapter answers a refusal with. -/
def renderStubRefusal (request : NormalizedProviderRequest) (decision : PolicyDecision)
    : StubRefusal → GatewayError
  | .denied => .policyDeniedError decision.reason
  | .timedOut => .timeoutError "provider relay timed out" request.timeoutMs
  | .midStreamQuota => .quotaExceededError "usage quota exceeded during provider stream"
  | .tokenQuota => .quotaExceededError "provider request exceeds policy token quota"

/-- The answer of the stub adapter to a request that it does not refuse. -/
def stubResponse (request : NormalizedProviderRequest) (relayId : Uuid) : ProviderResponse where
  relayId
  providerKind := request.provider.kind
  model := request.provider.model
  outputText := "stub provider response"
  streamPlaceholder := request.stream

/-- The answer of the stub adapter once its cascade has answered. -/
def stubAnswer (request : NormalizedProviderRequest) (decision : PolicyDecision)
    (relayId : Uuid)
    : Option StubRefusal → Except GatewayError ProviderResponse
  | some refusal => .error (renderStubRefusal request decision refusal)
  | none => .ok (stubResponse request relayId)

/-- The stub adapter answers with the first guard that rejects the request. Witness: cases on
the guards in their order.
-/
theorem stubProviderAdapter_run (request : NormalizedProviderRequest)
    (decision : PolicyDecision) (source : UuidSource)
    : ((stubProviderAdapter request decision).run source).1
      = stubAnswer request decision (source.ids source.drawn)
          (firstRefusal stubGuards (request, decision)) := by
  unfold stubProviderAdapter
  cases allowed : decision.allowed
  case false =>
    simp only [stubGuards, firstRefusal_cons, allowed, Bool.not_false, if_true]
    rfl
  cases timedOut : request.timeoutMs == some 0
  case true =>
    simp only [stubGuards, firstRefusal_cons, allowed, timedOut, Bool.not_true,
      Bool.false_eq_true, if_true, if_false]
    rfl
  cases midStream
      : request.messages.any
          (fun message => contains message.content "simulate:mid_stream_quota")
  case true =>
    simp only [stubGuards, firstRefusal_cons, allowed, timedOut, midStream, Bool.not_true,
      Bool.false_eq_true, if_true, if_false]
    rfl
  cases overQuota
      : decision.maxTokens.any
          (fun maxTokens => decide (maxTokens.toNat < promptTokens request.messages)) <;>
    simp only [stubGuards, firstRefusal_cons, firstRefusal_nil, allowed, timedOut, midStream,
      overQuota, Bool.not_true, Bool.false_eq_true, if_true, if_false] <;>
    rfl

/-- Over the stub adapter, whatever the engine, an attempt ends as the stub's cascade answers.
Witness: a request that the engine denies is one that the stub would have denied alike.
-/
theorem attempt_run_stub (policy : PolicyEngine) (payload : AiRelayRequest) (world : World)
    : ((attempt { providers := { stub := stubProviderAdapter }, policy } payload).run world).1
      = stubAnswer payload.normalized (policy payload.policyCheck)
          (world.source.ids world.source.drawn)
          (firstRefusal stubGuards (payload.normalized, policy payload.policyCheck)) := by
  cases allowed : (policy payload.policyCheck).allowed with
  | false =>
      rw [attempt_run_denied allowed]
      simp only [stubGuards, firstRefusal_cons, allowed, Bool.not_false, if_true]
      rfl
  | true =>
      rw [attempt_run_allowed allowed]
      exact stubProviderAdapter_run payload.normalized (policy payload.policyCheck) world.source

end TaskotterGateway.Relay
