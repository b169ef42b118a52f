import TaskotterGateway.Foundation.Gatekeeping
import TaskotterGateway.Mcp.OutcomeConsistency
import TaskotterGateway.Mcp.RuntimeHost
import TaskotterGateway.Provider.Streaming

/-! The four gates of the gateway: completions, streams, tool sessions and tool calls. Each
keeps its requests within the boundary and answers the others with a final denial.
-/

namespace TaskotterGateway.Gates

open Text Contracts RecordedChecks GuardCascade Gatekeeping
open Provider Mcp

-----------------------------------------------------------------------------------------
-- The gates
-----------------------------------------------------------------------------------------

/-- A simulated rate limit is an answer to a request that was let in. -/
def completeGate : Gate ScopedModelRequest NormalizedError :=
  .ofAnswer FakeProviderAdapter.complete (fun answer =>
    (∃ response, answer = .ok response)
    ∨ ∃ error, answer = .error error ∧ error.code = .rateLimited)

def streamGate : Gate ScopedModelRequest NormalizedError :=
  .ofAnswer FakeProviderAdapter.stream (fun answer => ∃ frames, answer = .ok frames)

def openSessionGate (host : McpRuntimeHost) : Gate ScopedMcpSessionRequest NormalizedError :=
  .ofAnswer host.openSession (fun answer => ∃ session, answer = .ok session)

/-- A call that waits for an approval was let in. -/
def toolCallGate : Gate McpToolCallPolicyRequest NormalizedError where
  Admits request := (evaluateToolCallPolicy request).effect ≠ .denied
  Refuses request error :=
    (evaluateToolCallPolicy request).effect = .denied
    ∧ (evaluateToolCallPolicy request).normalizedError = some error
  exclusive refused admitted := admitted refused.1

-----------------------------------------------------------------------------------------
-- Final denials
-----------------------------------------------------------------------------------------

/-- A denial by policy that no retry changes. -/
def FinalDenial (error : NormalizedError) : Prop :=
  error.code = .policyDenied ∧ error.retryable = false

theorem policyInstructionInvalid_final : FinalDenial policyInstructionInvalid :=
  ⟨rfl, rfl⟩

theorem rawCredentialValueRejected_final : FinalDenial rawCredentialValueRejected :=
  ⟨rfl, rfl⟩

theorem policy_error_final {policy : PolicyInstruction} {error : NormalizedError}
    (refused : policy.validate = .error error)
    : FinalDenial error := by
  rcases policy.validate_cases with accepted | invalid
  · rw [accepted] at refused
    contradiction
  · rw [invalid] at refused
    cases refused
    exact policyInstructionInvalid_final

theorem credential_error_final {credential : ScopedCredentialRef} {error : NormalizedError}
    (refused : credential.validate = .error error)
    : FinalDenial error := by
  rcases credential.validate_cases with accepted | rejected
  · rw [accepted] at refused
    contradiction
  · rw [rejected] at refused
    cases refused
    exact rawCredentialValueRejected_final

/-- Every boundary check of a model request refuses for good. -/
theorem modelBoundary_error_final {request : ScopedModelRequest} {error : NormalizedError}
    (refused : request.validateBoundary = .error error)
    : FinalDenial error := by
  rcases andThen_error_cases refused with policy | credential
  · exact policy_error_final policy
  · exact credential_error_final credential

/-- Every boundary check of a session request refuses for good. -/
theorem sessionBoundary_error_final {request : ScopedMcpSessionRequest} {error : NormalizedError}
    (refused : request.validateBoundary = .error error)
    : FinalDenial error := by
  rcases andThen_error_cases refused with policy | credential
  · exact policy_error_final policy
  · cases presented : request.credentialRef with
    | none =>
        rw [presented] at credential
        contradiction
    | some presentedRef =>
        rw [presented] at credential
        exact credential_error_final credential

/-- Whatever guard refuses a tool call, it refuses for good. -/
theorem policyGuards_final : ∀ guard ∈ policyGuards, FinalDenial guard.refusal.error := by
  intro guard member
  have regular := policyGuards_regular guard member
  exact ⟨regular.code, regular.final⟩

-----------------------------------------------------------------------------------------
-- What the gates enforce
-----------------------------------------------------------------------------------------

/-- No final denial counts as a rate limit. -/
theorem FinalDenial.not_admitted {error : NormalizedError} (final : FinalDenial error)
    : ¬ ((∃ response : ModelResponse,
          (.error error : Except NormalizedError ModelResponse) = .ok response)
        ∨ ∃ limit : NormalizedError,
          (.error error : Except NormalizedError ModelResponse) = .error limit
          ∧ limit.code = .rateLimited) := by
  rintro (⟨response, answered⟩ | ⟨limit, same, limited⟩)
  · contradiction
  · cases same
    rw [final.1] at limited
    contradiction

theorem completeGate_enforces
    : completeGate.Enforces
        (fun request => WithinBoundary request.policy (some request.credentialRef))
        FinalDenial :=
  Gate.ofAnswer_enforces (fun _ => ScopedModelRequest.validateBoundary_ok_iff)
    (fun _ _ refused => (refused_of_boundary refused).2)
    (fun _ _ => modelBoundary_error_final)
    (fun _ => FinalDenial.not_admitted)

theorem streamGate_enforces
    : streamGate.Enforces
        (fun request => WithinBoundary request.policy (some request.credentialRef))
        FinalDenial :=
  Gate.ofAnswer_enforces (fun _ => ScopedModelRequest.validateBoundary_ok_iff)
    (fun _ _ refused => (refused_of_boundary refused).1)
    (fun _ _ => modelBoundary_error_final)
    (by simp)

theorem openSessionGate_enforces (host : McpRuntimeHost)
    : (openSessionGate host).Enforces
        (fun request => WithinBoundary request.policy request.credentialRef) FinalDenial := by
  have first (request : ScopedMcpSessionRequest) (error : NormalizedError)
      (refused : request.validateBoundary = .error error)
      : host.openSession request = .error error := by
    rw [McpRuntimeHost.openSession, refused]
    rfl
  exact Gate.ofAnswer_enforces (fun _ => ScopedMcpSessionRequest.validateBoundary_ok_iff) first
    (fun _ _ => sessionBoundary_error_final)
    (by simp)

/-- The tool policy answers a denied call with the error of the guard that refused it. -/
theorem toolCallGate_refuses {request : McpToolCallPolicyRequest}
    (unauthorized : ¬ request.Authorized)
    : ∃ error, toolCallGate.Refuses request error ∧ FinalDenial error := by
  cases answer : firstRefusal policyGuards request with
  | none => exact absurd (firstRefusal_policyGuards_eq_none_iff.mp answer) unauthorized
  | some refusal =>
      have outcome := evaluateToolCallPolicy_eq_outcomeOf request
      rw [answer] at outcome
      refine ⟨refusal.error, ⟨?_, ?_⟩, ?_⟩
      · rw [outcome]
        rfl
      · rw [outcome]
        rfl
      · exact firstRefusal_elim (fun refusal => FinalDenial refusal.error)
          (fun guard member _ => policyGuards_final guard member) answer

theorem toolCallGate_enforces
    : toolCallGate.Enforces
        (fun request => WithinBoundary request.policy request.credentialRef) FinalDenial := by
  apply Gate.enforces_of_refuses
  intro request outside
  apply toolCallGate_refuses
  intro authorized
  exact outside ⟨authorized.policy, authorized.reference⟩

/-- All four gates enforce the boundary, and no gate opens a session that the gateway hosts
while its billing is off.
-/
theorem gates_enforce_boundary
    : completeGate.Enforces
        (fun request => WithinBoundary request.policy (some request.credentialRef))
        FinalDenial
      ∧ streamGate.Enforces
          (fun request => WithinBoundary request.policy (some request.credentialRef))
          FinalDenial
      ∧ (∀ host,
          (openSessionGate host).Enforces
            (fun request => WithinBoundary request.policy request.credentialRef) FinalDenial
          ∧ ∀ request : ScopedMcpSessionRequest,
              request.hostingMode = .gatewayHosted
              → host.featureFlags.hostedMcpBillingEnabled = false
              → ¬ (openSessionGate host).Admits request)
      ∧ toolCallGate.Enforces
          (fun request => WithinBoundary request.policy request.credentialRef) FinalDenial := by
  refine ⟨completeGate_enforces, streamGate_enforces, ?_, toolCallGate_enforces⟩
  intro host
  refine ⟨openSessionGate_enforces host, ?_⟩
  intro request hosted unbilled admitted
  obtain ⟨session, opened⟩ := admitted
  have billed := (McpRuntimeHost.openSession_ok_iff.mp opened).2.1 hosted
  rw [unbilled] at billed
  contradiction

end TaskotterGateway.Gates
