import TaskotterGateway.Gates.BoundaryGates
import TaskotterGateway.Mcp.CredentialIsolation

/-! Credentials of other working groups. The tool policy compares the scope of a credential
with the working group of its call; the gates of models and sessions ask only whether the
credential names a secret.
-/

namespace TaskotterGateway.Gates

open Text Contracts RecordedChecks
open Provider Mcp

/-- A request at the gate that it is presented to. -/
inductive GateCall where
  | complete (request : ScopedModelRequest)
  | stream (request : ScopedModelRequest)
  | openSession (host : McpRuntimeHost) (request : ScopedMcpSessionRequest)
  | toolCall (request : McpToolCallPolicyRequest)

namespace GateCall

def workingGroupId : GateCall → String
  | .complete request | .stream request => request.workingGroupId
  | .openSession _ request => request.workingGroupId
  | .toolCall request => request.workingGroupId

def credentialRef : GateCall → Option ScopedCredentialRef
  | .complete request | .stream request => some request.credentialRef
  | .openSession _ request => request.credentialRef
  | .toolCall request => request.credentialRef

/-- The gate returns what was asked for; a tool call is not denied. -/
def Admitted : GateCall → Prop
  | .complete request => ∃ response, FakeProviderAdapter.complete request = .ok response
  | .stream request => ∃ frames, FakeProviderAdapter.stream request = .ok frames
  | .openSession host request => ∃ session, host.openSession request = .ok session
  | .toolCall request => (evaluateToolCallPolicy request).effect ≠ .denied

/-- A credential that is presented belongs to the working group of the request. -/
def InScope (call : GateCall) : Prop :=
  ∀ credential ∈ call.credentialRef,
    credentialScopeMatchesWorkingGroup credential.scope call.workingGroupId = true

/-- The gate has other grounds to refuse the request. -/
def RefusedAnyway : GateCall → Prop
  | .complete request =>
      ¬ WithinBoundary request.policy (some request.credentialRef)
      ∨ triggersRateLimit request = true
  | .stream request => ¬ WithinBoundary request.policy (some request.credentialRef)
  | .openSession host request =>
      ¬ WithinBoundary request.policy request.credentialRef
      ∨ request.hostingMode = .gatewayHosted
        ∧ host.featureFlags.hostedMcpBillingEnabled = false
  | .toolCall request => ¬ request.Authorized

/-- A gate admits exactly what it has no other grounds to refuse; the scope of a credential
is among the grounds of the tool policy only.
-/
theorem admitted_iff (call : GateCall) : call.Admitted ↔ ¬ call.RefusedAnyway := by
  cases call with
  | complete request =>
      simp only [Admitted, RefusedAnyway, not_or, not_not,
        ← ScopedModelRequest.validateBoundary_ok_iff]
      constructor
      · rintro ⟨response, answered⟩
        have boundary := boundary_of_completed answered
        refine ⟨boundary, ?_⟩
        intro asked
        rw [complete_of_boundary boundary, if_pos asked] at answered
        contradiction
      · rintro ⟨boundary, unasked⟩
        exact ⟨fakeResponse request, by rw [complete_of_boundary boundary, if_neg unasked]⟩
  | stream request =>
      simp only [Admitted, RefusedAnyway, not_not,
        ← ScopedModelRequest.validateBoundary_ok_iff]
      constructor
      · rintro ⟨frames, streamed⟩
        exact boundary_of_streamed streamed
      · intro boundary
        exact ⟨_, stream_of_boundary boundary⟩
  | openSession host request =>
      simp only [Admitted, RefusedAnyway, not_or, not_not, not_and, Bool.not_eq_false,
        McpRuntimeHost.openSession_ok_iff, exists_and_left, exists_eq', and_true]
  | toolCall request =>
      simp only [Admitted, RefusedAnyway, not_not, evaluateToolCallPolicy_ne_denied_iff]

end GateCall

/-- What it takes for a gate to admit no foreign credential: the tool policy sees to it, and
elsewhere the request must be in scope or be refused on other grounds.
-/
def GateCall.ScopeKept : GateCall → Prop
  | .toolCall _ => True
  | call => call.InScope ∨ call.RefusedAnyway

/-- A gate admits a request only with a credential of its working group exactly if it is the
tool policy, or the credential is in scope, or the request is refused on other grounds.
-/
theorem admitted_inScope_iff (call : GateCall)
    : (call.Admitted → call.InScope) ↔ call.ScopeKept := by
  have decided (kept : call.ScopeKept ↔ call.InScope ∨ call.RefusedAnyway)
      : (call.Admitted → call.InScope) ↔ call.ScopeKept := by
    rw [kept, call.admitted_iff, or_iff_not_imp_right]
  cases call with
  | complete request => exact decided Iff.rfl
  | stream request => exact decided Iff.rfl
  | openSession host request => exact decided Iff.rfl
  | toolCall request =>
      refine iff_of_true ?_ trivial
      intro permitted credential presented
      exact credentialScopeMatchesWorkingGroup_iff.mpr
        ((authorized_of_ne_denied permitted).presented_scope presented)

/-- A greeting under the credential of another working group. -/
def foreignRequest : ScopedModelRequest :=
  {
    greetingRequest with
    credentialRef := { greetingRequest.credentialRef with scope := "wg_other/provider" }
  }

/-- Not every gate asks for the scope: the foreign credential is admitted for a completion. -/
theorem not_admitted_inScope : ¬ ∀ call : GateCall, call.Admitted → call.InScope := by
  intro assumed
  have boundary : foreignRequest.validateBoundary = .ok () := by
    decide +kernel
  have admitted : (GateCall.complete foreignRequest).Admitted :=
    ⟨_, complete_of_unasked boundary (by decide +kernel)⟩
  have inScope := assumed (.complete foreignRequest) admitted foreignRequest.credentialRef rfl
  have foreign : credentialScopeMatchesWorkingGroup foreignRequest.credentialRef.scope
      foreignRequest.workingGroupId = false := by
    decide +kernel
  rw [GateCall.workingGroupId, foreign] at inScope
  contradiction

end TaskotterGateway.Gates
