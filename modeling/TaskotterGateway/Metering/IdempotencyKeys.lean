import TaskotterGateway.Fallback.Admission
import TaskotterGateway.Mcp.PolicyCascade
import TaskotterGateway.Mcp.RuntimeHost
import TaskotterGateway.Provider.FakeAdapter
import TaskotterGateway.Relay.Identifiers
import TaskotterGateway.Relay.Usage
import TaskotterGateway.Simulation.Implementation

/-! Which operation an idempotency key stands for. Every usage event of the gateway is an
emission of one of five emitters; its key is spelled from the operation that it charges, and
three kinds of operation spell their keys alike.
-/

namespace TaskotterGateway.Metering

open Contracts
open Relay (Uuid UuidSource PolicySubject ProviderRef UsageAttemptStatus UsageAuditEventV1)
open Mcp (McpRuntimeHost McpToolCallPolicyRequest evaluateToolCallPolicy)
open Provider
open Fallback (FallbackPolicyRequest FallbackPolicyFailure validateFallback)

/-- The kinds of operation whose identifier is all of their key but its prefix. -/
inductive RecordKind where
  | providerRequest
  | mcpSession
  | toolCall
  deriving DecidableEq, Repr

/-- What a usage event charges. -/
inductive Operation where
  | relay (requestId : Uuid)
  | recorded (kind : RecordKind) (id : String)
  | fallbackDenial (requestId : String)
  deriving DecidableEq, Repr

/-- The key that an operation is charged under. -/
def Operation.key : Operation → String
  | .relay requestId => "usage:" ++ requestId.toString
  | .recorded _ id => "usage_" ++ id
  | .fallbackDenial requestId => "usage_" ++ requestId ++ "_fallback_denied"

/-- Two operations of different kinds that spell one key: recorded operations under the same
identifier, or a recorded operation named after the denial of a fallback.
-/
def Operation.Collides : Operation → Operation → Prop
  | .recorded kind id, .recorded other otherId => kind ≠ other ∧ id = otherId
  | .recorded _ id, .fallbackDenial requestId => id = requestId ++ "_fallback_denied"
  | .fallbackDenial requestId, .recorded _ id => id = requestId ++ "_fallback_denied"
  | _, _ => False

/-- Operations that collide are not the same. -/
theorem Operation.Collides.ne {left right : Operation} (collides : left.Collides right)
    : left ≠ right := by
  intro same
  subst same
  cases left with
  | relay requestId => exact collides
  | recorded kind id => exact collides.1 rfl
  | fallbackDenial requestId => exact collides

/-- The keys of relays are apart from all others: the prefixes differ in their last letter. -/
theorem relayKey_ne (requestId id : String) : "usage:" ++ requestId ≠ "usage_" ++ id := by
  intro same
  have characters := congrArg String.toList same
  simp at characters

/-- Only the same operation and operations that collide share a key. Witness: the key of an
operation gives back its identifier once the kinds are known, by cases on both.
-/
theorem Operation.key_eq_iff {left right : Operation}
    : left.key = right.key ↔ left = right ∨ left.Collides right := by
  cases left with
  | relay requestId =>
      cases right with
      | relay otherId =>
          simp only [key, Collides, String.append_right_inj, Operation.relay.injEq, or_false]
          exact Relay.Uuid.toString_injective.eq_iff
      | recorded kind id => simp [key, Collides, relayKey_ne]
      | fallbackDenial otherId => simp [key, Collides, String.append_assoc, relayKey_ne]
  | recorded kind id =>
      cases right with
      | relay requestId => simp [key, Collides, (relayKey_ne _ _).symm]
      | recorded other otherId =>
          simp only [key, Collides, String.append_right_inj, Operation.recorded.injEq]
          by_cases sameKind : kind = other <;> simp [sameKind]
      | fallbackDenial requestId =>
          simp [key, Collides, String.append_assoc, String.append_right_inj]
  | fallbackDenial requestId =>
      cases right with
      | relay otherId => simp [key, Collides, String.append_assoc, (relayKey_ne _ _).symm]
      | recorded kind id =>
          simp only [key, Collides, String.append_assoc, String.append_right_inj, reduceCtorEq,
            false_or]
          exact eq_comm
      | fallbackDenial otherId =>
          simp [key, Collides, String.append_assoc, String.append_right_inj,
            String.append_left_inj]

/-- A usage event that the gateway emits, by its emitter and all of its inputs. The denial
of a fallback is emitted only with a failure of its validation.
-/
inductive Emission where
  | relay (requestId : Uuid) (subject : PolicySubject) (provider : ProviderRef)
    (decisionId : String) (status : UsageAttemptStatus) (source : UuidSource)
  | providerRequest (request : ScopedModelRequest) (response : Option ModelResponse)
    (error : Option NormalizedError)
  | mcpSession (host : McpRuntimeHost) (request : ScopedMcpSessionRequest)
  | toolCall (request : McpToolCallPolicyRequest)
  | fallbackDenial (request : FallbackPolicyRequest) (failure : FallbackPolicyFailure)
    (refused : validateFallback request = .error failure)

namespace Emission

/-- The event that is emitted. -/
def event : Emission → UsageEvent
  | .relay requestId subject provider decisionId status source =>
      let emitted :=
        (UsageAuditEventV1.new requestId subject provider decisionId status).run source
      emitted.1.toUsageEvent
  | .providerRequest request response error =>
      FakeProviderAdapter.usageEvent request response error
  | .mcpSession host request => host.usageEvent request
  | .toolCall request => (evaluateToolCallPolicy request).usageEvent
  | .fallbackDenial _ failure _ => failure.usageEvent

/-- The operation that the event charges. -/
def operation : Emission → Operation
  | .relay requestId _ _ _ _ _ => .relay requestId
  | .providerRequest request _ _ => .recorded .providerRequest request.requestId
  | .mcpSession _ request => .recorded .mcpSession request.sessionId
  | .toolCall request => .recorded .toolCall request.callId
  | .fallbackDenial request _ _ => .fallbackDenial request.requestId

/-- Every event carries the key of its operation, by cases on the emitter. -/
theorem event_idempotencyKey (emission : Emission)
    : emission.event.idempotencyKey = emission.operation.key := by
  cases emission with
  | relay requestId subject provider decisionId status source => rfl
  | providerRequest request response error => rfl
  | mcpSession host request => rfl
  | toolCall request =>
      obtain ⟨effect, reasonCode, normalizedError, answer⟩ :=
        Mcp.evaluateToolCallPolicy_eq_policyOutcome request
      rw [event, answer]
      rfl
  | fallbackDenial request failure refused =>
      obtain ⟨refusal, _, rfl⟩ := Fallback.exists_refusal_of_validateFallback_error refused
      rfl

/-- A key identifies the operation that it charges, in kind and identifier, exactly against
the operations that do not collide with it.
-/
theorem key_identifies_iff (left right : Emission)
    : (left.event.idempotencyKey = right.event.idempotencyKey
        → left.operation = right.operation)
      ↔ ¬ left.operation.Collides right.operation := by
  rw [left.event_idempotencyKey, right.event_idempotencyKey, Operation.key_eq_iff]
  constructor
  · intro identifies collides
    exact collides.ne (identifies (Or.inr collides))
  · intro apart shared
    exact shared.resolve_right apart

/-- Deduplicating by key keeps one charge for each operation exactly if no two operations of
the run collide: the keys are the image of the operations.
-/
theorem distinct_keys_iff (emissions : List Emission)
    : (emissions.map (fun emission => emission.event.idempotencyKey)).toFinset.card
        = (emissions.map operation).toFinset.card
      ↔ ∀ left ∈ emissions, ∀ right ∈ emissions,
          ¬ left.operation.Collides right.operation := by
  have keys : (emissions.map (fun emission => emission.event.idempotencyKey)).toFinset
      = (emissions.map operation).toFinset.image Operation.key := by
    ext key
    simp [event_idempotencyKey]
  rw [keys, Finset.card_image_iff]
  constructor
  · intro injective left first right second collides
    have shared := Operation.key_eq_iff.mpr (Or.inr collides)
    refine collides.ne (injective ?_ ?_ shared)
    · simpa using ⟨left, first, rfl⟩
    · simpa using ⟨right, second, rfl⟩
  · intro apart left first right second shared
    obtain ⟨emission, present, rfl⟩ := List.mem_map.mp (List.mem_toFinset.mp first)
    obtain ⟨other, beside, rfl⟩ := List.mem_map.mp (List.mem_toFinset.mp second)
    exact (Operation.key_eq_iff.mp shared).resolve_right (apart emission present other beside)

/-- The usage of a model request. -/
def modelCharge : Emission :=
  .providerRequest Simulation.simulationRequest none none

/-- The usage of a tool session with the identifier of that request. -/
def sessionCharge : Emission :=
  .mcpSession ⟨"host_sim", ⟨false, false⟩⟩ (Simulation.simulationSession .runnerHosted []).request

/-- A key does not always identify its operation: a model request and a tool session with
the same identifier are charged under one key.
-/
theorem not_key_identifies
    : ¬ ∀ left right : Emission,
          left.event.idempotencyKey = right.event.idempotencyKey
          → left.operation = right.operation := by
  intro identifies
  have same := identifies modelCharge sessionCharge rfl
  exact absurd same (by decide)

end Emission

end TaskotterGateway.Metering
