import TaskotterGateway.Relay.Refusals

/-! What the answer to a relay request tells of its messages. The policy engine is not asked
about them, and the stub adapter only asks whether they are over a quota: the whole answer,
with its event, tells which quota that is, and nothing else of what is written in them.
-/

namespace TaskotterGateway.Relay

open Text GuardCascade

/-- A gateway over the stub adapter, under any policy engine. -/
def stubState (policy : PolicyEngine) : GatewayState where
  providers := { stub := stubProviderAdapter }
  policy

/-- The same request with other messages. -/
def AiRelayRequest.saying (payload : AiRelayRequest) (messages : List ChatMessage)
    : AiRelayRequest :=
  { payload with messages }

/-- The quota that messages are over: the simulated one that they ask for, or else the number
of tokens that was allowed.
-/
def overQuota (maxTokens : Option UInt64) (messages : List ChatMessage)
    : Option StubRefusal :=
  if messages.any (fun message => contains message.content "simulate:mid_stream_quota") then
    some .midStreamQuota
  else if maxTokens.any
      (fun maxTokens => decide (maxTokens.toNat < promptTokens messages)) then
    some .tokenQuota
  else
    none

/-- The refusal of an allowed request that is not timed out is about a quota of its messages. -/
theorem firstRefusal_stubGuards_eq (request : NormalizedProviderRequest)
    (decision : PolicyDecision)
    : firstRefusal stubGuards (request, decision)
      = if !decision.allowed then
          some .denied
        else if request.timeoutMs == some 0 then
          some .timedOut
        else
          overQuota decision.maxTokens request.messages :=
  rfl

/-- Drawing is all that the stub does to the source, and it draws exactly for an answer. -/
theorem stubProviderAdapter_source (request : NormalizedProviderRequest)
    (decision : PolicyDecision) (source : UuidSource)
    : ((stubProviderAdapter request decision).run source).2
      = if (firstRefusal stubGuards (request, decision)).isNone then
          (Uuid.newV4.run source).2
        else
          source := by
  rw [firstRefusal_stubGuards_eq, overQuota]
  unfold stubProviderAdapter
  split_ifs <;> simp_all
  all_goals rfl

section Runs

variable (policy : PolicyEngine)

/-- What the stub's cascade answers to a request under the engine's decision. -/
def AiRelayRequest.refusal (payload : AiRelayRequest) : Option StubRefusal :=
  firstRefusal stubGuards (payload.normalized, policy payload.policyCheck)

/-- An attempt over the stub draws exactly for an answer. -/
theorem attempt_source_stub (payload : AiRelayRequest) (world : World)
    : ((attempt (stubState policy) payload).run world).2.source
      = if (payload.refusal policy).isNone then
          (Uuid.newV4.run world.source).2
        else
          world.source := by
  cases allowed : (policy payload.policyCheck).allowed with
  | false =>
      have denied : payload.refusal policy = some .denied := by
        rw [AiRelayRequest.refusal, firstRefusal_stubGuards_eq, allowed]
        rfl
      rw [attempt_run_denied allowed, denied]
      rfl
  | true =>
      rw [attempt_run_allowed allowed]
      exact stubProviderAdapter_source payload.normalized (policy payload.policyCheck)
        world.source

/-- The refusal can be told from the outcome, whatever else differs. -/
theorem refusal_of_outcome {left right : NormalizedProviderRequest}
    {first second : PolicyDecision} {leftId rightId : Uuid} {one other : Option StubRefusal}
    {event next : UsageAuditEventV1}
    (same : withAccount (stubAnswer left first leftId one) event
      = withAccount (stubAnswer right second rightId other) next)
    : one = other := by
  rcases one with _ | one <;> rcases other with _ | other
  · rfl
  · cases other <;> simp [stubAnswer, withAccount] at same
  · cases one <;> simp [stubAnswer, withAccount] at same
  · cases one <;> cases other <;>
      first
      | rfl
      | simp [stubAnswer, renderStubRefusal, withAccount, GatewayError.withUsageEvent,
          GatewayError.policyDeniedError, GatewayError.timeoutError,
          GatewayError.quotaExceededError] at same

/-- Two requests with the same refusal, that differ in their messages only, come to the same
outcome and draw the same identifiers.
-/
theorem relayAiRequest_saying {payload : AiRelayRequest} {messages : List ChatMessage}
    (same : payload.refusal policy = (payload.saying messages).refusal policy) (world : World)
    : ((relayAiRequest (stubState policy) payload).run world).1
        = ((relayAiRequest (stubState policy) (payload.saying messages)).run world).1
      ∧ ((relayAiRequest (stubState policy) payload).run world).2.source
        = ((relayAiRequest (stubState policy) (payload.saying messages)).run world).2.source := by
  have results
      : ((attempt (stubState policy) payload).run world).1
        = ((attempt (stubState policy) (payload.saying messages)).run world).1 := by
    have first := attempt_run_stub policy payload world
    have second := attempt_run_stub policy (payload.saying messages) world
    change _ = stubAnswer _ _ _ (payload.refusal policy) at first
    change _ = stubAnswer _ _ _ ((payload.saying messages).refusal policy) at second
    rw [← same] at second
    refine first.trans (Eq.trans ?_ second.symm)
    cases payload.refusal policy with
    | none => rfl
    | some refusal => cases refusal <;> rfl
  have sources
      : ((attempt (stubState policy) payload).run world).2.source
        = ((attempt (stubState policy) (payload.saying messages)).run world).2.source := by
    rw [attempt_source_stub, attempt_source_stub, same]
  rw [relayAiRequest_run, relayAiRequest_run, run_drawing, run_drawing, ← results, ← sources]
  exact ⟨rfl, rfl⟩

/-- Other messages leave the refusal as it is exactly when they are not looked at, or are
over the same quota.
-/
theorem refusal_saying_iff {payload : AiRelayRequest} {messages : List ChatMessage}
    : payload.refusal policy = (payload.saying messages).refusal policy
      ↔ (policy payload.policyCheck).allowed = false
        ∨ payload.timeoutMs = some 0
        ∨ overQuota (policy payload.policyCheck).maxTokens payload.messages
          = overQuota (policy payload.policyCheck).maxTokens messages := by
  have first := firstRefusal_stubGuards_eq payload.normalized (policy payload.policyCheck)
  have second := firstRefusal_stubGuards_eq (payload.saying messages).normalized
    (policy payload.policyCheck)
  change payload.refusal policy = _ at first
  change (payload.saying messages).refusal policy = _ at second
  rw [first, second]
  change (if _ then _ else if payload.timeoutMs == some 0 then _ else overQuota _ payload.messages)
    = (if _ then _ else if payload.timeoutMs == some 0 then _ else overQuota _ messages) ↔ _
  cases (policy payload.policyCheck).allowed with
  | false => simp
  | true =>
      by_cases timedOut : payload.timeoutMs = some 0
      · simp [timedOut]
      · simp [timedOut]

/-- The refusal can be told from what is answered. -/
theorem refusal_of_relayAiRequest {payload : AiRelayRequest} {messages : List ChatMessage}
    {world : World}
    (same
      : ((relayAiRequest (stubState policy) payload).run world).1
        = ((relayAiRequest (stubState policy) (payload.saying messages)).run world).1)
    : payload.refusal policy = (payload.saying messages).refusal policy := by
  obtain ⟨event, one⟩ := relayAiRequest_outcome (stubState policy) payload world
  obtain ⟨next, other⟩ :=
    relayAiRequest_outcome (stubState policy) (payload.saying messages) world
  have left := attempt_run_stub policy payload world
  have right := attempt_run_stub policy (payload.saying messages) world
  change ((attempt (stubState policy) payload).run world).1 = _ at left
  change ((attempt (stubState policy) (payload.saying messages)).run world).1 = _ at right
  rw [left] at one
  rw [right] at other
  exact refusal_of_outcome (one.symm.trans (same.trans other))

/-- Whatever the policy engine, two requests that differ in their messages only come to the
same outcome, event and all, exactly when the engine denies them, or they time out, or their
messages are over the same quota, if any. The same outcome leaves the same identifiers.
-/
theorem relayAiRequest_hides_prompts (payload : AiRelayRequest) (messages : List ChatMessage)
    (world : World)
    : let decision := policy payload.policyCheck
      let first := (relayAiRequest (stubState policy) payload).run world
      let second := (relayAiRequest (stubState policy) (payload.saying messages)).run world
      (first.1 = second.1
        ↔ decision.allowed = false
          ∨ payload.timeoutMs = some 0
          ∨ overQuota decision.maxTokens payload.messages
            = overQuota decision.maxTokens messages)
      ∧ (first.1 = second.1 → first.2.source = second.2.source) := by
  intro decision first second
  refine ⟨⟨?_, ?_⟩, ?_⟩
  · intro same
    exact (refusal_saying_iff policy).mp (refusal_of_relayAiRequest policy same)
  · intro agree
    exact (relayAiRequest_saying policy ((refusal_saying_iff policy).mpr agree) world).1
  · intro same
    exact (relayAiRequest_saying policy (refusal_of_relayAiRequest policy same) world).2

end Runs

/-- The bound request comes to the same with another prompt, but not with one that asks for the
simulated quota.
-/
theorem relayAiRequest_hides_prompts_bound
    : let answered (prompt : String) :=
        ((relayAiRequest (stubState staticPolicyEngine)
          (boundRelayPayload.saying [{ role := "user", content := prompt }])).run .fresh).1
      let before := ((relayAiRequest (stubState staticPolicyEngine) boundRelayPayload).run
        .fresh).1
      before = answered "the launch codes"
      ∧ before ≠ answered "simulate:mid_stream_quota" := by
  intro answered before
  have hides (prompt : String) :=
    relayAiRequest_hides_prompts staticPolicyEngine boundRelayPayload
      [{ role := "user", content := prompt }] .fresh
  constructor
  · exact (hides "the launch codes").1.mpr (.inr (.inr (by decide +kernel)))
  · intro same
    have agree := (hides "simulate:mid_stream_quota").1.mp same
    revert agree
    decide +kernel

end TaskotterGateway.Relay
