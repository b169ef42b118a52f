import TaskotterGateway.Relay.Refusals

/-! The verdict of the shipped gateway on every relay request: refused by the static engine,
timed out, over quota, or relayed. The engine's verdict comes first, and the stub adapter's
three refusals follow in their order.
-/

namespace TaskotterGateway.Relay

open Text GuardCascade AllowList

-----------------------------------------------------------------------------------------
-- What is refused
-----------------------------------------------------------------------------------------

/-- The grounds on which the shipped gateway denies a request. A list of its provider that
names nothing binds nothing, and a value that is missing is not on any list.
-/
inductive AiRelayRequest.Refused (payload : AiRelayRequest) : Prop where
  | user (denied : payload.subject.userId = "denied")
  | provider (disabled : ∃ rest, payload.provider.providerId = "disabled_" ++ rest)
  | workingGroup (bound : payload.provider.allowedWorkingGroupIds ≠ [])
    (outside : payload.subject.workingGroupId ∉ payload.provider.allowedWorkingGroupIds)
  | agent (bound : payload.provider.allowedAgentIds ≠ [])
    (outside
      : ∀ agentId ∈ payload.provider.allowedAgentIds, payload.subject.agentId ≠ some agentId)
  | workflow (bound : payload.provider.allowedWorkflowIds ≠ [])
    (outside
      : ∀ workflowId ∈ payload.provider.allowedWorkflowIds,
          payload.subject.workflowId ≠ some workflowId)
  | model (bound : payload.provider.allowedModels ≠ [])
    (unlisted : payload.provider.model ∉ payload.provider.allowedModels)
  | dataBoundary (hidden : payload.provider.dataBoundaryId ≠ payload.subject.dataBoundaryId)
  | tokens (exceeded : ∃ tokens, payload.requestedMaxTokens = some tokens ∧ 8192 < tokens)
  | cost (exceeded : ∃ cost, payload.estimatedCostMicroUsd = some cost ∧ 50000 < cost)

/-- These are the grounds of the static engine on the check that is made of the request, one
by one.
-/
theorem AiRelayRequest.refused_iff {payload : AiRelayRequest}
    : payload.Refused ↔ payload.policyCheck.Refused := by
  constructor
  · intro refused
    cases refused with
    | user denied => exact .user denied
    | provider disabled => exact .provider disabled
    | workingGroup bound outside =>
        refine .workingGroup (not_admits_iff.mpr ⟨bound, ?_⟩)
        rintro _ listed ⟨rfl⟩
        exact outside listed
    | agent bound outside => exact .agent (not_admits_iff.mpr ⟨bound, outside⟩)
    | workflow bound outside => exact .workflow (not_admits_iff.mpr ⟨bound, outside⟩)
    | model bound unlisted =>
        refine .model (not_admits_iff.mpr ⟨bound, ?_⟩)
        rintro _ listed ⟨rfl⟩
        exact unlisted listed
    | dataBoundary hidden => exact .dataBoundary hidden
    | tokens exceeded => exact .tokens exceeded
    | cost exceeded => exact .cost exceeded
  · intro refused
    cases refused with
    | user denied => exact .user denied
    | provider disabled => exact .provider disabled
    | workingGroup outside =>
        obtain ⟨bound, outside⟩ := not_admits_iff.mp outside
        exact .workingGroup bound (fun listed => outside _ listed rfl)
    | agent unbound =>
        obtain ⟨bound, outside⟩ := not_admits_iff.mp unbound
        exact .agent bound outside
    | workflow unbound =>
        obtain ⟨bound, outside⟩ := not_admits_iff.mp unbound
        exact .workflow bound outside
    | model unlisted =>
        obtain ⟨bound, unlisted⟩ := not_admits_iff.mp unlisted
        exact .model bound (fun listed => unlisted _ listed rfl)
    | dataBoundary hidden => exact .dataBoundary hidden
    | tokens exceeded => exact .tokens exceeded
    | cost exceeded => exact .cost exceeded

/-- The shipped engine allows exactly the requests that are not refused. -/
theorem AiRelayRequest.allowed_iff {payload : AiRelayRequest}
    : (staticPolicyEngine payload.policyCheck).allowed = true ↔ ¬ payload.Refused := by
  rw [AiRelayRequest.refused_iff]
  exact staticPolicyEngine_allowed_iff

/-- A message asks for the simulated quota failure, or the messages have more words than the
static engine allows tokens.
-/
def AiRelayRequest.OverQuota (payload : AiRelayRequest) : Prop :=
  (∃ message ∈ payload.messages,
    ∃ before after, message.content = before ++ "simulate:mid_stream_quota" ++ after)
  ∨ 8192
    < (payload.messages.map (fun message => (splitWhitespace message.content).length)).sum

/-- Under the static engine's token limit, these are the grounds of the two quota refusals. -/
theorem AiRelayRequest.overQuota_iff {payload : AiRelayRequest}
    : payload.OverQuota
      ↔ StubRefusal.midStreamQuota.Grounded payload.normalized
            (staticPolicyEngine payload.policyCheck)
        ∨ StubRefusal.tokenQuota.Grounded payload.normalized
            (staticPolicyEngine payload.policyCheck) := by
  refine or_congr ?_ ?_
  · simp only [StubRefusal.Grounded, contains_iff_exists, AiRelayRequest.normalized]
  constructor
  · intro exceeded
    exact ⟨8192, rfl, exceeded⟩
  · intro grounded
    obtain ⟨maxTokens, same, exceeded⟩ := grounded
    cases same
    exact exceeded

-----------------------------------------------------------------------------------------
-- What is answered
-----------------------------------------------------------------------------------------

/-- The status that the stub's cascade is answered with. -/
def stubStatus : Option StubRefusal → Nat
  | none => 200
  | some .denied => 403
  | some .timedOut => 504
  | some .midStreamQuota | some .tokenQuota => 402

theorem resultStatus_stubAnswer (request : NormalizedProviderRequest)
    (decision : PolicyDecision) (relayId : Uuid) (answer : Option StubRefusal)
    : resultStatus (stubAnswer request decision relayId answer) = stubStatus answer := by
  cases answer with
  | none => rfl
  | some refusal => cases refusal <;> rfl

/-- What the stub's cascade answers to a request under the static engine's decision. -/
def AiRelayRequest.appAnswer (payload : AiRelayRequest) : Option StubRefusal :=
  firstRefusal stubGuards (payload.normalized, staticPolicyEngine payload.policyCheck)

theorem relayAiRequest_appState_status (payload : AiRelayRequest) (world : World)
    : (intoResponse ((relayAiRequest appState payload).run world).1).status
      = stubStatus payload.appAnswer := by
  rw [relayAiRequest_status]
  exact (congrArg resultStatus (attempt_run_stub staticPolicyEngine payload world)).trans
    (resultStatus_stubAnswer _ _ _ _)

variable {payload : AiRelayRequest}

theorem appAnswer_of_refused (refused : payload.Refused)
    : payload.appAnswer = some .denied := by
  have denied : (staticPolicyEngine payload.policyCheck).allowed = false := by
    rw [← Bool.not_eq_true, AiRelayRequest.allowed_iff]
    exact not_not_intro refused
  simp [AiRelayRequest.appAnswer, stubGuards, denied]

theorem appAnswer_of_timedOut (granted : ¬ payload.Refused)
    (timedOut : payload.timeoutMs = some 0)
    : payload.appAnswer = some .timedOut := by
  have allowed := AiRelayRequest.allowed_iff.mpr granted
  simp [AiRelayRequest.appAnswer, stubGuards, AiRelayRequest.normalized, allowed, timedOut]

/-- Over quota, either quota guard may answer; both are answered with the same status. -/
theorem stubStatus_of_overQuota (granted : ¬ payload.Refused)
    (timely : payload.timeoutMs ≠ some 0) (overQuota : payload.OverQuota)
    : stubStatus payload.appAnswer = 402 := by
  have allowed := AiRelayRequest.allowed_iff.mpr granted
  cases answer : payload.appAnswer with
  | none =>
      have groundless := firstRefusal_stubGuards_eq_none_iff.mp answer
      rcases AiRelayRequest.overQuota_iff.mp overQuota with midStream | tokens
      · exact absurd midStream (groundless .midStreamQuota)
      · exact absurd tokens (groundless .tokenQuota)
  | some refusal =>
      have grounded := grounded_of_firstRefusal answer
      cases refusal with
      | denied => simp [StubRefusal.Grounded, allowed] at grounded
      | timedOut => exact absurd grounded timely
      | midStreamQuota => rfl
      | tokenQuota => rfl

theorem appAnswer_of_within (granted : ¬ payload.Refused)
    (timely : payload.timeoutMs ≠ some 0) (within : ¬ payload.OverQuota)
    : payload.appAnswer = none := by
  have allowed := AiRelayRequest.allowed_iff.mpr granted
  rw [AiRelayRequest.overQuota_iff, not_or] at within
  refine firstRefusal_stubGuards_eq_none_iff.mpr ?_
  intro refusal
  cases refusal with
  | denied => simp [StubRefusal.Grounded, allowed]
  | timedOut => exact timely
  | midStreamQuota => exact within.1
  | tokenQuota => exact within.2

/-- A request that the stub does not refuse is answered with its own provider kind, model
and stream flag.
-/
theorem relayAiRequest_appState_relayed (relayed : payload.appAnswer = none) (world : World)
    : ∃ response,
        ((relayAiRequest appState payload).run world).1 = .ok response
        ∧ response.response.providerKind = payload.provider.kind
        ∧ response.response.model = payload.provider.model
        ∧ response.response.streamPlaceholder = payload.stream := by
  obtain ⟨event, outcome⟩ := relayAiRequest_outcome appState payload world
  have attempted := attempt_run_stub staticPolicyEngine payload world
  change ((attempt appState payload).run world).1
    = stubAnswer _ _ _ payload.appAnswer at attempted
  rw [outcome, attempted, relayed]
  exact ⟨_, rfl, rfl, rfl, rfl⟩

/-- The shipped gateway answers 403 exactly to what its engine refuses, then 504 exactly to a
zero timeout, then 402 exactly over quota, and relays everything else as it was asked.
-/
theorem relayAiRequest_verdict (payload : AiRelayRequest) (world : World)
    : let outcome := ((relayAiRequest appState payload).run world).1
      let status := (intoResponse outcome).status
      (status = 403 ↔ payload.Refused)
      ∧ (status = 504 ↔ ¬ payload.Refused ∧ payload.timeoutMs = some 0)
      ∧ (status = 402
          ↔ ¬ payload.Refused
            ∧ payload.timeoutMs ≠ some 0
            ∧ payload.OverQuota)
      ∧ (status = 200
          ↔ ¬ payload.Refused
            ∧ payload.timeoutMs ≠ some 0
            ∧ ¬ payload.OverQuota)
      ∧ (status = 403 ∨ status = 504 ∨ status = 402 ∨ status = 200)
      ∧ (status = 200
          → ∃ response,
              outcome = .ok response
              ∧ response.response.providerKind = payload.provider.kind
              ∧ response.response.model = payload.provider.model
              ∧ response.response.streamPlaceholder = payload.stream) := by
  intro outcome status
  have answered : status = stubStatus payload.appAnswer :=
    relayAiRequest_appState_status payload world
  by_cases refused : payload.Refused
  · rw [appAnswer_of_refused refused] at answered
    simp [answered, stubStatus, refused]
  by_cases timedOut : payload.timeoutMs = some 0
  · rw [appAnswer_of_timedOut refused timedOut] at answered
    simp [answered, stubStatus, refused, timedOut]
  by_cases overQuota : payload.OverQuota
  · rw [stubStatus_of_overQuota refused timedOut overQuota] at answered
    simp [answered, refused, timedOut, overQuota]
  · have relayed := appAnswer_of_within refused timedOut overQuota
    rw [relayed] at answered
    simpa [answered, stubStatus, refused, timedOut, overQuota]
      using relayAiRequest_appState_relayed relayed world

end TaskotterGateway.Relay
