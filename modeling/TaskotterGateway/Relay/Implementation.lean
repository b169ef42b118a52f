import TaskotterGateway.Foundation.Text
import TaskotterGateway.Relay.Usage

/-! The relay endpoint as the gateway computes it: the static policy engine (`policy.rs`), the
stub provider adapter behind its router (`adapters.rs`), and the handler with the answer it
gives over HTTP (`api.rs`).
-/

namespace TaskotterGateway.Relay

open Text

-----------------------------------------------------------------------------------------
-- Errors
-----------------------------------------------------------------------------------------

namespace GatewayError

/-- `GatewayError::policy_denied`, as against the variant. -/
def policyDeniedError (reason : Option String) : GatewayError :=
  .policyDenied (reason.getD "request denied by policy") none

/-- `GatewayError::timeout`, as against the variant. -/
def timeoutError (message : String) (timeoutMs : Option UInt64) : GatewayError :=
  .timeout message timeoutMs none

/-- `GatewayError::quota_exceeded`, as against the variant. -/
def quotaExceededError (message : String) : GatewayError :=
  .quotaExceeded message none

def usageStatus : GatewayError → UsageAttemptStatus
  | .policyDenied _ _ => .denied
  | .timeout _ _ _ => .timeout
  | .quotaExceeded _ _ => .quotaDenied

def withUsageEvent (error : GatewayError) (usageAuditEvent : UsageAuditEventV1)
    : GatewayError :=
  match error with
  | .policyDenied message _ => .policyDenied message (some usageAuditEvent)
  | .timeout message timeoutMs _ => .timeout message timeoutMs (some usageAuditEvent)
  | .quotaExceeded message _ => .quotaExceeded message (some usageAuditEvent)

end GatewayError

-----------------------------------------------------------------------------------------
-- The policy engine
-----------------------------------------------------------------------------------------

/-- What the endpoint asks of a `PolicyEngine`. -/
abbrev PolicyEngine := PolicyCheck → PolicyDecision

def policyDenialReason (check : PolicyCheck) : Option String :=
  if check.subject.userId == "denied" || startsWith check.provider.providerId "disabled_" then
    some "request denied by gateway policy hook"
  else if !check.provider.allowedWorkingGroupIds.isEmpty
      && !check.provider.allowedWorkingGroupIds.contains check.subject.workingGroupId then
    some "provider not available to working group"
  else if !check.provider.allowedAgentIds.isEmpty
      && check.subject.agentId.all
          (fun agentId => !check.provider.allowedAgentIds.contains agentId) then
    some "provider not bound to agent"
  else if !check.provider.allowedWorkflowIds.isEmpty
      && check.subject.workflowId.all
          (fun workflowId => !check.provider.allowedWorkflowIds.contains workflowId) then
    some "provider not bound to workflow"
  else if !check.provider.allowedModels.isEmpty
      && !check.provider.allowedModels.contains check.provider.model then
    some "model not allowed for provider binding"
  else if check.provider.dataBoundaryId != check.subject.dataBoundaryId then
    some "provider data boundary is not visible to subject"
  else if check.requestedMaxTokens.any (fun tokens => decide (8192 < tokens)) then
    some "request exceeds token quota"
  else if check.estimatedCostMicroUsd.any (fun cost => decide (50000 < cost)) then
    some "request exceeds cost quota"
  else
    none

def staticPolicyEngine : PolicyEngine :=
  fun check =>
    let reason := policyDenialReason check
    let denied := reason.isSome
    {
      allowed := !denied
      decisionId := "local-policy:" ++ check.operation
      reason
      maxTokens := some 8192
      maxCostMicroUsd := some 50000
    }

-----------------------------------------------------------------------------------------
-- Provider adapters
-----------------------------------------------------------------------------------------

/-- What the router asks of a `ProviderAdapter`, which may draw identifiers. -/
abbrev ProviderAdapter :=
  NormalizedProviderRequest
  → PolicyDecision
  → StateM UuidSource (Except GatewayError ProviderResponse)

structure ProviderRouter where
  stub : ProviderAdapter

def ProviderRouter.route (router : ProviderRouter) (request : NormalizedProviderRequest)
    (decision : PolicyDecision)
    : StateM UuidSource (Except GatewayError ProviderResponse) :=
  router.stub request decision

/-- The words of all messages. The sum of the source cannot overflow, since every word takes
a byte of memory.
-/
def promptTokens (messages : List ChatMessage) : Nat :=
  (messages.map (fun message => (splitWhitespace message.content).length)).sum

def stubProviderAdapter : ProviderAdapter :=
  fun request decision => do
    if !decision.allowed then
      return .error (.policyDeniedError decision.reason)
    else if request.timeoutMs == some 0 then
      return .error (.timeoutError "provider relay timed out" request.timeoutMs)
    else if request.messages.any
        (fun message => contains message.content "simulate:mid_stream_quota") then
      return .error (.quotaExceededError "usage quota exceeded during provider stream")
    else if decision.maxTokens.any
        (fun maxTokens => decide (maxTokens.toNat < promptTokens request.messages)) then
      return .error (.quotaExceededError "provider request exceeds policy token quota")
    else
      let relayId ← Uuid.newV4
      return .ok {
        relayId
        providerKind := request.provider.kind
        model := request.provider.model
        outputText := "stub provider response"
        streamPlaceholder := request.stream
      }

-----------------------------------------------------------------------------------------
-- The endpoint
-----------------------------------------------------------------------------------------

structure GatewayState where
  providers : ProviderRouter
  policy : PolicyEngine

/-- A call that the endpoint makes on the policy engine or on the provider router. -/
inductive Call where
  | evaluate (check : PolicyCheck)
  | route (request : NormalizedProviderRequest) (decision : PolicyDecision)
  deriving DecidableEq, Repr

/-- What an attempt changes: the identifiers it draws, and the calls it has made, in order. -/
structure World where
  source : UuidSource
  calls : List Call

def World.called (world : World) (call : Call) : World :=
  { world with calls := world.calls ++ [call] }

/-- An action on the source of identifiers, as one that makes no call. -/
def drawing {α : Type} (action : StateM UuidSource α) : StateM World α :=
  fun world =>
    let drawn := action.run world.source
    (drawn.1, { world with source := drawn.2 })

def GatewayState.evaluate (state : GatewayState) (check : PolicyCheck)
    : StateM World PolicyDecision := do
  modify (fun world => world.called (.evaluate check))
  return state.policy check

def GatewayState.route (state : GatewayState) (request : NormalizedProviderRequest)
    (decision : PolicyDecision)
    : StateM World (Except GatewayError ProviderResponse) := do
  modify (fun world => world.called (.route request decision))
  drawing (state.providers.route request decision)

def AiRelayRequest.policyCheck (payload : AiRelayRequest) : PolicyCheck where
  subject := payload.subject
  provider := payload.provider
  operation := "ai.relay"
  requestedMaxTokens := payload.requestedMaxTokens
  estimatedCostMicroUsd := payload.estimatedCostMicroUsd

def AiRelayRequest.normalized (payload : AiRelayRequest) : NormalizedProviderRequest where
  requestId := payload.requestId
  provider := payload.provider
  messages := payload.messages
  stream := payload.stream
  timeoutMs := payload.timeoutMs

def relayAiRequest (state : GatewayState) (payload : AiRelayRequest)
    : StateM World (Except GatewayError AiRelayResponse) := do
  let decision ← state.evaluate payload.policyCheck
  if !decision.allowed then
    let usageAuditEvent ←
      drawing
        (UsageAuditEventV1.new payload.requestId payload.subject payload.provider
          decision.decisionId .denied)
    return .error
      ((GatewayError.policyDeniedError decision.reason).withUsageEvent usageAuditEvent)
  else
    match ← state.route payload.normalized decision with
    | .error error =>
        let usageAuditEvent ←
          drawing
            (UsageAuditEventV1.new payload.requestId payload.subject payload.provider
              decision.decisionId error.usageStatus)
        return .error (error.withUsageEvent usageAuditEvent)
    | .ok response =>
        let usageAuditEvent ←
          drawing
            (UsageAuditEventV1.new payload.requestId payload.subject payload.provider
              decision.decisionId .succeeded)
        return .ok { response, usageAuditEvent }

/-- The state that the shipped gateway serves with (`app` of `lib.rs`). -/
def appState : GatewayState where
  providers := { stub := stubProviderAdapter }
  policy := staticPolicyEngine

-----------------------------------------------------------------------------------------
-- The answer over HTTP
-----------------------------------------------------------------------------------------

structure ErrorShape where
  code : String
  message : String
  retryable : Bool
  timeoutMs : Option UInt64
  deriving DecidableEq, Repr

structure ErrorBody where
  error : ErrorShape
  usageAuditEvent : Option UsageAuditEventV1
  deriving DecidableEq, Repr

/-- A status code with the body sent under it. -/
structure Response (Body : Type) where
  status : Nat
  body : Body
  deriving DecidableEq, Repr

def GatewayError.intoResponse : GatewayError → Response ErrorBody
  | .policyDenied message usageAuditEvent => {
      status := 403
      body := {
        error := { code := "policy_denied", message, retryable := false, timeoutMs := none }
        usageAuditEvent
      }
    }
  | .timeout message timeoutMs usageAuditEvent => {
      status := 504
      body := {
        error := { code := "provider_timeout", message, retryable := true, timeoutMs }
        usageAuditEvent
      }
    }
  | .quotaExceeded message usageAuditEvent => {
      status := 402
      body := {
        error := { code := "quota_exceeded", message, retryable := false, timeoutMs := none }
        usageAuditEvent
      }
    }

/-- The response of a handler: a relayed answer goes out under status 200. -/
def intoResponse : Except GatewayError AiRelayResponse → Response (ErrorBody ⊕ AiRelayResponse)
  | .ok response => { status := 200, body := .inr response }
  | .error error =>
      { status := error.intoResponse.status, body := .inl error.intoResponse.body }

/-- A request of a bound agent to a bound provider, with an estimate of its cost. -/
def boundRelayPayload : AiRelayRequest where
  requestId := ⟨0x557⟩
  subject := {
    userId := "user_1"
    workingGroupId := "wg_1"
    agentId := some "agent_1"
    workflowId := some "workflow_1"
    dataBoundaryId := some "db_us_fixture"
  }
  provider := {
    providerId := "provider_policy_bound"
    kind := .openAiCompatible
    model := "test-model"
    endpointId := some "endpoint_1"
    allowedWorkingGroupIds := ["wg_1"]
    allowedAgentIds := ["agent_1"]
    allowedWorkflowIds := ["workflow_1"]
    allowedModels := ["test-model"]
    dataBoundaryId := some "db_us_fixture"
  }
  messages := [{ role := "user", content := "hello" }]
  stream := true
  timeoutMs := none
  requestedMaxTokens := some 1024
  estimatedCostMicroUsd := some 25000

/-- A world in which nothing was drawn or called yet. -/
def World.fresh : World where
  source := { ids := fun place => ⟨BitVec.ofNat 128 place⟩, drawn := 0 }
  calls := []

example
    : (intoResponse ((relayAiRequest appState boundRelayPayload).run .fresh).1).status
      = 200 := by
  decide +kernel

end TaskotterGateway.Relay
