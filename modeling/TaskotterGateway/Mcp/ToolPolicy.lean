import TaskotterGateway.Contracts.Boundary

/-! The MCP tool-call policy as the gateway computes it (`mcp.rs`): the risk metadata of a
tool, the denial reasons of a call, and the outcome with its usage and audit events.
-/

namespace TaskotterGateway.Mcp

open Text Contracts

inductive McpToolRiskLevel where
  | readOnly
  | sensitiveRead
  | mutating
  | execution
  deriving DecidableEq, Repr

inductive McpToolSideEffectProfile where
  | none
  | readsSensitiveData
  | mutatesWorkspaceState
  | executesCodeOrProcess
  deriving DecidableEq, Repr

inductive McpToolCredentialRequirement where
  | none
  | optionalScopedReference
  | requiredScopedReference
  deriving DecidableEq, Repr

inductive McpToolNetworkReach where
  | none
  | gatewayInternal
  | runnerNetwork
  | externalInternet
  deriving DecidableEq, Repr

structure McpToolPolicyMetadata where
  toolRef : String
  mcpServerRef : String
  owner : String
  workingGroupId : String
  riskLevel : McpToolRiskLevel
  sideEffectProfile : McpToolSideEffectProfile
  credentialRequirement : McpToolCredentialRequirement
  networkReach : McpToolNetworkReach
  allowedActorTypes : List ActorType
  allowedActorIds : List String
  requiredSkillRefs : List String
  allowedAgentIds : List String
  allowedRunnerIds : List String
  requiresApproval : Bool
  deriving DecidableEq, Repr

structure McpToolCallPolicyRequest where
  callId : String
  sessionId : String
  correlationId : String
  workingGroupId : String
  actor : ActorRef
  agentId : Option String
  skillRefs : List String
  runnerId : Option String
  tool : McpToolPolicyMetadata
  policy : PolicyInstruction
  credentialRef : Option ScopedCredentialRef
  deriving DecidableEq, Repr

inductive McpToolPolicyEffect where
  | allowed
  | denied
  | approvalRequired
  deriving DecidableEq, Repr

structure McpToolPolicyOutcome where
  effect : McpToolPolicyEffect
  policyDecisionId : String
  reasonCode : Option String
  normalizedError : Option NormalizedError
  usageEvent : UsageEvent
  auditEvent : AuditEvent
  deriving DecidableEq, Repr

structure McpToolPolicyFixtureCase where
  id : String
  request : McpToolCallPolicyRequest
  expectedEffect : McpToolPolicyEffect
  expectedReasonCode : Option String
  deriving DecidableEq, Repr

def mcpToolMetadataIncomplete : NormalizedError :=
  .policyDenied "mcp_tool_metadata_incomplete"
    "MCP tool policy metadata must declare owner, scope, and actor bounds."

def mcpToolRiskMetadataInvalid : NormalizedError :=
  .policyDenied "mcp_tool_risk_metadata_invalid"
    "MCP tool risk metadata is inconsistent with the declared side-effect profile."

/-- A field that every tool must declare is empty. -/
def McpToolPolicyMetadata.lacksDeclaration (tool : McpToolPolicyMetadata) : Bool :=
  tool.toolRef.isEmpty
  || tool.mcpServerRef.isEmpty
  || tool.owner.isEmpty
  || tool.workingGroupId.isEmpty
  || tool.allowedActorTypes.isEmpty

/-- The row of the risk matrix that the tool's risk level selects. -/
def McpToolPolicyMetadata.matchesRiskRow (tool : McpToolPolicyMetadata) : Bool :=
  match tool.riskLevel with
  | .readOnly =>
      tool.sideEffectProfile == .none
      && !tool.requiresApproval
      && tool.networkReach != .externalInternet
  | .sensitiveRead =>
      tool.sideEffectProfile == .readsSensitiveData
      && tool.credentialRequirement != .requiredScopedReference
  | .mutating =>
      tool.sideEffectProfile == .mutatesWorkspaceState
      && tool.requiresApproval
  | .execution =>
      tool.sideEffectProfile == .executesCodeOrProcess
      && tool.credentialRequirement == .requiredScopedReference
      && !tool.allowedRunnerIds.isEmpty
      && tool.requiresApproval

def McpToolPolicyMetadata.validateRiskMetadata (tool : McpToolPolicyMetadata)
    : Except NormalizedError Unit :=
  if tool.lacksDeclaration then
    .error mcpToolMetadataIncomplete
  else if tool.matchesRiskRow then
    .ok ()
  else
    .error mcpToolRiskMetadataInvalid

/-- A scope matches the working group itself and everything below it, past a `/`. -/
def credentialScopeMatchesWorkingGroup (scope workingGroupId : String) : Bool :=
  scope == workingGroupId
  || (stripPrefix scope workingGroupId).any (fun remainder => startsWith remainder "/")

/-- The kinds of credential reference that a tool call may present. -/
def isToolCredentialKind (kind : CredentialRefKind) : Bool :=
  kind == .externalMcpCredentialRef || kind == .runnerJobCredentialRef

def validateScopedCredentialBinding (credentialRef : ScopedCredentialRef)
    (workingGroupId : String)
    : Option String :=
  if !credentialScopeMatchesWorkingGroup credentialRef.scope workingGroupId then
    some "credential_scope_mismatch"
  else if !isToolCredentialKind credentialRef.kind then
    some "credential_reference_kind_not_allowed"
  else
    none

/-- The agent a call acts for: the declared one, else the actor if it is an agent. -/
def McpToolCallPolicyRequest.requestAgentId (request : McpToolCallPolicyRequest)
    : Option String :=
  let actorAgentId :=
    match request.actor.actorType with
    | .agent => some request.actor.id
    | _ => none
  request.agentId.or actorAgentId

def toolCallDenialReason (request : McpToolCallPolicyRequest) : Option String :=
  let tool := request.tool
  if request.workingGroupId != tool.workingGroupId then
    some "working_group_scope_mismatch"
  else if !tool.allowedActorTypes.any (· == request.actor.actorType) then
    some "actor_type_not_allowed"
  else if !tool.allowedActorIds.isEmpty
      && !tool.allowedActorIds.any (· == request.actor.id) then
    some "actor_id_not_allowed"
  else if tool.requiredSkillRefs.any
      (fun required => !request.skillRefs.any (· == required)) then
    some "required_skill_missing"
  else if !tool.allowedAgentIds.isEmpty
      && !request.requestAgentId.any
          (fun agentId => tool.allowedAgentIds.any (· == agentId)) then
    some "agent_binding_not_allowed"
  else if !tool.allowedRunnerIds.isEmpty
      && !request.runnerId.any
          (fun runnerId => tool.allowedRunnerIds.any (· == runnerId)) then
    some "runner_binding_not_allowed"
  else
    match tool.credentialRequirement with
    | .none =>
        if request.credentialRef.isSome then
          some "credential_reference_not_allowed"
        else
          none
    | .optionalScopedReference =>
        match request.credentialRef with
        | some credentialRef =>
            validateScopedCredentialBinding credentialRef request.workingGroupId
        | none => none
    | .requiredScopedReference =>
        match request.credentialRef with
        | none => some "credential_reference_required"
        | some credentialRef =>
            match validateScopedCredentialBinding credentialRef request.workingGroupId with
            | some reason => some reason
            | none => none

def auditOutcomeName : AuditOutcome → String
  | .allowed => "allowed"
  | .denied => "denied"
  | .succeeded => "succeeded"
  | .failed => "failed"

/-- The audit outcome under which an effect is recorded. -/
def McpToolPolicyEffect.auditOutcome : McpToolPolicyEffect → AuditOutcome
  | .allowed => .allowed
  | .denied | .approvalRequired => .denied

def policyOutcome (request : McpToolCallPolicyRequest) (effect : McpToolPolicyEffect)
    (reasonCode : Option String) (normalizedError : Option NormalizedError)
    (policyDecisionId : String)
    : McpToolPolicyOutcome :=
  let auditOutcome := effect.auditOutcome
  let runtimeCapability := HighRiskGatewayCapability.hostedMcpBilling.contractName
  {
    effect
    policyDecisionId
    reasonCode
    normalizedError
    usageEvent := {
      id := "evt_usage_" ++ request.callId
      eventType := "usage.gateway_request.recorded"
      version := "0.1.0"
      occurredAt := "2026-01-01T00:00:03.000Z"
      source := .gateway
      workingGroupId := request.workingGroupId
      actor := .from request.actor
      resource := { resourceType := "mcp_server", id := request.tool.mcpServerRef }
      correlationId := request.correlationId
      requestId := request.callId
      policyDecisionId
      idempotencyKey := "usage_" ++ request.callId
      payload := {
        subject := { subjectType := .gatewayRequest, id := request.callId }
        measurements := {
          durationMs := 0
          inputTokens := some 0
          outputTokens := some 0
          toolInvocations := some 0
          estimatedCostMicros := some 0
          meteringUnit := some "mcp_tool_policy_check"
          runtimeCapability := some runtimeCapability
        }
      }
    }
    auditEvent := {
      id := "evt_audit_" ++ request.callId
      eventType := "audit.policy_decision." ++ auditOutcomeName auditOutcome
      version := "0.1.0"
      occurredAt := "2026-01-01T00:00:04.000Z"
      source := .gateway
      workingGroupId := request.workingGroupId
      actor := .from request.actor
      resource := { resourceType := "mcp_server", id := request.tool.mcpServerRef }
      correlationId := request.correlationId
      requestId := request.callId
      policyDecisionId
      payload := {
        action := "gateway.mcp.tool.call"
        outcome := auditOutcome
        runtimeCapability := some runtimeCapability
        featureFlag := none
        approvalRef :=
          if reasonCode = some "approval_required_before_tool_execution" then
            some policyDecisionId
          else
            none
      }
    }
  }

/-- The error of a call that any of the denial reasons refuses. -/
def toolCallDenied (reason : String) : NormalizedError :=
  .policyDenied reason "MCP tool call is denied by gateway policy before execution."

/-- The error of a permitted call that still waits for an approval. -/
def approvalRequiredBeforeToolExecution : NormalizedError where
  code := .policyDenied
  message := "MCP tool call requires approval before execution."
  retryable := false
  upstreamStatus := none
  providerErrorClass := some "approval_required_before_tool_execution"

def evaluateToolCallPolicy (request : McpToolCallPolicyRequest) : McpToolPolicyOutcome :=
  let decisionId := request.policy.policyDecisionId
  match request.policy.validate with
  | .error error =>
      policyOutcome request .denied (some "policy_instruction_invalid") (some error) decisionId
  | .ok () =>
  match request.tool.validateRiskMetadata with
  | .error error =>
      policyOutcome request .denied (some "mcp_tool_risk_metadata_invalid") (some error)
        decisionId
  | .ok () =>
  match request.credentialRef.map ScopedCredentialRef.validate with
  | some (.error error) =>
      policyOutcome request .denied (some "raw_credential_value_rejected") (some error)
        decisionId
  | some (.ok ()) | none =>
  match toolCallDenialReason request with
  | some reason =>
      policyOutcome request .denied (some reason) (some (toolCallDenied reason)) decisionId
  | none =>
      if request.tool.requiresApproval then
        policyOutcome request .approvalRequired
          (some "approval_required_before_tool_execution")
          (some approvalRequiredBeforeToolExecution) decisionId
      else
        policyOutcome request .allowed none none decisionId

/-- An execution call by an agent, in the working group, on the runner and with the
credential it is given; its tool lists two runners.
-/
def executionCall (workingGroupId runnerId : String) (credentialRef : ScopedCredentialRef)
    : McpToolCallPolicyRequest where
  callId := "call_mcp_execution"
  sessionId := "sess_mcp"
  correlationId := "corr_mcp"
  workingGroupId
  actor := { actorType := .agent, id := "agent_policy_executor" }
  agentId := some "agent_policy_executor"
  skillRefs := ["skill_mcp_execute"]
  runnerId := some runnerId
  tool := {
    toolRef := "tool_fixture_execute"
    mcpServerRef := "mcp_fixture"
    owner := "runner"
    workingGroupId
    riskLevel := .execution
    sideEffectProfile := .executesCodeOrProcess
    credentialRequirement := .requiredScopedReference
    networkReach := .runnerNetwork
    allowedActorTypes := [.agent]
    allowedActorIds := ["agent_policy_executor"]
    requiredSkillRefs := ["skill_mcp_execute"]
    allowedAgentIds := ["agent_policy_executor"]
    allowedRunnerIds := ["runner_approved", "runner_spare"]
    requiresApproval := true
  }
  policy := .decisionRef "poldec_mcp_execution" "2026-06-01T00:00:00Z"
  credentialRef := some credentialRef

/-- A runner-job credential for a scope, under the given reference. -/
def runnerJobCredential (reference scope : String) : ScopedCredentialRef where
  kind := .runnerJobCredentialRef
  reference
  scope

example
    : (evaluateToolCallPolicy
        (executionCall "wg" "runner_approved" (runnerJobCredential "secret_ref_a" "wg/job"))).effect
      = .approvalRequired := by
  decide +kernel

example
    : (evaluateToolCallPolicy
        (executionCall "wg" "runner_approved"
          (runnerJobCredential "secret_ref_a" "wg_evil/job"))).reasonCode
      = some "credential_scope_mismatch" := by
  decide +kernel

end TaskotterGateway.Mcp
