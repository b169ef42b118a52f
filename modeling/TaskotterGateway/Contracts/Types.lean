import TaskotterGateway.Foundation.Text

/-! The contract records shared by the gateway's components (`contracts.rs`): actors,
policy instructions, credential references, normalized errors and the two event envelopes.
-/

namespace TaskotterGateway.Contracts

inductive ActorType where
  | user
  | agent
  | workflow
  | service
  deriving DecidableEq, Repr

structure ActorRef where
  actorType : ActorType
  id : String
  deriving DecidableEq, Repr

inductive PolicyInstruction where
  | decisionRef (decisionRef expiresAt : String)
  | signedDispatchPlaceholder
    (instructionRef signatureRef policyDecisionId expiresAt : String)
  deriving DecidableEq, Repr

/-- The decision a policy instruction stands for, whichever way it was dispatched. -/
def PolicyInstruction.policyDecisionId : PolicyInstruction → String
  | .decisionRef reference _ => reference
  | .signedDispatchPlaceholder _ _ decisionId _ => decisionId

inductive CredentialRefKind where
  | secretRef
  | runnerJobCredentialRef
  | externalMcpCredentialRef
  deriving DecidableEq, Repr

structure ScopedCredentialRef where
  kind : CredentialRefKind
  reference : String
  scope : String
  deriving DecidableEq, Repr

inductive HighRiskGatewayCapability where
  | hostedMcpBilling
  | sensitiveProviderRouting
  deriving DecidableEq, Repr

def HighRiskGatewayCapability.contractName : HighRiskGatewayCapability → String
  | .hostedMcpBilling => "gateway.hosted_mcp_billing"
  | .sensitiveProviderRouting => "gateway.sensitive_provider_routing"

def HighRiskGatewayCapability.featureFlag : HighRiskGatewayCapability → String
  | .hostedMcpBilling => "gateway.hosted_mcp_billing.enabled"
  | .sensitiveProviderRouting => "gateway.provider_routing.enabled"

structure RuntimeFeatureFlags where
  hostedMcpBillingEnabled : Bool
  providerRoutingEnabled : Bool
  deriving DecidableEq, Repr

inductive NormalizedErrorCode where
  | policyDenied
  | rateLimited
  | upstreamUnavailable
  | upstreamTimeout
  | malformedUpstreamResponse
  | invalidGatewayRequest
  deriving DecidableEq, Repr

structure NormalizedError where
  code : NormalizedErrorCode
  message : String
  retryable : Bool
  upstreamStatus : Option UInt16
  providerErrorClass : Option String
  deriving DecidableEq, Repr

def NormalizedError.policyDenied (providerErrorClass message : String) : NormalizedError where
  code := .policyDenied
  message := message
  retryable := false
  upstreamStatus := none
  providerErrorClass := some providerErrorClass

inductive EventSource where
  | controlPlane
  | runner
  | gateway
  deriving DecidableEq, Repr

inductive EventActorType where
  | user
  | agent
  | service
  deriving DecidableEq, Repr

structure EventActorRef where
  actorType : EventActorType
  id : String
  deriving DecidableEq, Repr

/-- `From<&ActorRef> for EventActorRef`: workflows report as services. -/
def EventActorRef.from (actor : ActorRef) : EventActorRef where
  actorType :=
    match actor.actorType with
    | .user => .user
    | .agent => .agent
    | .workflow | .service => .service
  id := actor.id

structure EventResourceRef where
  resourceType : String
  id : String
  deriving DecidableEq, Repr

inductive UsageSubjectType where
  | agentRun
  | gatewayRequest
  | workflowRun
  deriving DecidableEq, Repr

structure UsageSubject where
  subjectType : UsageSubjectType
  id : String
  deriving DecidableEq, Repr

structure UsageMeasurements where
  durationMs : UInt64
  inputTokens : Option UInt32
  outputTokens : Option UInt32
  toolInvocations : Option UInt32
  estimatedCostMicros : Option UInt64
  meteringUnit : Option String
  runtimeCapability : Option String
  deriving DecidableEq, Repr

structure UsagePayload where
  subject : UsageSubject
  measurements : UsageMeasurements
  deriving DecidableEq, Repr

structure UsageEvent where
  id : String
  eventType : String
  version : String
  occurredAt : String
  source : EventSource
  workingGroupId : String
  actor : EventActorRef
  resource : EventResourceRef
  correlationId : String
  requestId : String
  policyDecisionId : String
  idempotencyKey : String
  payload : UsagePayload
  deriving DecidableEq, Repr

inductive AuditOutcome where
  | allowed
  | denied
  | succeeded
  | failed
  deriving DecidableEq, Repr

structure AuditPayload where
  action : String
  outcome : AuditOutcome
  runtimeCapability : Option String
  featureFlag : Option String
  approvalRef : Option String
  deriving DecidableEq, Repr

structure AuditEvent where
  id : String
  eventType : String
  version : String
  occurredAt : String
  source : EventSource
  workingGroupId : String
  actor : EventActorRef
  resource : EventResourceRef
  correlationId : String
  requestId : String
  policyDecisionId : String
  payload : AuditPayload
  deriving DecidableEq, Repr

end TaskotterGateway.Contracts
