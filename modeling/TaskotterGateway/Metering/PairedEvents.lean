import Mathlib.Algebra.Ring.Nat
import TaskotterGateway.Fallback.Admission
import TaskotterGateway.Mcp.PolicyCascade
import TaskotterGateway.Mcp.RuntimeHost
import TaskotterGateway.Relay.Usage
import TaskotterGateway.Simulation.Acceptance

/-! The usage and the audit event of one operation. Four emitters build the two events field
by field; both tell one story, which is that of the request they account for.
-/

namespace TaskotterGateway.Metering

open Contracts
open Relay (UsageAttemptStatus UsageAuditEventV1)
open Relay.UsageAuditEventV1 (saturateToU32 saturateToU32_toNat)
open Mcp (McpRuntimeHost McpToolCallPolicyRequest evaluateToolCallPolicy)
open Fallback (FallbackPolicyRequest FallbackPolicyFailure validateFallback)

-----------------------------------------------------------------------------------------
-- The story of a pair
-----------------------------------------------------------------------------------------

/-- The actor of a request as its events have to name it: under its own identifier, as a user,
as an agent, or else, be it a workflow or a service, as a service.
-/
def actorOf (actor : ActorRef) : EventActorRef where
  actorType :=
    match actor.actorType with
    | .user => .user
    | .agent => .agent
    | .workflow => .service
    | .service => .service
  id := actor.id

/-- The actor of an attempt: the agent that it is made for, or a user if there is none. -/
def actorOfSubject (subject : Relay.PolicySubject) : EventActorRef :=
  if subject.agentId.isSome then
    { actorType := .agent, id := subject.agentId.getD "" }
  else
    { actorType := .user, id := subject.userId }

/-- The decision that a request stands under: the one that it refers to, or the one that was
signed for it.
-/
def decisionOf : PolicyInstruction → String
  | .decisionRef decisionRef _ => decisionRef
  | .signedDispatchPlaceholder _ _ policyDecisionId _ => policyDecisionId

theorem from_eq_actorOf (actor : ActorRef) : EventActorRef.from actor = actorOf actor := by
  obtain ⟨actorType, id⟩ := actor
  cases actorType <;> rfl

theorem eventActor_eq_actorOfSubject (subject : Relay.PolicySubject)
    : Relay.eventActor subject = actorOfSubject subject := by
  unfold Relay.eventActor actorOfSubject
  cases subject.agentId <;> rfl

theorem policyDecisionId_eq_decisionOf (policy : PolicyInstruction)
    : policy.policyDecisionId = decisionOf policy := by
  cases policy <;> rfl

/-- Everything that the two events of an operation have in common. -/
structure EventStory where
  source : EventSource
  version : String
  workingGroupId : String
  actor : EventActorRef
  resource : EventResourceRef
  correlationId : String
  requestId : String
  policyDecisionId : String
  deriving DecidableEq, Repr

def storyOfUsage (usage : UsageEvent) : EventStory where
  source := usage.source
  version := usage.version
  workingGroupId := usage.workingGroupId
  actor := usage.actor
  resource := usage.resource
  correlationId := usage.correlationId
  requestId := usage.requestId
  policyDecisionId := usage.policyDecisionId

def storyOfAudit (audit : AuditEvent) : EventStory where
  source := audit.source
  version := audit.version
  workingGroupId := audit.workingGroupId
  actor := audit.actor
  resource := audit.resource
  correlationId := audit.correlationId
  requestId := audit.requestId
  policyDecisionId := audit.policyDecisionId

/-- Both events tell the story, and the usage is charged to the request of the story. -/
structure Tells (usage : UsageEvent) (audit : AuditEvent) (story : EventStory) : Prop where
  usageTells : storyOfUsage usage = story
  auditTells : storyOfAudit audit = story
  charged : usage.payload.subject.id = story.requestId

/-- A pair of events, by its emitter and all of its inputs. The denial of a fallback is
emitted only with a failure of its validation.
-/
inductive EventPair where
  | relay (event : UsageAuditEventV1)
  | mcpSession (host : McpRuntimeHost) (request : ScopedMcpSessionRequest)
  | toolCall (request : McpToolCallPolicyRequest)
  | fallbackDenial (request : FallbackPolicyRequest) (failure : FallbackPolicyFailure)
    (refused : validateFallback request = .error failure)

namespace EventPair

def usage : EventPair → UsageEvent
  | .relay event => event.toUsageEvent
  | .mcpSession host request => host.usageEvent request
  | .toolCall request => (evaluateToolCallPolicy request).usageEvent
  | .fallbackDenial _ failure _ => failure.usageEvent

def audit : EventPair → AuditEvent
  | .relay event => event.toAuditEvent
  | .mcpSession host request => host.auditEvent request
  | .toolCall request => (evaluateToolCallPolicy request).auditEvent
  | .fallbackDenial _ failure _ => failure.auditEvent

/-- The story of the request that a pair accounts for. Sessions and calls are requests under
their own identifiers, and a relay without a correlation identifier has an empty one.
-/
def story : EventPair → EventStory
  | .relay event =>
      {
        source := .gateway
        version := "0.1.0"
        workingGroupId := event.subject.workingGroupId
        actor := actorOfSubject event.subject
        resource := { resourceType := "provider", id := event.provider.providerId }
        correlationId := event.correlationId.getD ""
        requestId := event.requestId.toString
        policyDecisionId := event.decisionId
      }
  | .mcpSession _ request =>
      {
        source := .gateway
        version := "0.1.0"
        workingGroupId := request.workingGroupId
        actor := actorOf request.actor
        resource := { resourceType := "mcp_server", id := request.mcpServerRef }
        correlationId := request.correlationId
        requestId := request.sessionId
        policyDecisionId := decisionOf request.policy
      }
  | .toolCall request =>
      {
        source := .gateway
        version := "0.1.0"
        workingGroupId := request.workingGroupId
        actor := actorOf request.actor
        resource := { resourceType := "mcp_server", id := request.tool.mcpServerRef }
        correlationId := request.correlationId
        requestId := request.callId
        policyDecisionId := decisionOf request.policy
      }
  | .fallbackDenial request _ _ =>
      {
        source := .gateway
        version := "0.1.0"
        workingGroupId := request.workingGroupId
        actor := actorOf request.actor
        resource := { resourceType := "provider", id := request.candidate.providerId }
        correlationId := request.correlationId
        requestId := request.requestId
        policyDecisionId := request.policyDecisionId
      }

/-- Every pair tells the story of its request, by cases on the emitter. -/
theorem tells (pair : EventPair) : Tells pair.usage pair.audit pair.story := by
  cases pair with
  | relay event =>
      simp only [story, ← eventActor_eq_actorOfSubject]
      exact ⟨rfl, rfl, rfl⟩
  | mcpSession host request =>
      simp only [story, ← from_eq_actorOf, ← policyDecisionId_eq_decisionOf]
      exact ⟨rfl, rfl, rfl⟩
  | toolCall request =>
      obtain ⟨effect, reasonCode, normalizedError, answer⟩ :=
        Mcp.evaluateToolCallPolicy_eq_policyOutcome request
      simp only [story, ← from_eq_actorOf, ← policyDecisionId_eq_decisionOf]
      rw [usage, audit, answer]
      exact ⟨rfl, rfl, rfl⟩
  | fallbackDenial request failure refused =>
      obtain ⟨refusal, _, rfl⟩ := Fallback.exists_refusal_of_validateFallback_error refused
      simp only [story, ← from_eq_actorOf]
      exact ⟨rfl, rfl, rfl⟩

end EventPair

-----------------------------------------------------------------------------------------
-- Projections of a relay attempt
-----------------------------------------------------------------------------------------

/-- A count of tokens is reported as the largest `u32` that is at most the count. -/
structure ReportsTokens (tokens : UInt64) (reported : Option UInt32) : Prop where
  saturates : ∃ narrow, reported = some narrow ∧ narrow.toNat = min tokens.toNat (2 ^ 32 - 1)
  exact : tokens.toNat < 2 ^ 32
    → ∃ narrow, reported = some narrow ∧ narrow.toNat = tokens.toNat

theorem saturateToU32_reports (tokens : UInt64)
    : ReportsTokens tokens (some (saturateToU32 tokens)) where
  saturates := ⟨_, rfl, saturateToU32_toNat tokens⟩
  exact small := by
    have below : tokens.toNat ≤ UInt32.size - 1 := Nat.le_sub_one_of_lt small
    exact ⟨_, rfl, (saturateToU32_toNat tokens).trans (Nat.min_eq_left below)⟩

/-- A larger count is never reported as a smaller one. -/
theorem saturateToU32_mono {fewer more : UInt64} (le : fewer ≤ more)
    : saturateToU32 fewer ≤ saturateToU32 more := by
  rw [UInt32.le_iff_toNat_le, saturateToU32_toNat, saturateToU32_toNat]
  have counts := UInt64.le_iff_toNat_le.mp le
  omega

/-- The events of a relay attempt report its tokens, its cost and its status. -/
structure ReportsAttempt (event : UsageAuditEventV1) : Prop where
  input
    : ReportsTokens event.promptTokens event.toUsageEvent.payload.measurements.inputTokens
  output
    : ReportsTokens event.completionTokens
        event.toUsageEvent.payload.measurements.outputTokens
  cost
    : event.toUsageEvent.payload.measurements.estimatedCostMicros
      = some event.estimatedCostMicroUsd
  succeeded : event.toAuditEvent.payload.outcome = .succeeded ↔ event.status = .succeeded
  denied
    : event.toAuditEvent.payload.outcome = .denied
      ↔ event.status = .denied ∨ event.status = .quotaDenied
  failed
    : event.toAuditEvent.payload.outcome = .failed
      ↔ event.status ≠ .succeeded ∧ event.status ≠ .denied ∧ event.status ≠ .quotaDenied

/-- The audit outcome partitions the statuses, by cases on the status. -/
theorem reportsAttempt (event : UsageAuditEventV1) : ReportsAttempt event where
  input := saturateToU32_reports event.promptTokens
  output := saturateToU32_reports event.completionTokens
  cost := rfl
  succeeded := by
    simp only [UsageAuditEventV1.toAuditEvent]
    cases event.status <;> simp [UsageAttemptStatus.auditOutcome]
  denied := by
    simp only [UsageAuditEventV1.toAuditEvent]
    cases event.status <;> simp [UsageAttemptStatus.auditOutcome]
  failed := by
    simp only [UsageAuditEventV1.toAuditEvent]
    cases event.status <;> simp [UsageAttemptStatus.auditOutcome]

/-- More tokens on an attempt are never reported as fewer. -/
theorem reportedTokens_mono (fewer more : UsageAuditEventV1)
    : (fewer.promptTokens ≤ more.promptTokens
        → ∀ less ∈ fewer.toUsageEvent.payload.measurements.inputTokens,
            ∀ upper ∈ more.toUsageEvent.payload.measurements.inputTokens, less ≤ upper)
      ∧ (fewer.completionTokens ≤ more.completionTokens
        → ∀ less ∈ fewer.toUsageEvent.payload.measurements.outputTokens,
            ∀ upper ∈ more.toUsageEvent.payload.measurements.outputTokens, less ≤ upper) := by
  constructor
  · rintro le less ⟨rfl⟩ upper ⟨rfl⟩
    exact saturateToU32_mono le
  · rintro le less ⟨rfl⟩ upper ⟨rfl⟩
    exact saturateToU32_mono le

-----------------------------------------------------------------------------------------
-- Pairs under the harness
-----------------------------------------------------------------------------------------

/-- The pair of a session belongs to its lineage. -/
theorem mcpSession_lineage (caseId : String) (host : McpRuntimeHost)
    (request : ScopedMcpSessionRequest)
    : Simulation.validateMcpLineage caseId (host.usageEvent request) (host.auditEvent request)
        request
      = .ok () :=
  Simulation.validateMcpLineage_ok_iff.mpr ⟨rfl, rfl⟩

/-- Both events of every pair tell the story of the request they account for, the events of
a relay attempt report it without wrapping and in order, and the harness accepts the pair of
every session, within the boundary or not.
-/
theorem pairedEvents_tell_one_story
    : (∀ pair : EventPair, Tells pair.usage pair.audit pair.story)
      ∧ (∀ event : UsageAuditEventV1, ReportsAttempt event)
      ∧ (∀ fewer more : UsageAuditEventV1,
          (fewer.promptTokens ≤ more.promptTokens
            → ∀ less ∈ fewer.toUsageEvent.payload.measurements.inputTokens,
                ∀ upper ∈ more.toUsageEvent.payload.measurements.inputTokens, less ≤ upper)
          ∧ (fewer.completionTokens ≤ more.completionTokens
            → ∀ less ∈ fewer.toUsageEvent.payload.measurements.outputTokens,
                ∀ upper ∈ more.toUsageEvent.payload.measurements.outputTokens,
                  less ≤ upper))
      ∧ ∀ (caseId : String) (host : McpRuntimeHost) (request : ScopedMcpSessionRequest),
          Simulation.validateMcpLineage caseId (host.usageEvent request)
            (host.auditEvent request) request
          = .ok () :=
  ⟨EventPair.tells, reportsAttempt, reportedTokens_mono, mcpSession_lineage⟩

end TaskotterGateway.Metering
