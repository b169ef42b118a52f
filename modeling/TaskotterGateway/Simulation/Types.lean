import TaskotterGateway.Contracts.Requests

/-! The simulation fixture, its three kinds of case and the report of a run
(`simulator.rs`).
-/

namespace TaskotterGateway.Simulation

open Contracts

structure ProviderRouteSimulation where
  primaryProvider : String
  fallbackProvider : Option String
  selectedProvider : String
  fallbackUsed : Bool
  reason : Option String
  deriving DecidableEq, Repr

inductive ProviderSimulationOutcome where
  | success (streaming : Bool) (content : String)
  | providerError (error : NormalizedError)
  | malformedChunk (sequence : UInt32)
  | partialStream (deliveredFrames : UInt32)
  | timeout (timeoutMs : UInt64)
  | cancellation (cancelledAfterFrames : UInt32)
  | policyDenial (decisionId reason : String)
  | quotaDenial (decisionId : String) (maxCostMicroUsd : UInt64)
    (expectedStatus : Option String)
  deriving DecidableEq, Repr

structure ProviderSimulationCase where
  id : String
  request : ScopedModelRequest
  route : ProviderRouteSimulation
  outcome : ProviderSimulationOutcome
  usageEvent : UsageEvent
  auditEvent : AuditEvent
  streamFrames : List StreamFrame
  deriving DecidableEq, Repr

inductive McpLifecyclePhase where
  | start
  | health
  | toolCall
  | error
  | stop
  deriving DecidableEq, Repr

structure McpLifecycleEvent where
  sequence : UInt32
  phase : McpLifecyclePhase
  state : String
  toolRef : Option String
  error : Option NormalizedError
  deriving DecidableEq, Repr

structure McpSimulationCase where
  id : String
  request : ScopedMcpSessionRequest
  lifecycleEvents : List McpLifecycleEvent
  usageEvent : UsageEvent
  auditEvent : AuditEvent
  deriving DecidableEq, Repr

structure UsageReplayCase where
  id : String
  request : ScopedModelRequest
  usageEvents : List UsageEvent
  expectedUniqueChargeCount : UInt32
  deriving DecidableEq, Repr

structure GatewaySimulationFixture where
  fixtureVersion : String
  seed : String
  providerCases : List ProviderSimulationCase
  mcpCases : List McpSimulationCase
  usageReplayCases : List UsageReplayCase
  deriving DecidableEq, Repr

structure SimulationError where
  code : String
  message : String
  deriving DecidableEq, Repr

/-- The counters of a run, all zero at first. -/
structure SimulationReport where
  providerSuccess : UInt32 := 0
  streamingSuccess : UInt32 := 0
  nonStreamingSuccess : UInt32 := 0
  routingPrimary : UInt32 := 0
  routingFallback : UInt32 := 0
  providerError : UInt32 := 0
  rateLimit : UInt32 := 0
  malformedStream : UInt32 := 0
  partialStream : UInt32 := 0
  timeout : UInt32 := 0
  cancellation : UInt32 := 0
  policyDenial : UInt32 := 0
  quotaDenial : UInt32 := 0
  usageReplayIdempotency : UInt32 := 0
  mcpLifecycle : UInt32 := 0
  mcpGatewayHosted : UInt32 := 0
  deriving DecidableEq, Repr

/-- The fields of a report, by which its counters are read and raised. -/
inductive SimulationCounter where
  | providerSuccess
  | streamingSuccess
  | nonStreamingSuccess
  | routingPrimary
  | routingFallback
  | providerError
  | rateLimit
  | malformedStream
  | partialStream
  | timeout
  | cancellation
  | policyDenial
  | quotaDenial
  | usageReplayIdempotency
  | mcpLifecycle
  | mcpGatewayHosted
  deriving DecidableEq, Repr

namespace SimulationReport

def count (report : SimulationReport) : SimulationCounter → UInt32
  | .providerSuccess => report.providerSuccess
  | .streamingSuccess => report.streamingSuccess
  | .nonStreamingSuccess => report.nonStreamingSuccess
  | .routingPrimary => report.routingPrimary
  | .routingFallback => report.routingFallback
  | .providerError => report.providerError
  | .rateLimit => report.rateLimit
  | .malformedStream => report.malformedStream
  | .partialStream => report.partialStream
  | .timeout => report.timeout
  | .cancellation => report.cancellation
  | .policyDenial => report.policyDenial
  | .quotaDenial => report.quotaDenial
  | .usageReplayIdempotency => report.usageReplayIdempotency
  | .mcpLifecycle => report.mcpLifecycle
  | .mcpGatewayHosted => report.mcpGatewayHosted

/-- `report.counter += 1`, in the wrapping arithmetic of a release build. -/
def bump (report : SimulationReport) : SimulationCounter → SimulationReport
  | .providerSuccess => { report with providerSuccess := report.providerSuccess + 1 }
  | .streamingSuccess => { report with streamingSuccess := report.streamingSuccess + 1 }
  | .nonStreamingSuccess =>
      { report with nonStreamingSuccess := report.nonStreamingSuccess + 1 }
  | .routingPrimary => { report with routingPrimary := report.routingPrimary + 1 }
  | .routingFallback => { report with routingFallback := report.routingFallback + 1 }
  | .providerError => { report with providerError := report.providerError + 1 }
  | .rateLimit => { report with rateLimit := report.rateLimit + 1 }
  | .malformedStream => { report with malformedStream := report.malformedStream + 1 }
  | .partialStream => { report with partialStream := report.partialStream + 1 }
  | .timeout => { report with timeout := report.timeout + 1 }
  | .cancellation => { report with cancellation := report.cancellation + 1 }
  | .policyDenial => { report with policyDenial := report.policyDenial + 1 }
  | .quotaDenial => { report with quotaDenial := report.quotaDenial + 1 }
  | .usageReplayIdempotency =>
      { report with usageReplayIdempotency := report.usageReplayIdempotency + 1 }
  | .mcpLifecycle => { report with mcpLifecycle := report.mcpLifecycle + 1 }
  | .mcpGatewayHosted => { report with mcpGatewayHosted := report.mcpGatewayHosted + 1 }

/-- Raising a counter raises it and no other. -/
theorem count_bump (report : SimulationReport) (raised counter : SimulationCounter)
    : (report.bump raised).count counter
      = if raised = counter then report.count counter + 1 else report.count counter := by
  cases raised <;> cases counter <;> rfl

/-- Reports with the same counters are the same. -/
theorem eq_of_count {left right : SimulationReport}
    (same : ∀ counter, left.count counter = right.count counter)
    : left = right := by
  cases left
  cases right
  simp only [mk.injEq]
  exact ⟨same .providerSuccess, same .streamingSuccess, same .nonStreamingSuccess,
    same .routingPrimary, same .routingFallback, same .providerError, same .rateLimit,
    same .malformedStream, same .partialStream, same .timeout, same .cancellation,
    same .policyDenial, same .quotaDenial, same .usageReplayIdempotency, same .mcpLifecycle,
    same .mcpGatewayHosted⟩

end SimulationReport

end TaskotterGateway.Simulation
