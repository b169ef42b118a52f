import TaskotterGateway.Formats.Events
import TaskotterGateway.Simulation.Types

/-! The JSON form of the simulation fixture and its cases (`simulator.rs`). An outcome carries
its constructor under `kind`, beside the fields of that constructor.
-/

namespace TaskotterGateway.Simulation

open JsonCodec Contracts

def ProviderRouteSimulation.codec : Codec ProviderRouteSimulation :=
  .record .ignored
    (Fields.build ProviderRouteSimulation.mk
      |>.required "primary_provider" .text ProviderRouteSimulation.primaryProvider
      |>.nullable "fallback_provider" .text ProviderRouteSimulation.fallbackProvider
      |>.required "selected_provider" .text ProviderRouteSimulation.selectedProvider
      |>.required "fallback_used" .flag ProviderRouteSimulation.fallbackUsed
      |>.nullable "reason" .text ProviderRouteSimulation.reason)

namespace ProviderSimulationOutcome

def successVariant : Variant ProviderSimulationOutcome where
  name := "success"
  Payload := Bool × String
  fields :=
    Fields.build ProviderSimulationOutcome.success
      |>.required "streaming" .flag Prod.fst
      |>.required "content" .text Prod.snd

def providerErrorVariant : Variant ProviderSimulationOutcome where
  name := "provider_error"
  Payload := NormalizedError
  fields :=
    Fields.build ProviderSimulationOutcome.providerError
      |>.required "error" NormalizedError.codec id

def malformedChunkVariant : Variant ProviderSimulationOutcome where
  name := "malformed_chunk"
  Payload := UInt32
  fields :=
    Fields.build ProviderSimulationOutcome.malformedChunk
      |>.required "sequence" .uint32 id

def partialStreamVariant : Variant ProviderSimulationOutcome where
  name := "partial_stream"
  Payload := UInt32
  fields :=
    Fields.build ProviderSimulationOutcome.partialStream
      |>.required "delivered_frames" .uint32 id

def timeoutVariant : Variant ProviderSimulationOutcome where
  name := "timeout"
  Payload := UInt64
  fields :=
    Fields.build ProviderSimulationOutcome.timeout
      |>.required "timeout_ms" .uint64 id

def cancellationVariant : Variant ProviderSimulationOutcome where
  name := "cancellation"
  Payload := UInt32
  fields :=
    Fields.build ProviderSimulationOutcome.cancellation
      |>.required "cancelled_after_frames" .uint32 id

def policyDenialVariant : Variant ProviderSimulationOutcome where
  name := "policy_denial"
  Payload := String × String
  fields :=
    Fields.build ProviderSimulationOutcome.policyDenial
      |>.required "decision_id" .text Prod.fst
      |>.required "reason" .text Prod.snd

def quotaDenialVariant : Variant ProviderSimulationOutcome where
  name := "quota_denial"
  Payload := String × UInt64 × Option String
  fields :=
    Fields.build ProviderSimulationOutcome.quotaDenial
      |>.required "decision_id" .text (·.1)
      |>.required "max_cost_micro_usd" .uint64 (·.2.1)
      |>.nullable "expected_status" .text (·.2.2)

/-- The constructor of an outcome, with what it holds. -/
def view : ProviderSimulationOutcome
    → (variant : Variant ProviderSimulationOutcome) × variant.Payload
  | .success streaming content => ⟨successVariant, streaming, content⟩
  | .providerError failure => ⟨providerErrorVariant, failure⟩
  | .malformedChunk sequence => ⟨malformedChunkVariant, sequence⟩
  | .partialStream deliveredFrames => ⟨partialStreamVariant, deliveredFrames⟩
  | .timeout timeoutMs => ⟨timeoutVariant, timeoutMs⟩
  | .cancellation cancelledAfterFrames => ⟨cancellationVariant, cancelledAfterFrames⟩
  | .policyDenial decisionId reason => ⟨policyDenialVariant, decisionId, reason⟩
  | .quotaDenial decisionId maxCostMicroUsd expectedStatus =>
      ⟨quotaDenialVariant, decisionId, maxCostMicroUsd, expectedStatus⟩

def codec : Codec ProviderSimulationOutcome :=
  .tagged "kind"
    [successVariant, providerErrorVariant, malformedChunkVariant, partialStreamVariant,
      timeoutVariant, cancellationVariant, policyDenialVariant, quotaDenialVariant]
    view (by intro value; cases value <;> simp [view])

example
    : codec.encode (.quotaDenial "quota" 7 none)
      = .object [("decision_id", .str "quota"), ("expected_status", .null),
        ("kind", .str "quota_denial"), ("max_cost_micro_usd", .number 7)] := by
  rfl

end ProviderSimulationOutcome

def ProviderSimulationCase.codec : Codec ProviderSimulationCase :=
  .record .ignored
    (Fields.build ProviderSimulationCase.mk
      |>.required "id" .text ProviderSimulationCase.id
      |>.required "request" ScopedModelRequest.codec ProviderSimulationCase.request
      |>.required "route" ProviderRouteSimulation.codec ProviderSimulationCase.route
      |>.required "outcome" ProviderSimulationOutcome.codec ProviderSimulationCase.outcome
      |>.required "usage_event" UsageEvent.codec ProviderSimulationCase.usageEvent
      |>.required "audit_event" AuditEvent.codec ProviderSimulationCase.auditEvent
      |>.defaulted "stream_frames" (.list StreamFrame.codec)
        ProviderSimulationCase.streamFrames [])

def McpLifecyclePhase.codec : Codec McpLifecyclePhase :=
  .enumeration {
    entries :=
      [(.start, "start"), (.health, "health"), (.toolCall, "tool_call"), (.error, "error"),
        (.stop, "stop")]
  }

def McpLifecycleEvent.codec : Codec McpLifecycleEvent :=
  .record .ignored
    (Fields.build McpLifecycleEvent.mk
      |>.required "sequence" .uint32 McpLifecycleEvent.sequence
      |>.required "phase" McpLifecyclePhase.codec McpLifecycleEvent.phase
      |>.required "state" .text McpLifecycleEvent.state
      |>.nullable "tool_ref" .text McpLifecycleEvent.toolRef
      |>.nullable "error" NormalizedError.codec McpLifecycleEvent.error)

def McpSimulationCase.codec : Codec McpSimulationCase :=
  .record .ignored
    (Fields.build McpSimulationCase.mk
      |>.required "id" .text McpSimulationCase.id
      |>.required "request" ScopedMcpSessionRequest.codec McpSimulationCase.request
      |>.required "lifecycle_events" (.list McpLifecycleEvent.codec)
        McpSimulationCase.lifecycleEvents
      |>.required "usage_event" UsageEvent.codec McpSimulationCase.usageEvent
      |>.required "audit_event" AuditEvent.codec McpSimulationCase.auditEvent)

def UsageReplayCase.codec : Codec UsageReplayCase :=
  .record .ignored
    (Fields.build UsageReplayCase.mk
      |>.required "id" .text UsageReplayCase.id
      |>.required "request" ScopedModelRequest.codec UsageReplayCase.request
      |>.required "usage_events" (.list UsageEvent.codec) UsageReplayCase.usageEvents
      |>.required "expected_unique_charge_count" .uint32
        UsageReplayCase.expectedUniqueChargeCount)

def GatewaySimulationFixture.codec : Codec GatewaySimulationFixture :=
  .record .ignored
    (Fields.build GatewaySimulationFixture.mk
      |>.required "fixture_version" .text GatewaySimulationFixture.fixtureVersion
      |>.required "seed" .text GatewaySimulationFixture.seed
      |>.required "provider_cases" (.list ProviderSimulationCase.codec)
        GatewaySimulationFixture.providerCases
      |>.required "mcp_cases" (.list McpSimulationCase.codec) GatewaySimulationFixture.mcpCases
      |>.defaulted "usage_replay_cases" (.list UsageReplayCase.codec)
        GatewaySimulationFixture.usageReplayCases [])

end TaskotterGateway.Simulation
