import TaskotterGateway.Metering.PairedEvents
import TaskotterGateway.Simulation.HostMetering
import TaskotterGateway.Simulation.Lineage

/-! The pairs of events that the gateway emits, in the cases of the harness. The harness tells
a pair by its lineage alone, so that a pair of any emitter can account for a model request; but
only the pair of a session host counts any calls, so that no other can meter a session.
-/

namespace TaskotterGateway.Metering

open Contracts RecordedChecks Simulation
open Mcp (McpRuntimeHost)

namespace EventPair

/-- What ties a pair to the request that it accounts for. -/
def lineage (pair : EventPair) : Lineage where
  requestId := pair.story.requestId
  correlationId := pair.story.correlationId
  policyDecisionId := pair.story.policyDecisionId

/-- The tool calls that a pair counts, as a `u32`: one for each tool that a session allows. -/
def toolCalls : EventPair → UInt32
  | .mcpSession _ request => UInt32.ofNat request.allowedToolRefs.length
  | .relay _ | .toolCall _ | .fallbackDenial _ _ _ => 0

variable (pair : EventPair)

theorem source_story : pair.story.source = .gateway := by
  cases pair <;> rfl

theorem lineage_usage : (envelopeOfUsage pair.usage).lineage = pair.lineage := by
  rw [lineage, ← pair.tells.usageTells]
  rfl

theorem lineage_audit : (envelopeOfAudit pair.audit).lineage = pair.lineage := by
  rw [lineage, ← pair.tells.auditTells]
  rfl

theorem toolInvocations_usage
    : pair.usage.payload.measurements.toolInvocations = some pair.toolCalls := by
  cases pair with
  | relay event => rfl
  | mcpSession host request => rfl
  | toolCall request =>
      obtain ⟨effect, reasonCode, normalizedError, answer⟩ :=
        Mcp.evaluateToolCallPolicy_eq_policyOutcome request
      rw [usage, answer]
      rfl
  | fallbackDenial request failure refused =>
      obtain ⟨refusal, _, rfl⟩ := Fallback.exists_refusal_of_validateFallback_error refused
      rfl

/-- The case accounts for its request by the pair. -/
def Charges (case : ProviderSimulationCase) : Prop :=
  case.usageEvent = pair.usage ∧ case.auditEvent = pair.audit

/-- The case meters its session by the pair. -/
def Meters (case : McpSimulationCase) : Prop :=
  case.usageEvent = pair.usage ∧ case.auditEvent = pair.audit

variable {pair}

-----------------------------------------------------------------------------------------
-- Model requests
-----------------------------------------------------------------------------------------

/-- A pair accounts for a request within the boundary if it has its lineage. -/
theorem accepted_iff {case : ProviderSimulationCase} (charges : pair.Charges case)
    : case.Accepted
      ↔ WithinBoundary case.request.policy (some case.request.credentialRef)
        ∧ case.route.Consistent
        ∧ pair.lineage = modelLineage case.request
        ∧ case.outcome.FrameRule case.streamFrames
        ∧ case.outcome.Declared case.request.policy.policyDecisionId := by
  have usageSource : (envelopeOfUsage pair.usage).source = .gateway :=
    (congrArg EventStory.source pair.tells.usageTells).trans pair.source_story
  have auditSource : (envelopeOfAudit pair.audit).source = .gateway :=
    (congrArg EventStory.source pair.tells.auditTells).trans pair.source_story
  obtain ⟨usage, audit⟩ := charges
  constructor
  · intro accepted
    have lineage : pair.lineage = modelLineage case.request := by
      rw [← pair.lineage_usage, ← usage]
      exact accepted.usageLineage.lineage
    refine ⟨accepted.boundary, accepted.route, lineage, accepted.frames, ?_⟩
    rw [← show case.usageEvent.policyDecisionId = case.request.policy.policyDecisionId from
      congrArg Lineage.policyDecisionId accepted.usageLineage.lineage]
    exact accepted.declared
  · intro accounts
    obtain ⟨boundary, route, lineage, frames, declared⟩ := accounts
    refine ⟨boundary, route, ?_, ?_, frames, ?_⟩
    · rw [usage, EventEnvelope.traces_iff_lineage boundary usageSource, pair.lineage_usage]
      exact lineage
    · rw [audit, EventEnvelope.traces_iff_lineage boundary auditSource, pair.lineage_audit]
      exact lineage
    · have decision : case.usageEvent.policyDecisionId
          = case.request.policy.policyDecisionId := by
        rw [usage]
        exact congrArg Lineage.policyDecisionId (pair.lineage_usage.trans lineage)
      rw [decision]
      exact declared

-----------------------------------------------------------------------------------------
-- Sessions
-----------------------------------------------------------------------------------------

/-- A session within `u32` counts as many calls as it makes, and makes one at least. -/
theorem toolCall_counts {case : McpSimulationCase} (calls : case.Reaches .toolCall)
    (short : case.lifecycleEvents.length < 2 ^ 32)
    : 0 < case.phaseCount .toolCall
      ∧ (UInt32.ofNat (case.phaseCount .toolCall)).toNat = case.phaseCount .toolCall := by
  obtain ⟨event, member, inPhase⟩ := calls
  have counted : event ∈ case.lifecycleEvents.filter (fun event => event.phase == .toolCall) :=
    List.mem_filter.mpr ⟨member, beq_iff_eq.mpr inPhase⟩
  have few : case.phaseCount .toolCall ≤ case.lifecycleEvents.length :=
    List.length_filter_le ..
  exact ⟨List.length_pos_of_mem counted, UInt32.toNat_ofNat_of_lt' (Nat.lt_of_le_of_lt few short)⟩

/-- A pair that counts calls is that of a session. -/
theorem eq_mcpSession_of_toolCalls (counts : pair.toolCalls ≠ 0)
    : ∃ host request, pair = .mcpSession host request := by
  cases pair with
  | mcpSession host request => exact ⟨host, request, rfl⟩
  | relay | toolCall | fallbackDenial => exact absurd rfl counts

/-- A pair meters a session within the boundary that goes through all phases if it has its
lineage and counts its calls, which only the pair of a session host does.
-/
theorem session_accepted_iff {case : McpSimulationCase} (meters : pair.Meters case)
    (short : case.lifecycleEvents.length < 2 ^ 32)
    : case.Accepted
      ↔ WithinBoundary case.request.policy case.request.credentialRef
        ∧ case.ReachesAll
        ∧ ∃ host request,
            pair = .mcpSession host request
            ∧ sessionLineage request = sessionLineage case.request
            ∧ case.phaseCount .toolCall ≤ request.allowedToolRefs.length % 2 ^ 32 := by
  obtain ⟨usage, audit⟩ := meters
  have recorded : case.recordedToolCalls = pair.toolCalls := by
    rw [McpSimulationCase.recordedToolCalls, usage, pair.toolInvocations_usage]
    rfl
  constructor
  · intro accepted
    obtain ⟨some, exact⟩ := toolCall_counts accepted.calls short
    have covered := accepted.recorded
    rw [recorded, UInt32.le_iff_toNat_le, exact] at covered
    have counts : pair.toolCalls ≠ 0 := by
      intro none
      rw [none] at covered
      exact absurd covered (Nat.not_le.mpr some)
    obtain ⟨host, request, rfl⟩ := eq_mcpSession_of_toolCalls counts
    have lineage := accepted.usageLineage
    rw [usage] at lineage
    refine ⟨accepted.boundary,
      ⟨accepted.starts, accepted.healthy, accepted.calls, accepted.stops⟩, host, request, rfl,
      lineage, ?_⟩
    exact covered
  · intro metered
    obtain ⟨boundary, ⟨starts, healthy, calls, stops⟩, host, request, rfl, lineage, covered⟩ :=
      metered
    obtain ⟨_, exact⟩ := toolCall_counts calls short
    refine ⟨boundary, ?_, ?_, starts, healthy, calls, stops, ?_⟩
    · rw [usage]
      exact lineage
    · rw [audit]
      exact lineage
    · rw [recorded, UInt32.le_iff_toNat_le, exact]
      exact covered

end EventPair

/-- The harness knows a pair of the gateway by its lineage and by the calls that it counts. A
pair of any emitter accounts for a model request exactly if it has the lineage of the request,
beside what the case asks of its request, route and frames. But of all pairs only that of a
session host can meter a session of fewer than `2 ^ 32` phases: one with the lineage of the
session, and with at least as many tools as the session makes calls.
-/
theorem pairs_under_harness (pair : EventPair) (report : SimulationReport)
    : (∀ case : ProviderSimulationCase,
          pair.Charges case
          → ((case.validate.from report).1 = .ok ()
            ↔ WithinBoundary case.request.policy (some case.request.credentialRef)
              ∧ case.route.Consistent
              ∧ pair.lineage = modelLineage case.request
              ∧ case.outcome.FrameRule case.streamFrames
              ∧ case.outcome.Declared case.request.policy.policyDecisionId))
      ∧ ∀ case : McpSimulationCase,
          pair.Meters case
          → case.lifecycleEvents.length < 2 ^ 32
          → ((case.validate.from report).1 = .ok ()
            ↔ WithinBoundary case.request.policy case.request.credentialRef
              ∧ case.ReachesAll
              ∧ ∃ host request,
                  pair = .mcpSession host request
                  ∧ sessionLineage request = sessionLineage case.request
                  ∧ case.phaseCount .toolCall ≤ request.allowedToolRefs.length % 2 ^ 32) := by
  constructor
  · intro case charges
    exact (case.validate_records.passes report).trans (EventPair.accepted_iff charges)
  · intro case meters short
    exact (case.validate_records.passes report).trans
      (EventPair.session_accepted_iff meters short)

end TaskotterGateway.Metering
