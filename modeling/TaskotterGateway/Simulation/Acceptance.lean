import TaskotterGateway.Simulation.Implementation

/-! When the harness accepts a case and what it then counts, stated without the code's
control flow. Each validation gets one lemma, and everything proved about accepted
simulations is derived from these lemmas.
-/

namespace TaskotterGateway.Simulation

open Text Contracts RecordedChecks
open ProviderSimulationOutcome

-----------------------------------------------------------------------------------------
-- The report as a tally
-----------------------------------------------------------------------------------------

/-- The report, read as sixteen counters of 32 bits. -/
def reportTally : Tally SimulationReport SimulationCounter where
  empty := {}
  mark := SimulationReport.bump
  read report counter := (report.count counter).toNat
  capacity := UInt32.size
  read_empty counter := by cases counter <;> rfl
  read_lt report counter := (report.count counter).toNat_lt
  read_mark report raised counter := by
    rw [SimulationReport.count_bump]
    split
    · exact UInt32.toNat_add _ _
    · exact (Nat.mod_eq_of_lt (report.count counter).toNat_lt).symm
  ext same := SimulationReport.eq_of_count (fun counter => UInt32.toNat_inj.mp (same counter))

theorem bump_records (counter : SimulationCounter)
    : Records reportTally (bump counter) True [counter] :=
  .mark counter

-----------------------------------------------------------------------------------------
-- Lineage
-----------------------------------------------------------------------------------------

/-- What ties an event to the request it is about. -/
structure Lineage where
  requestId : String
  correlationId : String
  policyDecisionId : String
  deriving DecidableEq, Repr

def EventEnvelope.lineage (event : EventEnvelope) : Lineage where
  requestId := event.requestId
  correlationId := event.correlationId
  policyDecisionId := event.policyDecisionId

def modelLineage (request : ScopedModelRequest) : Lineage where
  requestId := request.requestId
  correlationId := request.correlationId
  policyDecisionId := request.policy.policyDecisionId

/-- A session is the request that its events are about. -/
def sessionLineage (request : ScopedMcpSessionRequest) : Lineage where
  requestId := request.sessionId
  correlationId := request.correlationId
  policyDecisionId := request.policy.policyDecisionId

/-- The event comes from the gateway and belongs to the lineage of a model request. -/
structure EventEnvelope.Traces (event : EventEnvelope) (request : ScopedModelRequest) : Prop where
  source : event.source = .gateway
  lineage : event.lineage = modelLineage request
  notDispatched : startsWith event.policyDecisionId "gwi_" = false

theorem lineageMismatch_eq_false_iff {event : EventEnvelope} {request : ScopedModelRequest}
    : lineageMismatch event request = false ↔ event.Traces request := by
  simp only [lineageMismatch, Bool.or_eq_false_iff, bne_eq_false_iff_eq]
  constructor
  · intro matching
    obtain ⟨⟨⟨⟨source, requestId⟩, correlationId⟩, decisionId⟩, notDispatched⟩ := matching
    refine ⟨source, ?_, notDispatched⟩
    simp only [EventEnvelope.lineage, modelLineage, requestId, correlationId, decisionId]
  · intro traces
    have lineage := traces.lineage
    simp only [EventEnvelope.lineage, modelLineage, Lineage.mk.injEq] at lineage
    obtain ⟨requestId, correlationId, decisionId⟩ := lineage
    exact ⟨⟨⟨⟨traces.source, requestId⟩, correlationId⟩, decisionId⟩, traces.notDispatched⟩

theorem validateUsageLineage_ok_iff {caseId : String} {usage : UsageEvent}
    {request : ScopedModelRequest}
    : validateUsageLineage caseId usage request = .ok ()
      ↔ (envelopeOfUsage usage).Traces request := by
  rw [← lineageMismatch_eq_false_iff, validateUsageLineage, unless_ok_iff]

theorem validateAuditLineage_ok_iff {caseId : String} {audit : AuditEvent}
    {request : ScopedModelRequest}
    : validateAuditLineage caseId audit request = .ok ()
      ↔ (envelopeOfAudit audit).Traces request := by
  rw [← lineageMismatch_eq_false_iff, validateAuditLineage, unless_ok_iff]

theorem validateMcpLineage_ok_iff {caseId : String} {usage : UsageEvent} {audit : AuditEvent}
    {request : ScopedMcpSessionRequest}
    : validateMcpLineage caseId usage audit request = .ok ()
      ↔ (envelopeOfUsage usage).lineage = sessionLineage request
        ∧ (envelopeOfAudit audit).lineage = sessionLineage request := by
  rw [validateMcpLineage, unless_ok_iff]
  simp only [Bool.or_eq_false_iff, bne_eq_false_iff_eq, EventEnvelope.lineage, envelopeOfUsage,
    envelopeOfAudit, sessionLineage, Lineage.mk.injEq]
  constructor
  · intro matching
    obtain ⟨⟨⟨⟨⟨usageId, auditId⟩, usageCorrelation⟩, auditCorrelation⟩, usageDecision⟩,
      auditDecision⟩ := matching
    exact ⟨⟨usageId, usageCorrelation, usageDecision⟩, auditId, auditCorrelation, auditDecision⟩
  · intro matching
    obtain ⟨⟨usageId, usageCorrelation, usageDecision⟩, auditId, auditCorrelation,
      auditDecision⟩ := matching
    exact ⟨⟨⟨⟨⟨usageId, auditId⟩, usageCorrelation⟩, auditCorrelation⟩, usageDecision⟩,
      auditDecision⟩

theorem validateDecisionId_ok_iff {caseId decisionId : String} {usage : UsageEvent}
    : validateDecisionId caseId decisionId usage = .ok ()
      ↔ decisionId = usage.policyDecisionId := by
  rw [validateDecisionId, unless_ok_iff, bne_eq_false_iff_eq]

-----------------------------------------------------------------------------------------
-- Stream frames and routes
-----------------------------------------------------------------------------------------

/-- Each frame carries its position, as a `u32`. -/
def Numbered (frames : List StreamFrame) : Prop :=
  ∀ index frame, frames[index]? = some frame → frame.sequence = UInt32.ofNat index

theorem validateFrameSequence_ok_iff {caseId : String} {frames : List StreamFrame}
    : validateFrameSequence caseId frames = .ok () ↔ Numbered frames := by
  rw [validateFrameSequence, forM_ok_iff]
  constructor
  · intro passed index frame atIndex
    have compared := passed (frame, index) (List.mk_mem_zipIdx_iff_getElem?.mpr atIndex)
    exact bne_eq_false_iff_eq.mp (unless_ok_iff.mp compared)
  · intro numbered entry member
    have same := numbered entry.2 entry.1 (List.mem_zipIdx_iff_getElem?.mp member)
    exact unless_ok_iff.mpr (bne_eq_false_iff_eq.mpr same)

/-- The frames begin with a start frame, end with a final frame that carries usage, and are
numbered. Nothing is said of the frames between.
-/
structure CompletedStream (frames : List StreamFrame) : Prop where
  starts : ∃ first, frames.head? = some first ∧ first.frameType = .start
  finishes : ∃ last,
    frames.getLast? = some last ∧ last.frameType = .final ∧ last.usage.isSome = true
  numbered : Numbered frames

theorem validateSuccessStream_ok_iff {caseId : String} {frames : List StreamFrame}
    : validateSuccessStream caseId frames = .ok () ↔ CompletedStream frames := by
  rw [validateSuccessStream, unless_then_ok_iff, unless_then_ok_iff,
    validateFrameSequence_ok_iff]
  simp only [Bool.or_eq_false_iff, bne_eq_false_iff_eq, Option.map_eq_some_iff,
    Option.isNone_eq_false_iff]
  constructor
  · intro passed
    obtain ⟨_, ⟨⟨starts, last, atEnd, final⟩, usage⟩, numbered⟩ := passed
    rw [atEnd] at usage
    exact ⟨starts, ⟨last, atEnd, final, usage⟩, numbered⟩
  · intro completed
    obtain ⟨first, atStart, start⟩ := completed.starts
    obtain ⟨last, atEnd, final, usage⟩ := completed.finishes
    have nonempty : frames.isEmpty = false := by
      cases frames with
      | nil => contradiction
      | cons head tail => rfl
    refine ⟨nonempty, ⟨⟨⟨first, atStart, start⟩, last, atEnd, final⟩, ?_⟩, completed.numbered⟩
    rw [atEnd]
    exact usage

/-- A stream that ended, if at all, in an error frame with the code of the outcome. -/
def FailedStream (code : NormalizedErrorCode) (frames : List StreamFrame) : Prop :=
  ∀ last, frames.getLast? = some last
  → last.frameType = .error
    ∧ last.error.map NormalizedError.code = some code
    ∧ Numbered frames

theorem validateTerminalErrorFrame_ok_iff {caseId : String} {frames : List StreamFrame}
    {code : NormalizedErrorCode}
    : validateTerminalErrorFrame caseId frames code = .ok () ↔ FailedStream code frames := by
  unfold validateTerminalErrorFrame FailedStream
  cases frames.getLast? with
  | none => simp
  | some last =>
      simp only [Option.some.injEq, forall_eq', unless_then_ok_iff, Bool.or_eq_false_iff,
        bne_eq_false_iff_eq, validateFrameSequence_ok_iff, and_assoc]

theorem ensureFrame_ok_iff {caseId : String} {frames : List StreamFrame} {sequence : UInt32}
    : ensureFrame caseId frames sequence = .ok ()
      ↔ Numbered frames ∧ ∃ frame ∈ frames, frame.sequence = sequence := by
  have present
      : (!frames.any (fun frame => frame.sequence == sequence)) = false
        ↔ ∃ frame ∈ frames, frame.sequence = sequence := by
    simp only [Bool.not_eq_false', List.any_eq_true, beq_iff_eq]
  rw [ensureFrame, andThen_ok_iff, validateFrameSequence_ok_iff, ← present]
  exact and_congr_right (fun _ => unless_ok_iff)

/-- The selected provider is the one that the fallback flag points to. -/
def ProviderRouteSimulation.Consistent (route : ProviderRouteSimulation) : Prop :=
  if route.fallbackUsed then
    route.fallbackProvider = some route.selectedProvider
  else
    route.selectedProvider = route.primaryProvider

theorem ProviderRouteSimulation.validate_ok_iff {route : ProviderRouteSimulation}
    {caseId : String}
    : route.validate caseId = .ok () ↔ route.Consistent := by
  unfold ProviderRouteSimulation.validate ProviderRouteSimulation.Consistent
  cases route.fallbackUsed with
  | true =>
      cases route.fallbackProvider with
      | none => simp
      | some fallbackProvider =>
          simp only [if_true, unless_ok_iff, bne_eq_false_iff_eq, Option.some.injEq]
          exact eq_comm
  | false => simp only [Bool.false_eq_true, if_false, unless_ok_iff, bne_eq_false_iff_eq]

-----------------------------------------------------------------------------------------
-- Provider cases
-----------------------------------------------------------------------------------------

namespace ProviderSimulationOutcome

/-- What an outcome asks of the frames that were delivered. -/
def FrameRule (frames : List StreamFrame) : ProviderSimulationOutcome → Prop
  | .success true _ => CompletedStream frames
  | .success false _ => frames = []
  | .providerError error => FailedStream error.code frames
  | .malformedChunk sequence =>
      Numbered frames ∧ ∃ frame ∈ frames, frame.sequence = sequence
  | .partialStream deliveredFrames =>
      frames.length = deliveredFrames.toNat ∧ ∀ frame ∈ frames, frame.frameType ≠ .final
  | .cancellation cancelledAfterFrames => cancelledAfterFrames.toNat ≤ frames.length
  | .timeout _ | .policyDenial _ _ | .quotaDenial _ _ _ => True

/-- What an outcome asks of its own fields, under the decision that was charged. -/
def Declared (chargedDecisionId : String) : ProviderSimulationOutcome → Prop
  | .timeout timeoutMs => timeoutMs = 0
  | .policyDenial decisionId _ => decisionId = chargedDecisionId
  | .quotaDenial decisionId _ expectedStatus =>
      decisionId = chargedDecisionId ∧ expectedStatus = some "quota_denied"
  | _ => True

/-- The counters that an accepted outcome raises. -/
def counters : ProviderSimulationOutcome → List SimulationCounter
  | .success true _ => [.providerSuccess, .streamingSuccess]
  | .success false _ => [.providerSuccess, .nonStreamingSuccess]
  | .providerError error => [if error.code == .rateLimited then .rateLimit else .providerError]
  | .malformedChunk _ => [.malformedStream]
  | .partialStream _ => [.partialStream]
  | .timeout _ => [.timeout]
  | .cancellation _ => [.cancellation]
  | .policyDenial _ _ => [.policyDenial]
  | .quotaDenial _ _ _ => [.quotaDenial]

end ProviderSimulationOutcome

/-- The check of an outcome asks its two rules and counts its counters. Witness: one case
for each outcome, its steps composed in order.
-/
theorem ProviderSimulationCase.validateOutcome_records (case : ProviderSimulationCase)
    : Records reportTally case.validateOutcome
        (case.outcome.FrameRule case.streamFrames
          ∧ case.outcome.Declared case.usageEvent.policyDecisionId)
        case.outcome.counters := by
  unfold ProviderSimulationCase.validateOutcome
  cases case.outcome with
  | success streaming content =>
      refine .congr (.andThen (bump_records _)
        (.ite _ (.andThen (.lift validateSuccessStream_ok_iff) (bump_records _))
          (.guarded _ _ (bump_records _)))) ?_ ?_
      · cases streaming <;> simp [FrameRule, Declared]
      · cases streaming <;> simp [counters]
  | providerError error =>
      refine .congr (.andThen (bump_records _) (.lift validateTerminalErrorFrame_ok_iff)) ?_ rfl
      simp [FrameRule, Declared]
  | malformedChunk sequence =>
      refine .congr (.andThen (.lift ensureFrame_ok_iff) (bump_records _)) ?_ rfl
      simp [FrameRule, Declared]
  | partialStream deliveredFrames =>
      refine .congr (.andThen (.failIf _ _) (.andThen (.failIf _ _) (bump_records _))) ?_ rfl
      simp [FrameRule, Declared]
  | timeout timeoutMs =>
      refine .congr (.ite _ (bump_records _) (.refuse _)) ?_ (ite_self _)
      simp [FrameRule, Declared]
  | cancellation cancelledAfterFrames =>
      refine .congr (.andThen (.failIf _ _) (bump_records _)) ?_ rfl
      simp [FrameRule, Declared]
  | policyDenial decisionId reason =>
      refine .congr (.andThen (.lift validateDecisionId_ok_iff) (bump_records _)) ?_ rfl
      simp [FrameRule, Declared]
  | quotaDenial decisionId maxCostMicroUsd expectedStatus =>
      refine .congr (.andThen (.lift validateDecisionId_ok_iff)
        (.andThen (.failIf _ _) (bump_records _))) ?_ rfl
      simp [FrameRule, Declared]

/-- Everything that the harness asks of a provider case, in the order of the checks. -/
structure ProviderSimulationCase.Accepted (case : ProviderSimulationCase) : Prop where
  boundary : WithinBoundary case.request.policy (some case.request.credentialRef)
  route : case.route.Consistent
  usageLineage : (envelopeOfUsage case.usageEvent).Traces case.request
  auditLineage : (envelopeOfAudit case.auditEvent).Traces case.request
  frames : case.outcome.FrameRule case.streamFrames
  declared : case.outcome.Declared case.usageEvent.policyDecisionId

/-- The counters that an accepted provider case raises: those of its outcome, then one for
its route.
-/
def ProviderSimulationCase.counters (case : ProviderSimulationCase) : List SimulationCounter :=
  case.outcome.counters
  ++ if case.route.fallbackUsed then [.routingFallback] else [.routingPrimary]

theorem ProviderSimulationCase.validate_records (case : ProviderSimulationCase)
    : Records reportTally case.validate case.Accepted case.counters := by
  refine .congr (.andThen
    (.lift (mapError_ok_iff.trans ScopedModelRequest.validateBoundary_ok_iff))
    (.andThen (.lift ProviderRouteSimulation.validate_ok_iff)
      (.andThen (.lift validateUsageLineage_ok_iff)
        (.andThen (.lift validateAuditLineage_ok_iff)
          (.andThen case.validateOutcome_records
            (.ite _ (bump_records _) (bump_records _))))))) ?_ rfl
  constructor
  · intro passed
    obtain ⟨boundary, route, usageLineage, auditLineage, ⟨frames, declared⟩, _⟩ := passed
    exact { boundary, route, usageLineage, auditLineage, frames, declared }
  · intro accepted
    exact ⟨accepted.boundary, accepted.route, accepted.usageLineage, accepted.auditLineage,
      ⟨accepted.frames, accepted.declared⟩, by simp⟩

-----------------------------------------------------------------------------------------
-- Tool sessions
-----------------------------------------------------------------------------------------

/-- Some lifecycle event is in the phase. -/
def McpSimulationCase.Reaches (case : McpSimulationCase) (phase : McpLifecyclePhase) : Prop :=
  ∃ event ∈ case.lifecycleEvents, event.phase = phase

/-- The tool calls that the usage event records; none recorded counts as zero. -/
def McpSimulationCase.recordedToolCalls (case : McpSimulationCase) : UInt32 :=
  case.usageEvent.payload.measurements.toolInvocations.getD 0

/-- Everything that the harness asks of a tool session. -/
structure McpSimulationCase.Accepted (case : McpSimulationCase) : Prop where
  boundary : WithinBoundary case.request.policy case.request.credentialRef
  usageLineage : (envelopeOfUsage case.usageEvent).lineage = sessionLineage case.request
  auditLineage : (envelopeOfAudit case.auditEvent).lineage = sessionLineage case.request
  starts : case.Reaches .start
  healthy : case.Reaches .health
  calls : case.Reaches .toolCall
  stops : case.Reaches .stop
  recorded : UInt32.ofNat (case.phaseCount .toolCall) ≤ case.recordedToolCalls

/-- The counters that an accepted session raises. -/
def McpSimulationCase.counters (case : McpSimulationCase) : List SimulationCounter :=
  (if case.request.hostingMode == .gatewayHosted then [.mcpGatewayHosted] else [])
  ++ [.mcpLifecycle]

theorem bumpIf_records (asked : Bool) (counter : SimulationCounter)
    : Records reportTally (bumpIf asked counter) True (if asked then [counter] else []) := by
  cases asked with
  | true => exact bump_records counter
  | false => exact .done

theorem McpSimulationCase.validate_records (case : McpSimulationCase)
    : Records reportTally case.validate case.Accepted case.counters := by
  have reaches (phase : McpLifecyclePhase)
      : case.lifecycleEvents.any (fun event => event.phase == phase) = true
        ↔ case.Reaches phase := by
    simp only [List.any_eq_true, beq_iff_eq, McpSimulationCase.Reaches]
  refine .congr (.andThen
    (.lift (mapError_ok_iff.trans ScopedMcpSessionRequest.validateBoundary_ok_iff))
    (.andThen (.lift validateMcpLineage_ok_iff)
      (.andThen (.failIf _ _)
        (.andThen (.failIf _ _)
          (.andThen (bumpIf_records _ _) (bump_records _)))))) ?_ rfl
  simp only [Bool.not_eq_false', Bool.and_eq_true, reaches, decide_eq_false_iff_not,
    UInt32.not_lt, and_true]
  constructor
  · intro passed
    obtain ⟨boundary, ⟨usageLineage, auditLineage⟩, ⟨⟨⟨starts, healthy⟩, calls⟩, stops⟩,
      recorded⟩ := passed
    exact {
      boundary, usageLineage, auditLineage, starts, healthy, calls, stops, recorded
    }
  · intro accepted
    exact ⟨accepted.boundary, ⟨accepted.usageLineage, accepted.auditLineage⟩,
      ⟨⟨⟨accepted.starts, accepted.healthy⟩, accepted.calls⟩, accepted.stops⟩,
      accepted.recorded⟩

-----------------------------------------------------------------------------------------
-- Replays
-----------------------------------------------------------------------------------------

/-- The idempotency keys of the replayed events. -/
def UsageReplayCase.keys (case : UsageReplayCase) : List String :=
  case.usageEvents.map UsageEvent.idempotencyKey

/-- An event of a replay belongs to its request and can be told apart by its key. -/
structure UsageReplayCase.Replays (case : UsageReplayCase) (event : UsageEvent) : Prop where
  lineage : (envelopeOfUsage event).Traces case.request
  keyed : ¬ IsBlank event.idempotencyKey

/-- Everything that the harness asks of a replay. -/
structure UsageReplayCase.Accepted (case : UsageReplayCase) : Prop where
  boundary : WithinBoundary case.request.policy (some case.request.credentialRef)
  nonempty : case.usageEvents ≠ []
  replays : ∀ event ∈ case.usageEvents, case.Replays event
  charges : case.keys.toFinset.card = case.expectedUniqueChargeCount.toNat

/-- The counters that an accepted replay raises: one if some key was repeated. -/
def UsageReplayCase.counters (case : UsageReplayCase) : List SimulationCounter :=
  if case.usageEvents.length > case.keys.toFinset.card then [.usageReplayIdempotency] else []

/-- The loop accepts events that all replay the request, and adds their keys to the set.
Witness: induction on the events, generalizing the keys collected so far.
-/
theorem UsageReplayCase.uniqueChargeKeys_ok_iff {case : UsageReplayCase}
    {events : List UsageEvent} {keys found : Finset String}
    : case.uniqueChargeKeys keys events = .ok found
      ↔ (∀ event ∈ events, case.Replays event)
        ∧ found = keys ∪ (events.map UsageEvent.idempotencyKey).toFinset := by
  induction events generalizing keys with
  | nil =>
      simp only [uniqueChargeKeys, Except.ok.injEq, List.not_mem_nil, false_implies,
        implies_true, true_and, List.map_nil, List.toFinset_nil, Finset.union_empty]
      exact eq_comm
  | cons event rest ih =>
      have keyed : (trim event.idempotencyKey).isEmpty = false
          ↔ ¬ IsBlank event.idempotencyKey := by
        rw [← trim_isEmpty_iff, Bool.not_eq_true]
      have step
          : case.uniqueChargeKeys keys (event :: rest) = .ok found
            ↔ case.Replays event
              ∧ case.uniqueChargeKeys (insert event.idempotencyKey keys) rest = .ok found := by
        rw [UsageReplayCase.uniqueChargeKeys, andThen_ok_iff, validateUsageLineage_ok_iff]
        constructor
        · intro passed
          obtain ⟨lineage, guarded⟩ := passed
          obtain ⟨filled, remaining⟩ := unless_then_ok_iff.mp guarded
          exact ⟨⟨lineage, keyed.mp filled⟩, remaining⟩
        · intro passed
          obtain ⟨replays, remaining⟩ := passed
          exact ⟨replays.lineage, unless_then_ok_iff.mpr ⟨keyed.mpr replays.keyed, remaining⟩⟩
      rw [step, ih, List.forall_mem_cons, List.map_cons, List.toFinset_cons,
        Finset.insert_union, Finset.union_insert, and_assoc]

theorem UsageReplayCase.validate_records (case : UsageReplayCase)
    : Records reportTally case.validate case.Accepted case.counters := by
  refine .congr (.andThen
    (.lift (mapError_ok_iff.trans ScopedModelRequest.validateBoundary_ok_iff))
    (.andThen (.failIf _ _)
      (.bindLift (fun _ => UsageReplayCase.uniqueChargeKeys_ok_iff)
        (.andThen (.failIf _ _) (bumpIf_records _ _))))) ?_ ?_
  · simp only [Finset.empty_union, bne_eq_false_iff_eq, and_true, List.isEmpty_eq_false_iff]
    constructor
    · intro passed
      obtain ⟨boundary, nonempty, replays, charges⟩ := passed
      exact { boundary, nonempty, replays, charges }
    · intro accepted
      exact ⟨accepted.boundary, accepted.nonempty, accepted.replays, accepted.charges⟩
  · simp only [Finset.empty_union, List.nil_append, decide_eq_true_eq]
    rfl

/-- The same case with its events rewritten. -/
def UsageReplayCase.mapUsage (case : UsageReplayCase) (rewrite : UsageEvent → UsageEvent)
    : UsageReplayCase :=
  { case with usageEvents := case.usageEvents.map rewrite }

/-- The harness reads a replayed event through its lineage and its key: rewriting anything
else of the events changes no answer. Witness: induction on the events.
-/
theorem UsageReplayCase.validate_mapUsage (case : UsageReplayCase)
    {rewrite : UsageEvent → UsageEvent}
    (lineage : ∀ usage, validateUsageLineage case.id (rewrite usage) case.request
      = validateUsageLineage case.id usage case.request)
    (key : ∀ usage, (rewrite usage).idempotencyKey = usage.idempotencyKey)
    : (case.mapUsage rewrite).validate = case.validate := by
  have loop (keys : Finset String) (events : List UsageEvent)
      : (case.mapUsage rewrite).uniqueChargeKeys keys (events.map rewrite)
        = case.uniqueChargeKeys keys events := by
    induction events generalizing keys with
    | nil => rfl
    | cons event rest ih =>
        have remaining := ih (insert event.idempotencyKey keys)
        rw [List.map_cons, uniqueChargeKeys, uniqueChargeKeys, ← remaining, key, ← lineage]
        rfl
  have events : (case.mapUsage rewrite).usageEvents = case.usageEvents.map rewrite := rfl
  unfold UsageReplayCase.validate
  rw [events, List.isEmpty_map, loop, List.length_map]
  rfl

-----------------------------------------------------------------------------------------
-- The fixture
-----------------------------------------------------------------------------------------

/-- Everything that the harness asks of a fixture but the coverage of its report. -/
structure GatewaySimulationFixture.Accepted (fixture : GatewaySimulationFixture) : Prop where
  seeded : ¬ IsBlank fixture.seed
  someProvider : fixture.providerCases ≠ []
  someMcp : fixture.mcpCases ≠ []
  providerCases : ∀ case ∈ fixture.providerCases, case.Accepted
  mcpCases : ∀ case ∈ fixture.mcpCases, case.Accepted
  usageReplayCases : ∀ case ∈ fixture.usageReplayCases, case.Accepted

/-- The counters that the cases of an accepted fixture raise, in order. -/
def GatewaySimulationFixture.counters (fixture : GatewaySimulationFixture)
    : List SimulationCounter :=
  fixture.providerCases.flatMap ProviderSimulationCase.counters
  ++ (fixture.mcpCases.flatMap McpSimulationCase.counters
    ++ fixture.usageReplayCases.flatMap UsageReplayCase.counters)

theorem GatewaySimulationFixture.validateCases_records (fixture : GatewaySimulationFixture)
    : Records reportTally fixture.validateCases
        ((∀ case ∈ fixture.providerCases, case.Accepted)
          ∧ (∀ case ∈ fixture.mcpCases, case.Accepted)
          ∧ ∀ case ∈ fixture.usageReplayCases, case.Accepted)
        fixture.counters :=
  .andThen (.each ProviderSimulationCase.validate_records)
    (.andThen (.each McpSimulationCase.validate_records)
      (.each UsageReplayCase.validate_records))

theorem SimulationReport.validateRequiredCoverage_ok_iff {report : SimulationReport}
    : report.validateRequiredCoverage = .ok ()
      ↔ ∀ counter ∈ requiredCounters, report.count counter ≠ 0 := by
  rw [SimulationReport.validateRequiredCoverage, forM_ok_iff]
  refine forall_congr' (fun counter => imp_congr_right (fun _ => ?_))
  exact unless_ok_iff.trans (beq_eq_false_iff_ne)

/-- An accepted run of the cases becomes the report, if it covers what is required. -/
theorem GatewaySimulationFixture.validate_ok_iff_run {fixture : GatewaySimulationFixture}
    {report : SimulationReport}
    : fixture.validate = .ok report
      ↔ ¬ IsBlank fixture.seed
        ∧ fixture.providerCases ≠ []
        ∧ fixture.mcpCases ≠ []
        ∧ (fixture.validateCases.from {}).1 = .ok ()
        ∧ (fixture.validateCases.from {}).2 = report
        ∧ report.validateRequiredCoverage = .ok () := by
  rw [validate, unless_then_ok_iff, unless_then_ok_iff, unless_then_ok_iff,
    ← trim_isEmpty_iff, Bool.not_eq_true, List.isEmpty_eq_false_iff,
    List.isEmpty_eq_false_iff]
  refine and_congr_right (fun _ => and_congr_right (fun _ => and_congr_right (fun _ => ?_)))
  rcases fixture.validateCases.from {} with ⟨verdict, counted⟩
  cases verdict with
  | error error => simp
  | ok _ =>
      have ending : (counted.validateRequiredCoverage >>= fun _ => .ok counted) = .ok report
          ↔ counted.validateRequiredCoverage = .ok () ∧ counted = report := by
        rw [andThen_ok_iff, Except.ok.injEq]
      refine ending.trans ?_
      constructor
      · intro covered
        obtain ⟨covered, rfl⟩ := covered
        exact ⟨rfl, rfl, covered⟩
      · intro covered
        obtain ⟨_, rfl, covered⟩ := covered
        exact ⟨covered, rfl⟩

/-- The harness accepts exactly the fixtures whose cases it accepts and whose counters leave
no required one at zero; the report has counted these counters and nothing else.
-/
theorem GatewaySimulationFixture.validate_ok_iff {fixture : GatewaySimulationFixture}
    {report : SimulationReport}
    : fixture.validate = .ok report
      ↔ fixture.Accepted
        ∧ report = reportTally.record {} fixture.counters
        ∧ ∀ counter ∈ requiredCounters, report.count counter ≠ 0 := by
  have recorded := fixture.validateCases_records
  rw [validate_ok_iff_run, recorded.passes, SimulationReport.validateRequiredCoverage_ok_iff]
  constructor
  · intro accepted
    obtain ⟨seeded, someProvider, someMcp, cases, left, covered⟩ := accepted
    have counted := recorded.leaves cases {}
    obtain ⟨providerCases, mcpCases, usageReplayCases⟩ := cases
    refine ⟨?_, left.symm.trans counted, covered⟩
    exact { seeded, someProvider, someMcp, providerCases, mcpCases, usageReplayCases }
  · intro accepted
    obtain ⟨accepted, counted, covered⟩ := accepted
    have cases := And.intro accepted.providerCases
      (And.intro accepted.mcpCases accepted.usageReplayCases)
    exact ⟨accepted.seeded, accepted.someProvider, accepted.someMcp, cases,
      (recorded.leaves cases {}).trans counted.symm, covered⟩

end TaskotterGateway.Simulation
