import TaskotterGateway.Provider.Streaming
import TaskotterGateway.Simulation.Acceptance

/-! Runs of the fake provider under the harness. What the adapter produces is what the
harness asks of a case, whichever way the run ends; without a run there is nothing to accept.
-/

namespace TaskotterGateway.Simulation

open Text Contracts RecordedChecks
open Provider
open Provider.FakeProviderAdapter (complete stream)

/-- The case records a run of the fake provider on its primary route: the frames and the
usage of its request, an audit event of the gateway about it, and the outcome that the
messages ask for.
-/
structure ProviderSimulationCase.RecordsFakeRun (case : ProviderSimulationCase) : Prop where
  selected : case.route.selectedProvider = case.route.primaryProvider
  primary : case.route.fallbackUsed = false
  frames : stream case.request = .ok case.streamFrames
  usage : ∃ response error, case.usageEvent
    = FakeProviderAdapter.usageEvent case.request response error
  source : case.auditEvent.source = .gateway
  requestId : case.auditEvent.requestId = case.request.requestId
  correlationId : case.auditEvent.correlationId = case.request.correlationId
  decisionId : case.auditEvent.policyDecisionId = case.request.policy.policyDecisionId
  failed : (∃ message ∈ case.request.messages, contains message.content "error:rate_limit" = true)
    → ∃ error, complete case.request = .error error ∧ case.outcome = .providerError error
  completed : (¬ ∃ message ∈ case.request.messages,
      contains message.content "error:rate_limit" = true)
    → ∃ content, case.outcome = .success true content

namespace ProviderSimulationCase.RecordsFakeRun

variable {case : ProviderSimulationCase}

/-- Only requests within the boundary have runs. -/
theorem boundary (run : case.RecordsFakeRun) : case.request.validateBoundary = .ok () :=
  boundary_of_streamed run.frames

/-- The frames of a run are the transcript of its completion. -/
theorem frames_eq (run : case.RecordsFakeRun)
    : case.streamFrames
      = framesOf case.request.requestId (transcript (complete case.request)) :=
  frames_of_streamed run.frames

/-- The frames of a run are numbered as the harness counts them. -/
theorem numbered (run : case.RecordsFakeRun) : Numbered case.streamFrames := by
  intro index frame atIndex
  exact stream_numbered run.frames atIndex

end ProviderSimulationCase.RecordsFakeRun

/-- The transcript of an answer is a completed stream: it starts, and it ends with usage. -/
theorem completedStream_of_transcriptOf {requestId : String} {response : ModelResponse}
    (numbered : Numbered (framesOf requestId (transcriptOf response)))
    : CompletedStream (framesOf requestId (transcriptOf response)) where
  starts := ⟨StreamItem.start.frame requestId 0, by rw [framesOf_transcriptOf]; rfl, rfl⟩
  finishes := by
    rw [framesOf_transcriptOf, List.getLast?_append]
    exact ⟨_, rfl, rfl, rfl⟩
  numbered := numbered

/-- The transcript of a failure ends in an error frame with the code of the failure. -/
theorem failedStream_of_transcriptOfFailure {requestId : String} {error : NormalizedError}
    (numbered : Numbered (framesOf requestId (transcriptOfFailure error)))
    : FailedStream error.code (framesOf requestId (transcriptOfFailure error)) := by
  intro last atEnd
  obtain rfl := Option.some.inj atEnd
  exact ⟨rfl, rfl, numbered⟩

namespace ProviderSimulationCase.RecordsFakeRun

variable {case : ProviderSimulationCase}

/-- The decision of a run is named like a decision, and so not like an instruction. -/
theorem notDispatched (run : case.RecordsFakeRun)
    : startsWith case.request.policy.policyDecisionId "gwi_" = false := by
  have within := ScopedModelRequest.validateBoundary_ok_iff.mp run.boundary
  have decision : NamesDecision case.request.policy.policyDecisionId :=
    within.policy.policyDecisionId
  exact Bool.eq_false_iff.mpr (mt startsWith_iff.mp decision.not_namesInstruction)

/-- What the outcome of a run is, on either branch of the adapter. -/
theorem outcome_eq (run : case.RecordsFakeRun)
    : (triggersRateLimit case.request = true
        ∧ complete case.request = .error rateLimitError
        ∧ case.outcome = .providerError rateLimitError)
      ∨ (triggersRateLimit case.request = false
        ∧ complete case.request = .ok (fakeResponse case.request)
        ∧ ∃ content, case.outcome = .success true content) := by
  cases asked : triggersRateLimit case.request with
  | true =>
      have found := triggersRateLimit_iff.mp asked
      have answer := complete_of_asked run.boundary found
      obtain ⟨error, refused, outcome⟩ := run.failed found
      rw [answer, Except.error.injEq] at refused
      exact .inl ⟨rfl, answer, refused ▸ outcome⟩
  | false =>
      have unasked : ¬ ∃ message ∈ case.request.messages,
          contains message.content "error:rate_limit" = true := by
        rw [← triggersRateLimit_iff, asked]
        simp
      exact .inr ⟨rfl, complete_of_unasked run.boundary unasked, run.completed unasked⟩

/-- The frames of a run obey the rule of its outcome, on either branch of the adapter. -/
theorem frameRule (run : case.RecordsFakeRun) : case.outcome.FrameRule case.streamFrames := by
  have numbered := run.numbered
  rw [run.frames_eq] at numbered ⊢
  rcases run.outcome_eq with ⟨_, refused, outcome⟩ | ⟨_, answer, content, outcome⟩
  · rw [refused] at numbered ⊢
    rw [outcome]
    exact failedStream_of_transcriptOfFailure numbered
  · rw [answer] at numbered ⊢
    rw [outcome]
    exact completedStream_of_transcriptOf numbered

/-- No outcome of a run declares anything about its own fields. -/
theorem declares (run : case.RecordsFakeRun)
    : case.outcome.Declared case.usageEvent.policyDecisionId := by
  rcases run.outcome_eq with ⟨_, _, outcome⟩ | ⟨_, _, content, outcome⟩
  · rw [outcome]
    trivial
  · rw [outcome]
    trivial

/-- The usage event of a run belongs to its request; its decision is canonical. -/
theorem usageTraces (run : case.RecordsFakeRun)
    : (envelopeOfUsage case.usageEvent).Traces case.request := by
  obtain ⟨response, error, recorded⟩ := run.usage
  rw [recorded]
  exact ⟨rfl, rfl, run.notDispatched⟩

/-- So does its audit event. -/
theorem auditTraces (run : case.RecordsFakeRun)
    : (envelopeOfAudit case.auditEvent).Traces case.request where
  source := run.source
  lineage := by
    simp only [EventEnvelope.lineage, envelopeOfAudit, modelLineage, run.requestId,
      run.correlationId, run.decisionId]
  notDispatched := by
    simp only [envelopeOfAudit, run.decisionId]
    exact run.notDispatched

/-- Everything that the harness asks of a case is met by a run. -/
theorem accepted (run : case.RecordsFakeRun) : case.Accepted where
  boundary := ScopedModelRequest.validateBoundary_ok_iff.mp run.boundary
  route := by
    rw [ProviderRouteSimulation.Consistent, run.primary]
    exact run.selected
  usageLineage := run.usageTraces
  auditLineage := run.auditTraces
  frames := run.frameRule
  declared := run.declares

/-- A run is counted under its outcome and under the primary route. -/
theorem counters_eq (run : case.RecordsFakeRun)
    : case.counters
      = if triggersRateLimit case.request then
          [.rateLimit, .routingPrimary]
        else
          [.providerSuccess, .streamingSuccess, .routingPrimary] := by
  rw [ProviderSimulationCase.counters, run.primary]
  rcases run.outcome_eq with ⟨asked, _, outcome⟩ | ⟨unasked, _, content, outcome⟩
  · rw [asked, outcome]
    rfl
  · rw [unasked, outcome]
    rfl

end ProviderSimulationCase.RecordsFakeRun

/-- What a run of the fake provider adds to a report. -/
def SimulationReport.countFakeRun (report : SimulationReport) (request : ScopedModelRequest)
    : SimulationReport :=
  if triggersRateLimit request then
    (report.bump .rateLimit).bump .routingPrimary
  else
    ((report.bump .providerSuccess).bump .streamingSuccess).bump .routingPrimary

/-- The harness accepts a run and counts it, from whatever report. -/
theorem ProviderSimulationCase.RecordsFakeRun.validate_eq {case : ProviderSimulationCase}
    (run : case.RecordsFakeRun) (report : SimulationReport)
    : case.validate.from report = (.ok (), report.countFakeRun case.request) := by
  have recorded := case.validate_records
  have passes := (recorded.passes report).mpr run.accepted
  have leaves := recorded.leaves run.accepted report
  rw [run.counters_eq] at leaves
  refine Prod.ext passes (leaves.trans ?_)
  unfold SimulationReport.countFakeRun
  cases triggersRateLimit case.request with
  | true => rfl
  | false => rfl

/-- A request outside the boundary is the first thing that the harness refuses a case for. -/
theorem ProviderSimulationCase.validate_of_boundary {case : ProviderSimulationCase}
    {error : NormalizedError} (refused : case.request.validateBoundary = .error error)
    (report : SimulationReport)
    : case.validate.from report = (.error (.fromNormalized case.id error), report) := by
  rw [ProviderSimulationCase.validate, refused]
  rfl

/-- The harness accepts every run of the fake provider and counts it once, under what it
shows: a request within the boundary is streamed, and any case that records its run passes.
A request outside the boundary is refused by both sides with the same error.
-/
theorem fakeRuns_accepted (request : ScopedModelRequest) (report : SimulationReport)
    : (request.validateBoundary = .ok ()
        → (∃ frames, stream request = .ok frames)
          ∧ ∀ case : ProviderSimulationCase, case.request = request
            → case.RecordsFakeRun
            → case.validate.from report = (.ok (), report.countFakeRun request))
      ∧ ∀ error, request.validateBoundary = .error error
        → stream request = .error error
          ∧ ∀ case : ProviderSimulationCase, case.request = request
            → case.validate.from report = (.error (.fromNormalized case.id error), report) := by
  constructor
  · intro boundary
    refine ⟨⟨_, stream_of_boundary boundary⟩, ?_⟩
    rintro case rfl run
    exact run.validate_eq report
  · intro error refused
    refine ⟨(refused_of_boundary refused).1, ?_⟩
    rintro case rfl
    exact case.validate_of_boundary refused report

/-- The case that records the fake provider's run of a request. -/
def fakeRunCase (request : ScopedModelRequest) : ProviderSimulationCase where
  id := "provider_case"
  request
  route := {
    primaryProvider := "fake-hosted"
    fallbackProvider := none
    selectedProvider := "fake-hosted"
    fallbackUsed := false
    reason := none
  }
  outcome :=
    match complete request with
    | .ok response => .success true response.content
    | .error error => .providerError error
  usageEvent := FakeProviderAdapter.usageEvent request none none
  auditEvent := {
    simulationAudit with
    requestId := request.requestId
    correlationId := request.correlationId
    policyDecisionId := request.policy.policyDecisionId
  }
  streamFrames := ((stream request).toOption).getD []

/-- Within the boundary, this is a run. -/
theorem fakeRunCase_records {request : ScopedModelRequest}
    (boundary : request.validateBoundary = .ok ())
    : (fakeRunCase request).RecordsFakeRun where
  selected := rfl
  primary := rfl
  frames := by
    simp only [fakeRunCase]
    rw [stream_of_boundary boundary]
    rfl
  usage := ⟨none, none, rfl⟩
  source := rfl
  requestId := rfl
  correlationId := rfl
  decisionId := rfl
  failed asked := by
    have answer : complete request = .error rateLimitError := complete_of_asked boundary asked
    refine ⟨_, answer, ?_⟩
    simp only [fakeRunCase]
    rw [answer]
  completed unasked := by
    have answer : complete request = .ok (fakeResponse request) :=
      complete_of_unasked boundary unasked
    refine ⟨(fakeResponse request).content, ?_⟩
    simp only [fakeRunCase]
    rw [answer]

/-- A request that asks the fake provider for a rate limit. -/
def limitedRequest : ScopedModelRequest :=
  fakeRequest "fake-deterministic-v1" [{ role := "user", content := "error:rate_limit" }]

/-- A greeting is answered and counted as a streaming success on the primary route, and a
request that is rate limited is counted as that.
-/
theorem fakeRuns_accepted_greeting
    : (fakeRunCase greetingRequest).validate.from {}
        = (.ok (),
          ((SimulationReport.bump {} .providerSuccess).bump .streamingSuccess).bump
            .routingPrimary)
      ∧ (fakeRunCase limitedRequest).validate.from {}
        = (.ok (), (SimulationReport.bump {} .rateLimit).bump .routingPrimary) := by
  have accepted (request : ScopedModelRequest) (boundary : request.validateBoundary = .ok ()) :=
    ((fakeRuns_accepted request {}).1 boundary).2 (fakeRunCase request) rfl
      (fakeRunCase_records boundary)
  constructor
  · exact accepted greetingRequest (fakeRequest_boundary _ _)
  · exact accepted limitedRequest (fakeRequest_boundary _ _)

end TaskotterGateway.Simulation
