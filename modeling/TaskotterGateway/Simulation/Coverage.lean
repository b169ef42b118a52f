import TaskotterGateway.Simulation.Report

/-! What an accepted simulation has shown. A counter above zero was raised by some case of
the behaviour it stands for; two promised behaviours have no required counter.
-/

namespace TaskotterGateway.Simulation

open Text Contracts RecordedChecks

/-- The outcome is of the kind that a counter stands for. -/
def ProviderSimulationOutcome.Shows (outcome : ProviderSimulationOutcome)
    : SimulationCounter → Prop
  | .providerSuccess => ∃ streaming content, outcome = .success streaming content
  | .streamingSuccess => ∃ content, outcome = .success true content
  | .nonStreamingSuccess => ∃ content, outcome = .success false content
  | .rateLimit => ∃ error, outcome = .providerError error ∧ error.code = .rateLimited
  | .providerError => ∃ error, outcome = .providerError error ∧ error.code ≠ .rateLimited
  | .malformedStream => ∃ sequence, outcome = .malformedChunk sequence
  | .partialStream => ∃ deliveredFrames, outcome = .partialStream deliveredFrames
  | .timeout => ∃ timeoutMs, outcome = .timeout timeoutMs
  | .cancellation => ∃ cancelledAfterFrames, outcome = .cancellation cancelledAfterFrames
  | .policyDenial => ∃ decisionId reason, outcome = .policyDenial decisionId reason
  | .quotaDenial => ∃ decisionId maxCostMicroUsd expectedStatus,
      outcome = .quotaDenial decisionId maxCostMicroUsd expectedStatus
  | .routingPrimary | .routingFallback | .usageReplayIdempotency | .mcpLifecycle
  | .mcpGatewayHosted => False

/-- The route or the outcome of a case is of the kind that a counter stands for. -/
def ProviderSimulationCase.Shows (case : ProviderSimulationCase)
    : SimulationCounter → Prop
  | .routingPrimary => case.route.fallbackUsed = false
  | .routingFallback => case.route.fallbackUsed = true
  | counter => case.outcome.Shows counter

/-- The behaviours of providers that the simulation promises to validate. -/
def promisedBehaviours : List SimulationCounter :=
  [
    .routingPrimary,
    .routingFallback,
    .streamingSuccess,
    .nonStreamingSuccess,
    .rateLimit,
    .providerError,
    .malformedStream,
    .partialStream,
    .timeout,
    .cancellation,
    .policyDenial,
    .quotaDenial
  ]

/-- Some provider case of the fixture shows the behaviour. -/
def GatewaySimulationFixture.ShowsProvider (fixture : GatewaySimulationFixture)
    (behaviour : SimulationCounter)
    : Prop :=
  ∃ case ∈ fixture.providerCases, case.Shows behaviour

/-- Some session of the fixture is hosted by the gateway. -/
def GatewaySimulationFixture.ShowsHostedSession (fixture : GatewaySimulationFixture) : Prop :=
  ∃ case ∈ fixture.mcpCases, case.request.hostingMode = .gatewayHosted

/-- Every promised behaviour is shown by some case: those of providers, and a session
hosted by the gateway with a tool call.
-/
structure GatewaySimulationFixture.Covers (fixture : GatewaySimulationFixture) : Prop where
  providers : ∀ behaviour ∈ promisedBehaviours, fixture.ShowsProvider behaviour
  hostedCall : ∃ case ∈ fixture.mcpCases,
    case.request.hostingMode = .gatewayHosted ∧ case.Reaches .toolCall

/-- An outcome shows what its counters stand for, by cases on the outcome. -/
theorem ProviderSimulationOutcome.shows_of_mem_counters {outcome : ProviderSimulationOutcome}
    {counter : SimulationCounter} (member : counter ∈ outcome.counters)
    : outcome.Shows counter := by
  cases outcome with
  | success streaming content =>
      cases streaming with
      | true =>
          rcases List.mem_pair.mp member with rfl | rfl
          · exact ⟨true, content, rfl⟩
          · exact ⟨content, rfl⟩
      | false =>
          rcases List.mem_pair.mp member with rfl | rfl
          · exact ⟨false, content, rfl⟩
          · exact ⟨content, rfl⟩
  | providerError error =>
      have raised := List.mem_singleton.mp member
      cases limited : error.code == .rateLimited with
      | true =>
          simp only [limited, if_true] at raised
          rw [raised]
          exact ⟨error, rfl, beq_iff_eq.mp limited⟩
      | false =>
          simp only [limited, Bool.false_eq_true, if_false] at raised
          rw [raised]
          exact ⟨error, rfl, beq_eq_false_iff_ne.mp limited⟩
  | malformedChunk sequence =>
      rw [List.mem_singleton.mp member]
      exact ⟨sequence, rfl⟩
  | partialStream deliveredFrames =>
      rw [List.mem_singleton.mp member]
      exact ⟨deliveredFrames, rfl⟩
  | timeout timeoutMs =>
      rw [List.mem_singleton.mp member]
      exact ⟨timeoutMs, rfl⟩
  | cancellation cancelledAfterFrames =>
      rw [List.mem_singleton.mp member]
      exact ⟨cancelledAfterFrames, rfl⟩
  | policyDenial decisionId reason =>
      rw [List.mem_singleton.mp member]
      exact ⟨decisionId, reason, rfl⟩
  | quotaDenial decisionId maxCostMicroUsd expectedStatus =>
      rw [List.mem_singleton.mp member]
      exact ⟨decisionId, maxCostMicroUsd, expectedStatus, rfl⟩

/-- A case shows what its counters stand for: its route shows the routing counter, and no
outcome stands for a route.
-/
theorem ProviderSimulationCase.shows_of_mem_counters {case : ProviderSimulationCase}
    {counter : SimulationCounter} (member : counter ∈ case.counters)
    : case.Shows counter := by
  rcases List.mem_append.mp member with ofOutcome | ofRoute
  · have shown := ProviderSimulationOutcome.shows_of_mem_counters ofOutcome
    cases counter <;> first | exact shown | contradiction
  · cases used : case.route.fallbackUsed with
    | true =>
        simp only [used, if_true, List.mem_singleton] at ofRoute
        rw [ofRoute]
        exact used
    | false =>
        simp only [used, Bool.false_eq_true, if_false, List.mem_singleton] at ofRoute
        rw [ofRoute]
        exact used

namespace GatewaySimulationFixture

variable {fixture : GatewaySimulationFixture} {report : SimulationReport}

/-- A counter of an accepted report that is not zero was raised by some case. -/
theorem mem_counters_of_count_ne_zero (accepted : fixture.validate = .ok report)
    {counter : SimulationCounter} (raised : report.count counter ≠ 0)
    : counter ∈ fixture.counters := by
  obtain ⟨_, counted, _⟩ := validate_ok_iff.mp accepted
  have read := reportTally.read_record reportTally.empty fixture.counters counter
  by_contra missing
  rw [List.count_eq_zero.mpr missing, reportTally.read_empty] at read
  apply raised
  rw [counted]
  exact UInt32.toNat_inj.mp read

/-- A counter that only provider cases raise shows its behaviour in one of them. -/
theorem showsProvider_of_mem_counters {counter : SimulationCounter}
    (member : counter ∈ fixture.counters)
    (apartMcp : counter ∉ [.mcpGatewayHosted, .mcpLifecycle])
    (apartReplay : counter ∉ [.usageReplayIdempotency])
    : fixture.ShowsProvider counter := by
  rcases List.mem_append.mp member with byProvider | byOther
  · obtain ⟨case, present, raised⟩ := List.mem_flatMap.mp byProvider
    exact ⟨case, present, ProviderSimulationCase.shows_of_mem_counters raised⟩
  · rcases List.mem_append.mp byOther with bySession | byReplay
    · obtain ⟨case, _, raised⟩ := List.mem_flatMap.mp bySession
      exact absurd (case.counters_subset raised) apartMcp
    · obtain ⟨case, _, raised⟩ := List.mem_flatMap.mp byReplay
      exact absurd (case.counters_subset raised) apartReplay

/-- Every promised behaviour but the generic failure has a required counter. -/
theorem required_of_promised
    : ∀ behaviour ∈ promisedBehaviours,
        behaviour = .providerError
        ∨ behaviour ∈ requiredCounters
          ∧ behaviour ∉ [.mcpGatewayHosted, .mcpLifecycle]
          ∧ behaviour ∉ [.usageReplayIdempotency] := by
  decide

/-- An accepted fixture keeps the promise of the harness exactly when it has a generic
provider failure and a session hosted by the gateway, which no required counter asks for.
-/
theorem covers_iff (accepted : fixture.validate = .ok report)
    : fixture.Covers
      ↔ fixture.ShowsProvider .providerError ∧ fixture.ShowsHostedSession := by
  obtain ⟨cases, _, covered⟩ := validate_ok_iff.mp accepted
  constructor
  · intro covers
    obtain ⟨case, present, hosted, _⟩ := covers.hostedCall
    exact ⟨covers.providers .providerError (by decide), case, present, hosted⟩
  · intro shown
    obtain ⟨generic, case, present, hosted⟩ := shown
    refine ⟨?_, case, present, hosted, (cases.mcpCases case present).calls⟩
    intro behaviour promised
    rcases required_of_promised behaviour promised with rfl | ⟨required, apartMcp, apartReplay⟩
    · exact generic
    · have raised := mem_counters_of_count_ne_zero accepted (covered behaviour required)
      exact showsProvider_of_mem_counters raised apartMcp apartReplay

/-- The repository's own fixture has no generic failure, so it does not keep the promise. -/
theorem covers_iff_eval
    : evalFixture.Covers
      ↔ evalFixture.ShowsProvider .providerError ∧ evalFixture.ShowsHostedSession :=
  covers_iff evalFixture_validate

/-- Acceptance does not imply coverage: the repository's own fixture is accepted without a
generic provider failure.
-/
theorem not_covers_eval
    : ¬ ∀ (fixture : GatewaySimulationFixture) (report : SimulationReport),
          fixture.validate = .ok report → fixture.Covers := by
  intro promise
  have covers := promise evalFixture evalReport evalFixture_validate
  obtain ⟨case, present, error, failed, generic⟩ := covers.providers .providerError (by decide)
  have limited : evalFixture.providerCases.all
      (fun case =>
        match case.outcome with
        | .providerError error => error.code == .rateLimited
        | _ => true)
      = true := by
    decide
  have limitedHere := List.all_eq_true.mp limited case present
  rw [failed] at limitedHere
  exact generic (beq_iff_eq.mp limitedHere)

end GatewaySimulationFixture

end TaskotterGateway.Simulation
