import TaskotterGateway.Simulation.Acceptance

/-! What an accepted report says about its fixture. The cases are recorded checks, so the
loops count each case apart from the others, and every sum of counters is a number of cases.
-/

namespace TaskotterGateway.Simulation

open Text Contracts RecordedChecks

/-- The outcome is a success, streamed or not. -/
def ProviderSimulationOutcome.isSuccess : ProviderSimulationOutcome → Bool
  | .success _ _ => true
  | _ => false

/-- The counters of the outcomes that are no success. -/
def failureCounters : List SimulationCounter :=
  [
    .providerError,
    .rateLimit,
    .malformedStream,
    .partialStream,
    .timeout,
    .cancellation,
    .policyDenial,
    .quotaDenial
  ]

namespace ProviderSimulationOutcome

/-- What holds of the counters of both successes, and of every single counter of a failure,
holds of the counters of every outcome.
-/
theorem counters_induction {motive : Bool → List SimulationCounter → Prop}
    (streamed : motive true [.providerSuccess, .streamingSuccess])
    (whole : motive true [.providerSuccess, .nonStreamingSuccess])
    (failed : ∀ counter ∈ failureCounters, motive false [counter])
    (outcome : ProviderSimulationOutcome)
    : motive outcome.isSuccess outcome.counters := by
  cases outcome with
  | success streaming content =>
      cases streaming with
      | true => exact streamed
      | false => exact whole
  | providerError error =>
      apply failed
      split <;> simp [failureCounters]
  | malformedChunk sequence => exact failed .malformedStream (by simp [failureCounters])
  | partialStream deliveredFrames => exact failed .partialStream (by simp [failureCounters])
  | timeout timeoutMs => exact failed .timeout (by simp [failureCounters])
  | cancellation cancelledAfterFrames =>
      exact failed .cancellation (by simp [failureCounters])
  | policyDenial decisionId reason => exact failed .policyDenial (by simp [failureCounters])
  | quotaDenial decisionId maxCostMicroUsd expectedStatus =>
      exact failed .quotaDenial (by simp [failureCounters])

/-- An accepted outcome raises one counter of the nine kinds of outcome. -/
theorem countAmong_kinds (outcome : ProviderSimulationOutcome)
    : countAmong
        [.providerSuccess, .providerError, .rateLimit, .malformedStream, .partialStream,
          .timeout, .cancellation, .policyDenial, .quotaDenial]
        outcome.counters
      = 1 := by
  refine counters_induction (motive := fun _ raised => countAmong _ raised = 1) rfl rfl ?_ outcome
  decide

/-- Exactly a success raises the counter of successes. -/
theorem countAmong_success (outcome : ProviderSimulationOutcome)
    : countAmong [.providerSuccess] outcome.counters = if outcome.isSuccess then 1 else 0 := by
  refine counters_induction
    (motive := fun succeeds raised => countAmong _ raised = if succeeds then 1 else 0) rfl rfl
    ?_ outcome
  decide

/-- Exactly a success raises the counter of streamed or the one of other successes. -/
theorem countAmong_streaming (outcome : ProviderSimulationOutcome)
    : countAmong [.streamingSuccess, .nonStreamingSuccess] outcome.counters
      = if outcome.isSuccess then 1 else 0 := by
  refine counters_induction
    (motive := fun succeeds raised => countAmong _ raised = if succeeds then 1 else 0) rfl rfl
    ?_ outcome
  decide

/-- No outcome raises a routing counter. -/
theorem countAmong_routing (outcome : ProviderSimulationOutcome)
    : countAmong [.routingPrimary, .routingFallback] outcome.counters = 0 := by
  refine counters_induction (motive := fun _ raised => countAmong _ raised = 0) rfl rfl ?_ outcome
  decide

theorem counters_nodup (outcome : ProviderSimulationOutcome) : outcome.counters.Nodup := by
  refine counters_induction (motive := fun _ raised => raised.Nodup) (by simp) (by simp) ?_ outcome
  intro counter _
  exact List.nodup_singleton counter

end ProviderSimulationOutcome

/-- A case raises each of its counters once: its outcome raises none for the route. -/
theorem ProviderSimulationCase.counters_nodup (case : ProviderSimulationCase)
    : case.counters.Nodup := by
  have routing := case.outcome.countAmong_routing
  simp only [countAmong, List.map_cons, List.map_nil, List.sum_cons, List.sum_nil,
    Nat.add_eq_zero_iff, List.count_eq_zero] at routing
  obtain ⟨primary, fallback, _⟩ := routing
  unfold ProviderSimulationCase.counters
  split
  · exact case.outcome.counters_nodup.append (List.nodup_singleton _) (by simpa using fallback)
  · exact case.outcome.counters_nodup.append (List.nodup_singleton _) (by simpa using primary)

theorem McpSimulationCase.counters_nodup (case : McpSimulationCase) : case.counters.Nodup := by
  unfold McpSimulationCase.counters
  split <;> simp

theorem UsageReplayCase.counters_nodup (case : UsageReplayCase) : case.counters.Nodup := by
  unfold UsageReplayCase.counters
  split <;> simp

def ProviderSimulationCase.recording (case : ProviderSimulationCase)
    : Recording SimulationError reportTally :=
  ⟨_, _, _, case.validate_records, case.counters_nodup⟩

def McpSimulationCase.recording (case : McpSimulationCase)
    : Recording SimulationError reportTally :=
  ⟨_, _, _, case.validate_records, case.counters_nodup⟩

def UsageReplayCase.recording (case : UsageReplayCase)
    : Recording SimulationError reportTally :=
  ⟨_, _, _, case.validate_records, case.counters_nodup⟩

namespace GatewaySimulationFixture

variable (fixture : GatewaySimulationFixture)

/-- All cases of the fixture, in the order of the loops. -/
def recordings : List (Recording SimulationError reportTally) :=
  fixture.providerCases.map ProviderSimulationCase.recording
  ++ (fixture.mcpCases.map McpSimulationCase.recording
    ++ fixture.usageReplayCases.map UsageReplayCase.recording)

/-- The number of cases of all three kinds. -/
def caseCount : Nat :=
  fixture.providerCases.length + fixture.mcpCases.length + fixture.usageReplayCases.length

theorem length_recordings : fixture.recordings.length = fixture.caseCount := by
  simp only [recordings, caseCount, List.length_append, List.length_map, Nat.add_assoc]

theorem flatMap_marks_recordings
    : fixture.recordings.flatMap Recording.marks = fixture.counters := by
  simp only [recordings, counters, List.flatMap_append, List.flatMap_map]
  rfl

/-- The cases of the fixture are accepted exactly when each recording is. -/
theorem recordings_hold_iff
    : (∀ recording ∈ fixture.recordings, recording.condition)
      ↔ (∀ case ∈ fixture.providerCases, case.Accepted)
        ∧ (∀ case ∈ fixture.mcpCases, case.Accepted)
        ∧ ∀ case ∈ fixture.usageReplayCases, case.Accepted := by
  simp only [recordings, List.forall_mem_append, List.forall_mem_map]
  rfl

/-- The reading of a counter in an accepted report, with room for all cases. -/
theorem count_of_accepted {report : SimulationReport}
    (few : fixture.caseCount < 2 ^ 32) (accepted : fixture.validate = .ok report)
    (counter : SimulationCounter)
    : (report.count counter).toNat = fixture.counters.count counter := by
  obtain ⟨_, counted, _⟩ := validate_ok_iff.mp accepted
  have room : fixture.recordings.length < reportTally.capacity := by
    rw [length_recordings]
    exact few
  have few := Recording.count_marks_le fixture.recordings counter
  have read := reportTally.read_record reportTally.empty fixture.counters counter
  rw [flatMap_marks_recordings] at few
  rw [reportTally.read_empty, Nat.zero_add, Nat.mod_eq_of_lt (few.trans_lt room)] at read
  rw [counted]
  exact read

/-- The validations of all cases, in the order of the loops. -/
def checks : List (Harness Unit) :=
  fixture.providerCases.map ProviderSimulationCase.validate
  ++ (fixture.mcpCases.map McpSimulationCase.validate
    ++ fixture.usageReplayCases.map UsageReplayCase.validate)

/-- What a counter sums to over the reports that the cases leave alone. -/
def total (counter : SimulationCounter) : Nat :=
  (fixture.checks.map (fun check => ((check.from {}).2.count counter).toNat)).sum

theorem checks_eq : fixture.checks = fixture.recordings.map Recording.check := by
  simp only [checks, recordings, List.map_append, List.map_map]
  rfl

/-- Every case passes alone exactly when every case is accepted. -/
theorem checks_pass_alone_iff
    : (∀ check ∈ fixture.checks, (check.from {}).1 = .ok ())
      ↔ (∀ case ∈ fixture.providerCases, case.Accepted)
        ∧ (∀ case ∈ fixture.mcpCases, case.Accepted)
        ∧ ∀ case ∈ fixture.usageReplayCases, case.Accepted := by
  rw [← recordings_hold_iff, checks_eq, List.forall_mem_map]
  refine forall_congr' (fun recording => imp_congr_right (fun _ => ?_))
  exact recording.records.passes {}

/-- The loops leave the totals, with room for all cases. -/
theorem count_record_counters (few : fixture.caseCount < 2 ^ 32)
    (passed : ∀ check ∈ fixture.checks, (check.from {}).1 = .ok ())
    (counter : SimulationCounter)
    : ((reportTally.record {} fixture.counters).count counter).toNat
      = fixture.total counter := by
  have room : fixture.recordings.length < reportTally.capacity := by
    rw [length_recordings]
    exact few
  have holds := fixture.recordings_hold_iff.mpr (fixture.checks_pass_alone_iff.mp passed)
  have summed := Recording.read_all room holds counter
  rw [flatMap_marks_recordings] at summed
  rw [total, checks_eq, List.map_map]
  exact summed

/-- The same cases in another order, under the same seed. -/
structure Reorders (other : GatewaySimulationFixture) : Prop where
  seed : fixture.seed = other.seed
  providerCases : fixture.providerCases.Perm other.providerCases
  mcpCases : fixture.mcpCases.Perm other.mcpCases
  usageReplayCases : fixture.usageReplayCases.Perm other.usageReplayCases

variable {fixture} {other : GatewaySimulationFixture}

theorem Reorders.symm (reorders : fixture.Reorders other) : other.Reorders fixture where
  seed := reorders.seed.symm
  providerCases := reorders.providerCases.symm
  mcpCases := reorders.mcpCases.symm
  usageReplayCases := reorders.usageReplayCases.symm

/-- Reordered cases are accepted alike. -/
theorem Reorders.accepted (reorders : fixture.Reorders other) (accepted : fixture.Accepted)
    : other.Accepted where
  seeded := reorders.seed ▸ accepted.seeded
  someProvider none :=
    accepted.someProvider (List.Perm.eq_nil (none ▸ reorders.providerCases))
  someMcp none := accepted.someMcp (List.Perm.eq_nil (none ▸ reorders.mcpCases))
  providerCases case member :=
    accepted.providerCases case (reorders.providerCases.mem_iff.mpr member)
  mcpCases case member := accepted.mcpCases case (reorders.mcpCases.mem_iff.mpr member)
  usageReplayCases case member :=
    accepted.usageReplayCases case (reorders.usageReplayCases.mem_iff.mpr member)

/-- Reordered cases raise the same counters equally often. -/
theorem Reorders.counters (reorders : fixture.Reorders other)
    : fixture.counters.Perm other.counters :=
  (reorders.providerCases.flatMap_right _).append
    ((reorders.mcpCases.flatMap_right _).append (reorders.usageReplayCases.flatMap_right _))

/-- Reordering the cases keeps an accepted report. -/
theorem Reorders.validate (reorders : fixture.Reorders other) {report : SimulationReport}
    (accepted : fixture.validate = .ok report)
    : other.validate = .ok report := by
  obtain ⟨accepted, counted, covered⟩ := validate_ok_iff.mp accepted
  have same := reportTally.record_perm {} reorders.counters
  exact validate_ok_iff.mpr ⟨reorders.accepted accepted, counted.trans same, covered⟩

/-- A fixture is accepted with a report exactly when each case passes alone from the empty
report and the report is the sum of the reports they leave, with no required counter at
zero; and the order of the cases never matters.
-/
theorem validate_compositional (fixture : GatewaySimulationFixture)
    (few : fixture.caseCount < 2 ^ 32)
    : (∀ report,
          fixture.validate = .ok report
          ↔ ¬ IsBlank fixture.seed
            ∧ fixture.providerCases ≠ []
            ∧ fixture.mcpCases ≠ []
            ∧ (∀ check ∈ fixture.checks, (check.from {}).1 = .ok ())
            ∧ (∀ counter ∈ requiredCounters, fixture.total counter ≠ 0)
            ∧ ∀ counter, (report.count counter).toNat = fixture.total counter)
      ∧ ∀ other, fixture.Reorders other
          → ∀ report, fixture.validate = .ok report ↔ other.validate = .ok report := by
  constructor
  · intro report
    constructor
    · intro validated
      obtain ⟨accepted, counted, covered⟩ := validate_ok_iff.mp validated
      have passed := fixture.checks_pass_alone_iff.mpr
        ⟨accepted.providerCases, accepted.mcpCases, accepted.usageReplayCases⟩
      have totals (counter : SimulationCounter)
          : (report.count counter).toNat = fixture.total counter := by
        rw [counted]
        exact fixture.count_record_counters few passed counter
      refine ⟨accepted.seeded, accepted.someProvider, accepted.someMcp, passed, ?_, totals⟩
      intro counter required zero
      rw [← totals] at zero
      exact covered counter required (UInt32.toNat_inj.mp zero)
    · intro composed
      obtain ⟨seeded, someProvider, someMcp, passed, covered, totals⟩ := composed
      obtain ⟨providerCases, mcpCases, usageReplayCases⟩ :=
        fixture.checks_pass_alone_iff.mp passed
      refine validate_ok_iff.mpr ⟨?_, ?_, ?_⟩
      · exact { seeded, someProvider, someMcp, providerCases, mcpCases, usageReplayCases }
      · apply reportTally.ext
        intro counter
        exact (totals counter).trans (fixture.count_record_counters few passed counter).symm
      · intro counter required zero
        apply covered counter required
        rw [← totals, zero]
        rfl
  · intro other reorders report
    exact ⟨reorders.validate, reorders.symm.validate⟩

/-- The repository's fixture with its provider cases backwards. -/
def evalFixtureBackwards : GatewaySimulationFixture :=
  { evalFixture with providerCases := evalFixture.providerCases.reverse }

theorem evalFixture_reorders : evalFixture.Reorders evalFixtureBackwards where
  seed := rfl
  providerCases := (List.reverse_perm _).symm
  mcpCases := .rfl
  usageReplayCases := .rfl

/-- The repository's fixture has the same report backwards. -/
theorem validate_compositional_eval : evalFixtureBackwards.validate = .ok evalReport :=
  ((validate_compositional evalFixture (by decide)).2 _ evalFixture_reorders evalReport).mp
    evalFixture_validate

end GatewaySimulationFixture

/-- The counters that no tool session and no replay raises. -/
def providerCounters : List SimulationCounter :=
  [
    .providerSuccess, .streamingSuccess, .nonStreamingSuccess, .routingPrimary,
    .routingFallback, .providerError, .rateLimit, .malformedStream, .partialStream, .timeout,
    .cancellation, .policyDenial, .quotaDenial
  ]

theorem failureCounters_subset : failureCounters ⊆ providerCounters := by
  simp [failureCounters, providerCounters]

theorem ProviderSimulationCase.counters_subset (case : ProviderSimulationCase)
    : case.counters ⊆ providerCounters := by
  have outcome : case.outcome.counters ⊆ providerCounters := by
    refine ProviderSimulationOutcome.counters_induction
      (motive := fun _ raised => raised ⊆ providerCounters) ?_ ?_ ?_ case.outcome
    · simp [providerCounters]
    · simp [providerCounters]
    · intro counter member
      exact List.cons_subset.mpr ⟨failureCounters_subset member, List.nil_subset _⟩
  refine List.append_subset_of_subset_of_subset outcome ?_
  split <;> simp [providerCounters]

theorem McpSimulationCase.counters_subset (case : McpSimulationCase)
    : case.counters ⊆ [.mcpGatewayHosted, .mcpLifecycle] := by
  unfold McpSimulationCase.counters
  split <;> simp

theorem UsageReplayCase.counters_subset (case : UsageReplayCase)
    : case.counters ⊆ [.usageReplayIdempotency] := by
  unfold UsageReplayCase.counters
  split <;> simp

/-- Some idempotency key of the replay occurs more than once. -/
def UsageReplayCase.RepeatsKey (case : UsageReplayCase) : Prop :=
  ∃ key ∈ case.keys, 1 < case.keys.count key

instance (case : UsageReplayCase) : Decidable case.RepeatsKey :=
  inferInstanceAs (Decidable (∃ key ∈ case.keys, 1 < case.keys.count key))

/-- There are fewer keys than events exactly when some key is repeated. -/
theorem UsageReplayCase.repeatsKey_iff (case : UsageReplayCase)
    : case.usageEvents.length > case.keys.toFinset.card ↔ case.RepeatsKey := by
  have length : case.keys.length = case.usageEvents.length := by
    rw [UsageReplayCase.keys, List.length_map]
  have bound := List.toFinset_card_le case.keys
  have distinct : case.keys.toFinset.card = case.keys.length ↔ case.keys.Nodup :=
    Multiset.toFinset_card_eq_card_iff_nodup
  have repeated : case.RepeatsKey ↔ ¬ case.keys.Nodup := by
    rw [List.nodup_iff_count_le_one, not_forall]
    constructor
    · intro some
      obtain ⟨key, _, twice⟩ := some
      exact ⟨key, by omega⟩
    · intro some
      obtain ⟨key, twice⟩ := some
      have present : 0 < case.keys.count key := by omega
      exact ⟨key, List.count_pos_iff.mp present, by omega⟩
  rw [repeated, ← distinct]
  omega

namespace GatewaySimulationFixture

variable (fixture : GatewaySimulationFixture) {group : List SimulationCounter}

/-- A group of counters that only provider cases raise counts the cases that raise it. -/
theorem countAmong_providerCases {asked : ProviderSimulationCase → Bool}
    (single : ∀ case, countAmong group case.counters = if asked case then 1 else 0)
    (apartMcp : ∀ counter ∈ group, counter ∉ [.mcpGatewayHosted, .mcpLifecycle])
    (apartReplay : ∀ counter ∈ group, counter ∉ [.usageReplayIdempotency])
    : countAmong group fixture.counters = fixture.providerCases.countP asked := by
  rw [counters, countAmong_append, countAmong_append, countAmong_flatMap single,
    countAmong_flatMap_eq_zero McpSimulationCase.counters_subset apartMcp,
    countAmong_flatMap_eq_zero UsageReplayCase.counters_subset apartReplay, Nat.add_zero]

/-- A group of counters that only sessions raise counts the sessions that raise it. -/
theorem countAmong_mcpCases {asked : McpSimulationCase → Bool}
    (single : ∀ case, countAmong group case.counters = if asked case then 1 else 0)
    (apartProvider : ∀ counter ∈ group, counter ∉ providerCounters)
    (apartReplay : ∀ counter ∈ group, counter ∉ [.usageReplayIdempotency])
    : countAmong group fixture.counters = fixture.mcpCases.countP asked := by
  rw [counters, countAmong_append, countAmong_append, countAmong_flatMap single,
    countAmong_flatMap_eq_zero ProviderSimulationCase.counters_subset apartProvider,
    countAmong_flatMap_eq_zero UsageReplayCase.counters_subset apartReplay, Nat.zero_add,
    Nat.add_zero]

/-- A group of counters that only replays raise counts the replays that raise it. -/
theorem countAmong_usageReplayCases {asked : UsageReplayCase → Bool}
    (single : ∀ case, countAmong group case.counters = if asked case then 1 else 0)
    (apartProvider : ∀ counter ∈ group, counter ∉ providerCounters)
    (apartMcp : ∀ counter ∈ group, counter ∉ [.mcpGatewayHosted, .mcpLifecycle])
    : countAmong group fixture.counters = fixture.usageReplayCases.countP asked := by
  rw [counters, countAmong_append, countAmong_append, countAmong_flatMap single,
    countAmong_flatMap_eq_zero ProviderSimulationCase.counters_subset apartProvider,
    countAmong_flatMap_eq_zero McpSimulationCase.counters_subset apartMcp, Nat.zero_add,
    Nat.zero_add]

end GatewaySimulationFixture

theorem McpSimulationCase.countAmong_lifecycle (case : McpSimulationCase)
    : countAmong [.mcpLifecycle] case.counters = 1 := by
  unfold McpSimulationCase.counters
  split <;> rfl

theorem McpSimulationCase.countAmong_hosted (case : McpSimulationCase)
    : countAmong [.mcpGatewayHosted] case.counters
      = if case.request.hostingMode == .gatewayHosted then 1 else 0 := by
  unfold McpSimulationCase.counters
  split <;> rfl

theorem UsageReplayCase.countAmong_repeats (case : UsageReplayCase)
    : countAmong [.usageReplayIdempotency] case.counters
      = if decide case.RepeatsKey then 1 else 0 := by
  simp only [UsageReplayCase.counters, case.repeatsKey_iff, decide_eq_true_eq]
  split <;> rfl

/-- The route of a case raises one routing counter. -/
theorem ProviderSimulationCase.countAmong_routing (case : ProviderSimulationCase)
    : countAmong [.routingPrimary, .routingFallback] case.counters = 1 := by
  rw [counters, countAmong_append, case.outcome.countAmong_routing]
  split <;> rfl

/-- The route of a case raises no counter of another group. -/
theorem ProviderSimulationCase.countAmong_outcome (case : ProviderSimulationCase)
    {group : List SimulationCounter}
    (apart : ∀ counter ∈ group, counter ∉ [.routingPrimary, .routingFallback])
    : countAmong group case.counters = countAmong group case.outcome.counters := by
  have route {routed : SimulationCounter} (among : routed ∈ [.routingPrimary, .routingFallback])
      : countAmong group [routed] = 0 := by
    apply countAmong_eq_zero
    intro counter inGroup same
    rw [List.mem_singleton.mp same] at inGroup
    exact apart routed inGroup among
  rw [counters, countAmong_append]
  split
  · rw [route (by simp), Nat.add_zero]
  · rw [route (by simp), Nat.add_zero]

/-- In an accepted report the routes and the kinds of outcome each add up to the number of
provider cases, the streamed and the other successes to all successes, and the counters of
sessions and replays count the cases that they are about.
-/
theorem GatewaySimulationFixture.report_conservation (fixture : GatewaySimulationFixture)
    (report : SimulationReport) (few : fixture.caseCount < 2 ^ 32)
    (accepted : fixture.validate = .ok report)
    : report.routingPrimary.toNat + report.routingFallback.toNat
        = fixture.providerCases.length
      ∧ report.providerSuccess.toNat + report.providerError.toNat + report.rateLimit.toNat
          + report.malformedStream.toNat + report.partialStream.toNat + report.timeout.toNat
          + report.cancellation.toNat + report.policyDenial.toNat + report.quotaDenial.toNat
        = fixture.providerCases.length
      ∧ report.streamingSuccess.toNat + report.nonStreamingSuccess.toNat
        = report.providerSuccess.toNat
      ∧ report.mcpLifecycle.toNat = fixture.mcpCases.length
      ∧ report.mcpGatewayHosted.toNat
        = fixture.mcpCases.countP (fun case => case.request.hostingMode == .gatewayHosted)
      ∧ report.usageReplayIdempotency.toNat
        = fixture.usageReplayCases.countP (fun case => case.RepeatsKey) := by
  have sums (group : List SimulationCounter)
      : (group.map (fun counter => (report.count counter).toNat)).sum
        = countAmong group fixture.counters := by
    simp only [fixture.count_of_accepted few accepted]
    rfl
  have routes : countAmong [.routingPrimary, .routingFallback] fixture.counters
      = fixture.providerCases.countP (fun _ => true) :=
    fixture.countAmong_providerCases (fun case => case.countAmong_routing) (by decide)
      (by decide)
  have kinds
      : countAmong
          [.providerSuccess, .providerError, .rateLimit, .malformedStream, .partialStream,
            .timeout, .cancellation, .policyDenial, .quotaDenial]
          fixture.counters
        = fixture.providerCases.countP (fun _ => true) :=
    fixture.countAmong_providerCases
      (fun case => (case.countAmong_outcome (by decide)).trans case.outcome.countAmong_kinds)
      (by decide) (by decide)
  have successes : countAmong [.providerSuccess] fixture.counters
      = fixture.providerCases.countP (fun case => case.outcome.isSuccess) :=
    fixture.countAmong_providerCases
      (fun case => (case.countAmong_outcome (by decide)).trans case.outcome.countAmong_success)
      (by decide) (by decide)
  have streams : countAmong [.streamingSuccess, .nonStreamingSuccess] fixture.counters
      = fixture.providerCases.countP (fun case => case.outcome.isSuccess) :=
    fixture.countAmong_providerCases
      (fun case =>
        (case.countAmong_outcome (by decide)).trans case.outcome.countAmong_streaming)
      (by decide) (by decide)
  have lifecycles : countAmong [.mcpLifecycle] fixture.counters
      = fixture.mcpCases.countP (fun _ => true) :=
    fixture.countAmong_mcpCases (fun case => case.countAmong_lifecycle) (by decide)
      (by decide)
  have hosted : countAmong [.mcpGatewayHosted] fixture.counters
      = fixture.mcpCases.countP (fun case => case.request.hostingMode == .gatewayHosted) :=
    fixture.countAmong_mcpCases (fun case => case.countAmong_hosted) (by decide) (by decide)
  have repeats : countAmong [.usageReplayIdempotency] fixture.counters
      = fixture.usageReplayCases.countP (fun case => case.RepeatsKey) :=
    fixture.countAmong_usageReplayCases (fun case => case.countAmong_repeats) (by decide)
      (by decide)
  rw [← sums] at routes kinds successes streams lifecycles hosted repeats
  rw [List.countP_true] at routes kinds lifecycles
  rw [← successes] at streams
  simp only [List.map_cons, List.map_nil, List.sum_cons, List.sum_nil, Nat.add_zero,
    SimulationReport.count, ← Nat.add_assoc]
    at routes kinds streams lifecycles hosted repeats
  exact ⟨routes, kinds, streams, lifecycles, hosted, repeats⟩

/-- The nine provider cases of the repository's fixture took a route each. -/
theorem GatewaySimulationFixture.report_conservation_eval
    : evalReport.routingPrimary.toNat + evalReport.routingFallback.toNat
      = evalFixture.providerCases.length :=
  (report_conservation evalFixture evalReport (by decide) evalFixture_validate).1

end TaskotterGateway.Simulation
