import TaskotterGateway.Foundation.FirstErrors
import TaskotterGateway.Foundation.GuardCascade
import TaskotterGateway.Simulation.Report

/-! What a refused fixture is refused for. The harness stops at its first error, so its error
is that of the fixture's own declaration, or of the first faulty case, or of the first
required counter that the cases leave at zero.
-/

namespace TaskotterGateway.Simulation

open Text Contracts RecordedChecks FirstErrors GuardCascade

-----------------------------------------------------------------------------------------
-- Errors of a case
-----------------------------------------------------------------------------------------

/-- The codes of the errors that are about no single case. -/
def fixtureCodes : List String :=
  [
    "fixture_seed_empty",
    "provider_cases_empty",
    "mcp_cases_empty",
    "simulation_coverage_missing"
  ]

/-- The error is about a case, and its message begins with the name of that case. -/
def SimulationError.Blames (caseId : String) (error : SimulationError) : Prop :=
  error.code ∉ fixtureCodes ∧ ∃ reason, error.message = caseId ++ " " ++ reason

namespace SimulationError

variable {caseId code text : String}

/-- A message that goes on with a blank after the name of the case blames the case. -/
theorem blames_of_spaced (spaced : code ∉ fixtureCodes ∧ startsWith text " " = true)
    : Blames caseId { code, message := caseId ++ text } := by
  obtain ⟨apart, spaced⟩ := spaced
  obtain ⟨reason, rfl⟩ := startsWith_iff.mp spaced
  exact ⟨apart, reason, (String.append_assoc ..).symm⟩

/-- What is added to a message takes no blame away. -/
theorem Blames.append {message : String} (blames : Blames caseId { code, message })
    (more : String)
    : Blames caseId { code, message := message ++ more } := by
  obtain ⟨apart, reason, rfl⟩ := blames
  exact ⟨apart, reason ++ more, String.append_assoc ..⟩

/-- A guard with one refusal, that blames the case, blames the case. -/
theorem blames_unless {refuses : Bool} {refusal : SimulationError}
    (blames : Blames caseId refusal)
    : Grounded (Blames caseId) (if refuses then .error refusal else .ok () : Except _ Unit) :=
  .ite (.error blames) (.ok ())

theorem blames_fromNormalized (caseId : String) (error : NormalizedError)
    : Blames caseId (fromNormalized caseId error) :=
  (blames_of_spaced (by decide)).append error.message

end SimulationError

open SimulationError

section Parts

variable (caseId : String)

theorem validateUsageLineage_blames (usage : UsageEvent) (request : ScopedModelRequest)
    : Grounded (Blames caseId) (validateUsageLineage caseId usage request) :=
  blames_unless (blames_of_spaced (by decide))

theorem validateAuditLineage_blames (audit : AuditEvent) (request : ScopedModelRequest)
    : Grounded (Blames caseId) (validateAuditLineage caseId audit request) :=
  blames_unless (blames_of_spaced (by decide))

theorem validateMcpLineage_blames (usage : UsageEvent) (audit : AuditEvent)
    (request : ScopedMcpSessionRequest)
    : Grounded (Blames caseId) (validateMcpLineage caseId usage audit request) :=
  blames_unless (blames_of_spaced (by decide))

theorem validateDecisionId_blames (decisionId : String) (usage : UsageEvent)
    : Grounded (Blames caseId) (validateDecisionId caseId decisionId usage) :=
  blames_unless (blames_of_spaced (by decide))

theorem validateFrameSequence_blames (frames : List StreamFrame)
    : Grounded (Blames caseId) (validateFrameSequence caseId frames) :=
  .each (fun _ _ => blames_unless (blames_of_spaced (by decide)))

theorem validateSuccessStream_blames (frames : List StreamFrame)
    : Grounded (Blames caseId) (validateSuccessStream caseId frames) :=
  .ite (.error (blames_of_spaced (by decide)))
    (.ite (.error (blames_of_spaced (by decide))) (validateFrameSequence_blames caseId frames))

theorem validateTerminalErrorFrame_blames (frames : List StreamFrame)
    (expectedCode : NormalizedErrorCode)
    : Grounded (Blames caseId) (validateTerminalErrorFrame caseId frames expectedCode) := by
  unfold validateTerminalErrorFrame
  cases frames.getLast? with
  | none => exact .ok ()
  | some last =>
      exact .ite (.error (blames_of_spaced (by decide)))
        (validateFrameSequence_blames caseId frames)

theorem ensureFrame_blames (frames : List StreamFrame) (sequence : UInt32)
    : Grounded (Blames caseId) (ensureFrame caseId frames sequence) := by
  refine .bind (validateFrameSequence_blames caseId frames) (fun _ => ?_)
  exact blames_unless ((blames_of_spaced (by decide)).append _)

theorem ProviderRouteSimulation.validate_blames (route : ProviderRouteSimulation)
    : Grounded (Blames caseId) (route.validate caseId) := by
  unfold ProviderRouteSimulation.validate
  cases route.fallbackProvider with
  | none =>
      exact .ite (.error (blames_of_spaced (by decide)))
        (blames_unless (blames_of_spaced (by decide)))
  | some fallbackProvider =>
      exact .ite (blames_unless (blames_of_spaced (by decide)))
        (blames_unless (blames_of_spaced (by decide)))

end Parts

/-- Every error of the loop over replayed events blames the case, by list induction. -/
theorem UsageReplayCase.uniqueChargeKeys_blames (case : UsageReplayCase)
    (keys : Finset String) (events : List UsageEvent)
    : Grounded (Blames case.id) (case.uniqueChargeKeys keys events) := by
  induction events generalizing keys with
  | nil => exact .ok keys
  | cons event rest ih =>
      refine .bind (validateUsageLineage_blames case.id event case.request) (fun _ => ?_)
      exact .ite (.error (blames_of_spaced (by decide))) (ih _)

-----------------------------------------------------------------------------------------
-- Settled cases
-----------------------------------------------------------------------------------------

theorem bump_settled {grounds : SimulationError → Prop} (counter : SimulationCounter)
    : Settled grounds (bump counter) :=
  .mark (fun report : SimulationReport => report.bump counter)

theorem bumpIf_settled {grounds : SimulationError → Prop} (asked : Bool)
    (counter : SimulationCounter)
    : Settled grounds (bumpIf asked counter) :=
  .ite (bump_settled counter) .done

theorem ProviderSimulationCase.validateOutcome_settled (case : ProviderSimulationCase)
    : Settled (Blames case.id) case.validateOutcome := by
  unfold ProviderSimulationCase.validateOutcome
  cases case.outcome with
  | success streaming content =>
      refine .andThen (bump_settled _) (.ite ?_ (.ite ?_ (bump_settled _)))
      · exact .andThen (.lift (validateSuccessStream_blames case.id _)) (bump_settled _)
      · exact .refuse (blames_of_spaced (by decide))
  | providerError error =>
      exact .andThen (bump_settled _) (.lift (validateTerminalErrorFrame_blames case.id _ _))
  | malformedChunk sequence =>
      exact .andThen (.lift (ensureFrame_blames case.id _ _)) (bump_settled _)
  | partialStream deliveredFrames =>
      refine .andThen (.failIf _ ?_) (.andThen (.failIf _ ?_) (bump_settled _))
      · exact blames_of_spaced (by decide)
      · exact blames_of_spaced (by decide)
  | timeout timeoutMs =>
      exact .ite (bump_settled _) (.refuse (blames_of_spaced (by decide)))
  | cancellation cancelledAfterFrames =>
      exact .andThen (.failIf _ (blames_of_spaced (by decide))) (bump_settled _)
  | policyDenial decisionId reason =>
      exact .andThen (.lift (validateDecisionId_blames case.id _ _)) (bump_settled _)
  | quotaDenial decisionId maxCostMicroUsd expectedStatus =>
      refine .andThen (.lift (validateDecisionId_blames case.id _ _)) ?_
      exact .andThen (.failIf _ (blames_of_spaced (by decide))) (bump_settled _)

theorem ProviderSimulationCase.validate_settled (case : ProviderSimulationCase)
    : Settled (Blames case.id) case.validate := by
  refine .andThen (.lift (.mapError (blames_fromNormalized case.id))) ?_
  refine .andThen (.lift (ProviderRouteSimulation.validate_blames case.id _)) ?_
  refine .andThen (.lift (validateUsageLineage_blames case.id _ _)) ?_
  refine .andThen (.lift (validateAuditLineage_blames case.id _ _)) ?_
  exact .andThen case.validateOutcome_settled (.ite (bump_settled _) (bump_settled _))

theorem McpSimulationCase.validate_settled (case : McpSimulationCase)
    : Settled (Blames case.id) case.validate := by
  refine .andThen (.lift (.mapError (blames_fromNormalized case.id))) ?_
  refine .andThen (.lift (validateMcpLineage_blames case.id _ _ _)) ?_
  refine .andThen (.failIf _ (blames_of_spaced (by decide))) ?_
  refine .andThen (.failIf _ (blames_of_spaced (by decide))) ?_
  exact .andThen (bumpIf_settled _ _) (bump_settled _)

theorem UsageReplayCase.validate_settled (case : UsageReplayCase)
    : Settled (Blames case.id) case.validate := by
  refine .andThen (.lift (.mapError (blames_fromNormalized case.id))) ?_
  refine .andThen (.failIf _ (blames_of_spaced (by decide))) ?_
  refine .bindLift (case.uniqueChargeKeys_blames ∅ _) (fun keys => ?_)
  exact .andThen (.failIf _ (blames_of_spaced (by decide))) (bumpIf_settled _ _)

-----------------------------------------------------------------------------------------
-- All cases in one list
-----------------------------------------------------------------------------------------

/-- A case of one of the three loops. -/
inductive SimulationCase where
  | provider (case : ProviderSimulationCase)
  | mcp (case : McpSimulationCase)
  | usageReplay (case : UsageReplayCase)
  deriving DecidableEq, Repr

namespace SimulationCase

def id : SimulationCase → String
  | provider case => case.id
  | mcp case => case.id
  | usageReplay case => case.id

def validate : SimulationCase → Harness Unit
  | provider case => case.validate
  | mcp case => case.validate
  | usageReplay case => case.validate

/-- What the harness says of the case when it is the only one. -/
def alone (case : SimulationCase) : Except SimulationError Unit :=
  (case.validate.from {}).1

theorem validate_settled (case : SimulationCase) : Settled (Blames case.id) case.validate := by
  cases case with
  | provider case => exact case.validate_settled
  | mcp case => exact case.validate_settled
  | usageReplay case => exact case.validate_settled

/-- The error of a case that is validated alone blames this case. -/
theorem alone_blames (case : SimulationCase) : Grounded (Blames case.id) case.alone :=
  case.validate_settled.grounded {}

end SimulationCase

namespace GatewaySimulationFixture

variable (fixture : GatewaySimulationFixture)

/-- The cases of the fixture in the order of the loops. -/
def cases : List SimulationCase :=
  fixture.providerCases.map .provider
  ++ (fixture.mcpCases.map .mcp ++ fixture.usageReplayCases.map .usageReplay)

/-- The three loops are one loop over all cases. -/
theorem validateCases_eq
    : fixture.validateCases = forM fixture.cases SimulationCase.validate := by
  simp only [cases, List.forM_append, List.forM_map]
  rfl

theorem cases_pass_alone_iff
    : (∀ case ∈ fixture.cases, case.alone = .ok ())
      ↔ (∀ case ∈ fixture.providerCases, case.Accepted)
        ∧ (∀ case ∈ fixture.mcpCases, case.Accepted)
        ∧ ∀ case ∈ fixture.usageReplayCases, case.Accepted := by
  rw [← checks_pass_alone_iff]
  simp only [cases, checks, List.forall_mem_append, List.forall_mem_map]
  rfl

/-- The declarations that the harness asks for before it looks at a case. -/
def declarationGuards : List (Guard GatewaySimulationFixture SimulationError) :=
  [
    {
      rejects := fun fixture => (trim fixture.seed).isEmpty
      refusal := {
        code := "fixture_seed_empty"
        message := "simulation fixture must declare a deterministic seed"
      }
    },
    {
      rejects := fun fixture => fixture.providerCases.isEmpty
      refusal := {
        code := "provider_cases_empty"
        message := "simulation fixture must include provider cases"
      }
    },
    {
      rejects := fun fixture => fixture.mcpCases.isEmpty
      refusal := {
        code := "mcp_cases_empty"
        message := "simulation fixture must include MCP cases"
      }
    }
  ]

/-- The error about the first declaration that the fixture lacks. -/
def undeclared : Option SimulationError :=
  firstRefusal declarationGuards fixture

/-- The error about a required counter that is left at zero. -/
def coverageMissing (counter : SimulationCounter) : SimulationError where
  code := "simulation_coverage_missing"
  message := "required coverage is missing: " ++ counter.name

/-- A fixture without a declaration errs on it; any other is judged by its cases. -/
theorem validate_eq
    : fixture.validate
      = match fixture.undeclared with
        | some error => .error error
        | none =>
            match fixture.validateCases.from {} with
            | (.error error, _) => .error error
            | (.ok (), report) => report.validateRequiredCoverage >>= fun _ => .ok report := by
  unfold validate undeclared declarationGuards
  simp only [firstRefusal_cons, firstRefusal_nil]
  split_ifs with unseeded noProvider noMcp
  · rfl
  · rfl
  · rfl
  · rfl

variable {fixture}

/-- Cases that all pass leave a counter at zero if they raise it a multiple of `2 ^ 32`
times: a counter has no room for more.
-/
theorem count_eq_zero_iff (counter : SimulationCounter)
    : ((reportTally.record {} fixture.counters).count counter == 0) = true
      ↔ 2 ^ 32 ∣ fixture.counters.count counter := by
  have read := reportTally.read_record reportTally.empty fixture.counters counter
  rw [reportTally.read_empty, Nat.zero_add] at read
  rw [beq_iff_eq, ← UInt32.toNat_inj, Nat.dvd_iff_mod_eq_zero]
  constructor
  · intro zero
    exact read.symm.trans zero
  · intro none
    exact read.trans none

/-- The coverage check errs on the first required counter that is left at zero. -/
theorem validateRequiredCoverage_error_iff {error : SimulationError}
    : (reportTally.record {} fixture.counters).validateRequiredCoverage = .error error
      ↔ ∃ before counter after,
          requiredCounters = before ++ counter :: after
          ∧ (∀ earlier ∈ before, ¬ 2 ^ 32 ∣ fixture.counters.count earlier)
          ∧ 2 ^ 32 ∣ fixture.counters.count counter
          ∧ error = coverageMissing counter := by
  rw [SimulationReport.validateRequiredCoverage, forM_error_iff]
  refine exists_congr (fun before => exists_congr (fun counter => exists_congr (fun after => ?_)))
  refine and_congr_right (fun _ => and_congr ?_ ?_)
  · refine forall_congr' (fun earlier => imp_congr_right (fun _ => ?_))
    rw [← count_eq_zero_iff, Bool.not_eq_true]
    exact unless_ok_iff
  · rw [← count_eq_zero_iff]
    cases (reportTally.record {} fixture.counters).count counter == 0 with
    | true =>
        simp only [if_true, true_and]
        constructor
        · intro same
          exact (Except.error.inj same).symm
        · intro same
          exact same ▸ rfl
    | false => simp [pure, Except.pure]

/-- The loops err exactly as the first faulty case errs alone. -/
theorem validateCases_error_iff {error : SimulationError}
    : (fixture.validateCases.from {}).1 = .error error
      ↔ ∃ before case after,
          fixture.cases = before ++ case :: after
          ∧ (∀ earlier ∈ before, earlier.alone = .ok ())
          ∧ case.alone = .error error := by
  rw [validateCases_eq, Settled.forM_verdict SimulationCase.validate_settled {} {},
    forM_error_iff]
  rfl

/-- The loops pass exactly when every case passes alone. -/
theorem validateCases_ok_iff
    : (fixture.validateCases.from {}).1 = .ok () ↔ ∀ case ∈ fixture.cases, case.alone = .ok () := by
  rw [fixture.validateCases_records.passes, cases_pass_alone_iff]

/-- The error of a refused fixture, by how far its validation came. -/
theorem validate_error_iff_run {error : SimulationError}
    : fixture.validate = .error error
      ↔ fixture.undeclared = some error
        ∨ fixture.undeclared = none
          ∧ ((fixture.validateCases.from {}).1 = .error error
            ∨ (fixture.validateCases.from {}).1 = .ok ()
              ∧ (fixture.validateCases.from {}).2.validateRequiredCoverage = .error error) := by
  rw [validate_eq]
  cases fixture.undeclared with
  | some other => simp
  | none =>
      rcases fixture.validateCases.from {} with ⟨verdict, report⟩
      cases verdict with
      | error other => simp
      | ok _ =>
          cases covered : report.validateRequiredCoverage with
          | error other => simp [covered, bind, Except.bind]
          | ok _ => simp [covered, bind, Except.bind]

/-- The error about a missing declaration is about no case. -/
theorem code_of_undeclared {error : SimulationError}
    (lacks : fixture.undeclared = some error)
    : error.code ∈ fixtureCodes := by
  refine firstRefusal_elim (fun error => error.code ∈ fixtureCodes) ?_ lacks
  simp [declarationGuards, fixtureCodes]

/-- A refused fixture is refused for the first declaration that it lacks; or else for its
first faulty case, with the error that this case has when it is validated alone, which names
it; or else for the first required counter that its cases leave at zero. Nothing that comes
later has a part in the error, and its code tells whether a case is at fault.
-/
theorem validate_error_iff (fixture : GatewaySimulationFixture) (error : SimulationError)
    : (fixture.validate = .error error
        ↔ fixture.undeclared = some error
          ∨ fixture.undeclared = none
            ∧ ((∃ before case after,
                fixture.cases = before ++ case :: after
                ∧ (∀ earlier ∈ before, earlier.alone = .ok ())
                ∧ case.alone = .error error
                ∧ error.Blames case.id)
              ∨ (∀ case ∈ fixture.cases, case.alone = .ok ())
                ∧ ∃ before counter after,
                    requiredCounters = before ++ counter :: after
                    ∧ (∀ earlier ∈ before, ¬ 2 ^ 32 ∣ fixture.counters.count earlier)
                    ∧ 2 ^ 32 ∣ fixture.counters.count counter
                    ∧ error = coverageMissing counter))
      ∧ (fixture.validate = .error error
        → (error.code ∉ fixtureCodes
          ↔ fixture.undeclared = none ∧ ∃ case ∈ fixture.cases, case.alone ≠ .ok ())) := by
  constructor
  · rw [validate_error_iff_run, validateCases_error_iff]
    refine or_congr_right (and_congr_right (fun _ => or_congr ?_ ?_))
    · refine exists_congr (fun before => exists_congr (fun case => exists_congr (fun after => ?_)))
      refine and_congr_right (fun _ => and_congr_right (fun _ => ?_))
      exact (and_iff_left_of_imp (case.alone_blames error)).symm
    · rw [← validateRequiredCoverage_error_iff, validateCases_ok_iff]
      refine and_congr_right (fun passed => ?_)
      have accepted := fixture.cases_pass_alone_iff.mp passed
      rw [fixture.validateCases_records.leaves accepted {}]
  · intro refused
    rcases validate_error_iff_run.mp refused with lacks | ⟨declared, faulty | ⟨passed, uncovered⟩⟩
    · simp [code_of_undeclared lacks, lacks]
    · obtain ⟨before, case, after, places, _, errs⟩ := validateCases_error_iff.mp faulty
      have member : case ∈ fixture.cases := by
        rw [places]
        exact List.mem_append_right before List.mem_cons_self
      have blamed := (case.alone_blames error errs).1
      refine iff_of_true blamed ⟨declared, case, member, ?_⟩
      simp [errs]
    · have each := validateCases_ok_iff.mp passed
      have accepted := fixture.cases_pass_alone_iff.mp each
      rw [fixture.validateCases_records.leaves accepted {}] at uncovered
      obtain ⟨_, counter, _, _, _, _, rfl⟩ := validateRequiredCoverage_error_iff.mp uncovered
      refine iff_of_false (fun apart => apart (by simp [coverageMissing, fixtureCodes])) ?_
      intro fault
      obtain ⟨_, case, member, fails⟩ := fault
      exact fails (each case member)

end GatewaySimulationFixture

end TaskotterGateway.Simulation
