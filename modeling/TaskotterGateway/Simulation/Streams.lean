import TaskotterGateway.Simulation.Acceptance

/-! The frames of an accepted provider case. Each outcome asks its own rule of the frames,
and nothing else is asked of them; the rules together are weaker than a grammar of streams.
-/

namespace TaskotterGateway.Simulation

open Contracts RecordedChecks

/-- The grammar of a stream that one relay could have delivered: only a streaming success
finishes, and then it does so once and with usage, a start opens the stream, an error ends
a stream that failed, and all frames belong to the request.
-/
structure ProviderSimulationCase.StreamGrammar (case : ProviderSimulationCase) : Prop where
  finalLast : ∀ index frame, case.streamFrames[index]? = some frame
    → frame.frameType = .final
    → (∃ content, case.outcome = .success true content)
      ∧ index + 1 = case.streamFrames.length
      ∧ frame.usage.isSome = true
  finishes : ∀ content, case.outcome = .success true content
    → ∃ frame ∈ case.streamFrames, frame.frameType = .final
  startFirst : ∀ index frame, case.streamFrames[index]? = some frame
    → frame.frameType = .start
    → index = 0
  errorLast : ∀ index frame, case.streamFrames[index]? = some frame
    → frame.frameType = .error
    → index + 1 = case.streamFrames.length
      ∧ ∀ streaming content, case.outcome ≠ .success streaming content
  request : ∀ frame ∈ case.streamFrames, frame.requestId = case.request.requestId

/-- The same case with other frames. -/
def ProviderSimulationCase.delivering (case : ProviderSimulationCase)
    (streamFrames : List StreamFrame)
    : ProviderSimulationCase :=
  { case with streamFrames }

/-- Frames enter the acceptance of a case through the rule of its outcome alone. -/
theorem ProviderSimulationCase.Accepted.delivering_iff {case : ProviderSimulationCase}
    (accepted : case.Accepted) {frames : List StreamFrame}
    : (case.delivering frames).Accepted ↔ case.outcome.FrameRule frames := by
  constructor
  · intro delivered
    exact delivered.frames
  · intro ruled
    exact { accepted with frames := ruled }

/-- The frames of an accepted case obey the rule of its outcome, and the case stays
accepted under exactly the frames that obey it: which frames stand between the ends that a
rule names, and whose request they carry, is not compared. That this is exact records as well
what the rules leave out by mistake: those of a partial stream, a cancellation, a timeout and a
denial compare no numbers, which `FrameNumbers` takes up as a gap of the checks.
-/
theorem ProviderSimulationCase.frameRule_of_accepted (case : ProviderSimulationCase)
    (report : SimulationReport) (passed : (case.validate.from report).1 = .ok ())
    : case.outcome.FrameRule case.streamFrames
      ∧ ∀ frames : List StreamFrame,
          ((case.delivering frames).validate.from report).1 = .ok ()
          ↔ case.outcome.FrameRule frames := by
  have accepted := (case.validate_records.passes report).mp passed
  refine ⟨accepted.frames, ?_⟩
  intro frames
  rw [(case.delivering frames).validate_records.passes]
  exact accepted.delivering_iff

/-- A timeout whose stream finished before it failed and before it started, with frames of
another request.
-/
def scrambledCase : ProviderSimulationCase :=
  simulationCase (.timeout 0)
    [
      simulationFrame "req_other" 7 .final,
      simulationFrame "req_other" 7 .error,
      simulationFrame "req_other" 0 .start
    ]
    false

theorem scrambledCase_validate : (scrambledCase.validate.from {}).1 = .ok () := by
  decide +kernel

/-- A timeout asks nothing of its frames. -/
theorem ProviderSimulationCase.frameRule_of_accepted_scrambled
    : scrambledCase.outcome.FrameRule scrambledCase.streamFrames
      ∧ ∀ frames : List StreamFrame,
          ((scrambledCase.delivering frames).validate.from {}).1 = .ok ()
          ↔ scrambledCase.outcome.FrameRule frames :=
  frameRule_of_accepted scrambledCase {} scrambledCase_validate

/-- Acceptance does not imply the grammar: a timeout may follow a final frame. -/
theorem ProviderSimulationCase.not_streamGrammar
    : ¬ ∀ (case : ProviderSimulationCase) (report : SimulationReport),
          (case.validate.from report).1 = .ok () → case.StreamGrammar := by
  intro assumed
  have grammar := assumed scrambledCase {} scrambledCase_validate
  obtain ⟨⟨_, finished⟩, _⟩ := grammar.finalLast 0 (simulationFrame "req_other" 7 .final) rfl rfl
  contradiction

end TaskotterGateway.Simulation
