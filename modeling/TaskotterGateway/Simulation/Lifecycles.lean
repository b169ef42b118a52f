import TaskotterGateway.Simulation.Acceptance

/-! The lifecycle of an accepted tool session. The harness asks which phases occur and how
many tools were called; it reads neither the order of the events nor the tools they name.
-/

namespace TaskotterGateway.Simulation

open Contracts RecordedChecks

/-- Some event of the phase precedes the index. -/
def McpSimulationCase.ReachedBefore (case : McpSimulationCase) (phase : McpLifecyclePhase)
    (index : Nat)
    : Prop :=
  ∃ earlier event, earlier < index
    ∧ case.lifecycleEvents[earlier]? = some event
    ∧ event.phase = phase

/-- The events are numbered in the order in which a session can go through them: it starts
once and first, calls tools once it has started and is healthy, and stops last.
-/
structure McpSimulationCase.LegalOrder (case : McpSimulationCase) : Prop where
  numbered : ∀ index (event : McpLifecycleEvent), case.lifecycleEvents[index]? = some event
    → event.sequence.toNat = index
  starts : case.lifecycleEvents.head?.map McpLifecycleEvent.phase = some .start
  startOnce : ∀ index event, case.lifecycleEvents[index]? = some event
    → event.phase = .start
    → index = 0
  callsAfter : ∀ index event, case.lifecycleEvents[index]? = some event
    → event.phase = .toolCall
    → case.ReachedBefore .start index ∧ case.ReachedBefore .health index
  stopsLast : case.lifecycleEvents.getLast?.map McpLifecycleEvent.phase = some .stop
    ∧ ∀ index event, case.lifecycleEvents[index]? = some event
      → event.phase = .stop
      → index + 1 = case.lifecycleEvents.length

/-- The phases of a lifecycle. -/
def McpSimulationCase.phases (case : McpSimulationCase) : List McpLifecyclePhase :=
  case.lifecycleEvents.map McpLifecycleEvent.phase

/-- The same session with another lifecycle. -/
def McpSimulationCase.living (case : McpSimulationCase)
    (lifecycleEvents : List McpLifecycleEvent)
    : McpSimulationCase :=
  { case with lifecycleEvents }

/-- What the harness asks of a lifecycle: four phases occur, and the tool calls, counted as
a `u32`, are all recorded.
-/
structure McpSimulationCase.LifecycleRule (case : McpSimulationCase) : Prop where
  starts : case.Reaches .start
  healthy : case.Reaches .health
  calls : case.Reaches .toolCall
  stops : case.Reaches .stop
  recorded : UInt32.ofNat (case.phaseCount .toolCall) ≤ case.recordedToolCalls

theorem McpSimulationCase.Accepted.lifecycleRule {case : McpSimulationCase}
    (accepted : case.Accepted)
    : case.LifecycleRule :=
  ⟨accepted.starts, accepted.healthy, accepted.calls, accepted.stops, accepted.recorded⟩

/-- A phase is reached by the phases alone. -/
theorem McpSimulationCase.any_phase_eq (case : McpSimulationCase) (phase : McpLifecyclePhase)
    : case.lifecycleEvents.any (fun event => event.phase == phase)
      = case.phases.any (fun reached => reached == phase) := by
  rw [phases, List.any_map]
  rfl

/-- A phase is counted in the phases alone. -/
theorem McpSimulationCase.phaseCount_eq (case : McpSimulationCase) (phase : McpLifecyclePhase)
    : case.phaseCount phase = case.phases.count phase := by
  rw [phaseCount, phases, List.count, List.countP_map, List.countP_eq_length_filter]
  rfl

/-- Sessions that differ only in the order of their phases get the same answer. -/
theorem McpSimulationCase.validate_living {case : McpSimulationCase}
    {events : List McpLifecycleEvent}
    (same : (case.living events).phases.Perm case.phases)
    : (case.living events).validate = case.validate := by
  have reached (phase : McpLifecyclePhase)
      : (case.living events).lifecycleEvents.any (fun event => event.phase == phase)
        = case.lifecycleEvents.any (fun event => event.phase == phase) := by
    rw [any_phase_eq, any_phase_eq]
    exact same.any_eq
  have counted
      : (case.living events).phaseCount .toolCall = case.phaseCount .toolCall := by
    rw [phaseCount_eq, phaseCount_eq]
    exact same.count_eq _
  unfold validate
  simp only [reached, counted]
  rfl

/-- A lifecycle enters the acceptance of a session through its rule alone. -/
theorem McpSimulationCase.Accepted.living_iff {case : McpSimulationCase}
    (accepted : case.Accepted) {events : List McpLifecycleEvent}
    : (case.living events).Accepted ↔ (case.living events).LifecycleRule := by
  constructor
  · intro lived
    exact lived.lifecycleRule
  · intro ruled
    obtain ⟨starts, healthy, calls, stops, recorded⟩ := ruled
    exact { accepted with starts, healthy, calls, stops, recorded }

/-- An accepted lifecycle reaches its four phases and records its tool calls, and the session
stays accepted under exactly the lifecycles that do. Their order is not compared: any order
of the same phases, however numbered, gets the same answer.
-/
theorem McpSimulationCase.lifecycleRule_of_accepted (case : McpSimulationCase)
    (report : SimulationReport) (passed : (case.validate.from report).1 = .ok ())
    : case.LifecycleRule
      ∧ (∀ events : List McpLifecycleEvent,
          ((case.living events).validate.from report).1 = .ok ()
          ↔ (case.living events).LifecycleRule)
      ∧ ∀ events : List McpLifecycleEvent,
          (case.living events).phases.Perm case.phases
          → (case.living events).validate = case.validate := by
  have accepted := (case.validate_records.passes report).mp passed
  refine ⟨accepted.lifecycleRule, ?_, ?_⟩
  · intro events
    rw [(case.living events).validate_records.passes]
    exact accepted.living_iff
  · intro events same
    exact validate_living same

/-- The session of the repository's fixture. -/
def evalSession : McpSimulationCase :=
  simulationSession .gatewayHosted simulationLifecycle

theorem evalSession_validate : (evalSession.validate.from {}).1 = .ok () := by
  decide +kernel

/-- The same lifecycle told backwards: it stops first and starts last. -/
theorem McpSimulationCase.lifecycleRule_of_accepted_backwards
    : evalSession.LifecycleRule
      ∧ (evalSession.living simulationLifecycle.reverse).validate = evalSession.validate := by
  have accepted := lifecycleRule_of_accepted evalSession {} evalSession_validate
  obtain ⟨ruled, _, unordered⟩ := accepted
  exact ⟨ruled, unordered simulationLifecycle.reverse (by decide)⟩

/-- Acceptance does not imply the legal order: a session may stop before it starts. -/
theorem McpSimulationCase.not_legalOrder
    : ¬ ∀ (case : McpSimulationCase) (report : SimulationReport),
          (case.validate.from report).1 = .ok () → case.LegalOrder := by
  intro assumed
  have backwards : ((evalSession.living simulationLifecycle.reverse).validate.from {}).1
      = .ok () := by
    decide +kernel
  have legal := assumed (evalSession.living simulationLifecycle.reverse) {} backwards
  exact absurd legal.starts (by decide)

/-- Every tool call of the lifecycle names a tool that the session may call. -/
def McpSimulationCase.CallsAllowedTools (case : McpSimulationCase) : Prop :=
  ∀ event ∈ case.lifecycleEvents, event.phase = .toolCall
  → ∃ toolRef ∈ case.request.allowedToolRefs, event.toolRef = some toolRef

/-- The session with its allowed tools and the tools of all its events blanked. -/
def McpSimulationCase.withoutTools (case : McpSimulationCase) : McpSimulationCase :=
  {
    case with
    request := { case.request with allowedToolRefs := [] }
    lifecycleEvents := case.lifecycleEvents.map (fun event => { event with toolRef := none })
  }

/-- The harness reads no tool: blanking all of them changes no answer. -/
theorem McpSimulationCase.validate_withoutTools (case : McpSimulationCase)
    : case.withoutTools.validate = case.validate := by
  have phases : case.withoutTools.phases = case.phases := by
    simp only [McpSimulationCase.phases, withoutTools, List.map_map]
    rfl
  have lifecycle
      : (case.living case.withoutTools.lifecycleEvents).validate = case.validate :=
    validate_living (List.Perm.of_eq phases)
  exact lifecycle

/-- An accepted session calls some tool and records its calls, counted as a `u32`. Which
tools it calls is not compared: sessions that differ in these alone get the same answer.
-/
theorem McpSimulationCase.toolCalls_of_accepted
    : (∀ (case : McpSimulationCase) (report : SimulationReport),
          (case.validate.from report).1 = .ok ()
          → case.Reaches .toolCall
            ∧ UInt32.ofNat (case.phaseCount .toolCall) ≤ case.recordedToolCalls)
      ∧ ∀ left right : McpSimulationCase,
          left.withoutTools = right.withoutTools → left.validate = right.validate := by
  refine ⟨?_, ?_⟩
  · intro case report passed
    have accepted := (case.validate_records.passes report).mp passed
    exact ⟨accepted.calls, accepted.recorded⟩
  · intro left right same
    rw [← left.validate_withoutTools, same, right.validate_withoutTools]

/-- The session of the repository's fixture, which calls a tool outside its scope. -/
def trespassingSession : McpSimulationCase :=
  simulationSession .gatewayHosted
    [
      lifecycleEvent 0 .start none,
      lifecycleEvent 1 .health none,
      lifecycleEvent 2 .toolCall (some "tool_other"),
      lifecycleEvent 3 .stop none
    ]

/-- The call of another tool gets the answer of the allowed one, which is recorded. -/
theorem McpSimulationCase.toolCalls_of_accepted_trespassing
    : trespassingSession.validate = evalSession.validate
      ∧ evalSession.Reaches .toolCall
      ∧ UInt32.ofNat (evalSession.phaseCount .toolCall) ≤ evalSession.recordedToolCalls :=
  ⟨toolCalls_of_accepted.2 trespassingSession evalSession rfl,
    toolCalls_of_accepted.1 evalSession {} evalSession_validate⟩

/-- Acceptance does not keep a session to its allowed tools. -/
theorem McpSimulationCase.not_callsAllowedTools
    : ¬ ∀ (case : McpSimulationCase) (report : SimulationReport),
          (case.validate.from report).1 = .ok () → case.CallsAllowedTools := by
  intro assumed
  have unread : trespassingSession.withoutTools = evalSession.withoutTools := rfl
  have accepted : (trespassingSession.validate.from {}).1 = .ok () := by
    rw [← trespassingSession.validate_withoutTools, unread, evalSession.validate_withoutTools]
    exact evalSession_validate
  have allowed := assumed trespassingSession {} accepted
  obtain ⟨toolRef, member, named⟩ :=
    allowed (lifecycleEvent 2 .toolCall (some "tool_other"))
      (by simp [trespassingSession, simulationSession]) rfl
  obtain rfl : "tool_other" = toolRef := Option.some.inj named
  exact absurd member (by decide)

end TaskotterGateway.Simulation
