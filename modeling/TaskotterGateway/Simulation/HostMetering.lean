import TaskotterGateway.Mcp.RuntimeHost
import TaskotterGateway.Simulation.Lifecycles

/-! The metering of the session host under the harness. The host meters a session before
any tool is called and counts its allowed tools; the harness counts the calls. The two agree
on the sessions that make no more calls than they have tools.
-/

namespace TaskotterGateway.Simulation

open Contracts RecordedChecks
open Mcp (McpRuntimeHost)

/-- The case of a session that its host has metered. -/
def meteredCase (host : McpRuntimeHost) (id : String) (request : ScopedMcpSessionRequest)
    (lifecycleEvents : List McpLifecycleEvent)
    : McpSimulationCase where
  id
  request
  lifecycleEvents
  usageEvent := host.usageEvent request
  auditEvent := host.auditEvent request

/-- The tools that a lifecycle calls, in order and as often as they are called. -/
def McpSimulationCase.calledTools (case : McpSimulationCase) : List (Option String) :=
  (case.lifecycleEvents.filter (fun event => event.phase == .toolCall)).map
    McpLifecycleEvent.toolRef

/-- The lifecycle goes through the four phases that the harness asks for. -/
def McpSimulationCase.ReachesAll (case : McpSimulationCase) : Prop :=
  case.Reaches .start ∧ case.Reaches .health ∧ case.Reaches .toolCall ∧ case.Reaches .stop

theorem McpSimulationCase.length_calledTools (case : McpSimulationCase)
    : case.calledTools.length = case.phaseCount .toolCall := by
  rw [calledTools, List.length_map]
  rfl

/-- A metered session records as many calls as it has tools. -/
theorem recordedToolCalls_meteredCase (host : McpRuntimeHost) (id : String)
    (request : ScopedMcpSessionRequest) (events : List McpLifecycleEvent)
    : (meteredCase host id request events).recordedToolCalls
      = UInt32.ofNat request.allowedToolRefs.length :=
  rfl

/-- The harness accepts the metering of a session by the number of its calls alone: the
events of the host are about its request.
-/
theorem meteredCase_accepted_iff {host : McpRuntimeHost} {id : String}
    {request : ScopedMcpSessionRequest} {events : List McpLifecycleEvent}
    (boundary : WithinBoundary request.policy request.credentialRef)
    (reaches : (meteredCase host id request events).ReachesAll)
    : (meteredCase host id request events).Accepted
      ↔ UInt32.ofNat ((meteredCase host id request events).phaseCount .toolCall)
        ≤ UInt32.ofNat request.allowedToolRefs.length := by
  constructor
  · intro accepted
    have recorded := accepted.recorded
    rw [recordedToolCalls_meteredCase] at recorded
    exact recorded
  · intro covered
    obtain ⟨starts, healthy, calls, stops⟩ := reaches
    exact {
      boundary
      usageLineage := rfl
      auditLineage := rfl
      starts, healthy, calls, stops
      recorded := covered
    }

/-- A session that calls each of its tools at most once makes no more calls than it has
tools: its calls are among them without repetition.
-/
theorem McpSimulationCase.phaseCount_le_of_nodup {case : McpSimulationCase}
    (allowed : case.CallsAllowedTools) (once : case.calledTools.Nodup)
    : case.phaseCount .toolCall ≤ case.request.allowedToolRefs.length := by
  have among : case.calledTools ⊆ case.request.allowedToolRefs.map some := by
    intro toolRef called
    obtain ⟨event, member, rfl⟩ := List.mem_map.mp called
    obtain ⟨present, inPhase⟩ := List.mem_filter.mp member
    obtain ⟨allowedRef, allows, named⟩ := allowed event present (beq_iff_eq.mp inPhase)
    rw [named]
    exact List.mem_map_of_mem allows
  have fewer := (once.subperm among).length_le
  rw [case.length_calledTools, List.length_map] at fewer
  exact fewer

/-- A session within the boundary that goes through all phases and calls allowed tools only
is accepted with the metering of its host exactly if it makes no more calls than it has
tools, both counted as a `u32`. Calling each tool at most once is enough.
-/
theorem meteredCase_validate_iff (host : McpRuntimeHost) (id : String)
    (request : ScopedMcpSessionRequest) (events : List McpLifecycleEvent)
    (report : SimulationReport) (boundary : request.validateBoundary = .ok ())
    (reaches : (meteredCase host id request events).ReachesAll)
    (allowed : (meteredCase host id request events).CallsAllowedTools)
    : (((meteredCase host id request events).validate.from report).1 = .ok ()
        ↔ UInt32.ofNat ((meteredCase host id request events).phaseCount .toolCall)
          ≤ UInt32.ofNat request.allowedToolRefs.length)
      ∧ ((meteredCase host id request events).calledTools.Nodup
        → request.allowedToolRefs.length < 2 ^ 32
        → ((meteredCase host id request events).validate.from report).1 = .ok ()) := by
  have within := ScopedMcpSessionRequest.validateBoundary_ok_iff.mp boundary
  have passes := (meteredCase host id request events).validate_records.passes report
  have decided := passes.trans (meteredCase_accepted_iff within reaches)
  refine ⟨decided, ?_⟩
  intro once few
  have fewer : (meteredCase host id request events).phaseCount .toolCall
      ≤ request.allowedToolRefs.length :=
    McpSimulationCase.phaseCount_le_of_nodup allowed once
  apply decided.mpr
  rw [UInt32.le_iff_toNat_le, UInt32.toNat_ofNat_of_lt' few,
    UInt32.toNat_ofNat_of_lt' (Nat.lt_of_le_of_lt fewer few)]
  exact fewer

/-- A host with all features off. -/
def simulationHost : McpRuntimeHost where
  hostId := "mcp_host_sim"
  featureFlags := { hostedMcpBillingEnabled := false, providerRoutingEnabled := false }

/-- One call of the one allowed tool is covered. -/
theorem meteredCase_validate_iff_eval
    : (((meteredCase simulationHost "mcp_case" evalSession.request
              simulationLifecycle).validate.from {}).1 = .ok ()
          ↔ UInt32.ofNat ((meteredCase simulationHost "mcp_case" evalSession.request
              simulationLifecycle).phaseCount .toolCall)
            ≤ UInt32.ofNat evalSession.request.allowedToolRefs.length)
      ∧ ((meteredCase simulationHost "mcp_case" evalSession.request
              simulationLifecycle).calledTools.Nodup
        → evalSession.request.allowedToolRefs.length < 2 ^ 32
        → ((meteredCase simulationHost "mcp_case" evalSession.request
              simulationLifecycle).validate.from {}).1 = .ok ()) :=
  meteredCase_validate_iff simulationHost "mcp_case" evalSession.request simulationLifecycle {}
    (by decide +kernel)
    (by simp [McpSimulationCase.ReachesAll, McpSimulationCase.Reaches, meteredCase,
      simulationLifecycle, lifecycleEvent])
    (by simp [McpSimulationCase.CallsAllowedTools, meteredCase, evalSession, simulationSession,
      simulationLifecycle, lifecycleEvent])

/-- A lifecycle that calls the same tool twice. -/
def repeatedCall : List McpLifecycleEvent :=
  [
    lifecycleEvent 0 .start none,
    lifecycleEvent 1 .health none,
    lifecycleEvent 2 .toolCall (some "tool_fixture_read"),
    lifecycleEvent 3 .toolCall (some "tool_fixture_read"),
    lifecycleEvent 4 .stop none
  ]

/-- The metering of a host does not cover a tool that is called twice. -/
theorem not_covered_of_repeatedCall
    : ¬ ∀ (host : McpRuntimeHost) (id : String) (request : ScopedMcpSessionRequest)
          (events : List McpLifecycleEvent) (report : SimulationReport),
          request.validateBoundary = .ok ()
          → request.allowedToolRefs ≠ []
          → (meteredCase host id request events).ReachesAll
          → (meteredCase host id request events).CallsAllowedTools
          → ((meteredCase host id request events).validate.from report).1 = .ok () := by
  intro assumed
  have accepted := assumed simulationHost "mcp_case" evalSession.request repeatedCall {}
    (by decide +kernel)
    (by decide)
    (by simp [McpSimulationCase.ReachesAll, McpSimulationCase.Reaches, meteredCase, repeatedCall,
      lifecycleEvent])
    (by simp [McpSimulationCase.CallsAllowedTools, meteredCase, evalSession, simulationSession,
      repeatedCall, lifecycleEvent])
  exact absurd accepted (by decide +kernel)

end TaskotterGateway.Simulation
