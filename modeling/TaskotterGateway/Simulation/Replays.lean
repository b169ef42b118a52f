import TaskotterGateway.Foundation.Deduplication
import TaskotterGateway.Simulation.Acceptance

/-! Replayed charges. The harness counts the distinct idempotency keys of a replay, so its
answer depends on which events were replayed and not on how often or in which order; what
the events charge is not compared.
-/

namespace TaskotterGateway.Simulation

open Text Contracts RecordedChecks Deduplication

/-- The same case with other events. -/
def UsageReplayCase.replaying (case : UsageReplayCase) (usageEvents : List UsageEvent)
    : UsageReplayCase :=
  { case with usageEvents }

/-- Events with the same members have the same keys. -/
theorem UsageReplayCase.keys_toFinset_replaying {case : UsageReplayCase}
    {events : List UsageEvent} (same : ∀ event, event ∈ events ↔ event ∈ case.usageEvents)
    : (case.replaying events).keys.toFinset = case.keys.toFinset := by
  ext key
  simp only [keys, replaying, List.mem_toFinset, List.mem_map, same]

/-- Replaying the same events, in any order and any number of times, stays accepted. -/
theorem UsageReplayCase.Accepted.replaying {case : UsageReplayCase} (accepted : case.Accepted)
    {events : List UsageEvent} (same : ∀ event, event ∈ events ↔ event ∈ case.usageEvents)
    : (case.replaying events).Accepted where
  boundary := accepted.boundary
  nonempty := by
    obtain ⟨event, member⟩ := List.exists_mem_of_ne_nil _ accepted.nonempty
    exact List.ne_nil_of_mem ((same event).mpr member)
  replays event member := by
    obtain ⟨lineage, keyed⟩ := accepted.replays event ((same event).mp member)
    exact ⟨lineage, keyed⟩
  charges := by
    rw [UsageReplayCase.keys_toFinset_replaying same]
    exact accepted.charges

/-- An accepted replay leaves the report that counts a repeated key, if there is one. -/
theorem UsageReplayCase.Accepted.validate_from {case : UsageReplayCase}
    (accepted : case.Accepted) (report : SimulationReport)
    : case.validate.from report
      = (
        .ok (),
        if case.usageEvents.length > case.keys.toFinset.card then
          report.bump .usageReplayIdempotency
        else
          report
      ) := by
  have recorded := case.validate_records
  refine Prod.ext ((recorded.passes report).mpr accepted) ?_
  rw [recorded.leaves accepted report, UsageReplayCase.counters]
  split <;> rfl

/-- A replay is accepted exactly if it has as many distinct keys as charges are expected,
among events that all replay its request. Events with the same members are then accepted
too, and the report counts whether some key was repeated among them.
-/
theorem UsageReplayCase.validate_ok_iff_charges (case : UsageReplayCase)
    (report : SimulationReport)
    : ((case.validate.from report).1 = .ok () ↔ case.Accepted)
      ∧ ((case.validate.from report).1 = .ok ()
        → ∀ events : List UsageEvent,
            (∀ event, event ∈ events ↔ event ∈ case.usageEvents)
            → (case.replaying events).validate.from report
              = (
                .ok (),
                if events.length > (events.map UsageEvent.idempotencyKey).toFinset.card then
                  report.bump .usageReplayIdempotency
                else
                  report
              )) := by
  have passes := case.validate_records.passes report
  refine ⟨passes, ?_⟩
  intro passed events same
  exact ((passes.mp passed).replaying same).validate_from report

theorem simulationReplay_validate : (simulationReplay.validate.from {}).1 = .ok () := by
  decide +kernel

/-- The event of a retry, arriving three times, is counted as one that is repeated. -/
theorem UsageReplayCase.validate_ok_iff_charges_thrice
    : (simulationReplay.replaying (List.replicate 3 (simulationUsage "wg_sim"))).validate.from {}
      = (.ok (), SimulationReport.bump {} .usageReplayIdempotency) := by
  have replayed := (validate_ok_iff_charges simulationReplay {}).2 simulationReplay_validate
    (List.replicate 3 (simulationUsage "wg_sim")) (by simp [simulationReplay])
  rw [replayed, if_pos (by decide)]

-----------------------------------------------------------------------------------------
-- What a replay charges
-----------------------------------------------------------------------------------------

/-- Nothing, in place of what an event charges. -/
def unchargedPayload : UsagePayload where
  subject := { subjectType := .gatewayRequest, id := "" }
  measurements := {
    durationMs := 0
    inputTokens := none
    outputTokens := none
    toolInvocations := none
    estimatedCostMicros := none
    meteringUnit := none
    runtimeCapability := none
  }

def unchargedUsage (usage : UsageEvent) : UsageEvent :=
  { usage with payload := unchargedPayload }

/-- The case with the payloads of its events blanked. -/
def UsageReplayCase.uncharged (case : UsageReplayCase) : UsageReplayCase :=
  case.mapUsage unchargedUsage

theorem UsageReplayCase.validate_uncharged (case : UsageReplayCase)
    : case.uncharged.validate = case.validate :=
  case.validate_mapUsage (fun _ => rfl) (fun _ => rfl)

/-- The charges that are recorded of events, one for each key, in the order of arrival. -/
def recordedCharges (arrival : List UsageEvent) : List UsageEvent :=
  keepFirst UsageEvent.idempotencyKey arrival

/-- However the events of an accepted replay arrive, as many charges are recorded as are
expected, under the same keys and for the request. What they charge is never compared: it is
the same for every order exactly if events that share a key charge the same, and cases that
differ in the payloads alone get the same answer.
-/
theorem UsageReplayCase.recordedCharges_of_accepted (case : UsageReplayCase)
    (report : SimulationReport) (passed : (case.validate.from report).1 = .ok ())
    : (∀ arrival, arrival.Perm case.usageEvents
        → (recordedCharges arrival).length = case.expectedUniqueChargeCount.toNat
          ∧ ((recordedCharges arrival).map UsageEvent.idempotencyKey).Perm
              ((recordedCharges case.usageEvents).map UsageEvent.idempotencyKey)
          ∧ ∀ charge ∈ recordedCharges arrival, (envelopeOfUsage charge).Traces case.request)
      ∧ ((∀ arrival, arrival.Perm case.usageEvents
            → ((recordedCharges arrival).map UsageEvent.payload).Perm
                ((recordedCharges case.usageEvents).map UsageEvent.payload))
          ↔ Agree UsageEvent.idempotencyKey UsageEvent.payload case.usageEvents)
      ∧ ∀ other : UsageReplayCase,
          other.uncharged = case.uncharged → other.validate = case.validate := by
  have accepted := (case.validate_records.passes report).mp passed
  refine ⟨?_, records_perm_iff, ?_⟩
  · intro arrival reordered
    refine ⟨?_, keys_keepFirst_perm reordered, ?_⟩
    · rw [recordedCharges, length_keepFirst,
        List.toFinset_eq_of_perm _ _ (reordered.map UsageEvent.idempotencyKey)]
      exact accepted.charges
    · intro charge recorded
      have member := reordered.subset ((keepFirst_sublist arrival).subset recorded)
      exact (accepted.replays charge member).lineage
  · intro other same
    rw [← other.validate_uncharged, same, case.validate_uncharged]

/-- A retry is charged once. -/
theorem UsageReplayCase.recordedCharges_of_accepted_simulation
    : (∀ arrival, arrival.Perm simulationReplay.usageEvents
        → (recordedCharges arrival).length = simulationReplay.expectedUniqueChargeCount.toNat
          ∧ ((recordedCharges arrival).map UsageEvent.idempotencyKey).Perm
              ((recordedCharges simulationReplay.usageEvents).map UsageEvent.idempotencyKey)
          ∧ ∀ charge ∈ recordedCharges arrival,
              (envelopeOfUsage charge).Traces simulationReplay.request)
      ∧ ((∀ arrival, arrival.Perm simulationReplay.usageEvents
            → ((recordedCharges arrival).map UsageEvent.payload).Perm
                ((recordedCharges simulationReplay.usageEvents).map UsageEvent.payload))
          ↔ Agree UsageEvent.idempotencyKey UsageEvent.payload simulationReplay.usageEvents)
      ∧ ∀ other : UsageReplayCase,
          other.uncharged = simulationReplay.uncharged
          → other.validate = simulationReplay.validate :=
  recordedCharges_of_accepted simulationReplay {} simulationReplay_validate

/-- A retry that charges nothing, under the key of the event that it repeats. -/
def repricedReplay : UsageReplayCase :=
  {
    simulationReplay with
    usageEvents := [simulationUsage "wg_sim", unchargedUsage (simulationUsage "wg_sim")]
  }

/-- Acceptance does not imply that replays of a charge charge the same. -/
theorem UsageReplayCase.not_agree
    : ¬ ∀ (case : UsageReplayCase) (report : SimulationReport),
          (case.validate.from report).1 = .ok ()
          → Agree UsageEvent.idempotencyKey UsageEvent.payload case.usageEvents := by
  intro assumed
  have blanked : repricedReplay.uncharged = simulationReplay.uncharged := rfl
  have accepted : (repricedReplay.validate.from {}).1 = .ok () := by
    rw [← repricedReplay.validate_uncharged, blanked, simulationReplay.validate_uncharged]
    exact simulationReplay_validate
  have same := assumed repricedReplay {} accepted
    (simulationUsage "wg_sim") (by simp [repricedReplay])
    (unchargedUsage (simulationUsage "wg_sim")) (by simp [repricedReplay])
    rfl
  exact absurd same (by decide)

end TaskotterGateway.Simulation
