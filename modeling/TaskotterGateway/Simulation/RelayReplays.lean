import TaskotterGateway.Relay.Ledger
import TaskotterGateway.Relay.Schedules
import TaskotterGateway.Simulation.Lineage
import TaskotterGateway.Simulation.Replays

/-! The harness against the gateway that it stands for: the events that a server has sent out,
replayed as the charges of a model request. Whatever is accepted charges the request once; and
what the shipped policy engine has decided on occurs in no accepted fixture.
-/

namespace TaskotterGateway.Simulation

open Contracts Interleaving RecordedChecks Relay

variable {κ : Type} [DecidableEq κ] {surroundings : Surroundings}
  {submissions : κ → Submission} {source : UuidSource}
  {state : State Question.Answer (Except GatewayError AiRelayResponse) κ Nat}

-----------------------------------------------------------------------------------------
-- What the events of a server say
-----------------------------------------------------------------------------------------

/-- An attempt begins with its decision. -/
theorem mem_of_attempted {payload : AiRelayRequest} {calls : List Handled}
    {decision : PolicyDecision} {result : Except GatewayError ProviderResponse}
    (attempted : Attempted payload calls decision result)
    : evaluated payload.policyCheck decision ∈ calls := by
  cases attempted with
  | denied => exact List.mem_cons_self
  | passed => exact List.mem_cons_self

/-- Every event that was sent out accounts for a request under a decision on it. -/
theorem exists_eventUnder_of_ledger
    (reachable : (server surroundings submissions source).Reachable state)
    {event : UsageAuditEventV1} (sent : event ∈ ledger state)
    : ∃ (payload : AiRelayRequest) (decision : PolicyDecision) (status : UsageAttemptStatus)
        (eventId : Uuid),
        event = payload.eventUnder decision status eventId
        ∧ surroundings.Decides payload.policyCheck decision := by
  obtain ⟨entry, member, rfl⟩ := List.mem_map.mp sent
  obtain ⟨⟨connection, outcome⟩, finished, carried⟩ := List.mem_flatMap.mp member
  obtain ⟨event, inOutcome, rfl⟩ := List.mem_map.mp carried
  obtain ⟨id, opening, calls, decision, result, eventId, _, _, attempted, trace, rfl⟩ :=
    attempted_of_finished reachable finished
  rw [usageAuditEvents_withAccount, List.mem_singleton] at inOutcome
  refine ⟨_, decision, _, eventId, inOutcome, ?_⟩
  have exchanged : evaluated ((submissions connection).request id).policyCheck decision
      ∈ exchangesOf connection state.log := by
    rw [trace]
    exact List.mem_append_right _ (List.mem_append_left _ (mem_of_attempted attempted))
  obtain ⟨_, _, responds⟩ := responded_of_exchangesOf reachable exchanged
  cases responds with
  | decides decides => exact decides

/-- An event that was sent out has the key of its request, which is not blank, and no
correlation.
-/
structure Uncorrelated (event : UsageAuditEventV1) : Prop where
  key : event.idempotencyKey = "usage:" ++ event.requestId.toString
  correlation : event.correlationId = none

theorem uncorrelated_of_ledger
    (reachable : (server surroundings submissions source).Reachable state)
    {event : UsageAuditEventV1} (sent : event ∈ ledger state)
    : Uncorrelated event := by
  obtain ⟨payload, decision, status, eventId, rfl, _⟩ :=
    exists_eventUnder_of_ledger reachable sent
  exact ⟨rfl, rfl⟩

theorem Uncorrelated.keyed {event : UsageAuditEventV1} (uncorrelated : Uncorrelated event)
    : ¬ Text.IsBlank event.idempotencyKey := by
  intro blank
  have letter : 'u' ∈ event.idempotencyKey.toList := by
    rw [uncorrelated.key]
    simp
  exact absurd (blank 'u' letter) (by decide)

-----------------------------------------------------------------------------------------
-- Replaying them
-----------------------------------------------------------------------------------------

/-- The events are attempts at the request of a case: the request is within the boundary and
without a correlation, each of the events is about it under the decision that it names, and
the case expects it to be charged once.
-/
structure UsageReplayCase.Retries (case : UsageReplayCase) (events : List UsageAuditEventV1)
    : Prop where
  boundary : WithinBoundary case.request.policy (some case.request.credentialRef)
  uncorrelated : case.request.correlationId = ""
  charge : case.expectedUniqueChargeCount = 1
  nonempty : events ≠ []
  request : ∀ event ∈ events, event.requestId.toString = case.request.requestId
  decision : ∀ event ∈ events, event.decisionId = case.request.policy.policyDecisionId

/-- The events of a server as a case replays them. -/
def UsageReplayCase.replayingSent (case : UsageReplayCase) (events : List UsageAuditEventV1)
    : UsageReplayCase :=
  case.replaying (events.map UsageAuditEventV1.toUsageEvent)

section Replaying

variable {case : UsageReplayCase} {events : List UsageAuditEventV1}

/-- An event traces the request if they agree on the request and on its decision. -/
theorem Uncorrelated.traces_iff {event : UsageAuditEventV1} (uncorrelated : Uncorrelated event)
    (boundary : WithinBoundary case.request.policy (some case.request.credentialRef))
    : (envelopeOfUsage event.toUsageEvent).Traces case.request
      ↔ event.requestId.toString = case.request.requestId
        ∧ case.request.correlationId = ""
        ∧ event.decisionId = case.request.policy.policyDecisionId := by
  have lineage : (envelopeOfUsage event.toUsageEvent).lineage
      = ⟨event.requestId.toString, "", event.decisionId⟩ := by
    simp only [EventEnvelope.lineage, envelopeOfUsage, UsageAuditEventV1.toUsageEvent,
      uncorrelated.correlation, Option.getD_none]
  rw [EventEnvelope.traces_iff_lineage boundary rfl, lineage, modelLineage, Lineage.mk.injEq,
    eq_comm (a := "")]

/-- Events about one request have one key. -/
theorem UsageReplayCase.card_keys_of_request (nonempty : events ≠ [])
    (uncorrelated : ∀ event ∈ events, Uncorrelated event)
    (request : ∀ event ∈ events, event.requestId.toString = case.request.requestId)
    : (case.replayingSent events).keys.toFinset.card = 1 := by
  rw [Finset.card_eq_one]
  refine ⟨"usage:" ++ case.request.requestId, ?_⟩
  have keyOf : ∀ event ∈ events,
      event.toUsageEvent.idempotencyKey = "usage:" ++ case.request.requestId := by
    intro event member
    rw [← request event member]
    exact (uncorrelated event member).key
  ext key
  simp only [keys, replayingSent, replaying, List.map_map, List.mem_toFinset, List.mem_map,
    Function.comp_apply, Finset.mem_singleton]
  constructor
  · intro found
    obtain ⟨event, member, rfl⟩ := found
    exact keyOf event member
  · rintro rfl
    obtain ⟨event, member⟩ := List.exists_mem_of_ne_nil _ nonempty
    exact ⟨event, member, keyOf event member⟩

/-- The harness accepts exactly attempts at one request. -/
theorem UsageReplayCase.replayingSent_accepted_iff
    (uncorrelated : ∀ event ∈ events, Uncorrelated event)
    : (case.replayingSent events).Accepted ↔ case.Retries events := by
  constructor
  · intro accepted
    have boundary := accepted.boundary
    have agrees : ∀ event ∈ events,
        event.requestId.toString = case.request.requestId
        ∧ case.request.correlationId = ""
        ∧ event.decisionId = case.request.policy.policyDecisionId := by
      intro event member
      exact ((uncorrelated event member).traces_iff boundary).mp
        (accepted.replays _ (List.mem_map_of_mem member)).lineage
    have nonempty : events ≠ [] := by
      rintro rfl
      exact accepted.nonempty rfl
    obtain ⟨first, member⟩ := List.exists_mem_of_ne_nil _ nonempty
    refine ⟨boundary, (agrees first member).2.1, ?_, nonempty,
      fun event member => (agrees event member).1,
      fun event member => (agrees event member).2.2⟩
    have charges := accepted.charges
    rw [card_keys_of_request nonempty uncorrelated
      (fun event member => (agrees event member).1)] at charges
    exact UInt32.toNat_inj.mp charges.symm
  · intro retries
    refine ⟨retries.boundary, ?_, ?_, ?_⟩
    · intro empty
      exact retries.nonempty (List.map_eq_nil_iff.mp empty)
    · intro event member
      obtain ⟨sent, inEvents, rfl⟩ := List.mem_map.mp member
      refine ⟨((uncorrelated sent inEvents).traces_iff retries.boundary).mpr ?_,
        (uncorrelated sent inEvents).keyed⟩
      exact ⟨retries.request sent inEvents, retries.uncorrelated, retries.decision sent inEvents⟩
    · rw [card_keys_of_request retries.nonempty uncorrelated retries.request]
      exact (congrArg UInt32.toNat retries.charge).symm

end Replaying

/-- Whatever a server has sent out, in any order of its steps, the harness accepts it as the
charges of a case exactly if it is attempts at the one request of the case, which has no
correlation and is charged once; and it counts a repeated charge for more than one attempt.
-/
theorem server_replays_iff
    (reachable : (server surroundings submissions source).Reachable state)
    {events : List UsageAuditEventV1} (sent : events ⊆ ledger state) (case : UsageReplayCase)
    (report : SimulationReport)
    : (((case.replayingSent events).validate.from report).1 = .ok () ↔ case.Retries events)
      ∧ (case.Retries events
        → (case.replayingSent events).validate.from report
          = (
            .ok (),
            if 1 < events.length then report.bump .usageReplayIdempotency else report
          )) := by
  have uncorrelated : ∀ event ∈ events, Uncorrelated event := by
    intro event member
    exact uncorrelated_of_ledger reachable (sent member)
  have accepted : (case.replayingSent events).Accepted ↔ case.Retries events :=
    UsageReplayCase.replayingSent_accepted_iff uncorrelated
  refine ⟨((case.replayingSent events).validate_records.passes report).trans accepted, ?_⟩
  intro retries
  rw [(accepted.mpr retries).validate_from report,
    UsageReplayCase.card_keys_of_request retries.nonempty uncorrelated retries.request]
  simp only [UsageReplayCase.replayingSent, UsageReplayCase.replaying, List.length_map]

/-- A request of the harness that stands for a submission, without a correlation. -/
def uncorrelatedReplay (id : Uuid) : UsageReplayCase :=
  {
    simulationReplay with
    request := {
      simulationRequest with
      requestId := id.toString
      correlationId := ""
    }
  }

/-- A request that is submitted alone, under its own identifier, can be attempted as the
surroundings may answer it, and its event is sent out.
-/
theorem exists_sent (surroundings : Surroundings) (source : UuidSource)
    {payload : AiRelayRequest} {calls : List Handled} {decision : PolicyDecision}
    {result : Except GatewayError ProviderResponse}
    (attempted : Attempted payload calls decision result)
    (serves
      : (server surroundings (fun _ : Unit => payload.submitted true) source).Serves
          source.drawn calls source.drawn)
    : ∃ state,
        (server surroundings (fun _ : Unit => payload.submitted true) source).Reachable state
        ∧ payload.eventUnder decision (attemptStatus result) (source.ids source.drawn)
          ∈ ledger state := by
  let gateway := server surroundings (fun _ : Unit => payload.submitted true) source
  have opens : (payload.submitted true).Opens payload.requestId [] := .named rfl
  have reaches : (gateway.begin.running ()).Reaches _ _ :=
    opens.reaches.trans
      (attempted.reaches.trans (accounting_reaches _ _ _ (source.ids source.drawn)))
  have served : gateway.Serves gateway.begin.surroundings _ _ :=
    serves.trans (.cons .draws (.nil _))
  obtain ⟨state, reachable, running, _⟩ := System.exists_following reaches served
  have finished := (recorded_of_reachable reachable).listed.mpr
    ((congrFun running ()).trans (Function.update_self ..))
  have carried := usageAuditEvents_withAccount result
    (payload.eventUnder decision (attemptStatus result) (source.ids source.drawn))
  refine ⟨state, reachable, List.mem_map.mpr ⟨((), _), ?_, rfl⟩⟩
  refine List.mem_flatMap.mpr ⟨_, finished, ?_⟩
  rw [carried]
  exact List.mem_cons_self

/-- An attempt that was sent out twice is accepted as one charge. -/
theorem server_replays_iff_twice
    : ∃ state event,
        (server .any (fun _ : Unit => boundRelayPayload.submitted true)
          World.fresh.source).Reachable state
        ∧ event ∈ ledger state
        ∧ ((uncorrelatedReplay boundRelayPayload.requestId).replayingSent
              [event, event]).validate.from {}
          = (.ok (), ({} : SimulationReport).bump .usageReplayIdempotency) := by
  let decision := { allowingDecision with decisionId := "poldec_sim" }
  have attempted : Attempted boundRelayPayload _ decision exhaustedResult := .passed rfl _
  obtain ⟨state, reachable, sent⟩ := exists_sent .any World.fresh.source attempted
    (.cons (.decides trivial) (.cons (.routes trivial) (.nil _)))
  generalize made : boundRelayPayload.eventUnder decision (attemptStatus exhaustedResult)
    (World.fresh.source.ids World.fresh.source.drawn) = event at sent
  have same : ∀ other ∈ [event, event], other = event := by simp
  have retries
      : (uncorrelatedReplay boundRelayPayload.requestId).Retries [event, event] := by
    refine ⟨?_, rfl, rfl, List.cons_ne_nil _ _, ?_, ?_⟩
    · rw [← ScopedModelRequest.validateBoundary_ok_iff]
      decide +kernel
    · intro other member
      rw [same other member, ← made]
      rfl
    · intro other member
      rw [same other member, ← made]
      rfl
  refine ⟨state, event, reachable, sent, ?_⟩
  exact (server_replays_iff reachable (by simp [sent]) _ {}).2 retries

-----------------------------------------------------------------------------------------
-- What the shipped engine has decided on
-----------------------------------------------------------------------------------------

/-- The shipped engine decides under names of its own, none of which names a decision. -/
theorem not_namesDecision_static (check : PolicyCheck)
    : ¬ NamesDecision (staticPolicyEngine check).decisionId := by
  intro names
  obtain ⟨rest, same⟩ := names
  have characters := congrArg String.toList same
  simp [staticPolicyEngine] at characters

/-- In an accepted fixture every event is under a decision, since its request is. -/
theorem GatewaySimulationFixture.Accepted.decided {fixture : GatewaySimulationFixture}
    (accepted : fixture.Accepted)
    : ∀ account ∈ fixture.accounts, ∀ event ∈ account.events,
        NamesDecision event.policyDecisionId := by
  have traced : ∀ account ∈ fixture.accounts, account.Traced := by
    simp only [accounts, List.forall_mem_append, List.forall_mem_map]
    exact ⟨fun case member => (accepted.providerCases case member).traced,
      fun case member => (accepted.mcpCases case member).traced,
      fun case member => (accepted.usageReplayCases case member).traced⟩
  intro account member event recorded
  have lineage := (traced account member).lineage event recorded
  rw [show event.policyDecisionId = event.lineage.policyDecisionId from rfl, lineage]
  exact (traced account member).decision

/-- Under the shipped engine, whichever adapters relay its requests, nothing that the gateway
sends out occurs in a fixture that the harness accepts: neither as a charge nor as an audit.
-/
theorem server_never_simulated {providers : ProviderRouter}
    (reachable
      : (server (GatewayState.mk providers staticPolicyEngine).surroundings submissions
          source).Reachable state)
    {event : UsageAuditEventV1} (sent : event ∈ ledger state)
    {fixture : GatewaySimulationFixture} {report : SimulationReport}
    (accepted : fixture.validate = .ok report)
    : ∀ account ∈ fixture.accounts,
        envelopeOfUsage event.toUsageEvent ∉ account.events
        ∧ envelopeOfAudit event.toAuditEvent ∉ account.events := by
  obtain ⟨payload, decision, status, eventId, same, decides⟩ :=
    exists_eventUnder_of_ledger reachable sent
  have undecided : ¬ NamesDecision event.decisionId := by
    rw [same]
    have answered : decision = staticPolicyEngine payload.policyCheck := decides
    have names := not_namesDecision_static payload.policyCheck
    rw [← answered] at names
    exact names
  have decided := (GatewaySimulationFixture.validate_ok_iff.mp accepted).1.decided
  intro account member
  constructor
  · intro charged
    exact undecided (decided account member _ charged)
  · intro audited
    exact undecided (decided account member _ audited)

/-- The shipped gateway sends out an event, and it is no charge of the repository's fixture. -/
theorem server_never_simulated_eval
    : ∃ state event,
        (server appState.surroundings (fun _ : Unit => boundRelayPayload.submitted true)
          World.fresh.source).Reachable state
        ∧ event ∈ ledger state
        ∧ ∀ account ∈ evalFixture.accounts,
            envelopeOfUsage event.toUsageEvent ∉ account.events
            ∧ envelopeOfAudit event.toAuditEvent ∉ account.events := by
  have permits : appState.surroundings.Permits appState boundRelayPayload :=
    ⟨rfl, fun _ source => ⟨source, rfl⟩⟩
  obtain ⟨calls, attempted, serves⟩ :=
    permits.attempted _ World.fresh.source .fresh World.fresh.source.drawn
  obtain ⟨state, reachable, sent⟩ := exists_sent _ _ attempted serves
  exact ⟨state, _, reachable, sent, server_never_simulated reachable sent evalFixture_validate⟩

end TaskotterGateway.Simulation
