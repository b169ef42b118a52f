import TaskotterGateway.Simulation.Report

/-! Where the events of an accepted simulation come from. Every kind of case is read as an
account: a request and the events that were recorded for it.
-/

namespace TaskotterGateway.Simulation

open Text Contracts RecordedChecks

/-- A request as its events should know it, and the events that were recorded for it. -/
structure CaseAccount where
  lineage : Lineage
  workingGroupId : String
  actor : ActorRef
  credentialRef : Option ScopedCredentialRef
  events : List EventEnvelope
  deriving DecidableEq, Repr

def ProviderSimulationCase.account (case : ProviderSimulationCase) : CaseAccount where
  lineage := modelLineage case.request
  workingGroupId := case.request.workingGroupId
  actor := case.request.actor
  credentialRef := some case.request.credentialRef
  events := [envelopeOfUsage case.usageEvent, envelopeOfAudit case.auditEvent]

def McpSimulationCase.account (case : McpSimulationCase) : CaseAccount where
  lineage := sessionLineage case.request
  workingGroupId := case.request.workingGroupId
  actor := case.request.actor
  credentialRef := case.request.credentialRef
  events := [envelopeOfUsage case.usageEvent, envelopeOfAudit case.auditEvent]

def UsageReplayCase.account (case : UsageReplayCase) : CaseAccount where
  lineage := modelLineage case.request
  workingGroupId := case.request.workingGroupId
  actor := case.request.actor
  credentialRef := some case.request.credentialRef
  events := case.usageEvents.map envelopeOfUsage

/-- The accounts of all cases of a fixture. -/
def GatewaySimulationFixture.accounts (fixture : GatewaySimulationFixture)
    : List CaseAccount :=
  fixture.providerCases.map ProviderSimulationCase.account
  ++ (fixture.mcpCases.map McpSimulationCase.account
    ++ fixture.usageReplayCases.map UsageReplayCase.account)

/-- Every event has the lineage of its request, the request is under a decision and not
under an instruction, and a credential that is present names a secret.
-/
structure CaseAccount.Traced (account : CaseAccount) : Prop where
  lineage : ∀ event ∈ account.events, event.lineage = account.lineage
  decision : NamesDecision account.lineage.policyDecisionId
  notInstruction : ¬ NamesInstruction account.lineage.policyDecisionId
  credential : ∀ credential ∈ account.credentialRef, credential.NamesSecret

/-- A request within the boundary whose events have its lineage is traced. -/
theorem CaseAccount.traced_of_boundary {account : CaseAccount} {policy : PolicyInstruction}
    (boundary : WithinBoundary policy account.credentialRef)
    (decision : account.lineage.policyDecisionId = policy.policyDecisionId)
    (lineage : ∀ event ∈ account.events, event.lineage = account.lineage)
    : account.Traced := by
  have names : NamesDecision account.lineage.policyDecisionId := by
    rw [decision]
    exact boundary.policy.policyDecisionId
  exact ⟨lineage, names, names.not_namesInstruction, boundary.credential⟩

/-- Within the boundary, an event of the gateway is known by its lineage: the request is under
a decision, which is no instruction.
-/
theorem EventEnvelope.traces_iff_lineage {event : EventEnvelope} {request : ScopedModelRequest}
    (boundary : WithinBoundary request.policy (some request.credentialRef))
    (source : event.source = .gateway)
    : event.Traces request ↔ event.lineage = modelLineage request := by
  constructor
  · intro traces
    exact traces.lineage
  · intro lineage
    have names : NamesDecision event.policyDecisionId := by
      rw [show event.policyDecisionId = request.policy.policyDecisionId from
        congrArg Lineage.policyDecisionId lineage]
      exact boundary.policy.policyDecisionId
    exact ⟨source, lineage, Bool.eq_false_iff.mpr (mt startsWith_iff.mp names.not_namesInstruction)⟩

theorem ProviderSimulationCase.Accepted.traced {case : ProviderSimulationCase}
    (accepted : case.Accepted)
    : case.account.Traced := by
  refine CaseAccount.traced_of_boundary accepted.boundary rfl ?_
  intro event member
  rcases List.mem_pair.mp member with rfl | rfl
  · exact accepted.usageLineage.lineage
  · exact accepted.auditLineage.lineage

/-- No check of a session asks for its decision: this follows from its boundary. -/
theorem McpSimulationCase.Accepted.traced {case : McpSimulationCase}
    (accepted : case.Accepted)
    : case.account.Traced := by
  refine CaseAccount.traced_of_boundary accepted.boundary rfl ?_
  intro event member
  rcases List.mem_pair.mp member with rfl | rfl
  · exact accepted.usageLineage
  · exact accepted.auditLineage

theorem UsageReplayCase.Accepted.traced {case : UsageReplayCase} (accepted : case.Accepted)
    : case.account.Traced := by
  refine CaseAccount.traced_of_boundary accepted.boundary rfl ?_
  intro event member
  obtain ⟨usage, recorded, rfl⟩ := List.mem_map.mp member
  exact (accepted.replays usage recorded).lineage.lineage

/-- In an accepted fixture the events of every case have the lineage of their own request,
which is under a policy decision and presents only credentials that name secrets.
-/
theorem GatewaySimulationFixture.accounts_traced (fixture : GatewaySimulationFixture)
    (report : SimulationReport) (accepted : fixture.validate = .ok report)
    : ∀ account ∈ fixture.accounts, account.Traced := by
  obtain ⟨cases, _, _⟩ := validate_ok_iff.mp accepted
  simp only [accounts, List.forall_mem_append, List.forall_mem_map]
  refine ⟨?_, ?_, ?_⟩
  · intro case member
    exact (cases.providerCases case member).traced
  · intro case member
    exact (cases.mcpCases case member).traced
  · intro case member
    exact (cases.usageReplayCases case member).traced

/-- The session of the repository's fixture is traced. -/
theorem GatewaySimulationFixture.accounts_traced_eval
    : (simulationSession .gatewayHosted simulationLifecycle).account.Traced := by
  have session
      : (simulationSession .gatewayHosted simulationLifecycle).account
        ∈ evalFixture.accounts := by
    simp [accounts, evalFixture, simulationFixture]
  exact accounts_traced evalFixture evalReport evalFixture_validate _ session

/-- Every event names the gateway as its source, and the working group and the actor of its
request, as the gateway's emitters do.
-/
structure CaseAccount.Attributed (account : CaseAccount) : Prop where
  source : ∀ event ∈ account.events, event.source = .gateway
  workingGroup : ∀ event ∈ account.events, event.workingGroupId = account.workingGroupId
  actor : ∀ event ∈ account.events, event.actor = .from account.actor

/-- Nobody, in place of the actor of an event. -/
def unattributedActor : EventActorRef where
  actorType := .service
  id := ""

/-- The usage event with its working group and its actor blanked. -/
def unattributedUsage (usage : UsageEvent) : UsageEvent :=
  { usage with workingGroupId := "", actor := unattributedActor }

/-- The audit event with its working group and its actor blanked. -/
def unattributedAudit (audit : AuditEvent) : AuditEvent :=
  { audit with workingGroupId := "", actor := unattributedActor }

def ProviderSimulationCase.unattributed (case : ProviderSimulationCase)
    : ProviderSimulationCase :=
  {
    case with
    usageEvent := unattributedUsage case.usageEvent
    auditEvent := unattributedAudit case.auditEvent
  }

def McpSimulationCase.unattributed (case : McpSimulationCase) : McpSimulationCase :=
  {
    case with
    usageEvent := unattributedUsage case.usageEvent
    auditEvent := unattributedAudit case.auditEvent
  }

def UsageReplayCase.unattributed (case : UsageReplayCase) : UsageReplayCase :=
  { case with usageEvents := case.usageEvents.map unattributedUsage }

/-- The fixture with the attribution of all its events blanked. -/
def GatewaySimulationFixture.unattributed (fixture : GatewaySimulationFixture)
    : GatewaySimulationFixture :=
  {
    fixture with
    providerCases := fixture.providerCases.map ProviderSimulationCase.unattributed
    mcpCases := fixture.mcpCases.map McpSimulationCase.unattributed
    usageReplayCases := fixture.usageReplayCases.map UsageReplayCase.unattributed
  }

theorem ProviderSimulationCase.validate_unattributed (case : ProviderSimulationCase)
    : case.unattributed.validate = case.validate :=
  rfl

theorem McpSimulationCase.validate_unattributed (case : McpSimulationCase)
    : case.unattributed.validate = case.validate :=
  rfl

theorem UsageReplayCase.validate_unattributed (case : UsageReplayCase)
    : case.unattributed.validate = case.validate :=
  case.validate_mapUsage (fun _ => rfl) (fun _ => rfl)

/-- The harness reads no attribution: blanking all of it changes no answer. -/
theorem GatewaySimulationFixture.validate_unattributed (fixture : GatewaySimulationFixture)
    : fixture.unattributed.validate = fixture.validate := by
  have cases : fixture.unattributed.validateCases = fixture.validateCases := by
    simp only [validateCases, unattributed, List.forM_map,
      ProviderSimulationCase.validate_unattributed, McpSimulationCase.validate_unattributed,
      UsageReplayCase.validate_unattributed]
  unfold validate
  rw [cases]
  simp only [unattributed, List.isEmpty_map]

/-- In an accepted fixture every event of a provider case and of a replay names the gateway
as its source. Attribution to a working group and an actor is not compared: fixtures that
differ in it alone get the same answer.
-/
theorem GatewaySimulationFixture.sources_of_accepted
    : (∀ (fixture : GatewaySimulationFixture) (report : SimulationReport),
          fixture.validate = .ok report
          → (∀ case ∈ fixture.providerCases,
                ∀ event ∈ case.account.events, event.source = .gateway)
            ∧ ∀ case ∈ fixture.usageReplayCases,
                ∀ event ∈ case.account.events, event.source = .gateway)
      ∧ ∀ left right : GatewaySimulationFixture,
          left.unattributed = right.unattributed → left.validate = right.validate := by
  refine ⟨?_, ?_⟩
  · intro fixture report accepted
    obtain ⟨cases, _, _⟩ := validate_ok_iff.mp accepted
    refine ⟨?_, ?_⟩
    · intro case present event member
      have accepted := cases.providerCases case present
      rcases List.mem_pair.mp member with rfl | rfl
      · exact accepted.usageLineage.source
      · exact accepted.auditLineage.source
    · intro case present event member
      obtain ⟨usage, recorded, rfl⟩ := List.mem_map.mp member
      exact ((cases.usageReplayCases case present).replays usage recorded).lineage.source
  · intro left right same
    rw [← left.validate_unattributed, same, right.validate_unattributed]

/-- The repository's fixture, with its session charged to another working group. -/
def misattributedFixture : GatewaySimulationFixture :=
  simulationFixture []
    {
      simulationSession .gatewayHosted simulationLifecycle with
      usageEvent := simulationUsage "wg_other"
    }

/-- The events of the repository's fixture come from the gateway, and the charge to another
working group gets the same answer.
-/
theorem GatewaySimulationFixture.sources_of_accepted_eval
    : ((∀ case ∈ evalFixture.providerCases,
            ∀ event ∈ case.account.events, event.source = .gateway)
          ∧ ∀ case ∈ evalFixture.usageReplayCases,
              ∀ event ∈ case.account.events, event.source = .gateway)
      ∧ misattributedFixture.validate = evalFixture.validate :=
  ⟨sources_of_accepted.1 evalFixture evalReport evalFixture_validate,
    sources_of_accepted.2 misattributedFixture evalFixture rfl⟩

/-- Acceptance does not imply attribution: a session may be charged to another group. -/
theorem GatewaySimulationFixture.not_attributed
    : ¬ ∀ (fixture : GatewaySimulationFixture) (report : SimulationReport),
          fixture.validate = .ok report
          → ∀ account ∈ fixture.accounts, account.Attributed := by
  intro attributed
  have blanked : misattributedFixture.unattributed = evalFixture.unattributed := rfl
  have accepted : misattributedFixture.validate = .ok evalReport := by
    rw [← misattributedFixture.validate_unattributed, blanked,
      evalFixture.validate_unattributed]
    exact evalFixture_validate
  have session := attributed misattributedFixture evalReport accepted
    (McpSimulationCase.account
      {
        simulationSession .gatewayHosted simulationLifecycle with
        usageEvent := simulationUsage "wg_other"
      })
    (by simp [GatewaySimulationFixture.accounts, misattributedFixture, simulationFixture])
  have charged := session.workingGroup (envelopeOfUsage (simulationUsage "wg_other"))
    (by simp [McpSimulationCase.account])
  exact absurd charged (by decide)

end TaskotterGateway.Simulation
