import TaskotterGateway.Mcp.RuntimeHost
import TaskotterGateway.Provider.Streaming
import TaskotterGateway.Simulation.Implementation

/-! Protocol versions at the gates. The version check stands beside the boundary checks and
is called by none of them: what is admitted does not depend on the version it declares.
-/

namespace TaskotterGateway.Gates

open Text Contracts RecordedChecks
open Provider Mcp Simulation

/-- Some gate, or the harness in some case of a fixture, admits a request of this version. -/
inductive AdmitsVersion : String → Prop
  | complete {request : ScopedModelRequest} {response : ModelResponse}
    (answered : FakeProviderAdapter.complete request = .ok response)
    : AdmitsVersion request.protocolVersion
  | stream {request : ScopedModelRequest} {frames : List StreamFrame}
    (streamed : FakeProviderAdapter.stream request = .ok frames)
    : AdmitsVersion request.protocolVersion
  | openSession {host : McpRuntimeHost} {request : ScopedMcpSessionRequest}
    {session : McpSessionPlaceholder} (opened : host.openSession request = .ok session)
    : AdmitsVersion request.protocolVersion
  | providerCase {fixture : GatewaySimulationFixture} {report : SimulationReport}
    (accepted : fixture.validate = .ok report) {case : ProviderSimulationCase}
    (member : case ∈ fixture.providerCases)
    : AdmitsVersion case.request.protocolVersion
  | mcpCase {fixture : GatewaySimulationFixture} {report : SimulationReport}
    (accepted : fixture.validate = .ok report) {case : McpSimulationCase}
    (member : case ∈ fixture.mcpCases)
    : AdmitsVersion case.request.protocolVersion
  | usageReplayCase {fixture : GatewaySimulationFixture} {report : SimulationReport}
    (accepted : fixture.validate = .ok report) {case : UsageReplayCase}
    (member : case ∈ fixture.usageReplayCases)
    : AdmitsVersion case.request.protocolVersion

-----------------------------------------------------------------------------------------
-- Requests and fixtures under another version
-----------------------------------------------------------------------------------------

/-- The same request under another version. -/
def modelVersioned (version : String) (request : ScopedModelRequest) : ScopedModelRequest :=
  { request with protocolVersion := version }

/-- The same session under another version. -/
def sessionVersioned (version : String) (request : ScopedMcpSessionRequest)
    : ScopedMcpSessionRequest :=
  { request with protocolVersion := version }

/-- The same fixture, with no version in any of its cases. -/
def unversioned (fixture : GatewaySimulationFixture) : GatewaySimulationFixture :=
  {
    fixture with
    providerCases := fixture.providerCases.map (fun case =>
      { case with request := modelVersioned "" case.request })
    mcpCases := fixture.mcpCases.map (fun case =>
      { case with request := sessionVersioned "" case.request })
    usageReplayCases := fixture.usageReplayCases.map (fun case =>
      { case with request := modelVersioned "" case.request })
  }

theorem complete_modelVersioned (version : String) (request : ScopedModelRequest)
    : FakeProviderAdapter.complete (modelVersioned version request)
      = FakeProviderAdapter.complete request :=
  rfl

theorem stream_modelVersioned (version : String) (request : ScopedModelRequest)
    : FakeProviderAdapter.stream (modelVersioned version request)
      = FakeProviderAdapter.stream request :=
  rfl

theorem openSession_sessionVersioned (host : McpRuntimeHost) (version : String)
    (request : ScopedMcpSessionRequest)
    : host.openSession (sessionVersioned version request) = host.openSession request :=
  rfl

/-- The keys that a replay collects are those of its events, by induction on the events. -/
theorem uniqueChargeKeys_modelVersioned (version : String) (case : UsageReplayCase)
    (keys : Finset String) (events : List UsageEvent)
    : UsageReplayCase.uniqueChargeKeys
        { case with request := modelVersioned version case.request } keys events
      = case.uniqueChargeKeys keys events := by
  induction events generalizing keys with
  | nil => rfl
  | cons event rest ih =>
      simp only [UsageReplayCase.uniqueChargeKeys, ih]
      rfl

/-- The three loops of the harness read no version. -/
theorem validateCases_unversioned (fixture : GatewaySimulationFixture)
    : (unversioned fixture).validateCases = fixture.validateCases := by
  have providers (case : ProviderSimulationCase)
      : ProviderSimulationCase.validate
          { case with request := modelVersioned "" case.request } = case.validate :=
    rfl
  have sessions (case : McpSimulationCase)
      : McpSimulationCase.validate
          { case with request := sessionVersioned "" case.request } = case.validate :=
    rfl
  have replays (case : UsageReplayCase)
      : UsageReplayCase.validate
          { case with request := modelVersioned "" case.request } = case.validate := by
    unfold UsageReplayCase.validate
    simp only [uniqueChargeKeys_modelVersioned]
    rfl
  simp only [GatewaySimulationFixture.validateCases, unversioned, List.forM_map, providers,
    sessions, replays]

/-- Neither does the harness as a whole. -/
theorem validate_unversioned (fixture : GatewaySimulationFixture)
    : (unversioned fixture).validate = fixture.validate := by
  unfold GatewaySimulationFixture.validate
  rw [validateCases_unversioned]
  simp only [unversioned, List.isEmpty_map]

/-- The version check accepts the one supported version, and no admission is decided by it:
a request or a fixture gets the same answer under every version.
-/
theorem admission_ignores_version
    : (∀ version,
        validateGatewayProtocolVersion version = .ok () ↔ version = "gateway.v0.1")
      ∧ (∀ (version : String) (request : ScopedModelRequest),
          FakeProviderAdapter.complete { request with protocolVersion := version }
            = FakeProviderAdapter.complete request
          ∧ FakeProviderAdapter.stream { request with protocolVersion := version }
            = FakeProviderAdapter.stream request)
      ∧ (∀ (host : McpRuntimeHost) (version : String) (request : ScopedMcpSessionRequest),
          host.openSession { request with protocolVersion := version }
          = host.openSession request)
      ∧ ∀ left right : GatewaySimulationFixture,
          unversioned left = unversioned right
          → left.validate = right.validate := by
  refine ⟨?_, ?_, openSession_sessionVersioned, ?_⟩
  · intro version
    rw [validateGatewayProtocolVersion_ok_iff, supportedGatewayProtocolVersions,
      List.mem_singleton, gatewayProtocolVersion]
  · intro version request
    exact ⟨complete_modelVersioned version request, stream_modelVersioned version request⟩
  · intro left right same
    rw [← validate_unversioned left, same, validate_unversioned]

/-- The repository's fixture, with provider cases of a version that no gateway supports. -/
def futureFixture : GatewaySimulationFixture :=
  {
    evalFixture with
    providerCases := evalFixture.providerCases.map (fun case =>
      { case with request := modelVersioned "gateway.v9" case.request })
  }

/-- The harness accepts the fixture, though the version of its cases is refused by itself. -/
theorem admission_ignores_version_future
    : validateGatewayProtocolVersion "gateway.v9" ≠ .ok ()
      ∧ futureFixture.validate = .ok evalReport := by
  obtain ⟨versions, _, _, fixtures⟩ := admission_ignores_version
  have same : unversioned futureFixture = unversioned evalFixture := by
    simp only [unversioned, futureFixture, List.map_map]
    rfl
  constructor
  · intro accepted
    exact absurd ((versions _).mp accepted) (by decide)
  · rw [fixtures futureFixture evalFixture same]
    exact evalFixture_validate

/-- A version that no gateway supports is admitted, for a completion among others. -/
theorem not_admitsVersion_supported
    : ¬ ∀ version, AdmitsVersion version → validateGatewayProtocolVersion version = .ok () := by
  intro assumed
  have boundary : (modelVersioned "gateway.v9" greetingRequest).validateBoundary = .ok () := by
    decide +kernel
  have admitted := AdmitsVersion.complete (complete_of_unasked boundary (by decide +kernel))
  have supported := validateGatewayProtocolVersion_ok_iff.mp (assumed _ admitted)
  have unsupported : "gateway.v9" ∉ supportedGatewayProtocolVersions := by decide
  exact unsupported supported

end TaskotterGateway.Gates
