import TaskotterGateway.Contracts.Registration
import TaskotterGateway.Mcp.RuntimeHost

/-! What a host of MCP sessions advertises (`mcp.rs`, `contracts.rs`). The capabilities that it
publishes tell exactly which sessions it opens, and nothing about it that opening sessions
would not tell.
-/

namespace TaskotterGateway.Mcp

open Contracts

namespace McpRuntimeHost

def new (hostId : String) : McpRuntimeHost where
  hostId
  featureFlags := .default

def withFeatureFlags (hostId : String) (featureFlags : RuntimeFeatureFlags)
    : McpRuntimeHost where
  hostId
  featureFlags

def capability (host : McpRuntimeHost) : McpHostCapability where
  hostId := host.hostId
  supportedHostingModes := [.gatewayHosted, .runnerHosted, .externalRemote]
  supportsLifecyclePlaceholder := true
  highRiskCapabilities := [
    {
      capability := .hostedMcpBilling
      featureFlag := HighRiskGatewayCapability.hostedMcpBilling.featureFlag
      enabled := host.featureFlags.hostedMcpBillingEnabled
      defaultPolicyEffect := "deny"
    }
  ]

/-- The health of a host is the same in every mode, also in one that is gated. -/
def health (host : McpRuntimeHost) (hostingMode : McpHostingMode) : McpHostHealth where
  hostId := host.hostId
  hostingMode
  status := .ok

end McpRuntimeHost

/-- The capability that a session in a hosting mode puts at risk. -/
def hostingRisk : McpHostingMode → Option HighRiskGatewayCapability
  | .gatewayHosted => some .hostedMcpBilling
  | .runnerHosted | .externalRemote => none

/-- The advertised capabilities let a session open: its mode is supported, and every gate on
what the mode puts at risk is enabled.
-/
structure Offers (capability : McpHostCapability)
    (hostingMode : McpHostingMode)
    : Prop where
  supported : hostingMode ∈ capability.supportedHostingModes
  enabled : ∀ gate ∈ capability.highRiskCapabilities,
    hostingRisk hostingMode = some gate.capability → gate.enabled = true

/-- A host offers the modes that it does not have to bill, and the other one if it may bill. -/
theorem McpRuntimeHost.offers_iff {host : McpRuntimeHost} {hostingMode : McpHostingMode}
    : Offers host.capability hostingMode
      ↔ (hostingMode = .gatewayHosted → host.featureFlags.hostedMcpBillingEnabled = true) := by
  constructor
  · intro offers billed
    exact offers.enabled _ List.mem_cons_self (by rw [billed]; rfl)
  · intro billable
    refine ⟨by cases hostingMode <;> simp [capability], ?_⟩
    intro gate member risk
    obtain rfl := List.mem_singleton.mp member
    cases hostingMode with
    | gatewayHosted => exact billable rfl
    | runnerHosted => contradiction
    | externalRemote => contradiction

/-- A session in a mode, within the boundary and without a credential. -/
def sessionIn (hostingMode : McpHostingMode) : ScopedMcpSessionRequest where
  protocolVersion := "gateway.v0.1"
  sessionId := "session_1"
  correlationId := "corr_1"
  workingGroupId := "wg_1"
  actor := { actorType := .agent, id := "agent_1" }
  mcpServerRef := "mcp_server_1"
  hostingMode
  allowedToolRefs := []
  policy := .decisionRef "poldec_1" "2026-06-01T00:00:00Z"
  credentialRef := none

theorem sessionIn_withinBoundary (hostingMode : McpHostingMode)
    : WithinBoundary (sessionIn hostingMode).policy (sessionIn hostingMode).credentialRef := by
  rw [← ScopedMcpSessionRequest.validateBoundary_ok_iff]
  rfl

namespace McpRuntimeHost

/-- The host opens exactly the sessions within the boundary that it offers. -/
theorem openSession_iff_offers (host : McpRuntimeHost) (request : ScopedMcpSessionRequest)
    : (∃ session, host.openSession request = .ok session)
      ↔ WithinBoundary request.policy request.credentialRef
        ∧ Offers host.capability request.hostingMode := by
  simp only [openSession_ok_iff, offers_iff]
  constructor
  · intro opened
    obtain ⟨_, boundary, billable, _⟩ := opened
    exact ⟨boundary, billable⟩
  · intro offered
    exact ⟨_, offered.1, offered.2, rfl⟩

/-- Hosts that advertise the same have the same name and the same gate. -/
theorem capability_eq_iff {host other : McpRuntimeHost}
    : host.capability = other.capability
      ↔ host.hostId = other.hostId
        ∧ host.featureFlags.hostedMcpBillingEnabled
          = other.featureFlags.hostedMcpBillingEnabled := by
  simp [capability]

/-- Hosts that open the same sessions have the same name: the session tells it. -/
theorem hostId_of_openSession {host other : McpRuntimeHost}
    (same : ∀ request, host.openSession request = other.openSession request)
    : host.hostId = other.hostId := by
  have opened : host.openSession (sessionIn .runnerHosted)
      = .ok (host.placeholder (sessionIn .runnerHosted)) :=
    openSession_ok_iff.mpr ⟨sessionIn_withinBoundary _, nofun, rfl⟩
  rw [same] at opened
  obtain ⟨_, _, placed⟩ := openSession_ok_iff.mp opened
  exact (congrArg McpSessionPlaceholder.hostId placed).symm

/-- Hosts that open the same sessions have the same gate. -/
theorem billing_of_openSession {host other : McpRuntimeHost}
    (same : ∀ request, host.openSession request = other.openSession request)
    : host.featureFlags.hostedMcpBillingEnabled
      = other.featureFlags.hostedMcpBillingEnabled := by
  have offers : Offers host.capability .gatewayHosted
      ↔ Offers other.capability .gatewayHosted := by
    have opens := host.openSession_iff_offers (sessionIn .gatewayHosted)
    rw [same, openSession_iff_offers] at opens
    exact and_congr_right_iff.mp opens.symm (sessionIn_withinBoundary .gatewayHosted)
  rw [Bool.eq_iff_iff]
  simpa [offers_iff] using offers

end McpRuntimeHost

/-- The advertised capabilities are all there is to tell about a host from its sessions: it
opens exactly the sessions within the boundary that it offers, and two hosts advertise the
same exactly when they answer every request alike.
-/
theorem McpRuntimeHost.capability_tells (host : McpRuntimeHost)
    : (∀ request,
          (∃ session, host.openSession request = .ok session)
          ↔ WithinBoundary request.policy request.credentialRef
            ∧ Offers host.capability request.hostingMode)
      ∧ ∀ other : McpRuntimeHost,
          host.capability = other.capability
          ↔ ∀ request, host.openSession request = other.openSession request := by
  refine ⟨host.openSession_iff_offers, ?_⟩
  intro other
  rw [capability_eq_iff]
  constructor
  · intro same request
    simp only [openSession, same.1, same.2]
  · intro same
    exact ⟨hostId_of_openSession same, billing_of_openSession same⟩

end TaskotterGateway.Mcp
