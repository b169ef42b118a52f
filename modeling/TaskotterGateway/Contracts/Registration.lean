import TaskotterGateway.Contracts.Requests

/-! What a gateway tells of itself (`contracts.rs`): its registration, its health, and the
capabilities of its provider adapters and MCP hosts.
-/

namespace TaskotterGateway.Contracts

structure GatewayRegistration where
  protocolVersion : String
  gatewayId : String
  instanceId : String
  capabilities : List String
  controlPlaneRelayOnly : Bool
  deriving DecidableEq, Repr

inductive HealthStatus where
  | ok
  | degraded
  | unavailable
  deriving DecidableEq, Repr

structure ProviderAdapterHealth where
  provider : String
  status : HealthStatus
  supportsStreaming : Bool
  deriving DecidableEq, Repr

structure McpHostHealth where
  hostId : String
  hostingMode : McpHostingMode
  status : HealthStatus
  deriving DecidableEq, Repr

structure GatewayHealth where
  status : HealthStatus
  gatewayId : String
  providerAdapters : List ProviderAdapterHealth
  mcpHosts : List McpHostHealth
  deriving DecidableEq, Repr

structure ModelCapability where
  model : String
  contextWindowTokens : UInt32
  supportsJsonOutput : Bool
  supportsToolCalls : Bool
  deriving DecidableEq, Repr

structure ProviderAdapterCapability where
  provider : String
  adapterVersion : String
  supportedModels : List ModelCapability
  supportsStreaming : Bool
  supportsToolCalls : Bool
  credentialRefKinds : List CredentialRefKind
  providerFamily : Option String
  regions : List String
  dataResidency : List String
  credentialScopePrefixes : List String
  deriving DecidableEq, Repr

structure GatewayCapabilityGate where
  capability : HighRiskGatewayCapability
  featureFlag : String
  enabled : Bool
  defaultPolicyEffect : String
  deriving DecidableEq, Repr

structure McpHostCapability where
  hostId : String
  supportedHostingModes : List McpHostingMode
  supportsLifecyclePlaceholder : Bool
  highRiskCapabilities : List GatewayCapabilityGate
  deriving DecidableEq, Repr

/-- The flags of a runtime that sets none: everything at risk is off. -/
def RuntimeFeatureFlags.default : RuntimeFeatureFlags where
  hostedMcpBillingEnabled := false
  providerRoutingEnabled := false

end TaskotterGateway.Contracts
