import TaskotterGateway.Contracts.Registration
import TaskotterGateway.Fallback.Implementation
import TaskotterGateway.Formats.Contracts
import TaskotterGateway.Formats.UsageAudit

/-! The JSON forms of what a gateway tells of itself, of the answers to model requests
(`contracts.rs`), and of the requests for a fallback (`fallback.rs`).
-/

namespace TaskotterGateway.Contracts

open JsonCodec

def GatewayRegistration.codec : Codec GatewayRegistration :=
  .record .ignored
    (Fields.build GatewayRegistration.mk
      |>.required "protocol_version" .text GatewayRegistration.protocolVersion
      |>.required "gateway_id" .text GatewayRegistration.gatewayId
      |>.required "instance_id" .text GatewayRegistration.instanceId
      |>.required "capabilities" (.list .text) GatewayRegistration.capabilities
      |>.required "control_plane_relay_only" .flag GatewayRegistration.controlPlaneRelayOnly)

def HealthStatus.codec : Codec HealthStatus :=
  .enumeration {
    entries := [(.ok, "ok"), (.degraded, "degraded"), (.unavailable, "unavailable")]
  }

def ProviderAdapterHealth.codec : Codec ProviderAdapterHealth :=
  .record .ignored
    (Fields.build ProviderAdapterHealth.mk
      |>.required "provider" .text ProviderAdapterHealth.provider
      |>.required "status" HealthStatus.codec ProviderAdapterHealth.status
      |>.required "supports_streaming" .flag ProviderAdapterHealth.supportsStreaming)

def McpHostHealth.codec : Codec McpHostHealth :=
  .record .ignored
    (Fields.build McpHostHealth.mk
      |>.required "host_id" .text McpHostHealth.hostId
      |>.required "hosting_mode" McpHostingMode.codec McpHostHealth.hostingMode
      |>.required "status" HealthStatus.codec McpHostHealth.status)

def GatewayHealth.codec : Codec GatewayHealth :=
  .record .ignored
    (Fields.build GatewayHealth.mk
      |>.required "status" HealthStatus.codec GatewayHealth.status
      |>.required "gateway_id" .text GatewayHealth.gatewayId
      |>.required "provider_adapters" (.list ProviderAdapterHealth.codec)
        GatewayHealth.providerAdapters
      |>.required "mcp_hosts" (.list McpHostHealth.codec) GatewayHealth.mcpHosts)

def ModelCapability.codec : Codec ModelCapability :=
  .record .ignored
    (Fields.build ModelCapability.mk
      |>.required "model" .text ModelCapability.model
      |>.required "context_window_tokens" .uint32 ModelCapability.contextWindowTokens
      |>.required "supports_json_output" .flag ModelCapability.supportsJsonOutput
      |>.required "supports_tool_calls" .flag ModelCapability.supportsToolCalls)

def ProviderAdapterCapability.codec : Codec ProviderAdapterCapability :=
  .record .ignored
    (Fields.build ProviderAdapterCapability.mk
      |>.required "provider" .text ProviderAdapterCapability.provider
      |>.required "adapter_version" .text ProviderAdapterCapability.adapterVersion
      |>.required "supported_models" (.list ModelCapability.codec)
        ProviderAdapterCapability.supportedModels
      |>.required "supports_streaming" .flag ProviderAdapterCapability.supportsStreaming
      |>.required "supports_tool_calls" .flag ProviderAdapterCapability.supportsToolCalls
      |>.required "credential_ref_kinds" (.list CredentialRefKind.codec)
        ProviderAdapterCapability.credentialRefKinds
      |>.nullable "provider_family" .text ProviderAdapterCapability.providerFamily
      |>.defaulted "regions" (.list .text) ProviderAdapterCapability.regions []
      |>.defaulted "data_residency" (.list .text) ProviderAdapterCapability.dataResidency []
      |>.defaulted "credential_scope_prefixes" (.list .text)
        ProviderAdapterCapability.credentialScopePrefixes [])

def HighRiskGatewayCapability.codec : Codec HighRiskGatewayCapability :=
  .enumeration {
    entries :=
      [(.hostedMcpBilling, "hosted_mcp_billing"),
        (.sensitiveProviderRouting, "sensitive_provider_routing")]
  }

def GatewayCapabilityGate.codec : Codec GatewayCapabilityGate :=
  .record .ignored
    (Fields.build GatewayCapabilityGate.mk
      |>.required "capability" HighRiskGatewayCapability.codec GatewayCapabilityGate.capability
      |>.required "feature_flag" .text GatewayCapabilityGate.featureFlag
      |>.required "enabled" .flag GatewayCapabilityGate.enabled
      |>.required "default_policy_effect" .text GatewayCapabilityGate.defaultPolicyEffect)

def McpHostCapability.codec : Codec McpHostCapability :=
  .record .ignored
    (Fields.build McpHostCapability.mk
      |>.required "host_id" .text McpHostCapability.hostId
      |>.required "supported_hosting_modes" (.list McpHostingMode.codec)
        McpHostCapability.supportedHostingModes
      |>.required "supports_lifecycle_placeholder" .flag
        McpHostCapability.supportsLifecyclePlaceholder
      |>.required "high_risk_capabilities" (.list GatewayCapabilityGate.codec)
        McpHostCapability.highRiskCapabilities)

/-- Flags that are left out are off. -/
def RuntimeFeatureFlags.fields : Fields RuntimeFeatureFlags RuntimeFeatureFlags :=
  Fields.build RuntimeFeatureFlags.mk
    |>.defaulted "hosted_mcp_billing_enabled" .flag
      RuntimeFeatureFlags.hostedMcpBillingEnabled false
    |>.defaulted "provider_routing_enabled" .flag
      RuntimeFeatureFlags.providerRoutingEnabled false

def RuntimeFeatureFlags.codec : Codec RuntimeFeatureFlags :=
  .record .ignored RuntimeFeatureFlags.fields

def FinishReason.codec : Codec FinishReason :=
  .enumeration {
    entries :=
      [(.stop, "stop"), (.length, "length"), (.toolCall, "tool_call"),
        (.refusal, "refusal"), (.error, "error")]
  }

def ModelResponse.codec : Codec ModelResponse :=
  .record .ignored
    (Fields.build ModelResponse.mk
      |>.required "request_id" .text ModelResponse.requestId
      |>.required "provider" .text ModelResponse.provider
      |>.required "model" .text ModelResponse.model
      |>.required "content" .text ModelResponse.content
      |>.required "finish_reason" FinishReason.codec ModelResponse.finishReason
      |>.required "usage" UsageMeasurement.codec ModelResponse.usage)

end TaskotterGateway.Contracts

namespace TaskotterGateway.Fallback

open JsonCodec Contracts
open Relay (ProviderKind)

def FallbackAttemptKind.codec : Codec FallbackAttemptKind :=
  .enumeration {
    entries :=
      [(.retry, "retry"), (.sameProvider, "same_provider"),
        (.crossProvider, "cross_provider"), (.runnerLocal, "runner_local")]
  }

def RoutingReasonCode.codec : Codec RoutingReasonCode :=
  .enumeration {
    entries :=
      [(.primaryRateLimited, "primary_rate_limited"), (.primaryTimeout, "primary_timeout"),
        (.primaryUnavailable, "primary_unavailable"),
        (.primaryMalformedResponse, "primary_malformed_response"),
        (.runnerLocalRequired, "runner_local_required")]
  }

def RequiredProviderCapability.codec : Codec RequiredProviderCapability :=
  .enumeration {
    entries :=
      [(.streaming, "streaming"), (.jsonOutput, "json_output"), (.toolCalls, "tool_calls")]
  }

def FallbackPolicyLimits.fields : Fields FallbackPolicyLimits FallbackPolicyLimits :=
  Fields.build FallbackPolicyLimits.mk
    |>.nullable "max_tokens" .uint64 FallbackPolicyLimits.maxTokens
    |>.nullable "max_cost_micro_usd" .uint64 FallbackPolicyLimits.maxCostMicroUsd

def FallbackPolicyLimits.codec : Codec FallbackPolicyLimits :=
  .record .ignored FallbackPolicyLimits.fields

/-- What a candidate is not said to support it does not support. -/
def FallbackProviderCandidate.fields
    : Fields FallbackProviderCandidate FallbackProviderCandidate :=
  Fields.build FallbackProviderCandidate.mk
    |>.required "provider_id" .text FallbackProviderCandidate.providerId
    |>.required "provider_kind" ProviderKind.codec FallbackProviderCandidate.providerKind
    |>.required "provider_family" .text FallbackProviderCandidate.providerFamily
    |>.required "model" .text FallbackProviderCandidate.model
    |>.required "region" .text FallbackProviderCandidate.region
    |>.required "data_residency" .text FallbackProviderCandidate.dataResidency
    |>.required "credential_scope" .text FallbackProviderCandidate.credentialScope
    |>.defaulted "supports_streaming" .flag FallbackProviderCandidate.supportsStreaming false
    |>.defaulted "supports_json_output" .flag FallbackProviderCandidate.supportsJsonOutput
      false
    |>.defaulted "supports_tool_calls" .flag FallbackProviderCandidate.supportsToolCalls false

def FallbackProviderCandidate.codec : Codec FallbackProviderCandidate :=
  .record .ignored FallbackProviderCandidate.fields

/-- Limits that are left out bind nothing, and allowances that are left out allow nothing. -/
def FallbackPolicyRequest.fields : Fields FallbackPolicyRequest FallbackPolicyRequest :=
  Fields.build FallbackPolicyRequest.mk
    |>.required "request_id" .text FallbackPolicyRequest.requestId
    |>.required "correlation_id" .text FallbackPolicyRequest.correlationId
    |>.required "working_group_id" .text FallbackPolicyRequest.workingGroupId
    |>.required "actor" ActorRef.codec FallbackPolicyRequest.actor
    |>.required "policy_decision_id" .text FallbackPolicyRequest.policyDecisionId
    |>.required "attempt_kind" FallbackAttemptKind.codec FallbackPolicyRequest.attemptKind
    |>.required "routing_reason" RoutingReasonCode.codec FallbackPolicyRequest.routingReason
    |>.required "primary" FallbackProviderCandidate.codec FallbackPolicyRequest.primary
    |>.required "candidate" FallbackProviderCandidate.codec FallbackPolicyRequest.candidate
    |>.defaulted "required_capabilities" (.list RequiredProviderCapability.codec)
      FallbackPolicyRequest.requiredCapabilities []
    |>.defaulted "original_limits" FallbackPolicyLimits.codec
      FallbackPolicyRequest.originalLimits ⟨none, none⟩
    |>.defaulted "candidate_limits" FallbackPolicyLimits.codec
      FallbackPolicyRequest.candidateLimits ⟨none, none⟩
    |>.defaulted "allow_cross_provider" .flag FallbackPolicyRequest.allowCrossProvider false
    |>.defaulted "allow_runner_local" .flag FallbackPolicyRequest.allowRunnerLocal false

def FallbackPolicyRequest.codec : Codec FallbackPolicyRequest :=
  .record .ignored FallbackPolicyRequest.fields (fun _ => rfl) (of_decide_eq_true rfl)

def FallbackPolicyDecision.codec : Codec FallbackPolicyDecision :=
  .record .ignored
    (Fields.build FallbackPolicyDecision.mk
      |>.required "allowed" .flag FallbackPolicyDecision.allowed
      |>.required "reason" RoutingReasonCode.codec FallbackPolicyDecision.reason
      |>.required "selected_provider" .text FallbackPolicyDecision.selectedProvider)

end TaskotterGateway.Fallback
