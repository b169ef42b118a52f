import TaskotterGateway.Formats.Registration
import TaskotterGateway.Relay.OverHttp

/-! Which JSON objects the gateway reads. A request is read by the keys that it knows, so that a
newer client may say more; a tool call and an event are read only if they say nothing else. None
of them is read where a key is missing that has no default.
-/

namespace TaskotterGateway.Formats

open JsonCodec Contracts Fallback Mcp Relay

-----------------------------------------------------------------------------------------
-- The keys of requests, tool calls and events
-----------------------------------------------------------------------------------------

def submissionRequired : List String :=
  ["subject", "provider", "messages"]

def mcpEndpointRequired : List String :=
  ["integration_id", "host_mode"]

def fallbackPolicyRequestRequired : List String :=
  ["request_id", "correlation_id", "working_group_id", "actor", "policy_decision_id",
    "attempt_kind", "routing_reason", "primary", "candidate"]

def fallbackPolicyRequestKeys : List String :=
  fallbackPolicyRequestRequired
  ++ ["required_capabilities", "original_limits", "candidate_limits", "allow_cross_provider",
    "allow_runner_local"]

def runtimeFeatureFlagsKeys : List String :=
  ["hosted_mcp_billing_enabled", "provider_routing_enabled"]

def toolCallPolicyRequestRequired : List String :=
  ["call_id", "session_id", "correlation_id", "working_group_id", "actor", "tool", "policy"]

def toolCallPolicyRequestKeys : List String :=
  ["call_id", "session_id", "correlation_id", "working_group_id", "actor", "agent_id",
    "skill_refs", "runner_id", "tool", "policy", "credential_ref"]

def toolPolicyMetadataRequired : List String :=
  ["tool_ref", "mcp_server_ref", "owner", "working_group_id", "risk_level",
    "side_effect_profile", "credential_requirement", "network_reach", "allowed_actor_types"]

def toolPolicyMetadataKeys : List String :=
  toolPolicyMetadataRequired
  ++ ["allowed_actor_ids", "required_skill_refs", "allowed_agent_ids", "allowed_runner_ids",
    "requires_approval"]

/-- The keys that every event has, before those of its own kind. -/
def envelopeKeys : List String :=
  ["id", "type", "version", "occurred_at", "source", "working_group_id", "actor", "resource",
    "correlation_id", "request_id", "policy_decision_id"]

def usageEventKeys : List String :=
  envelopeKeys ++ ["idempotency_key", "payload"]

def auditEventKeys : List String :=
  envelopeKeys ++ ["payload"]

-----------------------------------------------------------------------------------------
-- Reading by keys
-----------------------------------------------------------------------------------------

instance : FallbackPolicyRequest.fields.KeyBound := by
  unfold FallbackPolicyRequest.fields
  infer_instance

instance : RuntimeFeatureFlags.fields.KeyBound := by
  unfold RuntimeFeatureFlags.fields
  infer_instance

instance : FallbackPolicyRequest.fields.Demanding fallbackPolicyRequestRequired := by
  unfold FallbackPolicyRequest.fields
  infer_instance

instance : RuntimeFeatureFlags.fields.Demanding [] := by
  unfold RuntimeFeatureFlags.fields
  infer_instance

theorem submission_open (parseUuid : String → Option Uuid)
    (parses : ∀ id : Uuid, parseUuid id.toString = some id)
    : (Submission.codec parseUuid parses).Open submissionRequired Route.relayAiRequest.keys where
  tolerant := Submission.codec_tolerant parseUuid parses
  requires := Codec.record_requires _ _ _ _

theorem mcpEndpoint_open
    : McpEndpoint.codec.Open mcpEndpointRequired Route.resolveMcpEndpoint.keys where
  tolerant := McpEndpoint.codec_tolerant
  requires := Codec.record_requires _ _ _ _

theorem fallbackPolicyRequest_open
    : FallbackPolicyRequest.codec.Open fallbackPolicyRequestRequired
        fallbackPolicyRequestKeys where
  tolerant := Codec.record_tolerant _ _ _
  requires := Codec.record_requires _ _ _ _

theorem runtimeFeatureFlags_open
    : RuntimeFeatureFlags.codec.Open [] runtimeFeatureFlagsKeys where
  tolerant := Codec.record_tolerant _ _ _
  requires := Codec.record_requires _ _ _ _

theorem toolCallPolicyRequest_closed
    : McpToolCallPolicyRequest.codec.Closed toolCallPolicyRequestRequired
        toolCallPolicyRequestKeys where
  strict := Codec.record_strict _ _ _
  requires := Codec.record_requires _ _ _ _

theorem toolPolicyMetadata_closed
    : McpToolPolicyMetadata.codec.Closed toolPolicyMetadataRequired
        toolPolicyMetadataKeys where
  strict := Codec.record_strict _ _ _
  requires := Codec.record_requires _ _ _ _

theorem usageEvent_closed : UsageEvent.codec.Closed usageEventKeys usageEventKeys where
  strict := Codec.record_strict _ _ _
  requires := Codec.record_requires _ _ _ _

theorem auditEvent_closed : AuditEvent.codec.Closed auditEventKeys auditEventKeys where
  strict := Codec.record_strict _ _ _
  requires := Codec.record_requires _ _ _ _

/-- Requests are open: objects that repeat no key are read by the keys that the gateway knows,
whatever else they hold and in whatever order. Tool calls and events are closed: an object with
any other key is not read. And none is read without the keys that have no default.
-/
theorem wire_formats_open_or_closed (parseUuid : String → Option Uuid)
    (parses : ∀ id : Uuid, parseUuid id.toString = some id)
    : ((Submission.codec parseUuid parses).Open submissionRequired Route.relayAiRequest.keys
        ∧ McpEndpoint.codec.Open mcpEndpointRequired Route.resolveMcpEndpoint.keys
        ∧ FallbackPolicyRequest.codec.Open fallbackPolicyRequestRequired
          fallbackPolicyRequestKeys
        ∧ RuntimeFeatureFlags.codec.Open [] runtimeFeatureFlagsKeys)
      ∧ McpToolCallPolicyRequest.codec.Closed toolCallPolicyRequestRequired
          toolCallPolicyRequestKeys
      ∧ McpToolPolicyMetadata.codec.Closed toolPolicyMetadataRequired toolPolicyMetadataKeys
      ∧ UsageEvent.codec.Closed usageEventKeys usageEventKeys
      ∧ AuditEvent.codec.Closed auditEventKeys auditEventKeys := by
  refine ⟨?requests, ?others⟩
  case requests =>
    exact ⟨submission_open parseUuid parses, mcpEndpoint_open, fallbackPolicyRequest_open,
      runtimeFeatureFlags_open⟩
  case others =>
    exact ⟨toolCallPolicyRequest_closed, toolPolicyMetadata_closed, usageEvent_closed,
      auditEvent_closed⟩

/-- A note beside the flags changes nothing, and a note beside an event keeps it from being
read.
-/
theorem wire_formats_open_or_closed_note
    : RuntimeFeatureFlags.codec.decode
          (.object [("note", .str "beta"), ("hosted_mcp_billing_enabled", .bool true)])
        = RuntimeFeatureFlags.codec.decode
            (.object [("hosted_mcp_billing_enabled", .bool true)])
      ∧ ∀ entries : List (String × Json),
          UsageEvent.codec.decode (.object (("note", .str "beta") :: entries)) = none := by
  obtain ⟨⟨_, _, _, flags⟩, _, _, usage, _⟩ :=
    wire_formats_open_or_closed Uuid.ofHyphenated Uuid.ofHyphenated_toString
  constructor
  · apply flags.tolerant _ _ (by decide) (by decide)
    intro key member
    rcases List.mem_pair.mp member with rfl | rfl <;> rfl
  · intro entries
    exact usage.strict _ ⟨("note", .str "beta"), List.mem_cons_self, by decide⟩

end TaskotterGateway.Formats
