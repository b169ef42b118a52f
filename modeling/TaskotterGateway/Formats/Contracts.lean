import TaskotterGateway.Contracts.Requests
import TaskotterGateway.Foundation.JsonRecords

/-! The JSON form of the contract records (`contracts.rs`), one codec for each type: its
fields in the order of the source, under the names that its `serde` attributes give them.
-/

namespace TaskotterGateway.Contracts

open JsonCodec

def ActorType.codec : Codec ActorType :=
  .enumeration {
    entries :=
      [(.user, "user"), (.agent, "agent"), (.workflow, "workflow"), (.service, "service")]
  }

def ActorRef.codec : Codec ActorRef :=
  .record .ignored
    (Fields.build ActorRef.mk
      |>.required "actor_type" ActorType.codec ActorRef.actorType
      |>.required "id" .text ActorRef.id)

namespace PolicyInstruction

def decisionRefVariant : Variant PolicyInstruction where
  name := "decision_ref"
  Payload := String × String
  fields :=
    Fields.build PolicyInstruction.decisionRef
      |>.required "decision_ref" .text Prod.fst
      |>.required "expires_at" .text Prod.snd

def signedDispatchPlaceholderVariant : Variant PolicyInstruction where
  name := "signed_dispatch_placeholder"
  Payload := String × String × String × String
  fields :=
    Fields.build PolicyInstruction.signedDispatchPlaceholder
      |>.required "instruction_ref" .text (·.1)
      |>.required "signature_ref" .text (·.2.1)
      |>.required "policy_decision_id" .text (·.2.2.1)
      |>.required "expires_at" .text (·.2.2.2)

/-- The constructor of an instruction, with what it holds. -/
def view : PolicyInstruction → (variant : Variant PolicyInstruction) × variant.Payload
  | .decisionRef reference expiresAt => ⟨decisionRefVariant, reference, expiresAt⟩
  | .signedDispatchPlaceholder instructionRef signatureRef policyDecisionId expiresAt =>
      ⟨signedDispatchPlaceholderVariant, instructionRef, signatureRef, policyDecisionId,
        expiresAt⟩

def codec : Codec PolicyInstruction :=
  .tagged "kind" [decisionRefVariant, signedDispatchPlaceholderVariant] view
    (by intro value; cases value <;> simp [view])

end PolicyInstruction

def CredentialRefKind.codec : Codec CredentialRefKind :=
  .enumeration {
    entries :=
      [(.secretRef, "secret_ref"), (.runnerJobCredentialRef, "runner_job_credential_ref"),
        (.externalMcpCredentialRef, "external_mcp_credential_ref")]
  }

def ScopedCredentialRef.codec : Codec ScopedCredentialRef :=
  .record .ignored
    (Fields.build ScopedCredentialRef.mk
      |>.required "kind" CredentialRefKind.codec ScopedCredentialRef.kind
      |>.required "reference" .text ScopedCredentialRef.reference
      |>.required "scope" .text ScopedCredentialRef.scope)

def NormalizedErrorCode.codec : Codec NormalizedErrorCode :=
  .enumeration {
    entries :=
      [(.policyDenied, "policy_denied"), (.rateLimited, "rate_limited"),
        (.upstreamUnavailable, "upstream_unavailable"), (.upstreamTimeout, "upstream_timeout"),
        (.malformedUpstreamResponse, "malformed_upstream_response"),
        (.invalidGatewayRequest, "invalid_gateway_request")]
  }

def NormalizedError.codec : Codec NormalizedError :=
  .record .ignored
    (Fields.build NormalizedError.mk
      |>.required "code" NormalizedErrorCode.codec NormalizedError.code
      |>.required "message" .text NormalizedError.message
      |>.required "retryable" .flag NormalizedError.retryable
      |>.nullable "upstream_status" .uint16 NormalizedError.upstreamStatus
      |>.nullable "provider_error_class" .text NormalizedError.providerErrorClass)

def ModelMessage.codec : Codec ModelMessage :=
  .record .ignored
    (Fields.build ModelMessage.mk
      |>.required "role" .text ModelMessage.role
      |>.required "content" .text ModelMessage.content)

def ScopedModelRequest.codec : Codec ScopedModelRequest :=
  .record .ignored
    (Fields.build ScopedModelRequest.mk
      |>.required "protocol_version" .text ScopedModelRequest.protocolVersion
      |>.required "request_id" .text ScopedModelRequest.requestId
      |>.required "correlation_id" .text ScopedModelRequest.correlationId
      |>.required "working_group_id" .text ScopedModelRequest.workingGroupId
      |>.required "actor" ActorRef.codec ScopedModelRequest.actor
      |>.required "provider" .text ScopedModelRequest.provider
      |>.required "model" .text ScopedModelRequest.model
      |>.required "messages" (.list ModelMessage.codec) ScopedModelRequest.messages
      |>.required "stream" .flag ScopedModelRequest.stream
      |>.required "policy" PolicyInstruction.codec ScopedModelRequest.policy
      |>.required "credential_ref" ScopedCredentialRef.codec ScopedModelRequest.credentialRef)

def McpHostingMode.codec : Codec McpHostingMode :=
  .enumeration {
    entries :=
      [(.gatewayHosted, "gateway_hosted"), (.runnerHosted, "runner_hosted"),
        (.externalRemote, "external_remote")]
  }

def ScopedMcpSessionRequest.codec : Codec ScopedMcpSessionRequest :=
  .record .ignored
    (Fields.build ScopedMcpSessionRequest.mk
      |>.required "protocol_version" .text ScopedMcpSessionRequest.protocolVersion
      |>.required "session_id" .text ScopedMcpSessionRequest.sessionId
      |>.required "correlation_id" .text ScopedMcpSessionRequest.correlationId
      |>.required "working_group_id" .text ScopedMcpSessionRequest.workingGroupId
      |>.required "actor" ActorRef.codec ScopedMcpSessionRequest.actor
      |>.required "mcp_server_ref" .text ScopedMcpSessionRequest.mcpServerRef
      |>.required "hosting_mode" McpHostingMode.codec ScopedMcpSessionRequest.hostingMode
      |>.required "allowed_tool_refs" (.list .text) ScopedMcpSessionRequest.allowedToolRefs
      |>.required "policy" PolicyInstruction.codec ScopedMcpSessionRequest.policy
      |>.nullable "credential_ref" ScopedCredentialRef.codec
        ScopedMcpSessionRequest.credentialRef)

def UsageMeasurement.codec : Codec UsageMeasurement :=
  .record .ignored
    (Fields.build UsageMeasurement.mk
      |>.required "input_tokens" .uint32 UsageMeasurement.inputTokens
      |>.required "output_tokens" .uint32 UsageMeasurement.outputTokens
      |>.required "total_tokens" .uint32 UsageMeasurement.totalTokens)

def StreamFrameType.codec : Codec StreamFrameType :=
  .enumeration {
    entries :=
      [(.start, "start"), (.contentDelta, "content_delta"), (.usageDelta, "usage_delta"),
        (.final, "final"), (.error, "error")]
  }

def StreamFrame.codec : Codec StreamFrame :=
  .record .ignored
    (Fields.build StreamFrame.mk
      |>.required "request_id" .text StreamFrame.requestId
      |>.required "sequence" .uint32 StreamFrame.sequence
      |>.required "frame_type" StreamFrameType.codec StreamFrame.frameType
      |>.nullable "delta" .text StreamFrame.delta
      |>.nullable "usage" UsageMeasurement.codec StreamFrame.usage
      |>.nullable "error" NormalizedError.codec StreamFrame.error)

end TaskotterGateway.Contracts
