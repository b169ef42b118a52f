import TaskotterGateway.Formats.UsageAudit
import TaskotterGateway.Relay.Handler

/-! The JSON forms of the relay endpoint (`api.rs`, `adapters.rs`, `policy.rs`): the body that
a client posts, what passes between the handler and its two parties, and both bodies that
the client is answered with, which the gateway writes and its clients read.
-/

namespace TaskotterGateway.Relay

open JsonCodec

def ChatMessage.codec : Codec ChatMessage :=
  .record .ignored
    (Fields.build ChatMessage.mk
      |>.required "role" .text ChatMessage.role
      |>.required "content" .text ChatMessage.content)

def PolicyCheck.codec : Codec PolicyCheck :=
  .record .ignored
    (Fields.build PolicyCheck.mk
      |>.required "subject" PolicySubject.codec PolicyCheck.subject
      |>.required "provider" ProviderRef.codec PolicyCheck.provider
      |>.required "operation" .text PolicyCheck.operation
      |>.nullable "requested_max_tokens" .uint64 PolicyCheck.requestedMaxTokens
      |>.nullable "estimated_cost_micro_usd" .uint64 PolicyCheck.estimatedCostMicroUsd)

def PolicyDecision.codec : Codec PolicyDecision :=
  .record .ignored
    (Fields.build PolicyDecision.mk
      |>.required "allowed" .flag PolicyDecision.allowed
      |>.required "decision_id" .text PolicyDecision.decisionId
      |>.nullable "reason" .text PolicyDecision.reason
      |>.nullable "max_tokens" .uint64 PolicyDecision.maxTokens
      |>.nullable "max_cost_micro_usd" .uint64 PolicyDecision.maxCostMicroUsd)

def ErrorShape.codec : Codec ErrorShape :=
  .record .ignored
    (Fields.build ErrorShape.mk
      |>.required "code" .text ErrorShape.code
      |>.required "message" .text ErrorShape.message
      |>.required "retryable" .flag ErrorShape.retryable
      |>.skippable "timeout_ms" .uint64 ErrorShape.timeoutMs)

section Identifiers

variable (parseUuid : String → Option Uuid)
variable (parses : ∀ id : Uuid, parseUuid id.toString = some id)

def NormalizedProviderRequest.codec : Codec NormalizedProviderRequest :=
  .record .ignored
    (Fields.build NormalizedProviderRequest.mk
      |>.required "request_id" (Uuid.codec parseUuid parses) NormalizedProviderRequest.requestId
      |>.required "provider" ProviderRef.codec NormalizedProviderRequest.provider
      |>.required "messages" (.list ChatMessage.codec) NormalizedProviderRequest.messages
      |>.required "stream" .flag NormalizedProviderRequest.stream
      |>.nullable "timeout_ms" .uint64 NormalizedProviderRequest.timeoutMs)
    (fun _ => rfl) (of_decide_eq_true rfl)

def ProviderResponse.codec : Codec ProviderResponse :=
  .record .ignored
    (Fields.build ProviderResponse.mk
      |>.required "relay_id" (Uuid.codec parseUuid parses) ProviderResponse.relayId
      |>.required "provider_kind" ProviderKind.codec ProviderResponse.providerKind
      |>.required "model" .text ProviderResponse.model
      |>.required "output_text" .text ProviderResponse.outputText
      |>.required "stream_placeholder" .flag ProviderResponse.streamPlaceholder)
    (fun _ => rfl) (of_decide_eq_true rfl)

def AiRelayResponse.codec : Codec AiRelayResponse :=
  .record .ignored
    (Fields.build AiRelayResponse.mk
      |>.required "response" (ProviderResponse.codec parseUuid parses) AiRelayResponse.response
      |>.required "usage_audit_event" (UsageAuditEventV1.codec parseUuid parses)
        AiRelayResponse.usageAuditEvent)
    (fun _ => rfl) (of_decide_eq_true rfl)

def ErrorBody.codec : Codec ErrorBody :=
  .record .ignored
    (Fields.build ErrorBody.mk
      |>.required "error" ErrorShape.codec ErrorBody.error
      |>.skippable "usage_audit_event" (UsageAuditEventV1.codec parseUuid parses)
        ErrorBody.usageAuditEvent)
    (fun _ => rfl) (of_decide_eq_true rfl)

/-- The body of a relay request. An identifier that is left out is drawn later on. -/
def Submission.codec : Codec Submission :=
  .record .ignored
    (Fields.build Submission.mk
      |>.omittable "request_id" (Uuid.codec parseUuid parses) Submission.requestId
      |>.required "subject" PolicySubject.codec Submission.subject
      |>.required "provider" ProviderRef.codec Submission.provider
      |>.required "messages" (.list ChatMessage.codec) Submission.messages
      |>.defaulted "stream" .flag Submission.stream false
      |>.nullable "timeout_ms" .uint64 Submission.timeoutMs
      |>.nullable "requested_max_tokens" .uint64 Submission.requestedMaxTokens
      |>.nullable "estimated_cost_micro_usd" .uint64 Submission.estimatedCostMicroUsd)
    (fun _ => rfl) (of_decide_eq_true rfl)

end Identifiers

end TaskotterGateway.Relay
