import Mathlib.Data.UInt
import TaskotterGateway.Contracts.Requests

/-! The deterministic provider adapter as the gateway computes it (`provider.rs`): the
answer to a model request, in one piece or as a stream, and the event that meters it.
-/

namespace TaskotterGateway.Provider

open Text Contracts

/-- `str::split_whitespace().count() as u32`. -/
def countTokens (value : String) : UInt32 :=
  UInt32.ofNat (splitWhitespace value).length

def deterministicContent (request : ScopedModelRequest) : String :=
  let prompt :=
    match request.messages.getLast? with
    | some message => message.content
    | none => ""
  "fake:" ++ request.model ++ ":" ++ trim prompt

/-- The tokens of both sides, in the wrapping arithmetic of a release build. -/
def usageFor (request : ScopedModelRequest) (content : String) : UsageMeasurement :=
  let inputTokens := (request.messages.map (fun message => countTokens message.content)).sum
  let outputTokens := countTokens content
  { inputTokens, outputTokens, totalTokens := inputTokens + outputTokens }

def rateLimitError : NormalizedError where
  code := .rateLimited
  message := "The fake provider simulated a rate limit."
  retryable := true
  upstreamStatus := some 429
  providerErrorClass := some "fake_rate_limit"

/-- Some message asks for the simulated rate limit. -/
def triggersRateLimit (request : ScopedModelRequest) : Bool :=
  request.messages.any (fun message => contains message.content "error:rate_limit")

namespace FakeProviderAdapter

def complete (request : ScopedModelRequest) : Except NormalizedError ModelResponse := do
  request.validateBoundary
  if triggersRateLimit request then
    throw rateLimitError
  else
    let content := deterministicContent request
    let usage := usageFor request content
    return {
      requestId := request.requestId
      provider := request.provider
      model := request.model
      content
      finishReason := .stop
      usage
    }

/-- The frames of an answer. Each branch numbers its own frames. -/
def stream (request : ScopedModelRequest) : Except NormalizedError (List StreamFrame) := do
  request.validateBoundary
  let frame (sequence : UInt32) (frameType : StreamFrameType) : StreamFrame :=
    {
      requestId := request.requestId
      sequence
      frameType
      delta := none
      usage := none
      error := none
    }
  if triggersRateLimit request then
    return [frame 0 .start, { frame 1 .error with error := some rateLimitError }]
  else
    let content := deterministicContent request
    let usage := usageFor request content
    let words := splitWhitespace content
    let deltas := words.mapIdx (fun index word =>
      { frame (UInt32.ofNat (index + 1)) .contentDelta with delta := some word })
    return frame 0 .start :: deltas ++ [
      { frame (UInt32.ofNat (words.length + 1)) .usageDelta with usage := some usage },
      { frame (UInt32.ofNat (words.length + 2)) .final with usage := some usage }
    ]

/-- The usage of a model request. An error leaves no trace in it. -/
def usageEvent (request : ScopedModelRequest) (response : Option ModelResponse)
    (_error : Option NormalizedError)
    : UsageEvent :=
  let usage := response.map ModelResponse.usage
  {
    id := "evt_01J9Z4P4BS0M9P2QJ6T8Z6W2EP"
    eventType := "usage.gateway_request.recorded"
    version := "0.1.0"
    occurredAt := "2026-01-01T00:00:01.000Z"
    source := .gateway
    workingGroupId := request.workingGroupId
    actor := .from request.actor
    resource := { resourceType := "provider", id := "prv_01J9Z4P4BS0M9P2QJ6T8Z6W2EP" }
    correlationId := request.correlationId
    requestId := request.requestId
    policyDecisionId := request.policy.policyDecisionId
    idempotencyKey := "usage_" ++ request.requestId
    payload := {
      subject := { subjectType := .gatewayRequest, id := request.requestId }
      measurements := {
        durationMs := 0
        inputTokens := usage.map UsageMeasurement.inputTokens
        outputTokens := usage.map UsageMeasurement.outputTokens
        toolInvocations := some 0
        estimatedCostMicros := some 0
        meteringUnit := none
        runtimeCapability := none
      }
    }
  }

end FakeProviderAdapter

end TaskotterGateway.Provider
