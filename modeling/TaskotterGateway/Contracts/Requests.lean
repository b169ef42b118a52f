import TaskotterGateway.Contracts.Boundary
import TaskotterGateway.Foundation.RecordedChecks

/-! The scoped requests for models and tool sessions with their boundary checks, and what a
model answers: a response or a stream of frames (`contracts.rs`).
-/

namespace TaskotterGateway.Contracts

open RecordedChecks

structure ModelMessage where
  role : String
  content : String
  deriving DecidableEq, Repr

structure ScopedModelRequest where
  protocolVersion : String
  requestId : String
  correlationId : String
  workingGroupId : String
  actor : ActorRef
  provider : String
  model : String
  messages : List ModelMessage
  stream : Bool
  policy : PolicyInstruction
  credentialRef : ScopedCredentialRef
  deriving DecidableEq, Repr

inductive McpHostingMode where
  | gatewayHosted
  | runnerHosted
  | externalRemote
  deriving DecidableEq, Repr

structure ScopedMcpSessionRequest where
  protocolVersion : String
  sessionId : String
  correlationId : String
  workingGroupId : String
  actor : ActorRef
  mcpServerRef : String
  hostingMode : McpHostingMode
  allowedToolRefs : List String
  policy : PolicyInstruction
  credentialRef : Option ScopedCredentialRef
  deriving DecidableEq, Repr

structure UsageMeasurement where
  inputTokens : UInt32
  outputTokens : UInt32
  totalTokens : UInt32
  deriving DecidableEq, Repr

inductive FinishReason where
  | stop
  | length
  | toolCall
  | refusal
  | error
  deriving DecidableEq, Repr

structure ModelResponse where
  requestId : String
  provider : String
  model : String
  content : String
  finishReason : FinishReason
  usage : UsageMeasurement
  deriving DecidableEq, Repr

inductive StreamFrameType where
  | start
  | contentDelta
  | usageDelta
  | final
  | error
  deriving DecidableEq, Repr

structure StreamFrame where
  requestId : String
  sequence : UInt32
  frameType : StreamFrameType
  delta : Option String
  usage : Option UsageMeasurement
  error : Option NormalizedError
  deriving DecidableEq, Repr

def ScopedModelRequest.validateBoundary (request : ScopedModelRequest)
    : Except NormalizedError Unit := do
  request.policy.validate
  request.credentialRef.validate

def ScopedMcpSessionRequest.validateBoundary (request : ScopedMcpSessionRequest)
    : Except NormalizedError Unit := do
  request.policy.validate
  match request.credentialRef with
  | some credentialRef => credentialRef.validate
  | none => return

/-- The instruction is canonical and every credential of the request names a secret. -/
structure WithinBoundary (policy : PolicyInstruction)
    (credentialRef : Option ScopedCredentialRef)
    : Prop where
  policy : policy.Canonical
  credential : ∀ credential ∈ credentialRef, credential.NamesSecret

/-- A model request passes its boundary check exactly when it stays within the boundary. -/
theorem ScopedModelRequest.validateBoundary_ok_iff {request : ScopedModelRequest}
    : request.validateBoundary = .ok ()
      ↔ WithinBoundary request.policy (some request.credentialRef) := by
  rw [ScopedModelRequest.validateBoundary, andThen_ok_iff, PolicyInstruction.validate_ok_iff,
    ScopedCredentialRef.validate_ok_iff]
  constructor
  · intro passed
    obtain ⟨policy, credential⟩ := passed
    exact ⟨policy, by simpa using credential⟩
  · intro within
    exact ⟨within.policy, within.credential _ rfl⟩

/-- A session request passes exactly when it stays within the boundary; the credential may
be absent.
-/
theorem ScopedMcpSessionRequest.validateBoundary_ok_iff {request : ScopedMcpSessionRequest}
    : request.validateBoundary = .ok ()
      ↔ WithinBoundary request.policy request.credentialRef := by
  rw [ScopedMcpSessionRequest.validateBoundary, andThen_ok_iff,
    PolicyInstruction.validate_ok_iff]
  cases presented : request.credentialRef with
  | none =>
      constructor
      · intro passed
        exact ⟨passed.1, by simp⟩
      · intro within
        exact ⟨within.policy, rfl⟩
  | some credentialRef =>
      simp only [ScopedCredentialRef.validate_ok_iff]
      constructor
      · intro passed
        obtain ⟨policy, credential⟩ := passed
        exact ⟨policy, by simpa using credential⟩
      · intro within
        exact ⟨within.policy, within.credential _ rfl⟩

end TaskotterGateway.Contracts
