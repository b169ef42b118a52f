import Mathlib.Algebra.Ring.Nat
import TaskotterGateway.Contracts.Types

/-! The records that pass between the relay endpoint, the policy engine and the provider
adapters (`adapters.rs`, `policy.rs`, `usage.rs`, `api.rs`).
-/

namespace TaskotterGateway.Relay

/-- A 128-bit identifier (`uuid::Uuid`). -/
structure Uuid where
  bits : BitVec 128
  deriving DecidableEq, Repr

/-- The hexadecimal digits of an identifier, most significant first. -/
def Uuid.hexDigits (id : Uuid) : List Char :=
  (List.range 32).map (fun place => Nat.digitChar (id.bits.toNat / 16 ^ (31 - place) % 16))

/-- The hyphenated lower-case form, in groups of 8, 4, 4, 4 and 12 digits. -/
def Uuid.toString (id : Uuid) : String :=
  let digits := id.hexDigits
  String.ofList
    (digits.take 8
      ++ '-' :: (digits.drop 8).take 4
      ++ '-' :: (digits.drop 12).take 4
      ++ '-' :: (digits.drop 16).take 4
      ++ '-' :: digits.drop 20)

inductive ProviderKind where
  | hosted
  | openAiCompatible
  | localRunner
  | futureAdapter
  deriving DecidableEq, Repr

structure ProviderRef where
  providerId : String
  kind : ProviderKind
  model : String
  endpointId : Option String
  allowedWorkingGroupIds : List String
  allowedAgentIds : List String
  allowedWorkflowIds : List String
  allowedModels : List String
  dataBoundaryId : Option String
  deriving DecidableEq, Repr

structure ChatMessage where
  role : String
  content : String
  deriving DecidableEq, Repr

structure NormalizedProviderRequest where
  requestId : Uuid
  provider : ProviderRef
  messages : List ChatMessage
  stream : Bool
  timeoutMs : Option UInt64
  deriving DecidableEq, Repr

structure ProviderResponse where
  relayId : Uuid
  providerKind : ProviderKind
  model : String
  outputText : String
  streamPlaceholder : Bool
  deriving DecidableEq, Repr

structure PolicySubject where
  userId : String
  workingGroupId : String
  agentId : Option String
  workflowId : Option String
  dataBoundaryId : Option String
  deriving DecidableEq, Repr

structure PolicyCheck where
  subject : PolicySubject
  provider : ProviderRef
  operation : String
  requestedMaxTokens : Option UInt64
  estimatedCostMicroUsd : Option UInt64
  deriving DecidableEq, Repr

structure PolicyDecision where
  allowed : Bool
  decisionId : String
  reason : Option String
  maxTokens : Option UInt64
  maxCostMicroUsd : Option UInt64
  deriving DecidableEq, Repr

inductive UsageAttemptStatus where
  | succeeded
  | denied
  | quotaDenied
  | timeout
  | cancelled
  | failed
  deriving DecidableEq, Repr

structure UsageAuditEventV1 where
  schemaVersion : String
  eventId : Uuid
  requestId : Uuid
  correlationId : Option String
  subject : PolicySubject
  provider : ProviderRef
  decisionId : String
  idempotencyKey : String
  status : UsageAttemptStatus
  promptTokens : UInt64
  completionTokens : UInt64
  estimatedCostMicroUsd : UInt64
  deriving DecidableEq, Repr

structure AiRelayRequest where
  requestId : Uuid
  subject : PolicySubject
  provider : ProviderRef
  messages : List ChatMessage
  stream : Bool
  timeoutMs : Option UInt64
  requestedMaxTokens : Option UInt64
  estimatedCostMicroUsd : Option UInt64
  deriving DecidableEq, Repr

structure AiRelayResponse where
  response : ProviderResponse
  usageAuditEvent : UsageAuditEventV1
  deriving DecidableEq, Repr

/-- A refused relay, with the event that accounts for it once one is attached. -/
inductive GatewayError where
  | policyDenied (message : String) (usageAuditEvent : Option UsageAuditEventV1)
  | timeout (message : String) (timeoutMs : Option UInt64)
    (usageAuditEvent : Option UsageAuditEventV1)
  | quotaExceeded (message : String) (usageAuditEvent : Option UsageAuditEventV1)
  deriving DecidableEq, Repr

example
    : Uuid.toString ⟨0x557⟩ = "00000000-0000-0000-0000-000000000557" := by
  decide +kernel

end TaskotterGateway.Relay
