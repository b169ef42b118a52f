import TaskotterGateway.Contracts.Types

/-! Checks on protocol versions, policy instructions and credential references
(`contracts.rs`). Each check is a fixed refusal guarded by a predicate; the predicates are
stated here without the code's control flow, for the components that rely on them.
-/

namespace TaskotterGateway.Contracts

open Text

def gatewayProtocolVersion : String :=
  "gateway.v0.1"

def supportedGatewayProtocolVersions : List String :=
  [gatewayProtocolVersion]

def unsupportedGatewayProtocolVersion (version : String) : NormalizedError where
  code := .invalidGatewayRequest
  message := "unsupported gateway protocol version: " ++ version
  retryable := false
  upstreamStatus := none
  providerErrorClass := some "unsupported_gateway_protocol_version"

def validateGatewayProtocolVersion (version : String) : Except NormalizedError Unit :=
  if supportedGatewayProtocolVersions.contains version then
    .ok ()
  else
    .error (unsupportedGatewayProtocolVersion version)

/-- The version check accepts the supported versions and nothing else. -/
theorem validateGatewayProtocolVersion_ok_iff {version : String}
    : validateGatewayProtocolVersion version = .ok ()
      ↔ version ∈ supportedGatewayProtocolVersions := by
  simp [validateGatewayProtocolVersion]

/-- The refusal of every instruction without its canonical prefixes. -/
def policyInstructionInvalid : NormalizedError :=
  .policyDenied "policy_instruction_invalid" "Policy instruction reference is invalid."

def PolicyInstruction.validate (policy : PolicyInstruction) : Except NormalizedError Unit :=
  let valid :=
    match policy with
    | .decisionRef reference _ => startsWith reference "poldec_"
    | .signedDispatchPlaceholder instructionRef signatureRef decisionId _ =>
        startsWith instructionRef "gwi_"
        && startsWith signatureRef "sigref_"
        && startsWith decisionId "poldec_"
  if valid then .ok () else .error policyInstructionInvalid

/-- The identifier names a policy decision. -/
def NamesDecision (id : String) : Prop :=
  ∃ rest, id = "poldec_" ++ rest

/-- The identifier names a dispatched instruction. -/
def NamesInstruction (id : String) : Prop :=
  ∃ rest, id = "gwi_" ++ rest

/-- No decision is named like an instruction: the names differ in their first letter. -/
theorem NamesDecision.not_namesInstruction {id : String} (decision : NamesDecision id)
    : ¬ NamesInstruction id := by
  intro instruction
  obtain ⟨rest, rfl⟩ := decision
  obtain ⟨other, same⟩ := instruction
  have characters := congrArg String.toList same
  simp at characters

/-- A policy instruction has its canonical prefixes: a direct decision reference names a
decision, and a signed dispatch also names its instruction and signature.
-/
def PolicyInstruction.Canonical : PolicyInstruction → Prop
  | .decisionRef reference _ => ∃ rest, reference = "poldec_" ++ rest
  | .signedDispatchPlaceholder instructionRef signatureRef decisionId _ =>
      (∃ rest, instructionRef = "gwi_" ++ rest)
      ∧ (∃ rest, signatureRef = "sigref_" ++ rest)
      ∧ ∃ rest, decisionId = "poldec_" ++ rest

/-- Validation accepts exactly the canonical instructions. -/
theorem PolicyInstruction.validate_ok_iff {policy : PolicyInstruction}
    : policy.validate = .ok () ↔ policy.Canonical := by
  cases policy with
  | decisionRef reference expiresAt =>
      simp [PolicyInstruction.validate, PolicyInstruction.Canonical, ← startsWith_iff]
  | signedDispatchPlaceholder instructionRef signatureRef decisionId expiresAt =>
      simp [PolicyInstruction.validate, PolicyInstruction.Canonical, ← startsWith_iff,
        and_assoc]

/-- Validation has two answers: acceptance and one fixed refusal. -/
theorem PolicyInstruction.validate_cases (policy : PolicyInstruction)
    : policy.validate = .ok () ∨ policy.validate = .error policyInstructionInvalid := by
  have answer (valid : Bool)
      : (if valid then .ok () else .error policyInstructionInvalid)
          = (.ok () : Except NormalizedError Unit)
        ∨ (if valid then .ok () else .error policyInstructionInvalid)
          = (.error policyInstructionInvalid : Except NormalizedError Unit) := by
    cases valid <;> simp
  exact answer _

/-- A canonical instruction stands for a canonical decision. -/
theorem PolicyInstruction.Canonical.policyDecisionId {policy : PolicyInstruction}
    (canonical : policy.Canonical)
    : ∃ rest, policy.policyDecisionId = "poldec_" ++ rest := by
  cases policy with
  | decisionRef reference expiresAt => exact canonical
  | signedDispatchPlaceholder instructionRef signatureRef decisionId expiresAt =>
      exact canonical.2.2

def looksLikeRawSecret (value : String) : Bool :=
  let lowered := toAsciiLowercase value
  contains lowered "sk-"
  || contains lowered "api_key"
  || contains lowered "token="
  || contains lowered "bearer "

/-- The refusal of every reference that is, or looks like, a credential value. -/
def rawCredentialValueRejected : NormalizedError :=
  .policyDenied "raw_credential_value_rejected"
    "Credential values must be provided as scoped secret references."

def ScopedCredentialRef.validate (credential : ScopedCredentialRef)
    : Except NormalizedError Unit :=
  if startsWith credential.reference "secret_ref_"
      && !looksLikeRawSecret credential.reference then
    .ok ()
  else
    .error rawCredentialValueRejected

/-- The markers by which raw secrets are recognized, in lower case. -/
def rawSecretMarkers : List String :=
  ["sk-", "api_key", "token=", "bearer "]

/-- The reference names a stored secret and spells no raw-secret marker in any case. -/
def ScopedCredentialRef.NamesSecret (credential : ScopedCredentialRef) : Prop :=
  (∃ rest, credential.reference = "secret_ref_" ++ rest)
  ∧ ∀ marker ∈ rawSecretMarkers, ¬ ContainsIgnoringCase credential.reference marker

/-- Lowering the value once finds each marker in every mixture of cases. -/
theorem looksLikeRawSecret_iff {value : String}
    : looksLikeRawSecret value = true
      ↔ ∃ marker ∈ rawSecretMarkers, ContainsIgnoringCase value marker := by
  have lowered : ∀ marker ∈ rawSecretMarkers, toAsciiLowercase marker = marker := by decide
  simp only [rawSecretMarkers, List.forall_mem_cons] at lowered
  obtain ⟨sk, key, token, bearer, -⟩ := lowered
  simp [looksLikeRawSecret, rawSecretMarkers, contains_toAsciiLowercase_iff, sk, key, token,
    bearer, or_assoc]

example : looksLikeRawSecret "secret_ref_SK-1" = true := by decide

example : looksLikeRawSecret "secret_ref_Bearer 1" = true := by decide

/-- Validation accepts exactly the references that name a stored secret. -/
theorem ScopedCredentialRef.validate_ok_iff {credential : ScopedCredentialRef}
    : credential.validate = .ok () ↔ credential.NamesSecret := by
  have unmarked : looksLikeRawSecret credential.reference = false
      ↔ ∀ marker ∈ rawSecretMarkers, ¬ ContainsIgnoringCase credential.reference marker := by
    rw [← Bool.not_eq_true, looksLikeRawSecret_iff]
    simp
  simp [ScopedCredentialRef.validate, ScopedCredentialRef.NamesSecret, ← startsWith_iff,
    unmarked]

/-- A reference is accepted or gets one fixed refusal, whatever it contains. -/
theorem ScopedCredentialRef.validate_cases (credential : ScopedCredentialRef)
    : credential.validate = .ok () ∨ credential.validate = .error rawCredentialValueRejected := by
  unfold ScopedCredentialRef.validate
  split
  · exact Or.inl rfl
  · exact Or.inr rfl

end TaskotterGateway.Contracts
