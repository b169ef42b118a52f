import TaskotterGateway.Fallback.Chains
import TaskotterGateway.Formats.Registration
import TaskotterGateway.Foundation.JsonTolerance
import TaskotterGateway.Mcp.HostCapability

/-! What has to be asked for in so many words. Allowances, capabilities and limits of a
fallback and the flags of a gateway are absent where a document leaves them out, so that
whatever is granted because of one of them stands in the document.
-/

namespace TaskotterGateway.Formats

open JsonCodec Contracts Fallback Mcp

-----------------------------------------------------------------------------------------
-- Requests for a fallback as they are read
-----------------------------------------------------------------------------------------

/-- The entries set a flag. -/
def Sets (entries : List (String × Json)) (flag : String) : Prop :=
  entries.lookup flag = some (.bool true)

/-- The entries give an object under a key, and this holds of it. -/
def Gives (entries : List (String × Json)) (key : String)
    (holds : List (String × Json) → Prop)
    : Prop :=
  ∃ inner, entries.lookup key = some (.object inner) ∧ holds inner

/-- What the entries give under a key, if anything, is an object. -/
def ObjectUnder (entries : List (String × Json)) (key : String) : Prop :=
  ∀ json, entries.lookup key = some json → ∃ inner, json = .object inner

/-- The flag by which a candidate is said to support a capability. -/
def supportFlag : RequiredProviderCapability → String
  | .streaming => "supports_streaming"
  | .jsonOutput => "supports_json_output"
  | .toolCalls => "supports_tool_calls"

theorem fallbackPolicyRequest_reads
    : FallbackPolicyRequest.fields.Reads (fun lookup request =>
        (request.allowCrossProvider = true
          → lookup "allow_cross_provider" = some (.bool true))
        ∧ (request.allowRunnerLocal = true
          → lookup "allow_runner_local" = some (.bool true))
        ∧ (lookup "candidate").bind FallbackProviderCandidate.codec.decode
          = some request.candidate
        ∧ (lookup "candidate_limits").elim (some ⟨none, none⟩)
            FallbackPolicyLimits.codec.decode
          = some request.candidateLimits) := by
  unfold FallbackPolicyRequest.fields
  iterate 14 apply Fields.Reads.andThen
  apply Fields.Reads.build
  intro lookup _ _ _ _ _ _ _ _ _ _ _ _ _ _ _ _ candidate readCandidate _ _ _ _ limits
    readLimits crossProvider readCrossProvider runnerLocal readRunnerLocal
  refine ⟨?_, ?_, readCandidate, readLimits⟩
  · rintro (rfl : crossProvider = true)
    exact Fields.flag_of_defaulted readCrossProvider
  · rintro (rfl : runnerLocal = true)
    exact Fields.flag_of_defaulted readRunnerLocal

theorem fallbackProviderCandidate_reads
    : FallbackProviderCandidate.fields.Reads (fun lookup candidate =>
        ∀ capability,
          candidate.supports capability = true
          → lookup (supportFlag capability) = some (.bool true)) := by
  unfold FallbackProviderCandidate.fields
  iterate 10 apply Fields.Reads.andThen
  apply Fields.Reads.build
  intro lookup _ _ _ _ _ _ _ _ _ _ _ _ _ _ streaming readStreaming jsonOutput readJsonOutput
    toolCalls readToolCalls capability
  cases capability with
  | streaming =>
      rintro (rfl : streaming = true)
      exact Fields.flag_of_defaulted readStreaming
  | jsonOutput =>
      rintro (rfl : jsonOutput = true)
      exact Fields.flag_of_defaulted readJsonOutput
  | toolCalls =>
      rintro (rfl : toolCalls = true)
      exact Fields.flag_of_defaulted readToolCalls

/-- A limit of a document stands under its key as the number that it is. -/
def ReadsLimit (key : String) (limit : FallbackPolicyLimits → Option UInt64) : Prop :=
  FallbackPolicyLimits.fields.Reads (fun lookup limits =>
    ∀ bound, limit limits = some bound → lookup key = some (.number bound.toNat))

theorem maxTokens_readsLimit : ReadsLimit "max_tokens" FallbackPolicyLimits.maxTokens := by
  unfold ReadsLimit FallbackPolicyLimits.fields
  iterate 2 apply Fields.Reads.andThen
  apply Fields.Reads.build
  intro lookup maxTokens readTokens _ _
  rintro bound (rfl : maxTokens = some bound)
  exact Fields.uint64_of_nullable readTokens

theorem maxCostMicroUsd_readsLimit
    : ReadsLimit "max_cost_micro_usd" FallbackPolicyLimits.maxCostMicroUsd := by
  unfold ReadsLimit FallbackPolicyLimits.fields
  iterate 2 apply Fields.Reads.andThen
  apply Fields.Reads.build
  intro lookup _ _ maxCost readCost
  rintro bound (rfl : maxCost = some bound)
  exact Fields.uint64_of_nullable readCost

theorem runtimeFeatureFlags_reads
    : RuntimeFeatureFlags.fields.Reads (fun lookup flags =>
        flags.hostedMcpBillingEnabled = true
        → lookup "hosted_mcp_billing_enabled" = some (.bool true)) := by
  unfold RuntimeFeatureFlags.fields
  iterate 2 apply Fields.Reads.andThen
  apply Fields.Reads.build
  intro lookup billing readBilling _ _
  rintro (rfl : billing = true)
  exact Fields.flag_of_defaulted readBilling

-----------------------------------------------------------------------------------------
-- What is granted stands in the document
-----------------------------------------------------------------------------------------

section Fallbacks

variable {entries : List (String × Json)} {request : FallbackPolicyRequest}

/-- A candidate that supports a capability says so. -/
theorem gives_of_supports
    (read : FallbackPolicyRequest.codec.decode (.object entries) = some request)
    (candidateObject : ObjectUnder entries "candidate")
    {capability : RequiredProviderCapability}
    (supports : request.candidate.supports capability = true)
    : Gives entries "candidate" (Sets · (supportFlag capability)) := by
  obtain ⟨_, _, readCandidate, _⟩ := fallbackPolicyRequest_reads _ _ read
  obtain ⟨json, found, decoded⟩ := Option.bind_eq_some_iff.mp readCandidate
  obtain ⟨inner, rfl⟩ := candidateObject json found
  exact ⟨inner, found, fallbackProviderCandidate_reads _ _ decoded capability supports⟩

/-- A candidate limit that binds something is given, and says what. -/
theorem gives_of_candidateLimits
    (read : FallbackPolicyRequest.codec.decode (.object entries) = some request)
    (limitsObject : ObjectUnder entries "candidate_limits")
    {key : String} {limit : FallbackPolicyLimits → Option UInt64} (reads : ReadsLimit key limit)
    (absent : limit ⟨none, none⟩ = none) {bound : UInt64}
    (limited : limit request.candidateLimits = some bound)
    : Gives entries "candidate_limits"
        (fun limits => limits.lookup key = some (.number bound.toNat)) := by
  obtain ⟨_, _, _, readLimits⟩ := fallbackPolicyRequest_reads _ _ read
  cases found : entries.lookup "candidate_limits" with
  | none =>
      simp only [found] at readLimits
      rw [← Option.some.inj readLimits, absent] at limited
      contradiction
  | some json =>
      simp only [found] at readLimits
      obtain ⟨inner, rfl⟩ := limitsObject json found
      exact ⟨inner, found, reads _ _ readLimits bound limited⟩

/-- What an approved fallback needs stands in the document that it was read from. -/
structure Licensed (entries : List (String × Json)) (request : FallbackPolicyRequest)
    : Prop where
  runnerLocal
    : request.candidate.providerKind = .localRunner ∨ request.attemptKind = .runnerLocal
      → Sets entries "allow_runner_local"
  crossProvider : request.attemptKind = .crossProvider → Sets entries "allow_cross_provider"
  capabilities
    : ∀ capability ∈ request.requiredCapabilities,
        Gives entries "candidate" (Sets · (supportFlag capability))
  maxTokens
    : ∀ bound,
        request.originalLimits.maxTokens = some bound
        → ∃ limit ≤ bound,
            Gives entries "candidate_limits"
              (fun limits => limits.lookup "max_tokens" = some (.number limit.toNat))
  maxCostMicroUsd
    : ∀ bound,
        request.originalLimits.maxCostMicroUsd = some bound
        → ∃ limit ≤ bound,
            Gives entries "candidate_limits"
              (fun limits => limits.lookup "max_cost_micro_usd" = some (.number limit.toNat))

/-- A limit that is kept is a limit. -/
theorem exists_limit_of_limitKept {original candidate : Option UInt64}
    (kept : LimitKept original candidate) {bound : UInt64} (bounded : original = some bound)
    : ∃ limit ≤ bound, candidate = some limit := by
  rcases kept with absent | ⟨bound', limit, same, limited, below⟩
  · rw [absent] at bounded
    contradiction
  · obtain rfl := Option.some.inj (same.symm.trans bounded)
    exact ⟨limit, below, limited⟩

theorem licensed_of_validateFallback_ok
    (read : FallbackPolicyRequest.codec.decode (.object entries) = some request)
    (candidateObject : ObjectUnder entries "candidate")
    (limitsObject : ObjectUnder entries "candidate_limits")
    {decision : FallbackPolicyDecision} (approved : validateFallback request = .ok decision)
    : Licensed entries request := by
  obtain ⟨admissible, _⟩ := admissible_of_validateFallback_ok approved
  obtain ⟨setsCrossProvider, setsRunnerLocal, _, _⟩ := fallbackPolicyRequest_reads _ _ read
  refine ⟨?runnerLocal, ?crossProvider, ?capabilities, ?maxTokens, ?maxCostMicroUsd⟩
  case runnerLocal =>
    intro runs
    rcases runs with localRunner | runnerLocal
    · exact setsRunnerLocal (admissible.localRunner localRunner).2
    · exact setsRunnerLocal (admissible.runnerLocal runnerLocal).1
  case crossProvider =>
    intro crosses
    exact setsCrossProvider (admissible.crossProvider crosses)
  case capabilities =>
    intro capability needed
    exact gives_of_supports read candidateObject (admissible.capabilities capability needed)
  case maxTokens =>
    intro bound bounded
    obtain ⟨limit, below, limited⟩ :=
      exists_limit_of_limitKept admissible.limits.maxTokens bounded
    exact ⟨limit, below,
      gives_of_candidateLimits read limitsObject maxTokens_readsLimit rfl limited⟩
  case maxCostMicroUsd =>
    intro bound bounded
    obtain ⟨limit, below, limited⟩ :=
      exists_limit_of_limitKept admissible.limits.maxCostMicroUsd bounded
    exact ⟨limit, below,
      gives_of_candidateLimits read limitsObject maxCostMicroUsd_readsLimit rfl limited⟩

end Fallbacks

/-- Nothing risky is granted by leaving something out. A fallback that is approved stands in
its document with the allowance that it needs, the support for each capability and the limits
that keep the original ones, where its candidate and its limits are written as objects; and a
host opens a session of its own only under flags whose document sets the one for it.
-/
theorem risks_are_opted_in (entries : List (String × Json))
    : (∀ request decision,
          ObjectUnder entries "candidate"
          → ObjectUnder entries "candidate_limits"
          → FallbackPolicyRequest.codec.decode (.object entries) = some request
          → validateFallback request = .ok decision
          → Licensed entries request)
      ∧ ∀ flags hostId request session,
          RuntimeFeatureFlags.codec.decode (.object entries) = some flags
          → (McpRuntimeHost.withFeatureFlags hostId flags).openSession request = .ok session
          → request.hostingMode = .gatewayHosted
          → Sets entries "hosted_mcp_billing_enabled" := by
  constructor
  · intro request decision candidateObject limitsObject read approved
    exact licensed_of_validateFallback_ok read candidateObject limitsObject approved
  · intro flags hostId request session read opened hosted
    obtain ⟨_, billable, _⟩ := McpRuntimeHost.openSession_ok_iff.mp opened
    exact runtimeFeatureFlags_reads _ _ read (billable hosted)

/-- What is written for a request is looked up as it was put in. -/
theorem lookup_fallbackPolicyRequest (request : FallbackPolicyRequest) (key : String)
    : (sortedByKey (FallbackPolicyRequest.fields.write request)).lookup key
      = (FallbackPolicyRequest.fields.write request).lookup key :=
  lookup_sortedByKey
    ((FallbackPolicyRequest.fields.written request).nodup (of_decide_eq_true rfl)) key

/-- The document of an approved change of provider sets the allowance for it. -/
theorem risks_are_opted_in_crossProvider
    : Sets (sortedByKey (FallbackPolicyRequest.fields.write
        retryThenCrossProvider.last)) "allow_cross_provider" := by
  have objects (key : String) (inner : List (String × Json))
      (written
        : (FallbackPolicyRequest.fields.write retryThenCrossProvider.last).lookup key
          = some (.object inner))
      : ObjectUnder (sortedByKey (FallbackPolicyRequest.fields.write
          retryThenCrossProvider.last)) key := by
    intro json found
    rw [lookup_fallbackPolicyRequest, written] at found
    exact ⟨inner, (Option.some.inj found).symm⟩
  exact
    ((risks_are_opted_in _).1 retryThenCrossProvider.last _ (objects "candidate" _ rfl)
      (objects "candidate_limits" _ rfl) (FallbackPolicyRequest.codec.round_trip _)
      rfl).crossProvider rfl

end TaskotterGateway.Formats
