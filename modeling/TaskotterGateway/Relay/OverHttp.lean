import TaskotterGateway.Foundation.JsonTolerance
import TaskotterGateway.Formats.RelayApi
import TaskotterGateway.Mcp.Endpoints
import TaskotterGateway.Relay.Server

/-! The routes of the gateway over HTTP (`lib.rs`, `api.rs`). A client that posts a submission
reads from the response what the handler has come to, and nothing in a body counts but what
stands under the keys of its route, as long as the framework reads it at all.
-/

namespace TaskotterGateway.Relay

open JsonCodec Interleaving Mcp

-----------------------------------------------------------------------------------------
-- The routes
-----------------------------------------------------------------------------------------

/-- The handlers that `app` routes to. -/
inductive Route where
  | healthz
  | relayAiRequest
  | resolveMcpEndpoint
  deriving DecidableEq, Repr

structure HealthResponse where
  status : String
  deriving DecidableEq, Repr

def HealthResponse.codec : Codec HealthResponse :=
  .record .ignored
    (Fields.build HealthResponse.mk
      |>.required "status" .text HealthResponse.status)

def healthz : HealthResponse where
  status := "ok"

/-- A body as it is sent: how many bytes it takes, and the value that these spell. -/
structure Body where
  bytes : Nat
  value : Json

/-- The bytes that the framework takes in of a body. A longer one it refuses by itself. -/
def bodyLimit : Nat := 2097152

/-- What a handler is given of a body. -/
def Body.read {α : Type} (body : Body) (codec : Codec α) : Option α :=
  if body.bytes ≤ bodyLimit then codec.decode body.value else none

/-- The request that a submission is read as: an identifier that is missing is drawn. -/
def Submission.payload (submission : Submission) : StateM World AiRelayRequest :=
  match submission.requestId with
  | some id => return submission.request id
  | none => do
      let id ← drawing Uuid.newV4
      return submission.request id

section Bodies

variable (parseUuid : String → Option Uuid)
variable (parses : ∀ id : Uuid, parseUuid id.toString = some id)

/-- The response to an outcome of the relay handler. -/
def relayResponse (outcome : Except GatewayError AiRelayResponse) : Response Json where
  status := (intoResponse outcome).status
  body :=
    match (intoResponse outcome).body with
    | .inl body => (ErrorBody.codec parseUuid parses).encode body
    | .inr response => (AiRelayResponse.codec parseUuid parses).encode response

/-- The response of a route to the body of a request, none where the body is too long or is not
read: the framework then answers in place of the handler.
-/
def app (state : GatewayState) (route : Route) (body : Body)
    : StateM World (Option (Response Json)) :=
  match route with
  | .healthz => return some { status := 200, body := HealthResponse.codec.encode healthz }
  | .relayAiRequest =>
      match body.read (Submission.codec parseUuid parses) with
      | none => return none
      | some submission => do
          let payload ← submission.payload
          let outcome ← relayAiRequest state payload
          return some (relayResponse parseUuid parses outcome)
  | .resolveMcpEndpoint =>
      match body.read McpEndpoint.codec with
      | none => return none
      | some endpoint =>
          return some {
            status := 200
            body := McpResolution.codec.encode (resolveEndpoint endpoint)
          }

-----------------------------------------------------------------------------------------
-- What a client reads
-----------------------------------------------------------------------------------------

/-- The error that a client reads from the body of a refusal. -/
def ErrorBody.outcome (body : ErrorBody) : Option GatewayError :=
  match body.error.code with
  | "policy_denied" => some (.policyDenied body.error.message body.usageAuditEvent)
  | "provider_timeout" =>
      some (.timeout body.error.message body.error.timeoutMs body.usageAuditEvent)
  | "quota_exceeded" => some (.quotaExceeded body.error.message body.usageAuditEvent)
  | _ => none

/-- The outcome that a client reads from a response. -/
def readOutcome (response : Response Json) : Option (Except GatewayError AiRelayResponse) :=
  if response.status == 200 then
    ((AiRelayResponse.codec parseUuid parses).decode response.body).map .ok
  else
    (((ErrorBody.codec parseUuid parses).decode response.body).bind ErrorBody.outcome).map
      .error

/-- An error is read from the body that it becomes. -/
theorem ErrorBody.outcome_intoResponse (error : GatewayError)
    : error.intoResponse.body.outcome = some error := by
  cases error <;> rfl

/-- A refusal never has the status of an answer. -/
theorem status_intoResponse_ne (error : GatewayError)
    : (error.intoResponse.status == 200) = false := by
  cases error <;> rfl

/-- A client reads from the response the whole outcome, whatever it is. -/
theorem readOutcome_relayResponse (outcome : Except GatewayError AiRelayResponse)
    : readOutcome parseUuid parses (relayResponse parseUuid parses outcome) = some outcome := by
  cases outcome with
  | ok response =>
      have read := (AiRelayResponse.codec parseUuid parses).round_trip response
      simp only [readOutcome, relayResponse, intoResponse, beq_self_eq_true, if_true, read,
        Option.map_some]
  | error error =>
      have read := (ErrorBody.codec parseUuid parses).round_trip error.intoResponse.body
      simp only [readOutcome, relayResponse, intoResponse, status_intoResponse_ne,
        Bool.false_eq_true, if_false, read, Option.bind_some, ErrorBody.outcome_intoResponse,
        Option.map_some]

-----------------------------------------------------------------------------------------
-- What a body counts for
-----------------------------------------------------------------------------------------

/-- The keys that a route reads in the body of a request. -/
def Route.keys : Route → List String
  | .healthz => []
  | .relayAiRequest =>
      ["request_id", "subject", "provider", "messages", "stream", "timeout_ms",
        "requested_max_tokens", "estimated_cost_micro_usd"]
  | .resolveMcpEndpoint =>
      ["integration_id", "host_mode", "runner_id", "remote_url", "command"]

theorem Submission.codec_tolerant
    : (Submission.codec parseUuid parses).Tolerant Route.relayAiRequest.keys :=
  Codec.record_tolerant _ _ _

theorem McpEndpoint.codec_tolerant
    : McpEndpoint.codec.Tolerant Route.resolveMcpEndpoint.keys :=
  Codec.record_tolerant _ _ _

/-- A submission is handled as the program that waits for its identifier. -/
theorem Submission.run_payload (submission : Submission) (state : GatewayState) (world : World)
    : (submission.payload >>= relayAiRequest state).run world
      = (submission.served.run state.respond).run world := by
  rw [run_bind, payload, served]
  cases submission.requestId with
  | some id => exact (handler_run state (submission.request id) world).symm
  | none =>
      exact (handler_run state (submission.request ((drawing Uuid.newV4).run world).1)
        ((drawing Uuid.newV4).run world).2).symm

/-- A tolerant codec reads bodies within the limit alike that agree on its keys. -/
theorem Body.read_congr {α : Type} {codec : Codec α} {keys : List String}
    (tolerant : codec.Tolerant keys) {left right : List (String × Json)}
    (distinctLeft : (left.map Prod.fst).Nodup) (distinctRight : (right.map Prod.fst).Nodup)
    (agree : ∀ key ∈ keys, left.lookup key = right.lookup key) {bytes other : Nat}
    (within : bytes ≤ bodyLimit) (alsoWithin : other ≤ bodyLimit)
    : Body.read ⟨bytes, .object left⟩ codec = Body.read ⟨other, .object right⟩ codec := by
  rw [Body.read, Body.read, if_pos within, if_pos alsoWithin]
  exact tolerant left right distinctLeft distinctRight agree

end Bodies

/-- Over HTTP, objects that fit into a body, agree on the keys of a route and repeat no key are
answered alike by the handler, with the same calls, or both kept from it by the framework,
whatever else stands in them and in whatever order; and from the response to a submission that
fits into a body the client reads just what its handler has come to.
-/
theorem app_over_http (parseUuid : String → Option Uuid)
    (parses : ∀ id : Uuid, parseUuid id.toString = some id) (state : GatewayState)
    (world : World)
    : (∀ (route : Route) (left right : List (String × Json)) (bytes other : Nat),
          bytes ≤ bodyLimit
          → other ≤ bodyLimit
          → (left.map Prod.fst).Nodup
          → (right.map Prod.fst).Nodup
          → (∀ key ∈ route.keys, left.lookup key = right.lookup key)
          → (app parseUuid parses state route ⟨bytes, .object left⟩).run world
            = (app parseUuid parses state route ⟨other, .object right⟩).run world)
      ∧ ∀ (submission : Submission) (bytes : Nat),
          bytes ≤ bodyLimit
          → ∃ response,
              (app parseUuid parses state .relayAiRequest
                ⟨bytes, (Submission.codec parseUuid parses).encode submission⟩).run world
              = (some response, ((submission.served.run state.respond).run world).2)
              ∧ readOutcome parseUuid parses response
                = some ((submission.served.run state.respond).run world).1 := by
  constructor
  · intro route left right bytes other within alsoWithin distinctLeft distinctRight agree
    cases route with
    | healthz => rfl
    | relayAiRequest =>
        unfold app
        rw [Body.read_congr (Submission.codec_tolerant parseUuid parses) distinctLeft
          distinctRight agree within alsoWithin]
    | resolveMcpEndpoint =>
        unfold app
        rw [Body.read_congr McpEndpoint.codec_tolerant distinctLeft distinctRight agree within
          alsoWithin]
  · intro submission bytes within
    rw [← submission.run_payload]
    refine ⟨_, ?_, readOutcome_relayResponse parseUuid parses _⟩
    unfold app
    simp only [Body.read, within, if_true, (Submission.codec parseUuid parses).round_trip]
    rfl

/-- The client of a bound submission, sent in a thousand bytes, reads that it was relayed. -/
theorem app_over_http_relayed
    : ∃ response outcome,
        ((app Uuid.ofHyphenated Uuid.ofHyphenated_toString appState .relayAiRequest
          ⟨1000,
            (Submission.codec Uuid.ofHyphenated Uuid.ofHyphenated_toString).encode
              (boundRelayPayload.submitted false)⟩).run .fresh).1
        = some response
        ∧ readOutcome Uuid.ofHyphenated Uuid.ofHyphenated_toString response = some outcome
        ∧ (intoResponse outcome).status = 200 := by
  obtain ⟨response, answered, read⟩ :=
    (app_over_http Uuid.ofHyphenated Uuid.ofHyphenated_toString appState .fresh).2
      (boundRelayPayload.submitted false) 1000 (by decide)
  refine ⟨response, _, congrArg Prod.fst answered, read, ?_⟩
  decide +kernel

end TaskotterGateway.Relay
