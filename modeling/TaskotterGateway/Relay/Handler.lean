import TaskotterGateway.Foundation.Interleaving
import TaskotterGateway.Relay.Accounting

/-! The relay endpoint as a program that waits for the policy engine, for the provider and
for new identifiers (`api.rs`). Run by itself it is the endpoint; what it goes through is the
same whatever happens between its questions.
-/

namespace TaskotterGateway.Relay

open Interleaving

-----------------------------------------------------------------------------------------
-- The endpoint as a program
-----------------------------------------------------------------------------------------

/-- What a handler asks: a decision of the policy engine, the answer of the provider, or a
new identifier.
-/
inductive Question where
  | evaluate (check : PolicyCheck)
  | route (request : NormalizedProviderRequest) (decision : PolicyDecision)
  | newV4
  deriving DecidableEq, Repr

@[reducible]
def Question.Answer : Question → Type
  | .evaluate _ => PolicyDecision
  | .route _ _ => Except GatewayError ProviderResponse
  | .newV4 => Uuid

abbrev Handled := Exchange Question.Answer

abbrev Handler := Program Question.Answer

/-- The engine has decided on a check. -/
def evaluated (check : PolicyCheck) (decision : PolicyDecision) : Handled :=
  ⟨.evaluate check, decision⟩

/-- The provider has answered a request under a decision. -/
def routed (request : NormalizedProviderRequest) (decision : PolicyDecision)
    (result : Except GatewayError ProviderResponse)
    : Handled :=
  ⟨.route request decision, result⟩

/-- An identifier was drawn. -/
def drew (id : Uuid) : Handled :=
  ⟨.newV4, id⟩

/-- The event that accounts for a request, under a given identifier. -/
def AiRelayRequest.eventUnder (payload : AiRelayRequest) (decision : PolicyDecision)
    (status : UsageAttemptStatus) (eventId : Uuid)
    : UsageAuditEventV1 :=
  ((UsageAuditEventV1.new payload.requestId payload.subject payload.provider
    decision.decisionId status).run { ids := fun _ => eventId, drawn := 0 }).1

/-- The identifier of its event is all that an event owes to when it is made. -/
@[simp]
theorem AiRelayRequest.unidentified_eventUnder (payload : AiRelayRequest)
    (decision : PolicyDecision) (status : UsageAttemptStatus) (eventId : Uuid)
    : (payload.eventUnder decision status eventId).unidentified
      = payload.eventUnder decision status ⟨0⟩ :=
  rfl

/-- The endpoint accounts for its attempt under the identifier that comes next. -/
theorem relayAiRequest_eventUnder (state : GatewayState) (payload : AiRelayRequest)
    (world : World)
    : ∃ eventId,
        ((relayAiRequest state payload).run world).1
        = withAccount ((attempt state payload).run world).1
            (payload.eventUnder (state.policy payload.policyCheck)
              (attemptStatus ((attempt state payload).run world).1) eventId) := by
  rw [relayAiRequest_run]
  exact ⟨_, rfl⟩

/-- Accounts for the result of an attempt, once an identifier is drawn for the event. -/
def accounting (payload : AiRelayRequest) (decision : PolicyDecision)
    (result : Except GatewayError ProviderResponse)
    : Handler (Except GatewayError AiRelayResponse) :=
  .ask .newV4 (fun eventId =>
    .done (withAccount result (payload.eventUnder decision (attemptStatus result) eventId)))

/-- `relay_ai_request`, waiting where the source awaits. -/
def handler (payload : AiRelayRequest) : Handler (Except GatewayError AiRelayResponse) :=
  .ask (.evaluate payload.policyCheck) (fun (decision : PolicyDecision) =>
    if !decision.allowed then
      accounting payload decision (.error (.policyDeniedError decision.reason))
    else
      .ask (.route payload.normalized decision) (accounting payload decision))

/-- How a gateway answers the questions of a handler that has it for itself. -/
def GatewayState.respond (state : GatewayState)
    : (question : Question) → StateM World question.Answer
  | .evaluate check => state.evaluate check
  | .route request decision => state.route request decision
  | .newV4 => drawing Uuid.newV4

/-- The account of a result draws the identifier of its event, and nothing else. -/
theorem accounting_run (state : GatewayState) (payload : AiRelayRequest)
    (decision : PolicyDecision) (result : Except GatewayError ProviderResponse)
    : (accounting payload decision result).run state.respond
      = drawing (account payload decision result) :=
  rfl

/-- The program is the endpoint, when it has a gateway for itself. Witness: cases on the
decision, for an attempt that is followed by its account.
-/
theorem handler_run (state : GatewayState) (payload : AiRelayRequest) (world : World)
    : ((handler payload).run state.respond).run world
      = (relayAiRequest state payload).run world := by
  rw [relayAiRequest_run, handler, Program.run_ask, run_bind, GatewayState.respond,
    GatewayState.run_evaluate]
  cases allowed : (state.policy payload.policyCheck).allowed with
  | false =>
      rw [attempt_run_denied allowed]
      simp only [Bool.not_false, if_true]
      rw [accounting_run]
  | true =>
      rw [attempt_run_allowed allowed]
      simp only [Bool.not_true, Bool.false_eq_true, if_false]
      rfl

-----------------------------------------------------------------------------------------
-- What a handler goes through
-----------------------------------------------------------------------------------------

/-- An attempt has come to a result: the engine has denied it, or the provider has answered
it under the decision that allowed it.
-/
inductive Attempted (payload : AiRelayRequest)
    : List Handled → PolicyDecision → Except GatewayError ProviderResponse → Prop where
  | denied {decision : PolicyDecision} (denied : decision.allowed = false)
    : Attempted payload [evaluated payload.policyCheck decision] decision
        (.error (.policyDeniedError decision.reason))
  | passed {decision : PolicyDecision} (allowed : decision.allowed = true)
    (result : Except GatewayError ProviderResponse)
    : Attempted payload
        [evaluated payload.policyCheck decision, routed payload.normalized decision result]
        decision result

/-- The places that a handler can be at, with the exchanges that have brought it there. -/
inductive Handling (payload : AiRelayRequest)
    : List Handled → Handler (Except GatewayError AiRelayResponse) → Prop where
  | received : Handling payload [] (handler payload)
  | waiting {decision : PolicyDecision} (allowed : decision.allowed = true)
    : Handling payload [evaluated payload.policyCheck decision]
        (.ask (.route payload.normalized decision) (accounting payload decision))
  | attempted {calls : List Handled} {decision : PolicyDecision}
    {result : Except GatewayError ProviderResponse}
    (attempted : Attempted payload calls decision result)
    : Handling payload calls (accounting payload decision result)
  | answered {calls : List Handled} {decision : PolicyDecision}
    {result : Except GatewayError ProviderResponse}
    (attempted : Attempted payload calls decision result) (eventId : Uuid)
    : Handling payload (calls ++ [drew eventId])
        (.done
          (withAccount result (payload.eventUnder decision (attemptStatus result) eventId)))

/-- The account of an attempt is still to be made, or was made. -/
theorem Attempted.accounted {payload : AiRelayRequest} {calls : List Handled}
    {decision : PolicyDecision} {result : Except GatewayError ProviderResponse}
    (attempted : Attempted payload calls decision result) {later : List Handled}
    {rest : Handler (Except GatewayError AiRelayResponse)}
    (reaches : (accounting payload decision result).Reaches later rest)
    : Handling payload (calls ++ later) rest := by
  rcases Program.reaches_ask_iff.mp reaches with ⟨rfl, rfl⟩ | ⟨eventId, later, rfl, finished⟩
  · rw [List.append_nil]
    exact .attempted attempted
  · obtain ⟨rfl, rfl⟩ := Program.reaches_done_iff.mp finished
    exact .answered attempted eventId

/-- A handler is at one of its places. Witness: cases on the exchanges, question by question.
-/
theorem handler_reaches {payload : AiRelayRequest} {trace : List Handled}
    {rest : Handler (Except GatewayError AiRelayResponse)}
    (reaches : (handler payload).Reaches trace rest)
    : Handling payload trace rest := by
  rcases Program.reaches_ask_iff.mp reaches with ⟨rfl, rfl⟩ | ⟨decision, later, rfl, decided⟩
  · exact .received
  cases allowed : decision.allowed with
  | false =>
      simp only [allowed, Bool.not_false, if_true] at decided
      exact (Attempted.denied allowed).accounted decided
  | true =>
      simp only [allowed, Bool.not_true, Bool.false_eq_true, if_false] at decided
      rcases Program.reaches_ask_iff.mp decided with ⟨rfl, rfl⟩ | ⟨result, later, rfl, answered⟩
      · exact .waiting allowed
      · exact (Attempted.passed allowed result).accounted answered

/-- The account of an attempt finishes with the event under the drawn identifier. -/
theorem accounting_reaches (payload : AiRelayRequest) (decision : PolicyDecision)
    (result : Except GatewayError ProviderResponse) (eventId : Uuid)
    : (accounting payload decision result).Reaches [drew eventId]
        (.done
          (withAccount result (payload.eventUnder decision (attemptStatus result) eventId))) :=
  .ask (.stay _)

/-- A handler reaches the account of its attempt, by cases on the decision. -/
theorem Attempted.reaches {payload : AiRelayRequest} {calls : List Handled}
    {decision : PolicyDecision} {result : Except GatewayError ProviderResponse}
    (attempted : Attempted payload calls decision result)
    : (handler payload).Reaches calls (accounting payload decision result) := by
  cases attempted with
  | denied denied =>
      refine .ask ?_
      simp only [denied, Bool.not_false, if_true]
      exact .stay _
  | passed allowed =>
      refine .ask ?_
      simp only [allowed, Bool.not_true, Bool.false_eq_true, if_false]
      exact .ask (.stay _)

/-- A handler finishes with the account of its attempt, and not before. -/
theorem Handling.finished {payload : AiRelayRequest} {trace : List Handled}
    {outcome : Except GatewayError AiRelayResponse}
    (handling : Handling payload trace (.done outcome))
    : ∃ calls decision result eventId,
        Attempted payload calls decision result
        ∧ trace = calls ++ [drew eventId]
        ∧ outcome
          = withAccount result (payload.eventUnder decision (attemptStatus result) eventId) := by
  generalize left : Program.done outcome = rest at handling
  cases handling with
  | received => cases left
  | waiting => cases left
  | attempted => cases left
  | answered attempted eventId =>
      cases left
      exact ⟨_, _, _, eventId, attempted, rfl, rfl⟩

/-- A handler waits at most three times. -/
theorem handler_within (payload : AiRelayRequest) : Program.Within 3 (handler payload) := by
  have accounted (decision : PolicyDecision) (result : Except GatewayError ProviderResponse)
      (limit : Nat)
      : Program.Within (limit + 1) (accounting payload decision result) :=
    .ask (fun _ => .done limit _)
  refine .ask ?_
  intro decision
  cases decision.allowed with
  | false => exact accounted decision _ 1
  | true => exact .ask (fun result => accounted decision result 0)

-----------------------------------------------------------------------------------------
-- Submissions
-----------------------------------------------------------------------------------------

/-- A relay request as it is submitted: its identifier may be left out. -/
structure Submission where
  requestId : Option Uuid
  subject : PolicySubject
  provider : ProviderRef
  messages : List ChatMessage
  stream : Bool
  timeoutMs : Option UInt64
  requestedMaxTokens : Option UInt64
  estimatedCostMicroUsd : Option UInt64
  deriving DecidableEq, Repr

namespace Submission

/-- The request that a submission makes under an identifier. -/
def request (submission : Submission) (id : Uuid) : AiRelayRequest where
  requestId := id
  subject := submission.subject
  provider := submission.provider
  messages := submission.messages
  stream := submission.stream
  timeoutMs := submission.timeoutMs
  requestedMaxTokens := submission.requestedMaxTokens
  estimatedCostMicroUsd := submission.estimatedCostMicroUsd

/-- A submission is read, with a new identifier if it has none, and handled. -/
def served (submission : Submission) : Handler (Except GatewayError AiRelayResponse) :=
  match submission.requestId with
  | some id => handler (submission.request id)
  | none => .ask .newV4 (fun id => handler (submission.request id))

/-- A submission gets its identifier from the client, or draws one. -/
inductive Opens (submission : Submission) : Uuid → List Handled → Prop where
  | named {id : Uuid} (named : submission.requestId = some id) : Opens submission id []
  | unnamed (unnamed : submission.requestId = none) (id : Uuid)
    : Opens submission id [drew id]

/-- A submission waits for its identifier, or is handled under it. -/
theorem served_reaches {submission : Submission} {trace : List Handled}
    {rest : Handler (Except GatewayError AiRelayResponse)}
    (reaches : submission.served.Reaches trace rest)
    : (submission.requestId = none ∧ trace = [] ∧ rest = submission.served)
      ∨ ∃ id opening later,
          submission.Opens id opening
          ∧ trace = opening ++ later
          ∧ Handling (submission.request id) later rest := by
  cases named : submission.requestId with
  | some id =>
      have same : submission.served = handler (submission.request id) := by
        rw [served, named]
      rw [same] at reaches
      exact .inr ⟨id, [], trace, .named named, rfl, handler_reaches reaches⟩
  | none =>
      have same : submission.served
          = .ask .newV4 (fun id => handler (submission.request id)) := by
        rw [served, named]
      rw [same] at reaches
      rcases Program.reaches_ask_iff.mp reaches with ⟨rfl, rfl⟩ | ⟨id, later, rfl, handled⟩
      · exact .inl ⟨rfl, rfl, same.symm⟩
      · exact .inr ⟨id, [drew id], later, .unnamed named id, rfl, handler_reaches handled⟩

/-- A submission reaches the handler of its request by getting an identifier. -/
theorem Opens.reaches {submission : Submission} {id : Uuid}
    {opening : List Handled} (opens : submission.Opens id opening)
    : submission.served.Reaches opening (handler (submission.request id)) := by
  cases opens with
  | named named =>
      rw [Submission.served, named]
      exact .stay _
  | unnamed unnamed =>
      rw [Submission.served, unnamed]
      exact .ask (.stay _)

theorem outcome_served (submission : Submission)
    : submission.served.outcome = none := by
  rw [served]
  cases submission.requestId <;> rfl

/-- A submission waits at most four times. -/
theorem served_within (submission : Submission) : Program.Within 4 submission.served := by
  have weaker (payload : AiRelayRequest) : Program.Within 4 (handler payload) :=
    (handler_within payload).mono (by omega)
  cases named : submission.requestId with
  | some id =>
      rw [served, named]
      exact weaker (submission.request id)
  | none =>
      rw [served, named]
      exact .ask (fun id => handler_within (submission.request id))

end Submission

end TaskotterGateway.Relay
