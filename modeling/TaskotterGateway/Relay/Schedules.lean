import TaskotterGateway.Relay.Server
import TaskotterGateway.Relay.StaticVerdict

/-! What does not depend on the order in which the gateway serves its connections: the outcome
of the shipped engine and adapter, up to the identifiers that are drawn, and that every
connection gets its answer after a few steps of its own.
-/

namespace TaskotterGateway.Relay

open Interleaving GuardCascade

variable {κ : Type} [DecidableEq κ] {submissions : κ → Submission} {source : UuidSource}
  {state : State Question.Answer (Except GatewayError AiRelayResponse) κ Nat}

-----------------------------------------------------------------------------------------
-- No connection waits for another
-----------------------------------------------------------------------------------------

/-- What the engine of a gateway decides and what its adapter answers, whichever identifiers
the adapter draws.
-/
def GatewayState.surroundings (gateway : GatewayState) : Surroundings where
  Decides check decision := decision = gateway.policy check
  Routes request decision result :=
    ∃ source, ((gateway.providers.route request decision).run source).1 = result

/-- The engine has a decision on every check, and the provider an answer to every request. -/
structure Surroundings.Answering (surroundings : Surroundings) : Prop where
  decides : ∀ check, ∃ decision, surroundings.Decides check decision
  routes : ∀ request decision, ∃ result, surroundings.Routes request decision result

/-- An engine and an adapter that are functions have an answer to everything. -/
theorem GatewayState.answering_surroundings (gateway : GatewayState)
    : gateway.surroundings.Answering where
  decides check := ⟨gateway.policy check, rfl⟩
  routes _ _ := ⟨_, { ids := fun _ => ⟨0⟩, drawn := 0 }, rfl⟩

omit [DecidableEq κ] in
theorem Surroundings.Answering.responsive {surroundings : Surroundings}
    (answering : surroundings.Answering) (submissions : κ → Submission) (source : UuidSource)
    : (server surroundings submissions source).Responsive := by
  intro drawn question
  cases question with
  | evaluate check =>
      obtain ⟨decision, decides⟩ := answering.decides check
      exact ⟨decision, drawn, .decides decides⟩
  | route request decision =>
      obtain ⟨result, routes⟩ := answering.routes request decision
      exact ⟨result, drawn, .routes routes⟩
  | newV4 => exact ⟨_, _, .draws⟩

/-- Every connection is answered after at most four steps of its own, and from every state it
can take them at once, while all others stay where they are: no connection waits for another.
-/
theorem server_wait_free {surroundings : Surroundings} (answering : surroundings.Answering)
    (reachable : (server surroundings submissions source).Reachable state) (connection : κ)
    : (exchangesOf connection state.log).length ≤ 4
      ∧ ((exchangesOf connection state.log).length = 4
        → ∃ outcome, (connection, outcome) ∈ state.finished)
      ∧ ∃ final outcome,
          Relation.ReflTransGen (server surroundings submissions source).Step state final
          ∧ (connection, outcome) ∈ final.finished
          ∧ ∀ other, other ≠ connection → final.running other = state.running other := by
  obtain ⟨bounded, exhausted⟩ :=
    reachable.exchanges_bounded (submissions connection).served_within
  refine ⟨bounded, ?_, ?_⟩
  · intro full
    obtain ⟨outcome, ended⟩ := exhausted full
    exact ⟨outcome, (recorded_of_reachable reachable).listed.mpr ended⟩
  · obtain ⟨final, outcome, steps, ended, others⟩ :=
      System.exists_finished (answering.responsive submissions source) state connection
    have reached := Relation.ReflTransGen.trans reachable steps
    exact ⟨final, outcome, steps, (recorded_of_reachable reached).listed.mpr ended, others⟩

/-- The two submissions of one request are answered, the one that waits for the other first. -/
theorem server_wait_free_bound
    : ∃ state outcome,
        (server appState.surroundings boundRelayPayload.submitted
          World.fresh.source).Reachable state
        ∧ (true, outcome) ∈ state.finished := by
  obtain ⟨_, _, state, outcome, steps, finished, _⟩ :=
    server_wait_free appState.answering_surroundings
      (Relation.ReflTransGen.refl
        : (server appState.surroundings boundRelayPayload.submitted
            World.fresh.source).Reachable _) true
  exact ⟨state, outcome, steps, finished⟩

-----------------------------------------------------------------------------------------
-- The verdict of the shipped gateway
-----------------------------------------------------------------------------------------

/-- An outcome without the identifiers that are drawn for it, of the relay and of its event. -/
def anonymous : Except GatewayError AiRelayResponse → Except GatewayError AiRelayResponse
  | .ok answer =>
      mapEvent .unidentified
        (.ok { answer with response := { answer.response with relayId := ⟨0⟩ } })
  | .error error => mapEvent .unidentified (.error error)

/-- An event as it is under another identifier of its request, which is in its key as well. -/
def UsageAuditEventV1.underRequest (requestId : Uuid) (event : UsageAuditEventV1)
    : UsageAuditEventV1 :=
  { event with requestId, idempotencyKey := "usage:" ++ requestId.toString }

/-- Over the shipped engine and adapter, an attempt comes to what the cascade of the stub
answers, under some identifier of the relay.
-/
theorem Attempted.result_eq_stubAnswer {payload : AiRelayRequest} {calls : List Handled}
    {decision : PolicyDecision} {result : Except GatewayError ProviderResponse}
    (attempted : Attempted payload calls decision result) {ids : Nat → Uuid}
    (responded : ∀ exchange ∈ calls, ∃ before after,
      appState.surroundings.Responds ids before exchange after)
    : ∃ relayId,
        result
        = stubAnswer payload.normalized (staticPolicyEngine payload.policyCheck) relayId
            payload.appAnswer := by
  have permits := attempted.permits responded
  obtain rfl : decision = staticPolicyEngine payload.policyCheck := permits.decides
  cases attempted with
  | denied denied =>
      refine ⟨⟨0⟩, ?_⟩
      simp only [AiRelayRequest.appAnswer, stubGuards, firstRefusal_cons, denied, Bool.not_false,
        if_true]
      rfl
  | passed allowed =>
      obtain ⟨source, answered⟩ := permits.routes allowed { ids, drawn := 0 }
      exact ⟨_, answered.symm.trans (stubProviderAdapter_run _ _ source)⟩

/-- Whichever identifiers are drawn, the stub's answer is accounted for alike, by cases on the
answer.
-/
theorem anonymous_stubAnswer (submission : Submission) (id other relayId another : Uuid)
    (eventId next : Uuid)
    : let answered (id relayId eventId : Uuid) :=
        let payload := submission.request id
        let decision := staticPolicyEngine payload.policyCheck
        let result := stubAnswer payload.normalized decision relayId payload.appAnswer
        withAccount result (payload.eventUnder decision (attemptStatus result) eventId)
      anonymous (answered id relayId eventId)
      = anonymous (mapEvent (.underRequest id) (answered other another next)) := by
  intro answered
  have same : (submission.request other).appAnswer = (submission.request id).appAnswer := rfl
  simp only [answered, same, mapEvent_withAccount]
  cases (submission.request id).appAnswer with
  | none => rfl
  | some refusal => cases refusal <;> rfl

/-- An outcome is sent under one status, whatever is drawn for it and whoever asked. -/
theorem status_of_anonymous {left right : Except GatewayError AiRelayResponse}
    {change : UsageAuditEventV1 → UsageAuditEventV1}
    (same : anonymous left = anonymous (mapEvent change right))
    : (intoResponse left).status = (intoResponse right).status := by
  have status (outcome : Except GatewayError AiRelayResponse)
      : (intoResponse (anonymous outcome)).status = (intoResponse outcome).status := by
    cases outcome with
    | ok answer => rfl
    | error error => cases error <;> rfl
  have changed : (intoResponse (mapEvent change right)).status = (intoResponse right).status := by
    cases right with
    | ok answer => rfl
    | error error => cases error <;> rfl
  rw [← status, same, status, changed]

/-- The shipped gateway answers each submission as it would by itself, at any time and under
any identifier: neither the order of the steps nor the other connections make a difference to
the status, to the answer or to its event, but for the identifiers that are drawn for the relay
and for the event, and the one that the request is handled under.
-/
theorem server_answer_of_submission
    (reachable : (server appState.surroundings submissions source).Reachable state)
    {connection : κ} {outcome : Except GatewayError AiRelayResponse}
    (finished : (connection, outcome) ∈ state.finished)
    : ∃ id,
        (submissions connection).Obtains source id
        ∧ ∀ (other : Uuid) (world : World),
            let alone :=
              ((relayAiRequest appState ((submissions connection).request other)).run world).1
            anonymous outcome = anonymous (mapEvent (.underRequest id) alone)
            ∧ (intoResponse outcome).status = (intoResponse alone).status := by
  obtain ⟨id, opening, calls, decision, result, eventId, obtains, _, attempted, trace, rfl⟩ :=
    attempted_of_finished reachable finished
  have responded : ∀ exchange ∈ calls, ∃ before after,
      appState.surroundings.Responds source.ids before exchange after := by
    intro exchange member
    have exchanged : exchange ∈ exchangesOf connection state.log := by
      rw [trace]
      exact List.mem_append_right _ (List.mem_append_left _ member)
    exact responded_of_exchangesOf reachable exchanged
  obtain rfl : decision = staticPolicyEngine ((submissions connection).request id).policyCheck :=
    (attempted.permits responded).decides
  obtain ⟨relayId, rfl⟩ := attempted.result_eq_stubAnswer responded
  refine ⟨id, obtains, ?_⟩
  intro other world alone
  obtain ⟨next, outcome⟩ :=
    relayAiRequest_eventUnder appState ((submissions connection).request other) world
  have result :=
    attempt_run_stub staticPolicyEngine ((submissions connection).request other) world
  have answered : alone = _ := outcome.trans (congrArg (fun result =>
    withAccount result
      (((submissions connection).request other).eventUnder
        (staticPolicyEngine ((submissions connection).request other).policyCheck)
        (attemptStatus result) next)) result)
  have same := anonymous_stubAnswer (submissions connection) id other relayId
    (world.source.ids world.source.drawn) eventId next
  rw [answered]
  exact ⟨same, status_of_anonymous same⟩

/-- A submission without an identifier is relayed, among others, as it is by itself. -/
theorem server_answer_of_submission_relayed
    : ∃ state outcome,
        (server appState.surroundings boundRelayPayload.submitted
          World.fresh.source).Reachable state
        ∧ (false, outcome) ∈ state.finished
        ∧ (intoResponse outcome).status = 200 := by
  obtain ⟨state, outcome, steps, ended, _⟩ :=
    System.exists_finished
      (appState.answering_surroundings.responsive boundRelayPayload.submitted
        World.fresh.source)
      (System.begin _) false
  have finished := (recorded_of_reachable steps).listed.mpr ended
  obtain ⟨_, _, alone⟩ := server_answer_of_submission steps finished
  obtain ⟨_, status⟩ := alone boundRelayPayload.requestId .fresh
  refine ⟨state, outcome, steps, finished, ?_⟩
  rw [status]
  decide +kernel

end TaskotterGateway.Relay
