import TaskotterGateway.Foundation.Deduplication
import TaskotterGateway.Relay.Identifiers
import TaskotterGateway.Relay.Server

/-! The events that the gateway sends out while it serves many requests. Each answer carries
one, no two have the same identifier, and an answer of the provider is not lost. Whoever keeps
one event for each idempotency key keeps one for each request: attempts that a client names
alike are one request, and attempts that it does not name are as many as they are.
-/

namespace TaskotterGateway.Relay

open Interleaving Deduplication

variable {κ : Type} [DecidableEq κ] {surroundings : Surroundings}
  {submissions : κ → Submission} {source : UuidSource}
  {state : State Question.Answer (Except GatewayError AiRelayResponse) κ Nat}

-----------------------------------------------------------------------------------------
-- No answer of the provider is lost
-----------------------------------------------------------------------------------------

/-- What a provider has answered is accounted for at once: the handler is about to do so, or
has finished with an event about this request, this decision and this result.
-/
theorem server_accounts_for_provider
    (reachable : (server surroundings submissions source).Reachable state) {connection : κ}
    {request : NormalizedProviderRequest} {decision : PolicyDecision}
    {result : Except GatewayError ProviderResponse}
    (answered : (connection, routed request decision result) ∈ state.log)
    : (∃ id,
        state.running connection
        = accounting ((submissions connection).request id) decision result)
      ∨ ∃ outcome event,
          (connection, outcome) ∈ state.finished
          ∧ outcome = withAccount result event
          ∧ usageAuditEvents outcome = [event]
          ∧ event.requestId = request.requestId
          ∧ event.subject = (submissions connection).subject
          ∧ event.provider = request.provider
          ∧ event.decisionId = decision.decisionId
          ∧ event.status = attemptStatus result := by
  have exchanged := mem_exchangesOf_iff.mpr answered
  rcases served_of_reachable reachable connection with ⟨empty, _⟩ | ⟨id, later, _, served⟩
  · rw [empty] at exchanged
    cases exchanged
  · have member := served.mem_later rfl exchanged
    have handling := served.handling
    generalize left : state.running connection = rest at handling
    cases handling with
    | received => cases member
    | waiting => cases List.mem_singleton.mp member
    | attempted attempted =>
        obtain ⟨rfl, rfl, rfl, _⟩ := attempted.eq_of_routed member
        exact .inl ⟨id, rfl⟩
    | answered attempted eventId =>
        rcases List.mem_append.mp member with member | member
        · obtain ⟨rfl, rfl, rfl, _⟩ := attempted.eq_of_routed member
          exact .inr ⟨_, _, (recorded_of_reachable reachable).listed.mpr left, rfl,
            usageAuditEvents_withAccount .., rfl, rfl, rfl, rfl, rfl⟩
        · cases List.mem_singleton.mp member

/-- Both submissions were answered, so what the provider has answered each is accounted for. -/
theorem server_accounts_for_provider_interleaved
    : ∃ state outcome event,
        (server .any boundRelayPayload.submitted World.fresh.source).Reachable state
        ∧ (false, outcome) ∈ state.finished
        ∧ usageAuditEvents outcome = [event]
        ∧ event.decisionId = "decision_1"
        ∧ event.status = .quotaDenied := by
  obtain ⟨state, id, reachable, _, ended, answered⟩ := interleaved_reachable
  rcases server_accounts_for_provider reachable answered with
    ⟨_, waiting⟩ | ⟨outcome, event, finished, _, carried, _, _, _, decided, status⟩
  · obtain ⟨outcome, running⟩ := ended false
    rw [running] at waiting
    cases waiting
  · exact ⟨state, outcome, event, reachable, finished, carried, decided, status⟩

-----------------------------------------------------------------------------------------
-- Identifiers are drawn once
-----------------------------------------------------------------------------------------

/-- The identifier that was drawn, if one was. -/
def drawnId : Handled → Option Uuid
  | ⟨.newV4, id⟩ => some id
  | _ => none

omit [DecidableEq κ] in
/-- The source of the identifiers only goes forward. -/
theorem server_supplies
    : System.Supplies (server surroundings submissions source) drawnId source.ids id where
  forward responds := by
    cases responds with
    | decides | routes => exact Nat.le_refl _
    | draws => exact Nat.le_succ _
  draws responds found := by
    cases responds with
    | decides | routes => cases found
    | draws =>
        cases found
        exact ⟨rfl, Nat.lt_succ_self _⟩
  drifts later := later

/-- The identifiers that were drawn so far, by the handlers or by others. -/
def drawnIds (source : UuidSource)
    (state : State Question.Answer (Except GatewayError AiRelayResponse) κ Nat)
    : List Uuid :=
  (List.range state.surroundings).map source.ids

omit [DecidableEq κ] in
theorem mem_tokens_of_drew {connection : κ} {id : Uuid}
    (logged : (connection, drew id) ∈ state.log)
    : (connection, id) ∈ System.tokens drawnId state.log := by
  rw [System.tokens, List.mem_filterMap]
  exact ⟨_, logged, rfl⟩

/-- What a connection has drawn is among the drawn identifiers. -/
theorem mem_drawnIds_of_drew
    (reachable : (server surroundings submissions source).Reachable state) {connection : κ}
    {id : Uuid} (logged : (connection, drew id) ∈ state.log)
    : id ∈ drawnIds source state :=
  (reachable.tokens_sublist server_supplies).subset
    (List.mem_map.mpr ⟨_, mem_tokens_of_drew logged, rfl⟩)

/-- As long as no identifier was drawn twice, no two connections have drawn the same. -/
theorem eq_of_drew (reachable : (server surroundings submissions source).Reachable state)
    (fresh : (drawnIds source state).Nodup) {left right : κ} {id : Uuid}
    (byLeft : (left, drew id) ∈ state.log) (byRight : (right, drew id) ∈ state.log)
    : left = right :=
  reachable.eq_of_tokens server_supplies fresh (mem_tokens_of_drew byLeft)
    (mem_tokens_of_drew byRight)

-----------------------------------------------------------------------------------------
-- One event for each answer, and one record for each request
-----------------------------------------------------------------------------------------

/-- The events of the answers that were sent, with the connection of each. -/
def accounted (state : State Question.Answer (Except GatewayError AiRelayResponse) κ Nat)
    : List (κ × UsageAuditEventV1) :=
  state.finished.flatMap (fun answer => (usageAuditEvents answer.2).map (answer.1, ·))

/-- The events of the answers that were sent, in their order. -/
def ledger (state : State Question.Answer (Except GatewayError AiRelayResponse) κ Nat)
    : List UsageAuditEventV1 :=
  (accounted state).map Prod.snd

/-- How an event belongs to its connection: it is about the request that was submitted, and
every identifier that the client did not give was drawn for this connection.
-/
structure Accounted (submission : Submission) (connection : κ) (log : List (κ × Handled))
    (event : UsageAuditEventV1)
    : Prop where
  key : event.idempotencyKey = "usage:" ++ event.requestId.toString
  drawn : (connection, drew event.eventId) ∈ log
  named : ∀ name ∈ submission.requestId, event.requestId = name
  unnamed : submission.requestId = none → (connection, drew event.requestId) ∈ log

/-- Every answer carries one event, which belongs to its connection. -/
theorem exists_accounted_of_finished
    (reachable : (server surroundings submissions source).Reachable state) {connection : κ}
    {outcome : Except GatewayError AiRelayResponse}
    (finished : (connection, outcome) ∈ state.finished)
    : ∃ event,
        usageAuditEvents outcome = [event]
        ∧ Accounted (submissions connection) connection state.log event := by
  obtain ⟨id, opening, calls, decision, result, eventId, obtains, opens, _, trace, rfl⟩ :=
    attempted_of_finished reachable finished
  refine ⟨_, usageAuditEvents_withAccount result _, rfl, ?_, obtains.eq_of_named, ?_⟩
  · rw [← mem_exchangesOf_iff, trace]
    exact List.mem_append_right _ (List.mem_append_right _ List.mem_cons_self)
  · intro unnamed
    cases opens with
    | named named => simp [unnamed] at named
    | unnamed =>
        rw [← mem_exchangesOf_iff, trace]
        exact List.mem_cons_self

theorem accounted_of_mem
    (reachable : (server surroundings submissions source).Reachable state)
    {entry : κ × UsageAuditEventV1} (member : entry ∈ accounted state)
    : Accounted (submissions entry.1) entry.1 state.log entry.2 := by
  obtain ⟨⟨connection, outcome⟩, finished, carried⟩ := List.mem_flatMap.mp member
  obtain ⟨event, single, belongs⟩ := exists_accounted_of_finished reachable finished
  simp only [single, List.map_cons, List.map_nil, List.mem_singleton] at carried
  subst carried
  exact belongs

/-- The connections with events are those that have finished, in the same order. -/
theorem connections_accounted
    (reachable : (server surroundings submissions source).Reachable state)
    : (accounted state).map Prod.fst = state.finished.map Prod.fst := by
  rw [accounted, List.map_flatMap, List.map_eq_flatMap]
  apply List.flatMap_congr
  intro answer finished
  obtain ⟨event, single, _⟩ := exists_accounted_of_finished reachable finished
  rw [single]
  rfl

omit [DecidableEq κ] in
/-- Where a list determines the entry by its connection, so does what two entries share. -/
theorem nodup_of_connections {α : Type} {entries : List (κ × UsageAuditEventV1)}
    (once : (entries.map Prod.fst).Nodup) {read : κ × UsageAuditEventV1 → α}
    (shared : ∀ left ∈ entries, ∀ right ∈ entries, read left = read right
      → left.1 = right.1)
    : (entries.map read).Nodup := by
  apply once.of_map.map_on
  intro left inLeft right inRight same
  exact List.inj_on_of_nodup_map once inLeft inRight (shared left inLeft right inRight same)

/-- Two requests have the same idempotency key only if they have the same identifier. -/
theorem usageKey_injective : Function.Injective (fun id : Uuid => "usage:" ++ id.toString) := by
  intro left right same
  exact Uuid.toString_injective ((String.append_right_inj _).mp same)

/-- Two events have the same key only if they are about the same request. -/
theorem requestId_eq_of_key
    (reachable : (server surroundings submissions source).Reachable state)
    {left right : κ × UsageAuditEventV1} (inLeft : left ∈ accounted state)
    (inRight : right ∈ accounted state)
    (same : left.2.idempotencyKey = right.2.idempotencyKey)
    : left.2.requestId = right.2.requestId :=
  usageKey_injective ((accounted_of_mem reachable inLeft).key.symm.trans
    (same.trans (accounted_of_mem reachable inRight).key))

/-- The keys of the requests that clients have named are those of the names. -/
theorem keys_of_named (reachable : (server surroundings submissions source).Reachable state)
    : (((accounted state).filter (fun entry => (submissions entry.1).requestId.isSome)).map
        (fun entry => entry.2.idempotencyKey)).toFinset
      = (state.finished.filterMap
          (fun answer => (submissions answer.1).requestId)).toFinset.image
            (fun id => "usage:" ++ id.toString) := by
  have connections : state.finished.filterMap (fun answer => (submissions answer.1).requestId)
      = (accounted state).filterMap (fun entry => (submissions entry.1).requestId) := by
    have mapped := congrArg (List.filterMap (fun connection =>
      (submissions connection).requestId)) (connections_accounted reachable)
    simpa only [List.filterMap_map, Function.comp_def] using mapped.symm
  ext found
  simp only [connections, List.mem_toFinset, List.mem_map, List.mem_filter, Finset.mem_image,
    List.mem_filterMap]
  constructor
  · intro keyed
    obtain ⟨entry, ⟨member, named⟩, rfl⟩ := keyed
    obtain ⟨name, present⟩ := Option.isSome_iff_exists.mp named
    have belongs := accounted_of_mem reachable member
    refine ⟨name, ⟨entry, member, present⟩, ?_⟩
    rw [← belongs.named name present]
    exact belongs.key.symm
  · intro keyed
    obtain ⟨name, ⟨entry, member, present⟩, rfl⟩ := keyed
    have belongs := accounted_of_mem reachable member
    refine ⟨entry, ⟨member, Option.isSome_iff_exists.mpr ⟨name, present⟩⟩, ?_⟩
    rw [← belongs.named name present]
    exact belongs.key

/-- As many events are about requests without a name as there are answers to such. -/
theorem length_of_unnamed
    (reachable : (server surroundings submissions source).Reachable state)
    : ((accounted state).filter
        (fun entry => !(submissions entry.1).requestId.isSome)).length
      = state.finished.countP (fun answer => (submissions answer.1).requestId.isNone) := by
  have counts := congrArg (List.countP (fun connection =>
    (submissions connection).requestId.isNone)) (connections_accounted reachable)
  rw [List.countP_map, List.countP_map] at counts
  rw [← List.countP_eq_length_filter]
  simpa [Function.comp_def] using counts

/-- As long as the source of identifiers neither repeats nor hands out what a client has named
its request by, every answer carries one event, no two events share their identifier, and
keeping one event for each idempotency key keeps one for each name that a client has used and
one for each answer to a request without a name.
-/
theorem ledger_records
    (reachable : (server surroundings submissions source).Reachable state)
    (fresh : (drawnIds source state).Nodup)
    (foreign : ∀ connection, ∀ name ∈ (submissions connection).requestId,
      name ∉ drawnIds source state)
    : (ledger state).length = state.finished.length
      ∧ ((ledger state).map UsageAuditEventV1.eventId).Nodup
      ∧ (keepFirst UsageAuditEventV1.idempotencyKey (ledger state)).length
        = (state.finished.filterMap
              (fun answer => (submissions answer.1).requestId)).toFinset.card
          + state.finished.countP (fun answer => (submissions answer.1).requestId.isNone) := by
  have once : ((accounted state).map Prod.fst).Nodup := by
    rw [connections_accounted reachable]
    exact (recorded_of_reachable reachable).once
  refine ⟨?_, ?_, ?_⟩
  · have sameLength := congrArg List.length (connections_accounted reachable)
    simpa [ledger] using sameLength
  · rw [ledger, List.map_map]
    apply nodup_of_connections once
    intro left inLeft right inRight same
    have byLeft := (accounted_of_mem reachable inLeft).drawn
    rw [show left.2.eventId = right.2.eventId from same] at byLeft
    exact eq_of_drew reachable fresh byLeft (accounted_of_mem reachable inRight).drawn
  · have unnamed {entry : κ × UsageAuditEventV1} (member : entry ∈ accounted state)
        (nameless : (submissions entry.1).requestId.isSome = false)
        : (entry.1, drew entry.2.requestId) ∈ state.log :=
      (accounted_of_mem reachable member).unnamed (by simpa using nameless)
    rw [length_keepFirst, ledger, List.map_map, ← length_of_unnamed reachable,
      ← Finset.card_image_of_injective _ usageKey_injective, ← keys_of_named reachable]
    apply card_keys_of_fresh
    · apply nodup_of_connections (once.sublist (List.filter_sublist.map _))
      intro left inLeft right inRight same
      obtain ⟨inLeft, leftUnnamed⟩ := List.mem_filter.mp inLeft
      obtain ⟨inRight, rightUnnamed⟩ := List.mem_filter.mp inRight
      have byLeft := unnamed inLeft (by simpa using leftUnnamed)
      rw [requestId_eq_of_key reachable inLeft inRight same] at byLeft
      exact eq_of_drew reachable fresh byLeft
        (unnamed inRight (by simpa using rightUnnamed))
    · intro left inLeft right inRight named nameless same
      obtain ⟨name, present⟩ := Option.isSome_iff_exists.mp named
      have drawn := mem_drawnIds_of_drew reachable (unnamed inRight nameless)
      rw [← requestId_eq_of_key reachable inLeft inRight same,
        (accounted_of_mem reachable inLeft).named name present] at drawn
      exact foreign left.1 name present drawn

/-- Two answers to one request, of which one is without a name, make two records. -/
theorem ledger_records_interleaved
    : ∃ state,
        (server .any boundRelayPayload.submitted World.fresh.source).Reachable state
        ∧ (keepFirst UsageAuditEventV1.idempotencyKey (ledger state)).length
          = (state.finished.filterMap
                (fun answer => (boundRelayPayload.submitted answer.1).requestId)).toFinset.card
            + state.finished.countP
                (fun answer => (boundRelayPayload.submitted answer.1).requestId.isNone) := by
  obtain ⟨state, _, reachable, drawn, _⟩ := interleaved_reachable
  have ids : drawnIds World.fresh.source state = [⟨0⟩, ⟨1⟩, ⟨2⟩] := by
    rw [drawnIds, drawn]
    rfl
  have fresh : (drawnIds World.fresh.source state).Nodup := by
    rw [ids]
    decide
  have foreign : ∀ named, ∀ name ∈ (boundRelayPayload.submitted named).requestId,
      name ∉ drawnIds World.fresh.source state := by
    rw [ids]
    decide
  exact ⟨state, reachable, (ledger_records reachable fresh foreign).2.2⟩

end TaskotterGateway.Relay
