import Mathlib.Data.List.Nodup
import Mathlib.Logic.Function.Basic
import Mathlib.Logic.Relation

/-! Programs that ask their surroundings one question at a time, and many of them at once.
A program waits at each question for its answer, and meanwhile the others may go on. Each
of the programs then still goes through answers that it could get by itself.
-/

universe u v w

namespace Interleaving

variable {ι : Type u} {ρ : ι → Type v} {α β : Type v}

-----------------------------------------------------------------------------------------
-- Programs
-----------------------------------------------------------------------------------------

/-- A question with the answer to it. -/
structure Exchange {ι : Type u} (ρ : ι → Type v) where
  question : ι
  answer : ρ question

/-- A program that asks one question at a time, and goes on with the answer. -/
inductive Program {ι : Type u} (ρ : ι → Type v) (α : Type v) where
  | done (value : α)
  | ask (question : ι) (next : ρ question → Program ρ α)

namespace Program

/-- A program by itself, its questions answered by actions on a state. -/
def run {σ : Type v} (respond : (question : ι) → StateM σ (ρ question))
    : Program ρ α → StateM σ α
  | .done value => pure value
  | .ask question next => do
      let answer ← respond question
      (next answer).run respond

theorem run_ask {σ : Type v} (respond : (question : ι) → StateM σ (ρ question)) (question : ι)
    (next : ρ question → Program ρ α)
    : (Program.ask question next).run respond
      = respond question >>= fun answer => (next answer).run respond :=
  rfl

/-- A program with what is left of it after some exchanges. -/
inductive Reaches : Program ρ α → List (Exchange ρ) → Program ρ α → Prop where
  | stay (program : Program ρ α) : Reaches program [] program
  | ask {question : ι} {next : ρ question → Program ρ α} {answer : ρ question}
    {later : List (Exchange ρ)} {rest : Program ρ α}
    (reaches : Reaches (next answer) later rest)
    : Reaches (.ask question next) (⟨question, answer⟩ :: later) rest

/-- A finished program has no further exchanges. -/
theorem reaches_done_iff {value : α} {trace : List (Exchange ρ)} {rest : Program ρ α}
    : Reaches (.done value) trace rest ↔ trace = [] ∧ rest = .done value := by
  constructor
  · intro reaches
    cases reaches
    exact ⟨rfl, rfl⟩
  · intro same
    obtain ⟨rfl, rfl⟩ := same
    exact .stay _

/-- A program that asks is where it was, or has gone on with an answer. -/
theorem reaches_ask_iff {question : ι} {next : ρ question → Program ρ α}
    {trace : List (Exchange ρ)} {rest : Program ρ α}
    : Reaches (.ask question next) trace rest
      ↔ (trace = [] ∧ rest = .ask question next)
        ∨ ∃ answer later,
            trace = ⟨question, answer⟩ :: later ∧ Reaches (next answer) later rest := by
  constructor
  · intro reaches
    cases reaches with
    | stay => exact .inl ⟨rfl, rfl⟩
    | ask reaches => exact .inr ⟨_, _, rfl, reaches⟩
  · intro reaches
    rcases reaches with ⟨rfl, rfl⟩ | ⟨answer, later, rfl, reaches⟩
    · exact .stay _
    · exact .ask reaches

/-- What is left of a program goes on by itself, by induction on the exchanges so far. -/
theorem Reaches.trans {first second third : Program ρ α} {before after : List (Exchange ρ)}
    (reached : Reaches first before second) (reaches : Reaches second after third)
    : Reaches first (before ++ after) third := by
  induction reached with
  | stay => exact reaches
  | ask _ ih => exact .ask (ih reaches)

/-- One more answer to the question that a program waits at. -/
theorem Reaches.answer {program : Program ρ α} {trace : List (Exchange ρ)} {question : ι}
    {next : ρ question → Program ρ α} (reached : Reaches program trace (.ask question next))
    (answer : ρ question)
    : Reaches program (trace ++ [⟨question, answer⟩]) (next answer) :=
  reached.trans (.ask (.stay _))

/-- A program asks at most a number of questions, whatever it is answered. -/
inductive Within : Nat → Program ρ α → Prop where
  | done (limit : Nat) (value : α) : Within limit (.done value)
  | ask {limit : Nat} {question : ι} {next : ρ question → Program ρ α}
    (rest : ∀ answer, Within limit (next answer))
    : Within (limit + 1) (.ask question next)

/-- A program within a limit is within every larger one. -/
theorem Within.mono {few many : Nat} {program : Program ρ α} (within : Within few program)
    (larger : few ≤ many)
    : Within many program := by
  induction within generalizing many with
  | done limit value => exact .done many value
  | @ask limit question next _ ih =>
      obtain ⟨more, rfl⟩ : ∃ more, many = more + 1 := ⟨many - 1, by omega⟩
      exact .ask (fun answer => ih answer (by omega))

/-- The exchanges of a program count against its limit, by induction on the exchanges. -/
theorem Within.reaches {limit : Nat} {program rest : Program ρ α}
    {trace : List (Exchange ρ)} (within : Within limit program)
    (reaches : Reaches program trace rest)
    : trace.length ≤ limit ∧ Within (limit - trace.length) rest := by
  induction reaches generalizing limit with
  | stay => exact ⟨Nat.zero_le _, within⟩
  | @ask question next answer later rest _ ih =>
      cases within with
      | @ask limit _ _ bounded =>
          obtain ⟨short, left⟩ := ih (bounded answer)
          have remains : limit + 1 - (later.length + 1) = limit - later.length := by omega
          refine ⟨Nat.succ_le_succ short, ?_⟩
          rw [List.length_cons, remains]
          exact left

/-- A program that has used up its limit has finished. -/
theorem Within.done_of_zero {program : Program ρ α} (within : Within 0 program)
    : ∃ value, program = .done value := by
  cases within with
  | done _ value => exact ⟨value, rfl⟩

/-- The value of a finished program. -/
def outcome : Program ρ α → Option α
  | .done value => some value
  | .ask _ _ => none

theorem outcome_eq_some_iff {program : Program ρ α} {value : α}
    : program.outcome = some value ↔ program = .done value := by
  cases program <;> simp [outcome]

end Program

-----------------------------------------------------------------------------------------
-- Many programs at once
-----------------------------------------------------------------------------------------

/-- Programs that run side by side, in surroundings that answer their questions and may also
change by themselves.
-/
structure System {ι : Type u} (ρ : ι → Type v) (α : Type v) (κ : Type w) (σ : Type v) where
  start : κ → Program ρ α
  initial : σ
  Responds : σ → Exchange ρ → σ → Prop
  Drifts : σ → σ → Prop

/-- What is left of each program, all exchanges in their order with the program that each
belongs to, the values of the programs that have finished in the order in which they did,
and the surroundings.
-/
structure State {ι : Type u} (ρ : ι → Type v) (α : Type v) (κ : Type w) (σ : Type v) where
  running : κ → Program ρ α
  log : List (κ × Exchange ρ)
  finished : List (κ × α)
  surroundings : σ

variable {κ : Type w} {σ : Type v}

/-- The surroundings answer some exchanges one after the other. -/
inductive System.Serves (system : System ρ α κ σ) : σ → List (Exchange ρ) → σ → Prop where
  | nil (surroundings : σ) : Serves system surroundings [] surroundings
  | cons {before : σ} {exchange : Exchange ρ} {middle : σ} {later : List (Exchange ρ)}
    {after : σ} (responds : system.Responds before exchange middle)
    (serves : Serves system middle later after)
    : Serves system before (exchange :: later) after

/-- Exchanges are answered before others, by induction on the first ones. -/
theorem System.Serves.trans {system : System ρ α κ σ} {before middle after : σ}
    {first second : List (Exchange ρ)}
    (served : system.Serves before first middle) (serves : system.Serves middle second after)
    : system.Serves before (first ++ second) after := by
  induction served with
  | nil => exact serves
  | cons responds _ ih => exact .cons responds (ih serves)

variable [DecidableEq κ]

/-- The exchanges of one program. -/
def exchangesOf (process : κ) (log : List (κ × Exchange ρ)) : List (Exchange ρ) :=
  log.filterMap (fun entry => if entry.1 = process then some entry.2 else none)

@[simp]
theorem exchangesOf_append (process : κ) (before after : List (κ × Exchange ρ))
    : exchangesOf process (before ++ after)
      = exchangesOf process before ++ exchangesOf process after :=
  List.filterMap_append

@[simp]
theorem exchangesOf_cons_self (process : κ) (exchange : Exchange ρ)
    (later : List (κ × Exchange ρ))
    : exchangesOf process ((process, exchange) :: later)
      = exchange :: exchangesOf process later := by
  simp [exchangesOf]

theorem exchangesOf_cons_ne {process other : κ} (different : other ≠ process)
    (exchange : Exchange ρ) (later : List (κ × Exchange ρ))
    : exchangesOf process ((other, exchange) :: later) = exchangesOf process later := by
  simp [exchangesOf, different]

/-- Exchanges logged under one program are its own. -/
@[simp]
theorem exchangesOf_map_self (process : κ) (trace : List (Exchange ρ))
    : exchangesOf process (trace.map (process, ·)) = trace := by
  simp [exchangesOf, List.filterMap_map]

/-- The exchanges of a program are those that the log has under it. -/
theorem mem_exchangesOf_iff {process : κ} {log : List (κ × Exchange ρ)}
    {exchange : Exchange ρ}
    : exchange ∈ exchangesOf process log ↔ (process, exchange) ∈ log := by
  simp [exchangesOf]

namespace System

/-- A program has got an answer. -/
def answered (state : State ρ α κ σ) (process : κ) (exchange : Exchange ρ)
    (rest : Program ρ α) (after : σ)
    : State ρ α κ σ where
  running := Function.update state.running process rest
  log := state.log ++ [(process, exchange)]
  finished := state.finished ++ rest.outcome.toList.map (process, ·)
  surroundings := after

/-- One program gets an answer, or the surroundings change by themselves. -/
inductive Step (system : System ρ α κ σ) : State ρ α κ σ → State ρ α κ σ → Prop where
  | answer {state : State ρ α κ σ} {process : κ} {question : ι}
    {next : ρ question → Program ρ α} {answer : ρ question} {after : σ}
    (waits : state.running process = .ask question next)
    (responds : system.Responds state.surroundings ⟨question, answer⟩ after)
    : Step system state (answered state process ⟨question, answer⟩ (next answer) after)
  | drift {state : State ρ α κ σ} {after : σ}
    (drifts : system.Drifts state.surroundings after)
    : Step system state { state with surroundings := after }

def begin (system : System ρ α κ σ) : State ρ α κ σ where
  running := system.start
  log := []
  finished := []
  surroundings := system.initial

/-- A state that some order of steps leads to. -/
def Reachable (system : System ρ α κ σ) (state : State ρ α κ σ) : Prop :=
  Relation.ReflTransGen system.Step system.begin state

variable {system : System ρ α κ σ} {state : State ρ α κ σ}

/-- What holds at the beginning and is kept by every step holds in every reachable state. -/
theorem Reachable.invariant {holds : State ρ α κ σ → Prop}
    (reachable : system.Reachable state) (initially : holds system.begin)
    (kept : ∀ {before after}, system.Step before after → holds before → holds after)
    : holds state := by
  induction reachable with
  | refl => exact initially
  | tail _ step ih => exact kept step ih

/-- Whatever the others do, each program goes through exchanges of its own. Witness: a step
adds an answer to the exchanges of one program, and leaves those of the others as they are.
-/
theorem Reachable.reaches (reachable : system.Reachable state) (process : κ)
    : (system.start process).Reaches (exchangesOf process state.log)
        (state.running process) := by
  apply reachable.invariant (.stay _)
  intro before after step reached
  cases step with
  | drift => exact reached
  | @answer asker question next answer _ waits _ =>
      simp only [answered, exchangesOf_append]
      by_cases same : asker = process
      · subst same
        rw [waits] at reached
        rw [Function.update_self, exchangesOf_cons_self]
        exact reached.answer answer
      · rw [Function.update_of_ne (Ne.symm same), exchangesOf_cons_ne same]
        simpa [exchangesOf] using reached

/-- Every logged answer is one that the surroundings gave in an earlier state. -/
theorem Reachable.responded (reachable : system.Reachable state) {process : κ}
    {exchange : Exchange ρ} (logged : (process, exchange) ∈ state.log)
    : ∃ earlier after,
        system.Reachable earlier ∧ system.Responds earlier.surroundings exchange after := by
  induction reachable with
  | refl => cases logged
  | tail reached step ih =>
      cases step with
      | drift => exact ih logged
      | answer _ responds =>
          rcases List.mem_append.mp logged with earlier | latest
          · exact ih earlier
          · obtain ⟨-, rfl⟩ := Prod.mk.inj (List.mem_singleton.mp latest)
            exact ⟨_, _, reached, responds⟩

/-- One program alone can be taken through exchanges of its own. Witness: induction on the
exchanges, which are logged one by one.
-/
theorem exists_following {process : κ} {trace : List (Exchange ρ)} {rest : Program ρ α}
    {after : σ} (reaches : (state.running process).Reaches trace rest)
    (serves : system.Serves state.surroundings trace after)
    : ∃ final,
        Relation.ReflTransGen system.Step state final
        ∧ final.running = Function.update state.running process rest
        ∧ final.log = state.log ++ trace.map (process, ·)
        ∧ final.surroundings = after := by
  generalize left : state.running process = program at reaches
  induction reaches generalizing state with
  | stay =>
      cases serves
      exact ⟨state, .refl, by rw [← left, Function.update_eq_self], by simp, rfl⟩
  | @ask question next answer later rest _ ih =>
      cases serves with
      | @cons _ _ middle _ _ responds serves =>
          let proceeding := answered state process ⟨question, answer⟩ (next answer) middle
          obtain ⟨final, steps, running, log, surroundings⟩ :=
            @ih proceeding serves (Function.update_self ..)
          refine ⟨final, .head (.answer left responds) steps, ?_, ?_, surroundings⟩
          · rw [running]
            exact Function.update_idem ..
          · rw [log]
            simp [proceeding, answered]

-----------------------------------------------------------------------------------------
-- The programs that have finished
-----------------------------------------------------------------------------------------

/-- No program is listed as finished unless it is, or is listed twice, or is left out. -/
structure Recorded (state : State ρ α κ σ) : Prop where
  listed : ∀ {process value},
    (process, value) ∈ state.finished ↔ state.running process = .done value
  once : (state.finished.map Prod.fst).Nodup

/-- The list of the finished programs is right where none has finished at the start. -/
theorem Reachable.recorded (reachable : system.Reachable state)
    (asks : ∀ process, (system.start process).outcome = none)
    : Recorded state := by
  apply reachable.invariant
  · refine ⟨?_, List.nodup_nil⟩
    intro process value
    rw [← Program.outcome_eq_some_iff]
    simp [begin, asks]
  · intro before after step recorded
    cases step with
    | drift => exact ⟨recorded.listed, recorded.once⟩
    | @answer asker question next answer _ waits _ =>
        have unfinished : asker ∉ before.finished.map Prod.fst := by
          intro member
          obtain ⟨⟨_, value⟩, listed, rfl⟩ := List.mem_map.mp member
          have finished := recorded.listed.mp listed
          rw [waits] at finished
          cases finished
        constructor
        · intro process value
          simp only [answered, List.mem_append, List.mem_map, Option.mem_toList,
            Program.outcome_eq_some_iff, Prod.mk.injEq]
          by_cases same : process = asker
          · subst same
            rw [Function.update_self]
            constructor
            · intro listed
              rcases listed with earlier | ⟨_, finished, _, rfl⟩
              · exact absurd (List.mem_map.mpr ⟨_, earlier, rfl⟩) unfinished
              · exact finished
            · intro finished
              exact .inr ⟨value, finished, rfl, rfl⟩
          · rw [Function.update_of_ne same, ← recorded.listed]
            constructor
            · intro listed
              rcases listed with earlier | ⟨_, _, other, _⟩
              · exact earlier
              · exact absurd other.symm same
            · exact .inl
        · simp only [answered, List.map_append, List.map_map]
          cases (next answer).outcome with
          | none => simpa using recorded.once
          | some value =>
              exact List.nodup_append_comm.mp
                (List.nodup_cons.mpr ⟨unfinished, recorded.once⟩)

-----------------------------------------------------------------------------------------
-- Tokens of a supply
-----------------------------------------------------------------------------------------

/-- Some answers are tokens of a supply, which only goes forward: `drawn` tells how many of
its tokens are used up.
-/
structure Supplies {τ : Type v} (system : System ρ α κ σ) (token : Exchange ρ → Option τ)
    (supply : Nat → τ) (drawn : σ → Nat)
    : Prop where
  forward : ∀ {before exchange after},
    system.Responds before exchange after → drawn before ≤ drawn after
  draws : ∀ {before exchange after found}, system.Responds before exchange after
    → token exchange = some found → found = supply (drawn before) ∧ drawn before < drawn after
  drifts : ∀ {before after}, system.Drifts before after → drawn before ≤ drawn after

/-- The tokens that were drawn, with the program that drew each. -/
def tokens {τ : Type v} (token : Exchange ρ → Option τ) (log : List (κ × Exchange ρ))
    : List (κ × τ) :=
  log.filterMap (fun entry => (token entry.2).map (entry.1, ·))

/-- The drawn tokens are among those of the supply, in its order, whoever drew them. Witness:
a step draws the next token of the supply or none.
-/
theorem Reachable.tokens_sublist {τ : Type v} {token : Exchange ρ → Option τ}
    {supply : Nat → τ} {drawn : σ → Nat} (supplies : Supplies system token supply drawn)
    (reachable : system.Reachable state)
    : ((tokens token state.log).map Prod.snd).Sublist
        ((List.range (drawn state.surroundings)).map supply) := by
  have grows {few many : Nat} (within : few ≤ many)
      : ((List.range few).map supply).Sublist ((List.range many).map supply) :=
    (List.range_sublist.mpr within).map supply
  apply reachable.invariant (List.nil_sublist _)
  intro before after step drawnSoFar
  cases step with
  | drift drifts => exact drawnSoFar.trans (grows (supplies.drifts drifts))
  | @answer asker question next answer _ _ responds =>
      simp only [answered, tokens, List.filterMap_append, List.map_append]
      cases found : token ⟨question, answer⟩ with
      | none =>
          simpa [found, tokens] using drawnSoFar.trans (grows (supplies.forward responds))
      | some drawnNow =>
          obtain ⟨rfl, later⟩ := supplies.draws responds found
          refine List.Sublist.trans ?_ (grows later)
          rw [List.range_succ, List.map_append]
          simpa [found, tokens] using drawnSoFar.append_right [supply (drawn before.surroundings)]

/-- If the supply has not repeated so far, no two programs have drawn the same token. -/
theorem Reachable.eq_of_tokens {τ : Type v} {token : Exchange ρ → Option τ}
    {supply : Nat → τ} {drawn : σ → Nat} (supplies : Supplies system token supply drawn)
    (reachable : system.Reachable state)
    (fresh : ((List.range (drawn state.surroundings)).map supply).Nodup) {left right : κ}
    {found : τ} (byLeft : (left, found) ∈ tokens token state.log)
    (byRight : (right, found) ∈ tokens token state.log)
    : left = right := by
  have nodup := fresh.sublist (reachable.tokens_sublist supplies)
  exact congrArg Prod.fst (List.inj_on_of_nodup_map nodup byLeft byRight rfl)

-----------------------------------------------------------------------------------------
-- No program waits for another
-----------------------------------------------------------------------------------------

/-- The surroundings have an answer to every question. -/
def Responsive (system : System ρ α κ σ) : Prop :=
  ∀ surroundings question, ∃ answer after, system.Responds surroundings ⟨question, answer⟩ after

/-- From every state, each program can finish by itself, with the others left where they
are. Witness: induction on what is left of the program.
-/
theorem exists_finished (responsive : system.Responsive) (state : State ρ α κ σ) (process : κ)
    : ∃ final value,
        Relation.ReflTransGen system.Step state final
        ∧ final.running process = .done value
        ∧ ∀ other, other ≠ process → final.running other = state.running other := by
  generalize left : state.running process = program
  induction program generalizing state with
  | done value => exact ⟨state, value, .refl, left, fun _ _ => rfl⟩
  | ask question next ih =>
      obtain ⟨answer, after, responds⟩ := responsive state.surroundings question
      let proceeding := answered state process ⟨question, answer⟩ (next answer) after
      have goesOn : proceeding.running process = next answer := Function.update_self ..
      obtain ⟨final, value, steps, finished, others⟩ := ih answer proceeding goesOn
      refine ⟨final, value, .head (.answer left responds) steps, finished, ?_⟩
      intro other different
      rw [others other different]
      exact Function.update_of_ne different ..

/-- A program with a limit is never answered more often, and has finished when it was. -/
theorem Reachable.exchanges_bounded {limit : Nat} {process : κ}
    (within : Program.Within limit (system.start process)) (reachable : system.Reachable state)
    : (exchangesOf process state.log).length ≤ limit
      ∧ ((exchangesOf process state.log).length = limit
        → ∃ value, state.running process = .done value) := by
  obtain ⟨bounded, left⟩ := within.reaches (reachable.reaches process)
  refine ⟨bounded, ?_⟩
  intro exhausted
  rw [exhausted, Nat.sub_self] at left
  exact left.done_of_zero

end System

end Interleaving
