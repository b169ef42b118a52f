import TaskotterGateway.Foundation.RecordedChecks

/-! The first error of checks in sequence. A settled check reaches one verdict, whatever
state it runs from, so a loop over settled checks errs exactly as its first faulty element
errs alone. Every error of a settled check has the grounds that its parts err on.
-/

namespace FirstErrors

open RecordedChecks

variable {ε σ α β : Type}

-----------------------------------------------------------------------------------------
-- Grounds of errors
-----------------------------------------------------------------------------------------

/-- The verdict errs on these grounds, if it errs. -/
def Grounded (grounds : ε → Prop) (verdict : Except ε α) : Prop :=
  ∀ error, verdict = .error error → grounds error

namespace Grounded

variable {grounds : ε → Prop}

theorem ok (value : α) : Grounded grounds (.ok value) := by
  intro error impossible
  cases impossible

theorem error {error : ε} (given : grounds error)
    : Grounded grounds (.error error : Except ε α) := by
  intro other same
  cases same
  exact given

theorem ite {condition : Prop} [Decidable condition] {left right : Except ε α}
    (whenTrue : Grounded grounds left) (whenFalse : Grounded grounds right)
    : Grounded grounds (if condition then left else right) := by
  split
  · exact whenTrue
  · exact whenFalse

/-- A sequence errs on the grounds of one of its parts. -/
theorem bind {first : Except ε α} {next : α → Except ε β} (early : Grounded grounds first)
    (late : ∀ value, Grounded grounds (next value))
    : Grounded grounds (first >>= next) := by
  cases first with
  | error refusal => exact .error (early refusal rfl)
  | ok value => exact late value

/-- A loop errs on the grounds of one of its verdicts, by list induction. -/
theorem each {subjects : List α} {verdict : α → Except ε Unit}
    (grounded : ∀ subject ∈ subjects, Grounded grounds (verdict subject))
    : Grounded grounds (forM subjects verdict) := by
  induction subjects with
  | nil => exact .ok ()
  | cons subject rest ih =>
      rw [List.forM_cons]
      refine .bind (grounded subject List.mem_cons_self) (fun _ => ih ?_)
      intro later member
      exact grounded later (List.mem_cons_of_mem subject member)

/-- A verdict whose errors are renamed errs on what the names say. -/
theorem mapError {δ : Type} {rename : δ → ε} {verdict : Except δ α}
    (named : ∀ error, grounds (rename error))
    : Grounded grounds (verdict.mapError rename) := by
  cases verdict with
  | error refusal => exact .error (named refusal)
  | ok value => exact .ok value

end Grounded

-----------------------------------------------------------------------------------------
-- Settled checks
-----------------------------------------------------------------------------------------

/-- The check has one verdict, whatever state it runs from, and errs on these grounds. -/
structure Settled (grounds : ε → Prop) (check : Check ε σ Unit) : Prop where
  steady : ∀ left right, (check.from left).1 = (check.from right).1
  grounded : ∀ state, Grounded grounds (check.from state).1

namespace Settled

variable {grounds : ε → Prop} {check next : Check ε σ Unit}

/-- A verdict that reads no state is settled. -/
theorem lift {verdict : Except ε Unit} (grounded : Grounded grounds verdict)
    : Settled grounds (liftM verdict : Check ε σ Unit) where
  steady _ _ := rfl
  grounded _ := grounded

theorem refuse {refusal : ε} (given : grounds refusal)
    : Settled grounds (throw refusal : Check ε σ Unit) where
  steady _ _ := rfl
  grounded _ := .error given

theorem done : Settled grounds (pure () : Check ε σ Unit) where
  steady _ _ := rfl
  grounded _ := .ok ()

/-- A change of the state is no verdict. -/
theorem mark (change : σ → σ) : Settled grounds (modify change : Check ε σ Unit) where
  steady _ _ := rfl
  grounded _ := .ok ()

/-- Settled checks in sequence are settled: only the second one runs from a state that the
first one has changed.
-/
theorem andThen (first : Settled grounds check) (second : Settled grounds next)
    : Settled grounds (check >>= fun _ => next) where
  steady left right := by
    have same := first.steady left right
    rw [Check.from_bind, Check.from_bind, ← same]
    cases (Check.from check left).1 with
    | error refusal => rfl
    | ok _ => exact second.steady _ _
  grounded state := by
    rw [Check.from_bind]
    cases answer : (Check.from check state).1 with
    | error refusal => exact .error (first.grounded state refusal answer)
    | ok _ => exact second.grounded _

/-- A computation that reads no state hands its value to settled checks. -/
theorem bindLift {result : Except ε β} {following : β → Check ε σ Unit}
    (grounded : Grounded grounds result)
    (settled : ∀ value, Settled grounds (following value))
    : Settled grounds (liftM result >>= following) := by
  cases result with
  | error refusal => exact refuse (grounded refusal rfl)
  | ok value => exact settled value

theorem ite {condition : Prop} [Decidable condition] (whenTrue : Settled grounds check)
    (whenFalse : Settled grounds next)
    : Settled grounds (if condition then check else next) := by
  split
  · exact whenTrue
  · exact whenFalse

theorem failIf {refusal : ε} (fails : Bool) (given : grounds refusal)
    : Settled grounds (Check.failIf fails refusal : Check ε σ Unit) :=
  .ite (.refuse given) .done

/-- A loop over settled checks reaches the verdict of the loop over what each one reaches
alone. Witness: list induction.
-/
theorem forM_verdict {subjects : List α} {check : α → Check ε σ Unit}
    {grounds : α → ε → Prop} (settled : ∀ subject, Settled (grounds subject) (check subject))
    (start state : σ)
    : ((forM subjects check : Check ε σ Unit).from state).1
      = forM subjects (fun subject => ((check subject).from start).1) := by
  induction subjects generalizing state with
  | nil => rfl
  | cons subject rest ih =>
      rw [List.forM_cons, List.forM_cons, Check.from_bind,
        (settled subject).steady state start]
      cases ((check subject).from start).1 with
      | error refusal => rfl
      | ok _ => exact ih _

end Settled

-----------------------------------------------------------------------------------------
-- The first error of a loop
-----------------------------------------------------------------------------------------

/-- A loop of verdicts errs exactly as its first faulty one, and what comes after that one
has no part in it. Witness: list induction.
-/
theorem forM_error_iff {subjects : List α} {verdict : α → Except ε Unit} {error : ε}
    : forM subjects verdict = .error error
      ↔ ∃ before faulty after,
          subjects = before ++ faulty :: after
          ∧ (∀ earlier ∈ before, verdict earlier = .ok ())
          ∧ verdict faulty = .error error := by
  induction subjects with
  | nil =>
      constructor
      · intro impossible
        cases impossible
      · intro split
        obtain ⟨before, faulty, after, impossible, _⟩ := split
        simp at impossible
  | cons subject rest ih =>
      simp only [List.forM_cons, List.cons_eq_append_iff]
      cases answer : verdict subject with
      | error refusal =>
          constructor
          · intro same
            exact ⟨[], subject, rest, .inl ⟨rfl, rfl⟩, nofun, answer.trans same⟩
          · intro split
            obtain ⟨before, faulty, after, places, passed, refused⟩ := split
            rcases places with ⟨rfl, same⟩ | ⟨earlier, rfl, _⟩
            · obtain ⟨rfl, rfl⟩ := List.cons.inj same
              exact answer.symm.trans refused
            · have passes := passed subject List.mem_cons_self
              rw [answer] at passes
              contradiction
      | ok _ =>
          refine ih.trans ⟨?_, ?_⟩
          · intro split
            obtain ⟨before, faulty, after, rfl, passed, refused⟩ := split
            refine ⟨subject :: before, faulty, after, .inr ⟨before, rfl, rfl⟩, ?_, refused⟩
            exact List.forall_mem_cons.mpr ⟨answer, passed⟩
          · intro split
            obtain ⟨before, faulty, after, places, passed, refused⟩ := split
            rcases places with ⟨rfl, same⟩ | ⟨earlier, rfl, same⟩
            · obtain ⟨rfl, rfl⟩ := List.cons.inj same
              rw [answer] at refused
              contradiction
            · exact ⟨earlier, faulty, after, same, (List.forall_mem_cons.mp passed).2, refused⟩

end FirstErrors
