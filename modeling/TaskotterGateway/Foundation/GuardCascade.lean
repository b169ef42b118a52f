import Mathlib.Data.List.Basic

/-! Ordered guards: a request is refused by the first guard it fails, and that guard's
refusal is all an observer learns. Code that returns early at each failed check computes
this function, whatever its checks and refusals are.
-/

universe u v

namespace GuardCascade

variable {σ : Type u} {ε : Type v}

/-- A check that may refuse a subject, with the refusal it then answers. -/
structure Guard (σ : Type u) (ε : Type v) where
  rejects : σ → Bool
  refusal : ε

/-- The answer of the first guard that rejects the subject, or none. -/
def firstRefusal : List (Guard σ ε) → σ → Option ε
  | [], _ => none
  | guard :: rest, subject =>
      if guard.rejects subject then some guard.refusal else firstRefusal rest subject

@[simp]
theorem firstRefusal_nil (subject : σ)
    : firstRefusal ([] : List (Guard σ ε)) subject = none :=
  rfl

@[simp]
theorem firstRefusal_cons (guard : Guard σ ε) (rest : List (Guard σ ε)) (subject : σ)
    : firstRefusal (guard :: rest) subject
      = if guard.rejects subject then some guard.refusal else firstRefusal rest subject :=
  rfl

/-- A subject passes exactly when no guard of the cascade rejects it. -/
theorem firstRefusal_eq_none_iff {guards : List (Guard σ ε)} {subject : σ}
    : firstRefusal guards subject = none
      ↔ ∀ guard ∈ guards, guard.rejects subject = false := by
  induction guards with
  | nil => simp
  | cons guard rest ih =>
      cases rejected : guard.rejects subject <;> simp [rejected, ih]

/-- An answered refusal belongs to a guard that really rejects the subject. -/
theorem exists_rejects_of_firstRefusal {guards : List (Guard σ ε)} {subject : σ} {refusal : ε}
    (refused : firstRefusal guards subject = some refusal)
    : ∃ guard ∈ guards, guard.refusal = refusal ∧ guard.rejects subject = true := by
  induction guards with
  | nil => simp at refused
  | cons guard rest ih =>
      cases rejected : guard.rejects subject with
      | true =>
          simp only [firstRefusal_cons, rejected, if_true, Option.some.injEq] at refused
          exact ⟨guard, by simp, refused, rejected⟩
      | false =>
          simp only [firstRefusal_cons, rejected, Bool.false_eq_true, if_false] at refused
          obtain ⟨later, member, same, rejects⟩ := ih refused
          exact ⟨later, by simp [member], same, rejects⟩

/-- What every guard that rejects the subject establishes for its refusal holds of the
refusal that is answered.
-/
theorem firstRefusal_elim (grounds : ε → Prop) {guards : List (Guard σ ε)} {subject : σ}
    {refusal : ε}
    (grounded
      : ∀ guard ∈ guards, guard.rejects subject = true → grounds guard.refusal)
    (refused : firstRefusal guards subject = some refusal)
    : grounds refusal := by
  obtain ⟨guard, member, same, rejects⟩ := exists_rejects_of_firstRefusal refused
  have established := grounded guard member rejects
  rw [same] at established
  exact established

/-- Subjects on which every guard agrees get the same answer: the cascade reads its
subject through its guards only.
-/
theorem firstRefusal_congr {guards : List (Guard σ ε)} {left right : σ}
    (agree : ∀ guard ∈ guards, guard.rejects left = guard.rejects right)
    : firstRefusal guards left = firstRefusal guards right := by
  induction guards with
  | nil => rfl
  | cons guard rest ih =>
      have later := ih (fun next member => agree next (by simp [member]))
      simp only [firstRefusal_cons, agree guard (by simp), later]

/-- A cascade in two parts asks the second part only where the first one passes. -/
theorem firstRefusal_append (first second : List (Guard σ ε)) (subject : σ)
    : firstRefusal (first ++ second) subject
      = (firstRefusal first subject).or (firstRefusal second subject) := by
  induction first with
  | nil => simp
  | cons guard rest ih =>
      cases rejected : guard.rejects subject <;> simp [rejected, ih]

/-- Rewriting the refusals of all guards rewrites the answer and nothing else. -/
theorem firstRefusal_map {δ : Type*} (answer : ε → δ) (guards : List (Guard σ ε)) (subject : σ)
    : firstRefusal (guards.map (fun guard => ⟨guard.rejects, answer guard.refusal⟩)) subject
      = (firstRefusal guards subject).map answer := by
  induction guards with
  | nil => rfl
  | cons guard rest ih =>
      cases rejected : guard.rejects subject <;> simp [rejected, ih]

/-- A guard that asks a condition only of one case passes exactly when that case has it. -/
theorem conditional_passes_iff {asked kept : Bool} {Asked Kept : Prop}
    (asks : asked = true ↔ Asked) (keeps : kept = true ↔ Kept)
    : (asked && !kept) = false ↔ (Asked → Kept) := by
  rw [← asks, ← keeps]
  cases asked <;> cases kept <;> simp

/-- A guard that passes under a condition rejects only where the condition fails. -/
theorem not_of_rejects {rejected : Bool} {condition : Prop}
    (passes : rejected = false ↔ condition) (rejects : rejected = true)
    : ¬ condition := by
  intro holds
  rw [passes.mpr holds] at rejects
  contradiction

/-- A cascade run as a fallible check, with the failure its refusal is rendered to. -/
def check {δ : Type*} (render : σ → ε → δ) (guards : List (Guard σ ε)) (subject : σ)
    : Except δ Unit :=
  match firstRefusal guards subject with
  | none => .ok ()
  | some refusal => .error (render subject refusal)

theorem check_nil {δ : Type*} (render : σ → ε → δ) (subject : σ)
    : check render [] subject = .ok () :=
  rfl

theorem check_cons {δ : Type*} (render : σ → ε → δ) (guard : Guard σ ε)
    (rest : List (Guard σ ε)) (subject : σ)
    : check render (guard :: rest) subject
      = if guard.rejects subject then
          .error (render subject guard.refusal)
        else
          check render rest subject := by
  unfold check
  cases rejected : guard.rejects subject <;> simp [rejected]

/-- Running two cascades one after the other runs their concatenation. -/
theorem check_append {δ : Type*} (render : σ → ε → δ) (first second : List (Guard σ ε))
    (subject : σ)
    : check render (first ++ second) subject
      = (check render first subject >>= fun _ => check render second subject) := by
  unfold check
  rw [firstRefusal_append]
  cases firstRefusal first subject <;> rfl

/-- A fallible check, asked only whether it fails. -/
def fails {α : Type*} : Except ε α → Bool
  | .ok _ => false
  | .error _ => true

@[simp]
theorem fails_ok {α : Type*} (value : α) : fails (.ok value : Except ε α) = false :=
  rfl

@[simp]
theorem fails_error {α : Type*} (error : ε) : fails (.error error : Except ε α) = true :=
  rfl

/-- A check of no value does not fail exactly when it is passed. -/
theorem fails_eq_false_iff {check : Except ε Unit} : fails check = false ↔ check = .ok () := by
  cases check <;> simp

end GuardCascade
