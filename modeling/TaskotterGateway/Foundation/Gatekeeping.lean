import TaskotterGateway.Foundation.RecordedChecks

/-! Gates answer a request by admitting it or by refusing it with an error. A gate enforces
a condition when it refuses every request without it; then it admits only requests with it.
A component that checks before it does anything else enforces what its check decides.
-/

universe u v w

namespace Gatekeeping

open RecordedChecks

variable {ρ : Type u} {ε : Type v}

/-- What is admitted and what is refused with which error; nothing is both. -/
structure Gate (ρ : Type u) (ε : Type v) where
  Admits : ρ → Prop
  Refuses : ρ → ε → Prop
  exclusive : ∀ {request error}, Refuses request error → ¬ Admits request

/-- Requests without the condition are refused, with an error of the kind. -/
structure Gate.Enforces (gate : Gate ρ ε) (condition : ρ → Prop) (kind : ε → Prop)
    : Prop where
  refuses : ∀ request, ¬ condition request → ∃ error, gate.Refuses request error ∧ kind error
  admits : ∀ request, gate.Admits request → condition request

/-- Refusing what lacks the condition is all there is to enforcing it. -/
theorem Gate.enforces_of_refuses {gate : Gate ρ ε} {condition : ρ → Prop} {kind : ε → Prop}
    (refuses : ∀ request, ¬ condition request → ∃ error, gate.Refuses request error ∧ kind error)
    : gate.Enforces condition kind where
  refuses := refuses
  admits request admitted := by
    by_contra outside
    obtain ⟨error, refused, _⟩ := refuses request outside
    exact gate.exclusive refused admitted

/-- The gate of a fallible function. Some of its errors may count as an admission. -/
def Gate.ofAnswer {α : Type w} (answer : ρ → Except ε α) (admitted : Except ε α → Prop)
    : Gate ρ ε where
  Admits request := admitted (answer request)
  Refuses request error := answer request = .error error ∧ ¬ admitted (.error error)
  exclusive refused admitted := by
    rw [refused.1] at admitted
    exact refused.2 admitted

/-- A function that refuses with the errors of a check enforces what the check decides, if
these errors are of the kind and count as no admission.
-/
theorem Gate.ofAnswer_enforces {α : Type w} {answer : ρ → Except ε α}
    {admitted : Except ε α → Prop} {verdict : ρ → Except ε Unit} {condition : ρ → Prop}
    {kind : ε → Prop}
    (decides : ∀ request, verdict request = .ok () ↔ condition request)
    (first : ∀ request error, verdict request = .error error → answer request = .error error)
    (kinds : ∀ request error, verdict request = .error error → kind error)
    (refusals : ∀ error, kind error → ¬ admitted (.error error))
    : (Gate.ofAnswer answer admitted).Enforces condition kind := by
  apply Gate.enforces_of_refuses
  intro request outside
  cases checked : verdict request with
  | ok _ => exact absurd ((decides request).mp checked) outside
  | error error =>
      have final := kinds request error checked
      exact ⟨error, ⟨first request error checked, refusals error final⟩, final⟩

end Gatekeeping
