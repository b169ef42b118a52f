import Mathlib.Order.WithBot

/-! Optional limits as an order with a top: an absent limit bounds nothing, so it is wider
than every present one. Comparing bounds in this order is transitive without a case for
absent limits.
-/

universe u

namespace OptionalLimit

variable {α : Type u}

/-- The bound that an optional limit sets; an absent limit sets none. -/
def bound (limit : Option α) : WithTop α :=
  limit.elim ⊤ WithTop.some

/-- A limit is no wider than another when the other is absent, or when both are present
and ordered.
-/
theorem bound_le_bound_iff [LE α] {inner outer : Option α}
    : bound inner ≤ bound outer
      ↔ outer = none ∨ ∃ low high, inner = some low ∧ outer = some high ∧ low ≤ high := by
  cases outer with
  | none => simp [bound]
  | some high =>
      cases inner with
      | none => simp [bound]
      | some low => simp [bound]

end OptionalLimit
