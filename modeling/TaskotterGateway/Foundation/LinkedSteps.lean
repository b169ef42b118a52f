import Mathlib.Data.List.Chain

/-! Runs of steps linked end to end. A transitive relation that every step keeps between
what it starts from and what it leaves behind reaches across a run of any length.
-/

universe u v

namespace LinkedSteps

variable {α : Type u} {β : Type v} {before after : α → β}

/-- Each step of a linked run is related to the start of the run. Witness: induction on
the run, composing the relation of the remaining run with that of its first step.
-/
theorem related_to_start (related : β → β → Prop) {first : α} {rest : List α}
    (trans : ∀ {later middle start}, related later middle → related middle start
      → related later start)
    (linked : List.IsChain (fun step next => before next = after step) (first :: rest))
    (kept : ∀ step ∈ first :: rest, related (after step) (before step))
    : ∀ step ∈ first :: rest, related (after step) (before first) := by
  induction rest generalizing first with
  | nil =>
      intro step member
      rw [List.mem_singleton.mp member]
      exact kept first (by simp)
  | cons next more ih =>
      obtain ⟨seam, linked⟩ := List.isChain_cons_cons.mp linked
      have later := ih linked (fun step member => kept step (List.mem_cons_of_mem first member))
      intro step member
      rcases List.mem_cons.mp member with same | member
      · rw [same]
        exact kept first (by simp)
      · have toSeam := later step member
        rw [seam] at toSeam
        exact trans toSeam (kept first (by simp))

end LinkedSteps
