import Mathlib.Data.List.Basic

/-! Allow lists in which the empty list means "unrestricted" and an absent value is never
on a restricting list.
-/

universe u

namespace AllowList

variable {α : Type u} {allowed : List α} {value : Option α}

/-- The list restricts nothing, or the value is present and on it. -/
def Admits (allowed : List α) (value : Option α) : Prop :=
  allowed = [] ∨ ∃ present, value = some present ∧ present ∈ allowed

/-- A present value is admitted by an empty list or by membership. -/
@[simp]
theorem admits_some_iff {present : α}
    : Admits allowed (some present) ↔ allowed = [] ∨ present ∈ allowed := by
  simp [Admits]

/-- Not admitted is what no entry of a restricting list names. -/
theorem not_admits_iff
    : ¬ Admits allowed value ↔ allowed ≠ [] ∧ ∀ named ∈ allowed, value ≠ some named := by
  rw [Admits, not_or, not_exists]
  refine and_congr_right' (forall_congr' (fun named => ?_))
  rw [not_and', ne_eq]

/-- Searching a list for an equal element decides membership. -/
theorem any_beq_iff [BEq α] [LawfulBEq α] {present : α}
    : allowed.any (· == present) = true ↔ present ∈ allowed := by
  simp only [List.any_eq_true, beq_iff_eq, exists_eq_right]

/-- The emptiness and membership tests that code makes of a list refuse exactly the
values that the list does not admit.
-/
theorem tests_eq_false_iff [BEq α] [LawfulBEq α]
    : (!allowed.isEmpty && !value.any (fun present => allowed.any (· == present))) = false
      ↔ Admits allowed value := by
  rw [Bool.and_eq_false_iff, Bool.not_eq_false', Bool.not_eq_false', List.isEmpty_iff,
    Option.any_eq_true]
  simp only [any_beq_iff, Admits]

/-- The same tests for a value that is always present. -/
theorem tests_some_eq_false_iff [BEq α] [LawfulBEq α] {present : α}
    : (!allowed.isEmpty && !allowed.any (· == present)) = false
      ↔ allowed = [] ∨ present ∈ allowed :=
  tests_eq_false_iff.trans admits_some_iff

/-- The tests in which an absent value counts as not on the list. -/
theorem absent_tests_eq_false_iff [BEq α] [LawfulBEq α]
    : (!allowed.isEmpty && value.all (fun present => !allowed.contains present)) = false
      ↔ Admits allowed value := by
  rw [← tests_eq_false_iff]
  cases value with
  | none => simp
  | some present => simp [BEq.comm]

theorem contains_tests_eq_false_iff [BEq α] [LawfulBEq α] {present : α}
    : (!allowed.isEmpty && !allowed.contains present) = false
      ↔ Admits allowed (some present) :=
  @absent_tests_eq_false_iff _ allowed (some present) _ _

/-- The lists have the same members, in whatever order and however often. -/
def SameMembers (left right : List α) : Prop :=
  ∀ value, value ∈ left ↔ value ∈ right

namespace SameMembers

variable {left right : List α}

theorem any_eq (same : SameMembers left right) (asks : α → Bool)
    : left.any asks = right.any asks := by
  rw [Bool.eq_iff_iff, List.any_eq_true, List.any_eq_true]
  exact exists_congr (fun value => and_congr_left' (same value))

theorem contains_eq [BEq α] [LawfulBEq α] (same : SameMembers left right) (value : α)
    : left.contains value = right.contains value := by
  rw [Bool.eq_iff_iff, List.contains_iff_mem, List.contains_iff_mem]
  exact same value

theorem isEmpty_eq (same : SameMembers left right) : left.isEmpty = right.isEmpty := by
  rw [Bool.eq_iff_iff, List.isEmpty_iff, List.isEmpty_iff, List.eq_nil_iff_forall_not_mem,
    List.eq_nil_iff_forall_not_mem]
  exact forall_congr' (fun value => not_congr (same value))

end SameMembers

/-- The list gains members and loses none, and stays empty if it was: adding a member to a
list that restricts nothing would restrict it.
-/
structure Extends (left right : List α) : Prop where
  subset : left ⊆ right
  unrestricted : left = [] → right = []

namespace Extends

variable {left right : List α}

theorem ne_nil (grown : Extends left right) (restricting : left ≠ []) : right ≠ [] := by
  obtain ⟨present, member⟩ := List.exists_mem_of_ne_nil left restricting
  exact List.ne_nil_of_mem (grown.subset member)

/-- What a list admits stays admitted when the list is extended. -/
theorem admits (grown : Extends left right) (admitted : Admits left value)
    : Admits right value := by
  rcases admitted with empty | ⟨present, same, member⟩
  · exact .inl (grown.unrestricted empty)
  · exact .inr ⟨present, same, grown.subset member⟩

end Extends

/-- The list restricts nothing any more, or restricts as before, to the same members and
others.
-/
def Eases (left right : List α) : Prop :=
  right = [] ∨ left ≠ [] ∧ left ⊆ right

/-- What a list admits stays admitted when the list is eased. -/
theorem Eases.admits {left right : List α} (eased : Eases left right)
    (admitted : Admits left value)
    : Admits right value := by
  rcases eased with dropped | ⟨restricting, wider⟩
  · exact .inl dropped
  · obtain ⟨present, same, member⟩ := admitted.resolve_left restricting
    exact .inr ⟨present, same, wider member⟩

end AllowList
