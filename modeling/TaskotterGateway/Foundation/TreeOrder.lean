import Mathlib.Data.List.Basic

/-! Tree orders, and the order of separated paths: a path lies below another when it is
that path or continues it past a separator. Comparing whole segments is what keeps a path
apart from its siblings that merely start with the same letters.
-/

universe u v

/-- A partial order whose ancestor sets are chains: any two elements above a common one
are comparable, as in a forest read from the leaves to the roots.
-/
structure TreeOrder {α : Type u} (below : α → α → Prop) : Prop where
  refl : ∀ node, below node node
  trans : ∀ {lower middle upper}, below lower middle → below middle upper → below lower upper
  antisymm : ∀ {left right}, below left right → below right left → left = right
  comparable
    : ∀ {node left right},
        below node left
        → below node right
        → below left right ∨ below right left

/-- Tree orders pull back along injective readings of their elements. -/
theorem TreeOrder.comap {α : Type u} {β : Type v} {below : β → β → Prop} {read : α → β}
    (order : TreeOrder below) (injective : Function.Injective read)
    : TreeOrder (fun lower upper => below (read lower) (read upper)) where
  refl node := order.refl (read node)
  trans lower upper := order.trans lower upper
  antisymm left right := injective (order.antisymm left right)
  comparable left right := order.comparable left right

namespace SeparatedPath

variable {α : Type u} {sep : α} {path left right lower middle upper : List α}

/-- `path` is `ancestor` itself or continues it past a separator. -/
def Descends (sep : α) (path ancestor : List α) : Prop :=
  path = ancestor ∨ ∃ tail, path = ancestor ++ sep :: tail

/-- An ancestor is a prefix of every path below it. -/
theorem Descends.prefix (below : Descends sep path upper) : upper <+: path := by
  rcases below with rfl | ⟨tail, rfl⟩
  · exact List.prefix_rfl
  · exact List.prefix_append upper (sep :: tail)

/-- Continuing a continuation past a separator continues the first path. -/
theorem Descends.trans (below : Descends sep lower middle) (above : Descends sep middle upper)
    : Descends sep lower upper := by
  rcases above with rfl | ⟨tail, rfl⟩
  · exact below
  rcases below with rfl | ⟨more, rfl⟩
  · exact Or.inr ⟨tail, rfl⟩
  · exact Or.inr ⟨tail ++ sep :: more, by simp⟩

/-- Paths below one another coincide, since each is a prefix of the other. -/
theorem Descends.antisymm (below : Descends sep left right) (above : Descends sep right left)
    : left = right :=
  above.prefix.eq_of_length_le below.prefix.length_le

/-- A path's ancestors of increasing length lie below one another. Witness: the longer
one is a prefix of the path, so the letter it has after the shorter one is the separator
that the path has there.
-/
theorem Descends.of_prefix (shorter : Descends sep path upper)
    (longer : Descends sep path lower) (shared : upper <+: lower)
    : Descends sep lower upper := by
  obtain ⟨rest, rfl⟩ := shared
  cases rest with
  | nil => exact Or.inl (List.append_nil upper)
  | cons next rest =>
      obtain ⟨tail, rfl⟩ := longer.prefix
      rcases shorter with same | ⟨more, same⟩
      · have lengths := congrArg List.length same
        simp only [List.length_append, List.length_cons] at lengths
        omega
      · simp only [List.append_assoc, List.append_cancel_left_eq, List.cons_append,
          List.cons.injEq] at same
        obtain ⟨rfl, -⟩ := same
        exact Or.inr ⟨rest, rfl⟩

/-- Both ancestors of a path are prefixes of it, hence comparable. -/
theorem Descends.comparable (below : Descends sep path left) (above : Descends sep path right)
    : Descends sep left right ∨ Descends sep right left := by
  rcases List.prefix_or_prefix_of_prefix below.prefix above.prefix with shorter | longer
  · exact Or.inr (below.of_prefix above shorter)
  · exact Or.inl (above.of_prefix below longer)

/-- Separated paths form a tree order over any alphabet. -/
theorem descends_treeOrder (sep : α) : TreeOrder (Descends sep) where
  refl _ := Or.inl rfl
  trans := Descends.trans
  antisymm := Descends.antisymm
  comparable := Descends.comparable

/-- A path without separators has no proper ancestor. -/
theorem Descends.eq_of_sep_notMem (below : Descends sep path upper) (single : sep ∉ path)
    : path = upper := by
  rcases below with same | ⟨tail, rfl⟩
  · exact same
  · exact absurd (by simp) single

end SeparatedPath
