import Mathlib.Data.Finset.Card
import Mathlib.Data.List.Perm.Basic
import Mathlib.Data.Multiset.ZeroCons

/-! Keeping one item for each key, the one that arrives first. Which keys are kept does not
depend on the order of arrival; what is kept under them does, unless the items that share a
key agree.
-/

universe u v w

namespace Deduplication

variable {α : Type u} {κ : Type v} {β : Type w} [DecidableEq κ] {key : α → κ}

/-- The first item for each key, in the order of arrival. -/
def keepFirst (key : α → κ) : List α → List α
  | [] => []
  | item :: rest => item :: (keepFirst key rest).filter (fun later => key later ≠ key item)

theorem keepFirst_sublist (items : List α) : (keepFirst key items).Sublist items := by
  induction items with
  | nil => exact .slnil
  | cons item rest ih => exact (List.filter_sublist.trans ih).cons_cons item

/-- The keys of the kept items are those of all items, by list induction. -/
theorem mem_keys_keepFirst_iff {items : List α} {found : κ}
    : found ∈ (keepFirst key items).map key ↔ found ∈ items.map key := by
  induction items with
  | nil => rfl
  | cons item rest ih =>
      simp only [List.mem_map] at ih
      simp only [keepFirst, List.map_cons, List.mem_cons, List.mem_map, List.mem_filter,
        decide_eq_true_eq, ← ih]
      constructor
      · intro kept
        rcases kept with first | ⟨later, ⟨member, _⟩, rfl⟩
        · exact .inl first
        · exact .inr ⟨later, member, rfl⟩
      · intro kept
        rcases kept with first | ⟨later, member, rfl⟩
        · exact .inl first
        · by_cases shared : key later = key item
          · exact .inl shared
          · exact .inr ⟨later, ⟨member, shared⟩, rfl⟩

/-- No two kept items share a key, by list induction. -/
theorem keys_keepFirst_nodup (items : List α) : ((keepFirst key items).map key).Nodup := by
  induction items with
  | nil => exact List.nodup_nil
  | cons item rest ih =>
      rw [keepFirst, List.map_cons, List.nodup_cons]
      constructor
      · intro repeated
        obtain ⟨later, kept, shared⟩ := List.mem_map.mp repeated
        have other := (List.mem_filter.mp kept).2
        simp [shared] at other
      · exact ih.sublist (List.filter_sublist.map key)

/-- As many items are kept as there are keys. -/
theorem length_keepFirst (items : List α)
    : (keepFirst key items).length = (items.map key).toFinset.card := by
  have same : (items.map key).toFinset = ((keepFirst key items).map key).toFinset := by
    ext found
    rw [List.mem_toFinset, List.mem_toFinset, mem_keys_keepFirst_iff]
  rw [same, List.toFinset_card_of_nodup (keys_keepFirst_nodup items), List.length_map]

/-- Items whose keys are all different, and are those of no other items, count each by itself.
-/
theorem card_keys_of_fresh {items : List α} {known : α → Bool}
    (distinct : ((items.filter (fun item => !known item)).map key).Nodup)
    (apart : ∀ left ∈ items, ∀ right ∈ items,
      known left = true → known right = false → key left ≠ key right)
    : (items.map key).toFinset.card
      = ((items.filter known).map key).toFinset.card
        + (items.filter (fun item => !known item)).length := by
  have split : (items.map key).toFinset
      = ((items.filter known).map key).toFinset
        ∪ ((items.filter (fun item => !known item)).map key).toFinset := by
    ext found
    simp only [Finset.mem_union, List.mem_toFinset, List.mem_map, List.mem_filter,
      Bool.not_eq_true']
    constructor
    · intro keyed
      obtain ⟨item, member, rfl⟩ := keyed
      cases which : known item with
      | true => exact .inl ⟨item, ⟨member, which⟩, rfl⟩
      | false => exact .inr ⟨item, ⟨member, which⟩, rfl⟩
    · intro keyed
      rcases keyed with ⟨item, ⟨member, _⟩, rfl⟩ | ⟨item, ⟨member, _⟩, rfl⟩
      · exact ⟨item, member, rfl⟩
      · exact ⟨item, member, rfl⟩
  have disjoint : Disjoint ((items.filter known).map key).toFinset
      ((items.filter (fun item => !known item)).map key).toFinset := by
    rw [Finset.disjoint_left]
    intro found left right
    simp only [List.mem_toFinset, List.mem_map, List.mem_filter, Bool.not_eq_true'] at left right
    obtain ⟨one, ⟨inOne, isKnown⟩, rfl⟩ := left
    obtain ⟨other, ⟨inOther, unknown⟩, same⟩ := right
    exact apart one inOne other inOther isKnown unknown same.symm
  rw [split, Finset.card_union_of_disjoint disjoint, List.toFinset_card_of_nodup distinct,
    List.length_map]

/-- Which keys are kept does not depend on the order of arrival. -/
theorem keys_keepFirst_perm {items arrival : List α} (reordered : arrival.Perm items)
    : ((keepFirst key arrival).map key).Perm ((keepFirst key items).map key) := by
  rw [List.perm_ext_iff_of_nodup (keys_keepFirst_nodup _) (keys_keepFirst_nodup _)]
  intro found
  rw [mem_keys_keepFirst_iff, mem_keys_keepFirst_iff]
  exact (reordered.map key).mem_iff

/-- Dropping keys before or after keeping one item for each makes no difference. -/
theorem filter_keepFirst (key : α → κ) (wanted : κ → Bool) (items : List α)
    : (keepFirst key items).filter (fun item => wanted (key item))
      = keepFirst key (items.filter (fun item => wanted (key item))) := by
  induction items with
  | nil => rfl
  | cons item rest ih =>
      cases want : wanted (key item) with
      | true =>
          simp only [keepFirst, List.filter_cons, want, if_true]
          rw [List.filter_comm, ih]
      | false =>
          simp only [keepFirst, List.filter_cons, want, Bool.false_eq_true, if_false]
          rw [List.filter_filter, ← ih]
          apply List.filter_congr
          intro later _
          by_cases shared : key later = key item
          · simp [shared, want]
          · simp [shared]

/-- Items that share a key agree on what is recorded of them. -/
def Agree (key : α → κ) (record : α → β) (items : List α) : Prop :=
  ∀ left ∈ items, ∀ right ∈ items, key left = key right → record left = record right

/-- Where the items agree, their keys determine what is recorded. -/
theorem Agree.records_perm {record : α → β} {items arrival : List α}
    (agree : Agree key record items) (reordered : arrival.Perm items)
    : ((keepFirst key arrival).map record).Perm ((keepFirst key items).map record) := by
  have recorded : ∃ recordOf : κ → Option β, ∀ item ∈ items,
      recordOf (key item) = some (record item) := by
    refine ⟨fun wanted => (items.find? (fun item => key item = wanted)).map record, ?_⟩
    intro item member
    have present : (items.find? (fun other => key other = key item)).isSome = true :=
      List.find?_isSome.mpr ⟨item, member, by simp⟩
    obtain ⟨other, found⟩ := Option.isSome_iff_exists.mp present
    have shared : key other = key item := by simpa using List.find?_some found
    simp only [found, Option.map_some,
      agree other (List.mem_of_find?_eq_some found) item member shared]
  obtain ⟨recordOf, reads⟩ := recorded
  have keyed (kept : List α) (among : ∀ item ∈ kept, item ∈ items)
      : (kept.map record).map some = (kept.map key).map recordOf := by
    rw [List.map_map, List.map_map]
    apply List.map_congr_left
    intro item member
    exact (reads item (among item member)).symm
  rw [← List.map_perm_map_iff (Option.some_injective β), keyed, keyed]
  · exact (keys_keepFirst_perm reordered).map recordOf
  · exact fun item kept => (keepFirst_sublist items).subset kept
  · exact fun item kept => reordered.subset ((keepFirst_sublist arrival).subset kept)

/-- What is kept when an item arrives first, up to the order of the others. -/
theorem exists_arrival_of_mem (key : α → κ) {items : List α} {item : α}
    (member : item ∈ items)
    : ∃ arrival, arrival.Perm items
      ∧ keepFirst key arrival
        = item :: keepFirst key (items.filter (fun other => key other ≠ key item)) := by
  obtain ⟨before, after, rfl⟩ := List.append_of_mem member
  refine ⟨item :: (before ++ after), List.perm_middle.symm, ?_⟩
  have others := filter_keepFirst key (fun found => decide (found ≠ key item))
    (before ++ after)
  rw [keepFirst, others]
  simp

/-- What is recorded does not depend on the order of arrival exactly if the items agree.
Witness: two items that share a key can both arrive first, and the others are then kept alike.
-/
theorem records_perm_iff {record : α → β} {items : List α}
    : (∀ arrival, arrival.Perm items
        → ((keepFirst key arrival).map record).Perm ((keepFirst key items).map record))
      ↔ Agree key record items := by
  constructor
  · intro stable left inLeft right inRight shared
    obtain ⟨leftFirst, leftPerm, keptLeft⟩ := exists_arrival_of_mem key inLeft
    obtain ⟨rightFirst, rightPerm, keptRight⟩ := exists_arrival_of_mem key inRight
    have same := (stable leftFirst leftPerm).trans (stable rightFirst rightPerm).symm
    rw [keptLeft, keptRight, shared, List.map_cons, List.map_cons, ← Multiset.coe_eq_coe,
      ← Multiset.cons_coe, ← Multiset.cons_coe, Multiset.cons_inj_left] at same
    exact same
  · intro agree arrival reordered
    exact agree.records_perm reordered

end Deduplication
