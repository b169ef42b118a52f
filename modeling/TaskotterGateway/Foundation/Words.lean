import Mathlib.Data.List.Basic

/-! Words between separators, and the lists that words spell. Splitting forgets which
separators stood between two words, and how many; joining the words gives a list back
exactly if there was nothing to forget.
-/

universe u

namespace Words

variable {α : Type u} {separates : α → Bool} {space : α}

/-- The nonempty stretches of a list between its separators. -/
def wordsOf (separates : α → Bool) (items : List α) : List (List α) :=
  (items.splitOnP separates).filter (fun word => !word.isEmpty)

/-- A nonempty stretch without separators. -/
structure IsWord (separates : α → Bool) (word : List α) : Prop where
  nonempty : word ≠ []
  visible : ∀ item ∈ word, separates item = false

theorem IsWord.singleton {item : α} (visible : separates item = false)
    : IsWord separates [item] :=
  ⟨by simp, by simpa using visible⟩

/-- A visible item makes a word longer. -/
theorem IsWord.cons {item : α} {word : List α} (isWord : IsWord separates word)
    (visible : separates item = false)
    : IsWord separates (item :: word) := by
  refine ⟨by simp, ?_⟩
  rw [List.forall_mem_cons]
  exact ⟨visible, isWord.visible⟩

/-- No item but separators stands outside the words, and only one space stands between two
of them: a space never starts the list, and what follows it is a word.
-/
structure Spaced (separates : α → Bool) (space : α) (items : List α) : Prop where
  starts : ∀ first ∈ items.head?, separates first = false
  separated : ∀ item rest, item :: rest <:+ items
    → separates item = true
    → item = space ∧ ∃ next ∈ rest.head?, separates next = false

/-- No stretch between separators has a separator, by list induction. -/
theorem visible_of_mem_splitOnP {items word : List α} (member : word ∈ items.splitOnP separates)
    : ∀ item ∈ word, separates item = false := by
  induction items generalizing word with
  | nil =>
      rw [List.splitOnP_nil, List.mem_singleton] at member
      simp [member]
  | cons first rest ih =>
      rw [List.splitOnP_cons_eq_if_modifyHead] at member
      cases separator : separates first with
      | true =>
          rw [if_pos separator] at member
          rcases List.mem_cons.mp member with rfl | later
          · simp
          · exact ih later
      | false =>
          obtain ⟨word', words, pieces⟩ :=
            List.exists_cons_of_ne_nil (List.splitOnP_ne_nil separates rest)
          rw [if_neg (by simp [separator]), pieces, List.modifyHead_cons] at member
          rcases List.mem_cons.mp member with rfl | later
          · rw [List.forall_mem_cons]
            exact ⟨separator, ih (pieces ▸ List.mem_cons_self)⟩
          · exact ih (pieces ▸ List.mem_cons_of_mem _ later)

/-- What is split off are words. -/
theorem isWord_of_mem_wordsOf {items word : List α} (member : word ∈ wordsOf separates items)
    : IsWord separates word := by
  obtain ⟨piece, nonempty⟩ := List.mem_filter.mp member
  exact ⟨by simpa using nonempty, visible_of_mem_splitOnP piece⟩

/-- A visible item stands in some stretch between separators, by list induction. -/
theorem wordsOf_ne_nil {items : List α} {item : α} (member : item ∈ items)
    (visible : separates item = false)
    : wordsOf separates items ≠ [] := by
  have stands : ∃ word ∈ items.splitOnP separates, word ≠ [] := by
    induction items with
    | nil => contradiction
    | cons head tail ih =>
        rw [List.splitOnP_cons_eq_if_modifyHead]
        cases separator : separates head with
        | true =>
            have later : item ∈ tail := by
              rcases List.mem_cons.mp member with rfl | later
              · rw [separator] at visible
                contradiction
              · exact later
            obtain ⟨word, found, nonempty⟩ := ih later
            exact ⟨word, List.mem_cons_of_mem _ found, nonempty⟩
        | false =>
            obtain ⟨first, rest, pieces⟩ :=
              List.exists_cons_of_ne_nil (List.splitOnP_ne_nil separates tail)
            refine ⟨head :: first, ?_, List.cons_ne_nil _ _⟩
            simp [pieces]
  obtain ⟨word, found, nonempty⟩ := stands
  apply List.ne_nil_of_mem
  exact List.mem_filter.mpr ⟨found, by simpa using nonempty⟩

/-- A separator separates words: no word crosses it. -/
theorem wordsOf_append_cons (left right : List α) (separator : separates space = true)
    : wordsOf separates (left ++ space :: right)
      = wordsOf separates left ++ wordsOf separates right := by
  rw [wordsOf, List.splitOnP_append_cons _ _ separator, List.filter_append]
  rfl

/-- A word is its only word. -/
theorem IsWord.wordsOf_eq {word : List α} (isWord : IsWord separates word)
    : wordsOf separates word = [word] := by
  rw [wordsOf, List.splitOnP_eq_singleton isWord.visible]
  simp [isWord.nonempty]

/-- Splitting reads joined words back, by induction on the words. -/
theorem wordsOf_intercalate {words : List (List α)} (separator : separates space = true)
    (areWords : ∀ word ∈ words, IsWord separates word)
    : wordsOf separates ([space].intercalate words) = words := by
  induction words with
  | nil => rfl
  | cons word rest ih =>
      obtain ⟨isWord, later⟩ := List.forall_mem_cons.mp areWords
      cases rest with
      | nil => rw [List.intercalate_singleton, isWord.wordsOf_eq]
      | cons next more =>
          rw [List.intercalate_cons_cons, List.append_assoc, List.singleton_append,
            wordsOf_append_cons _ _ separator, isWord.wordsOf_eq, ih later]
          rfl

/-- A word before a space and a spaced rest, by induction on the word. -/
theorem Spaced.of_word_append {word rest : List α} (isWord : IsWord separates word)
    (spaced : Spaced separates space rest) (nonempty : rest ≠ [])
    : Spaced separates space (word ++ space :: rest) := by
  constructor
  · intro first atHead
    obtain ⟨letter, letters, rfl⟩ := List.exists_cons_of_ne_nil isWord.nonempty
    rw [List.cons_append, List.head?_cons, Option.mem_some_iff] at atHead
    exact isWord.visible first (by simp [atHead])
  · intro item after suffix separator
    have visible := isWord.visible
    clear isWord
    induction word with
    | nil =>
        rcases List.suffix_cons_iff.mp suffix with same | later
        · obtain ⟨rfl, rfl⟩ := List.cons.inj same
          obtain ⟨next, more, rfl⟩ := List.exists_cons_of_ne_nil nonempty
          exact ⟨rfl, next, rfl, spaced.starts next rfl⟩
        · exact spaced.separated item after later separator
    | cons letter letters ih =>
        obtain ⟨first, others⟩ := List.forall_mem_cons.mp visible
        rcases List.suffix_cons_iff.mp suffix with same | later
        · obtain ⟨rfl, _⟩ := List.cons.inj same
          rw [first] at separator
          contradiction
        · exact ih later others

theorem IsWord.spaced {word : List α} (isWord : IsWord separates word)
    : Spaced separates space word := by
  constructor
  · intro first atHead
    exact isWord.visible first (List.mem_of_mem_head? atHead)
  · intro item after suffix separator
    rw [isWord.visible item (suffix.subset List.mem_cons_self)] at separator
    contradiction

/-- Joined words are spaced, by induction on the words. -/
theorem spaced_intercalate {words : List (List α)}
    (areWords : ∀ word ∈ words, IsWord separates word)
    : Spaced separates space ([space].intercalate words) := by
  induction words with
  | nil => exact ⟨by simp, by simp⟩
  | cons word rest ih =>
      obtain ⟨isWord, later⟩ := List.forall_mem_cons.mp areWords
      cases rest with
      | nil =>
          rw [List.intercalate_singleton]
          exact isWord.spaced
      | cons next more =>
          rw [List.intercalate_cons_cons, List.append_assoc, List.singleton_append]
          apply Spaced.of_word_append isWord (ih later)
          obtain ⟨letter, letters, rfl⟩ :=
            List.exists_cons_of_ne_nil (later next List.mem_cons_self).nonempty
          simp [List.intercalate_cons_cons_left]

/-- A visible item extends the first of the words that follow it, or is a word of its own. -/
theorem exists_words_cons {first : α} {words : List (List α)}
    (visible : separates first = false) (areWords : ∀ word ∈ words, IsWord separates word)
    : ∃ extended : List (List α),
        (∀ word ∈ extended, IsWord separates word)
        ∧ [space].intercalate extended = first :: [space].intercalate words := by
  cases words with
  | nil => exact ⟨[[first]], by simpa using IsWord.singleton visible, rfl⟩
  | cons word more =>
      obtain ⟨isWord, later⟩ := List.forall_mem_cons.mp areWords
      refine ⟨(first :: word) :: more, ?_, List.intercalate_cons_cons_left⟩
      rw [List.forall_mem_cons]
      exact ⟨isWord.cons visible, later⟩

/-- A list whose separators are all spaces before a word spells words, after at most one
space. Witness: list induction; a visible item extends the first word of the rest, or
starts a new one before a space.
-/
theorem exists_words_of_separated {items : List α} (separator : separates space = true)
    (separated : ∀ item rest, item :: rest <:+ items
      → separates item = true
      → item = space ∧ ∃ next ∈ rest.head?, separates next = false)
    : ∃ words : List (List α),
        (∀ word ∈ words, IsWord separates word)
        ∧ (items = [space].intercalate words
          ∨ items = space :: [space].intercalate words) := by
  induction items with
  | nil => exact ⟨[], by simp, .inl rfl⟩
  | cons first rest ih =>
      obtain ⟨words, areWords, spelled⟩ :=
        ih (fun item more suffix => separated item more (suffix.trans (List.suffix_cons _ _)))
      cases visible : separates first with
      | true =>
          obtain ⟨rfl, next, atHead, seen⟩ := separated first rest List.suffix_rfl visible
          rcases spelled with rfl | rfl
          · exact ⟨words, areWords, .inr rfl⟩
          · rw [List.head?_cons, Option.mem_some_iff] at atHead
            rw [← atHead, separator] at seen
            contradiction
      | false =>
          rcases spelled with rfl | rfl
          · obtain ⟨extended, areExtended, same⟩ := exists_words_cons visible areWords
            exact ⟨extended, areExtended, .inl same.symm⟩
          · have followed : words ≠ [] := by
              rintro rfl
              obtain ⟨_, next, atHead, _⟩ :=
                separated space [] (List.suffix_cons _ _) separator
              contradiction
            refine ⟨[first] :: words, ?_, .inl ?_⟩
            · rw [List.forall_mem_cons]
              exact ⟨.singleton visible, areWords⟩
            · rw [List.intercalate_cons_of_ne_nil followed]
              rfl

/-- Joining the words of a list with a space gives the list back exactly if it is spaced.
Witness: a spaced list spells words, and splitting reads these back.
-/
theorem intercalate_wordsOf_iff {items : List α} (separator : separates space = true)
    : [space].intercalate (wordsOf separates items) = items
      ↔ Spaced separates space items := by
  constructor
  · intro joined
    rw [← joined]
    exact spaced_intercalate (fun _ member => isWord_of_mem_wordsOf member)
  · intro spaced
    obtain ⟨words, areWords, spelled⟩ := exists_words_of_separated separator spaced.separated
    rcases spelled with rfl | rfl
    · rw [wordsOf_intercalate separator areWords]
    · have visible := spaced.starts space rfl
      rw [separator] at visible
      contradiction

end Words
