import Mathlib.Algebra.Ring.Nat
import Mathlib.Data.List.DropRight
import Mathlib.Data.List.Forall2
import Mathlib.Data.List.Infix
import TaskotterGateway.Foundation.Words

/-! Rust `str` operations on strings, read through their character lists.
A Rust `str` and a Lean `String` are both sequences of Unicode scalar values, so prefixes,
infixes and words agree whichever encoding they are looked up in.
-/

namespace Text

open Words

/-- `str::starts_with` for a string pattern. -/
def startsWith (text pattern : String) : Bool :=
  pattern.toList.isPrefixOf text.toList

/-- `str::strip_prefix` for a string pattern. -/
def stripPrefix (text pattern : String) : Option String :=
  if startsWith text pattern then
    some (String.ofList (text.toList.drop pattern.toList.length))
  else
    none

/-- `str::contains` for a string pattern. -/
def contains (text pattern : String) : Bool :=
  decide (pattern.toList <:+: text.toList)

/-- A string starts with a pattern exactly when it is that pattern followed by a rest. -/
theorem startsWith_iff {text pattern : String}
    : startsWith text pattern = true ↔ ∃ rest, text = pattern ++ rest := by
  simp only [startsWith, List.isPrefixOf_iff_prefix]
  constructor
  · intro found
    obtain ⟨rest, joined⟩ := found
    exact ⟨String.ofList rest, String.toList_inj.mp (by simp [joined])⟩
  · intro found
    obtain ⟨rest, rfl⟩ := found
    exact ⟨rest.toList, by simp⟩

/-- Stripping a prefix succeeds with exactly the rest that follows the pattern. -/
theorem stripPrefix_eq_some_iff {text pattern rest : String}
    : stripPrefix text pattern = some rest ↔ text = pattern ++ rest := by
  unfold stripPrefix
  split
  · rename_i found
    obtain ⟨tail, rfl⟩ := startsWith_iff.mp found
    simp [← String.toList_inj]
  · rename_i missing
    simp only [reduceCtorEq, false_iff]
    intro joined
    exact missing (startsWith_iff.mpr ⟨rest, joined⟩)

/-- Containment is the infix relation of the character lists. -/
theorem contains_iff {text pattern : String}
    : contains text pattern = true ↔ pattern.toList <:+: text.toList := by
  simp [contains]

/-- A string contains a pattern exactly when it is that pattern between two others. -/
theorem contains_iff_exists {text pattern : String}
    : contains text pattern = true ↔ ∃ before after, text = before ++ pattern ++ after := by
  rw [contains_iff]
  constructor
  · intro found
    obtain ⟨before, after, joined⟩ := found
    exact ⟨String.ofList before, String.ofList after, String.toList_inj.mp (by simp [joined])⟩
  · intro found
    obtain ⟨before, after, rfl⟩ := found
    exact ⟨before.toList, after.toList, by simp⟩

/-- `str::to_ascii_lowercase`: only the letters `A` to `Z` change. -/
def toAsciiLowercase (text : String) : String :=
  String.ofList (text.toList.map Char.toLower)

/-- One character, or one letter from `A` to `Z` in its two cases, which lie 32 apart. -/
def SameLetter (left right : Char) : Prop :=
  left = right
  ∨ (left.isUpper = true ∧ right.toNat = left.toNat + 32)
  ∨ (right.isUpper = true ∧ left.toNat = right.toNat + 32)

/-- `str::eq_ignore_ascii_case`: the strings agree letter by letter, in whatever case. -/
def EqIgnoreAsciiCase (left right : String) : Prop :=
  List.Forall₂ SameLetter left.toList right.toList

theorem isUpper_iff {c : Char} : c.isUpper = true ↔ 65 ≤ c.toNat ∧ c.toNat ≤ 90 :=
  decide_eq_true_iff.trans (and_congr UInt32.le_iff_toNat_le UInt32.le_iff_toNat_le)

/-- A letter from `A` to `Z` is lowered to the one 32 places after it, and no other is. -/
theorem toNat_toLower (c : Char)
    : c.toLower.toNat = if c.isUpper then c.toNat + 32 else c.toNat := by
  delta Char.toLower
  by_cases upper : c.isUpper = true
  · have bounds := isUpper_iff.mp upper
    rw [if_pos upper, dif_pos (of_decide_eq_true upper)]
    change (c.val + 32).toNat = _
    rw [UInt32.toNat_add]
    change (c.toNat + 32) % 2 ^ 32 = _
    omega
  · rw [if_neg upper, dif_neg (fun lowered => upper (decide_eq_true lowered))]

/-- Characters are lowered alike exactly if they are the same letter. -/
theorem toLower_eq_iff {left right : Char}
    : left.toLower = right.toLower ↔ SameLetter left right := by
  rw [← Char.toNat_inj, toNat_toLower, toNat_toLower, SameLetter, ← Char.toNat_inj]
  simp only [isUpper_iff]
  split_ifs <;> omega

/-- Strings are lowered alike exactly if they agree in all but the case of their letters. -/
theorem toAsciiLowercase_eq_iff {left right : String}
    : toAsciiLowercase left = toAsciiLowercase right ↔ EqIgnoreAsciiCase left right := by
  rw [EqIgnoreAsciiCase, toAsciiLowercase, toAsciiLowercase, String.ofList_inj,
    ← List.forall₂_eq_eq_eq, List.forall₂_map_left_iff, List.forall₂_map_right_iff]
  simp only [toLower_eq_iff]

/-- Some stretch of the text spells the marker, in whatever case its letters are. -/
def ContainsIgnoringCase (text marker : String) : Prop :=
  ∃ piece, contains text piece = true ∧ EqIgnoreAsciiCase piece marker

/-- Searching the lowered text for a lower-case marker finds its spellings in every case.
Witness: an infix of a mapped list is the image of an infix.
-/
theorem contains_toAsciiLowercase_iff {text marker : String}
    (lowered : toAsciiLowercase marker = marker)
    : contains (toAsciiLowercase text) marker = true
      ↔ ContainsIgnoringCase text marker := by
  simp only [ContainsIgnoringCase, ← toAsciiLowercase_eq_iff, lowered, contains_iff]
  simp only [toAsciiLowercase, String.toList_ofList, List.infix_map_iff]
  constructor
  · intro present
    obtain ⟨piece, found, spelled⟩ := present
    refine ⟨String.ofList piece, by simpa using found, ?_⟩
    simp [← spelled]
  · intro present
    obtain ⟨piece, found, rfl⟩ := present
    exact ⟨piece.toList, found, by simp⟩

/-- The value of a lower-case hexadecimal digit. -/
def hexDigitValue (c : Char) : Nat :=
  if c.isDigit then
    c.toNat - '0'.toNat
  else
    c.toNat - 'a'.toNat + 10

/-- The number that hexadecimal digits spell, most significant first. -/
def hexNumber (digits : List Char) : Nat :=
  digits.foldl (fun number digit => number * 16 + hexDigitValue digit) 0

/-- A written digit has its value. -/
theorem hexDigitValue_digitChar {digit : Nat} (small : digit < 16)
    : hexDigitValue (Nat.digitChar digit) = digit := by
  have written : ∀ digit < 16, hexDigitValue (Nat.digitChar digit) = digit := by decide
  exact written digit small

/-- The last digits of a number spell it up to their places, by induction on the number of
places: all digits but the last are those of the number without it.
-/
theorem hexNumber_digits (number places : Nat)
    : hexNumber ((List.range places).map
        (fun place => Nat.digitChar (number / 16 ^ (places - 1 - place) % 16)))
      = number % 16 ^ places := by
  induction places generalizing number with
  | zero => simp [hexNumber, Nat.mod_one]
  | succ places ih =>
      have shifted : ∀ place ∈ List.range places,
          Nat.digitChar (number / 16 ^ (places + 1 - 1 - place) % 16)
            = Nat.digitChar (number / 16 / 16 ^ (places - 1 - place) % 16) := by
        intro place small
        have smaller := List.mem_range.mp small
        rw [Nat.div_div_eq_div_mul, ← Nat.pow_succ',
          show (places - 1 - place).succ = places + 1 - 1 - place by omega]
      have upper := ih (number / 16)
      have lower := hexDigitValue_digitChar (Nat.mod_lt number (show 16 > 0 by decide))
      rw [hexNumber] at upper
      rw [hexNumber, List.range_succ, List.map_append, List.foldl_append,
        List.map_congr_left shifted, upper]
      simp only [List.map_cons, List.map_nil, List.foldl_cons, List.foldl_nil,
        Nat.add_sub_cancel, Nat.sub_self, Nat.pow_zero, Nat.div_one, lower]
      rw [Nat.pow_succ', Nat.mod_mul, Nat.mul_comm, Nat.add_comm]

/-- `char::is_whitespace`: the Unicode `White_Space` property. -/
def isWhitespace (c : Char) : Bool :=
  (0x09 ≤ c.toNat && c.toNat ≤ 0x0D)
  || c.toNat == 0x20
  || c.toNat == 0x85
  || c.toNat == 0xA0
  || c.toNat == 0x1680
  || (0x2000 ≤ c.toNat && c.toNat ≤ 0x200A)
  || c.toNat == 0x2028
  || c.toNat == 0x2029
  || c.toNat == 0x202F
  || c.toNat == 0x205F
  || c.toNat == 0x3000

/-- `str::trim`: the text between its leading and its trailing white space. -/
def trim (text : String) : String :=
  String.ofList ((text.toList.dropWhile isWhitespace).rdropWhile isWhitespace)

/-- The text has no character but white space. -/
def IsBlank (text : String) : Prop :=
  ∀ c ∈ text.toList, isWhitespace c = true

/-- Nothing is left of exactly the blank texts. Witness: what is left after the leading
white space starts with another character, which the trailing side then keeps.
-/
theorem trim_isEmpty_iff {text : String} : (trim text).isEmpty = true ↔ IsBlank text := by
  rw [String.isEmpty_iff, trim, String.ofList_eq_empty_iff, List.rdropWhile_eq_nil_iff]
  constructor
  · intro trailing
    have leading : text.toList.dropWhile isWhitespace = [] := by
      by_contra kept
      have first := List.head_dropWhile_not isWhitespace kept
      rw [trailing _ (List.head_mem kept)] at first
      contradiction
    exact List.dropWhile_eq_nil_iff.mp leading
  · intro blank c member
    exact blank c ((List.dropWhile_suffix isWhitespace).subset member)

/-- `str::split_whitespace`: the nonempty stretches between white space. -/
def splitWhitespace (text : String) : List String :=
  ((text.toList.splitOnP isWhitespace).filter (fun word => !word.isEmpty)).map
    String.ofList

theorem isWhitespace_space : isWhitespace ' ' = true := by
  decide

/-- White space separates words: no word crosses it. -/
theorem splitWhitespace_append_space (left right : String)
    : splitWhitespace (left ++ " " ++ right)
      = splitWhitespace left ++ splitWhitespace right := by
  have separated : (left ++ " " ++ right).toList = left.toList ++ ' ' :: right.toList := by
    simp
  have words := wordsOf_append_cons left.toList right.toList isWhitespace_space
  rw [← separated] at words
  exact (congrArg (List.map String.ofList) words).trans List.map_append

/-- A text with a visible character has a word. -/
theorem splitWhitespace_length_pos {text : String} {c : Char} (member : c ∈ text.toList)
    (visible : isWhitespace c = false)
    : 0 < (splitWhitespace text).length := by
  rw [splitWhitespace, List.length_map]
  exact List.length_pos_of_ne_nil (wordsOf_ne_nil member visible)

example : splitWhitespace " sum\tof  words " = ["sum", "of", "words"] := by decide

/-- `[String]::join` with a single space. -/
def joinWords (words : List String) : String :=
  " ".intercalate words

/-- The only white space of a text are single spaces between its words. -/
def SingleSpaced (text : String) : Prop :=
  Spaced isWhitespace ' ' text.toList

theorem toList_joinWords_splitWhitespace (text : String)
    : (joinWords (splitWhitespace text)).toList
      = [' '].intercalate (wordsOf isWhitespace text.toList) := by
  rw [joinWords, String.toList_intercalate, splitWhitespace, List.map_map]
  simp [wordsOf, Function.comp_def]

/-- Whatever separated the words of a text, joining them spaces them singly. -/
theorem singleSpaced_joinWords_splitWhitespace (text : String)
    : SingleSpaced (joinWords (splitWhitespace text)) := by
  rw [SingleSpaced, toList_joinWords_splitWhitespace]
  exact spaced_intercalate (fun _ member => isWord_of_mem_wordsOf member)

/-- Joining the words of a text keeps its words. -/
theorem splitWhitespace_joinWords_splitWhitespace (text : String)
    : splitWhitespace (joinWords (splitWhitespace text)) = splitWhitespace text := by
  have words := wordsOf_intercalate isWhitespace_space
    (fun word (member : word ∈ wordsOf isWhitespace text.toList) => isWord_of_mem_wordsOf member)
  rw [← toList_joinWords_splitWhitespace] at words
  exact congrArg (List.map String.ofList) words

/-- Joining the words of a text gives it back exactly if it is singly spaced. -/
theorem joinWords_splitWhitespace_iff {text : String}
    : joinWords (splitWhitespace text) = text ↔ SingleSpaced text := by
  rw [← String.toList_inj, toList_joinWords_splitWhitespace]
  exact intercalate_wordsOf_iff isWhitespace_space

/-- A singly spaced text is determined by its words. -/
theorem SingleSpaced.ext {left right : String} (spacedLeft : SingleSpaced left)
    (spacedRight : SingleSpaced right)
    (words : splitWhitespace left = splitWhitespace right)
    : left = right := by
  rw [← joinWords_splitWhitespace_iff.mpr spacedLeft, words,
    joinWords_splitWhitespace_iff.mpr spacedRight]

end Text
