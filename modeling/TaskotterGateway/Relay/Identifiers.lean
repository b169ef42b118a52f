import TaskotterGateway.Relay.Types

/-! An identifier can be read back from its text form: the hyphens stand at fixed places and
the digits spell all of its 128 bits.
-/

namespace TaskotterGateway.Relay

open Text

/-- No digit is a hyphen. -/
theorem Uuid.ne_hyphen_of_mem_hexDigits {id : Uuid} {c : Char} (member : c ∈ id.hexDigits)
    : c ≠ '-' := by
  have written : ∀ digit < 16, Nat.digitChar digit ≠ '-' := by decide
  obtain ⟨place, _, rfl⟩ := List.mem_map.mp member
  exact written _ (Nat.mod_lt _ (by decide))

/-- The digits are what is left of the text form without its hyphens. Witness: no group
loses a digit, and the groups join to all digits.
-/
theorem Uuid.filter_toString (id : Uuid)
    : id.toString.toList.filter (· != '-') = id.hexDigits := by
  have kept {group : List Char} (within : group ⊆ id.hexDigits)
      : group.filter (· != '-') = group := by
    rw [List.filter_eq_self]
    intro c member
    exact bne_iff_ne.mpr (ne_hyphen_of_mem_hexDigits (within member))
  have inner (skipped length : Nat)
      : ((id.hexDigits.drop skipped).take length).filter (· != '-')
        = (id.hexDigits.drop skipped).take length :=
    kept (List.Subset.trans (List.take_subset _ _) (List.drop_subset _ _))
  have join (skipped length : Nat)
      : (id.hexDigits.drop skipped).take length ++ id.hexDigits.drop (skipped + length)
        = id.hexDigits.drop skipped := by
    rw [← List.drop_drop, List.take_append_drop]
  have hyphen : ('-' != '-') = false := by decide
  calc
    id.toString.toList.filter (· != '-')
      = id.hexDigits.take 8
          ++ ((id.hexDigits.drop 8).take 4
            ++ ((id.hexDigits.drop 12).take 4
              ++ ((id.hexDigits.drop 16).take 4 ++ id.hexDigits.drop 20))) := by
        rw [Uuid.toString, String.toList_ofList]
        simp only [List.filter_append, List.filter_cons, hyphen, Bool.false_eq_true, if_false,
          inner, kept (List.take_subset 8 _), kept (List.drop_subset 20 _), List.append_assoc]
    _ = id.hexDigits := by
        rw [join 16 4, join 12 4, join 8 4, List.take_append_drop]

/-- The digits of an identifier spell all of its bits. -/
theorem Uuid.hexNumber_hexDigits (id : Uuid) : hexNumber id.hexDigits = id.bits.toNat := by
  have small : id.bits.toNat < 16 ^ 32 := id.bits.isLt
  have spelled := hexNumber_digits id.bits.toNat 32
  rw [Nat.mod_eq_of_lt small] at spelled
  exact spelled

/-- The identifier with a hyphenated lower-case text form, if the text is one. -/
def Uuid.ofHyphenated (text : String) : Option Uuid :=
  let id : Uuid := ⟨BitVec.ofNat 128 (hexNumber (text.toList.filter (· != '-')))⟩
  if id.toString = text then some id else none

/-- An identifier is read back from its text form. -/
theorem Uuid.ofHyphenated_toString (id : Uuid) : ofHyphenated id.toString = some id := by
  have read : (⟨BitVec.ofNat 128 (hexNumber (id.toString.toList.filter (· != '-')))⟩ : Uuid)
      = id := by
    rw [filter_toString, hexNumber_hexDigits, BitVec.ofNat_toNat, BitVec.setWidth_eq]
  simp only [ofHyphenated, read, if_true]

/-- Different identifiers have different text forms. -/
theorem Uuid.toString_injective : Function.Injective Uuid.toString := by
  intro left right same
  have read := ofHyphenated_toString left
  rw [same, ofHyphenated_toString] at read
  exact (Option.some.inj read).symm

end TaskotterGateway.Relay
