import Mathlib.Data.List.Nodup
import Mathlib.Data.List.Sort

/-! JSON values, and codecs that read back what they write. An object is a map from keys to
values, so it is kept sorted by its keys and is read by looking keys up. A codec carries the
proof of its round trip; different values therefore never meet in one JSON value.
-/

universe u v

namespace JsonCodec

-----------------------------------------------------------------------------------------
-- Lists of entries with distinct keys
-----------------------------------------------------------------------------------------

section Lookup

variable {κ : Type u} {ν : Type v} [BEq κ] [LawfulBEq κ]

/-- With distinct keys, looking a key up finds its one entry, by list induction. -/
theorem lookup_eq_some_iff_mem {entries : List (κ × ν)}
    (distinct : (entries.map Prod.fst).Nodup) {key : κ} {value : ν}
    : entries.lookup key = some value ↔ (key, value) ∈ entries := by
  induction entries with
  | nil => simp
  | cons entry rest ih =>
      obtain ⟨head, held⟩ := entry
      rw [List.map_cons, List.nodup_cons] at distinct
      rw [List.lookup_cons, List.mem_cons, Prod.mk.injEq]
      cases found : key == head with
      | true =>
          obtain rfl := eq_of_beq found
          have absent : (key, value) ∉ rest := fun member =>
            distinct.1 (List.mem_map.mpr ⟨_, member, rfl⟩)
          simp [absent, eq_comm]
      | false =>
          have other : key ≠ head := ne_of_beq_false found
          simp [other, ih distinct.2]

/-- The order of entries with distinct keys makes no difference to a lookup. -/
theorem lookup_perm {left right : List (κ × ν)} (same : left.Perm right)
    (distinct : (left.map Prod.fst).Nodup) (key : κ)
    : left.lookup key = right.lookup key := by
  have distinctRight := (same.map Prod.fst).nodup_iff.mp distinct
  apply Option.ext
  intro value
  rw [lookup_eq_some_iff_mem distinct, lookup_eq_some_iff_mem distinctRight, same.mem_iff]

/-- A key that is not among the keys of the entries is not found. -/
theorem lookup_eq_none_of_notMem {entries : List (κ × ν)} {key : κ}
    (absent : key ∉ entries.map Prod.fst)
    : entries.lookup key = none := by
  rw [List.lookup_eq_none_iff]
  intro entry member
  simp only [bne_iff_ne]
  intro same
  exact absent (List.mem_map.mpr ⟨entry, member, same.symm⟩)

end Lookup

-----------------------------------------------------------------------------------------
-- Values
-----------------------------------------------------------------------------------------

/-- A JSON value; its numbers are integers. -/
inductive Json where
  | null
  | bool (value : Bool)
  | number (value : Int)
  | str (text : String)
  | array (items : List Json)
  | object (entries : List (String × Json))

/-- Some entries in the order of their keys. -/
def sortedByKey (entries : List (String × Json)) : List (String × Json) :=
  entries.insertionSort (fun left right => left.1 ≤ right.1)

/-- Sorting by key keeps exactly the entries. -/
theorem mem_sortedByKey {entries : List (String × Json)} {entry : String × Json}
    : entry ∈ sortedByKey entries ↔ entry ∈ entries :=
  (List.perm_insertionSort _ entries).mem_iff

/-- Sorting by key changes no lookup of entries with distinct keys. -/
theorem lookup_sortedByKey {entries : List (String × Json)}
    (distinct : (entries.map Prod.fst).Nodup) (key : String)
    : (sortedByKey entries).lookup key = entries.lookup key :=
  (lookup_perm (List.perm_insertionSort _ entries).symm distinct key).symm

/-- The object with some entries, sorted by their keys. -/
def Json.ofEntries (entries : List (String × Json)) : Json :=
  .object (sortedByKey entries)

/-- The text under a key of an object, if there is one. -/
def Json.text? : Json → Option String
  | .str text => some text
  | _ => none

/-- Reading a value as it is written: with a round trip, and never written as `null`. -/
structure Codec (α : Type) where
  encode : α → Json
  decode : Json → Option α
  round_trip : ∀ value, decode (encode value) = some value
  encode_ne_null : ∀ value, encode value ≠ .null

variable {α β : Type}

/-- Different values are written differently: reading tells them apart. -/
theorem Codec.encode_injective (codec : Codec α) : Function.Injective codec.encode := by
  intro left right same
  have read := codec.round_trip left
  rw [same, codec.round_trip right] at read
  exact (Option.some.inj read).symm

/-- Every value is read back from what is written, and different values are written
differently.
-/
def Codec.Faithful (codec : Codec α) : Prop :=
  (∀ value, codec.decode (codec.encode value) = some value) ∧ Function.Injective codec.encode

/-- Every codec is faithful. -/
theorem Codec.faithful (codec : Codec α) : codec.Faithful :=
  ⟨codec.round_trip, codec.encode_injective⟩

namespace Codec

def text : Codec String where
  encode := .str
  decode := Json.text?
  round_trip _ := rfl
  encode_ne_null _ := by simp

def flag : Codec Bool where
  encode := .bool
  decode
    | .bool value => some value
    | _ => none
  round_trip _ := rfl
  encode_ne_null _ := by simp

/-- An unsigned integer below a bound; other numbers are not read. -/
def unsigned (bound : Nat) (toNat : α → Nat) (ofNat : Nat → α)
    (below : ∀ value, toNat value < bound) (exact : ∀ value, ofNat (toNat value) = value)
    : Codec α where
  encode value := .number (toNat value)
  decode
    | .number (.ofNat number) => if number < bound then some (ofNat number) else none
    | _ => none
  round_trip value := by
    have small := below value
    simp only [small, if_true, exact]
  encode_ne_null _ := by simp

def uint16 : Codec UInt16 :=
  unsigned UInt16.size UInt16.toNat UInt16.ofNat UInt16.toNat_lt (fun _ => UInt16.ofNat_toNat)

def uint32 : Codec UInt32 :=
  unsigned UInt32.size UInt32.toNat UInt32.ofNat UInt32.toNat_lt (fun _ => UInt32.ofNat_toNat)

def uint64 : Codec UInt64 :=
  unsigned UInt64.size UInt64.toNat UInt64.ofNat UInt64.toNat_lt (fun _ => UInt64.ofNat_toNat)

/-- Reading the items of a list one by one gives them back, by list induction. -/
theorem mapM_decode_encode (codec : Codec α) (values : List α)
    : (values.map codec.encode).mapM codec.decode = some values := by
  induction values with
  | nil => rfl
  | cons value rest ih =>
      rw [List.map_cons, List.mapM_cons, codec.round_trip, ih]
      rfl

def list (codec : Codec α) : Codec (List α) where
  encode values := .array (values.map codec.encode)
  decode
    | .array items => items.mapM codec.decode
    | _ => none
  round_trip values := codec.mapM_decode_encode values
  encode_ne_null _ := by simp

/-- The constructors of an enumeration, each under its own name. -/
structure Names (α : Type) [DecidableEq α] where
  entries : List (α × String)
  complete : ∀ value, value ∈ entries.map Prod.fst := by intro value; cases value <;> simp
  distinct : (entries.map Prod.snd).Nodup := by decide

/-- The name of a constructor. -/
def Names.name [DecidableEq α] (names : Names α) (value : α) : String :=
  (names.entries.lookup value).getD ""

/-- The constructor of a name. -/
def Names.named? [DecidableEq α] (names : Names α) (name : String) : Option α :=
  (names.entries.map Prod.swap).lookup name

/-- Every constructor is found under its name. -/
theorem Names.named?_name [DecidableEq α] (names : Names α) (value : α)
    : names.named? (names.name value) = some value := by
  have listed : (names.entries.lookup value).isSome = true := by
    rw [List.lookup_isSome_iff]
    obtain ⟨entry, member, same⟩ := List.mem_map.mp (names.complete value)
    exact ⟨entry, member, by simp [same]⟩
  obtain ⟨name, found⟩ := Option.isSome_iff_exists.mp listed
  have member : (value, name) ∈ names.entries := by
    obtain ⟨before, after, split, _⟩ := List.lookup_eq_some_iff.mp found
    rw [split]
    exact List.mem_append_right _ List.mem_cons_self
  have swapped : ((names.entries.map Prod.swap).map Prod.fst).Nodup := by
    rw [List.map_map]
    exact names.distinct
  rw [Names.name, found, Option.getD_some, Names.named?, lookup_eq_some_iff_mem swapped]
  exact List.mem_map.mpr ⟨_, member, rfl⟩

/-- The name that a constructor is given by: itself, or the one key of an object, with nothing
under it.
-/
def variant? : Json → Option String
  | .str name => some name
  | .object [(name, .null)] => some name
  | _ => none

/-- An enumeration is written as the name of its constructor. -/
def enumeration [DecidableEq α] (names : Names α) : Codec α where
  encode value := .str (names.name value)
  decode json := (variant? json).bind names.named?
  round_trip value := names.named?_name value
  encode_ne_null _ := by simp

end Codec

end JsonCodec
