import TaskotterGateway.Foundation.JsonRecords

/-! Which objects a codec reads, and which alike. A tolerant codec reads an object by what
stands under the keys that it knows: the order of the entries and entries under other keys play
no role. A strict codec reads no object with an entry under a key that it does not know. Either
reads no object in which a key is missing that it requires.
-/

namespace JsonCodec

variable {σ α β : Type}

-----------------------------------------------------------------------------------------
-- Fields that are read by their own keys
-----------------------------------------------------------------------------------------

namespace Fields

/-- The fields are read from what stands under their own keys and nothing else. -/
class KeyBound (fields : Fields σ α) : Prop where
  read_congr : ∀ {left right : String → Option Json},
    (∀ key ∈ fields.keys, left key = right key) → fields.read left = fields.read right

instance (value : α) : KeyBound (build value : Fields σ α) where
  read_congr _ := rfl

theorem field_keyBound (key : String) (write : σ → Option Json)
    (read : Option Json → Option α) (value : σ → α)
    (read_write : ∀ whole, read (write whole) = some (value whole))
    : KeyBound (field key write read value read_write) where
  read_congr agree := congrArg read (agree key List.mem_cons_self)

/-- Key-bound fields in sequence are key-bound. -/
theorem andThen_keyBound {first : Fields σ (α → β)} {second : Fields σ α}
    (boundFirst : KeyBound first) (boundSecond : KeyBound second)
    : KeyBound (first.andThen second) where
  read_congr {left right} agree := by
    have early : first.read left = first.read right :=
      boundFirst.read_congr (fun key member => agree key (List.mem_append_left _ member))
    have late : second.read left = second.read right :=
      boundSecond.read_congr (fun key member => agree key (List.mem_append_right _ member))
    simp only [andThen, early, late]

instance (fields : Fields σ (α → β)) [KeyBound fields] (key : String) (codec : Codec α)
    (value : σ → α)
    : KeyBound (fields.required key codec value) :=
  andThen_keyBound inferInstance (field_keyBound ..)

instance (fields : Fields σ (α → β)) [KeyBound fields] (key : String) (codec : Codec α)
    (value : σ → α) (default : α)
    : KeyBound (fields.defaulted key codec value default) :=
  andThen_keyBound inferInstance (field_keyBound ..)

instance (fields : Fields σ (Option α → β)) [KeyBound fields] (key : String)
    (codec : Codec α) (value : σ → Option α)
    : KeyBound (fields.nullable key codec value) :=
  andThen_keyBound inferInstance (field_keyBound ..)

instance (fields : Fields σ (Option α → β)) [KeyBound fields] (key : String)
    (codec : Codec α) (value : σ → Option α)
    : KeyBound (fields.skippable key codec value) :=
  andThen_keyBound inferInstance (field_keyBound ..)

instance (fields : Fields σ (Option α → β)) [KeyBound fields] (key : String)
    (codec : Codec α) (value : σ → Option α)
    : KeyBound (fields.omittable key codec value) :=
  andThen_keyBound inferInstance (field_keyBound ..)

/-- The fields are read only where something stands under the keys. -/
class Demanding (fields : Fields σ α) (demanded : outParam (List String)) : Prop where
  found : ∀ {lookup : String → Option Json} {whole : α},
    fields.read lookup = some whole → ∀ key ∈ demanded, lookup key ≠ none

instance (value : α) : Demanding (build value : Fields σ α) [] where
  found _ _ member := absurd member List.not_mem_nil

/-- Fields in sequence are both read. -/
theorem read_andThen {first : Fields σ (α → β)} {second : Fields σ α}
    {lookup : String → Option Json} {whole : β}
    (read : (first.andThen second).read lookup = some whole)
    : ∃ apply value,
        first.read lookup = some apply
        ∧ second.read lookup = some value
        ∧ apply value = whole := by
  obtain ⟨apply, readFirst, rest⟩ := Option.bind_eq_some_iff.mp read
  obtain ⟨value, readSecond, same⟩ := Option.bind_eq_some_iff.mp rest
  exact ⟨apply, value, readFirst, readSecond, Option.some.inj same⟩

/-- A field that can be missing demands nothing beside what stands before it. -/
theorem andThen_demanding {first : Fields σ (α → β)} (second : Fields σ α)
    {demanded : List String} (demanding : Demanding first demanded)
    : Demanding (first.andThen second) demanded where
  found read := by
    obtain ⟨_, _, readFirst, _⟩ := read_andThen read
    exact demanding.found readFirst

instance (fields : Fields σ (α → β)) (demanded : List String) [Demanding fields demanded]
    (key : String) (codec : Codec α) (value : σ → α)
    : Demanding (fields.required key codec value) (demanded ++ [key]) where
  found {lookup whole} read := by
    obtain ⟨_, present, readFirst, readSecond, _⟩ := read_andThen read
    have stands : lookup key ≠ none := by
      obtain ⟨json, found, _⟩ := Option.bind_eq_some_iff.mp readSecond
      exact Option.ne_none_iff_exists'.mpr ⟨json, found⟩
    intro other member
    rcases List.mem_append.mp member with earlier | same
    · exact Demanding.found readFirst other earlier
    · rw [List.mem_singleton.mp same]
      exact stands

instance (fields : Fields σ (α → β)) (demanded : List String) [Demanding fields demanded]
    (key : String) (codec : Codec α) (value : σ → α) (default : α)
    : Demanding (fields.defaulted key codec value default) demanded :=
  andThen_demanding _ inferInstance

instance (fields : Fields σ (Option α → β)) (demanded : List String)
    [Demanding fields demanded] (key : String) (codec : Codec α) (value : σ → Option α)
    : Demanding (fields.nullable key codec value) demanded :=
  andThen_demanding _ inferInstance

instance (fields : Fields σ (Option α → β)) (demanded : List String)
    [Demanding fields demanded] (key : String) (codec : Codec α) (value : σ → Option α)
    : Demanding (fields.skippable key codec value) demanded :=
  andThen_demanding _ inferInstance

instance (fields : Fields σ (Option α → β)) (demanded : List String)
    [Demanding fields demanded] (key : String) (codec : Codec α) (value : σ → Option α)
    : Demanding (fields.omittable key codec value) demanded :=
  andThen_demanding _ inferInstance

/-- Whatever the fields read from what stands under the keys, this holds of it. -/
def Reads (fields : Fields σ α) (holds : (String → Option Json) → α → Prop) : Prop :=
  ∀ lookup whole, fields.read lookup = some whole → holds lookup whole

theorem Reads.build {holds : (String → Option Json) → α → Prop} {value : α}
    (given : ∀ lookup, holds lookup value)
    : (Fields.build value : Fields σ α).Reads holds := by
  intro lookup whole read
  cases read
  exact given lookup

/-- What is read last is handed to what was read before. -/
theorem Reads.andThen {holds : (String → Option Json) → β → Prop}
    {first : Fields σ (α → β)} {second : Fields σ α}
    (early
      : first.Reads (fun lookup apply =>
        ∀ value, second.read lookup = some value → holds lookup (apply value)))
    : (first.andThen second).Reads holds := by
  intro lookup whole read
  obtain ⟨apply, value, readFirst, readSecond, rfl⟩ := read_andThen read
  exact early lookup apply readFirst value readSecond

/-- A flag that is off where it is missing is on only where it says so. -/
theorem flag_of_defaulted {found : Option Json}
    (read : found.elim (some false) Codec.flag.decode = some true)
    : found = some (.bool true) := by
  cases found with
  | none => cases read
  | some json =>
      cases json with
      | bool value =>
          cases read
          rfl
      | null | number _ | str _ | array _ | object _ => cases read

/-- An optional number is there only where it says so. -/
theorem uint64_of_nullable {found : Option Json} {value : UInt64}
    (read : readOptional .uint64 found = some (some value))
    : found = some (.number value.toNat) := by
  cases found with
  | none => cases read
  | some json =>
      cases json with
      | number number =>
          obtain ⟨limit, decoded, same⟩ := Option.map_eq_some_iff.mp read
          obtain rfl := Option.some.inj same
          cases number with
          | negSucc _ => cases decoded
          | ofNat number =>
              by_cases below : number < UInt64.size
              · simp only [Codec.uint64, Codec.unsigned, below, if_true,
                  Option.some.injEq] at decoded
                rw [← decoded, UInt64.toNat_ofNat_of_lt' below]
                rfl
              · simp [Codec.uint64, Codec.unsigned, below] at decoded
      | null | bool _ | str _ | array _ | object _ => cases read

end Fields

-----------------------------------------------------------------------------------------
-- Tolerant and strict codecs
-----------------------------------------------------------------------------------------

namespace Codec

/-- Objects that agree on the keys are read alike. No object repeats a key. -/
def Tolerant (codec : Codec α) (keys : List String) : Prop :=
  ∀ left right : List (String × Json),
    (left.map Prod.fst).Nodup
    → (right.map Prod.fst).Nodup
    → (∀ key ∈ keys, left.lookup key = right.lookup key)
    → codec.decode (.object left) = codec.decode (.object right)

/-- No object with an entry under another key is read. -/
def Strict (codec : Codec α) (keys : List String) : Prop :=
  ∀ entries : List (String × Json),
    (∃ entry ∈ entries, entry.1 ∉ keys) → codec.decode (.object entries) = none

/-- An object is read only with an entry under each of the keys. -/
def Requires (codec : Codec α) (keys : List String) : Prop :=
  ∀ (entries : List (String × Json)) (value : α),
    codec.decode (.object entries) = some value → ∀ key ∈ keys, key ∈ entries.map Prod.fst

/-- Objects are read by the known keys alone, if they have the required ones. -/
structure Open (codec : Codec α) (required known : List String) : Prop where
  tolerant : codec.Tolerant known
  requires : codec.Requires required

/-- Objects are read only if their keys are known ones, with all of the required ones. -/
structure Closed (codec : Codec α) (required known : List String) : Prop where
  strict : codec.Strict known
  requires : codec.Requires required

/-- A record that ignores unknown entries is read by its keys. -/
theorem record_tolerant (fields : Fields α α) [fields.KeyBound]
    (whole : ∀ value, fields.value value = value) (distinct : fields.keys.Nodup)
    : (record .ignored fields whole distinct).Tolerant fields.keys := by
  intro left right _ _ agree
  exact Fields.KeyBound.read_congr agree

/-- A record that denies unknown entries has none. -/
theorem record_strict (fields : Fields α α) (whole : ∀ value, fields.value value = value)
    (distinct : fields.keys.Nodup)
    : (record .denied fields whole distinct).Strict fields.keys := by
  intro entries unknown
  obtain ⟨entry, member, unlisted⟩ := unknown
  have denied : UnknownFields.denied.allows fields.keys entries = false := by
    rw [UnknownFields.allows, List.all_eq_false]
    exact ⟨entry, member, by simpa using unlisted⟩
  simp only [record, denied, Bool.false_eq_true, if_false]

/-- Whatever a record does with unknown entries, it needs those of the keys that its fields
demand.
-/
theorem record_requires (unknown : UnknownFields) (fields : Fields α α)
    {demanded : List String} [Fields.Demanding fields demanded]
    (whole : ∀ value, fields.value value = value) (distinct : fields.keys.Nodup)
    : (record unknown fields whole distinct).Requires demanded := by
  intro entries value read key member
  by_contra absent
  have fieldsRead : fields.read (fun key => entries.lookup key) = some value := by
    cases allowed : unknown.allows fields.keys entries with
    | true => simpa only [record, allowed, if_true] using read
    | false => simp [record, allowed] at read
  exact Fields.Demanding.found fieldsRead key member (lookup_eq_none_of_notMem absent)

end Codec

end JsonCodec
