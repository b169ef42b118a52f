import TaskotterGateway.Foundation.Json

/-! Codecs of records and of tagged enumerations, put together from their fields. A field is
written under its own key or left out, and is read from whatever stands under that key, so
the order of the entries plays no role. The law of each field and of each constructor gives
the round trip of the whole.
-/

namespace JsonCodec

-----------------------------------------------------------------------------------------
-- Fields
-----------------------------------------------------------------------------------------

/-- A part of a record: what is written for it and under which keys, how it is read back by
looking these keys up, and its value.
-/
structure Fields (σ α : Type) where
  keys : List String
  write : σ → List (String × Json)
  read : (String → Option Json) → Option α
  value : σ → α
  written : ∀ whole, ((write whole).map Prod.fst).Sublist keys
  read_write : keys.Nodup → ∀ whole lookup,
    (∀ key ∈ keys, lookup key = (write whole).lookup key)
    → read lookup = some (value whole)

namespace Fields

variable {σ α β : Type}

/-- A constructor before its first field. -/
def build (value : α) : Fields σ α where
  keys := []
  write _ := []
  read _ := some value
  value _ := value
  written _ := List.Sublist.refl _
  read_write _ _ _ _ := rfl

/-- A key that is not among the keys of some fields is not written by them. -/
theorem lookup_write_eq_none (fields : Fields σ α) {key : String}
    (absent : key ∉ fields.keys) (whole : σ)
    : (fields.write whole).lookup key = none :=
  lookup_eq_none_of_notMem (fun member => absent ((fields.written whole).subset member))

/-- Some fields and then others, under other keys. -/
def andThen (first : Fields σ (α → β)) (second : Fields σ α) : Fields σ β where
  keys := first.keys ++ second.keys
  write whole := first.write whole ++ second.write whole
  read lookup := do
    let apply ← first.read lookup
    let value ← second.read lookup
    return apply value
  value whole := first.value whole (second.value whole)
  written whole := by
    rw [List.map_append]
    exact (first.written whole).append (second.written whole)
  read_write distinct whole lookup agrees := by
    obtain ⟨distinctFirst, distinctSecond, disjoint⟩ := List.nodup_append.mp distinct
    have agreesFirst : ∀ key ∈ first.keys, lookup key = (first.write whole).lookup key := by
      intro key member
      have absent : key ∉ second.keys := fun other => disjoint key member key other rfl
      rw [agrees key (List.mem_append_left _ member), List.lookup_append,
        second.lookup_write_eq_none absent, Option.or_none]
    have agreesSecond : ∀ key ∈ second.keys,
        lookup key = (second.write whole).lookup key := by
      intro key member
      have absent : key ∉ first.keys := fun other => disjoint key other key member rfl
      rw [agrees key (List.mem_append_right _ member), List.lookup_append,
        first.lookup_write_eq_none absent, Option.none_or]
    rw [first.read_write distinctFirst whole lookup agreesFirst,
      second.read_write distinctSecond whole lookup agreesSecond]
    rfl

/-- One field: what is written under its key, if anything, and how what stands under the key,
if anything does, is read.
-/
def field (key : String) (write : σ → Option Json) (read : Option Json → Option α)
    (value : σ → α) (read_write : ∀ whole, read (write whole) = some (value whole))
    : Fields σ α where
  keys := [key]
  write whole := (write whole).toList.map (key, ·)
  read lookup := read (lookup key)
  value := value
  written whole := by cases write whole <;> simp
  read_write _ whole lookup agrees := by
    have found : ((write whole).toList.map (key, ·)).lookup key = write whole := by
      cases write whole <;> simp
    rw [agrees key List.mem_cons_self, found, read_write]

/-- A field that is always written and must be there. -/
def required (fields : Fields σ (α → β)) (key : String) (codec : Codec α) (value : σ → α)
    : Fields σ β :=
  fields.andThen
    (field key (fun whole => some (codec.encode (value whole)))
      (fun found => found.bind codec.decode) value
      (fun whole => codec.round_trip (value whole)))

/-- A field that is always written, and has a default where it is missing. -/
def defaulted (fields : Fields σ (α → β)) (key : String) (codec : Codec α) (value : σ → α)
    (default : α)
    : Fields σ β :=
  fields.andThen
    (field key (fun whole => some (codec.encode (value whole)))
      (fun found => found.elim (some default) codec.decode) value
      (fun whole => codec.round_trip (value whole)))

/-- An optional value is absent where its key is missing or stands for `null`. -/
def readOptional (codec : Codec α) : Option Json → Option (Option α)
  | none => some none
  | some .null => some none
  | some json => (codec.decode json).map some

/-- A value that is there is read as such: it is not written as `null`. -/
theorem readOptional_encode (codec : Codec α) (value : α)
    : readOptional codec (some (codec.encode value)) = some (some value) := by
  have read := codec.round_trip value
  cases written : codec.encode value with
  | null => exact absurd written (codec.encode_ne_null value)
  | bool _ | number _ | str _ | array _ | object _ =>
      rw [written] at read
      exact congrArg (Option.map some) read

/-- An optional field that is written as `null` where its value is absent. -/
def nullable (fields : Fields σ (Option α → β)) (key : String) (codec : Codec α)
    (value : σ → Option α)
    : Fields σ β :=
  fields.andThen
    (field key (fun whole => some ((value whole).elim .null codec.encode))
      (readOptional codec) value (by
        intro whole
        cases value whole with
        | none => rfl
        | some present => exact readOptional_encode codec present))

/-- An optional field that is left out where its value is absent. -/
def skippable (fields : Fields σ (Option α → β)) (key : String) (codec : Codec α)
    (value : σ → Option α)
    : Fields σ β :=
  fields.andThen
    (field key (fun whole => (value whole).map codec.encode) (readOptional codec) value (by
      intro whole
      cases value whole with
      | none => rfl
      | some present => exact readOptional_encode codec present))

/-- A field that is left out where its value is absent, and is a plain value where it
stands: `null` is none.
-/
def omittable (fields : Fields σ (Option α → β)) (key : String) (codec : Codec α)
    (value : σ → Option α)
    : Fields σ β :=
  fields.andThen
    (field key (fun whole => (value whole).map codec.encode)
      (fun found => found.elim (some none) (fun json => (codec.decode json).map some)) value
      (by
        intro whole
        cases value whole with
        | none => rfl
        | some present => exact congrArg (Option.map some) (codec.round_trip present)))

end Fields

-----------------------------------------------------------------------------------------
-- Records
-----------------------------------------------------------------------------------------

/-- What a record does with entries that are none of its fields. -/
inductive UnknownFields where
  | ignored
  | denied
  deriving DecidableEq, Repr

/-- The keys of some entries are within what a record allows. -/
def UnknownFields.allows (unknown : UnknownFields) (keys : List String)
    (entries : List (String × Json))
    : Bool :=
  match unknown with
  | .ignored => true
  | .denied => entries.all (fun entry => keys.contains entry.1)

namespace Codec

variable {α : Type}

/-- A record is an object with an entry for each field that is written. An array of the values
of the fields is not read as one.
-/
def record (unknown : UnknownFields) (fields : Fields α α)
    (whole : ∀ value, fields.value value = value := by intro value; rfl)
    (distinct : fields.keys.Nodup := by decide)
    : Codec α where
  encode value := .ofEntries (fields.write value)
  decode
    | .object entries =>
        if unknown.allows fields.keys entries then
          fields.read (fun key => entries.lookup key)
        else
          none
    | _ => none
  round_trip value := by
    have written := fields.written value
    have allowed
        : unknown.allows fields.keys (sortedByKey (fields.write value)) = true := by
      cases unknown with
      | ignored => rfl
      | denied =>
          rw [UnknownFields.allows, List.all_eq_true]
          intro entry member
          have kept := mem_sortedByKey.mp member
          exact List.contains_iff_mem.mpr (written.subset (List.mem_map_of_mem kept))
    have read := fields.read_write distinct value
      ((sortedByKey (fields.write value)).lookup ·)
      (fun key _ => lookup_sortedByKey (written.nodup distinct) key)
    simp only [Json.ofEntries, allowed, if_true, read, whole]
  encode_ne_null _ := by simp [Json.ofEntries]

end Codec

-----------------------------------------------------------------------------------------
-- Tagged enumerations
-----------------------------------------------------------------------------------------

/-- A constructor with its name and the fields of its payload. -/
structure Variant (α : Type) where
  name : String
  Payload : Type
  fields : Fields Payload α

/-- The variant with a name. -/
def Variant.named? {α : Type} (variants : List (Variant α)) (name : String)
    : Option (Variant α) :=
  (variants.map (fun variant => (variant.name, variant))).lookup name

/-- A variant is found under its name when no two share one. -/
theorem Variant.named?_name {α : Type} {variants : List (Variant α)}
    (distinct : (variants.map Variant.name).Nodup) {variant : Variant α}
    (member : variant ∈ variants)
    : Variant.named? variants variant.name = some variant := by
  have keys : ((variants.map (fun variant => (variant.name, variant))).map Prod.fst).Nodup := by
    rw [List.map_map]
    exact distinct
  rw [Variant.named?, lookup_eq_some_iff_mem keys]
  exact List.mem_map.mpr ⟨variant, member, rfl⟩

namespace Codec

variable {α : Type}

/-- A constructor is an object with its name under the tag beside the fields of its payload.
Other entries are ignored: that a parser which sets them aside has bounds for numbers and for
nesting is not modelled.
-/
def tagged (tag : String) (variants : List (Variant α))
    (view : α → (variant : Variant α) × variant.Payload)
    (listed : ∀ value, (view value).1 ∈ variants)
    (rebuilt : ∀ value, (view value).1.fields.value (view value).2 = value
      := by intro value; cases value <;> rfl)
    (names : (variants.map Variant.name).Nodup := by decide)
    (keys : ∀ variant ∈ variants, (tag :: variant.fields.keys).Nodup := by decide)
    : Codec α where
  encode value :=
    let ⟨variant, payload⟩ := view value
    .ofEntries ((tag, .str variant.name) :: variant.fields.write payload)
  decode
    | .object entries =>
        ((entries.lookup tag).bind Json.text?).bind (fun name =>
          (Variant.named? variants name).bind (fun variant =>
            variant.fields.read (fun key => entries.lookup key)))
    | _ => none
  round_trip value := by
    have member := listed value
    have rebuild := rebuilt value
    cases viewed : view value with
    | mk variant payload =>
        rw [viewed] at member rebuild
        obtain ⟨absent, distinct⟩ := List.nodup_cons.mp (keys variant member)
        have distinctEntries : (((tag, Json.str variant.name)
            :: variant.fields.write payload).map Prod.fst).Nodup :=
          ((variant.fields.written payload).cons_cons tag).nodup (keys variant member)
        have stands := lookup_sortedByKey distinctEntries
        have name : (sortedByKey ((tag, .str variant.name)
            :: variant.fields.write payload)).lookup tag = some (.str variant.name) := by
          rw [stands, List.lookup_cons_self]
        have agrees : ∀ key ∈ variant.fields.keys,
            (sortedByKey ((tag, .str variant.name) :: variant.fields.write payload)).lookup key
              = (variant.fields.write payload).lookup key := by
          intro key inside
          have other : (key == tag) = false :=
            beq_false_of_ne (fun same => absent (same ▸ inside))
          rw [stands, List.lookup_cons, other]
        have read := variant.fields.read_write distinct payload _ agrees
        simp only [Json.ofEntries, name, Option.bind_some, Json.text?,
          Variant.named?_name names member, read]
        exact congrArg some rebuild
  encode_ne_null _ := by simp [Json.ofEntries]

end Codec

end JsonCodec
