import Mathlib.Data.Int.Notation
import Mathlib.Data.List.Basic
import Mathlib.Data.List.Nodup
import Mathlib.Data.Option.Basic

/-!
JSON values and derived codecs, as `serde` and `serde_json` have them. A codec
carries the law that what it writes it reads back. The codec of a record is made
of its fields: a field may have a default for when it is missing, and may be
left out where it has that default; a record is read from an object without
unknown keys, or from an array of its fields in order.
-/

namespace Serde

/-- A JSON value. A number that is not an integer is kept as its text. -/
inductive Value where
  | null
  | bool (value : Bool)
  | integer (value : ℤ)
  | float (text : String)
  | str (text : String)
  | arr (items : List Value)
  | obj (entries : List (String × Value))

structure Codec (α : Type) where
  encode : α → Value
  decode : Value → Option α
  decode_encode : ∀ value, decode (encode value) = some value

abbrev Bounded (low high : ℤ) := { value : ℤ // low ≤ value ∧ value ≤ high }

/-! Plain codecs. -/

def any : Codec Value where
  encode := id
  decode := some
  decode_encode _ := rfl

def boolean : Codec Bool where
  encode := .bool
  decode
    | .bool value => some value
    | _ => none
  decode_encode _ := rfl

def text : Codec String where
  encode := .str
  decode
    | .str value => some value
    | _ => none
  decode_encode _ := rfl

def bounded (low high : ℤ) : Codec (Bounded low high) where
  encode value := .integer value.val
  decode
    | .integer value => if inside : low ≤ value ∧ value ≤ high then some ⟨value, inside⟩ else none
    | _ => none
  decode_encode value := by simp [value.property]

/-- A type that is written as a text. -/
def spelled {α : Type} (format : α → String) (parse : String → Option α)
    (parse_format : ∀ value, parse (format value) = some value) : Codec α where
  encode value := .str (format value)
  decode
    | .str value => parse value
    | _ => none
  decode_encode := parse_format

/-- An enumeration: the name of a variant, or an object with it as its one key. -/
def enumeration {α : Type} (name : α → String) (ofName : String → Option α)
    (ofName_name : ∀ value, ofName (name value) = some value) : Codec α where
  encode value := .str (name value)
  decode
    | .str value => ofName value
    | .obj [(value, .null)] => ofName value
    | _ => none
  decode_encode := ofName_name

theorem mapM_encode {α : Type} (codec : Codec α) (values : List α) :
    (values.map codec.encode).mapM codec.decode = some values := by
  induction values with
  | nil => rfl
  | cons value rest ih =>
      rw [List.map_cons, List.mapM_cons, codec.decode_encode, ih]
      rfl

def list {α : Type} (codec : Codec α) : Codec (List α) where
  encode values := .arr (values.map codec.encode)
  decode
    | .arr items => items.mapM codec.decode
    | _ => none
  decode_encode := mapM_encode codec

/-- `Option`, with `null` for none. -/
def nullable {α : Type} (codec : Codec α) (solid : ∀ value, codec.encode value ≠ .null) :
    Codec (Option α) where
  encode
    | none => .null
    | some value => codec.encode value
  decode
    | .null => some none
    | other => (codec.decode other).map some
  decode_encode value := by
    cases value with
    | none => rfl
    | some value =>
        simp only
        split
        · rename_i absent
          exact absurd absent (solid value)
        · rw [codec.decode_encode]
          rfl

theorem text_solid (value : String) : text.encode value ≠ .null := nofun

theorem bounded_solid (low high : ℤ) (value : Bounded low high) :
    (bounded low high).encode value ≠ .null := nofun

theorem spelled_solid {α : Type} (format : α → String) (parse : String → Option α)
    (parse_format : ∀ value, parse (format value) = some value) (value : α) :
    (spelled format parse parse_format).encode value ≠ .null := nofun

theorem list_solid {α : Type} (codec : Codec α) (values : List α) :
    (list codec).encode values ≠ .null := nofun

theorem enumeration_solid {α : Type} (name : α → String) (ofName : String → Option α)
    (ofName_name : ∀ value, ofName (name value) = some value) (value : α) :
    (enumeration name ofName ofName_name).encode value ≠ .null := nofun

/-! Records. -/

/-- One field: what stands for it when an object misses it and when an array ends
before it, and when it is left out. -/
structure Field (α : Type) where
  name : String
  codec : Codec α
  missing : Option α
  short : Option α
  skip : α → Bool
  skipped : ∀ value, skip value = true → missing = some value

def required {α : Type} (name : String) (codec : Codec α) : Field α where
  name := name
  codec := codec
  missing := none
  short := none
  skip _ := false
  skipped _ left := by cases left

/-- `#[serde(default)]`. -/
def defaulted {α : Type} (name : String) (codec : Codec α) (default : α) : Field α where
  name := name
  codec := codec
  missing := some default
  short := some default
  skip _ := false
  skipped _ left := by cases left

/-- `#[serde(default, skip_serializing_if)]` at the default. -/
def omitted {α : Type} [DecidableEq α] (name : String) (codec : Codec α) (default : α) :
    Field α where
  name := name
  codec := codec
  missing := some default
  short := some default
  skip value := decide (value = default)
  skipped value left := by rw [of_decide_eq_true left]

/-- `#[serde(default, skip_serializing_if = "Option::is_none")]`. -/
def optional {α : Type} (name : String) (codec : Codec (Option α)) : Field (Option α) where
  name := name
  codec := codec
  missing := some none
  short := some none
  skip := Option.isNone
  skipped value left := by rw [Option.isNone_iff_eq_none.mp left]

/-- An `Option` without attributes: none when it is missing from an object. -/
def present {α : Type} (name : String) (codec : Codec (Option α)) : Field (Option α) where
  name := name
  codec := codec
  missing := some none
  short := none
  skip _ := false
  skipped _ left := by cases left

/-- `#[serde(skip_serializing_if = "Option::is_none")]`. -/
def skippedNone {α : Type} (name : String) (codec : Codec (Option α)) : Field (Option α) where
  name := name
  codec := codec
  missing := some none
  short := none
  skip := Option.isNone
  skipped value left := by rw [Option.isNone_iff_eq_none.mp left]

structure Fields (α : Type) where
  names : List String
  encode : α → List (String × Value)
  decode : List (String × Value) → Option α
  decodeSeq : List Value → Option (α × List Value)
  encode_named : ∀ value, ∀ entry ∈ encode value, entry.1 ∈ names
  decode_local : ∀ entries others,
    (∀ name ∈ names, entries.lookup name = others.lookup name) → decode entries = decode others
  decode_encode : ∀ value, decode (encode value) = some value

def Fields.nil : Fields Unit where
  names := []
  encode _ := []
  decode _ := some ()
  decodeSeq items := some ((), items)
  encode_named _ _ member := by cases member
  decode_local _ _ _ := rfl
  decode_encode _ := rfl

theorem Fields.decode_frame {α : Type} (fields : Fields α) {name : String} (value : Value)
    (entries : List (String × Value)) (unnamed : name ∉ fields.names) :
    fields.decode ((name, value) :: entries) = fields.decode entries := by
  apply fields.decode_local
  intro other listed
  have apart : other ≠ name := by
    rintro rfl
    exact unnamed listed
  rw [List.lookup_cons, beq_false_of_ne apart]

def Field.read {α : Type} (field : Field α) (entries : List (String × Value)) : Option α :=
  match entries.lookup field.name with
  | some value => field.codec.decode value
  | none => field.missing

def Field.write {α : Type} (field : Field α) (value : α) : List (String × Value) :=
  if field.skip value then [] else [(field.name, field.codec.encode value)]

def Field.readSeq {α : Type} (field : Field α) : List Value → Option (α × List Value)
  | [] => field.short.map fun value => (value, [])
  | item :: rest => (field.codec.decode item).map fun value => (value, rest)

theorem lookup_of_named {name : String} {entries : List (String × Value)}
    (absent : ∀ entry ∈ entries, entry.1 ≠ name) : entries.lookup name = none := by
  rw [List.lookup_eq_none_iff]
  intro entry member
  simpa using (absent entry member).symm

theorem Field.read_local {α : Type} (field : Field α) {entries others : List (String × Value)}
    (same : entries.lookup field.name = others.lookup field.name) :
    field.read entries = field.read others := by
  unfold Field.read
  rw [same]

theorem Field.read_write {α : Type} (field : Field α) (value : α)
    {entries : List (String × Value)} (absent : ∀ entry ∈ entries, entry.1 ≠ field.name) :
    field.read (field.write value ++ entries) = some value := by
  unfold Field.read Field.write
  cases left : field.skip value with
  | true =>
      simp only [if_true, List.nil_append, lookup_of_named absent]
      exact field.skipped value left
  | false =>
      simp only [Bool.false_eq_true, if_false, List.singleton_append, List.lookup_cons,
        beq_self_eq_true]
      exact field.codec.decode_encode value

def Fields.cons {α β : Type} (field : Field α) (rest : Fields β)
    (fresh : rest.names.contains field.name = false := by rfl) : Fields (α × β) where
  names := field.name :: rest.names
  encode value := field.write value.1 ++ rest.encode value.2
  decode entries := do
    let first ← field.read entries
    let others ← rest.decode entries
    some (first, others)
  decodeSeq items := do
    let (first, items) ← field.readSeq items
    let (others, items) ← rest.decodeSeq items
    some ((first, others), items)
  encode_named value entry member := by
    rcases List.mem_append.mp member with own | other
    · unfold Field.write at own
      split at own
      · cases own
      · rw [List.mem_singleton.mp own]
        exact List.mem_cons_self
    · exact List.mem_cons_of_mem _ (rest.encode_named value.2 entry other)
  decode_local entries others same := by
    rw [field.read_local (same field.name List.mem_cons_self),
      rest.decode_local entries others fun name listed => same name (List.mem_cons_of_mem _ listed)]
  decode_encode value := by
    have unnamed : field.name ∉ rest.names := by simpa using fresh
    have absent : ∀ entry ∈ rest.encode value.2, entry.1 ≠ field.name := by
      intro entry member same
      exact unnamed (same ▸ rest.encode_named value.2 entry member)
    have tail : rest.decode (field.write value.1 ++ rest.encode value.2) = some value.2 := by
      unfold Field.write
      split
      · exact rest.decode_encode value.2
      · rw [List.singleton_append, rest.decode_frame _ _ unnamed, rest.decode_encode]
    rw [field.read_write value.1 absent, tail]
    rfl

theorem Fields.decode_named {α β : Type} {field : Field α} {rest : Fields β}
    {fresh : rest.names.contains field.name = false} {item : Value} {value : α} {others : β}
    {entries : List (String × Value)} (read : field.codec.decode item = some value)
    (tail : rest.decode entries = some others) :
    (Fields.cons field rest fresh).decode ((field.name, item) :: entries) =
      some (value, others) := by
  have unnamed : field.name ∉ rest.names := by simpa using fresh
  have first : field.read ((field.name, item) :: entries) = some value := by
    unfold Field.read
    rw [List.lookup_cons, beq_self_eq_true]
    exact read
  change ((field.read _).bind fun first => (rest.decode _).bind fun others =>
    some (first, others)) = _
  rw [first, rest.decode_frame _ _ unnamed, tail]
  rfl

def Fields.as {α β : Type} (fields : Fields α) (make : α → β) (view : β → α)
    (make_view : ∀ value, make (view value) = value) : Fields β where
  names := fields.names
  encode value := fields.encode (view value)
  decode entries := (fields.decode entries).map make
  decodeSeq items := (fields.decodeSeq items).map fun read => (make read.1, read.2)
  encode_named value := fields.encode_named (view value)
  decode_local entries others same := by
    rw [fields.decode_local entries others same]
  decode_encode value := by
    rw [fields.decode_encode, Option.map_some, make_view]

theorem Fields.as_decode {α β : Type} {fields : Fields α} {make : α → β} {view : β → α}
    {make_view : ∀ value, make (view value) = value} {entries : List (String × Value)} {value : α}
    (read : fields.decode entries = some value) :
    (fields.as make view make_view).decode entries = some (make value) := by
  change (fields.decode entries).map make = some (make value)
  rw [read, Option.map_some]

def Fields.decodeArray {α : Type} (fields : Fields α) (items : List Value) : Option α :=
  match fields.decodeSeq items with
  | some (value, []) => some value
  | _ => none

def Fields.decodeObject {α : Type} (fields : Fields α) (entries : List (String × Value)) :
    Option α :=
  if entries.all fun entry => decide (entry.1 ∈ fields.names) then fields.decode entries else none

theorem Fields.decodeObject_encode {α : Type} (fields : Fields α) (value : α) :
    fields.decodeObject (fields.encode value) = some value := by
  have known : ((fields.encode value).all fun entry => decide (entry.1 ∈ fields.names)) = true := by
    rw [List.all_eq_true]
    intro entry member
    exact decide_eq_true (fields.encode_named value entry member)
  unfold Fields.decodeObject
  rw [if_pos known, fields.decode_encode]

/-- `#[serde(deny_unknown_fields)]` on a structure. -/
def record {α : Type} (fields : Fields α) : Codec α where
  encode value := .obj (fields.encode value)
  decode
    | .obj entries => fields.decodeObject entries
    | .arr items => fields.decodeArray items
    | _ => none
  decode_encode := fields.decodeObject_encode

theorem record_decode {α : Type} {fields : Fields α} {entries : List (String × Value)} {value : α}
    (known : (entries.all fun entry => decide (entry.1 ∈ fields.names)) = true)
    (read : fields.decode entries = some value) :
    (record fields).decode (.obj entries) = some value := by
  change fields.decodeObject entries = some value
  unfold Fields.decodeObject
  rw [if_pos known, read]

theorem record_solid {α : Type} (fields : Fields α) (value : α) :
    (record fields).encode value ≠ .null := nofun

def Fields.lenient {α : Type} (fields : Fields α) : Codec α where
  encode value := .obj (fields.encode value)
  decode
    | .obj entries => fields.decode entries
    | .arr items => fields.decodeArray items
    | _ => none
  decode_encode := fields.decode_encode

theorem lenient_solid {α : Type} (fields : Fields α) (value : α) :
    fields.lenient.encode value ≠ .null := nofun

/-! Internally tagged enumerations. -/

/-- How one variant is read, its tag apart. -/
structure Variant (α : Type) where
  names : List String
  decodeObject : List (String × Value) → Option α
  decodeArray : List Value → Option α

def Fields.variant {α β : Type} (fields : Fields α) (wrap : α → β) : Variant β where
  names := fields.names
  decodeObject entries := (fields.decodeObject entries).map wrap
  decodeArray items := (fields.decodeArray items).map wrap

theorem Fields.variant_encode {α β : Type} (fields : Fields α) (wrap : α → β) (value : α) :
    (fields.variant wrap).decodeObject (fields.encode value) = some (wrap value) := by
  change (fields.decodeObject (fields.encode value)).map wrap = some (wrap value)
  rw [fields.decodeObject_encode, Option.map_some]

/-- The tag and the fields of each variant. -/
structure Tagging (α : Type) where
  tag : String
  write : α → String × List (String × Value)
  variant : String → Option (Variant α)
  untagged : ∀ value, ∀ entry ∈ (write value).2, entry.1 ≠ tag
  read_write : ∀ value, ∃ variant', variant (write value).1 = some variant' ∧
    variant'.decodeObject (write value).2 = some value

/-- `#[serde(tag = "…", deny_unknown_fields)]` on an enumeration. -/
def tagged {α : Type} (tagging : Tagging α) : Codec α where
  encode value := .obj ((tagging.tag, .str (tagging.write value).1) :: (tagging.write value).2)
  decode
    | .obj entries =>
        match entries.lookup tagging.tag with
        | some (.str name) =>
            (tagging.variant name).bind fun variant =>
              variant.decodeObject (entries.filter fun entry => entry.1 != tagging.tag)
        | _ => none
    | .arr (.str name :: items) =>
        (tagging.variant name).bind fun variant => variant.decodeArray items
    | _ => none
  decode_encode value := by
    obtain ⟨variant, found, read⟩ := tagging.read_write value
    have kept : (tagging.write value).2.filter (fun entry => entry.1 != tagging.tag) =
        (tagging.write value).2 := by
      rw [List.filter_eq_self]
      intro entry member
      simpa using tagging.untagged value entry member
    simp only [List.lookup_cons, beq_self_eq_true, found, Option.bind_some, List.filter_cons,
      bne_self_eq_false, Bool.false_eq_true, if_false, kept, read]

end Serde
