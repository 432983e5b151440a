import MarketplaceService.Lib.Serde
import Mathlib.Data.List.Lex
import Mathlib.Data.List.Sort
import Mathlib.Data.String.Basic

/-!
The JSON Canonicalization Scheme, by the document that a canonical text spells: the
members of each object are ordered by the UTF-16 form of their names, and each
number is the one that its canonical spelling reads as. A value of a derived codec
is read back from the document exactly when that changes none of its numbers.
-/

namespace Serde

inductive Number where
  | integer (value : ℤ)
  | float (text : String)
deriving DecidableEq

def Number.value : Number → Value
  | .integer value => .integer value
  | .float text => .float text

def utf16 (text : String) : List ℕ :=
  text.toList.flatMap fun char =>
    if char.toNat < 0x10000 then [char.toNat]
    else [0xD800 + (char.toNat - 0x10000) / 0x400, 0xDC00 + (char.toNat - 0x10000) % 0x400]

def MemberLe (first second : String × Value) : Prop := utf16 first.1 ≤ utf16 second.1

instance : DecidableRel MemberLe := fun first second =>
  inferInstanceAs (Decidable (utf16 first.1 ≤ utf16 second.1))

instance : Std.Total MemberLe := ⟨fun first second => le_total (utf16 first.1) (utf16 second.1)⟩

instance : IsTrans (String × Value) MemberLe := ⟨fun _ _ _ => le_trans⟩

mutual

/-- The document, with its members in order and its numbers as they are reread. -/
def Value.canonical (reread : Number → Number) : Value → Value
  | .null => .null
  | .bool value => .bool value
  | .integer value => (reread (.integer value)).value
  | .float text => (reread (.float text)).value
  | .str text => .str text
  | .arr items => .arr (canonicalItems reread items)
  | .obj entries => .obj ((canonicalEntries reread entries).insertionSort MemberLe)

def canonicalItems (reread : Number → Number) : List Value → List Value
  | [] => []
  | item :: rest => item.canonical reread :: canonicalItems reread rest

def canonicalEntries (reread : Number → Number) :
    List (String × Value) → List (String × Value)
  | [] => []
  | (name, value) :: rest => (name, value.canonical reread) :: canonicalEntries reread rest

end

mutual

/-- Every number of the document is reread as itself. -/
def Value.Kept (reread : Number → Number) : Value → Prop
  | .integer value => reread (.integer value) = .integer value
  | .float text => reread (.float text) = .float text
  | .arr items => ItemsKept reread items
  | .obj entries => EntriesKept reread entries
  | _ => True

def ItemsKept (reread : Number → Number) : List Value → Prop
  | [] => True
  | item :: rest => item.Kept reread ∧ ItemsKept reread rest

def EntriesKept (reread : Number → Number) : List (String × Value) → Prop
  | [] => True
  | (_, value) :: rest => value.Kept reread ∧ EntriesKept reread rest

end

theorem canonicalItems_eq (reread : Number → Number) (items : List Value) :
    canonicalItems reread items = items.map (Value.canonical reread) := by
  induction items with
  | nil => rfl
  | cons item rest ih => rw [canonicalItems, ih, List.map_cons]

def canonicalEntry (reread : Number → Number) (entry : String × Value) : String × Value :=
  (entry.1, entry.2.canonical reread)

theorem canonicalEntries_eq (reread : Number → Number) (entries : List (String × Value)) :
    canonicalEntries reread entries = entries.map (canonicalEntry reread) := by
  induction entries with
  | nil => rfl
  | cons entry rest ih => rw [canonicalEntries, ih, List.map_cons]; rfl

theorem itemsKept_iff (reread : Number → Number) (items : List Value) :
    ItemsKept reread items ↔ ∀ item ∈ items, item.Kept reread := by
  induction items with
  | nil => simp [ItemsKept]
  | cons item rest ih => simp [ItemsKept, ih]

theorem entriesKept_iff (reread : Number → Number) (entries : List (String × Value)) :
    EntriesKept reread entries ↔ ∀ entry ∈ entries, entry.2.Kept reread := by
  induction entries with
  | nil => simp [EntriesKept]
  | cons entry rest ih => simp only [EntriesKept, ih, List.forall_mem_cons]

/-- Ordering the members looks at their names only. -/
theorem insertionSort_canonical (reread : Number → Number) (entries : List (String × Value)) :
    (entries.map (canonicalEntry reread)).insertionSort MemberLe =
      (entries.insertionSort MemberLe).map (canonicalEntry reread) :=
  (List.map_insertionSort MemberLe MemberLe (canonicalEntry reread) entries
    fun _ _ _ _ => Iff.rfl).symm

/-- The first member of a name stays the first. -/
theorem lookup_insertionSort (name : String) (entries : List (String × Value)) :
    (entries.insertionSort MemberLe).lookup name = entries.lookup name := by
  have inserted (entry : String × Value) (others : List (String × Value)) :
      (others.orderedInsert MemberLe entry).lookup name = (entry :: others).lookup name := by
    induction others with
    | nil => rfl
    | cons head rest ih =>
        rw [List.orderedInsert_cons]
        split
        case isTrue => rfl
        case isFalse after =>
          have apart : entry.1 ≠ head.1 := by
            intro same
            exact after (show utf16 entry.1 ≤ utf16 head.1 by rw [same])
          rw [List.lookup_cons, ih, List.lookup_cons, List.lookup_cons, List.lookup_cons]
          by_cases here : name = head.1
          · have other : name ≠ entry.1 := fun same => apart (same.symm.trans here)
            rw [beq_false_of_ne other]
          · rw [beq_false_of_ne here]
  induction entries with
  | nil => rfl
  | cons entry rest ih =>
      rw [List.insertionSort_cons, inserted, List.lookup_cons, List.lookup_cons, ih]

theorem lookup_canonical (reread : Number → Number) (name : String)
    (entries : List (String × Value)) :
    ((entries.insertionSort MemberLe).map (canonicalEntry reread)).lookup name =
      (entries.lookup name).map (Value.canonical reread) := by
  rw [← insertionSort_canonical, lookup_insertionSort]
  induction entries with
  | nil => rfl
  | cons entry rest ih =>
      rw [List.map_cons, List.lookup_cons, List.lookup_cons]
      by_cases here : name = entry.1
      · rw [here, canonicalEntry, beq_self_eq_true]
        rfl
      · rw [canonicalEntry, beq_false_of_ne here]
        exact ih

theorem Value.nested {motive : Value → Prop} (null : motive .null)
    (bool : ∀ value, motive (.bool value)) (integer : ∀ value, motive (.integer value))
    (float : ∀ text, motive (.float text)) (str : ∀ text, motive (.str text))
    (arr : ∀ items, (∀ item ∈ items, motive item) → motive (.arr items))
    (obj : ∀ entries : List (String × Value), (∀ entry ∈ entries, motive entry.2) →
      motive (.obj entries)) (value : Value) : motive value :=
  @Value.rec motive (fun items => ∀ item ∈ items, motive item)
    (fun entries => ∀ entry ∈ entries, motive entry.2) (fun entry => motive entry.2)
    null bool integer float str arr obj nofun
    (fun _ _ first rest => List.forall_mem_cons.mpr ⟨first, rest⟩) nofun
    (fun _ _ first rest => List.forall_mem_cons.mpr ⟨first, rest⟩) (fun _ _ own => own) value

mutual

def Value.same : Value → Value → Bool
  | .null, .null => true
  | .bool first, .bool second => first == second
  | .integer first, .integer second => first == second
  | .float first, .float second => first == second
  | .str first, .str second => first == second
  | .arr first, .arr second => sameItems first second
  | .obj first, .obj second => sameEntries first second
  | _, _ => false

def sameItems : List Value → List Value → Bool
  | [], [] => true
  | item :: rest, other :: others => item.same other && sameItems rest others
  | _, _ => false

def sameEntries : List (String × Value) → List (String × Value) → Bool
  | [], [] => true
  | (name, value) :: rest, (title, other) :: others =>
      name == title && value.same other && sameEntries rest others
  | _, _ => false

end

theorem Value.same_iff (value : Value) : ∀ other, value.same other = true ↔ value = other := by
  induction value using Value.nested with
  | null => intro other; cases other <;> simp [Value.same]
  | bool value => intro other; cases other <;> simp [Value.same]
  | integer value => intro other; cases other <;> simp [Value.same]
  | float text => intro other; cases other <;> simp [Value.same]
  | str text => intro other; cases other <;> simp [Value.same]
  | arr items ih =>
      have list : ∀ others, sameItems items others = true ↔ items = others := by
        induction items with
        | nil => intro others; cases others <;> simp [sameItems]
        | cons item rest each =>
            intro others
            have item_same := ih item List.mem_cons_self
            have rest_same := each fun next member => ih next (List.mem_cons_of_mem item member)
            cases others <;> simp [sameItems, item_same, rest_same]
      intro other
      cases other <;> simp [Value.same, list]
  | obj entries ih =>
      have list : ∀ others, sameEntries entries others = true ↔ entries = others := by
        induction entries with
        | nil => intro others; cases others <;> simp [sameEntries]
        | cons entry rest each =>
            intro others
            have entry_same := ih entry List.mem_cons_self
            have rest_same := each fun next member => ih next (List.mem_cons_of_mem entry member)
            obtain ⟨name, value⟩ := entry
            cases others <;> simp [sameEntries, Prod.ext_iff, entry_same, rest_same]
      intro other
      cases other <;> simp [Value.same, list]

instance : DecidableEq Value := fun value other => decidable_of_iff _ (value.same_iff other)

def Value.ordered (value : Value) : Value := value.canonical id

theorem Number.value_canonical (reread : Number → Number) (number : Number) :
    number.value.canonical reread = (reread number).value := by
  cases number <;> rfl

theorem Number.value_inj {first second : Number} (same : first.value = second.value) :
    first = second := by
  cases first <;> cases second <;> cases same <;> rfl

theorem ordered_canonical (reread : Number → Number) (value : Value) :
    (value.canonical reread).ordered = value.canonical reread := by
  unfold Value.ordered
  induction value using Value.nested with
  | null => rfl
  | bool => rfl
  | str => rfl
  | integer value => exact (reread (.integer value)).value_canonical id
  | float text => exact (reread (.float text)).value_canonical id
  | arr items ih =>
      simp only [Value.canonical, canonicalItems_eq, List.map_map, Value.arr.injEq]
      exact List.map_congr_left ih
  | obj entries ih =>
      have members : ((entries.insertionSort MemberLe).map (canonicalEntry reread)).map
          (canonicalEntry id) = (entries.insertionSort MemberLe).map (canonicalEntry reread) := by
        rw [List.map_map]
        refine List.map_congr_left fun entry member => ?_
        have own := ih entry ((List.mem_insertionSort MemberLe).mp member)
        exact Prod.ext rfl own
      simp only [Value.canonical, canonicalEntries_eq, Value.obj.injEq]
      rw [insertionSort_canonical reread, members, ← insertionSort_canonical reread]
      exact (List.pairwise_insertionSort MemberLe _).insertionSort_eq

/-- Keeping its numbers, a document only has its members ordered. -/
theorem kept_iff (reread : Number → Number) (value : Value) :
    value.Kept reread ↔ value.canonical reread = value.ordered := by
  unfold Value.ordered
  induction value using Value.nested with
  | null => simp [Value.Kept, Value.canonical]
  | bool => simp [Value.Kept, Value.canonical]
  | str => simp [Value.Kept, Value.canonical]
  | integer value =>
      exact ⟨fun kept => congrArg Number.value kept,
        fun same => @Number.value_inj (reread (.integer value)) (.integer value) same⟩
  | float text =>
      exact ⟨fun kept => congrArg Number.value kept,
        fun same => @Number.value_inj (reread (.float text)) (.float text) same⟩
  | arr items ih =>
      simp only [Value.Kept, itemsKept_iff, Value.canonical, canonicalItems_eq,
        Value.arr.injEq, List.map_inj_left]
      exact forall₂_congr ih
  | obj entries ih =>
      simp only [Value.Kept, entriesKept_iff, Value.canonical, canonicalEntries_eq,
        insertionSort_canonical, Value.obj.injEq, List.map_inj_left,
        List.mem_insertionSort]
      refine forall₂_congr fun entry member => (ih entry member).trans ?_
      simp only [canonicalEntry, Prod.mk.injEq, true_and]

/-! Codecs. -/

/-- What the canonical document of a value reads as. -/
def Codec.reread {α : Type} (codec : Codec α) (reread : Number → Number) (value : α) : Option α :=
  codec.decode ((codec.encode value).canonical reread)

/-- A value is read back exactly when its numbers are kept. -/
def Codec.Exact {α : Type} (codec : Codec α) (reread : Number → Number) : Prop :=
  ∀ value, codec.reread reread value = some value ↔ (codec.encode value).Kept reread

theorem exact_of_str {α : Type} {codec : Codec α} (reread : Number → Number)
    (text : α → String) (written : ∀ value, codec.encode value = .str (text value)) :
    codec.Exact reread := by
  intro value
  have read := codec.decode_encode value
  unfold Codec.reread
  rw [written] at read ⊢
  simp only [Value.canonical, read, Value.Kept]

theorem bounded_exact (reread : Number → Number) (low high : ℤ) :
    (bounded low high).Exact reread := by
  intro value
  change (bounded low high).decode (reread (.integer value.val)).value = some value ↔
    reread (.integer value.val) = .integer value.val
  cases number : reread (.integer value.val) with
  | float text =>
      simp only [Number.value, bounded, reduceCtorEq]
  | integer other =>
      constructor
      · intro read
        change (if inside : low ≤ other ∧ other ≤ high then
          some (⟨other, inside⟩ : Bounded low high) else none) = some value at read
        split at read
        · rw [← Option.some.inj read]
        · cases read
      · intro same
        rw [same]
        exact (bounded low high).decode_encode value

theorem list_exact {α : Type} {codec : Codec α} {reread : Number → Number}
    (items : codec.Exact reread) : (list codec).Exact reread := by
  intro values
  change (canonicalItems reread (values.map codec.encode)).mapM codec.decode = some values ↔
    ItemsKept reread (values.map codec.encode)
  rw [canonicalItems_eq, itemsKept_iff]
  induction values with
  | nil => simp
  | cons value rest ih =>
      have first := items value
      unfold Codec.reread at first
      simp only [List.map_cons, List.mapM_cons, List.forall_mem_cons, ← ih, ← first]
      constructor
      · intro read
        obtain ⟨head, own, read⟩ := Option.bind_eq_some_iff.mp read
        obtain ⟨tail, others, read⟩ := Option.bind_eq_some_iff.mp read
        cases read
        exact ⟨own, others⟩
      · rintro ⟨own, others⟩
        rw [own, others]
        rfl

theorem canonical_eq_null (reread : Number → Number) (value : Value) :
    value.canonical reread = .null ↔ value = .null := by
  cases value with
  | null => simp [Value.canonical]
  | integer number => cases other : reread (.integer number) <;>
      simp [Value.canonical, other, Number.value]
  | float text => cases other : reread (.float text) <;>
      simp [Value.canonical, other, Number.value]
  | bool value => simp [Value.canonical]
  | str text => simp [Value.canonical]
  | arr items => simp [Value.canonical]
  | obj entries => simp [Value.canonical]

theorem nullable_exact {α : Type} {codec : Codec α} {reread : Number → Number}
    (solid : ∀ value, codec.encode value ≠ .null) (own : codec.Exact reread) :
    (nullable codec solid).Exact reread := by
  intro value
  cases value with
  | none => simp [Codec.reread, nullable, Value.canonical, Value.Kept]
  | some value =>
      change (nullable codec solid).decode ((codec.encode value).canonical reread) =
        some (some value) ↔ (codec.encode value).Kept reread
      rw [← own value]
      unfold Codec.reread
      have present : (codec.encode value).canonical reread ≠ .null :=
        mt (canonical_eq_null reread _).mp (solid value)
      cases shape : (codec.encode value).canonical reread with
      | null => exact absurd shape present
      | _ => simp [nullable]

/-! Records. -/

def canonicalMembers (reread : Number → Number) (entries : List (String × Value)) :
    List (String × Value) :=
  (entries.insertionSort MemberLe).map (canonicalEntry reread)

theorem mem_canonicalMembers {reread : Number → Number} {entries : List (String × Value)}
    {entry : String × Value} (member : entry ∈ canonicalMembers reread entries) :
    ∃ original ∈ entries, original.1 = entry.1 := by
  obtain ⟨original, among, rfl⟩ := List.mem_map.mp member
  exact ⟨original, (List.mem_insertionSort MemberLe).mp among, rfl⟩

def Field.reread {α : Type} (field : Field α) (reread : Number → Number) (value : α) : Option α :=
  if field.skip value then some value else field.codec.reread reread value

def Fields.reread {α : Type} (fields : Fields α) (reread : Number → Number) (value : α) :
    Option α :=
  fields.decode (canonicalMembers reread (fields.encode value))

theorem Fields.reread_cons {α β : Type} (field : Field α) (rest : Fields β)
    (fresh : rest.names.contains field.name = false) (reread : Number → Number) (first : α)
    (others : β) :
    (Fields.cons field rest fresh).reread reread (first, others) =
      (field.reread reread first).bind fun first' =>
        (rest.reread reread others).bind fun others' => some (first', others') := by
  have unnamed : field.name ∉ rest.names := by simpa using fresh
  have absent : (rest.encode others).lookup field.name = none := by
    apply lookup_of_named
    intro entry member same
    exact unnamed (same ▸ rest.encode_named others entry member)
  have own : field.read (canonicalMembers reread (field.write first ++ rest.encode others)) =
      field.reread reread first := by
    unfold Field.read Field.reread canonicalMembers
    rw [lookup_canonical]
    cases left : field.skip first with
    | true =>
        have none : (field.write first ++ rest.encode others).lookup field.name = none := by
          simp only [Field.write, left, if_true, List.nil_append, absent]
        rw [none]
        exact field.skipped first left
    | false =>
        have some : (field.write first ++ rest.encode others).lookup field.name =
            some (field.codec.encode first) := by
          simp only [Field.write, left, Bool.false_eq_true, if_false, List.singleton_append,
            List.lookup_cons, beq_self_eq_true]
        rw [some]
        rfl
  have later : rest.decode (canonicalMembers reread (field.write first ++ rest.encode others)) =
      rest.reread reread others := by
    apply rest.decode_local
    intro name listed
    unfold canonicalMembers
    rw [lookup_canonical, lookup_canonical]
    have apart : name ≠ field.name := by
      rintro rfl
      exact unnamed listed
    unfold Field.write
    split
    · rfl
    · rw [List.singleton_append, List.lookup_cons, beq_false_of_ne apart]
  change ((field.read _).bind fun first' => (rest.decode _).bind fun others' =>
    some (first', others')) = _
  rw [show (Fields.cons field rest fresh).encode (first, others) =
    field.write first ++ rest.encode others from rfl, own, later]

theorem Fields.reread_parts {α β : Type} {field : Field α} {rest : Fields β}
    {fresh : rest.names.contains field.name = false} {reread : Number → Number}
    {value again : α × β} (read : (Fields.cons field rest fresh).reread reread value = some again) :
    field.reread reread value.1 = some again.1 ∧ rest.reread reread value.2 = some again.2 := by
  rw [Fields.reread_cons] at read
  obtain ⟨first, own, read⟩ := Option.bind_eq_some_iff.mp read
  obtain ⟨others, later, read⟩ := Option.bind_eq_some_iff.mp read
  cases read
  exact ⟨own, later⟩

theorem Fields.reread_as {α β : Type} (fields : Fields α) (make : α → β) (view : β → α)
    (make_view : ∀ value, make (view value) = value) (reread : Number → Number) (value : β) :
    (fields.as make view make_view).reread reread value =
      (fields.reread reread (view value)).map make := rfl

theorem reread_record {α : Type} (fields : Fields α) (reread : Number → Number) (value : α) :
    (record fields).reread reread value = fields.reread reread value := by
  change (record fields).decode (.obj ((canonicalEntries reread (fields.encode value)).insertionSort
    MemberLe)) = _
  rw [canonicalEntries_eq, insertionSort_canonical]
  have known : ((canonicalMembers reread (fields.encode value)).all fun entry =>
      decide (entry.1 ∈ fields.names)) = true := by
    rw [List.all_eq_true]
    intro entry member
    obtain ⟨original, among, same⟩ := mem_canonicalMembers member
    exact decide_eq_true (same ▸ fields.encode_named value original among)
  change fields.decodeObject (canonicalMembers reread (fields.encode value)) = _
  unfold Fields.decodeObject
  rw [if_pos known]
  rfl

def Fields.Exact {α : Type} (fields : Fields α) (reread : Number → Number) : Prop :=
  ∀ value, fields.reread reread value = some value ↔
    ∀ entry ∈ fields.encode value, entry.2.Kept reread

theorem nil_exact (reread : Number → Number) : Fields.nil.Exact reread := by
  intro value
  simp [Fields.reread, Fields.nil]

theorem cons_exact {α β : Type} {field : Field α} {rest : Fields β}
    {fresh : rest.names.contains field.name = false} {reread : Number → Number}
    (own : field.codec.Exact reread) (others : rest.Exact reread) :
    (Fields.cons field rest fresh).Exact reread := by
  rintro ⟨first, later⟩
  have written : ∀ entry : String × Value,
      entry ∈ (Fields.cons field rest fresh).encode (first, later) ↔
      entry ∈ field.write first ∨ entry ∈ rest.encode later := fun entry => List.mem_append
  have mine : field.reread reread first = some first ↔
      ∀ entry ∈ field.write first, entry.2.Kept reread := by
    unfold Field.reread Field.write
    split
    · simp
    · simpa using own first
  have rests := others later
  simp only [written, or_imp, forall_and, ← mine, ← rests, Fields.reread_cons,
    Option.bind_eq_some_iff, Option.some.injEq, Prod.mk.injEq]
  constructor
  · rintro ⟨first', own, later', others, rfl, rfl⟩
    exact ⟨own, others⟩
  · rintro ⟨own, others⟩
    exact ⟨first, own, later, others, rfl, rfl⟩

theorem as_exact {α β : Type} {fields : Fields α} {make : α → β} {view : β → α}
    {make_view : ∀ value, make (view value) = value} {reread : Number → Number}
    (view_make : ∀ parts, view (make parts) = parts) (own : fields.Exact reread) :
    (fields.as make view make_view).Exact reread := by
  intro value
  have parts := own (view value)
  rw [Fields.reread_as]
  refine Iff.trans ?_ parts
  constructor
  · intro read
    obtain ⟨found, same, made⟩ := Option.map_eq_some_iff.mp read
    rw [same, ← made, view_make]
  · intro read
    rw [read, Option.map_some, make_view]

theorem record_exact {α : Type} {fields : Fields α} {reread : Number → Number}
    (own : fields.Exact reread) : (record fields).Exact reread := by
  intro value
  rw [reread_record, own value]
  exact (entriesKept_iff reread (fields.encode value)).symm

/-! Any value, and maps with any names. -/

abbrev OrderedValue := { value : Value // value.ordered = value }

def verbatim : Codec OrderedValue where
  encode := Subtype.val
  decode value := some ⟨value.ordered, ordered_canonical id value⟩
  decode_encode value := congrArg some (Subtype.ext value.property)

theorem verbatim_exact (reread : Number → Number) : verbatim.Exact reread := by
  intro value
  have kept := kept_iff reread value.val
  rw [value.property, ← ordered_canonical reread value.val] at kept
  exact (Option.some.injEq _ _ ▸ Subtype.ext_iff).trans kept.symm

/-- A map by its entries, in the order of their names. -/
abbrev Dictionary (α : Type) :=
  { entries : List (String × α) // entries.Pairwise fun first second => first.1 < second.1 }

def NameLe {α : Type} (first second : String × α) : Prop := first.1 ≤ second.1

instance {α : Type} : DecidableRel (@NameLe α) := fun first second =>
  inferInstanceAs (Decidable (first.1 ≤ second.1))

instance {α : Type} : Std.Total (@NameLe α) := ⟨fun first second => le_total first.1 second.1⟩

instance {α : Type} : IsTrans (String × α) NameLe := ⟨fun _ _ _ => le_trans⟩

theorem sorted_names {α : Type} {entries : List (String × α)}
    (single : (entries.map Prod.fst).Nodup) :
    (entries.insertionSort NameLe).Pairwise fun first second => first.1 < second.1 := by
  have names : ((entries.insertionSort NameLe).map Prod.fst).Nodup :=
    (((List.perm_insertionSort NameLe entries).map Prod.fst).nodup_iff).mpr single
  have apart := List.pairwise_map.mp names
  exact ((List.pairwise_insertionSort NameLe entries).and apart).imp
    fun both => lt_of_le_of_ne both.1 both.2

def decodeEntry {α : Type} (codec : Codec α) (entry : String × Value) : Option (String × α) :=
  (codec.decode entry.2).map fun value => (entry.1, value)

/-- `BTreeMap<String, _>`; an object has each name once. -/
def Dictionary.ofEntries {α : Type} (entries : List (String × α)) : Option (Dictionary α) :=
  if single : (entries.map Prod.fst).Nodup then
    some ⟨entries.insertionSort NameLe, sorted_names single⟩
  else none

theorem Dictionary.single {α : Type} (map : Dictionary α) : (map.val.map Prod.fst).Nodup :=
  List.pairwise_map.mpr (map.property.imp fun before => ne_of_lt before)

theorem Dictionary.ofEntries_perm {α : Type} {map : Dictionary α} {entries : List (String × α)}
    (same : entries.Perm map.val) : Dictionary.ofEntries entries = some map := by
  have single : (entries.map Prod.fst).Nodup := ((same.map Prod.fst).nodup_iff).mpr map.single
  unfold Dictionary.ofEntries
  rw [dif_pos single]
  refine congrArg some (Subtype.ext ?_)
  refine List.Perm.eq_of_pairwise (fun first second _ _ before after => ?_) (sorted_names single)
    map.property ((List.perm_insertionSort NameLe entries).trans same)
  exact absurd (before.trans after) (lt_irrefl _)

theorem mapM_decodeEntry {α : Type} (codec : Codec α) (entries : List (String × α)) :
    (entries.map fun entry => (entry.1, codec.encode entry.2)).mapM (decodeEntry codec) =
      some entries := by
  induction entries with
  | nil => rfl
  | cons entry rest ih =>
      rw [List.map_cons, List.mapM_cons, ih]
      simp only [decodeEntry, codec.decode_encode]
      rfl

def dictionary {α : Type} (codec : Codec α) : Codec (Dictionary α) where
  encode map := .obj (map.val.map fun entry => (entry.1, codec.encode entry.2))
  decode
    | .obj entries => (entries.mapM (decodeEntry codec)).bind Dictionary.ofEntries
    | _ => none
  decode_encode map := by
    simp only [mapM_decodeEntry, Option.bind_some]
    exact Dictionary.ofEntries_perm (List.Perm.refl map.val)

theorem reread_dictionary {α : Type} (codec : Codec α) (reread : Number → Number)
    (map : Dictionary α) :
    (dictionary codec).reread reread map =
      ((map.val.insertionSort fun first second => utf16 first.1 ≤ utf16 second.1).mapM
        fun entry => (codec.reread reread entry.2).map fun value => (entry.1, value)).bind
        Dictionary.ofEntries := by
  change ((List.insertionSort MemberLe (canonicalEntries reread
    (map.val.map fun entry => (entry.1, codec.encode entry.2)))).mapM (decodeEntry codec)).bind
    Dictionary.ofEntries = _
  have moved := List.map_insertionSort (fun first second : String × α =>
      utf16 first.1 ≤ utf16 second.1) MemberLe
    (fun entry => (entry.1, codec.encode entry.2)) map.val fun _ _ _ _ => Iff.rfl
  rw [canonicalEntries_eq, insertionSort_canonical, ← moved, List.map_map, List.mapM_map]
  rfl

theorem mapM_found {α β : Type} {read : α → Option β} {items : List α} {found : List β}
    (all : items.mapM read = some found) {item : α} (member : item ∈ items) :
    ∃ value ∈ found, read item = some value := by
  induction items generalizing found with
  | nil => cases member
  | cons head rest ih =>
      rw [List.mapM_cons] at all
      obtain ⟨first, own, all⟩ := Option.bind_eq_some_iff.mp all
      obtain ⟨others, later, all⟩ := Option.bind_eq_some_iff.mp all
      cases all
      rcases List.mem_cons.mp member with rfl | member
      · exact ⟨first, List.mem_cons_self, own⟩
      · obtain ⟨value, among, same⟩ := ih later member
        exact ⟨value, List.mem_cons_of_mem _ among, same⟩

theorem mapM_self {α : Type} {read : α → Option α} {items : List α}
    (own : ∀ item ∈ items, read item = some item) : items.mapM read = some items := by
  induction items with
  | nil => rfl
  | cons head rest ih =>
      obtain ⟨first, others⟩ := List.forall_mem_cons.mp own
      rw [List.mapM_cons, first, ih others]
      rfl

theorem Dictionary.ofEntries_sound {α : Type} {map : Dictionary α} {entries : List (String × α)}
    (made : Dictionary.ofEntries entries = some map) : entries.Perm map.val := by
  unfold Dictionary.ofEntries at made
  split at made
  case isTrue => exact Option.some.inj made ▸ (List.perm_insertionSort NameLe entries).symm
  case isFalse => cases made

theorem Dictionary.eq_of_name {α : Type} {map : Dictionary α} {first second : String × α}
    (among : first ∈ map.val) (member : second ∈ map.val) (same : first.1 = second.1) :
    first = second :=
  List.inj_on_of_nodup_map map.single among member same

theorem dictionary_exact {α : Type} {codec : Codec α} {reread : Number → Number}
    (own : codec.Exact reread) : (dictionary codec).Exact reread := by
  intro map
  have kept : ((dictionary codec).encode map).Kept reread ↔
      ∀ entry ∈ map.val, codec.reread reread entry.2 = some entry.2 := by
    change EntriesKept reread (map.val.map fun entry => (entry.1, codec.encode entry.2)) ↔ _
    rw [entriesKept_iff, List.forall_mem_map]
    exact forall₂_congr fun entry _ => (own entry.2).symm
  rw [kept, reread_dictionary]
  constructor
  · intro read entry member
    obtain ⟨found, all, made⟩ := Option.bind_eq_some_iff.mp read
    obtain ⟨value, among, same⟩ := mapM_found all ((List.mem_insertionSort _).mpr member)
    obtain ⟨content, written, rfl⟩ := Option.map_eq_some_iff.mp same
    have listed := (Dictionary.ofEntries_sound made).mem_iff.mp among
    have same : (entry.1, content) = entry := Dictionary.eq_of_name listed member rfl
    rw [written, ← congrArg Prod.snd same]
  · intro read
    rw [mapM_self]
    · exact Dictionary.ofEntries_perm (List.perm_insertionSort _ map.val)
    · intro entry member
      rw [read entry ((List.mem_insertionSort _).mp member)]
      rfl

/-! Internally tagged enumerations. -/

theorem lookup_untagged {tag name : String} (apart : name ≠ tag)
    (entries : List (String × Value)) :
    (entries.filter fun entry => entry.1 != tag).lookup name = entries.lookup name := by
  induction entries with
  | nil => rfl
  | cons entry rest ih =>
      rw [List.filter_cons]
      split
      case isTrue => rw [List.lookup_cons, List.lookup_cons, ih]
      case isFalse tagged =>
        have own : entry.1 = tag := by simpa using tagged
        rw [ih, List.lookup_cons, own, beq_false_of_ne apart]

theorem reread_variant {α β : Type} (fields : Fields α) (wrap : α → β) {tag : String}
    (untagged : tag ∉ fields.names) (name : Value) (reread : Number → Number) (value : α) :
    (fields.variant wrap).decodeObject ((canonicalMembers reread
        ((tag, name) :: fields.encode value)).filter fun entry => entry.1 != tag) =
      (fields.reread reread value).map wrap := by
  have known : (((canonicalMembers reread ((tag, name) :: fields.encode value)).filter
      fun entry => entry.1 != tag).all fun entry => decide (entry.1 ∈ fields.names)) = true := by
    rw [List.all_eq_true]
    intro entry member
    obtain ⟨member, other⟩ := List.mem_filter.mp member
    obtain ⟨original, among, same⟩ := mem_canonicalMembers member
    rcases List.mem_cons.mp among with rfl | among
    · exact absurd same.symm (by simpa using other)
    · exact decide_eq_true (same ▸ fields.encode_named value original among)
  have read : fields.decode ((canonicalMembers reread ((tag, name) :: fields.encode value)).filter
      fun entry => entry.1 != tag) = fields.reread reread value := by
    apply fields.decode_local
    intro other listed
    have apart : other ≠ tag := by
      rintro rfl
      exact untagged listed
    rw [lookup_untagged apart]
    unfold canonicalMembers
    rw [lookup_canonical, lookup_canonical, List.lookup_cons, beq_false_of_ne apart]
  change (fields.decodeObject _).map wrap = _
  unfold Fields.decodeObject
  rw [if_pos known, read]

/-- The tag is read back as it is, and so is the rest where its variant is. -/
theorem reread_tagged {α : Type} (tagging : Tagging α) (reread : Number → Number) (value : α) :
    (tagged tagging).reread reread value =
      (tagging.variant (tagging.write value).1).bind fun variant =>
        variant.decodeObject ((canonicalMembers reread
          ((tagging.tag, .str (tagging.write value).1) :: (tagging.write value).2)).filter
          fun entry => entry.1 != tagging.tag) := by
  have tag : (canonicalMembers reread
      ((tagging.tag, .str (tagging.write value).1) :: (tagging.write value).2)).lookup tagging.tag =
      some (.str (tagging.write value).1) := by
    unfold canonicalMembers
    rw [lookup_canonical, List.lookup_cons, beq_self_eq_true]
    rfl
  change (tagged tagging).decode (.obj ((canonicalEntries reread
    ((tagging.tag, .str (tagging.write value).1) :: (tagging.write value).2)).insertionSort
      MemberLe)) = _
  rw [canonicalEntries_eq, insertionSort_canonical]
  unfold canonicalMembers at tag
  simp only [tagged, tag]
  rfl

end Serde
