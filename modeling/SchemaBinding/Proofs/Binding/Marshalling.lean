import SchemaBinding.Binding.Type
import SchemaBinding.Proofs.Binding.Literal
import SchemaBinding.Proofs.Content.Written

/-!
# Structured values survive being written

A binding re-reads what it writes when each value that it reads from an element
is found again, up to equality, in any element that is written for the value
(`Binding.Rereads`). A structured binding does so when no two of its fields have
the same name and the bindings of its fields do (`Fields.rereads`): every field
finds its own occurrences and no others, none of them is marked as nil, and
their number keeps to the bound that the values kept to when they were read.
`Binding.Regular` closes this under nesting, and `Binding.Regular.rereads` is the
induction over the nesting. For documents, `ofXml_toXml` says that a value read
from any element is read back from the document written for it.
-/

namespace SchemaBinding

/-! ## Converting lists -/

section

variable {α β : Type} {f : α → Except Reason β}

/-- **Converting a list** converts its first member, and then the others. -/
theorem mapM_cons_eq_ok_iff {a : α} {rest : List α} {values : List β} :
    (a :: rest).mapM f = .ok values ↔
      ∃ first others, f a = .ok first ∧ rest.mapM f = .ok others ∧ values = first :: others := by
  rw [List.mapM_cons]
  constructor
  · intro h
    obtain ⟨first, here, h⟩ := exists_of_bind_eq_ok h
    obtain ⟨others, there, h⟩ := exists_of_bind_eq_ok h
    exact ⟨first, others, here, there, (Except.ok.inj h).symm⟩
  · rintro ⟨first, others, here, there, rfl⟩
    rw [here, there]
    rfl

theorem exists_of_mem_mapM {given : List α} {values : List β} (h : given.mapM f = .ok values)
    {b : β} (hb : b ∈ values) : ∃ a ∈ given, f a = .ok b := by
  induction given generalizing values with
  | nil =>
    obtain rfl := Except.ok.inj h
    cases hb
  | cons a rest ih =>
    obtain ⟨first, others, ha, hrest, rfl⟩ := mapM_cons_eq_ok_iff.1 h
    rcases List.mem_cons.1 hb with rfl | later
    · exact ⟨a, List.mem_cons_self .., ha⟩
    · obtain ⟨a', mem, ha'⟩ := ih hrest later
      exact ⟨a', List.mem_cons_of_mem _ mem, ha'⟩

theorem length_of_mapM {given : List α} {values : List β} (h : given.mapM f = .ok values) :
    values.length = given.length := by
  induction given generalizing values with
  | nil => obtain rfl := Except.ok.inj h; rfl
  | cons a rest ih =>
    obtain ⟨first, others, -, hrest, rfl⟩ := mapM_cons_eq_ok_iff.1 h
    rw [List.length_cons, List.length_cons, ih hrest]

/-- A list of which each member is converted into an equal of its origin is converted into
equals. -/
theorem exists_mapM_equal {origins : List β} (again : β → α) (equal : β → β → Bool)
    (h : ∀ x ∈ origins, ∃ y, f (again x) = .ok y ∧ equal y x = true) :
    ∃ values, (origins.map again).mapM f = .ok values ∧ equalLists equal values origins = true := by
  induction origins with
  | nil => exact ⟨[], rfl, rfl⟩
  | cons x rest ih =>
    obtain ⟨y, hy, same⟩ := h x (List.mem_cons_self ..)
    obtain ⟨values, hvalues, equals⟩ := ih fun x hx => h x (List.mem_cons_of_mem _ hx)
    refine ⟨y :: values, ?_, ?_⟩
    · rw [List.map_cons]
      exact mapM_cons_eq_ok_iff.2 ⟨y, values, hy, hvalues, rfl⟩
    · rw [equalLists, same, equals]
      rfl

end

/-- **What a field converts.** What is absent is left out, the rest keeps to the upper bound and is
converted in order. -/
theorem Field.convert_eq_ok_iff {α β : Type} {field : Field} {absent : α → Bool}
    {value : α → Except Reason β} {given : List α} {values : List β} :
    field.convert absent value given = .ok values ↔
      field.max.allows (given.filter fun a => !absent a).length = true ∧
        (given.filter fun a => !absent a).mapM value = .ok values := by
  simp only [Field.convert]
  generalize given.filter (fun a => !absent a) = present
  cases allowed : field.max.allows present.length with
  | false => simp
  | true =>
    cases converted : present.mapM value with
    | ok found => simp
    | error reason => simp

/-- **What the fields of an element are read as.** The first field and the others are read
independently. -/
theorem Fields.decode_cons_eq_ok_iff {field : Field} {type : Binding} {rest : Fields}
    {e : Xml.Element} {values : List type.Value} {others : rest.Values} :
    (Fields.cons field type rest).decode e = .ok (values, others) ↔
      field.convert isNil type.decode (field.childrenOf e) = .ok values ∧
        rest.decode e = .ok others := by
  rw [Fields.decode]
  cases field.convert isNil type.decode (field.childrenOf e) with
  | error reason => simp
  | ok first =>
    cases rest.decode e with
    | error reason => simp
    | ok more =>
      constructor
      · intro h
        obtain ⟨rfl, rfl⟩ := Prod.mk.inj (Except.ok.inj h)
        exact ⟨rfl, rfl⟩
      · rintro ⟨h, h'⟩
        rw [Except.ok.inj h, Except.ok.inj h']

/-! ## The content of values -/

/-- The bindings of the fields, in order. -/
def Fields.types : Fields → List Binding
  | .nil => []
  | .cons _ type rest => type :: rest.types

/-- **A value that is read stands for one element.** Its content is a text or a record. -/
theorem Binding.isSingle_encode : ∀ (type : Binding) {e : Xml.Element} {v : type.Value},
    type.decode e = .ok v → (type.encode v).IsSingle
  | .any, .mk name attributes scope content, v, h => by
    rw [Binding.decode] at h
    obtain rfl := Except.ok.inj h
    change (Wire.capture _).IsSingle
    rw [Wire.capture]
    split <;> trivial
  | .simple _, _, _, _ => trivial
  | .complex _ _, _, _, _ => trivial
  | .element _ inner, e, v, h => by
    rw [Binding.decode] at h
    rw [Binding.encode]
    exact inner.isSingle_encode h

/-- The contents that keep to the bound of a field are the occurrences of the field. -/
theorem Wire.occurrences_ofValues {field : Field} {values : List Wire}
    (single : ∀ c ∈ values, c.IsSingle) (allowed : field.max.allows values.length = true) :
    (ofValues field values).occurrences = values := by
  unfold ofValues
  split
  · next one =>
    have bound : field.max = .count 1 := eq_of_beq one
    rw [bound] at allowed
    match values, allowed with
    | [], _ => rfl
    | [c], _ => exact (single c (List.mem_singleton_self c)).occurrences
    | _ :: _ :: _, allowed => simp [MaxOccurs.allows] at allowed
  · rfl

/-! ## Re-reading -/

/-- A written element is not marked as nil. -/
theorem isNil_writtenIn (scope : Xml.Scope) (name : String) (declared : Option String)
    (content : Wire) :
    isNil (content.writtenIn scope name declared) = false := rfl

theorem Space.equal_self_of_text : ∀ {space : Space}, space = .text → ∀ v :
    space.Carrier, space.equal v v = true
  | _, rfl, (v : String) => by
    change (some (compareOfLessAndEq v v) == some .eq) = true
    rw [compareOfLessAndEq, if_neg (String.lt_irrefl v), if_pos rfl]
    rfl

/-- Whether a binding re-reads what it writes: an element that is written for a value it has read,
under any name and in any scope, is read as an equal value. -/
def Binding.Rereads (type : Binding) : Prop :=
  ∀ (e : Xml.Element) (x : type.Value), type.decode e = .ok x → ∀ scope name declared,
    ∃ y, type.decode ((type.encode x).writtenIn scope name declared) = .ok y ∧ type.equal y x = true

/-- A text type without enumeration re-reads what it writes. -/
theorem Binding.rereads_of_text {type : SimpleType} (plain : type.enumeration? = none)
    (text : type.space = .text) :
    (Binding.simple type).Rereads := by
  intro e x read scope name declared
  have found : type.ofLiteral e.textContent = .ok x := by
    rw [Binding.decode] at read
    cases literal : type.ofLiteral e.textContent with
    | error violation => rw [literal] at read; cases read
    | ok v => rw [literal] at read; rw [Except.ok.inj read]
  refine ⟨x, ?_, ?_⟩
  · rw [Binding.decode, Binding.encode, Wire.textContent_text,
      type.ofLiteral_text_of_text plain text found]
    rfl
  · exact Space.equal_self_of_text text x

/-- **The fields of a value are read back field by field.** `e'` is any element whose children with
the name of each field are those written for the values of the field. -/
theorem Fields.exists_decode : ∀ (fields : Fields), (∀ type ∈ fields.types, type.Rereads) →
    ∀ (scope : Xml.Scope) {e e' : Xml.Element} {v : fields.Values}, fields.decode e = .ok v →
      (∀ entry ∈ fields.toList.zip (fields.encode v),
        entry.1.childrenOf e' = entry.2.map (Wire.writtenIn scope entry.1.name none)) →
      ∃ w, fields.decode e' = .ok w ∧ fields.equal w v = true
  | .nil, _, _, _, _, _, _, _ => ⟨(), rfl, rfl⟩
  | .cons field type rest, rereads, scope, e, e', (values, others), read, children => by
    obtain ⟨converted, more⟩ := Fields.decode_cons_eq_ok_iff.1 read
    obtain ⟨allowed, found⟩ := Field.convert_eq_ok_iff.1 converted
    rw [Fields.toList, Fields.encode, List.zip_cons_cons] at children
    -- The children of this field are written for its values, and none of them is nil.
    have mine := children _ (List.mem_cons_self ..)
    rw [List.map_map] at mine
    have present : (field.childrenOf e').filter (fun a => !isNil a) = field.childrenOf e' := by
      rw [mine, List.filter_eq_self]
      intro a ha
      obtain ⟨x, -, rfl⟩ := List.mem_map.1 ha
      rw [Function.comp_apply, isNil_writtenIn, Bool.not_false]
    obtain ⟨again, reread, equals⟩ := exists_mapM_equal (f := type.decode)
      (Wire.writtenIn scope field.name none ∘ type.encode) type.equal fun x hx => by
        obtain ⟨a, -, ha⟩ := exists_of_mem_mapM found hx
        exact rereads type (List.mem_cons_self ..) a x ha scope field.name none
    have here : field.convert isNil type.decode (field.childrenOf e') = .ok again := by
      rw [Field.convert_eq_ok_iff, present, mine, List.length_map, length_of_mapM found]
      exact ⟨allowed, reread⟩
    obtain ⟨w, there, equals'⟩ := rest.exists_decode
      (fun type mem => rereads type (List.mem_cons_of_mem _ mem)) scope more
      (fun entry mem => children entry (List.mem_cons_of_mem _ mem))
    refine ⟨(again, w), Fields.decode_cons_eq_ok_iff.2 ⟨here, there⟩, ?_⟩
    rw [Fields.equal, equals, equals']
    rfl

/-- The values that are read for each field stand for one element each, and their number keeps to
the bound. -/
theorem Fields.bounded_of_decode : ∀ (fields : Fields) {e : Xml.Element} {v : fields.Values},
    fields.decode e = .ok v → ∀ entry ∈ fields.toList.zip (fields.encode v),
      (∀ c ∈ entry.2, c.IsSingle) ∧ entry.1.max.allows entry.2.length = true
  | .nil, _, _, _, entry, mem => nomatch mem
  | .cons field type rest, e, (values, others), read, entry, mem => by
    obtain ⟨converted, more⟩ := Fields.decode_cons_eq_ok_iff.1 read
    obtain ⟨allowed, found⟩ := Field.convert_eq_ok_iff.1 converted
    rw [Fields.toList, Fields.encode, List.zip_cons_cons] at mem
    rcases List.mem_cons.1 mem with rfl | later
    · refine ⟨fun c hc => ?_, ?_⟩
      · obtain ⟨x, hx, rfl⟩ := List.mem_map.1 hc
        obtain ⟨a, -, ha⟩ := exists_of_mem_mapM found hx
        exact type.isSingle_encode ha
      · rw [List.length_map, length_of_mapM found]
        exact allowed
    · exact rest.bounded_of_decode more entry later

theorem Fields.length_encode : ∀ (fields : Fields) (v : fields.Values),
    (fields.encode v).length = fields.toList.length
  | .nil, _ => rfl
  | .cons _ _ rest, (_, others) => by
    rw [Fields.encode, Fields.toList, List.length_cons, List.length_cons, rest.length_encode others]

/-- The names of the fields, in order. -/
def Fields.names (fields : Fields) : List String := fields.toList.map Field.name

/-- The entries of the record of a value: one for each field, in order. -/
def Fields.entries (fields : Fields) (v : fields.Values) : List (String × Wire) :=
  (fields.toList.zip (fields.encode v)).map fun entry =>
    (entry.1.name, Wire.ofValues entry.1 entry.2)

theorem Fields.map_fst_entries (fields : Fields) (v : fields.Values) :
    (fields.entries v).map Prod.fst = fields.names := by
  have firsts : (fields.toList.zip (fields.encode v)).map Prod.fst = fields.toList :=
    List.map_fst_zip (Nat.le_of_eq (fields.length_encode v).symm)
  calc (fields.entries v).map Prod.fst
      = ((fields.toList.zip (fields.encode v)).map Prod.fst).map Field.name := by
        rw [entries, List.map_map, List.map_map]
        rfl
    _ = fields.names := by rw [firsts, names]

/-- **The record of a value.** No entry replaces another one if the fields have distinct names. -/
theorem Fields.ofFields_encode {fields : Fields} (distinct : fields.names.Nodup)
    (v : fields.Values) :
    Wire.ofFields fields.toList (fields.encode v) = .record (fields.entries v) := by
  rw [Wire.ofFields, Keyed.ofList_of_nodup]
  · rfl
  · rw [← fields.map_fst_entries v] at distinct
    exact distinct

/-- **A structured binding re-reads what it writes** if its fields have distinct names and their
bindings do. -/
theorem Fields.rereads {fields : Fields} (distinct : fields.names.Nodup)
    (rereads : ∀ type ∈ fields.types, type.Rereads) (name : TypeName) :
    (Binding.complex name fields).Rereads := by
  intro e v read scope written declared
  refine fields.exists_decode rereads (Xml.Markup.innerScope scope declared) read fun entry mem =>
    ?_
  obtain ⟨single, allowed⟩ := fields.bounded_of_decode read entry mem
  have keys : ((fields.entries v).map Prod.fst).Nodup := fields.map_fst_entries v ▸ distinct
  have listed : (entry.1.name, Wire.ofValues entry.1 entry.2) ∈ fields.entries v :=
    List.mem_map.2 ⟨entry, mem, rfl⟩
  have own := Wire.filter_children_record keys listed scope written declared
  rw [Wire.occurrences_ofValues single allowed] at own
  rw [Binding.encode, Fields.ofFields_encode distinct v, Field.childrenOf]
  exact own

/-- Bindings that are built by nesting from bindings that re-read what they write: structured ones
with distinct names of fields, and elements. -/
inductive Binding.Regular : Binding → Prop
  | leaf {type : Binding} (rereads : type.Rereads) : Regular type
  | complex {name : TypeName} {fields : Fields} (distinct : fields.names.Nodup)
      (regular : ∀ type ∈ fields.types, Regular type) : Regular (.complex name fields)
  | element {name : TypeName} {inner : Binding} (regular : Regular inner) :
      Regular (.element name inner)

/-- **Nesting preserves re-reading.** -/
theorem Binding.Regular.rereads {type : Binding} (h : type.Regular) : type.Rereads := by
  induction h with
  | leaf rereads => exact rereads
  | complex distinct _ ih => exact Fields.rereads distinct ih _
  | element _ ih => exact ih

/-! ## Documents -/

/-- A binding accepts the root of the document that is written for its values. -/
theorem Binding.accepts_written (type : Binding) (scope : Xml.Scope) (content : Wire) :
    type.typeName.accepts (content.writtenIn scope type.typeName.name type.typeName.declared) =
      true := by
  rw [TypeName.accepts, Wire.localName_writtenIn, beq_self_eq_true, Bool.true_and, Bool.or_eq_true]
  cases empty : type.typeName.namespaceName.isEmpty with
  | true => exact .inl rfl
  | false =>
    right
    rw [TypeName.declared, empty]
    exact beq_self_eq_true type.typeName.namespaceName

/-- **A structured value survives being written.** Let no two fields have the same name, and let the
binding of each field re-read what it writes or be built by nesting from such bindings. When a value
has been read from an element, and the document written for it is parsed as what its markup stands
for, then the root of that document is accepted and read as an equal value: each field has equals of
the same values, in the same order. -/
theorem Binding.ofXml_toXml {name : TypeName} {fields : Fields} (distinct : fields.names.Nodup)
    (regular : ∀ type ∈ fields.types, type.Regular) {e root : Xml.Element}
    {v : (Binding.complex name fields).Value}
    (read : (Binding.complex name fields).decode e = .ok v)
    (parses : Xml.parseDocument false ((Binding.complex name fields).toXml v) = .ok root)
    (stands : ((Binding.complex name fields).markup v).denoted [] = .element root) :
    ∃ w, (Binding.complex name fields).ofXml ((Binding.complex name fields).toXml v) = .ok w ∧
      fields.equal w v = true := by
  have rereads : (Binding.complex name fields).Rereads := (Regular.complex distinct regular).rereads
  rw [Binding.markup, Wire.denoted_markup] at stands
  obtain rfl := Xml.Content.element.inj stands
  obtain ⟨w, again, equals⟩ := rereads e v read [] name.name name.declared
  refine ⟨w, ?_, equals⟩
  rw [Binding.ofXml, parses]
  change Binding.ofElement _ _ = _
  rw [Binding.ofElement, if_pos (Binding.accepts_written (.complex name fields) [] _)]
  rw [show (Binding.complex name fields).typeName = name from rfl, again]

/-- The fields of a part: a text, and any number of parts of the part with a text each. -/
def partFields : Fields :=
  .cons ⟨"a", 0, .count 1, false, none⟩ (.simple (.builtin .string))
    (.cons ⟨"b", 0, .unbounded, false, none⟩
      (.complex ⟨"B", ""⟩ (.cons ⟨"c", 1, .count 1, false, none⟩ (.simple (.builtin .string)) .nil))
        .nil)

theorem regular_of_mem_partFields : ∀ type ∈ partFields.types, type.Regular := by
  have string : (Binding.simple (.builtin .string)).Regular :=
    .leaf (Binding.rereads_of_text rfl rfl)
  intro type mem
  rcases List.mem_cons.1 mem with rfl | later
  · exact string
  · rw [List.mem_singleton.1 later]
    refine .complex (by decide) fun inner hinner => ?_
    rw [List.mem_singleton.1 hinner]
    exact string

/-- The root of the document for a part with one part. -/
def partRoot : Xml.Element :=
  let scope : Xml.Scope := [(none, "u")]
  .mk ⟨some "u", "P"⟩ [] scope [.element (.mk ⟨some "u", "a"⟩ [] scope [.text "x"]),
    .element (.mk ⟨some "u", "b"⟩ [] scope [.element (.mk ⟨some "u", "c"⟩ [] scope [.text "y"])])]

theorem Binding.ofXml_toXml_part :
    ∃ w, (Binding.complex ⟨"P", "u"⟩ partFields).ofXml
        ((Binding.complex ⟨"P", "u"⟩ partFields).toXml (["x"], [(["y"], ())], ())) = .ok w ∧
      partFields.equal w (["x"], [(["y"], ())], ()) = true := by
  have printed : (Binding.complex ⟨"P", "u"⟩ partFields).toXml (["x"], [(["y"], ())], ())
      = "<P xmlns=\"u\"><a>x</a><b><c>y</c></b></P>" := rfl
  have parses : Xml.parseDocument false "<P xmlns=\"u\"><a>x</a><b><c>y</c></b></P>" =
    .ok partRoot := by decide +kernel
  exact Binding.ofXml_toXml (by decide) regular_of_mem_partFields (e := partRoot)
    rfl (printed ▸ parses) rfl

end SchemaBinding
