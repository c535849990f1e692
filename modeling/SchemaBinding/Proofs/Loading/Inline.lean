import Mathlib.Data.List.Nodup
import SchemaBinding.Proofs.Loading.Adoption
import SchemaBinding.Proofs.Loading.Roots

/-!
# Types as they are written

A child of a schema holds types: the one that it declares, and those inside the
fields of types, at any depth (`IsWritten`). Each is read under a name of its
own: a type inside a field has the names of the type that holds the field and of
the field, with a point between them. What is declared for a child of a schema
are the types that are written in it (`exists_declares_of_isWritten`), and
nothing else but elements (`exists_isWritten_of_mem`). The same holds of all
bodies that a run has taken up (`Moment.Holds.exists_reads`,
`Moment.IsSound.exists_holds`).
-/

namespace SchemaBinding.Schema

/-! ## Written types -/

/-- A type as it is written: the name that it is declared under, and the element that holds it. -/
inductive WrittenType where
  | simple (name : Xml.Name) (element : Xml.Element)
  | complex (name : Xml.Name) (element : Xml.Element)

/-- The name that a type is declared under. -/
def WrittenType.name : WrittenType → Xml.Name
  | simple name _ => name
  | complex name _ => name

/-- The elements that declare the fields of a complex type, in order. -/
def fieldElements (complex : Xml.Element) : List Xml.Element :=
  (complex.children.filter (·.localName = "sequence")).flatMap fun sequence =>
    sequence.children.filter (·.localName = "element")

/-- The name of the type inside a field, in a type with a name. -/
def inlineName (owner : Xml.Name) (field : Xml.Element) (fieldName : String) : Xml.Name :=
  ⟨ownNamespace field owner.namespaceName?, owner.localName ++ "." ++ fieldName⟩

/-- The type inside the element of a field, in a type with a name. A complex one counts first. -/
inductive InlineType (owner : Xml.Name) (field : Xml.Element) : WrittenType → Prop
  | complex {fieldName : String} {element : Xml.Element} (untyped : field.valueOf? "type" = none)
      (named : field.valueOf? "name" = some fieldName)
      (inside : field.find? schemaNamespace "complexType" = some element) :
      InlineType owner field (.complex (inlineName owner field fieldName) element)
  | simple {fieldName : String} {element : Xml.Element} (untyped : field.valueOf? "type" = none)
      (named : field.valueOf? "name" = some fieldName)
      (notComplex : field.find? schemaNamespace "complexType" = none)
      (inside : field.find? schemaNamespace "simpleType" = some element) :
      InlineType owner field (.simple (inlineName owner field fieldName) element)

/-- The type that a child of a schema declares: a named one, or that of an element with a complex
type inside it. -/
inductive TopLevelType (outer : Option String) (node : Xml.Element) : WrittenType → Prop
  | simple {name : String} (isSimple : node.isNamed schemaNamespace "simpleType" = true)
      (named : node.valueOf? "name" = some name) :
      TopLevelType outer node (.simple ⟨ownNamespace node outer, name⟩ node)
  | complex {name : String} (isComplex : node.isNamed schemaNamespace "complexType" = true)
      (named : node.valueOf? "name" = some name) :
      TopLevelType outer node (.complex ⟨ownNamespace node outer, name⟩ node)
  | element {name : String} {element : Xml.Element}
      (isElement : node.isNamed schemaNamespace "element" = true)
      (untyped : node.valueOf? "type" = none) (named : node.valueOf? "name" = some name)
      (inside : node.find? schemaNamespace "complexType" = some element) :
      TopLevelType outer node (.complex ⟨ownNamespace node outer, name⟩ element)

/-- Whether a type is written in a child of a schema. The way to it are the places of the fields
that it is inside of, the innermost first. -/
inductive IsWritten (outer : Option String) (node : Xml.Element) : List Nat → WrittenType → Prop
  | top {type : WrittenType} (declared : TopLevelType outer node type) :
      IsWritten outer node [] type
  | inside {way : List Nat} {owner : Xml.Name} {complex field : Xml.Element} {place : Nat}
      {type : WrittenType} (holder : IsWritten outer node way (.complex owner complex))
      (isField : (fieldElements complex)[place]? = some field)
      (inline : InlineType owner field type) : IsWritten outer node (place :: way) type

theorem InlineType.eq {owner : Xml.Name} {field : Xml.Element} {type type' : WrittenType}
    (h : InlineType owner field type) (h' : InlineType owner field type') : type = type' := by
  cases h with
  | complex _ named inside =>
    cases h' with
    | complex _ named' inside' =>
      obtain rfl := Option.some.inj (named.symm.trans named')
      obtain rfl := Option.some.inj (inside.symm.trans inside')
      rfl
    | simple _ _ notComplex _ => cases inside.symm.trans notComplex
  | simple _ named notComplex inside =>
    cases h' with
    | complex _ _ inside' => cases inside'.symm.trans notComplex
    | simple _ named' _ inside' =>
      obtain rfl := Option.some.inj (named.symm.trans named')
      obtain rfl := Option.some.inj (inside.symm.trans inside')
      rfl

theorem localName_of_isNamed {e : Xml.Element} {localName : String}
    (h : e.isNamed schemaNamespace localName = true) :
    e.localName = localName :=
  (Xml.Element.isNamed_iff.1 h).2

theorem TopLevelType.localName {outer : Option String} {node : Xml.Element} {type : WrittenType}
    (h : TopLevelType outer node type) :
    node.localName ∈ ["simpleType", "complexType", "element"] := by
  cases h with
  | simple is _ => rw [localName_of_isNamed is]; decide
  | complex is _ => rw [localName_of_isNamed is]; decide
  | element is _ _ _ => rw [localName_of_isNamed is]; decide

theorem TopLevelType.eq {outer : Option String} {node : Xml.Element} {type type' : WrittenType}
    (h : TopLevelType outer node type) (h' : TopLevelType outer node type') : type = type' := by
  -- A child of a schema is of one kind.
  have kinds : ∀ {kind other : String}, node.isNamed schemaNamespace kind = true →
      node.isNamed schemaNamespace other = true → kind = other :=
    fun h h' => (localName_of_isNamed h).symm.trans (localName_of_isNamed h')
  cases h with
  | simple is named =>
    cases h' with
    | simple _ named' => rw [Option.some.inj (named.symm.trans named')]
    | complex is' _ => exact absurd (kinds is is') (by decide)
    | element is' _ _ _ => exact absurd (kinds is is') (by decide)
  | complex is named =>
    cases h' with
    | simple is' _ => exact absurd (kinds is is') (by decide)
    | complex _ named' => rw [Option.some.inj (named.symm.trans named')]
    | element is' _ _ _ => exact absurd (kinds is is') (by decide)
  | element is _ named inside =>
    cases h' with
    | simple is' _ => exact absurd (kinds is is') (by decide)
    | complex is' _ => exact absurd (kinds is is') (by decide)
    | element _ _ named' inside' =>
      rw [Option.some.inj (named.symm.trans named'), Option.some.inj (inside.symm.trans inside')]

/-- **There is one type at a place.** -/
theorem IsWritten.eq {outer : Option String} {node : Xml.Element} {way : List Nat}
    {type type' : WrittenType} (h : IsWritten outer node way type)
    (h' : IsWritten outer node way type') : type = type' := by
  induction h generalizing type' with
  | top declared =>
    cases h' with
    | top declared' => exact declared.eq declared'
  | inside _ isField inline ih =>
    cases h' with
    | inside holder' isField' inline' =>
      obtain ⟨rfl, rfl⟩ := WrittenType.complex.inj (ih holder')
      obtain rfl := Option.some.inj (isField.symm.trans isField')
      exact inline.eq inline'

/-! ## Reading fields -/

/-- What a written type is read as. -/
inductive WrittenType.Reads : WrittenType → Declaration → Prop
  | simple {name : Xml.Name} {element : Xml.Element} {declaration : SimpleDeclaration}
      (read : readSimple element name.localName name.namespaceName? = .ok declaration) :
      Reads (.simple name element) (.simple declaration)
  | complex {name : Xml.Name} {element : Xml.Element} {reading : FieldReading}
      (read : readComplex element name.localName name.namespaceName? = .ok reading) :
      Reads (.complex name element) (.complex ⟨name.localName, name.namespaceName?, reading.fields⟩)

/-- A declaration that a written type is read as is that of a type with its name. -/
theorem WrittenType.Reads.name_eq {type : WrittenType} {d : Declaration} (h : type.Reads d) :
    d.isType = true ∧ d.name = type.name := by
  cases h with
  | simple read =>
    obtain ⟨name, namespaceName?⟩ := name_of_readSimple read
    refine ⟨rfl, ?_⟩
    rw [Declaration.name, Declaration.namespaceName?, Declaration.localName, name, namespaceName?]
    rfl
  | complex read => exact ⟨rfl, rfl⟩

/-- What declares a written type, with the types inside it: the declarations of these, and its own
at the end. -/
inductive WrittenType.Declares : WrittenType → List Declaration → Prop
  | simple {name : Xml.Name} {element : Xml.Element} {declaration : SimpleDeclaration}
      (read : readSimple element name.localName name.namespaceName? = .ok declaration) :
      Declares (.simple name element) [.simple declaration]
  | complex {name : Xml.Name} {element : Xml.Element} {reading : FieldReading}
      (read : readComplex element name.localName name.namespaceName? = .ok reading) :
      Declares (.complex name element) (reading.asType name.localName name.namespaceName?)

/-- The name of the type of a field in a type with a name: the one that it is given, that of the
type inside it, or that of all content. -/
inductive FieldTypeName (owner : Xml.Name) (field : Xml.Element) : Xml.Name → Prop
  | given {type : Xml.Name} (written : nameValue? field "type" = .ok (some type)) :
      FieldTypeName owner field type
  | inside {type : WrittenType} (inline : InlineType owner field type) :
      FieldTypeName owner field type.name
  | anything (untyped : field.valueOf? "type" = none)
      (notComplex : field.find? schemaNamespace "complexType" = none)
      (notSimple : field.find? schemaNamespace "simpleType" = none) :
      FieldTypeName owner field ⟨some schemaNamespace, Builtin.anyType.localName⟩

/-- What the element of a field, in a type with a name, is read as. -/
structure IsField (owner : Xml.Name) (field : Xml.Element) (e : ElementDeclaration) : Prop where
  name : field.valueOf? "name" = some e.name
  min : countValue field "minOccurs" = .ok e.min
  max : boundValue field "maxOccurs" = .ok e.max
  nillable : truthValue field "nillable" = .ok e.nillable
  default : e.default = field.valueOf? "default"
  type : ∃ type, e.type? = some type ∧ FieldTypeName owner field type

/-- What is read of the element of a field: the field, and the type inside it if there is one. -/
structure ReadsField (owner : Xml.Name) (field : Xml.Element) (reading : FieldReading) : Prop where
  fields : ∃ e, reading.fields = [e] ∧ IsField owner field e
  inner : (∀ type, ¬ InlineType owner field type) ∧ reading.inner = [] ∨
    ∃ type, InlineType owner field type ∧ type.Declares reading.inner

theorem exists_of_withOccurs {e result : ElementDeclaration} {min : Nat} {max : MaxOccurs}
    (h : e.withOccurs min max = .ok result) : result = { e with min := min, max := max } := by
  unfold ElementDeclaration.withOccurs at h
  split at h
  · split at h
    · cases h
    · exact (Except.ok.inj h).symm
  · exact (Except.ok.inj h).symm

/-- The first complex type among pieces of content is the first child that is one. -/
theorem firstComplex_eq (content : List Xml.Content) :
    firstComplex content =
      ((content.filterMap Xml.Content.element?).find? (·.isNamed schemaNamespace "complexType")).map
        readComplex := by
  induction content with
  | nil => rfl
  | cons piece rest ih =>
    cases piece with
    | element e =>
      rw [firstComplex, List.filterMap_cons]
      change _ = ((e :: rest.filterMap Xml.Content.element?).find? _).map readComplex
      rw [List.find?_cons]
      cases e.isNamed schemaNamespace "complexType" with
      | true => rfl
      | false => exact ih
    | text _ => exact ih
    | comment _ => exact ih
    | instruction _ _ => exact ih

theorem readItem_eq (e : Xml.Element) (typeName : String) (outer : Option String) :
    readItem e typeName outer =
      readField e typeName outer ((e.find? schemaNamespace "complexType").map readComplex) := by
  cases e with
  | mk name attributes scope content =>
    rw [readItem, firstComplex_eq]
    rfl

theorem isField_of_fieldOf {owner : Xml.Name} {field : Xml.Element} {name : String}
    {namespaceName? : Option String} {inner : List Declaration} {type : Xml.Name}
    {reading : FieldReading} (named : field.valueOf? "name" = some name)
    (typed : FieldTypeName owner field type)
    (h : fieldOf field name namespaceName? inner type = .ok reading) :
    reading.inner = inner ∧ ∃ e, reading.fields = [e] ∧ IsField owner field e := by
  obtain ⟨nillable, nil, h⟩ := exists_of_bind_eq_ok h
  obtain ⟨min, least, h⟩ := exists_of_bind_eq_ok h
  obtain ⟨max, most, h⟩ := exists_of_bind_eq_ok h
  obtain ⟨e, occurs, h⟩ := exists_of_bind_eq_ok h
  obtain rfl := exists_of_withOccurs occurs
  obtain rfl := Except.ok.inj h
  exact ⟨rfl, _, rfl, named, least, most, nil, rfl, type, rfl, typed⟩

/-- **What is read of the element of a field.** -/
theorem readsField_of_readItem {owner : Xml.Name} {field : Xml.Element} {reading : FieldReading}
    (h : readItem field owner.localName owner.namespaceName? = .ok reading) :
    ReadsField owner field reading := by
  rw [readItem_eq] at h
  obtain ⟨name, named, h⟩ := exists_of_bind_eq_ok h
  have named := valueOf?_of_requiredValue named
  obtain ⟨type?, typed, h⟩ := exists_of_bind_eq_ok h
  cases type? with
  | some type =>
    obtain ⟨nothing, fields⟩ := isField_of_fieldOf named (.given typed) h
    refine ⟨fields, .inl ⟨fun other inline => ?_, nothing⟩⟩
    have untyped : field.valueOf? "type" = none := by cases inline <;> assumption
    rw [nameValue?, untyped] at typed
    cases typed
  | none =>
    have untyped := valueOf?_of_nameValue? typed
    cases complex : field.find? schemaNamespace "complexType" with
    | some element =>
      have inline : InlineType owner field _ := .complex untyped named complex
      rw [complex] at h
      obtain ⟨inner, read, h⟩ := exists_of_bind_eq_ok h
      obtain ⟨same, fields⟩ := isField_of_fieldOf named (.inside inline) h
      exact ⟨fields, .inr ⟨_, inline, same ▸ .complex read⟩⟩
    | none =>
      rw [complex] at h
      cases simple : field.find? schemaNamespace "simpleType" with
      | some element =>
        have inline : InlineType owner field _ := .simple untyped named complex simple
        rw [simple] at h
        obtain ⟨declaration, read, h⟩ := exists_of_bind_eq_ok h
        obtain ⟨same, fields⟩ := isField_of_fieldOf named (.inside inline) h
        exact ⟨fields, .inr ⟨_, inline, same ▸ .simple read⟩⟩
      | none =>
        rw [simple] at h
        obtain ⟨nothing, fields⟩ := isField_of_fieldOf named (.anything untyped complex simple) h
        refine ⟨fields, .inl ⟨fun other inline => ?_, nothing⟩⟩
        cases inline with
        | complex _ _ inside => cases complex.symm.trans inside
        | simple _ _ _ inside => cases simple.symm.trans inside

theorem FieldReading.append_assoc (a b c : FieldReading) : a ++ b ++ c = a ++ (b ++ c) :=
  congrArg₂ FieldReading.mk (List.append_assoc ..) (List.append_assoc ..)

/-- What is read of the elements of fields, in order. -/
inductive ReadsFields (owner : Xml.Name) : List Xml.Element → FieldReading → Prop
  | nil : ReadsFields owner [] .none
  | cons {field : Xml.Element} {rest : List Xml.Element} {reading others : FieldReading}
      (first : ReadsField owner field reading) (later : ReadsFields owner rest others) :
      ReadsFields owner (field :: rest) (reading ++ others)

section

variable {owner : Xml.Name} {fields more : List Xml.Element} {reading others : FieldReading}

theorem ReadsFields.append (h : ReadsFields owner fields reading)
    (h' : ReadsFields owner more others) :
    ReadsFields owner (fields ++ more) (reading ++ others) := by
  induction h with
  | nil => exact h'
  | cons first _ ih =>
    rw [FieldReading.append_assoc]
    exact .cons first ih

/-- What is declared inside fields is declared inside one of them. -/
theorem ReadsFields.exists_of_mem (h : ReadsFields owner fields reading) {d : Declaration}
    (mem : d ∈ reading.inner) :
    ∃ (place : Nat) (field : Xml.Element) (here : FieldReading),
      fields[place]? = some field ∧ ReadsField owner field here ∧ d ∈ here.inner := by
  induction h with
  | nil => cases mem
  | cons first _ ih =>
    rcases List.mem_append.1 mem with here | there
    · exact ⟨0, _, _, rfl, first, here⟩
    · obtain ⟨place, field, found, rest⟩ := ih there
      exact ⟨place + 1, field, found, rest⟩

/-- What is declared inside a field is declared inside the fields. -/
theorem ReadsFields.exists_of_getElem? (h : ReadsFields owner fields reading) {place : Nat}
    {field : Xml.Element} (found : fields[place]? = some field) :
    ∃ here, ReadsField owner field here ∧ here.inner ⊆ reading.inner := by
  induction h generalizing place with
  | nil => cases found
  | cons first _ ih =>
    cases place with
    | zero =>
      obtain rfl := Option.some.inj found
      exact ⟨_, first, List.subset_append_left _ _⟩
    | succ place =>
      obtain ⟨here, reads, sub⟩ := ih found
      exact ⟨here, reads, List.subset_append_of_subset_right _ sub⟩

/-- Each element of a field is read as one field. -/
theorem ReadsFields.forall₂ (h : ReadsFields owner fields reading) :
    List.Forall₂ (IsField owner) fields reading.fields := by
  induction h with
  | nil => exact .nil
  | @cons field rest here others first _ ih =>
    obtain ⟨e, only, isField⟩ := first.fields
    change List.Forall₂ _ _ (here.fields ++ others.fields)
    rw [only]
    exact .cons isField ih

end

/-- The elements of a kind among pieces of content. -/
def elementsOf (kind : String) (content : List Xml.Content) : List Xml.Element :=
  (content.filterMap Xml.Content.element?).filter (·.localName = kind)

theorem elementsOf_cons (kind : String) (e : Xml.Element) (rest : List Xml.Content) :
    elementsOf kind (.element e :: rest) =
      if e.localName = kind then e :: elementsOf kind rest else elementsOf kind rest := by
  change (e :: rest.filterMap Xml.Content.element?).filter _ = _
  rw [List.filter_cons]
  simp only [decide_eq_true_eq]
  rfl

theorem readsFields_of_readItems {owner : Xml.Name} {content : List Xml.Content}
    {reading : FieldReading}
    (h : readItems content owner.localName owner.namespaceName? = .ok reading) :
    ReadsFields owner (elementsOf "element" content) reading := by
  induction content generalizing reading with
  | nil =>
    obtain rfl := Except.ok.inj h
    exact .nil
  | cons piece rest ih =>
    cases piece with
    | element e =>
      rw [readItems] at h
      rw [elementsOf_cons]
      split at h
      · next isField =>
        obtain ⟨here, first, h⟩ := exists_of_bind_eq_ok h
        obtain ⟨others, later, h⟩ := exists_of_bind_eq_ok h
        obtain rfl := Except.ok.inj h
        rw [if_pos isField]
        exact .cons (readsField_of_readItem first) (ih later)
      · next other =>
        obtain ⟨here, nothing, h⟩ := exists_of_bind_eq_ok h
        obtain ⟨others, later, h⟩ := exists_of_bind_eq_ok h
        obtain rfl := Except.ok.inj nothing
        obtain rfl := Except.ok.inj h
        rw [if_neg other]
        exact ih later
    | text _ => exact ih h
    | comment _ => exact ih h
    | instruction _ _ => exact ih h

theorem readsFields_of_readSequences {owner : Xml.Name} {content : List Xml.Content}
    {reading : FieldReading}
    (h : readSequences content owner.localName owner.namespaceName? = .ok reading) :
    ReadsFields owner ((elementsOf "sequence" content).flatMap fun s =>
      elementsOf "element" s.content) reading := by
  induction content generalizing reading with
  | nil =>
    obtain rfl := Except.ok.inj h
    exact .nil
  | cons piece rest ih =>
    cases piece with
    | element e =>
      rw [readSequences] at h
      rw [elementsOf_cons]
      split at h
      · next isSequence =>
        obtain ⟨here, first, h⟩ := exists_of_bind_eq_ok h
        obtain ⟨others, later, h⟩ := exists_of_bind_eq_ok h
        obtain rfl := Except.ok.inj h
        rw [if_pos isSequence, List.flatMap_cons]
        cases e with
        | mk name attributes scope content =>
          exact (readsFields_of_readItems first).append (ih later)
      · next other =>
        obtain ⟨here, nothing, h⟩ := exists_of_bind_eq_ok h
        obtain ⟨others, later, h⟩ := exists_of_bind_eq_ok h
        obtain rfl := Except.ok.inj nothing
        obtain rfl := Except.ok.inj h
        rw [if_neg other]
        exact ih later
    | text _ => exact ih h
    | comment _ => exact ih h
    | instruction _ _ => exact ih h

/-- **Reading a complex type** reads the elements of its fields in order. -/
theorem readsFields_of_readComplex {owner : Xml.Name} {complex : Xml.Element}
    {reading : FieldReading}
    (h : readComplex complex owner.localName owner.namespaceName? = .ok reading) :
    ReadsFields owner (fieldElements complex) reading := by
  cases complex with
  | mk name attributes scope content => exact readsFields_of_readSequences h

/-! ## Reading children of schemas -/

section

variable {outer : Option String} {node : Xml.Element} {way : List Nat} {type : WrittenType}
  {declarations : List Declaration}

/-- What declares a written type holds its own declaration. -/
theorem WrittenType.Declares.exists_reads (h : type.Declares declarations) :
    ∃ d ∈ declarations, type.Reads d := by
  cases h with
  | simple read => exact ⟨_, List.mem_singleton_self _, .simple read⟩
  | complex read => exact ⟨_, List.mem_append_right _ (List.mem_singleton_self _), .complex read⟩

/-- An element at the top level declares the type inside it, or nothing but itself. -/
theorem declares_of_readElement (isElement : node.isNamed schemaNamespace "element" = true)
    (h : readElement node outer = .ok declarations) :
    (∃ type, TopLevelType outer node type ∧ type.Declares declarations) ∨
      node.valueOf? "type" ≠ none ∧ ∀ d ∈ declarations, d.isType = false := by
  cases reads_of_readElement h with
  | typed named typed =>
    refine .inr ⟨fun untyped => ?_, List.forall_mem_singleton.2 rfl⟩
    rw [nameValue?, untyped] at typed
    cases typed
  | holding named untyped inside read =>
    exact .inl ⟨_, .element isElement (valueOf?_of_nameValue? untyped)
      (valueOf?_of_requiredValue named) inside, .complex read⟩

/-- **A child of a schema** declares a type with the types inside it, or nothing but elements. -/
theorem declares_of_readTopLevel (h : readTopLevel node outer = .ok (.declares declarations)) :
    (∃ type, TopLevelType outer node type ∧ type.Declares declarations) ∨
      (∀ type, ¬ TopLevelType outer node type) ∧ ∀ d ∈ declarations, d.isType = false := by
  obtain ⟨inSchema, reads⟩ := reads_of_readTopLevel h
  cases reads with
  | element kind read =>
    refine (declares_of_readElement (Xml.Element.isNamed_iff.2 ⟨inSchema, kind⟩) read).imp_right
      fun ⟨typed, rest⟩ => ⟨fun type declared => ?_, rest⟩
    cases declared with
    | simple is _ => exact absurd (kind.symm.trans (localName_of_isNamed is)) (by decide)
    | complex is _ => exact absurd (kind.symm.trans (localName_of_isNamed is)) (by decide)
    | element _ untyped _ _ => exact typed untyped
  | simple kind named read =>
    exact .inl ⟨_, .simple (Xml.Element.isNamed_iff.2 ⟨inSchema, kind⟩)
      (valueOf?_of_requiredValue named), .simple read⟩
  | complex kind named read =>
    exact .inl ⟨_, .complex (Xml.Element.isNamed_iff.2 ⟨inSchema, kind⟩)
      (valueOf?_of_requiredValue named), .complex read⟩
  | nothing kind =>
    refine .inr ⟨fun type declared => ?_, nofun⟩
    rcases kind with kind | kind
    · exact absurd (kind ▸ declared.localName) (by decide)
    · exact absurd (kind ▸ declared.localName) (by decide)

/-- A child of a schema that can be read declares its type with the types inside it. -/
theorem TopLevelType.declares {top : TopLevel} (declared : TopLevelType outer node type)
    (h : readTopLevel node outer = .ok top) : type.Declares (declaredBy outer node) := by
  unfold declaredBy
  rw [h]
  cases top with
  | declares declarations =>
    rcases declares_of_readTopLevel h with ⟨type', declared', declares⟩ | ⟨none, -⟩
    · rw [declared.eq declared']
      exact declares
    · exact absurd declared (none type)
  | imports namespaceName? location? =>
    exact absurd (localName_of_isNamed (readTopLevel_eq_ok h).1 ▸ declared.localName) (by decide)
  | includes location =>
    exact absurd (localName_of_isNamed (readTopLevel_eq_ok h).1 ▸ declared.localName) (by decide)

/-- **Every written type is declared**, with the types inside it. -/
theorem exists_declares_of_isWritten {top : TopLevel} (h : readTopLevel node outer = .ok top)
    (written : IsWritten outer node way type) :
    ∃ own, type.Declares own ∧ own ⊆ declaredBy outer node := by
  induction written with
  | top declared => exact ⟨_, declared.declares h, List.Subset.refl _⟩
  | inside _ isField inline ih =>
    obtain ⟨own, declares, sub⟩ := ih
    cases declares with
    | complex read =>
      obtain ⟨here, reads, within⟩ := (readsFields_of_readComplex read).exists_of_getElem? isField
      rcases reads.inner with ⟨none, -⟩ | ⟨type, inline', declares⟩
      · exact absurd inline (none _)
      · obtain rfl := inline.eq inline'
        exact ⟨here.inner, declares, fun d mem => sub (List.mem_append_left _ (within mem))⟩

theorem sizeOf_lt_of_mem_children {e child : Xml.Element} (mem : child ∈ e.children) :
    sizeOf child < sizeOf e := by
  cases e with
  | mk name attributes scope content =>
    obtain ⟨piece, ofContent, is⟩ := List.mem_filterMap.1 mem
    cases piece with
    | element other =>
      obtain rfl := Option.some.inj is
      have below : sizeOf (Xml.Content.element other) < sizeOf content :=
        List.sizeOf_lt_of_mem ofContent
      rw [Xml.Content.element.sizeOf_spec] at below
      rw [Xml.Element.mk.sizeOf_spec]
      omega
    | text _ => cases is
    | comment _ => cases is
    | instruction _ _ => cases is

/-- The element that holds a written type. -/
def WrittenType.element : WrittenType → Xml.Element
  | simple _ element => element
  | complex _ element => element

/-- A type inside a field is smaller than the type that holds the field. -/
theorem InlineType.sizeOf_lt {owner : Xml.Name} {complex field : Xml.Element} {place : Nat}
    (isField : (fieldElements complex)[place]? = some field)
    (inline : InlineType owner field type) :
    sizeOf type.element < sizeOf complex := by
  obtain ⟨sequence, inComplex, inSequence⟩ := List.mem_flatMap.1 (List.mem_of_getElem? isField)
  have outer := sizeOf_lt_of_mem_children (List.mem_filter.1 inComplex).1
  have middle := sizeOf_lt_of_mem_children (List.mem_filter.1 inSequence).1
  have inner : sizeOf type.element < sizeOf field := by
    cases inline with
    | complex _ _ inside => exact sizeOf_lt_of_mem_children (List.mem_of_find?_eq_some inside)
    | simple _ _ _ inside => exact sizeOf_lt_of_mem_children (List.mem_of_find?_eq_some inside)
  omega

/-- What declares a written type are the declarations of written types. -/
theorem exists_isWritten_of_declares {way : List Nat} {type : WrittenType}
    {declarations : List Declaration} (written : IsWritten outer node way type)
    (declares : type.Declares declarations) {d : Declaration} (mem : d ∈ declarations) :
    ∃ way type, IsWritten outer node way type ∧ type.Reads d := by
  cases declares with
  | simple read =>
    obtain rfl := List.mem_singleton.1 mem
    exact ⟨way, _, written, .simple read⟩
  | @complex name element reading read =>
    rcases List.mem_append.1 mem with inside | own
    · obtain ⟨place, field, here, isField, reads, mem⟩ :=
        (readsFields_of_readComplex read).exists_of_mem inside
      rcases reads.inner with ⟨-, nothing⟩ | ⟨inner, inline, declares⟩
      · rw [nothing] at mem
        cases mem
      · have smaller := inline.sizeOf_lt isField
        exact exists_isWritten_of_declares (.inside written isField inline) declares mem
    · obtain rfl := List.mem_singleton.1 own
      exact ⟨way, _, written, .complex read⟩
termination_by sizeOf type.element

/-- **Every declared type is a written one.** -/
theorem exists_isWritten_of_mem {d : Declaration} (mem : d ∈ declaredBy outer node)
    (isType : d.isType = true) :
    ∃ way type, IsWritten outer node way type ∧ type.Reads d := by
  unfold declaredBy at mem
  split at mem
  · next declarations read =>
    rcases declares_of_readTopLevel read with ⟨type, declared, declares⟩ | ⟨-, elements⟩
    · exact exists_isWritten_of_declares (.top declared) declares mem
    · cases (elements d mem).symm.trans isType
  · cases mem

end

namespace Sources

/-! ## The types of a run -/

/-- A place where a type may be written: the occasion on which a body is taken up, the number of a
child of it, and the way to the type inside this child. -/
structure TypePlace where
  pass : Pass
  child : Nat
  way : List Nat

variable {sources : Sources}

/-- Whether a type is written at a place in one of the bodies that have been taken up. -/
inductive Moment.Holds (moment : sources.Moment) : TypePlace → WrittenType → Prop
  | intro {body : sources.Body} {child : Nat} {node : Xml.Element} {way : List Nat}
      {type : WrittenType}
      (taken : body ∈ moment.bodies) (isChild : body.schema.val.children[child]? = some node)
      (written : IsWritten body.namespaceName? node way type) :
      Holds moment ⟨body.pass, child, way⟩ type

namespace Moment

variable {moment : sources.Moment} {place : TypePlace} {type type' : WrittenType}

/-- **There is one type at a place** of the bodies that have been taken up. -/
theorem Holds.eq (sound : moment.IsSound) (h : moment.Holds place type)
    (h' : moment.Holds place type') :
    type = type' := by
  obtain ⟨taken, isChild, written⟩ := h
  generalize at_ : TypePlace.mk _ _ _ = other at h'
  obtain ⟨taken', isChild', written'⟩ := h'
  obtain ⟨pass, rfl, rfl⟩ := TypePlace.mk.inj at_
  obtain rfl := List.inj_on_of_nodup_map sound.once taken taken' pass
  obtain rfl := Option.some.inj (isChild.symm.trans isChild')
  exact written.eq written'

/-- **Every type that is written is declared**, when nothing is left to do. -/
theorem Holds.exists_reads (sound : moment.IsSound) (ended : moment.next? = none)
    (h : moment.Holds place type) :
    ∃ d ∈ moment.progress.declarations, type.Reads d := by
  obtain @⟨body, child, node, way, type, taken, isChild, written⟩ := h
  have mem : node ∈ body.schema.val.children := List.mem_of_getElem? isChild
  obtain ⟨task, ofBody, inForce, ofNode⟩ := exists_task mem
  obtain ⟨top, read⟩ := (sound.read body taken task ofBody).resolve_left
    ((nothing_left ended).1 ▸ List.not_mem_nil)
  rw [inForce, ofNode] at read
  obtain ⟨own, declares, sub⟩ := exists_declares_of_isWritten read written
  obtain ⟨d, declared, reads⟩ := declares.exists_reads
  have ofBody : d ∈ body.declared := List.mem_flatMap.2 ⟨node, mem, sub declared⟩
  exact ⟨d, (sound.perm_of_ended ended).mem_iff.2 (List.mem_flatMap.2 ⟨body, taken, ofBody⟩), reads⟩

/-- **Every type that is declared is written somewhere**, when nothing is left to do. -/
theorem IsSound.exists_holds (sound : moment.IsSound) (ended : moment.next? = none)
    {d : Declaration} (mem : d ∈ moment.progress.declarations) (isType : d.isType = true) :
    ∃ place type, moment.Holds place type ∧ type.Reads d := by
  obtain ⟨body, taken, ofBody⟩ := List.mem_flatMap.1 ((sound.perm_of_ended ended).mem_iff.1 mem)
  obtain ⟨node, ofChildren, declared⟩ := List.mem_flatMap.1 ofBody
  obtain ⟨child, isChild⟩ := List.mem_iff_getElem?.1 ofChildren
  obtain ⟨way, type, written, reads⟩ := exists_isWritten_of_mem declared isType
  exact ⟨_, type, .intro taken isChild written, reads⟩

end Moment

end Sources

end SchemaBinding.Schema
