import SchemaBinding.Keyed
import SchemaBinding.Schema.Declaration

/-!
# Reading declarations

Source: `SPEC_FULL.md`, 4.1 and 10.6; `xsd/schema` (`parse_element`,
`parse_fields`, `parse_field`, `parse_anonymous_type`, `parse_simple_type`),
`xsd/restriction` and `xsd/import` (`map_from_xml`).

What the element children of a schema declare. A type that is written inside a
field becomes a declaration of its own, named by the type and the field with a
point between them, which comes before the declaration that holds the field.
-/

namespace SchemaBinding.Schema

/-! ## Restrictions -/

/-- The namespace of annotations that give display texts. -/
def serializationNamespace : String := "http://schemas.microsoft.com/2003/10/Serialization/"

/-- The display text that an enumerated value is annotated with. -/
def displayText? (facet : Xml.Element) : Option String := do
  let node ← facet.findPath?
    [(schemaNamespace, "annotation"), (schemaNamespace, "appinfo"),
      (serializationNamespace, "EnumerationValue")]
  return Text.trim (← node.leadingText?)

/-- The facets read so far: those that stand for themselves, and the entries of the enumeration. -/
structure FacetReading where
  facets : List Facet
  entries : List (String × String)

/-- Reads one facet. -/
def readFacet (reading : FacetReading) (facet : Xml.Element) : Except SchemaError FacetReading :=
  if facet.name.namespaceName? ≠ some schemaNamespace then
    .error (.malformedRestriction facet.localName)
  else if facet.localName = "annotation" then .ok reading
  else do
    let value ← requiredValue facet "value"
    match facet.localName with
    | "pattern" => return { reading with facets := reading.facets ++ [.pattern value] }
    | "minInclusive" => return { reading with facets := reading.facets ++ [.minInclusive value] }
    | "maxInclusive" => return { reading with facets := reading.facets ++ [.maxInclusive value] }
    | "enumeration" =>
      return { reading with
        entries := Keyed.put reading.entries value ((displayText? facet).getD value) }
    | other => throw (.malformedRestriction other)

/-- Reads a restriction. The enumerated values are one facet, after all others. -/
def readRestriction (e : Xml.Element) : Except SchemaError Restriction := do
  let some base ← nameValue? e "base" | throw (.missingAttribute e.localName "base")
  let reading ← e.children.foldlM readFacet ⟨[], []⟩
  let enumeration := if reading.entries.isEmpty then [] else [.enumeration reading.entries]
  return { base, facets := reading.facets ++ enumeration }

/-- Reads a simple type. -/
def readSimple (e : Xml.Element) (name : String) (namespaceName? : Option String) :
    Except SchemaError SimpleDeclaration := do
  let some restriction := e.find? schemaNamespace "restriction"
    | throw (.missingChild e.localName "restriction")
  return { name, namespaceName?, restriction := ← readRestriction restriction }

theorem readSimple_eq_ok {e : Xml.Element} {name : String} {namespaceName? : Option String}
    {declaration : SimpleDeclaration} (h : readSimple e name namespaceName? = .ok declaration) :
    ∃ written restriction, e.find? schemaNamespace "restriction" = some written ∧
      readRestriction written = .ok restriction ∧
        declaration = { name, namespaceName?, restriction } := by
  unfold readSimple at h
  split at h
  · next written inside =>
    obtain ⟨restriction, read, h⟩ := exists_of_bind_eq_ok h
    exact ⟨written, restriction, inside, read, (Except.ok.inj h).symm⟩
  · cases h

/-! ## Fields -/

/-- The namespace of what an element declares: its own target namespace, or that of its
surroundings. -/
def ownNamespace (e : Xml.Element) (outer : Option String) : Option String :=
  (e.valueOf? "targetNamespace").or outer

/-- What is read from the content of a complex type: the declarations of the types inside its
fields, and the fields. -/
structure FieldReading where
  inner : List Declaration
  fields : List ElementDeclaration

instance : Append FieldReading := ⟨fun a b => ⟨a.inner ++ b.inner, a.fields ++ b.fields⟩⟩

/-- Nothing read. -/
def FieldReading.none : FieldReading := ⟨[], []⟩

/-- The declaration of a type inside a field, after the declarations of the types inside that
type. -/
def FieldReading.asType (reading : FieldReading) (name : String) (namespaceName? : Option String) :
    List Declaration :=
  reading.inner ++ [.complex { name, namespaceName?, fields := reading.fields }]

/-- Reads the field that an element declares. `type?` is its type, or none when it has to be looked
for inside the element; `innerComplex` is the complex type there, if there is one. -/
def readField (e : Xml.Element) (typeName : String) (outer : Option String)
    (innerComplex : Option (String → Option String → Except SchemaError FieldReading)) :
    Except SchemaError FieldReading := do
  let name ← requiredValue e "name"
  let namespaceName? := ownNamespace e outer
  let (inner, type) ←
    match ← nameValue? e "type" with
    | some type => pure ([], type)
    | none =>
      let innerName := typeName ++ "." ++ name
      match innerComplex, e.find? schemaNamespace "simpleType" with
      | some read, _ =>
        let reading ← read innerName namespaceName?
        pure (reading.asType innerName namespaceName?, ⟨namespaceName?, innerName⟩)
      | none, some simple =>
        let declaration ← readSimple simple innerName namespaceName?
        pure ([.simple declaration], ⟨namespaceName?, innerName⟩)
      | none, none => pure ([], ⟨some schemaNamespace, Builtin.anyType.localName⟩)
  let nillable ← truthValue e "nillable"
  let min ← countValue e "minOccurs"
  let max ← boundValue e "maxOccurs"
  let field : ElementDeclaration :=
    { name, namespaceName?, type? := some type, default := e.valueOf? "default", nillable }
  return ⟨inner, [← field.withOccurs min max]⟩

mutual

/-- Reads the fields of the complex type that an element declares. -/
def readComplex : Xml.Element → (typeName : String) → (outer : Option String) →
      Except SchemaError FieldReading
  | .mk _ _ _ content, typeName, outer => readSequences content typeName outer

/-- Reads the fields of the sequences among pieces of content. -/
def readSequences : List Xml.Content → String → Option String → Except SchemaError FieldReading
  | [], _, _ => .ok .none
  | .element e :: rest, typeName, outer => do
    let here ← if e.localName = "sequence" then readSequence e typeName outer else pure .none
    return here ++ (← readSequences rest typeName outer)
  | .text _ :: rest, typeName, outer => readSequences rest typeName outer
  | .comment _ :: rest, typeName, outer => readSequences rest typeName outer
  | .instruction _ _ :: rest, typeName, outer => readSequences rest typeName outer

/-- Reads the fields of a sequence. -/
def readSequence : Xml.Element → String → Option String → Except SchemaError FieldReading
  | .mk _ _ _ content, typeName, outer => readItems content typeName outer

/-- Reads the fields that the elements among pieces of content declare. -/
def readItems : List Xml.Content → String → Option String → Except SchemaError FieldReading
  | [], _, _ => .ok .none
  | .element e :: rest, typeName, outer => do
    let here ← if e.localName = "element" then readItem e typeName outer else pure .none
    return here ++ (← readItems rest typeName outer)
  | .text _ :: rest, typeName, outer => readItems rest typeName outer
  | .comment _ :: rest, typeName, outer => readItems rest typeName outer
  | .instruction _ _ :: rest, typeName, outer => readItems rest typeName outer

/-- Reads the field that an element declares, with the types inside it. -/
def readItem : Xml.Element → String → Option String → Except SchemaError FieldReading
  | .mk name attributes scope content, typeName, outer =>
    readField (.mk name attributes scope content) typeName outer (firstComplex content)

/-- The reading of the first complex type among pieces of content. -/
def firstComplex : List Xml.Content →
      Option (String → Option String → Except SchemaError FieldReading)
  | [] => none
  | .element e :: rest =>
    if e.isNamed schemaNamespace "complexType" then some (readComplex e) else firstComplex rest
  | .text _ :: rest => firstComplex rest
  | .comment _ :: rest => firstComplex rest
  | .instruction _ _ :: rest => firstComplex rest

end

/-! ## The top level -/

/-- What a child of a schema asks for. -/
inductive TopLevel where
  | declares (declarations : List Declaration)
  | imports (namespaceName? location? : Option String)
  | includes (location : String)
  deriving DecidableEq, Repr

/-- Reads an element at the top level: a reference to a type, or an element with a type of its own,
which is declared instead. -/
def readElement (e : Xml.Element) (outer : Option String) : Except SchemaError (List Declaration) :=
  do
  let name ← requiredValue e "name"
  let namespaceName? := ownNamespace e outer
  match ← nameValue? e "type" with
  | some type =>
    let nillable ← truthValue e "nillable"
    return [.element
      { name, namespaceName?, type? := some type, default := e.valueOf? "default", nillable }]
  | none =>
    match e.find? schemaNamespace "complexType" with
    | some complex =>
      if (complex.find? schemaNamespace "sequence").isSome then
        return (← readComplex complex name namespaceName?).asType name namespaceName?
      else throw (.missingChild e.localName "complexType")
    | none => throw (.missingChild e.localName "complexType")

/-- The namespace and the location that an import names. -/
def readImport (e : Xml.Element) : Option String × Option String :=
  (e.valueOf? "namespace", e.valueOf? "schemaLocation")

/-- The location that an inclusion names. -/
def readInclude (e : Xml.Element) : Except SchemaError String := requiredValue e "schemaLocation"

/-- Reads a child of a schema with a target namespace. -/
def readTopLevel (e : Xml.Element) (outer : Option String) : Except SchemaError TopLevel :=
  if e.name.namespaceName? ≠ some schemaNamespace then .error (.unsupportedNode e.localName)
  else
    match e.localName with
    | "import" => .ok (.imports (readImport e).1 (readImport e).2)
    | "include" => (readInclude e).map .includes
    | "element" => (readElement e outer).map .declares
    | "simpleType" => do
      let name ← requiredValue e "name"
      return .declares [.simple (← readSimple e name (ownNamespace e outer))]
    | "complexType" => do
      let name ← requiredValue e "name"
      let namespaceName? := ownNamespace e outer
      return .declares ((← readComplex e name namespaceName?).asType name namespaceName?)
    | "attribute" | "annotation" => .ok (.declares [])
    | other => .error (.unsupportedNode other)

/-- What an element at the top level is read as. -/
inductive ReadsElement (e : Xml.Element) (outer : Option String) : List Declaration → Prop
  | typed {name : String} {type : Xml.Name} {nillable : Bool}
      (named : requiredValue e "name" = .ok name) (typed : nameValue? e "type" = .ok (some type)) :
      ReadsElement e outer
        [.element
          { name, namespaceName? := ownNamespace e outer, type? := some type,
            default := e.valueOf? "default", nillable }]
  | holding {name : String} {complex : Xml.Element} {reading : FieldReading}
      (named : requiredValue e "name" = .ok name) (untyped : nameValue? e "type" = .ok none)
      (inside : e.find? schemaNamespace "complexType" = some complex)
      (read : readComplex complex name (ownNamespace e outer) = .ok reading) :
      ReadsElement e outer (reading.asType name (ownNamespace e outer))

theorem reads_of_readElement {e : Xml.Element} {outer : Option String}
    {declarations : List Declaration} (h : readElement e outer = .ok declarations) :
    ReadsElement e outer declarations := by
  obtain ⟨name, named, h⟩ := exists_of_bind_eq_ok h
  obtain ⟨type?, typed, h⟩ := exists_of_bind_eq_ok h
  cases type? with
  | some type =>
    obtain ⟨nillable, -, h⟩ := exists_of_bind_eq_ok h
    cases h
    exact .typed named typed
  | none =>
    dsimp only at h
    split at h
    · next complex inside =>
      split at h
      · obtain ⟨reading, read, h⟩ := exists_of_bind_eq_ok h
        cases h
        exact .holding named typed inside read
      · cases h
    · cases h

/-- What a child of a schema is read as, by its kind. -/
inductive ReadsTopLevel (e : Xml.Element) (outer : Option String) : TopLevel → Prop
  | imports (kind : e.localName = "import") :
      ReadsTopLevel e outer (.imports (readImport e).1 (readImport e).2)
  | includes {location : String} (kind : e.localName = "include")
      (read : readInclude e = .ok location) : ReadsTopLevel e outer (.includes location)
  | element {declarations : List Declaration} (kind : e.localName = "element")
      (read : readElement e outer = .ok declarations) :
      ReadsTopLevel e outer (.declares declarations)
  | simple {name : String} {declaration : SimpleDeclaration} (kind : e.localName = "simpleType")
      (named : requiredValue e "name" = .ok name)
      (read : readSimple e name (ownNamespace e outer) = .ok declaration) :
      ReadsTopLevel e outer (.declares [.simple declaration])
  | complex {name : String} {reading : FieldReading} (kind : e.localName = "complexType")
      (named : requiredValue e "name" = .ok name)
      (read : readComplex e name (ownNamespace e outer) = .ok reading) :
      ReadsTopLevel e outer (.declares (reading.asType name (ownNamespace e outer)))
  | nothing (kind : e.localName = "attribute" ∨ e.localName = "annotation") :
      ReadsTopLevel e outer (.declares [])

/-- **What can be read as a child of a schema** is in the namespace of schemas, and of one of the
kinds. -/
theorem reads_of_readTopLevel {e : Xml.Element} {outer : Option String} {top : TopLevel}
    (h : readTopLevel e outer = .ok top) :
    e.name.namespaceName? = some schemaNamespace ∧ ReadsTopLevel e outer top := by
  unfold readTopLevel at h
  split at h
  · cases h
  · next inSchema =>
    refine ⟨Classical.not_not.1 inSchema, ?_⟩
    split at h
    next kind =>
      cases h
      exact .imports kind
    next kind =>
      obtain ⟨location, read, rfl⟩ := map_eq_ok_iff.1 h
      exact .includes kind read
    next kind =>
      obtain ⟨declarations, read, rfl⟩ := map_eq_ok_iff.1 h
      exact .element kind read
    next kind =>
      obtain ⟨name, named, h⟩ := exists_of_bind_eq_ok h
      obtain ⟨declaration, read, h⟩ := exists_of_bind_eq_ok h
      cases h
      exact .simple kind named read
    next kind =>
      obtain ⟨name, named, h⟩ := exists_of_bind_eq_ok h
      obtain ⟨reading, read, h⟩ := exists_of_bind_eq_ok h
      cases h
      exact .complex kind named read
    next kind =>
      cases h
      exact .nothing (.inl kind)
    next kind =>
      cases h
      exact .nothing (.inr kind)
    · cases h

end SchemaBinding.Schema
