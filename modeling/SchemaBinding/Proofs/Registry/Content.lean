import SchemaBinding.Proofs.Loading.Inline
import SchemaBinding.Proofs.Registry.Counterpart
import SchemaBinding.Proofs.Registry.Selection

/-!
# Definitions carry what is written

The definition of a type that is read from an element carries what is written
there, field by field or facet by facet (`Describes.carries`). A type is found by
its name alone, so that this is the definition that its name leads to as long as
no other type is written under this name (`exists_carries`). Names are not kept
apart, though: an element with a type inside it and a named type may have one
name, and then one of them is lost (`not_forall_exists_carries`).
-/

namespace SchemaBinding

open Schema

/-! ## What definitions carry -/

/-- The base that a simple type is given for a reference. The type of all content stands for all
simple values. -/
def TypeRef.asBase : TypeRef → TypeRef
  | .builtin .anyType => .builtin (.simple .anySimpleType)
  | ref => ref

/-- Whether the definition of a field is that of an element, in a type with a name. `refs` is what
names of types lead to. -/
structure FieldDefinition.Carries (refs : Xml.Name → Option TypeRef) (owner : Xml.Name)
    (field : Xml.Element) (f : FieldDefinition) : Prop where
  xmlName : field.valueOf? "name" = some f.xmlName
  min : countValue field "minOccurs" = .ok f.min
  max : boundValue field "maxOccurs" = .ok f.max
  nillable : truthValue field "nillable" = .ok f.nillable
  default : f.default = field.valueOf? "default"
  type : ∃ type, FieldTypeName owner field type ∧ refs type = some f.type

/-- Whether a definition carries what is written in a type, under the name of the type: the facets
of its restriction, or its fields one by one. -/
inductive Definition.Carries (refs : Xml.Name → Option TypeRef) (d : Definition) :
    WrittenType → Prop
  | simple {name : Xml.Name} {element written : Xml.Element} {restriction : Restriction}
      {ref : TypeRef} (named : d.schemaName = name)
      (inside : element.find? schemaNamespace "restriction" = some written)
      (read : readRestriction written = .ok restriction)
      (resolved : refs restriction.base = some ref)
      (body : d.body = .simple ref.asBase restriction.facets) :
      Carries refs d (.simple name element)
  | complex {name : Xml.Name} {element : Xml.Element} {fields : List FieldDefinition}
      (named : d.schemaName = name) (body : d.body = .complex fields)
      (carries : List.Forall₂ (fun field f => f.Carries refs name field)
        (fieldElements element) fields) :
      Carries refs d (.complex name element)

theorem exists_restriction_of_readSimple {e : Xml.Element} {name : String}
    {namespaceName? : Option String} {declaration : SimpleDeclaration}
    (h : readSimple e name namespaceName? = .ok declaration) :
    ∃ written, e.find? schemaNamespace "restriction" = some written ∧
      readRestriction written = .ok declaration.restriction := by
  obtain ⟨written, restriction, inside, read, rfl⟩ := readSimple_eq_ok h
  exact ⟨written, inside, read⟩

namespace Registry

variable {declarations : List Declaration} {d : Declaration} {s : Registry}

/-- What the names of types lead to in a registry. -/
def refs (s : Registry) (name : Xml.Name) : Option TypeRef := s.lookup? ⟨true, name⟩

theorem IsBase.eq_asBase {ref base : TypeRef} (h : IsBase s ref base) : base = ref.asBase := by
  cases h <;> rfl

theorem FieldsOf.carries {taken : List String} {owner : Xml.Name} {written : List Xml.Element}
    {elements : List ElementDeclaration} {fields : List FieldDefinition}
    (h : FieldsOf s taken elements fields) (read : List.Forall₂ (IsField owner) written elements) :
    List.Forall₂ (fun field f => f.Carries s.refs owner field) written fields := by
  induction h generalizing written with
  | nil =>
    cases read
    exact .nil
  | cons resolved _ _ ih =>
    cases read with
    | cons isField later =>
      obtain ⟨type, typed, named⟩ := isField.type
      rw [typeOf, typed] at resolved
      exact .cons ⟨isField.name, isField.min, isField.max, isField.nillable, isField.default, type,
        named, resolved⟩ (ih later)

/-- **The definition of a type that has been read** carries what is written in it. -/
theorem Describes.carries {type : WrittenType} {definition : Definition}
    (describes : Describes s d definition.body) (reads : type.Reads d)
    (key : definition.key = d.key) : definition.Carries s.refs type := by
  have name : definition.schemaName = type.name :=
    (congrArg DefinitionKey.name key).trans reads.name_eq.2
  generalize same : definition.body = body at describes
  cases reads with
  | simple read =>
    obtain ⟨written, inside, readRestriction⟩ := exists_restriction_of_readSimple read
    cases describes with
    | simple resolved isBase =>
      exact .simple name inside readRestriction resolved (isBase.eq_asBase ▸ same)
  | complex read =>
    cases describes with
    | complex fieldsOf => exact .complex name same (fieldsOf.carries
        (readsFields_of_readComplex read).forall₂)

/-! ## Types that are alone under their name -/

section

variable {sources : Sources} {moment : sources.Moment} {place place' : Sources.TypePlace}
  {type type' : WrittenType}

/-- Whether a type is written at a place under a name that no other type is written under, and that
is not that of a built-in type. -/
structure IsAlone (moment : sources.Moment) (place : Sources.TypePlace) (type : WrittenType) :
    Prop where
  holds : moment.Holds place type
  notBuiltin : builtinNamed? type.name = none
  alone : ∀ other type', moment.Holds other type' → type'.name = type.name → other = place

/-- The declaration that is turned into a definition for a type that is alone under its name is what
the type is read as. -/
theorem IsAlone.exists_definable (sound : moment.IsSound) (ended : moment.next? = none)
    (alone : IsAlone moment place type) :
    ∃ d, IsDefinable moment.progress.declarations d ∧ type.Reads d := by
  obtain ⟨declared, mem, reads⟩ := alone.holds.exists_reads sound ended
  obtain ⟨isType, named⟩ := reads.name_eq
  obtain ⟨first, found⟩ := exists_firstType?_of_mem mem isType
  rw [named] at found
  have key := key_of_firstType? found
  -- The first declaration with the name is read from a written type too, which can only be the
  -- same.
  obtain ⟨other, type', holds, reads'⟩ :=
    sound.exists_holds ended first.property (congrArg DefinitionKey.isType key)
  have same : type'.name = type.name :=
    reads'.name_eq.2.symm.trans (congrArg DefinitionKey.name key)
  obtain rfl := alone.alone other type' holds same
  obtain rfl := holds.eq sound alone.holds
  exact ⟨first.val, isDefinable_of_firstType? alone.notBuiltin found, reads'⟩

/-- **A type that is alone under its name** leads to a definition that carries what is written in
it. -/
theorem IsAlone.exists_definition (sound : moment.IsSound) (ended : moment.next? = none)
    (full : Fills moment.progress.declarations anyKey moment.progress.declarations s)
    (alone : IsAlone moment place type) :
    ∃ i definition, s.refs type.name = some (.generated i) ∧ s.definitions[i]? = some definition ∧
      definition.Carries s.refs type := by
  obtain ⟨d, definable, reads⟩ := alone.exists_definable sound ended
  obtain ⟨i, resolved⟩ := full.exists_index_of_definable definable
  obtain ⟨-, definition, found, describes⟩ := full.exists_describes definable resolved
  obtain ⟨definition', found', key⟩ := full.wellFormed.known _ i resolved
  obtain rfl := Option.some.inj (found.symm.trans found')
  obtain ⟨isType, named⟩ := reads.name_eq
  refine ⟨i, definition, ?_, found, describes.carries reads key⟩
  rw [refs, ← resolved, Declaration.key, isType, named]

/-- Different names do not lead to one definition. -/
theorem refs_ne_of_ne (wf : s.WellFormed) {name other : Xml.Name} (differs : other ≠ name) {i : Nat}
    (resolved : s.refs name = some (.generated i)) : s.refs other ≠ s.refs name := by
  intro same
  obtain ⟨definition, found, key⟩ := wf.known _ i resolved
  obtain ⟨definition', found', key'⟩ := wf.known _ i (same.trans resolved)
  obtain rfl := Option.some.inj (found.symm.trans found')
  exact differs (congrArg DefinitionKey.name (key'.symm.trans key))

/-- **Definitions carry what is written.** Let schemas be loaded with all that they import and
include, and let all that is declared be turned into definitions. Let a type be written in one of
the bodies that have been taken up, as a named type, as the type of an element or inside a field at
any depth, under a name that no other type is written under and that is not that of a built-in type.
Then this name, and with it the field that the type is inside of, leads to a definition that carries
exactly the fields or the facets that are written in the type. No other written type leads to this
definition. -/
theorem exists_carries {declarations : List Declaration} {definitions : List Definition}
    (loaded : sources.declarations = .ok declarations)
    (made : definitionsOfAll declarations = .ok definitions) :
    ∃ moment : sources.Moment, moment.IsReached ∧ moment.next? = none ∧
      moment.progress.declarations = declarations ∧
      ∃ refs : Xml.Name → Option TypeRef,
        (∀ name builtin, builtinNamed? name = some builtin → refs name = some (.builtin builtin)) ∧
        (∀ name i, refs name = some (.generated i) →
          ∃ definition, definitions[i]? = some definition ∧ definition.schemaName = name) ∧
        ∀ place type, IsAlone moment place type →
          (∃ i definition, refs type.name = some (.generated i) ∧
            definitions[i]? = some definition ∧
            definition.Carries refs type) ∧
          ∀ place' type', moment.Holds place' type' → place' ≠ place →
            refs type'.name ≠ refs type.name := by
  obtain ⟨moment, reached, ended, rfl⟩ := Sources.Moment.exists_of_declarations loaded
  obtain ⟨s, full, rfl⟩ := exists_fills made
  refine ⟨moment, reached, ended, rfl, s.refs, fun name builtin =>
    s.lookup?_of_builtin, fun name i resolved => ?_, fun place type alone => ?_⟩
  · obtain ⟨definition, found, key⟩ := full.wellFormed.known _ i resolved
    exact ⟨definition, found, congrArg DefinitionKey.name key⟩
  have carried := alone.exists_definition reached.isSound ended full
  refine ⟨carried, fun place' type' holds differs => ?_⟩
  obtain ⟨i, -, resolved, -⟩ := carried
  exact refs_ne_of_ne full.wellFormed
    (fun same => differs (alone.alone place' type' holds same)) resolved

end

/-- A complex type with one field, at the top level if it has a name. -/
def oneField (name? : Option String) (field : Xml.Element) : Xml.Element :=
  let scope : Xml.Scope := [(none, schemaNamespace)]
  schemaElement scope "complexType" (name?.toList.map fun name => ("name", name))
    [schemaElement scope "sequence" [] [field]]

/-- An element of a type that is given. -/
def typedElement (name type : String) : Xml.Element :=
  schemaElement [(none, schemaNamespace)] "element" [("name", name), ("type", type)] []

/-- An element with a type inside it. -/
def untypedElement (name : String) (type : Xml.Element) : Xml.Element :=
  schemaElement [(none, schemaNamespace)] "element" [("name", name)] [type]

/-- A field with a type inside it. -/
def lineField : Xml.Element := untypedElement "line" (oneField none (typedElement "id" "int"))

/-- An element with a type inside it that has this field. -/
def lineElement : Xml.Element := untypedElement "Order" (oneField none lineField)

def lineSchema : Xml.Element := schemaElement [(none, schemaNamespace)] "schema" [] [lineElement]

/-- The type inside the field. -/
def lineType : WrittenType :=
  .complex ⟨none, "Order.line"⟩ (oneField none (typedElement "id" "int"))

theorem inlineType_lineType : InlineType ⟨none, "Order"⟩ lineField lineType := by
  have inline : InlineType ⟨none, "Order"⟩
    lineField (.complex (inlineName ⟨none, "Order"⟩ lineField "line") _) :=
    .complex rfl rfl rfl
  exact inline

/-- Two types are written in this element. -/
theorem isWritten_lineElement {way : List Nat} {type : WrittenType}
    (h : IsWritten none lineElement way type) :
    way = [] ∧ type = .complex ⟨none, "Order"⟩ (oneField none lineField) ∨ way = [0] ∧
      type = lineType := by
  induction h with
  | top declared => exact .inl ⟨rfl, declared.eq (.element (by decide) rfl rfl rfl)⟩
  | @inside _ _ _ _ place _ _ isField inline ih =>
    rcases ih with ⟨rfl, same⟩ | ⟨rfl, same⟩
    · obtain ⟨rfl, rfl⟩ := WrittenType.complex.inj same
      cases place with
      | zero =>
        obtain rfl := Option.some.inj isField
        exact .inr ⟨rfl, inline.eq inlineType_lineType⟩
      | succ place => cases isField
    · obtain ⟨rfl, rfl⟩ := WrittenType.complex.inj same
      cases place with
      | zero =>
        obtain rfl := Option.some.inj isField
        -- The element of the one field here has a type that is given.
        cases inline with
        | complex untyped _ _ => cases untyped
        | simple untyped _ _ _ => cases untyped
      | succ place => cases isField

section

variable {root : Xml.Element} {library : Library} {allowDocumentType : Bool}
  {moment : (Sources.ofRoots [root] library allowDocumentType).Moment}

/-- Where a schema at hand and all that can be fetched import and include nothing, only this schema
is taken up. -/
theorem eq_root_of_taken
    (nothing : ∀ node ∈ (Sources.ofRoots [root] library allowDocumentType).nodes,
      node.localName ≠ "import" ∧ node.localName ≠ "include")
    (sound : moment.IsSound) {body : Sources.Body _} (taken : body ∈ moment.bodies) :
    body.schema.val = root ∧ body.namespaceName? = targetNamespace root ∧
      body.pass = .entering (targetNamespace root) := by
  have found := sound.found body taken
  cases body with
  | entered location? schema =>
    cases location? with
    | none =>
      obtain ⟨namespaceName?, mem⟩ := Sources.mem_rootSchemas.1 found
      have isRoot : schema.val = root := congrArg Prod.snd (List.mem_singleton.1 mem)
      have same : targetNamespace schema.val = targetNamespace root :=
        congrArg targetNamespace isRoot
      exact ⟨isRoot, same, congrArg Pass.entering same⟩
    | some location =>
      obtain ⟨-, node, mem, -, ⟨imports, -⟩, -⟩ := found
      exact absurd (localName_of_isNamed imports) (nothing node mem).1
  | included location schema outer =>
    obtain ⟨-, node, mem, includes, -⟩ := found
    exact absurd (localName_of_isNamed includes) (nothing node mem).2

theorem exists_taken (sound : moment.IsSound) (ended : moment.next? = none) :
    ∃ body, body ∈ moment.bodies := by
  have one : (Sources.ofRoots [root] library allowDocumentType).rootSchemas.length = 1 := rfl
  obtain ⟨schema, atHand⟩ := List.exists_mem_of_length_pos (one ▸ Nat.one_pos)
  have entered := (sound.roots schema atHand).resolve_left
    ((Sources.Moment.nothing_left ended).2 ▸ List.not_mem_nil)
  obtain ⟨body, taken, -⟩ := List.mem_map.1 ((sound.has _).1 entered)
  exact ⟨body, taken⟩

end

/-- The inner type is alone under its name. -/
theorem isAlone_lineType {moment : (Sources.ofRoots [lineSchema] (.ofTable []) false).Moment}
    (sound : moment.IsSound) (ended : moment.next? = none) :
    IsAlone moment ⟨.entering none, 0, [0]⟩ lineType := by
  refine ⟨?_, rfl, fun other type' holds same => ?_⟩
  · obtain ⟨body, taken⟩ := exists_taken sound ended
    obtain ⟨isLine, outer, entering⟩ := eq_root_of_taken (by decide) sound taken
    have isChild : body.schema.val.children[0]? = some lineElement := by rw [isLine]; rfl
    have inner : IsWritten none lineElement [0] lineType :=
      .inside (.top (.element (by decide) rfl rfl rfl)) rfl inlineType_lineType
    exact entering ▸ .intro taken isChild (outer ▸ inner)
  · obtain @⟨body, child, node, way, type', taken, isChild, written⟩ := holds
    obtain ⟨isLine, outer, entering⟩ := eq_root_of_taken (by decide) sound taken
    rw [isLine] at isChild
    rw [outer] at written
    rw [entering]
    cases child with
    | zero =>
      obtain rfl := Option.some.inj isChild
      rcases isWritten_lineElement written with ⟨-, rfl⟩ | ⟨rfl, -⟩
      · exact absurd same (by decide)
      · rfl
    | succ child => cases isChild

/-- What is declared for the two types. -/
def lineTypes : List Declaration :=
  let field (name : String) (type : Xml.Name) : ElementDeclaration :=
    { name, namespaceName? := none, type? := some type }
  [.complex ⟨"Order.line", none, [field "id" ⟨some schemaNamespace, "int"⟩]⟩,
    .complex ⟨"Order", none, [field "line" ⟨none, "Order.line"⟩]⟩]

/-- The type inside a field has a definition of its own, with the field that is written in it. -/
theorem exists_carries_line :
    (Sources.ofRoots [lineSchema] (.ofTable []) false).declarations = .ok lineTypes ∧
      ∃ definitions, definitionsOfAll lineTypes = .ok definitions ∧
        ∃ refs : Xml.Name → Option TypeRef, ∃ i definition, refs ⟨none, "Order.line"⟩ =
          some (.generated i) ∧
          definitions[i]? = some definition ∧ definition.Carries refs lineType := by
  have ended : (Sources.Moment.start
    (Sources.ofRoots [lineSchema] (.ofTable []) false)).resultWithin 4 =
      some (.ok lineTypes) := by rfl
  have loaded := Sources.Moment.declarations_of_resultWithin ended
  have made : definitionsOfAll lineTypes = .ok [
      ⟨"OrderLineComplexType", "Order.line", none,
        .complex [⟨"id", "id", .builtin (.simple .int), 1, .count 1, false, none⟩]⟩,
      ⟨"OrderComplexType", "Order", none,
        .complex [⟨"line", "line", .generated 0, 1, .count 1, false, none⟩]⟩] := by
    change definitionsOf lineTypes [_, _] = _
    simp only [definitionsOf, generateAll, generateOn, bodyOn, fieldsOn, resolveOn]
    rfl
  obtain ⟨moment, reached, ended, -, refs, -, -, carries⟩ := exists_carries loaded made
  exact ⟨loaded, _, made, refs, (carries _ _ (isAlone_lineType reached.isSound ended)).1⟩

/-- An element with a type inside it, and a type with the same name. -/
def orderSchema : Xml.Element :=
  schemaElement [(none, schemaNamespace)] "schema" []
    [untypedElement "Order" (oneField none (typedElement "id" "int")),
      oneField "Order" (typedElement "total" "decimal")]

/-- What is declared there. -/
def orderTypes : List Declaration :=
  let field (name type : String) : ElementDeclaration :=
    { name, namespaceName? := none, type? := some ⟨some schemaNamespace, type⟩ }
  [.complex ⟨"Order", none, [field "id" "int"]⟩,
    .complex ⟨"Order", none, [field "total" "decimal"]⟩]

/-- **Types may be lost.** No two elements and no two types at the top level of a schema may have
one name; if an element with a type inside it has the name of a type, then one of these two has no
definition. -/
theorem not_forall_exists_carries :
    ¬ ∀ (root : Xml.Element) (declarations : List Declaration) (definitions : List Definition),
      (Sources.ofRoots [root] (.ofTable []) false).declarations = .ok declarations →
      definitionsOfAll declarations = .ok definitions →
      ((root.findAll schemaNamespace "element").map (·.valueOf? "name")).Nodup →
      ((root.findAll schemaNamespace "simpleType" ++ root.findAll schemaNamespace "complexType").map
        (·.valueOf? "name")).Nodup →
      ∀ node ∈ root.children, ∀ type, TopLevelType (targetNamespace root) node type →
        ∃ refs, ∃ definition ∈ definitions, definition.Carries refs type := by
  intro carried
  have ended : (Sources.Moment.start
    (Sources.ofRoots [orderSchema] (.ofTable []) false)).resultWithin 4 =
      some (.ok orderTypes) := by rfl
  have made : definitionsOfAll orderTypes =
      .ok [⟨"OrderComplexType", "Order", none,
        .complex [⟨"id", "id", .builtin (.simple .int), 1, .count 1, false, none⟩]⟩] := by
    change definitionsOf orderTypes [_, _] = _
    simp only [definitionsOf, generateAll, generateOn, bodyOn, fieldsOn, resolveOn]
    rfl
  obtain ⟨refs, definition, mem, carries⟩ := carried orderSchema _ _
    (Sources.Moment.declarations_of_resultWithin ended) made (by decide) (by decide) _
    (List.mem_cons_of_mem _ (List.mem_singleton_self _)) _ (.complex (by decide) rfl)
  rw [List.mem_singleton.1 mem] at carries
  -- The one field of the one definition is that of the element.
  cases carries with
  | complex _ body fields =>
    obtain rfl := DefinitionBody.complex.inj body
    cases fields with
    | cons first _ => exact absurd first.xmlName (by decide)

end Registry

end SchemaBinding
