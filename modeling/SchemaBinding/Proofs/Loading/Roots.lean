import SchemaBinding.Proofs.Loading.Including

/-!
# What becomes of the schemas at hand

A child of a schema that declares an element or a type is represented by a
declaration with its name and its namespace (`exists_represents`). A schema at
hand is entered, and so are all its children represented in the result
(`exists_represents_of_declarations`), but for two cases. Of several schemas at
hand with one target namespace only the last counts, and a document that is
imported for another namespace than it has may take the place of a schema at
hand. Without those conditions declarations are lost
(`not_forall_exists_represents`).
-/

namespace SchemaBinding.Schema

/-! ## What represents a child of a schema -/

/-- Whether a child of a schema declares an element or a type. -/
def IsDeclaring (node : Xml.Element) : Prop :=
  ∃ kind ∈ ["element", "simpleType", "complexType"], node.isNamed schemaNamespace kind = true

/-- Whether a declaration is that of a child of a schema: it has its name and its namespace, and is
of its kind. An element with a type of its own is declared as that type. -/
structure Represents (outer : Option String) (node : Xml.Element) (d : Declaration) : Prop where
  localName : node.valueOf? "name" = some d.localName
  namespaceName? : d.namespaceName? = ownNamespace node outer
  kind : match d with
    | .simple _ => node.localName = "simpleType"
    | .complex _ =>
      node.localName = "complexType" ∨ node.localName = "element" ∧ node.valueOf? "type" = none
    | .element _ => node.localName = "element"

/-- A simple type has the name and the namespace that it is read with. -/
theorem name_of_readSimple {e : Xml.Element} {name : String} {namespaceName? : Option String}
    {declaration : SimpleDeclaration} (h : readSimple e name namespaceName? = .ok declaration) :
    declaration.name = name ∧ declaration.namespaceName? = namespaceName? := by
  obtain ⟨_, _, -, -, rfl⟩ := readSimple_eq_ok h
  exact ⟨rfl, rfl⟩

/-- What is declared for an element is its own declaration, after those of the types inside it. -/
theorem exists_represents_of_readElement {node : Xml.Element} {outer : Option String}
    {declarations : List Declaration} (localName : node.localName = "element")
    (h : readElement node outer = .ok declarations) :
    ∃ d ∈ declarations, Represents outer node d := by
  cases reads_of_readElement h with
  | typed named typed => exact ⟨_, List.mem_singleton_self _, valueOf?_of_requiredValue named,
      rfl, localName⟩
  | holding named untyped inside read =>
    exact ⟨_, List.mem_append_right _ (List.mem_singleton_self _),
      valueOf?_of_requiredValue named, rfl, .inr ⟨localName, valueOf?_of_nameValue? untyped⟩⟩

/-- **A child of a schema that declares something is represented** by one of the declarations that
it is read as. -/
theorem exists_represents {node : Xml.Element} {outer : Option String} {top : TopLevel}
    (declaring : IsDeclaring node) (h : readTopLevel node outer = .ok top) :
    ∃ d ∈ declaredBy outer node, Represents outer node d := by
  obtain ⟨kind, mem, named⟩ := declaring
  obtain ⟨-, sameKind⟩ := Xml.Element.isNamed_iff.1 named
  rw [← sameKind] at mem
  unfold declaredBy
  rw [h]
  cases (reads_of_readTopLevel h).2 with
  | imports kind => exact absurd (kind ▸ mem) (by decide)
  | includes kind read => exact absurd (kind ▸ mem) (by decide)
  | element kind read => exact exists_represents_of_readElement kind read
  | simple kind named read =>
    obtain ⟨sameName, sameNamespace⟩ := name_of_readSimple read
    have value := (valueOf?_of_requiredValue named).trans (congrArg some sameName.symm)
    exact ⟨_, List.mem_singleton_self _, value, sameNamespace, kind⟩
  | complex kind named read =>
    exact ⟨_, List.mem_append_right _ (List.mem_singleton_self _), valueOf?_of_requiredValue named,
      rfl, .inl kind⟩
  | nothing kind =>
    rcases kind with kind | kind
    · exact absurd (kind ▸ mem) (by decide)
    · exact absurd (kind ▸ mem) (by decide)

namespace Sources

variable {sources : Sources}

/-! ## Schemas at hand that are entered -/

/-- Whether a document may be entered in the place of the schema at hand that has a target
namespace: it has that namespace, but is imported for another one, of which there is no schema at
hand. -/
def IsTaken (sources : Sources) (namespaceName? : Option String) : Prop :=
  ∃ node ∈ sources.nodes, ∃ asked? location, Imports node asked? (some location) ∧
    Keyed.get? sources.roots asked? = none ∧
    ∃ schema, sources.document location = .ok schema ∧ targetNamespace schema.val = namespaceName?

/-- Without imports that give a location no namespace is taken. -/
theorem not_isTaken {namespaceName? : Option String}
    (h : ∀ node ∈ sources.nodes, ¬ ∃ asked? location, Imports node asked? (some location)) :
    ¬ sources.IsTaken namespaceName? := by
  rintro ⟨node, mem, asked?, location, imports, -⟩
  exact h node mem ⟨asked?, location, imports⟩

section OfRoots

variable {roots : List Xml.Element} {library : Library} {allowDocumentType : Bool}

/-- The schemas at hand are under their target namespaces. -/
theorem get?_of_mem_rootSchemas {schema : (ofRoots roots library allowDocumentType).KnownSchema}
    (h : schema ∈ (ofRoots roots library allowDocumentType).rootSchemas) :
    Keyed.get? (ofRoots roots library allowDocumentType).roots (targetNamespace schema.val) =
      some schema.val := by
  obtain ⟨namespaceName?, mem⟩ := mem_rootSchemas.1 h
  obtain ⟨root, -, same⟩ := List.mem_map.1 (Keyed.mem_of_mem_ofList mem)
  cases same
  exact Keyed.get?_of_mem (Keyed.nodup_keys_ofList _) mem

/-- Of several schemas at hand with one target namespace the last counts. -/
theorem get?_roots_of_last {root : Xml.Element} {before later : List Xml.Element}
    (split : roots = before ++ root :: later)
    (last : ∀ other ∈ later, targetNamespace other ≠ targetNamespace root) :
    Keyed.get? (ofRoots roots library allowDocumentType).roots (targetNamespace root) =
      some root := by
  unfold ofRoots
  rw [split, List.map_append, List.map_cons]
  refine Keyed.get?_ofList fun entry mem => ?_
  obtain ⟨other, ofLater, rfl⟩ := List.mem_map.1 mem
  exact last other ofLater

/-- A body that is entered has its target namespace in force. -/
theorem namespaceName?_of_entering {sources : Sources} {body : sources.Body}
    {namespaceName? : Option String} (entering : body.pass = .entering namespaceName?) :
    body.namespaceName? = namespaceName? := by
  cases body with
  | entered location? schema => exact Pass.entering.inj entering
  | included location schema outer => cases entering

/-- The namespace of a schema at hand is entered for this schema, unless it is taken. -/
theorem schema_eq_of_entering {root : Xml.Element}
    {body : (ofRoots roots library allowDocumentType).Body}
    (found : Keyed.get? (ofRoots roots library allowDocumentType).roots (targetNamespace root) =
      some root)
    (notTaken : ¬ (ofRoots roots library allowDocumentType).IsTaken (targetNamespace root))
    (isFound : body.IsFound)
    (entering : body.pass = .entering (targetNamespace root)) : body.schema.val = root := by
  cases body with
  | included location schema outer => cases entering
  | entered location? schema =>
    have namespaces : targetNamespace schema.val = targetNamespace root :=
      Pass.entering.inj entering
    cases location? with
    | none =>
      have other := get?_of_mem_rootSchemas isFound
      rw [namespaces, found] at other
      exact (Option.some.inj other).symm
    | some location =>
      obtain ⟨fetched, importing, ofNodes, asked?, imports, absent⟩ := isFound
      exact absurd
        ⟨importing, ofNodes, asked?, location, imports, absent, schema, fetched, namespaces⟩
        notTaken

/-- **The children of a schema at hand are represented** in the result, if its target namespace is
not taken, and no schema at hand that comes later has the same one. -/
theorem exists_represents_of_declarations {root node : Xml.Element}
    {before later : List Xml.Element} {declarations : List Declaration}
    (loaded : (ofRoots roots library allowDocumentType).declarations = .ok declarations)
    (split : roots = before ++ root :: later)
    (last : ∀ other ∈ later, targetNamespace other ≠ targetNamespace root)
    (notTaken : ¬ (ofRoots roots library allowDocumentType).IsTaken (targetNamespace root))
    (mem : node ∈ root.children) (declaring : IsDeclaring node) :
    ∃ d ∈ declarations, Represents (targetNamespace root) node d := by
  obtain ⟨moment, reached, ended, rfl⟩ := Moment.exists_of_declarations loaded
  obtain ⟨noWork, noneWaits⟩ := Moment.nothing_left ended
  have sound := reached.isSound
  have found : Keyed.get? (ofRoots roots library allowDocumentType).roots (targetNamespace root) =
    some root :=
    get?_roots_of_last split last
  -- The namespace of the root has been entered, and this for the root.
  obtain ⟨body, taken, entering⟩ :
    ∃ body ∈ moment.bodies, body.pass = .entering (targetNamespace root) := by
    have atHand : ⟨root, mem_schemas_of_get? found⟩ ∈ rootSchemas _ :=
      mem_rootSchemas.2 ⟨_, Keyed.mem_of_get? found⟩
    have entered := (sound.roots _ atHand).resolve_left (noneWaits ▸ List.not_mem_nil)
    exact List.mem_map.1 ((sound.has _).1 entered)
  have ofRoot : body.schema.val = root :=
    schema_eq_of_entering found notTaken (sound.found body taken) entering
  have namespaces : body.namespaceName? = targetNamespace root :=
    namespaceName?_of_entering entering
  -- So the node has been read, and what it declares is in the result.
  obtain ⟨task, ofBody, inForce, ofNode⟩ :=
    exists_task (ofRoot.symm ▸ mem : node ∈ body.schema.val.children)
  obtain ⟨top, read⟩ := (sound.read body taken task ofBody).resolve_left (noWork ▸ List.not_mem_nil)
  rw [inForce, ofNode, namespaces] at read
  obtain ⟨d, declared, represents⟩ := exists_represents declaring read
  have ofBody : d ∈ body.declared := by
    rw [Body.declared, ofRoot, namespaces]
    exact List.mem_flatMap.2 ⟨node, mem, declared⟩
  exact ⟨d, (sound.perm_of_ended ended).mem_iff.2 (List.mem_flatMap.2 ⟨body, taken, ofBody⟩),
    represents⟩

end OfRoots

/-! ## Two schemas at hand -/

/-- An element of a built-in type, as a child of a schema. -/
def noteElement (name : String) : Xml.Element :=
  schemaElement [(none, schemaNamespace)] "element" [("name", name), ("type", "string")] []

/-- A schema that may import a namespace and declares an element of a built-in type. -/
def noteSchema (namespaceName : String) (imported? : Option String) (name : String) : Xml.Element :=
  let imports := imported?.toList.map fun asked =>
    schemaElement [(none, schemaNamespace)] "import" [("namespace", asked)] []
  schemaElement [(none, schemaNamespace)] "schema" [("targetNamespace", namespaceName)]
    (imports ++ [noteElement name])

/-- Of two schemas at hand the first imports the second, before its turn comes. -/
theorem exists_represents_of_imported :
    ∃ declarations,
      (ofRoots [noteSchema "urn:a" "urn:b" "First", noteSchema "urn:b" none "Second"]
          (.ofTable []) false).declarations
          = .ok declarations ∧
        ∃ d ∈ declarations, Represents (some "urn:b") (noteElement "Second") d := by
  let sources := ofRoots [noteSchema "urn:a" "urn:b" "First", noteSchema "urn:b" none "Second"]
    (.ofTable []) false
  have ended : (Moment.start sources).resultWithin 6 = some (.ok [
      .element { name := "Second", namespaceName? := some "urn:b",
                 type? := some ⟨some schemaNamespace, "string"⟩ },
      .element { name := "First", namespaceName? := some "urn:a",
                 type? := some ⟨some schemaNamespace, "string"⟩ }])
      := by rfl
  have loaded := Moment.declarations_of_resultWithin ended
  -- The import gives no location, so that it leads to no document.
  have notTaken : ¬ sources.IsTaken (some "urn:b") := by
    refine not_isTaken ?_
    rintro node mem ⟨asked?, location, imports, read⟩
    have located : node.valueOf? "schemaLocation" = none :=
      (show ∀ node ∈ sources.nodes, node.valueOf? "schemaLocation" = none by decide) node mem
    cases located.symm.trans (congrArg Prod.snd read)
  have split : [noteSchema "urn:a" "urn:b" "First", noteSchema "urn:b" none "Second"] =
      [noteSchema "urn:a" "urn:b" "First"] ++ noteSchema "urn:b" none "Second" :: [] := rfl
  exact ⟨_, loaded, exists_represents_of_declarations loaded split nofun notTaken
    (List.mem_singleton_self _) ⟨"element", by decide, by decide⟩⟩

/-- **Schemas at hand may be lost**: of two with one target namespace only the second is
represented. -/
theorem not_forall_exists_represents :
    ¬ ∀ (roots : List Xml.Element) (library : Library) (allowDocumentType : Bool)
      (declarations : List Declaration),
      (ofRoots roots library allowDocumentType).declarations = .ok declarations →
      ∀ root ∈ roots, ∀ node ∈ root.children, IsDeclaring node → ∃ d ∈ declarations,
        node.valueOf? "name" = some d.localName ∧
          d.namespaceName? = ownNamespace node (targetNamespace root) := by
  intro represented
  have ended : (Moment.start
    (ofRoots [noteSchema "urn:a" none "First", noteSchema "urn:a" none "Second"] (.ofTable [])
      false)).resultWithin 4 = some (.ok [
        .element { name := "Second", namespaceName? := some "urn:a",
                   type? := some ⟨some schemaNamespace, "string"⟩ }])
      := by rfl
  obtain ⟨d, mem, named, -⟩ := represented _ _ _ _ (Moment.declarations_of_resultWithin ended)
    (noteSchema "urn:a" none "First") (List.mem_cons_self ..) (noteElement "First")
      (List.mem_singleton_self _) ⟨"element", by decide, by decide⟩
  rw [List.mem_singleton.1 mem] at named
  exact absurd named (by decide)

end Sources

end SchemaBinding.Schema
