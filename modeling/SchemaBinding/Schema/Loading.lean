import SchemaBinding.Schema.Reading
import SchemaBinding.Remaining

/-!
# Loading schemas

Source: `SPEC_FULL.md`, 4.1 and 10.6; `xsd/schema` (`declarations`,
`parse_schema`, `import`, `include`, `fetch`, `load_schema`) and `xsd/import`
(`parse`).

A schema may import schemas of other namespaces and include further documents
of its own namespace. A run enters each namespace once and includes each
location once, in the order in which they are met. Each uses up one of finitely
many namespaces and locations, so that a run ends for every graph of imports and
inclusions.
-/

namespace SchemaBinding.Schema

/-- The documents that can be fetched. There are finitely many texts, but a text may be found at
many locations. -/
structure Library where
  fetch : String → Except FetchError String
  texts : List String
  complete : ∀ location text, fetch location = .ok text → text ∈ texts

/-- The text that a table of documents has at a location. -/
def fetchFrom (documents : Keyed String String) (location : String) : Except FetchError String :=
  match Keyed.get? documents location with
  | some text => .ok text
  | none => .error (.notFound location)

/-- The library of documents in a table. -/
def Library.ofTable (documents : Keyed String String) : Library where
  fetch := fetchFrom documents
  texts := documents.map Prod.snd
  complete location text h := by
    simp only [fetchFrom] at h
    split at h
    · rename_i found
      cases h
      exact List.mem_map_of_mem (f := Prod.snd) (Keyed.mem_of_get? found)
    · cases h

/-- The target namespace of a schema. -/
def targetNamespace (schema : Xml.Element) : Option String := schema.valueOf? "targetNamespace"

/-- What a run draws on: the schemas at hand, by their target namespaces, and the documents that can
be fetched. -/
structure Sources where
  roots : Keyed (Option String) Xml.Element
  library : Library
  allowDocumentType : Bool

/-- How far a run has come. -/
structure Progress where
  entered : List (Option String) := []
  included : List String := []
  declarations : List Declaration := []

/-- The sources whose schemas at hand are the given ones. Of several with one target namespace the
last counts, at the place of the first. -/
def Sources.ofRoots (roots : List Xml.Element) (library : Library) (allowDocumentType : Bool) :
    Sources where
  roots := Keyed.ofList (roots.map fun root => (targetNamespace root, root))
  library
  allowDocumentType

namespace Sources

/-- The root elements of all documents that can be fetched. -/
def documentRoots (sources : Sources) : List Xml.Element :=
  sources.library.texts.filterMap fun text =>
    (Xml.parseDocument sources.allowDocumentType text).toOption

/-- All schemas that a run may enter. -/
def schemas (sources : Sources) : List Xml.Element :=
  sources.roots.map Prod.snd ++ sources.documentRoots

/-- The target namespaces of all schemas. -/
def namespaces (sources : Sources) : List (Option String) := sources.schemas.map targetNamespace

/-- The children of all schemas. -/
def nodes (sources : Sources) : List Xml.Element := sources.schemas.flatMap Xml.Element.children

/-- The locations that all schemas name. -/
def locations (sources : Sources) : List String :=
  sources.nodes.filterMap (·.valueOf? "schemaLocation")

/-- A schema that a run may enter. -/
abbrev KnownSchema (sources : Sources) := { schema : Xml.Element // schema ∈ sources.schemas }

/-- A child of a schema, with the target namespace that is in force. -/
abbrev Task (sources : Sources) := Option String × { node : Xml.Element // node ∈ sources.nodes }

theorem mem_schemas_of_get? {sources : Sources} {namespaceName? : Option String}
    {schema : Xml.Element} (h : Keyed.get? sources.roots namespaceName? = some schema) :
    schema ∈ sources.schemas :=
  List.mem_append_left _ (List.mem_map_of_mem (f := Prod.snd) (Keyed.mem_of_get? h))

theorem mem_nodes {sources : Sources} {schema node : Xml.Element} (hs : schema ∈ sources.schemas)
    (hn : node ∈ schema.children) : node ∈ sources.nodes :=
  List.mem_flatMap.2 ⟨schema, hs, hn⟩

/-- The schema that is the document at a location. -/
def document (sources : Sources) (location : String) : Except ImportError sources.KnownSchema :=
  match fetched : sources.library.fetch location with
  | .error cause => .error (.fetch location cause)
  | .ok text =>
    match parsed : Xml.parseDocument sources.allowDocumentType text with
    | .error _ => .error (.malformed location)
    | .ok schema => .ok ⟨schema, List.mem_append_right _ (List.mem_filterMap.2
        ⟨text, sources.library.complete location text fetched, by simp [parsed, Except.toOption]⟩)⟩

/-- The schema that an import asks for: none if its namespace has been entered, the one at hand if
there is one, and else the document at its location. -/
def imported (sources : Sources) (entered : List (Option String))
    (namespaceName? location? : Option String) :
    Except ImportError (Option sources.KnownSchema) :=
  if namespaceName? ∈ entered then .ok none
  else
    match found : Keyed.get? sources.roots namespaceName? with
    | some schema => .ok (some ⟨schema, mem_schemas_of_get? found⟩)
    | none =>
      match location? with
      | none => .error (.missingLocation namespaceName?)
      | some location => (sources.document location).map some

/-- Checks that an element is a schema. -/
def checkSchema (e : Xml.Element) : Except SchemaError Unit :=
  if e.isNamed schemaNamespace "schema" then
    .ok () else .error (.unexpectedRoot "schema" e.localName)

/-- The children of a schema as tasks. -/
def tasks (sources : Sources) (schema : sources.KnownSchema) (namespaceName? : Option String) :
    List sources.Task :=
  schema.val.children.attach.map fun node =>
    (namespaceName?, ⟨node.val, mem_nodes schema.property node.property⟩)

end Sources

/-! ## Running -/

namespace Sources

/-- How much a run may still enter and include. -/
def budget (sources : Sources) (progress : Progress) : Nat :=
  remaining sources.namespaces progress.entered + remaining sources.locations progress.included

/-- An inclusion names its location in an attribute. -/
theorem valueOf?_of_includes {node : Xml.Element} {location : String} {outer : Option String}
    (h : readTopLevel node outer = .ok (.includes location)) :
    node.valueOf? "schemaLocation" = some location := by
  cases (reads_of_readTopLevel h).2 with
  | includes kind read => exact valueOf?_of_requiredValue read

theorem mem_locations {sources : Sources} {node : Xml.Element} {location : String}
    {outer : Option String} (hn : node ∈ sources.nodes)
    (h : readTopLevel node outer = .ok (.includes location)) :
    location ∈ sources.locations :=
  List.mem_filterMap.2 ⟨node, hn, valueOf?_of_includes h⟩

theorem mem_namespaces {sources : Sources} (schema : sources.KnownSchema) :
    targetNamespace schema.val ∈ sources.namespaces :=
  List.mem_map_of_mem schema.property

/-- Carries out tasks in order. The tasks of a schema that is entered or included come before those
that are left. An inclusion without a target namespace takes over the one in force. -/
def run (sources : Sources) (progress : Progress) : List sources.Task → Except SchemaError Progress
  | [] => .ok progress
  | (outer, node) :: rest =>
    match _ : readTopLevel node.val outer with
    | .error e => .error e
    | .ok (.declares declarations) =>
      run sources { progress with declarations := progress.declarations ++ declarations } rest
    | .ok (.imports namespaceName? location?) =>
      match sources.imported progress.entered namespaceName? location? with
      | .error cause => .error (.importing cause)
      | .ok none => run sources progress rest
      | .ok (some schema) =>
        match checkSchema schema.val with
        | .error e => .error e
        | .ok () =>
          if targetNamespace schema.val ∈ progress.entered then run sources progress rest
          else
            run sources { progress with entered := targetNamespace schema.val :: progress.entered }
              (sources.tasks schema (targetNamespace schema.val) ++ rest)
    | .ok (.includes location) =>
      if location ∈ progress.included then run sources progress rest
      else
        match sources.document location with
        | .error cause => .error (.importing cause)
        | .ok schema =>
          match checkSchema schema.val with
          | .error e => .error e
          | .ok () =>
            run sources { progress with included := location :: progress.included }
              (sources.tasks schema ((targetNamespace schema.val).or outer) ++ rest)
termination_by work => (sources.budget progress, work.length)
decreasing_by
  · exact Prod.Lex.right _ (Nat.lt_succ_self _)
  · exact Prod.Lex.right _ (Nat.lt_succ_self _)
  · exact Prod.Lex.right _ (Nat.lt_succ_self _)
  · exact Prod.Lex.left _ _ (Nat.add_lt_add_right (remaining_cons_lt (mem_namespaces schema) ‹_›) _)
  · exact Prod.Lex.right _ (Nat.lt_succ_self _)
  · exact Prod.Lex.left _ _ (Nat.add_lt_add_left
      (remaining_cons_lt (mem_locations node.property ‹_›) ‹_›) _)

/-- Enters a schema at hand, unless its namespace has been entered. -/
def enterRoot (sources : Sources) (progress : Progress) (schema : sources.KnownSchema) :
    Except SchemaError Progress := do
  checkSchema schema.val
  if targetNamespace schema.val ∈ progress.entered then return progress
  sources.run { progress with entered := targetNamespace schema.val :: progress.entered }
    (sources.tasks schema (targetNamespace schema.val))

/-- The schemas at hand, in order. -/
def rootSchemas (sources : Sources) : List sources.KnownSchema :=
  sources.roots.attach.map fun entry =>
    ⟨entry.val.2, List.mem_append_left _ (List.mem_map_of_mem (f := Prod.snd) entry.property)⟩

/-- The declarations of the schemas at hand and of all that they import and include, in order. -/
def declarations (sources : Sources) : Except SchemaError (List Declaration) := do
  return (← sources.rootSchemas.foldlM sources.enterRoot {}).declarations

end Sources

/-- The root element of the document at a location. -/
def loadRoot (library : Library) (allowDocumentType : Bool) (location : String) :
    Except SchemaError Xml.Element :=
  match library.fetch location with
  | .error cause => .error (.fetching cause)
  | .ok text =>
    match Xml.parseDocument allowDocumentType text with
    | .error cause => .error (.malformed cause)
    | .ok root => .ok root

/-- The declarations of the schema at a location and of all that it imports and includes. -/
def load (library : Library) (allowDocumentType : Bool) (location : String) :
    Except SchemaError (List Declaration) := do
  (Sources.ofRoots [← loadRoot library allowDocumentType location]
    library allowDocumentType).declarations

end SchemaBinding.Schema
