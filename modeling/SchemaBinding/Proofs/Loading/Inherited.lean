import SchemaBinding.Proofs.Loading.Including
import SchemaBinding.Proofs.Registry.Counterpart

/-!
# Schemas that are included by others

A schema without a namespace takes over that of the schema that includes it.
When all names that are written in it have namespaces, its declarations refer to
each other as they do when it is loaded by itself, and they are turned into
definitions if they are so by themselves (`load_inherits`). But a name that is
written without a namespace does not take over the one that the declarations
do, so that it refers to nothing (`not_forall_load_inherits`).
-/

namespace SchemaBinding.Schema

open Sources Registry

variable {library : Library} {allowDocumentType : Bool} {uri location : String}
  {root document : Xml.Element}

/-- **An included schema keeps its references.** Let a document without a namespace neither import
nor include anything, and be loaded by itself with all its references resolved. Let a schema include
the document and have nothing else. If all names that are written in the document have namespaces,
and those of its types stay apart in the namespace of the schema, then the schema declares the
counterparts of what the document does. Their references are to the same built-in types, or to the
counterparts of what they were to before, and they are turned into definitions if they were
before. -/
theorem load_inherits {declarations : List Declaration}
    (fetched : loadRoot library allowDocumentType location = .ok document)
    (isSchema : checkSchema document = .ok ())
    (unnamed : targetNamespace document = none)
    (contained : ∀ node ∈ document.children, IsSelfContained node)
    (alone : load library allowDocumentType location = .ok declarations)
    (references : ∀ d ∈ declarations, ∀ r ∈ d.references, referent? declarations r ≠ none)
    (loaded : loadRoot library allowDocumentType uri = .ok root)
    (isSchema' : checkSchema root = .ok ())
    (only : ∀ node ∈ root.children, readTopLevel node (targetNamespace root) = .ok (.declares []) ∨
      Includes node location)
    (includes : ∃ node ∈ root.children, Includes node location)
    (qualified : ∀ node ∈ document.children, IsQualified node)
    (apart : StaysApart declarations (targetNamespace root)) :
    let counterpart := Declaration.under (targetNamespace root)
    load library allowDocumentType uri = .ok (declarations.map counterpart) ∧
      (∀ d ∈ declarations, (counterpart d).references.map
        (referent? (declarations.map counterpart)) =
        d.references.map fun r => (referent? declarations r).map (Sum.map id counterpart)) ∧
      ((∃ definitions, definitionsOfAll declarations = .ok definitions) →
        ∃ definitions, definitionsOfAll (declarations.map counterpart) = .ok definitions) := by
  intro counterpart
  have declaring := declaring_of_load fetched isSchema contained alone
  rw [unnamed] at declaring
  have known : ∀ d ∈ declarations, ∀ r ∈ d.references, IsKnown declarations r :=
    fun d mem r refers => isKnown_iff.2 (references d mem r refers)
  refine ⟨?_, fun d mem => ?_, exists_definitions_under apart known⟩
  · have counterparts : ∀ node ∈ document.children,
        declaredBy (targetNamespace root) node = (declaredBy none node).map counterpart := by
      intro node mem
      obtain ⟨made, read⟩ := declaring node mem
      rw [declaredBy, declaredBy, read, readTopLevel_under (qualified node mem) read]
    have inside : ∀ node ∈ document.children, ∃ made,
        readTopLevel node (targetNamespace root) = .ok (.declares made) := by
      intro node mem
      obtain ⟨made, read⟩ := declaring node mem
      exact ⟨_, readTopLevel_under (qualified node mem) read _⟩
    have all := load_of_declaring fetched isSchema (unnamed ▸ declaring)
    rw [alone, unnamed] at all
    rw [load_of_including loaded isSchema' only includes fetched isSchema unnamed inside,
      Except.ok.inj all, List.map_flatMap]
    exact congrArg Except.ok (List.flatMap_congr counterparts)
  · rw [Declaration.references_under, List.map_map]
    exact List.map_congr_left fun r refers => referent?_under apart (known d mem r refers)

/-- The including schema has nothing but the inclusion. -/
theorem only_outer : ∀ node ∈ outerSchema.children,
    readTopLevel node (targetNamespace outerSchema) = .ok (.declares []) ∨ Includes node "d" := by
  intro node mem
  rw [List.mem_singleton.1 (show node ∈ [_] from mem)]
  exact .inr ⟨rfl, rfl⟩

/-- A type inside a field, and the field that refers to it, have counterparts in the namespace of
the including schema. -/
theorem load_inherits_part :
    load (.ofTable twoDocuments) false "s" = .ok (partDeclarations (some "u")) ∧
    ∃ definitions, definitionsOfAll (partDeclarations (some "u")) = .ok definitions := by
  have references : ∀ d ∈ partDeclarations none, ∀ r ∈ d.references,
    referent? (partDeclarations none) r ≠ none := by
    decide
  have apart : StaysApart (partDeclarations none) (targetNamespace outerSchema) :=
    ⟨by decide, by decide⟩
  have contained : ∀ node ∈ innerSchema.children, IsSelfContained node := by
    intro node mem
    rw [List.mem_singleton.1 (show node ∈ [_] from mem)]
    exact ⟨by decide, by decide⟩
  have qualified : ∀ node ∈ innerSchema.children, IsQualified node := by
    intro node mem
    rw [List.mem_singleton.1 (show node ∈ [_] from mem)]
    exact isQualified_of_all (by decide)
  have names : (definitionsOfAll (partDeclarations none)).toOption.map (·.map Definition.name) =
      some ["ABComplexType", "AComplexType"] := by
    change (definitionsOf (partDeclarations none) [_, _]).toOption.map (·.map Definition.name) = _
    simp only [definitionsOf, generateAll, generateOn, bodyOn, fieldsOn, resolveOn]
    rfl
  have generated : ∃ definitions, definitionsOfAll (partDeclarations none) = .ok definitions := by
    cases made : definitionsOfAll (partDeclarations none) with
    | ok definitions => exact ⟨definitions, rfl⟩
    | error cause =>
      rw [made] at names
      cases names
  obtain ⟨loaded, -, inherited⟩ :=
    load_inherits loadRoot_inner rfl rfl contained load_inner references loadRoot_outer
    rfl only_outer ⟨_, List.mem_singleton_self _, rfl, rfl⟩ qualified apart
  exact ⟨loaded, inherited generated⟩

/-! ## Names without namespaces -/

/-- A schema without a namespace, with an element of a declared type. -/
def plainText : String :=
  "<x:schema xmlns:x=\"http://www.w3.org/2001/XMLSchema\"><x:complexType name=\"A\"/>" ++
    "<x:element name=\"E\" type=\"A\"/></x:schema>"

def plainSchema : Xml.Element :=
  let scope : Xml.Scope := [(some "x", schemaNamespace)]
  schemaElement scope "schema" [] [schemaElement scope "complexType" [("name", "A")] [],
    schemaElement scope "element" [("name", "E"), ("type", "A")] []]

theorem parse_plainText : Xml.parseDocument false plainText = .ok plainSchema := by decide +kernel

/-- What the schema declares in a namespace: the element refers to a type without one. -/
def plainDeclarations (namespaceName? : Option String) : List Declaration :=
  [.complex ⟨"A", namespaceName?, []⟩,
    .element { name := "E", namespaceName?, type? := some ⟨none, "A"⟩ }]

/-- A schema that includes it. -/
def plainDocuments : Keyed String String := [("s", outerText), ("d", plainText)]

theorem loadRoot_plain : loadRoot (.ofTable plainDocuments) false "d" = .ok plainSchema :=
  loadRoot_ofTable rfl parse_plainText

theorem loadRoot_outer_plain : loadRoot (.ofTable plainDocuments) false "s" = .ok outerSchema :=
  loadRoot_ofTable rfl parse_outerText

theorem declares_plain {node : Xml.Element} (mem : node ∈ plainSchema.children)
    (outer : Option String) :
    ∃ declarations, readTopLevel node outer = .ok (.declares declarations) := by
  rcases List.mem_cons.1 (show node ∈ [_, _] from mem) with rfl | last
  · exact ⟨_, rfl⟩
  · rw [List.mem_singleton.1 last]
    exact ⟨_, rfl⟩

theorem load_plain : load (.ofTable plainDocuments) false "d" = .ok (plainDeclarations none) :=
  load_of_declaring loadRoot_plain rfl fun _ mem => declares_plain mem none

theorem load_outer_plain :
    load (.ofTable plainDocuments) false "s" = .ok (plainDeclarations (some "u")) :=
  load_of_including loadRoot_outer_plain rfl only_outer ⟨_, List.mem_singleton_self _, rfl, rfl⟩
    loadRoot_plain rfl rfl fun _ mem => declares_plain mem _

/-- **References may be lost** in a document that is included: a name that is written without a
namespace does not take over that of the type. -/
theorem not_forall_load_inherits :
    ¬ ∀ (documents : Keyed String String) (allowDocumentType : Bool) (uri location : String)
      (root document : Xml.Element) (declarations included : List Declaration),
      loadRoot (.ofTable documents) allowDocumentType location = .ok document →
        targetNamespace document = none →
      (∀ node ∈ document.children, IsSelfContained node) →
      load (.ofTable documents) allowDocumentType location = .ok declarations →
      (∀ d ∈ declarations, ∀ r ∈ d.references, referent? declarations r ≠ none) →
      loadRoot (.ofTable documents) allowDocumentType uri = .ok root →
      (∀ node ∈ root.children, readTopLevel node (targetNamespace root) = .ok (.declares []) ∨
        Includes node location) →
      (∃ node ∈ root.children, Includes node location) →
      load (.ofTable documents) allowDocumentType uri = .ok included →
      ∀ d ∈ included, ∀ r ∈ d.references, referent? included r ≠ none := by
  intro inherits
  have references : ∀ d ∈ plainDeclarations none, ∀ r ∈ d.references,
    referent? (plainDeclarations none) r ≠ none := by
    decide
  have contained : ∀ node ∈ plainSchema.children, IsSelfContained node := by
    unfold IsSelfContained
    intro node mem
    rcases List.mem_cons.1 (show node ∈ [_, _] from mem) with rfl | last
    · exact ⟨by decide, by decide⟩
    · rw [List.mem_singleton.1 last]
      exact ⟨by decide, by decide⟩
  have found := inherits _ _ _ _ _ _ _ _ loadRoot_plain rfl contained load_plain references
    loadRoot_outer_plain only_outer ⟨_, List.mem_singleton_self _, rfl, rfl⟩ load_outer_plain
  exact absurd found (by decide)

end SchemaBinding.Schema
