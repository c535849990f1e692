import SchemaBinding.Schema.Declaration

/-!
# Definitions

Source: `SPEC_FULL.md`, 9 (the intermediate representation); `generator/ir`.

What is generated from declarations, apart from any language: definitions of
simple types, structured types and elements. A definition refers to built-in
types and to definitions before it, by their places.
-/

namespace SchemaBinding

/-- A reference to a type: a built-in one, or the definition at a place. -/
inductive TypeRef where
  | builtin (builtin : Builtin)
  | generated (index : Nat)
  deriving DecidableEq, Repr

/-- A field of a structured type. -/
structure FieldDefinition where
  name : String
  xmlName : String
  type : TypeRef
  min : Nat
  max : MaxOccurs
  nillable : Bool
  default : Option String
  deriving DecidableEq, Repr

/-- What is defined. -/
inductive DefinitionBody where
  | simple (base : TypeRef) (facets : List Facet)
  | complex (fields : List FieldDefinition)
  /-- An element that wraps a type under its own name. -/
  | element (type : TypeRef)
  deriving DecidableEq, Repr

/-- A definition. -/
structure Definition where
  name : String
  xmlName : String
  namespaceName? : Option String
  body : DefinitionBody
  deriving DecidableEq, Repr

namespace Definition

/-- Whether a simple type is defined. -/
def isSimple (d : Definition) : Bool :=
  match d.body with
  | .simple _ _ => true
  | _ => false

/-- The name in the schema of what is defined. -/
def schemaName (d : Definition) : Xml.Name := ⟨d.namespaceName?, d.xmlName⟩

end Definition

end SchemaBinding
