import SchemaBinding.Binding.Builtin
import SchemaBinding.Schema.Attribute

/-!
# Declarations

Source: `SPEC_FULL.md`, 3 and 10.6; `xsd/declarations`, `xsd/xstypes`,
`xsd/restriction` and `xsd/builtins` (`is_builtin`).

What a schema declares: simple types, which restrict a base by facets, complex
types, which are sequences of elements, and elements at the top level.
-/

namespace SchemaBinding

/-- An element at the top level, or a field of a complex type. -/
structure ElementDeclaration where
  name : String
  namespaceName? : Option String
  type? : Option Xml.Name
  default : Option String := none
  min : Nat := 1
  max : MaxOccurs := .count 1
  nillable : Bool := false
  deriving DecidableEq, Repr

namespace ElementDeclaration

/-- Sets the bounds of how often an element occurs. The upper one is not below the lower one. -/
def withOccurs (e : ElementDeclaration) (min : Nat) (max : MaxOccurs) :
    Except SchemaError ElementDeclaration :=
  match max with
  | .count most =>
    if most < min then .error (.invalidOccurs e.name min most)
    else .ok { e with min := min, max := .count most }
  | .unbounded => .ok { e with min := min, max := .unbounded }

/-- Whether an element may be absent. -/
def isOptional (e : ElementDeclaration) : Bool := e.min == 0

/-- Whether an element does not simply occur at most once. -/
def isRepeated (e : ElementDeclaration) : Bool := !e.max.isSingle

end ElementDeclaration

/-- A restriction of a base type by facets. -/
structure Restriction where
  base : Xml.Name
  facets : List Facet
  deriving DecidableEq, Repr

/-- A simple type. -/
structure SimpleDeclaration where
  name : String
  namespaceName? : Option String
  restriction : Restriction
  deriving DecidableEq, Repr

/-- A complex type, with its elements in the order of the sequence. -/
structure ComplexDeclaration where
  name : String
  namespaceName? : Option String
  fields : List ElementDeclaration
  deriving DecidableEq, Repr

/-- What a schema declares. -/
inductive Declaration where
  | simple (declaration : SimpleDeclaration)
  | complex (declaration : ComplexDeclaration)
  | element (declaration : ElementDeclaration)
  deriving DecidableEq, Repr

namespace Declaration

/-- The local name of what is declared. -/
def localName : Declaration → String
  | .simple d => d.name
  | .complex d => d.name
  | .element d => d.name

/-- The namespace of what is declared. -/
def namespaceName? : Declaration → Option String
  | .simple d => d.namespaceName?
  | .complex d => d.namespaceName?
  | .element d => d.namespaceName?

/-- The name of what is declared. -/
def name (d : Declaration) : Xml.Name := ⟨d.namespaceName?, d.localName⟩

/-- Whether a type is declared. -/
def isType : Declaration → Bool
  | .element _ => false
  | _ => true

end Declaration

/-- The names of the built-in types, in order. -/
def builtinNames : List Xml.Name := Builtin.all.map fun b => ⟨some schemaNamespace, b.localName⟩

/-- The built-in type with a name. -/
def builtinNamed? (name : Xml.Name) : Option Builtin :=
  if name.namespaceName? = some schemaNamespace then Builtin.ofName? name.localName else none

end SchemaBinding
