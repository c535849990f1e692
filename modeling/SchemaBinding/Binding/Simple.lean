import SchemaBinding.Binding.Builtin
import SchemaBinding.Xml.Tree

/-!
# Simple types

Source: `SPEC_FULL.md`, 4.3 (simple type) and 10.7; `builtins/meta`
(`from_native`, `from_node`, `validate`, `from_literal`, `wire_value`).

A simple type is built in or restricts another by facets. A value passes a
restriction when it passes the base and then every facet, in order. Literals are
read after the treatment of their white space; a literal that is the display
text of an enumeration stands for the key of that entry. The name of a type,
like that of any binding, tells from which elements it is read.
-/

namespace SchemaBinding

/-! ## Names of bindings -/

/-- The name of a binding. An empty namespace stands for elements of any namespace. -/
structure TypeName where
  name : String
  namespaceName : String
  deriving DecidableEq, Repr, Inhabited

namespace TypeName

/-- The name with its namespace in braces before it. -/
def identifier (t : TypeName) : String := "\x7b" ++ t.namespaceName ++ "\x7d" ++ t.name

/-- Whether an element carries a name. -/
def accepts (t : TypeName) (e : Xml.Element) : Bool :=
  e.localName == t.name &&
    (t.namespaceName.isEmpty || e.name.namespaceName?.getD "" == t.namespaceName)

end TypeName

/-! ## Types -/

/-- A simple type: a built-in one, or a restriction of another. -/
inductive SimpleType where
  | builtin (builtin : SimpleBuiltin)
  | restriction (name : TypeName) (base : SimpleType) (facets : List Facet)
  deriving DecidableEq, Repr

namespace SimpleType

/-- The name of a simple type. -/
def typeName : SimpleType → TypeName
  | .builtin b => ⟨b.localName, schemaNamespace⟩
  | .restriction name _ _ => name

/-- The built-in type from which a simple type is derived. -/
def root : SimpleType → SimpleBuiltin
  | .builtin b => b
  | .restriction _ base _ => base.root

/-- The space that a simple type is built on. -/
def space (type : SimpleType) : Space := type.root.space

/-- How a simple type treats the white space of literals. -/
def whitespace (type : SimpleType) : Whitespace := type.root.whitespace

/-- The enumeration in effect: the first of the type's own facets that is one, or else that of the
base. -/
def enumeration? : SimpleType → Option (List (String × String))
  | .builtin _ => none
  | .restriction _ base facets => (facets.findSome? Facet.entries?).or base.enumeration?

/-- The lists of facets from the root to the type. -/
def levels : SimpleType → List (List Facet)
  | .builtin _ => []
  | .restriction _ base facets => base.levels ++ [facets]

/-- Checks a value, read from `literal`, against one level of facets. All bounds are read before any
rule is checked. -/
def checkLevel (space : Space) (facets : List Facet) (value : space.Carrier) (literal : String) :
    Except Violation Unit := do
  Rule.checkAll (← Facet.rules space facets) value literal

/-- Checks a value, read from `literal`: against the base first, and then against the type's own
facets. -/
def validate : (type : SimpleType) → type.space.Carrier → String → Except Violation Unit
  | .builtin b, value, literal => b.validate value literal
  | .restriction name base facets, value, literal => do
    base.validate value literal
    checkLevel (restriction name base facets).space facets value literal

/-- Accepts a value that is given directly. Patterns look at its canonical form. -/
def accept (type : SimpleType) (value : type.space.Carrier) : Except Violation type.space.Carrier :=
  do
  type.validate value (type.space.canonical value)
  return value

/-- The key that a literal stands for: the key of the first entry with this display text, or else
itself. -/
def keyOf (type : SimpleType) (literal : String) : String :=
  match type.enumeration? with
  | none => literal
  | some entries => ((entries.find? (·.2 = literal)).map (·.1)).getD literal

/-- Reads a literal. -/
def ofLiteral (type : SimpleType) (literal : String) : Except Violation type.space.Carrier := do
  let key := type.keyOf (type.whitespace.apply literal)
  let value ← type.space.parse key
  type.validate value key
  return value

/-- The text that is written for a value: the display text of the first key that denotes it, or else
its canonical form. -/
def text (type : SimpleType) (value : type.space.Carrier) : String :=
  match type.enumeration?.bind fun entries => entries.find? fun entry =>
    keyDenotes type.space entry.1 value with
  | some entry => entry.2
  | none => type.space.canonical value

end SimpleType

end SchemaBinding
