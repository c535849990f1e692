import SchemaBinding.Binding.Type
import SchemaBinding.Generator.Client

/-!
# The bindings of definitions

Source: `SPEC_FULL.md`, 4.3; what the definitions of `generator/generators`
stand for in `builtins` (`simple_type_items`, `complex_type_items`,
`element_items`).

What a definition means: the binding that ties elements to values as the
definition says. Definitions refer to earlier ones only, so that their bindings
are found one after the other.
-/

namespace SchemaBinding

/-- The binding of a built-in type. -/
def Builtin.binding : Builtin → Binding
  | .anyType => .any
  | .simple type => .simple (.builtin type)

/-- The binding that a reference stands for, when `known` are the bindings of the definitions so
far. -/
def TypeRef.binding? (known : List Binding) : TypeRef → Option Binding
  | .builtin type => some type.binding
  | .generated index => known[index]?

/-- The simple type that a binding is, if it is one. -/
def Binding.simple? : Binding → Option SimpleType
  | .simple type => some type
  | _ => none

/-- A field as it is declared. -/
def FieldDefinition.field (f : FieldDefinition) : Field :=
  { name := f.xmlName, min := f.min, max := f.max, nillable := f.nillable, default := f.default }

/-- The fields of a structured binding. -/
def Fields.ofDefinitions? (known : List Binding) : List FieldDefinition → Option Fields
  | [] => some .nil
  | f :: rest => do
    let type ← f.type.binding? known
    return .cons f.field type (← Fields.ofDefinitions? known rest)

namespace Definition

/-- The name of the binding of a definition. -/
def typeName (d : Definition) : TypeName := ⟨d.xmlName, d.namespaceName?.getD ""⟩

/-- The binding of a definition, when `known` are the bindings of those before it. -/
def binding? (known : List Binding) (d : Definition) : Option Binding :=
  match d.body with
  | .simple base facets => do
    let type ← (← base.binding? known).simple?
    return .simple (.restriction d.typeName type facets)
  | .complex fields => do return .complex d.typeName (← Fields.ofDefinitions? known fields)
  | .element type => do return .element d.typeName (← type.binding? known)

end Definition

/-- The bindings of definitions, in order. -/
def bindingsOf? (definitions : List Definition) : Option (List Binding) :=
  definitions.foldlM (fun known d => do return known ++ [← d.binding? known]) []

/-- The binding of the definition with a name. -/
def bindingNamed? (definitions : List Definition) (bindings : List Binding) (name : String) :
    Option Binding := do
  let index ← definitions.findIdx? (·.name = name)
  bindings[index]?

end SchemaBinding
