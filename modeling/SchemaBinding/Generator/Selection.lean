import SchemaBinding.Generator.Registry

/-!
# Definitions of declarations

Source: `SPEC_FULL.md`, 4.4; `generator/bindings` (`is_shadowed`,
`generate_bindings`, `generate_selected`).

The definitions of all declarations, or of selected ones with all that they
refer to. An element with the name of a type is passed over, because it would
only be another name for that type.
-/

namespace SchemaBinding

/-- Whether an element has the name of a type that is declared. -/
def Declaration.isShadowed (d : Declaration) (declarations : List Declaration) : Bool :=
  !d.isType && declarations.any fun other => other.isType && other.name == d.name

namespace Registry

/-- Turns selected declarations into definitions, in order. -/
def generateAll (declarations : List Declaration) : List Declaration → Step Unit
  | [] => return ()
  | d :: rest => do
    if !d.isShadowed declarations then
      let _ ← generateOn declarations [] d
    generateAll declarations rest

end Registry

/-- The definitions of selected declarations and of all that they refer to. -/
def definitionsOf (declarations selected : List Declaration) :
    Except GenerateError (List Definition) :=
  match (Registry.generateAll declarations selected).run {} with
  | .ok (_, registry) => .ok registry.definitions
  | .error failure => .error failure.cause

/-- The definitions of all declarations. -/
def definitionsOfAll (declarations : List Declaration) : Except GenerateError (List Definition) :=
  definitionsOf declarations declarations

/-- The definitions of the declarations with one of the given local names, and of all that they
refer to. -/
def definitionsNamed (declarations : List Declaration) (names : List String) :
    Except GenerateError (List Definition) :=
  definitionsOf declarations (declarations.filter fun d => names.contains d.localName)

end SchemaBinding
