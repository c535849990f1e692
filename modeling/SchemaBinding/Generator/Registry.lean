import SchemaBinding.Remaining
import SchemaBinding.Generator.Definition
import SchemaBinding.Generator.Naming

/-!
# The registry of types

Source: `SPEC_FULL.md`, 4.2 and 10.8; `generator/registry` (`resolve`,
`resolve_element`, `generate`).

A registry resolves names of types and elements to built-in types and
definitions. A declaration is turned into a definition when it is first referred
to, after all that it refers to. A declaration that is met again while it is
being turned into a definition refers to itself, which is an error. A step that
fails leaves its marks: the declarations that were being turned into definitions
are taken to be so from then on.
-/

namespace SchemaBinding

/-- What a definition is found by: types and elements have names of their own. -/
structure DefinitionKey where
  isType : Bool
  name : Xml.Name
  deriving DecidableEq, Repr

/-- The key of a declaration. -/
def Declaration.key (d : Declaration) : DefinitionKey := ⟨d.isType, d.name⟩

/-- The kind of name that the definition of a declaration has. -/
def Declaration.namingKind : Declaration → Naming.Kind
  | .simple _ => .simple
  | .complex _ => .complex
  | .element _ => .element

/-- A registry: the definitions, the keys they are found by, and the names that have been given
out. -/
structure Registry where
  resolved : List (DefinitionKey × TypeRef) := []
  taken : List String := []
  definitions : List Definition := []
  deriving Inhabited

namespace Registry

/-- A failed step: its cause, the registry as it is left, and the keys of the declarations that were
being turned into definitions. -/
structure Failure where
  cause : GenerateError
  registry : Registry
  marks : List DefinitionKey

/-- A step of a registry. -/
abbrev Step := StateT Registry (Except Failure)

/-- What a key has been resolved to. The names of the built-in types are resolved from the
beginning. -/
def lookup? (registry : Registry) (key : DefinitionKey) : Option TypeRef :=
  match (if key.isType then builtinNamed? key.name else none) with
  | some builtin => some (.builtin builtin)
  | none => (registry.resolved.find? (·.1 = key)).map (·.2)

/-- Fails, with the marks of the declarations on the way. -/
def fail {α : Type} (path : List DefinitionKey) (cause : GenerateError) : Step α := fun registry =>
  .error { cause, registry, marks := path }

/-- The result of something that may fail by itself. -/
def lift {α : Type} (path : List DefinitionKey) : Except GenerateError α → Step α
  | .ok a => pure a
  | .error cause => fail path cause

/-- Gives out a name for a type. -/
def takeName (path : List DefinitionKey) (name : String) (kind : Naming.Kind) : Step String := do
  let derived ← lift path (Naming.typeName name kind)
  let registry ← get
  let name := Naming.fresh registry.taken derived
  set { registry with taken := name :: registry.taken }
  return name

/-- Adds a definition under a key. -/
def define (key : DefinitionKey) (definition : Definition) : Step TypeRef := do
  let registry ← get
  let ref := TypeRef.generated registry.definitions.length
  set { registry with
    definitions := registry.definitions ++ [definition]
    resolved := (key, ref) :: registry.resolved }
  return ref

/-- Turns a declaration into a definition with the body that `make` gives, unless it has been.
`path` are the declarations on the way, to which this one must not belong. -/
def defining (path : List DefinitionKey) (d : Declaration)
    (make : d.key ∉ path → Step DefinitionBody) :
    Step TypeRef := do
  match (← get).lookup? d.key with
  | some ref => return ref
  | none =>
    if met : d.key ∈ path then fail path (.recursiveType d.name)
    else
      let body ← make met
      let name ← takeName (d.key :: path) d.localName d.namingKind
      define d.key ⟨name, d.localName, d.namespaceName?, body⟩

/-- A declaration from a list. -/
abbrev Member (declarations : List Declaration) := { d : Declaration // d ∈ declarations }

/-- The first declaration in a list that satisfies a condition. -/
def first? (declarations : List Declaration) (p : Declaration → Bool) :
    Option (Member declarations) :=
  match found : declarations.find? p with
  | some d => some ⟨d, List.mem_of_find?_eq_some found⟩
  | none => none

/-- The first type with a name. -/
def firstType? (declarations : List Declaration) (name : Xml.Name) : Option (Member declarations) :=
  first? declarations fun d => d.isType && d.name == name

/-- The first element with a name. -/
def firstElement? (declarations : List Declaration) (name : Xml.Name) :
    Option (Member declarations) :=
  first? declarations fun d => !d.isType && d.name == name

/-- The base that a simple type may have: any simple one. The type of all content stands for all
simple values. -/
def simpleBase (path : List DefinitionKey) (name base : Xml.Name) (ref : TypeRef) : Step TypeRef :=
  do
  match ref with
  | .builtin .anyType => return .builtin (.simple .anySimpleType)
  | .builtin (.simple type) => return .builtin (.simple type)
  | .generated index =>
    let registry ← get
    match registry.definitions[index]? with
    | some definition =>
      if definition.isSimple then return ref else fail path (.complexBase name base)
    | none => fail path (.outOfRange registry.definitions.length index)

/-- The type of an element; without one it holds any content. -/
def typeOf (e : ElementDeclaration) : Xml.Name :=
  e.type?.getD ⟨some schemaNamespace, Builtin.anyType.localName⟩

mutual

/-- Resolves the name of a type. -/
def resolveOn (declarations : List Declaration) (path : List DefinitionKey) (name : Xml.Name) :
    Step TypeRef := do
  match (← get).lookup? ⟨true, name⟩ with
  | some ref => return ref
  | none =>
    match firstType? declarations name with
    | some d => defining path d.val fun _ => bodyOn declarations (d.val.key :: path) d.val
    | none => fail path (.typeNotFound name)
termination_by (remaining (declarations.map Declaration.key) path, 1, 0)
decreasing_by exact Prod.Lex.left _ _ (remaining_cons_lt (List.mem_map_of_mem d.property) ‹_›)

/-- The fields of a structured type. `taken` are the names of the fields so far. -/
def fieldsOn (declarations : List Declaration) (path : List DefinitionKey) (taken : List String) :
    List ElementDeclaration → Step (List FieldDefinition)
  | [] => return []
  | e :: rest => do
    let type ← resolveOn declarations path (typeOf e)
    let name := Naming.fresh taken (← lift path (Naming.fieldName e.name))
    let field : FieldDefinition :=
      { name, xmlName := e.name, type, min := e.min, max := e.max, nillable := e.nillable,
        default := e.default }
    return field :: (← fieldsOn declarations path (name :: taken) rest)
termination_by fields => (remaining (declarations.map Declaration.key) path, 2, fields.length)

/-- What the definition of a declaration says, with all that the declaration refers to resolved. -/
def bodyOn (declarations : List Declaration) (path : List DefinitionKey) :
    Declaration → Step DefinitionBody
  | .simple simple => do
    let ref ← resolveOn declarations path simple.restriction.base
    let base ← simpleBase path (Declaration.simple simple).name simple.restriction.base ref
    return .simple base simple.restriction.facets
  | .complex complex => do return .complex (← fieldsOn declarations path [] complex.fields)
  | .element element => do return .element (← resolveOn declarations path (typeOf element))
termination_by (remaining (declarations.map Declaration.key) path, 3, 0)

end

/-- Turns a declaration into a definition, unless it has been. `path` are the declarations on the
way. -/
def generateOn (declarations : List Declaration) (path : List DefinitionKey) (d : Declaration) :
    Step TypeRef :=
  defining path d fun _ => bodyOn declarations (d.key :: path) d

/-- Resolves the name of an element. A type with the same name comes first. -/
def resolveElementOn (declarations : List Declaration) (path : List DefinitionKey)
    (name : Xml.Name) :
    Step TypeRef := do
  match (← get).lookup? ⟨false, name⟩ with
  | some ref => return ref
  | none =>
    match firstType? declarations name, firstElement? declarations name with
    | none, some element => generateOn declarations path element.val
    | _, _ => resolveOn declarations path name

/-! ## Requests -/

/-- What may be asked of a registry. -/
inductive Request where
  | resolve (name : Xml.Name)
  | resolveElement (name : Xml.Name)
  | generate (declaration : Declaration)

/-- The step that a request asks for, with the marks of earlier failures. -/
def Request.step (declarations : List Declaration) (marks : List DefinitionKey) :
    Request → Step TypeRef
  | .resolve name => resolveOn declarations marks name
  | .resolveElement name => resolveElementOn declarations marks name
  | .generate d => generateOn declarations marks d

/-- A registry in use, with the marks of the failures so far. -/
structure Session where
  registry : Registry := {}
  marks : List DefinitionKey := []

namespace Session

/-- The answer to a request, and the session after it. -/
def answer (declarations : List Declaration) (session : Session) (request : Request) :
    Except GenerateError TypeRef × Session :=
  match (request.step declarations session.marks).run session.registry with
  | .ok (ref, registry) => (.ok ref, { session with registry })
  | .error failure => (.error failure.cause, ⟨failure.registry, failure.marks⟩)

/-- The answers to requests in order, and the session after them. A request that fails does not end
the session. -/
def answers (declarations : List Declaration) (session : Session) :
    List Request → List (Except GenerateError TypeRef) × Session
  | [] => ([], session)
  | request :: rest =>
    let (first, next) := session.answer declarations request
    let (others, last) := next.answers declarations rest
    (first :: others, last)

end Session

end Registry

end SchemaBinding
