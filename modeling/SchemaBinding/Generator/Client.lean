import SchemaBinding.Generator.Registry
import SchemaBinding.Service.Description

/-!
# Clients

Source: `SPEC_FULL.md`, 4.4 (the facade); `generator/client` (`message`,
`generate_client`).

What is generated for a service: a wrapper for each message that an operation
uses, and a client with a method for each operation. A part that refers to an
element is looked for in answers by the name of its type, a part that refers to
a type by the name of the part.
-/

namespace SchemaBinding

/-- How the element of a part is found in an answer. -/
inductive PartLookup where
  /-- By the name and namespace of the type of the part. -/
  | typeName
  /-- By the name of the part, in any namespace. -/
  | partName
  deriving DecidableEq, Repr

/-- A part of a message wrapper. -/
structure PartDefinition where
  name : String
  xmlName : String
  type : TypeRef
  lookup : PartLookup
  deriving DecidableEq, Repr

/-- The wrapper of a message. -/
structure MessageDefinition where
  name : String
  xmlName : String
  parts : List PartDefinition
  deriving DecidableEq, Repr

/-- A method of a client. Its messages are given by their places. -/
structure OperationDefinition where
  method : String
  /-- The name of the operation. -/
  action : String
  input : Nat
  output : Nat
  documentation : Option String
  deriving DecidableEq, Repr

/-- A client. -/
structure ClientDefinition where
  name : String
  source : String
  messages : List MessageDefinition
  operations : List OperationDefinition
  deriving DecidableEq, Repr

/-- A client that is being built: the registry of its types, the wrappers so far and the names of
their messages, in order, and the names of wrappers and methods that have been given out. -/
structure ClientBuilder where
  registry : Registry := {}
  messages : List MessageDefinition := []
  messageNames : List Xml.Name := []
  wrapperNames : List String := []
  methods : List String := []

namespace ClientBuilder

/-- A step of building a client. -/
abbrev Build := StateT ClientBuilder (Except GenerateError)

/-- A step of the registry of types. -/
def withRegistry {α : Type} (step : Registry.Step α) : Build α := do
  let builder ← get
  match step.run builder.registry with
  | .ok (a, registry) =>
    set { builder with registry }
    return a
  | .error failure => throw failure.cause

/-- The type of a part, and how it is found. -/
def partType (types : List Declaration) : PartReference → Build (TypeRef × PartLookup)
  | .type name => do return (← withRegistry (Registry.resolveOn types [] name), .partName)
  | .element name => do return (← withRegistry (Registry.resolveElementOn types [] name), .typeName)

/-- The parts of a wrapper. `taken` are the names of the parts so far. -/
def parts (types : List Declaration) (taken : List String) :
    List PartDeclaration → Build (List PartDefinition)
  | [] => return []
  | part :: rest => do
    let (type, lookup) ← partType types part.reference
    let name := Naming.fresh taken (← Naming.fieldName part.name)
    return { name, xmlName := part.name, type, lookup } :: (← parts types (name :: taken) rest)

/-- The place of the wrapper of a message, which is made when the message is first used. -/
def message (description : Description) (name : Xml.Name) : Build Nat := do
  match (← get).messageNames.findIdx? (· = name) with
  | some index => return index
  | none =>
    let some declaration := description.message? name | throw (.messageNotFound name)
    let parts ← parts description.types [] declaration.parts
    let derived ← Naming.typeName declaration.messageName .message
    let builder ← get
    let wrapper : MessageDefinition :=
      { name := Naming.fresh builder.wrapperNames derived,
        xmlName := declaration.messageName, parts }
    set { builder with
      messages := builder.messages ++ [wrapper]
      messageNames := builder.messageNames ++ [name]
      wrapperNames := wrapper.name :: builder.wrapperNames }
    return builder.messages.length

/-- The method of an operation. -/
def operation (description : Description) (declaration : OperationDeclaration) :
    Build OperationDefinition := do
  let derived ← Naming.fieldName declaration.name
  let builder ← get
  let method := Naming.fresh builder.methods derived
  set { builder with methods := method :: builder.methods }
  let input ← message description declaration.input
  let output ← message description declaration.output
  return { method, action := declaration.name, input, output,
           documentation := declaration.documentation }

end ClientBuilder

/-- The definitions of the types that the operations of a service use, and the client of the
service. -/
def clientOf (description : Description) :
    Except GenerateError (List Definition × ClientDefinition) := do
  let (operations, builder)
    ← (description.operations.mapM (ClientBuilder.operation description)).run {}
  let name ← Naming.clientName description.service
  return (builder.registry.definitions,
    { name, source := description.source, messages := builder.messages, operations })

end SchemaBinding
