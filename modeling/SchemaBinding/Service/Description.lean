import SchemaBinding.Schema.Loading

/-!
# Service descriptions

Source: `SPEC_FULL.md`, 3 (messages, operations) and 10.6; `xsd/wsdl`
(`from_xml`, `load_wsdl`), `xsd/message`, `xsd/port_type` and `xsd/service`
(`map_from_xml`).

A service description names a service, the operations of its port type, the
messages that go in and out of operations, and the schemas of the parts of
messages.
-/

namespace SchemaBinding

/-- The namespace of service descriptions. -/
def descriptionNamespace : String := "http://schemas.xmlsoap.org/wsdl/"

/-- What a part of a message refers to. -/
inductive PartReference where
  | type (name : Xml.Name)
  | element (name : Xml.Name)
  deriving DecidableEq, Repr

/-- A part of a message. -/
structure PartDeclaration where
  name : String
  reference : PartReference
  deriving DecidableEq, Repr

/-- A message. It has at least one part. -/
structure MessageDeclaration where
  messageName : String
  namespaceName? : Option String
  parts : List PartDeclaration
  deriving DecidableEq, Repr

/-- An operation, with the names of its messages. -/
structure OperationDeclaration where
  name : String
  input : Xml.Name
  output : Xml.Name
  documentation : Option String
  deriving DecidableEq, Repr

/-- A service description and where it is from. -/
structure Description where
  source : String
  namespaceName? : Option String
  types : List Declaration
  operations : List OperationDeclaration
  messages : List MessageDeclaration
  service : String
  deriving DecidableEq, Repr

/-- A part that refers to a type or to an element, but not to both. -/
def PartDeclaration.ofReferences (name : String) (type? element? : Option Xml.Name) :
    Except SchemaError PartDeclaration :=
  match type?, element? with
  | some _, some _ => .error (.conflictingPart name)
  | some type, none => .ok ⟨name, .type type⟩
  | none, some element => .ok ⟨name, .element element⟩
  | none, none => .error (.missingPartType name)

/-- A message of parts, of which there is at least one. -/
def MessageDeclaration.ofParts (name : String) (namespaceName? : Option String)
    (parts : List PartDeclaration) :
    Except SchemaError MessageDeclaration :=
  if parts.isEmpty then .error (.emptyMessage name) else .ok ⟨name, namespaceName?, parts⟩

/-- The name of a message. -/
def MessageDeclaration.name (m : MessageDeclaration) : Xml.Name := ⟨m.namespaceName?, m.messageName⟩

namespace Service

open Schema (requiredValue nameValue?)

/-- Reads a part. -/
def readPart (e : Xml.Element) : Except SchemaError PartDeclaration := do
  let name ← requiredValue e "name"
  let type? ← nameValue? e "type"
  let element? ← nameValue? e "element"
  PartDeclaration.ofReferences name type? element?

/-- Reads a message of a target namespace. -/
def readMessage (e : Xml.Element) (namespaceName? : Option String) :
    Except SchemaError MessageDeclaration := do
  let parts ← (e.findAll descriptionNamespace "part").mapM readPart
  let name ← requiredValue e "name"
  MessageDeclaration.ofParts name namespaceName? parts

/-- The name of the message that a child of an operation refers to. -/
def readMessageName (operation : Xml.Element) (child : String) : Except SchemaError Xml.Name := do
  let some e := operation.find? descriptionNamespace child
    | throw (.missingChild operation.localName child)
  let some name ← nameValue? e "message" | throw (.missingAttribute e.localName "message")
  return name

/-- The documentation of an operation, unless it is blank. -/
def readDocumentation (operation : Xml.Element) : Option String := do
  let text ← (← operation.find? descriptionNamespace "documentation").leadingText?
  let trimmed := Text.trim text
  if trimmed.isEmpty then none else some trimmed

/-- Reads an operation. -/
def readOperation (e : Xml.Element) : Except SchemaError OperationDeclaration := do
  let name ← requiredValue e "name"
  let input ← readMessageName e "input"
  let output ← readMessageName e "output"
  return { name, input, output, documentation := readDocumentation e }

/-- Reads the operations of a port type. -/
def readPortType (e : Xml.Element) : Except SchemaError (List OperationDeclaration) :=
  (e.findAll descriptionNamespace "operation").mapM readOperation

/-- Reads the name of a service. -/
def readService (e : Xml.Element) : Except SchemaError String := requiredValue e "name"

/-- Reads a service description. The schemas among its types are loaded together. -/
def readDescription (library : Schema.Library) (allowDocumentType : Bool) (source : String)
    (e : Xml.Element) :
    Except SchemaError Description := do
  if !e.isNamed descriptionNamespace "definitions" then
    throw (.unexpectedRoot "definitions" e.localName)
  let namespaceName? := e.valueOf? "targetNamespace"
  let messages ← (e.findAll descriptionNamespace "message").mapM (readMessage · namespaceName?)
  let some portType := e.find? descriptionNamespace "portType"
    | throw (.missingChild e.localName "portType")
  let operations ← readPortType portType
  let types ←
    match e.find? descriptionNamespace "types" with
    | some types =>
      (Schema.Sources.ofRoots (types.findAll schemaNamespace "schema")
        library allowDocumentType).declarations
    | none => pure []
  let some service := e.find? descriptionNamespace "service"
    | throw (.missingChild e.localName "service")
  return { source, namespaceName?, types, operations, messages, service := ← readService service }

/-- The service description at a location. -/
def load (library : Schema.Library) (allowDocumentType : Bool) (location : String) :
    Except SchemaError Description := do
  readDescription library allowDocumentType location
    (← Schema.loadRoot library allowDocumentType location)

end Service

/-- The first message with a name. -/
def Description.message? (d : Description) (name : Xml.Name) : Option MessageDeclaration :=
  d.messages.find? (·.name = name)

end SchemaBinding
