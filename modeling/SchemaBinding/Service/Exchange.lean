import SchemaBinding.Generator.Denotation

/-!
# Exchanges of messages

Source: `SPEC_FULL.md`, 6 (action dispatch) and 10.7; `builtins/client`
(`execute_action`, `message_arguments`, `decode_part`).

A call sends the parts of a message as arguments of an action and finds the
parts of the answer in the document that comes back. A part is the first element
in document order that carries its name.
-/

namespace SchemaBinding

/-- Why a call gives no answer. -/
inductive ClientError where
  /-- The action could not be dispatched. -/
  | dispatch (action cause : String)
  | malformed (cause : Xml.Malformed)
  | missingPart (name : String)
  | invalid (reason : Reason)

/-- The message that tells why a call gives no answer. -/
def ClientError.message : ClientError → String
  | .dispatch action _ => "failed to dispatch action " ++ Text.quoted action
  | .malformed _ => "the response is not well-formed XML"
  | .missingPart name => "the response has no part " ++ Text.quoted name
  | .invalid _ => "the response failed validation"

/-- A part of a message: its name, its binding, and the name of its element. -/
structure MessagePart where
  name : String
  type : Binding
  element : TypeName

/-- A part with its value. -/
structure PartValue where
  part : MessagePart
  value : part.type.Value

/-- A message: its name and its parts in order. -/
structure Message where
  name : String
  parts : List MessagePart

namespace Message

/-- Reads the first element below a root, or the root itself, that carries a name. -/
def decodePart (type : Binding) (element : TypeName) (root : Xml.Element) :
    Except ClientError type.Value :=
  match root.descendants.find? element.accepts with
  | none => .error (.missingPart element.name)
  | some e =>
    match type.decode e with
    | .ok value => .ok value
    | .error reason => .error (.invalid reason)

/-- Reads the parts of a message from a document, in order, up to the first that fails. -/
def decode (m : Message) (root : Xml.Element) : Except ClientError (List PartValue) :=
  m.parts.mapM fun part => do return ⟨part, ← decodePart part.type part.element root⟩

/-- The arguments that stand for the parts of a message. -/
def arguments (values : List PartValue) : Wire :=
  .ofParts (values.map fun v => (v.part.name, v.part.type.encode v.value))

end Message

/-- An action with its messages. -/
structure Action where
  name : String
  input : Message
  output : Message

/-- Carries out an action: dispatches the arguments and reads the answer. -/
def Action.execute (action : Action) (dispatch : String → Wire → Except String String)
    (input : List PartValue) :
    Except ClientError (List PartValue) :=
  match dispatch action.name (Message.arguments input) with
  | .error cause => .error (.dispatch action.name cause)
  | .ok text =>
    match Xml.parseDocument false text with
    | .error cause => .error (.malformed cause)
    | .ok root => action.output.decode root

/-- The element that a part is found by. -/
def PartDefinition.elementName (part : PartDefinition) (type : Binding) : TypeName :=
  match part.lookup with
  | .typeName => type.typeName
  | .partName => ⟨part.xmlName, ""⟩

/-- The message of a wrapper, when `bindings` are those of the definitions. -/
def MessageDefinition.message? (bindings : List Binding) (m : MessageDefinition) : Option Message :=
  do
  let parts ← m.parts.mapM fun part => do
    let type ← part.type.binding? bindings
    return ({ name := part.xmlName, type, element := part.elementName type } : MessagePart)
  return { name := m.xmlName, parts }

/-- The action of a method of a client, when `bindings` are those of the definitions. -/
def ClientDefinition.action? (client : ClientDefinition) (bindings : List Binding)
    (method : String) :
    Option Action := do
  let operation ← client.operations.find? (·.method = method)
  let input ← (← client.messages[operation.input]?).message? bindings
  let output ← (← client.messages[operation.output]?).message? bindings
  return { name := operation.action, input, output }

end SchemaBinding
