import SchemaBinding.Binding.Simple
import SchemaBinding.Binding.Wire
import SchemaBinding.Xml.Document

/-!
# Bindings

Source: `SPEC_FULL.md`, 4.3 (complex type) and 9; `builtins/meta` and
`builtins/complex` (`from_native`, `from_node`, `to_wire`, `from_parent`), and
`builtins/xml` (`to_xml`, `from_xml`).

A binding ties the elements of a type to values: arbitrary content, values of a
simple type, a value per field of a structured type, or an element that carries
values of another binding under its own name. Values are read from elements and
turned into content; a list of values belongs to each field, whatever its bounds
are, and only the upper bound is enforced.
-/

namespace SchemaBinding

mutual

/-- A binding. -/
inductive Binding where
  /-- Arbitrary content. -/
  | any
  | simple (type : SimpleType)
  | complex (name : TypeName) (fields : Fields)
  | element (name : TypeName) (inner : Binding)

/-- The fields of a structured binding, in order. -/
inductive Fields where
  | nil
  | cons (field : Field) (type : Binding) (rest : Fields)

end

instance : Inhabited Binding := ⟨.any⟩

instance : Inhabited Fields := ⟨.nil⟩

/-! ## Values -/

mutual

/-- The values of a binding. -/
def Binding.Value : Binding → Type
  | .any => Wire
  | .simple type => type.space.Carrier
  | .complex _ fields => fields.Values
  | .element _ inner => inner.Value

/-- A list of values for each field. -/
def Fields.Values : Fields → Type
  | .nil => Unit
  | .cons _ type rest => List type.Value × rest.Values

end

/-- What a value can be built from directly: content, or a value of the space; nothing for a
structured binding. -/
def Binding.Native : Binding → Type
  | .any => Wire
  | .simple type => type.space.Carrier
  | .complex _ _ => Empty
  | .element _ inner => inner.Native

/-- The name of a binding. -/
def Binding.typeName : Binding → TypeName
  | .any => ⟨Builtin.anyType.localName, schemaNamespace⟩
  | .simple type => type.typeName
  | .complex name _ => name
  | .element name _ => name

/-- The declared fields, in order. -/
def Fields.toList : Fields → List Field
  | .nil => []
  | .cons field _ rest => field :: rest.toList

/-- Whether two elements of the same length are equal pairwise. -/
def equalLists {α : Type} (equal : α → α → Bool) : List α → List α → Bool
  | [], [] => true
  | a :: as, b :: bs => equal a b && equalLists equal as bs
  | _, _ => false

mutual

/-- Whether two values are equal. -/
def Binding.equal : (type : Binding) → type.Value → type.Value → Bool
  | .any, a, b => Wire.equal a b
  | .simple type, a, b => type.space.equal a b
  | .complex _ fields, a, b => fields.equal a b
  | .element _ inner, a, b => inner.equal a b

/-- Whether the lists of values of all fields are equal. -/
def Fields.equal : (fields : Fields) → fields.Values → fields.Values → Bool
  | .nil, _, _ => true
  | .cons _ type rest, (as, a), (bs, b) => equalLists type.equal as bs && rest.equal a b

end

/-! ## Reading elements -/

/-- The namespace of attributes about instances. -/
def instanceNamespace : String := "http://www.w3.org/2001/XMLSchema-instance"

/-- Whether an element is marked as nil. -/
def isNil (e : Xml.Element) : Bool :=
  match e.valueNamed? ⟨some instanceNamespace, "nil"⟩ with
  | some value => value == "true" || value == "1"
  | none => false

/-- The children of an element that have the name of a field, in any namespace. -/
def Field.childrenOf (field : Field) (e : Xml.Element) : List Xml.Element :=
  e.children.filter (·.localName == field.name)

/-- Converts what is given for a field, in order, unless it is too much. What is absent does not
count. A failure is told under the name of the field. -/
def Field.convert {α β : Type} (field : Field) (absent : α → Bool) (value : α → Except Reason β)
    (given : List α) :
    Except Reason (List β) :=
  let present := given.filter fun a => !absent a
  if field.max.allows present.length then
    match present.mapM value with
    | .ok values => .ok values
    | .error reason => .error (.field field.name reason)
  else .error (.field field.name (.violation (.tooMany field.max.print present.length)))

/-- The result of checking a rule, as the reason for a value. -/
def asReason {α : Type} : Except Violation α → Except Reason α
  | .ok a => .ok a
  | .error v => .error (.violation v)

mutual

/-- Reads a value from an element. The name of the element does not count. -/
def Binding.decode : (type : Binding) → Xml.Element → Except Reason type.Value
  | .any, e => .ok (Wire.capture e)
  | .simple type, e => asReason (type.ofLiteral e.textContent)
  | .complex _ fields, e => fields.decode e
  | .element _ inner, e => inner.decode e

/-- Reads the values of all fields from the children of an element, up to the first field that
fails. -/
def Fields.decode : (fields : Fields) → Xml.Element → Except Reason fields.Values
  | .nil, _ => .ok ()
  | .cons field type rest, e =>
    match field.convert isNil type.decode (field.childrenOf e) with
    | .error reason => .error reason
    | .ok values =>
      match rest.decode e with
      | .error reason => .error reason
      | .ok others => .ok (values, others)

end

/-- Builds a value from what it can be built from directly. -/
def Binding.ofNative : (type : Binding) → type.Native → Except Reason type.Value
  | .any, content => .ok content
  | .simple type, value => asReason (type.accept value)
  | .complex _ _, native => nomatch native
  | .element _ inner, native => inner.ofNative native

/-! ## Constructing values -/

/-- Something given for a field: a value, what a value is built from, or an element. -/
inductive Child (type : Binding) where
  | typed (value : type.Value)
  | native (given : type.Native)
  | node (e : Xml.Element)

namespace Child

variable {type : Binding}

/-- Whether what is given is an element marked as nil. -/
def isAbsent : Child type → Bool
  | .node e => isNil e
  | _ => false

/-- The value that is given. -/
def value : Child type → Except Reason type.Value
  | .typed value => .ok value
  | .native given => type.ofNative given
  | .node e => type.decode e

end Child

/-- Converts what is given for a field into values. -/
def Field.coerce (field : Field) {type : Binding} (children : List (Child type)) :
    Except Reason (List type.Value) :=
  field.convert Child.isAbsent Child.value children

/-- What is given for each field. -/
def Fields.Given : Fields → Type
  | .nil => Unit
  | .cons _ type rest => List (Child type) × rest.Given

/-- Builds a structured value from what is given for its fields, up to the first field that
fails. -/
def Fields.construct : (fields : Fields) → fields.Given → Except Reason fields.Values
  | .nil, _ => .ok ()
  | .cons field _ rest, (children, given) => do
    let values ← field.coerce children
    return (values, ← rest.construct given)

/-! ## Content of values -/

mutual

/-- The content of a value. -/
def Binding.encode : (type : Binding) → type.Value → Wire
  | .any, content => content
  | .simple type, value => .text (type.text value)
  | .complex _ fields, values => .ofFields fields.toList (fields.encode values)
  | .element _ inner, value => inner.encode value

/-- The contents of the values of each field. -/
def Fields.encode : (fields : Fields) → fields.Values → List (List Wire)
  | .nil, _ => []
  | .cons _ type rest, (values, others) => values.map type.encode :: rest.encode others

end

/-- What is seen of each field of a value: the first value, or nothing, of a field that occurs at
most once, and the list of all values of any other. -/
def Fields.accessed : (fields : Fields) → fields.Values → List Wire
  | .nil, _ => []
  | .cons field type rest, (values, others) =>
    (if field.max.isSingle then ((values.head?).map type.encode).getD .null else .list
      (values.map type.encode)) :: rest.accessed others

/-! ## Documents -/

/-- The declaration of the namespace of a written element, unless it is empty. -/
def TypeName.declared (name : TypeName) : Option String :=
  if name.namespaceName.isEmpty then none else some name.namespaceName

/-- The element that is written for a value. -/
def Binding.markup (type : Binding) (value : type.Value) : Xml.Markup :=
  (type.encode value).markup type.typeName.name type.typeName.declared

/-- The document that is written for a value. -/
def Binding.toXml (type : Binding) (value : type.Value) : String := (type.markup value).print

/-- Why no value is read from a document. -/
inductive ReadError where
  | malformed (cause : Xml.Malformed)
  | unexpectedRoot (expected found : String)
  | invalid (reason : Reason)

/-- Reads a value from the root of a document, which must carry the name of the binding. -/
def Binding.ofElement (type : Binding) (root : Xml.Element) : Except ReadError type.Value :=
  if type.typeName.accepts root then
    match type.decode root with
    | .ok value => .ok value
    | .error reason => .error (.invalid reason)
  else .error (.unexpectedRoot type.typeName.identifier root.localName)

/-- Reads a value from a document. -/
def Binding.ofXml (type : Binding) (text : String) : Except ReadError type.Value :=
  match Xml.parseDocument false text with
  | .error cause => .error (.malformed cause)
  | .ok root => type.ofElement root

namespace ReadError

/-- The message that tells why no value is read. -/
def message : ReadError → String
  | .malformed _ => "failed to parse XML"
  | .unexpectedRoot expected found => "root element <" ++ found ++ "> does not match " ++ expected
  | .invalid reason => "validation failed: " ++ reason.message

end ReadError

end SchemaBinding
