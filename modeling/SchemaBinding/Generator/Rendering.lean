import SchemaBinding.Generator.Client
import SchemaBinding.Generator.Source
import SchemaBinding.Text.Blank

/-!
# Rendering in Rust

Source: `SPEC_FULL.md`, 4.4 and 10.8; `generator/generators`
(`definition_items`, `message_items`, `client_items`, `types_items`,
`render_client`).

The source text of definitions and clients in the language Rust, for a runtime
that holds the built-in types and the reading and writing of values.
-/

namespace SchemaBinding.Rendering

open Source

/-! ## Names -/

/-- The words that the language keeps for itself. -/
def keywords : List String :=
  ["as", "break", "const", "continue", "crate", "else", "enum", "extern", "false", "fn", "for",
   "if", "impl", "in", "let", "loop", "match", "mod", "move", "mut", "pub", "ref", "return", "self",
   "Self", "static", "struct", "super", "trait", "true", "type", "unsafe", "use", "where", "while",
   "async", "await", "dyn", "abstract", "become", "box", "do", "final", "macro", "override", "priv",
   "typeof", "unsized", "virtual", "yield", "try"]

/-- The keywords that cannot be turned into plain names. -/
def fixedKeywords : List String := ["crate", "self", "super", "Self"]

/-- A name as it may stand in source text. -/
def identifier (name : String) : String :=
  if name ∈ fixedKeywords then name ++ "_" else if name ∈ keywords then "r#" ++ name else name

/-- The name of a simple built-in type in the runtime. -/
def runtimeName : SimpleBuiltin → String
  | .anySimpleType => "AnySimpleType"
  | .string => "String"
  | .normalizedString => "NormalizedString"
  | .token => "Token"
  | .language => "Language"
  | .name => "Name"
  | .ncName => "NcName"
  | .id => "Id"
  | .idRef => "IdRef"
  | .entity => "Entity"
  | .nmToken => "NmToken"
  | .boolean => "Boolean"
  | .decimal => "Decimal"
  | .integer => "Integer"
  | .long => "Long"
  | .int => "Int"
  | .short => "Short"
  | .byte => "Byte"
  | .nonNegativeInteger => "NonNegativeInteger"
  | .positiveInteger => "PositiveInteger"
  | .unsignedLong => "UnsignedLong"
  | .unsignedInt => "UnsignedInt"
  | .unsignedShort => "UnsignedShort"
  | .unsignedByte => "UnsignedByte"
  | .nonPositiveInteger => "NonPositiveInteger"
  | .negativeInteger => "NegativeInteger"
  | .double => "Double"
  | .float => "Float"
  | .date => "Date"
  | .dateTime => "DateTime"
  | .dateTimeStamp => "DateTimeStamp"
  | .time => "Time"
  | .duration => "Duration"
  | .dayTimeDuration => "DayTimeDuration"
  | .yearMonthDuration => "YearMonthDuration"
  | .gDay => "GDay"
  | .gMonth => "GMonth"
  | .gMonthDay => "GMonthDay"
  | .gYear => "GYear"
  | .gYearMonth => "GYearMonth"
  | .hexBinary => "HexBinary"
  | .base64Binary => "Base64Binary"
  | .anyUri => "AnyUri"
  | .qName => "QName"
  | .notationName => "Notation"

/-- The path of a type. -/
def typePath (definitions : List Definition) : TypeRef → Source
  | .builtin .anyType => words "xs : : AnyType"
  | .builtin (.simple type) => words "xs : :" ++ word (runtimeName type)
  | .generated index => word (identifier ((definitions[index]?.map (·.name)).getD ""))

/-! ## Attributes and small pieces -/

/-- An attribute that documents what follows. -/
def doc (text : String) : Source := word "#" ++ brackets (words "doc =" ++ literal text)

/-- An attribute that lets instances be derived. -/
def derive (instances : List String) : Source :=
  word "#" ++ brackets (word "derive" ++ parens (commas (instances.map word)))

/-- The instances of values. -/
def valueInstances : List String := ["Clone", "Debug", "PartialEq"]

/-- The attributes at the beginning of every file. -/
def fileAttributes : List Source :=
  [words "# !" ++ brackets (words "doc =" ++ literal " Generated by st-generator 0.1.0"),
   words "# !" ++ brackets (word "allow" ++
     parens (words "dead_code , unused_imports , unused_variables"))]

/-- A declaration that takes the names of the runtime. -/
def useRuntime : Source := words "use st_builtins : : prelude : : * ;"

/-- The documentation of a definition: its name in the schema. -/
def definitionDoc (d : Definition) : Source := doc (" \x60" ++ d.schemaName.print ++ "\x60")

/-- The name block of a definition. -/
def typeMeta (name namespaceName : String) : Source :=
  words "TypeMeta : : new" ++ parens (commas [literal name, literal namespaceName])

/-- The name block of a definition as a constant. -/
def metaConstant (d : Definition) : Source :=
  words "const META : TypeMeta =" ++ typeMeta d.xmlName (d.namespaceName?.getD "") ++ word ";"

/-- A type seen by one of its traits. -/
def qualified (path : Source) (trait : String) : Source :=
  word "<" ++ path ++ words "as" ++ word trait ++ word ">"

/-- What a value can be built from. -/
def nativeOf (path : Source) : Source := qualified path "AnyType" ++ words ": : Native"

/-- The result of what may reject a value. -/
def validated (inner : Source) : Source :=
  words "- > Result <" ++ inner ++ words ", ValidationError >"

/-- The head of the function that builds a value. -/
def fromNativeHead : Source :=
  words "fn from_native" ++ parens (words "native : Self : : Native") ++ validated (word "Self")

/-- The head of the function that reads a value. -/
def fromNodeHead : Source :=
  words "fn from_node" ++ parens (words "node : XmlNode") ++ validated (word "Self")

/-- The head of the function that gives the content of a value. -/
def toWireHead : Source := words "fn to_wire" ++ parens (words "& self") ++ words "- > WireValue"

/-- A call without arguments. -/
def call (path : Source) : Source := path ++ parens []

/-! ## Simple types -/

/-- The entries of an enumeration. -/
def entriesOf (entries : List (String × String)) : Source :=
  word "&" ++ brackets (commas
    (entries.map fun entry => parens (commas [literal entry.1, literal entry.2])))

/-- A bound, which is read when it is needed. -/
def bound (text : String) : Source :=
  parens (words "< Self : : Native as NativeValue > : : parse_literal" ++
    parens (literal text) ++ word "?")

/-- The rule that a facet stands for. -/
def facetRule : Facet → Source
  | .minInclusive text => words "Rule : : MinInclusive" ++ bound text
  | .maxInclusive text => words "Rule : : MaxInclusive" ++ bound text
  | .enumeration entries => words "Rule : : Enumeration" ++ parens (entriesOf entries)
  | .pattern pattern => words "Rule : : Pattern" ++ parens (literal pattern)

/-- The enumeration in effect for a simple type. -/
def enumerationOf (base : Source) (facets : List Facet) : Source :=
  match facets.findSome? Facet.entries? with
  | some entries => word "Some" ++ parens (entriesOf entries)
  | none => qualified base "SimpleType" ++ words ": : ENUMERATION"

/-- The items of a simple type. -/
def simpleItems (d : Definition) (base : Source) (facets : List Facet) : List Source :=
  let name := word (identifier d.name)
  [ definitionDoc d ++ derive (valueInstances ++ ["PartialOrd"]) ++ words "pub struct" ++ name ++
      parens (nativeOf base) ++ word ";",
    words "impl AnyType for" ++ name ++ braces (
      words "type Native =" ++ nativeOf base ++ word ";" ++ metaConstant d ++
      fromNativeHead ++ braces (words "Self : : new" ++ parens (word "native")) ++
      fromNodeHead ++ braces (
        words "Self : : from_literal" ++ parens (words "& text_content" ++ parens (word "node"))) ++
      toWireHead ++ braces (words "WireValue : : Text" ++
        parens (call (words "self . wire_value")))),
    words "impl SimpleType for" ++ name ++ braces (
      words "const WHITESPACE : Whitespace =" ++ qualified base "SimpleType" ++
      words ": : WHITESPACE ;" ++
      words "const ENUMERATION : Option < & 'static" ++
        brackets (parens (words "& 'static str , & 'static str")) ++ words "> =" ++
        enumerationOf base facets ++ word ";" ++
      words "fn validate" ++ parens (words "value : & Self : : Native , lexical : & str") ++
        validated (parens []) ++ braces (
          qualified base "SimpleType" ++ words ": : validate" ++ parens (words "value , lexical") ++
          words "? ;" ++
          word "check_all" ++
            parens (words "value , lexical , &" ++ brackets (commas (facets.map facetRule)))) ++
      words "fn from_validated" ++ parens (words "value : Self : : Native") ++ words "- > Self" ++
        braces (word "Self" ++ parens (word "value")) ++
      words "fn value" ++ parens (words "& self") ++ words "- > & Self : : Native" ++
        braces (words "& self . 0")) ]

/-! ## Structured types -/

/-- A field as it is rendered: its name, its type and its place. -/
structure FieldSource where
  definition : FieldDefinition
  name : Source
  type : Source
  index : Nat

/-- The fields of a structured type as they are rendered. -/
def fieldSources (definitions : List Definition) (fields : List FieldDefinition) :
    List FieldSource :=
  fields.zipIdx.map fun (field, index) =>
    { definition := field, name := word (identifier field.name),
      type := typePath definitions field.type, index }

/-- A number. -/
def number (n : Nat) : Source := word (String.ofList (Text.digits n))

/-- The declared field at a place. -/
def fieldAt (index : Nat) : Source := words "& Self : : FIELDS" ++ brackets (number index)

/-- The function that gives the values of a field: the only value, or all of them. -/
def accessor (field : FieldSource) : Source :=
  let head := words "pub fn" ++ field.name ++ parens (words "& self") ++ words "- >"
  if field.definition.max.isSingle then
    head ++ words "Option < &" ++ field.type ++ word ">" ++
      braces (call (words "self ." ++ field.name ++ words ". first"))
  else
    head ++ word "&" ++ brackets field.type ++ braces (words "& self ." ++ field.name)

/-- The declared properties of a field. -/
def fieldMeta (field : FieldDefinition) : Source :=
  let most := match field.max with
    | .count n => words "MaxOccurs : : Bounded" ++ parens (number n)
    | .unbounded => words "MaxOccurs : : Unbounded"
  words "FieldMeta : : new" ++ parens (commas [literal field.xmlName, number field.min, most]) ++
    (if field.nillable then call (words ". nillable") else []) ++
    (match field.default with
      | some value => words ". with_default" ++ parens (literal value)
      | none => [])

/-- The items of a structured type. -/
def complexItems (definitions : List Definition) (d : Definition) (fields : List FieldDefinition) :
    List Source :=
  let name := word (identifier d.name)
  let sources := fieldSources definitions fields
  [ definitionDoc d ++ derive valueInstances ++ words "pub struct" ++ name ++ braces (
      commas (sources.map fun field => field.name ++ words ": Vec <" ++ field.type ++ word ">")),
    word "impl" ++ name ++ braces (
      words "pub fn new < 'a , 'input : 'a >" ++
        parens (commas (sources.map fun field =>
          field.name ++ words ": impl Into < Children < 'a , 'input ," ++ field.type ++
            words "> >")) ++
        validated (word "Self") ++ braces (word "Ok" ++ parens (word "Self" ++ braces (
          commas (sources.map fun field =>
            field.name ++ word ":" ++ call (field.name ++ words ". into") ++ words ". coerce" ++
              parens (fieldAt field.index) ++ word "?")))) ++
      sources.flatMap accessor),
    words "impl AnyType for" ++ name ++ braces (
      words "type Native = std : : convert : : Infallible ;" ++ metaConstant d ++
      fromNativeHead ++ braces (words "match native" ++ braces []) ++
      fromNodeHead ++ braces (words "Self : : new" ++ parens (commas (sources.map fun field =>
        words "Children : : from_parent" ++ parens (words "node ," ++ fieldAt field.index)))) ++
      toWireHead ++ braces (words "WireValue : : record" ++ parens (
        words "Self : : FIELDS , vec !" ++ brackets (commas (sources.map fun field =>
          words "WireValue : : collect" ++ parens (words "& self ." ++ field.name)))))),
    words "impl ComplexType for" ++ name ++ braces (
      words "const FIELDS : & 'static" ++ brackets (word "FieldMeta") ++ words "= &" ++
        brackets (commas (fields.map fieldMeta)) ++ word ";") ]

/-! ## Elements -/

/-- The items of an element. -/
def elementItems (d : Definition) (inner : Source) : List Source :=
  let name := word (identifier d.name)
  let through (function : String) (argument : String) : Source :=
    qualified inner "AnyType" ++ words ": :" ++ word function ++ parens (word argument) ++
      words ". map" ++ parens (word "Self")
  [ definitionDoc d ++ derive valueInstances ++ words "pub struct" ++ name ++
      parens (word "pub" ++ inner) ++ word ";",
    words "impl AnyType for" ++ name ++ braces (
      words "type Native =" ++ nativeOf inner ++ word ";" ++ metaConstant d ++
      fromNativeHead ++ braces (through "from_native" "native") ++
      fromNodeHead ++ braces (through "from_node" "node") ++
      toWireHead ++ braces (call (words "self . 0 . to_wire"))) ]

/-- The items of a definition. -/
def definitionItems (definitions : List Definition) (d : Definition) : List Source :=
  match d.body with
  | .simple base facets => simpleItems d (typePath definitions base) facets
  | .complex fields => complexItems definitions d fields
  | .element type => elementItems d (typePath definitions type)

/-- The items of a file of definitions. -/
def typeItems (definitions : List Definition) : List Source :=
  fileAttributes ++ useRuntime :: definitions.flatMap (definitionItems definitions)

/-! ## Messages and clients -/

/-- How a part is looked for in an answer. -/
def partLookup (definitions : List Definition) (part : PartDefinition) : Source :=
  match part.lookup with
  | .typeName => qualified (typePath definitions part.type) "AnyType" ++ words ": : META"
  | .partName => typeMeta part.xmlName ""

/-- The items of a message wrapper. -/
def messageItems (definitions : List Definition) (m : MessageDefinition) : List Source :=
  let name := word (identifier m.name)
  let field (part : PartDefinition) : Source := word (identifier part.name)
  let typed (part : PartDefinition) : Source :=
    field part ++ word ":" ++ typePath definitions part.type
  [ doc (" The \x60" ++ m.xmlName ++ "\x60 message.") ++ derive valueInstances ++
    words "pub struct" ++ name ++
      braces (commas (m.parts.map fun part => word "pub" ++ typed part)),
    word "impl" ++ name ++ braces (
      words "pub fn new" ++ parens (commas (m.parts.map typed)) ++ words "- > Self" ++
        braces (word "Self" ++ braces (commas (m.parts.map field)))),
    words "impl Message for" ++ name ++ braces (
      words "const NAME : & 'static str =" ++ literal m.xmlName ++ word ";" ++
      words "fn request_arguments" ++ parens (words "& self") ++ words "- > WireValue" ++
        braces (word "message_arguments" ++
          parens (words "vec !" ++ brackets (commas (m.parts.map fun part =>
          parens (commas [literal part.xmlName,
            call (words "self ." ++ field part ++ words ". to_wire")]))))) ++
      words "fn from_response" ++ parens (words "root : XmlNode") ++
      words "- > Result < Self , ClientError >" ++
        braces (word "Ok" ++ parens (word "Self" ++ braces (commas (m.parts.map fun part =>
          field part ++ words ": decode_part" ++
            parens (words "root , &" ++ partLookup definitions part) ++ word "?"))))) ]

/-- The name of the wrapper at a place. -/
def wrapperName (client : ClientDefinition) (index : Nat) : Source :=
  word (identifier ((client.messages[index]?.map (·.name)).getD ""))

/-- The method of an operation. Each line of its documentation is trimmed. -/
def operationMethod (client : ClientDefinition) (operation : OperationDefinition) : Source :=
  let lines := (operation.documentation.map Text.lines).getD []
  lines.flatMap (fun line => doc (" " ++ Text.trim line)) ++
    words "pub fn" ++ word (identifier operation.method) ++
    parens (words "& self , input : &" ++ wrapperName client operation.input) ++
    words "- > Result <" ++ wrapperName client operation.output ++ words ", ClientError >" ++
    braces (words "self . inner . execute_action" ++
      parens (literal operation.action ++ words ", input"))

/-- The items of a client. -/
def clientItems (client : ClientDefinition) : List Source :=
  let name := word (identifier client.name)
  [ doc (" Client of the service described by \x60" ++ client.source ++ "\x60.") ++
    words "pub struct" ++ name ++
      words "< D >" ++ braces (words "inner : SoapClient < D >"),
    words "impl < D : ActionDispatcher >" ++ name ++ words "< D >" ++ braces (
      words "pub const WSDL_LOCATION : & 'static str =" ++ literal client.source ++ word ";" ++
      words "pub fn new" ++ parens (words "dispatcher : D") ++ words "- > Self" ++
        braces (word "Self" ++ braces
          (words "inner : SoapClient : : new" ++ parens (word "dispatcher"))) ++
      words "pub fn dispatcher" ++ parens (words "& self") ++ words "- > & D" ++
        braces (call (words "self . inner . dispatcher")) ++
      client.operations.flatMap (operationMethod client)) ]

/-- The files of a client: its types, its messages, the client itself, and a module of the three. -/
def clientFiles (definitions : List Definition) (client : ClientDefinition) : List SourceFile :=
  [ ⟨"types.rs", typeItems definitions⟩,
    ⟨"messages.rs", fileAttributes ++ useRuntime :: words "use super : : types : : * ;" ::
      client.messages.flatMap (messageItems definitions)⟩,
    ⟨"client.rs", fileAttributes ++ useRuntime :: words "use super : : messages : : * ;" ::
      clientItems client⟩,
    ⟨"mod.rs", fileAttributes ++
      [words "pub mod client ;", words "pub mod messages ;", words "pub mod types ;",
       words "pub use client : :" ++ word (identifier client.name) ++ word ";"]⟩ ]

end SchemaBinding.Rendering
