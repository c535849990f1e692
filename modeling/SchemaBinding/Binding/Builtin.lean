import SchemaBinding.Value.Facet
import SchemaBinding.Value.Whitespace

/-!
# Built-in simple types

Source: `SPEC_FULL.md`, 4.3 (the primitive ladder) and 10.7 (the built-in set);
`builtins/xs`, where each type has its base and its checks, and `xsd/builtins`,
where its name is known.

The simple types of the schema namespace that need no declaration: their names,
the spaces they are built on, how they treat white space, and the constraints by
which each narrows the type it is derived from. The constraints of a type begin
with those of its base.
-/

namespace SchemaBinding

/-- The namespace of schemas and of the built-in types. -/
def schemaNamespace : String := "http://www.w3.org/2001/XMLSchema"

/-- The built-in simple types. -/
inductive SimpleBuiltin where
  | anySimpleType
  | string
  | normalizedString
  | token
  | language
  | name
  | ncName
  | id
  | idRef
  | entity
  | nmToken
  | boolean
  | decimal
  | integer
  | long
  | int
  | short
  | byte
  | nonNegativeInteger
  | positiveInteger
  | unsignedLong
  | unsignedInt
  | unsignedShort
  | unsignedByte
  | nonPositiveInteger
  | negativeInteger
  | double
  | float
  | date
  | dateTime
  | dateTimeStamp
  | time
  | duration
  | dayTimeDuration
  | yearMonthDuration
  | gDay
  | gMonth
  | gMonthDay
  | gYear
  | gYearMonth
  | hexBinary
  | base64Binary
  | anyUri
  | qName
  | notationName
  deriving DecidableEq, Repr

namespace SimpleBuiltin

/-- The built-in simple types in order. -/
def all : List SimpleBuiltin :=
  [.anySimpleType, .string, .normalizedString, .token, .language, .name, .ncName, .id, .idRef,
   .entity, .nmToken, .boolean, .decimal, .integer, .long, .int, .short, .byte, .nonNegativeInteger,
   .positiveInteger, .unsignedLong, .unsignedInt, .unsignedShort, .unsignedByte,
   .nonPositiveInteger, .negativeInteger, .double, .float, .date, .dateTime, .dateTimeStamp, .time,
   .duration, .dayTimeDuration, .yearMonthDuration, .gDay, .gMonth, .gMonthDay, .gYear, .gYearMonth,
   .hexBinary, .base64Binary, .anyUri, .qName, .notationName]

/-- The name of a built-in type in the schema namespace. -/
def localName : SimpleBuiltin → String
  | .anySimpleType => "anySimpleType"
  | .string => "string"
  | .normalizedString => "normalizedString"
  | .token => "token"
  | .language => "language"
  | .name => "Name"
  | .ncName => "NCName"
  | .id => "ID"
  | .idRef => "IDREF"
  | .entity => "ENTITY"
  | .nmToken => "NMTOKEN"
  | .boolean => "boolean"
  | .decimal => "decimal"
  | .integer => "integer"
  | .long => "long"
  | .int => "int"
  | .short => "short"
  | .byte => "byte"
  | .nonNegativeInteger => "nonNegativeInteger"
  | .positiveInteger => "positiveInteger"
  | .unsignedLong => "unsignedLong"
  | .unsignedInt => "unsignedInt"
  | .unsignedShort => "unsignedShort"
  | .unsignedByte => "unsignedByte"
  | .nonPositiveInteger => "nonPositiveInteger"
  | .negativeInteger => "negativeInteger"
  | .double => "double"
  | .float => "float"
  | .date => "date"
  | .dateTime => "dateTime"
  | .dateTimeStamp => "dateTimeStamp"
  | .time => "time"
  | .duration => "duration"
  | .dayTimeDuration => "dayTimeDuration"
  | .yearMonthDuration => "yearMonthDuration"
  | .gDay => "gDay"
  | .gMonth => "gMonth"
  | .gMonthDay => "gMonthDay"
  | .gYear => "gYear"
  | .gYearMonth => "gYearMonth"
  | .hexBinary => "hexBinary"
  | .base64Binary => "base64Binary"
  | .anyUri => "anyURI"
  | .qName => "QName"
  | .notationName => "NOTATION"

/-- The space that a built-in type is built on. -/
def space : SimpleBuiltin → Space
  | .boolean => .boolean
  | .decimal => .decimal
  | .integer | .nonNegativeInteger | .positiveInteger | .nonPositiveInteger | .negativeInteger =>
    .integer .widest
  | .long => .integer (.signed 64)
  | .int => .integer (.signed 32)
  | .short => .integer (.signed 16)
  | .byte => .integer (.signed 8)
  | .unsignedLong => .integer (.unsigned 64)
  | .unsignedInt => .integer (.unsigned 32)
  | .unsignedShort => .integer (.unsigned 16)
  | .unsignedByte => .integer (.unsigned 8)
  | .double => .binary Binary.double
  | .float => .binary Binary.single
  | .date => .date
  | .dateTime => .dateTime
  | .dateTimeStamp => .dateTimeStamp
  | .time => .time
  | .duration => .duration
  | _ => .text

/-- How a built-in type treats the white space of literals. -/
def whitespace : SimpleBuiltin → Whitespace
  | .anySimpleType | .string => .preserve
  | .normalizedString => .replace
  | _ => .collapse

end SimpleBuiltin

/-- A constraint by which a built-in type narrows its base. -/
inductive Constraint where
  /-- The integer is a decimal. -/
  | isDecimal
  | notBelowZero
  | notAboveZero
  | positive
  | negative
  /-- The text holds no tab and no line end. -/
  | singleLine
  /-- The text has single spaces between its words and none at its ends. -/
  | collapsed
  /-- The literal matches a pattern. -/
  | matching (pattern : String)
  deriving DecidableEq, Repr

namespace Constraint

/-- Whether a text has no space at its ends and no two spaces in a row. -/
def isCollapsed (cs : List Char) : Bool :=
  cs.head? != some ' ' && cs.getLast? != some ' ' && !hasGap cs
where
  /-- Whether two spaces follow each other. -/
  hasGap : List Char → Bool
    | ' ' :: ' ' :: _ => true
    | _ :: rest => hasGap rest
    | [] => false

/-- Fails with a violation unless a condition holds. -/
def require (condition : Bool) (violation : Violation) : Except Violation Unit :=
  if condition then .ok () else .error violation

/-- Checks an integer. -/
def checkInteger (n : Int) : Constraint → Except Violation Unit
  | .isDecimal => require (Decimal.ofInt? n).isSome (.noDecimal n)
  | .notBelowZero => require (0 ≤ n) (.belowMinimum (String.ofList (Text.signed n)) "0")
  | .notAboveZero => require (n ≤ 0) (.aboveMaximum (String.ofList (Text.signed n)) "0")
  | .positive => require (0 < n) .notPositive
  | .negative => require (n < 0) .notNegative
  | _ => .ok ()

/-- Checks a text. -/
def checkText (s : String) : Constraint → Except Violation Unit
  | .singleLine => require (!s.toList.any Whitespace.isBreak) .lineBreak
  | .collapsed => require (isCollapsed s.toList) .uncollapsed
  | _ => .ok ()

/-- Checks a value, read from `literal`. -/
def check (constraint : Constraint) (space : Space) (value : space.Carrier) (literal : String) :
    Except Violation Unit :=
  match constraint with
  | .matching pattern => checkPattern pattern literal
  | _ =>
    match space, value with
    | .integer _, n => constraint.checkInteger n.val
    | .text, (s : String) => constraint.checkText s
    | _, _ => .ok ()

end Constraint

namespace SimpleBuiltin

/-- The constraints of a token. -/
def tokenConstraints : List Constraint := [.singleLine, .collapsed]

/-- The constraints of a name. -/
def nameConstraints : List Constraint := tokenConstraints ++ [.matching "[\\p\x7bL\x7d_:][-.:\\w]*"]

/-- The constraints of a name without colons. -/
def ncNameConstraints : List Constraint := nameConstraints ++ [.matching "[\\p\x7bL\x7d_][-.\\w]*"]

/-- The constraints of an integer that is not negative. -/
def nonNegativeConstraints : List Constraint := [.isDecimal, .notBelowZero]

/-- The constraints of an integer that is not positive. -/
def nonPositiveConstraints : List Constraint := [.isDecimal, .notAboveZero]

/-- The constraints of a built-in type, those of its base first. -/
def constraints : SimpleBuiltin → List Constraint
  | .normalizedString => [.singleLine]
  | .token => tokenConstraints
  | .language => tokenConstraints ++ [.matching "[a-zA-Z]\x7b1,8\x7d(-[a-zA-Z0-9]\x7b1,8\x7d)*"]
  | .nmToken => tokenConstraints ++ [.matching "[-.:\\w]+"]
  | .name => nameConstraints
  | .ncName | .id | .idRef | .entity => ncNameConstraints
  | .integer | .long | .int | .short | .byte => [.isDecimal]
  | .nonNegativeInteger | .unsignedLong | .unsignedInt | .unsignedShort | .unsignedByte =>
    nonNegativeConstraints
  | .positiveInteger => nonNegativeConstraints ++ [.positive]
  | .nonPositiveInteger => nonPositiveConstraints
  | .negativeInteger => nonPositiveConstraints ++ [.negative]
  | .hexBinary => [.matching "([0-9a-fA-F]\x7b2\x7d)*"]
  | .base64Binary => [.matching "[A-Za-z0-9+/]*=\x7b0,2\x7d"]
  | _ => []

/-- Checks a value, read from `literal`, against the constraints of a built-in type, in order. -/
def validate (builtin : SimpleBuiltin) (value : builtin.space.Carrier) (literal : String) :
    Except Violation Unit :=
  builtin.constraints.forM fun constraint => constraint.check builtin.space value literal

end SimpleBuiltin

/-- The built-in types: the simple ones, and the type of all content. -/
inductive Builtin where
  | anyType
  | simple (type : SimpleBuiltin)
  deriving DecidableEq, Repr

namespace Builtin

/-- The built-in types in order. -/
def all : List Builtin := .anyType :: SimpleBuiltin.all.map .simple

/-- The name of a built-in type in the schema namespace. -/
def localName : Builtin → String
  | .anyType => "anyType"
  | .simple type => type.localName

/-- The built-in type with a name in the schema namespace. -/
def ofName? (name : String) : Option Builtin := all.find? (·.localName = name)

end Builtin

end SchemaBinding
