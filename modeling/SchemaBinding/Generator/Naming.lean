import SchemaBinding.Schema.Attribute
import SchemaBinding.Text.Numeral

/-!
# Names of definitions

Source: `SPEC_FULL.md`, 4.4 (name derivation), 10.2 and 10.8; `generator/naming`
(`type_name`, `field_name`, `client_name`, `claim`) and `generator/error`.

Names of generated types, fields and clients are made of the words of the
declared names. A word ends before a capital letter that follows a small one,
and before the last of several capital letters that a small one follows; other
characters than ASCII letters and digits separate words. Names that are given
out are numbered when they repeat. A name without letters and digits is one of
the causes for which nothing is generated; the module begins with all of them.
-/

namespace SchemaBinding

/-- Why nothing is generated. -/
inductive GenerateError where
  | typeNotFound (name : Xml.Name)
  | messageNotFound (name : Xml.Name)
  | recursiveType (name : Xml.Name)
  /-- A simple type has a base that is not simple. -/
  | complexBase (name base : Xml.Name)
  | invalidName (name : String)
  | schema (cause : SchemaError)
  | unwritable (path : String)
  /-- A reference leads past the definitions that there are, which ends the program. -/
  | outOfRange (count index : Nat)

/-- The message that tells why nothing is generated. -/
def GenerateError.message : GenerateError → String
  | .typeNotFound name => "Type " ++ name.print ++ " not found"
  | .messageNotFound name => "Message " ++ name.print ++ " not found"
  | .recursiveType name =>
    "Type " ++ name.print ++ " refers to itself, recursive types are not supported"
  | .complexBase name base =>
    "Simple type " ++ name.print ++ " is based on complex type " ++ base.print
  | .invalidName name => Text.quoted name ++ " cannot be turned into an identifier"
  | .schema cause => cause.message
  | .unwritable path => "failed to write " ++ path
  | .outOfRange count index =>
    "index out of bounds: the len is " ++ toString count ++ " but the index is " ++ toString index

namespace Naming

/-! ## Words -/

/-- Which letters were read last in the current word, if any. -/
inductive Mode where
  | start
  | small
  | capital
  deriving DecidableEq

/-- The words of a run of letters and digits. `word` is the current word. -/
def splitWords (mode : Mode) (word : List Char) : List Char → List (List Char)
  | [] => if word.isEmpty then [] else [word]
  | [c] => [word ++ [c]]
  | c :: next :: rest =>
    let nextMode := if c.isLower then .small else if c.isUpper then .capital else mode
    if nextMode = .small ∧ next.isUpper then (word ++ [c]) :: splitWords .start [] (next :: rest)
    else if mode = .capital ∧ c.isUpper ∧ next.isLower then word :: splitWords .start [c]
      (next :: rest)
    else splitWords nextMode (word ++ [c]) (next :: rest)

/-- The runs of ASCII letters and digits. `run` is the current one. -/
def runs (run : List Char) : List Char → List (List Char)
  | [] => if run.isEmpty then [] else [run]
  | c :: rest =>
    if c.isAlphanum then runs (run ++ [c]) rest
    else if run.isEmpty then runs [] rest
    else run :: runs [] rest

/-- The words of a name; there has to be one. -/
def wordsOf (name : String) : Except GenerateError (List (List Char)) :=
  match (runs [] name.toList).flatMap (splitWords .start []) with
  | [] => .error (.invalidName name)
  | words => .ok words

/-! ## Derived names -/

/-- A word with a capital letter first and small ones after it. -/
def capitalized : List Char → List Char
  | [] => []
  | c :: rest => c.toUpper :: rest.map Char.toLower

/-- Words in camel case. -/
def camelCase (words : List (List Char)) : List Char := words.flatMap capitalized

/-- Words in small letters with underscores between them. -/
def snakeCase : List (List Char) → List Char
  | [] => []
  | [word] => word.map Char.toLower
  | word :: rest => word.map Char.toLower ++ '_' :: snakeCase rest

/-- An underscore before a name that would begin with a digit. -/
def guardDigit : List Char → List Char
  | c :: rest => if c.isDigit then '_' :: c :: rest else c :: rest
  | [] => []

/-- What is generated: a type of one of three kinds, or a message. -/
inductive Kind where
  | simple
  | complex
  | element
  | message
  deriving DecidableEq, Repr

/-- The ending of the names of generated types. -/
def Kind.ending : Kind → String
  | .simple => "SimpleType"
  | .complex => "ComplexType"
  | .element => "Element"
  | .message => "Message"

/-- The name of a generated type. -/
def typeName (name : String) (kind : Kind) : Except GenerateError String := do
  return String.ofList (guardDigit (camelCase (← wordsOf name) ++ kind.ending.toList))

/-- The methods that every generated type or client has. -/
def reservedMethods : List String := ["new", "dispatcher"]

/-- The name of a generated field or method. -/
def fieldName (name : String) : Except GenerateError String := do
  let derived := String.ofList (guardDigit (snakeCase (← wordsOf name)))
  return if derived ∈ reservedMethods then derived ++ "_" else derived

/-- The name of a generated client. -/
def clientName (service : String) : Except GenerateError String := do
  return String.ofList (guardDigit (camelCase (← wordsOf service) ++ "Client".toList))

/-! ## Numbering -/

/-- A name with a number after it. -/
def numbered (name : String) (n : Nat) : String := name ++ String.ofList (Text.digits n)

/-- The name to be given out when `taken` have been: the name itself, or else with the smallest
number from two on that makes it new. Among as many numbers as names taken, and one more, there is
always one. -/
def fresh (taken : List String) (name : String) : String :=
  if name ∈ taken then
    (((List.range (taken.length + 1)).map fun n => numbered name (n + 2)).find? (· ∉ taken)).getD
      name
  else name

/-- Gives out a name for each of the wanted ones, in order. -/
def freshAll (taken : List String) : List String → List String
  | [] => []
  | name :: rest => fresh taken name :: freshAll (fresh taken name :: taken) rest

end Naming

end SchemaBinding
