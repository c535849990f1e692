import SchemaBinding.Checked
import SchemaBinding.Keyed
import SchemaBinding.Text.Quoted

/-!
# Why a value is rejected

Source: `SPEC_FULL.md`, 7 and 10.2; `builtins/meta` (`message`, `field`,
`rule_message`, `field_reason`).

A violation is the breach of a single rule, with the facts that its message
tells. A reason is a violation, or the reasons for which fields of a structured
value were rejected, keyed by the names of the fields.
-/

namespace SchemaBinding

/-- The kinds of literals that messages name. -/
inductive LiteralKind where
  | boolean
  | integer
  | floatingPoint
  | decimal
  | timezone
  | date
  | dateTime
  | dateTimeStamp
  | time
  deriving DecidableEq, Repr

/-- The word for a kind of literals. -/
def LiteralKind.word : LiteralKind → String
  | .boolean => "boolean"
  | .integer => "integer"
  | .floatingPoint => "floating point number"
  | .decimal => "decimal"
  | .timezone => "timezone"
  | .date => "date"
  | .dateTime => "dateTime"
  | .dateTimeStamp => "dateTimeStamp"
  | .time => "time"

/-- The breach of a rule. -/
inductive Violation where
  /-- The text is no literal of the kind. -/
  | invalidLiteral (literal : String) (kind : LiteralKind)
  /-- The number lies outside the range of its type. -/
  | outOfRange (number low high : Int)
  /-- The integer has no decimal representation. -/
  | noDecimal (number : Int)
  /-- The value, in canonical form, lies below a bound. -/
  | belowMinimum (value bound : String)
  /-- The value, in canonical form, lies above a bound. -/
  | aboveMaximum (value bound : String)
  /-- The literal denotes none of the listed keys. -/
  | notListed (literal : String) (keys : List String)
  /-- The literal does not match a pattern. -/
  | mismatch (literal pattern : String)
  /-- The pattern of the rule is no regular expression. -/
  | invalidPattern (pattern : String)
  | lineBreak
  | uncollapsed
  | notPositive
  | notNegative
  /-- A field was given more values than it may hold. -/
  | tooMany (bound : String) (count : Nat)
  | notDuration (literal : String)
  | weeks
  | durationTooLarge
  | negativeSeconds
  /-- A rule of another kind, told by its message. -/
  | stated (message : String)
  deriving DecidableEq, Repr

/-- The message that tells a violation. -/
def Violation.message : Violation → String
  | .invalidLiteral literal kind =>
    "Value " ++ Text.quoted literal ++ " is not a valid " ++ kind.word
  | .outOfRange number low high =>
    "Value " ++ toString number ++ " not in range [" ++ toString low ++ ", " ++ toString high ++ "]"
  | .noDecimal number => "Value " ++ toString number ++ " is not a decimal"
  | .belowMinimum value bound => "Value " ++ value ++ " is lower than " ++ bound
  | .aboveMaximum value bound => "Value " ++ value ++ " is larger than " ++ bound
  | .notListed literal keys => "Value " ++ literal ++ " not in [" ++ ", ".intercalate keys ++ "]"
  | .mismatch literal pattern => "Value " ++ literal ++ " doesn't match pattern " ++ pattern
  | .invalidPattern pattern => "Invalid pattern " ++ pattern ++ ": not a regular expression"
  | .lineBreak => "Only strings without tabs or line breaks are accepted"
  | .uncollapsed => "Only strings with collapsed whitespace are accepted"
  | .notPositive => "Only positive integers are accepted"
  | .notNegative => "Only negative integers are accepted"
  | .tooMany bound count => "Expected at most " ++ bound ++ " values, got " ++ toString count
  | .notDuration literal => literal ++ " is not valid ISO 8601 duration string"
  | .weeks => "Weeks are not supported"
  | .durationTooLarge => "Duration is too large"
  | .negativeSeconds => "Only positive values are accepted for seconds"
  | .stated message => message

/-- Why a value is rejected: a violation, or the reasons of fields by their names. -/
inductive Reason where
  | violation (violation : Violation)
  | fields (reasons : List (String × Reason))
  deriving Repr

instance : Inhabited Reason := ⟨.fields []⟩

namespace Reason

mutual

/-- The message that tells a reason. Those of fields follow their names, with semicolons between
them. -/
def message : Reason → String
  | .violation v => v.message
  | .fields reasons => messages reasons

/-- The messages of fields. -/
def messages : List (String × Reason) → String
  | [] => ""
  | [(name, reason)] => name ++ ": " ++ reason.message
  | (name, reason) :: next :: rest =>
    name ++ ": " ++ reason.message ++ "; " ++ messages (next :: rest)

end

/-- The reason that a field was rejected for a reason. -/
def field (name : String) (inner : Reason) : Reason := .fields [(name, inner)]

/-- The violation that a reason is, if it does not concern fields. -/
def violation? : Reason → Option Violation
  | .violation v => some v
  | .fields _ => none

/-- The reason for which a field was rejected. -/
def field? (reason : Reason) (name : String) : Option Reason :=
  match reason with
  | .violation _ => none
  | .fields reasons => Keyed.get? reasons name

end Reason

end SchemaBinding
