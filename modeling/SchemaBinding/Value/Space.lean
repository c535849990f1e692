import SchemaBinding.Value.Decimal
import SchemaBinding.Value.Binary
import SchemaBinding.Value.Calendar
import SchemaBinding.Value.Duration
import SchemaBinding.Value.Reason

/-!
# Value spaces

Source: `SPEC_FULL.md`, 4.3 and 10.7; `builtins/native` (`parse_literal`,
`to_wire`).

The values that simple types are built on: texts, truth values, integers of
several ranges, decimals, binary floating point numbers, dates, moments, times
of day and durations. Each space has its literals, a canonical form of each
value, and an order that is partial where a floating point number is no number.
-/

namespace SchemaBinding

/-- A range of integers. -/
structure IntegerRange where
  low : Int
  high : Int
  deriving DecidableEq, Repr

namespace IntegerRange

/-- The integers of two's complement with the given number of bits. -/
def signed (bits : Nat) : IntegerRange := ⟨-Int.pow 2 (bits - 1), Int.pow 2 (bits - 1) - 1⟩

/-- The non-negative integers with the given number of bits. -/
def unsigned (bits : Nat) : IntegerRange := ⟨0, Int.pow 2 bits - 1⟩

/-- The widest range: an integer literal outside it is no integer. -/
def widest : IntegerRange := signed 128

instance : Membership Int IntegerRange := ⟨fun range n => range.low ≤ n ∧ n ≤ range.high⟩

instance (n : Int) (range : IntegerRange) : Decidable (n ∈ range) :=
  inferInstanceAs (Decidable (range.low ≤ n ∧ n ≤ range.high))

end IntegerRange

/-- The value spaces. -/
inductive Space where
  | text
  | boolean
  | integer (range : IntegerRange)
  | decimal
  | binary (format : Binary.Format)
  | date
  | dateTime
  /-- Moments whose literals have a time zone. -/
  | dateTimeStamp
  | time
  | duration
  deriving DecidableEq, Repr

/-- The values of a space. -/
def Space.Carrier : Space → Type
  | .text => String
  | .boolean => Bool
  | .integer range => { n : Int // n ∈ range }
  | .decimal => Decimal
  | .binary _ => Binary
  | .date => Calendar.Date
  | .dateTime | .dateTimeStamp => Calendar.DateTime
  | .time => Calendar.Time
  | .duration => Duration

namespace Space

/-! ## Literals -/

/-- Reads a truth value: a word or a digit. -/
def parseBoolean (literal : String) : Except Violation Bool :=
  if literal = "true" ∨ literal = "1" then .ok true
  else if literal = "false" ∨ literal = "0" then .ok false
  else .error (.invalidLiteral literal .boolean)

/-- Drops a plus sign at the beginning. -/
def dropPlus : List Char → List Char
  | '+' :: cs => cs
  | cs => cs

/-- Reads an integer of a range. A literal outside the widest range is no integer, one inside it but
outside `range` an integer out of range. -/
def parseInteger (range : IntegerRange) (literal : String) :
    Except Violation { n : Int // n ∈ range } :=
  match Text.integer? (dropPlus literal.toList) with
  | none => .error (.invalidLiteral literal .integer)
  | some n =>
    if n ∈ IntegerRange.widest then
      if h : n ∈ range then .ok ⟨n, h⟩ else .error (.outOfRange n range.low range.high)
    else .error (.invalidLiteral literal .integer)

/-- Reads a floating point number. The infinite and no number have names of their own. -/
def parseBinary (format : Binary.Format) (literal : String) : Except Violation Binary :=
  match Binary.parse? format literal.toList with
  | some x => .ok x
  | none => .error (.invalidLiteral literal .floatingPoint)

/-- Reads a decimal, with a plus sign in front or without. -/
def parseDecimal (literal : String) : Except Violation Decimal :=
  match Decimal.parse? (dropPlus literal.toList) with
  | some d => .ok d
  | none => .error (.invalidLiteral literal .decimal)

/-- The local part of a literal and its offset in seconds. -/
def splitOffset (literal : String) : Except Violation (List Char × Option Int) :=
  match Calendar.splitTimezone literal.toList with
  | (localPart, .none) => .ok (localPart, none)
  | (localPart, .offset seconds) => .ok (localPart, some seconds)
  | (_, .invalid) => .error (.invalidLiteral literal .timezone)

/-- Reads a date. A time zone may follow and does not count. -/
def parseDate (literal : String) : Except Violation Calendar.Date := do
  let (localPart, _) ← splitOffset literal
  match Calendar.parseDate? localPart with
  | some d => .ok d
  | none => .error (.invalidLiteral literal .date)

/-- Reads a time of day. A time zone may follow and does not count. -/
def parseTime (literal : String) : Except Violation Calendar.Time := do
  let (localPart, _) ← splitOffset literal
  match Calendar.parseTime? localPart with
  | some t => .ok t
  | none => .error (.invalidLiteral literal .time)

/-- Reads a moment. One with a time zone is shifted to universal time. -/
def parseDateTime (literal : String) : Except Violation Calendar.DateTime := do
  let (localPart, offset) ← splitOffset literal
  match (Calendar.parseDateTime? localPart).bind (·.minusOffset? (offset.getD 0)) with
  | some m => .ok m
  | none => .error (.invalidLiteral literal .dateTime)

/-- Reads a moment that states its time zone. -/
def parseStamp (literal : String) : Except Violation Calendar.DateTime :=
  match Calendar.parseStamp? literal.toList with
  | some m => .ok m
  | none => .error (.invalidLiteral literal .dateTimeStamp)

/-- Reads a literal of a space. -/
def parse : (space : Space) → String → Except Violation space.Carrier
  | .text, literal => .ok literal
  | .boolean, literal => parseBoolean literal
  | .integer range, literal => parseInteger range literal
  | .decimal, literal => parseDecimal literal
  | .binary format, literal => parseBinary format literal
  | .date, literal => parseDate literal
  | .dateTime, literal => parseDateTime literal
  | .dateTimeStamp, literal => parseStamp literal
  | .time, literal => parseTime literal
  | .duration, literal => Duration.parse literal

/-! ## Canonical forms and order -/

/-- The canonical form of a value. -/
def canonical : (space : Space) → space.Carrier → String
  | .text, s => s
  | .boolean, (b : Bool) => if b then "true" else "false"
  | .integer _, n => String.ofList (Text.signed n.val)
  | .decimal, d => Decimal.print d
  | .binary format, x => Binary.print format x
  | .date, d => String.ofList (Calendar.Date.toChars d)
  | .dateTime, m => String.ofList (Calendar.DateTime.toChars m)
  | .dateTimeStamp, m => String.ofList (Calendar.DateTime.toChars m)
  | .time, t => String.ofList (Calendar.Time.toChars t)
  | .duration, d => Duration.print d

/-- The order of two values, unless they cannot be compared. -/
def compare : (space : Space) → space.Carrier → space.Carrier → Option Ordering
  | .text, (a : String), (b : String) => some (compareOfLessAndEq a b)
  | .boolean, (a : Bool), (b : Bool) => some (Ord.compare a b)
  | .integer _, a, b => some (Ord.compare a.val b.val)
  | .decimal, a, b => some (Decimal.compare a b)
  | .binary format, a, b => Binary.compare format a b
  | .date, a, b => some (Calendar.Date.compare a b)
  | .dateTime, a, b => some (Calendar.DateTime.compare a b)
  | .dateTimeStamp, a, b => some (Calendar.DateTime.compare a b)
  | .time, a, b => some (Calendar.Time.compare a b)
  | .duration, a, b => some (Duration.compare a b)

/-- Whether two values are equal. What is no number differs from everything. -/
def equal (space : Space) (a b : space.Carrier) : Bool := space.compare a b == some .eq

end Space

end SchemaBinding
