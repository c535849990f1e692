import SchemaBinding.Value.Decimal
import SchemaBinding.Value.Reason
import SchemaBinding.Text.Category

/-!
# Durations

Source: `SPEC_FULL.md`, 4.3 (duration value) and 10.7; `builtins/duration`
(`new`, `normalized`, `from_str`, `fmt`, `cmp`).

A duration has a sign and years, months, days, hours, minutes and seconds. In
normal form seconds and minutes are below 60 and hours below 24, and the days
are split over years of 365 and months of 30 days. This approximates the
calendar: durations are compared field by field from the years down.
-/

namespace SchemaBinding

/-- A duration, as given or in normal form. -/
structure Duration where
  negative : Bool
  years : Nat
  months : Nat
  days : Nat
  hours : Nat
  minutes : Nat
  seconds : Decimal
  deriving DecidableEq, Inhabited

namespace Duration

/-- Counts are below this bound. -/
def countBound : Nat := 0x10000000000000000

/-- The number of days that a year and a month stand for. -/
def daysPerYear : Nat := 365

/-- The number of days that a month stands for. -/
def daysPerMonth : Nat := 30

/-- A count, unless it is too large. -/
def bounded (n : Nat) : Except Violation Nat :=
  if n < countBound then .ok n else .error .durationTooLarge

/-- Whether a duration is empty. -/
def isZero (d : Duration) : Bool :=
  d.years == 0 && d.months == 0 && d.days == 0 && d.hours == 0 && d.minutes == 0 && d.seconds.isZero

/-- The normal form of a duration with non-negative seconds: each field carries into the next, and
the total of days is split anew. An empty duration is not negative. -/
def normalize (d : Duration) : Except Violation Duration := do
  let carry := d.seconds.wholeQuotient 60
  let seconds ←
    match d.seconds.subWhole? (carry * 60) with
    | some seconds => pure seconds
    | none => throw .durationTooLarge
  let minutes ← bounded (d.minutes + (← bounded carry))
  let hours ← bounded (d.hours + minutes / 60)
  let days ← bounded (d.days + hours / 24)
  let total ← bounded ((← bounded (days + (← bounded (d.months * daysPerMonth)))) +
    (← bounded (d.years * daysPerYear)))
  let normal : Duration := {
    negative := d.negative
    years := total / daysPerYear
    months := total % daysPerYear / daysPerMonth
    days := total % daysPerYear % daysPerMonth
    hours := hours % 24
    minutes := minutes % 60
    seconds := seconds }
  return { normal with negative := normal.negative && !normal.isZero }

/-- The duration with the given parts, in normal form. -/
def ofParts (parts : Duration) : Except Violation Duration :=
  if parts.seconds.isNegative then .error .negativeSeconds else parts.normalize

/-! ## Reading -/

/-- Whether a character is a decimal digit of any script. -/
def isDigit (c : Char) : Bool := Text.categoryOf c == .decimalNumber

/-- A component: the digits before a designator. Without the designator nothing is read. -/
def component (designator : Char) (cs : List Char) : Option (List Char) × List Char :=
  let ds := cs.takeWhile isDigit
  match cs.dropWhile isDigit with
  | c :: rest => if !ds.isEmpty && c == designator then (some ds, rest) else (none, cs)
  | [] => (none, cs)

/-- The component of seconds, which may have a fraction. -/
def secondsComponent (cs : List Char) : Option (List Char) × List Char :=
  match component 'S' cs with
  | (some ds, rest) => (some ds, rest)
  | (none, _) =>
    let whole := cs.takeWhile isDigit
    match cs.dropWhile isDigit with
    | '.' :: rest =>
      match component 'S' rest with
      | (some ds, rest) => if whole.isEmpty then (none, cs) else (some (whole ++ '.' :: ds), rest)
      | (none, _) => (none, cs)
    | _ => (none, cs)

/-- The components of a literal, as digits. -/
structure Components where
  negative : Bool
  years : Option (List Char)
  months : Option (List Char)
  days : Option (List Char)
  hours : Option (List Char)
  minutes : Option (List Char)
  seconds : Option (List Char)

/-- The components after the designator of the time, and what follows them. -/
def timeComponents (cs : List Char) :
    (Option (List Char) × Option (List Char) × Option (List Char)) × List Char :=
  let (hours, cs) := component 'H' cs
  let (minutes, cs) := component 'M' cs
  let (seconds, cs) := secondsComponent cs
  ((hours, minutes, seconds), cs)

/-- Takes a literal apart: an optional minus, `P`, the components of the date in order, and possibly
`T` and the components of the time, of which there is at least one then. There is at least one
component overall. -/
def components? (cs : List Char) : Option Components := do
  let (negative, cs) := match cs with | '-' :: rest => (true, rest) | _ => (false, cs)
  let cs ← match cs with | 'P' :: rest => some rest | _ => none
  let (years, cs) := component 'Y' cs
  let (months, cs) := component 'M' cs
  let (days, cs) := component 'D' cs
  match cs with
  | [] =>
    if years.isSome || months.isSome || days.isSome then
      return { negative, years, months, days, hours := none, minutes := none, seconds := none }
    else none
  | 'T' :: rest =>
    let ((hours, minutes, seconds), rest) := timeComponents rest
    if rest.isEmpty && (hours.isSome || minutes.isSome || seconds.isSome) then
      return { negative, years, months, days, hours, minutes, seconds }
    else none
  | _ => none

/-- Whether the part of a literal before the time counts weeks. -/
def hasWeeks (cs : List Char) : Bool :=
  match (match cs with | '-' :: rest => rest | _ => cs) with
  | 'P' :: rest => weekFollows (rest.takeWhile (· ≠ 'T'))
  | _ => false
where
  /-- Whether a digit is followed by the designator of weeks. -/
  weekFollows : List Char → Bool
    | c :: 'W' :: rest => isDigit c || weekFollows ('W' :: rest)
    | _ :: rest => weekFollows rest
    | [] => false

/-- The count that digits denote, zero if there are none. Only ASCII digits denote a count. -/
def count (ds : Option (List Char)) : Except Violation Nat :=
  match ds with
  | none => .ok 0
  | some ds =>
    match Text.natural? ds with
    | some n => bounded n
    | none => .error .durationTooLarge

/-- Reads a duration. -/
def parse (literal : String) : Except Violation Duration := do
  let cs := literal.toList
  if hasWeeks cs then throw .weeks
  let some parts := components? cs | throw (.notDuration literal)
  let seconds ←
    match parts.seconds with
    | none => pure Decimal.zero
    | some ds =>
      match Decimal.parse? ds with
      | some d => pure d
      | none => throw (.notDuration literal)
  ofParts {
    negative := parts.negative
    years := ← count parts.years
    months := ← count parts.months
    days := ← count parts.days
    hours := ← count parts.hours
    minutes := ← count parts.minutes
    seconds := seconds }

/-! ## Writing and order -/

/-- A count with its designator, unless it is zero. -/
def field (n : Nat) (designator : Char) : List Char :=
  if n = 0 then [] else Text.digits n ++ [designator]

/-- The components of the time with their designator, unless they are all zero. -/
def timeChars (d : Duration) : List Char :=
  if d.hours == 0 && d.minutes == 0 && d.seconds.isZero then []
  else
    'T' :: field d.hours 'H' ++ field d.minutes 'M' ++
      (if d.seconds.isZero then [] else d.seconds.toChars ++ ['S'])

/-- The canonical form of a duration. -/
def toChars (d : Duration) : List Char :=
  if d.isZero then ['P', 'T', '0', 'S']
  else
    (if d.negative then ['-'] else []) ++
      'P' :: field d.years 'Y' ++ field d.months 'M' ++ field d.days 'D' ++ d.timeChars

/-- The canonical form of a duration. -/
def print (d : Duration) : String := String.ofList d.toChars

/-- The order of two durations without their signs: by the fields, from the years down. -/
def compareFields (a b : Duration) : Ordering :=
  (Ord.compare a.years b.years).then <| (Ord.compare a.months b.months).then <|
  (Ord.compare a.days b.days).then <| (Ord.compare a.hours b.hours).then <|
  (Ord.compare a.minutes b.minutes).then (a.seconds.compare b.seconds)

/-- The order of durations: negative ones come first, and of two negative ones the longer. -/
def compare (a b : Duration) : Ordering :=
  match a.negative, b.negative with
  | true, false => .lt
  | false, true => .gt
  | false, false => compareFields a b
  | true, true => (compareFields a b).swap

end Duration

end SchemaBinding
