import SchemaBinding.Text.Numeral
import SchemaBinding.Text.Blank
import SchemaBinding.Text.Bytes

/-!
# Dates and times of day

Source: `SPEC_FULL.md`, 4.3 and 10.7 (`date`, `dateTime`, `dateTimeStamp`,
`time`); `builtins/native` (`split_timezone`, `parse_literal`, `to_wire`), with
the rules of the calendar library.

Dates of the proleptic Gregorian calendar in a bounded range of years, times of
day to the nanosecond with leap seconds, and their combination. A leap second is
the 59th second with a fraction of a whole second or more. Shifting by an offset
carries over the days.
-/

namespace SchemaBinding

namespace Calendar

/-- The first year that a date may have. -/
def firstYear : Int := -262143

/-- The last year that a date may have. -/
def lastYear : Int := 262142

/-- Whether a year has a 29th of February. -/
def isLeap (year : Int) : Bool := year % 4 = 0 ∧ (year % 100 ≠ 0 ∨ year % 400 = 0)

/-- The number of days of a month of a year. -/
def daysIn (year : Int) (month : Nat) : Nat :=
  match month with
  | 2 => if isLeap year then 29 else 28
  | 4 | 6 | 9 | 11 => 30
  | _ => 31

/-- A date. -/
structure Date where
  year : Int
  month : Nat
  day : Nat
  year_mem : firstYear ≤ year ∧ year ≤ lastYear
  month_mem : 1 ≤ month ∧ month ≤ 12
  day_mem : 1 ≤ day ∧ day ≤ daysIn year month
  deriving DecidableEq

/-- A time of day: seconds since midnight, and nanoseconds, which reach a second or more in a leap
second. -/
structure Time where
  seconds : Nat
  nanoseconds : Nat
  seconds_lt : seconds < 86400
  nanoseconds_lt : nanoseconds < 2000000000
  deriving DecidableEq

/-- A date with a time of day. -/
structure DateTime where
  date : Date
  time : Time
  deriving DecidableEq

namespace Date

/-- The date with the given parts, if there is one. -/
def ofParts? (year : Int) (month day : Nat) : Option Date :=
  if hy : firstYear ≤ year ∧ year ≤ lastYear then
    if hm : 1 ≤ month ∧ month ≤ 12 then
      if hd : 1 ≤ day ∧ day ≤ daysIn year month then some ⟨year, month, day, hy, hm, hd⟩ else none
    else none
  else none

/-- The next day, unless the range of years ends. -/
def next? (d : Date) : Option Date :=
  if d.day < daysIn d.year d.month then ofParts? d.year d.month (d.day + 1)
  else if d.month < 12 then ofParts? d.year (d.month + 1) 1
  else ofParts? (d.year + 1) 1 1

/-- The day before, unless the range of years begins. -/
def previous? (d : Date) : Option Date :=
  if 1 < d.day then ofParts? d.year d.month (d.day - 1)
  else if 1 < d.month then ofParts? d.year (d.month - 1) (daysIn d.year (d.month - 1))
  else ofParts? (d.year - 1) 12 31

/-- The order of dates. -/
def compare (a b : Date) : Ordering :=
  (Ord.compare a.year b.year).then ((Ord.compare a.month b.month).then (Ord.compare a.day b.day))

/-- A year with at least four digits, and a sign when it is negative or has more than four. -/
def yearChars (year : Int) : List Char :=
  if 0 ≤ year ∧ year < 10000 then Text.padded 4 year.natAbs
  else (if year < 0 then '-' else '+') :: Text.padded 4 year.natAbs

/-- The canonical form of a date. -/
def toChars (d : Date) : List Char :=
  yearChars d.year ++ '-' :: Text.padded 2 d.month ++ '-' :: Text.padded 2 d.day

end Date

namespace Time

/-- The time with the given parts; second 60 is a leap second. -/
def ofParts? (hour minute second nanosecond : Nat) : Option Time :=
  let leap := second = 60
  let seconds := (hour * 60 + minute) * 60 + (if leap then 59 else second)
  let nanoseconds := nanosecond + (if leap then 1000000000 else 0)
  if h : (hour < 24 ∧ minute < 60 ∧ second ≤ 60 ∧ nanosecond < 1000000000) ∧ seconds < 86400 ∧
    nanoseconds < 2000000000
  then some ⟨seconds, nanoseconds, h.2.1, h.2.2⟩ else none

/-- The order of times. -/
def compare (a b : Time) : Ordering :=
  (Ord.compare a.seconds b.seconds).then (Ord.compare a.nanoseconds b.nanoseconds)

/-- The fraction of a second: nothing, or a point and as many of three, six or nine digits as are
needed. -/
def fractionChars (nanosecond : Nat) : List Char :=
  if nanosecond = 0 then []
  else if nanosecond % 1000000 = 0 then '.' :: Text.padded 3 (nanosecond / 1000000)
  else if nanosecond % 1000 = 0 then '.' :: Text.padded 6 (nanosecond / 1000)
  else '.' :: Text.padded 9 nanosecond

/-- The canonical form of a time of day. -/
def toChars (t : Time) : List Char :=
  Text.padded 2 (t.seconds / 3600) ++ ':' :: Text.padded 2 (t.seconds / 60 % 60) ++
    ':' :: Text.padded 2 (t.seconds % 60 + t.nanoseconds / 1000000000) ++
    fractionChars (t.nanoseconds % 1000000000)

end Time

namespace DateTime

/-- The order of dates with times. -/
def compare (a b : DateTime) : Ordering :=
  (a.date.compare b.date).then (a.time.compare b.time)

/-- The moment an offset of whole seconds before `m`, unless the range of years is left. The offset
is less than a day; a leap second stays one. -/
def minusOffset? (m : DateTime) (offset : Int) : Option DateTime :=
  let shifted : Int := m.time.seconds - offset
  let seconds := (shifted % 86400).toNat
  let time : Time := ⟨seconds, m.time.nanoseconds, by omega, m.time.nanoseconds_lt⟩
  if shifted < 0 then m.date.previous?.map (⟨·, time⟩)
  else if shifted < 86400 then some ⟨m.date, time⟩
  else m.date.next?.map (⟨·, time⟩)

/-- The canonical form of a moment in universal time. -/
def toChars (m : DateTime) : List Char :=
  m.date.toChars ++ 'T' :: m.time.toChars ++ ['Z']

end DateTime

/-! ## Reading -/

/-- Takes at least `least` and at most `most` digits off the front. -/
def takeDigits (least most : Nat) (cs : List Char) : Option (List Char × List Char) :=
  let ds := (cs.take most).takeWhile Char.isDigit
  if least ≤ ds.length ∧ ds ≠ [] then some (ds, cs.drop ds.length) else none

/-- Takes the number of one or two digits, after white space, off the front. -/
def takeField (cs : List Char) : Option (Nat × List Char) :=
  (takeDigits 1 2 (cs.dropWhile Text.isBlank)).map fun (ds, rest) => (Text.valueOf ds, rest)

/-- Passes over one character. -/
def takeChar (c : Char) : List Char → Option (List Char)
  | d :: rest => if c = d then some rest else none
  | [] => none

/-- Years are read as numbers of 64 bits. -/
def yearBound : Nat := 0x8000000000000000

/-- Takes a year, after white space, off the front: up to four digits, or a sign and any number of
digits. -/
def takeYear (cs : List Char) : Option (Int × List Char) :=
  match cs.dropWhile Text.isBlank with
  | '-' :: rest => takeLong rest fun n => -(n : Int)
  | '+' :: rest => takeLong rest Int.ofNat
  | rest => (takeDigits 1 4 rest).map fun (ds, rest) => ((Text.valueOf ds : Int), rest)
where
  /-- Takes a numeral of any length. -/
  takeLong (cs : List Char) (sign : Nat → Int) : Option (Int × List Char) := do
    let (ds, rest) ← takeDigits 1 cs.length cs
    if Text.valueOf ds < yearBound then return (sign (Text.valueOf ds), rest) else none

/-- Takes the digits after the point of a second off the front, as nanoseconds. Digits after the
ninth are passed over. -/
def takeNanoseconds (cs : List Char) : Option (Nat × List Char) := do
  let (ds, rest) ← takeDigits 1 9 cs
  return (Text.valueOf ds * Nat.pow 10 (9 - ds.length), rest.dropWhile Char.isDigit)

/-- Takes an optional fraction of a second off the front. -/
def takeFraction : List Char → Option (Nat × List Char)
  | '.' :: rest => takeNanoseconds rest
  | cs => some (0, cs)

/-- Takes a date off the front: year, month and day with dashes between them. -/
def takeDate (cs : List Char) : Option (Option Date × List Char) := do
  let (year, cs) ← takeYear cs
  let (month, cs) ← takeField (← takeChar '-' cs)
  let (day, cs) ← takeField (← takeChar '-' cs)
  return (Date.ofParts? year month day, cs)

/-- Takes a time of day off the front: hour, minute and second with colons between them, and a
fraction. -/
def takeTime (cs : List Char) : Option (Option Time × List Char) := do
  let (hour, cs) ← takeField cs
  let (minute, cs) ← takeField (← takeChar ':' cs)
  let (second, cs) ← takeField (← takeChar ':' cs)
  let (nanosecond, cs) ← takeFraction cs
  return (Time.ofParts? hour minute second nanosecond, cs)

/-- Reads a date. -/
def parseDate? (cs : List Char) : Option Date := do
  let (date, rest) ← takeDate cs
  if rest.isEmpty then date else none

/-- Reads a time of day. -/
def parseTime? (cs : List Char) : Option Time := do
  let (time, rest) ← takeTime cs
  if rest.isEmpty then time else none

/-- Reads a date and a time with a `T` between them. -/
def parseDateTime? (cs : List Char) : Option DateTime := do
  let (date, cs) ← takeDate cs
  let (time, rest) ← takeTime (← takeChar 'T' cs)
  if rest.isEmpty then return ⟨← date, ← time⟩ else none

/-! ## Offsets -/

/-- An offset in seconds is less than a day. -/
def isOffset (seconds : Int) : Bool := seconds.natAbs < 86400

/-- What the end of a literal tells about its time zone. -/
inductive Zone where
  | none
  | offset (seconds : Int)
  | invalid
  deriving DecidableEq, Repr

/-- Cuts the last six bytes off a literal, if they begin a character. -/
def splitZone (cs : List Char) : List Char × List Char :=
  let size := (Text.bytes cs).length
  if size < 6 then (cs, []) else (Text.cutAt? (size - 6) cs).getD (cs, [])

/-- The hours and minutes of an offset, fields of two bytes each around a colon. -/
def zoneFields? (cs : List Char) : Option (List Char × List Char) :=
  match Text.cutAt? 2 cs with
  | some (hours, ':' :: minutes) => some (hours, minutes)
  | _ => Option.none

/-- Splits a literal into its local part and its time zone: a final `Z`, or a sign and two fields
around a colon. -/
def splitTimezone (cs : List Char) : List Char × Zone :=
  if cs.getLast? = some 'Z' then (cs.dropLast, .offset 0)
  else
    let (localPart, zone) := splitZone cs
    match zone with
    | sign :: fields =>
      if sign = '+' ∨ sign = '-' then
        match zoneFields? fields with
        | some (hours, minutes) =>
          match Text.integer? hours, Text.integer? minutes with
          | some h, some m =>
            let seconds := (h * 60 + m) * 60
            let offset := if sign = '-' then -seconds else seconds
            if isOffset offset then (localPart, .offset offset) else (cs, .invalid)
          | _, _ => (cs, .invalid)
        | Option.none => (cs, .none)
      else (cs, .none)
    | [] => (cs, .none)

/-! ## Stamps -/

/-- Takes the number of exactly `count` digits off the front. -/
def takeFixed (count : Nat) (cs : List Char) : Option (Nat × List Char) :=
  (takeDigits count count cs).map fun (ds, rest) => (Text.valueOf ds, rest)

/-- Takes the offset of a stamp off the front: a `Z`, or a sign, two digits, a colon and two
digits. -/
def takeOffset : List Char → Option (Int × List Char)
  | 'Z' :: rest | 'z' :: rest => some (0, rest)
  | '+' :: rest => takeFields rest id
  | '-' :: rest | '\u2212' :: rest => takeFields rest fun n => -n
  | _ => Option.none
where
  /-- Takes hours and minutes. -/
  takeFields (cs : List Char) (sign : Int → Int) : Option (Int × List Char) := do
    let (hours, cs) ← takeFixed 2 cs
    let (minutes, cs) ← takeFixed 2 (← takeChar ':' cs)
    if hours < 24 ∧ minutes < 60 then return (sign ((hours * 60 + minutes) * 60), cs) else failure

/-- Reads a stamp: a date of fixed width, a `T` or a space, a time of fixed width, and an offset.
The moment is given in universal time. -/
def parseStamp? (cs : List Char) : Option DateTime := do
  let (year, cs) ← takeFixed 4 cs
  let (month, cs) ← takeFixed 2 (← takeChar '-' cs)
  let (day, cs) ← takeFixed 2 (← takeChar '-' cs)
  let cs ← match cs with
    | 'T' :: rest | 't' :: rest | ' ' :: rest => some rest
    | _ => Option.none
  let (hour, cs) ← takeFixed 2 cs
  let (minute, cs) ← takeFixed 2 (← takeChar ':' cs)
  let (second, cs) ← takeFixed 2 (← takeChar ':' cs)
  let (nanosecond, cs) ← takeFraction cs
  let (offset, rest) ← takeOffset cs
  if rest.isEmpty then
    DateTime.minusOffset? ⟨← Date.ofParts? year month day,
      ← Time.ofParts? hour minute second nanosecond⟩ offset
  else failure

end Calendar

end SchemaBinding
