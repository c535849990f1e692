import Mathlib.Tactic.SplitIfs
import SchemaBinding.Value.Calendar

/-!
# What the readers of dates and times take

Each reader takes a text off the front and leaves the rest (`Takes`). A date is
taken from digits, signs and white space (`takes_of_takeDate`), a time of day
from digits, colons, points and white space (`takes_of_takeTime`). So a date has
no colon and a time of day no sign, and behind the `T` of a moment there are at
least the five characters of a time (`exists_of_parseDateTime?`). A literal that
is read without a time zone therefore does not end as if it had one.
-/

namespace SchemaBinding.Calendar

/-- The characters of dates. -/
def isDateChar (c : Char) : Bool := c.isDigit || Text.isBlank c || c == '-' || c == '+'

/-- The characters of times of day. -/
def isTimeChar (c : Char) : Bool := c.isDigit || Text.isBlank c || c == ':' || c == '.'

/-- A text is taken off the front: at least `least` characters, all of a class. -/
def Takes (p : Char → Bool) (least : Nat) (cs rest : List Char) : Prop :=
  ∃ used, cs = used ++ rest ∧ (∀ c ∈ used, p c = true) ∧ least ≤ used.length

variable {p q : Char → Bool} {cs ds rest middle : List Char} {m n least most : Nat}

/-- Digits may stand in a date. -/
theorem isDateChar_of_isDigit (c : Char) (digit : c.isDigit = true) : isDateChar c = true := by
  rw [isDateChar, digit]
  rfl

/-- Blanks may stand in a date, before its fields. -/
theorem isDateChar_of_isBlank (c : Char) (blank : Text.isBlank c = true) : isDateChar c = true := by
  rw [isDateChar, blank, Bool.or_true]
  rfl

/-- Digits may stand in a time. -/
theorem isTimeChar_of_isDigit (c : Char) (digit : c.isDigit = true) : isTimeChar c = true := by
  rw [isTimeChar, digit]
  rfl

/-- Blanks may stand in a time, before its fields. -/
theorem isTimeChar_of_isBlank (c : Char) (blank : Text.isBlank c = true) : isTimeChar c = true := by
  rw [isTimeChar, blank, Bool.or_true]
  rfl

/-- A character that is taken was the first one. -/
theorem eq_cons_of_takeChar {c : Char} (taken : takeChar c cs = some rest) : cs = c :: rest := by
  cases cs with
  | nil => cases taken
  | cons d tail =>
    rw [takeChar] at taken
    split_ifs at taken with same
    rw [same, Option.some.inj taken]

namespace Takes

/-- Taking nothing takes no characters. -/
theorem nothing (cs : List Char) : Takes p 0 cs cs := ⟨[], rfl, nofun, Nat.le_refl 0⟩

/-- What is taken one after the other is taken together. -/
theorem trans (first : Takes p m cs middle) (second : Takes p n middle rest) :
    Takes p (m + n) cs rest := by
  obtain ⟨used, rfl, all, long⟩ := first
  obtain ⟨more, rfl, all', long'⟩ := second
  refine ⟨used ++ more, (List.append_assoc ..).symm, ?_, by rw [List.length_append]; omega⟩
  intro c mem
  exact (List.mem_append.1 mem).elim (all c) (all' c)

/-- Who takes more characters takes as many as are asked for. -/
theorem mono (taken : Takes p n cs rest) (le : m ≤ n) : Takes p m cs rest := by
  obtain ⟨used, split, all, long⟩ := taken
  exact ⟨used, split, all, Nat.le_trans le long⟩

/-- A character that is taken is one character. -/
theorem char {c : Char} (known : p c = true) (taken : takeChar c cs = some rest) :
    Takes p 1 cs rest := by
  obtain rfl := eq_cons_of_takeChar taken
  exact ⟨[c], rfl, fun d mem => List.mem_singleton.1 mem ▸ known, Nat.le_refl 1⟩

/-- Characters of a kind that are passed over are taken. -/
theorem dropWhile (known : ∀ c, q c = true → p c = true) (cs : List Char) :
    Takes p 0 cs (cs.dropWhile q) := by
  refine ⟨cs.takeWhile q, List.takeWhile_append_dropWhile.symm, fun c mem =>
    known c ?_, Nat.zero_le _⟩
  exact List.all_eq_true.1 List.all_takeWhile c mem

/-- What ends at the end of the text is all of it. -/
theorem all (taken : Takes p n cs []) : (∀ c ∈ cs, p c = true) ∧ n ≤ cs.length := by
  obtain ⟨used, rfl, all, long⟩ := taken
  rw [List.append_nil]
  exact ⟨all, long⟩

end Takes

/-! ## Digits and numbers -/

/-- The digits that are taken off the front. -/
theorem eq_append_of_takeDigits (taken : takeDigits least most cs = some (ds, rest)) :
    cs = ds ++ rest ∧ (∀ c ∈ ds, c.isDigit = true) ∧ ds ≠ [] := by
  rw [takeDigits] at taken
  split_ifs at taken with filled
  obtain ⟨rfl, rfl⟩ := Prod.mk.inj (Option.some.inj taken)
  have front : (cs.take most).takeWhile Char.isDigit <+: cs :=
    (List.takeWhile_prefix _).trans (List.take_prefix most cs)
  exact ⟨List.prefix_iff_eq_append.1 front |>.symm, fun c mem =>
    List.all_eq_true.1 List.all_takeWhile c mem, filled.2⟩

/-- A run of digits has one at least. -/
theorem takes_of_takeDigits (digit : ∀ c, c.isDigit = true → p c = true)
    (taken : takeDigits least most cs = some (ds, rest)) : Takes p 1 cs rest := by
  obtain ⟨rfl, digits, filled⟩ := eq_append_of_takeDigits taken
  exact ⟨ds, rfl, fun c mem => digit c (digits c mem), List.length_pos_iff.2 filled⟩

/-- A field is a run of digits, with blanks before it. -/
theorem takes_of_takeField (digit : ∀ c, c.isDigit = true → p c = true)
    (blank : ∀ c, Text.isBlank c = true → p c = true) (taken : takeField cs = some (n, rest)) :
    Takes p 1 cs rest := by
  obtain ⟨⟨ds, rest'⟩, digits, same⟩ := Option.map_eq_some_iff.1 taken
  obtain ⟨-, rfl⟩ := Prod.mk.inj same
  exact (Takes.dropWhile blank cs).trans (takes_of_takeDigits digit digits)

/-- A year with a sign has a digit at least behind it. -/
theorem takes_of_takeLong {sign : Nat → Int} {year : Int}
    (taken : takeYear.takeLong cs sign = some (year, rest)) :
    Takes isDateChar 1 cs rest := by
  simp only [takeYear.takeLong, Option.bind_eq_bind, Option.bind_eq_some_iff] at taken
  obtain ⟨⟨ds, rest'⟩, digits, same⟩ := taken
  split_ifs at same
  obtain ⟨-, rfl⟩ := Prod.mk.inj (Option.some.inj same)
  exact takes_of_takeDigits isDateChar_of_isDigit digits

/-- A year has one character at least. -/
theorem takes_of_takeYear {year : Int} (taken : takeYear cs = some (year, rest)) :
    Takes isDateChar 1 cs rest := by
  have start := Takes.dropWhile isDateChar_of_isBlank cs
  unfold takeYear at taken
  split at taken
  · next tail same =>
    rw [same] at start
    have sign : Takes isDateChar 1 ('-' :: tail) tail := Takes.char (c := '-') rfl rfl
    exact ((start.trans sign).trans (takes_of_takeLong taken)).mono (by decide)
  · next tail same =>
    rw [same] at start
    have sign : Takes isDateChar 1 ('+' :: tail) tail := Takes.char (c := '+') rfl rfl
    exact ((start.trans sign).trans (takes_of_takeLong taken)).mono (by decide)
  · obtain ⟨⟨ds, rest'⟩, digits, same⟩ := Option.map_eq_some_iff.1 taken
    obtain ⟨-, rfl⟩ := Prod.mk.inj same
    exact start.trans (takes_of_takeDigits isDateChar_of_isDigit digits)

/-! ## Dates and times of day -/

/-- **A date** has five characters at least: three fields and two hyphens. -/
theorem takes_of_takeDate {date : Option Date} (taken : takeDate cs = some (date, rest)) :
    Takes isDateChar 5 cs rest := by
  have dash : isDateChar '-' = true := rfl
  have field {n : Nat} {cs rest : List Char} (taken : takeField cs = some (n, rest)) :
    Takes isDateChar 1 cs rest :=
    takes_of_takeField isDateChar_of_isDigit isDateChar_of_isBlank taken
  simp only [takeDate, Option.bind_eq_bind, Option.bind_eq_some_iff] at taken
  obtain ⟨⟨year, _⟩, years, _, first, ⟨month, _⟩, months, _, second, ⟨day, _⟩, days, same⟩ := taken
  obtain ⟨-, rfl⟩ := Prod.mk.inj (Option.some.inj same)
  exact ((((takes_of_takeYear years).trans (.char dash first)).trans (field months)).trans
    (.char dash second)).trans (field days)

/-- A fraction of seconds may be missing. -/
theorem takes_of_takeFraction (taken : takeFraction cs = some (n, rest)) :
    Takes isTimeChar 0 cs rest := by
  unfold takeFraction at taken
  split at taken
  · next tail =>
    simp only [takeNanoseconds, Option.bind_eq_bind, Option.bind_eq_some_iff] at taken
    obtain ⟨⟨ds, tail'⟩, digits, same⟩ := taken
    obtain ⟨-, rfl⟩ := Prod.mk.inj (Option.some.inj same)
    have point : Takes isTimeChar 1 ('.' :: tail) tail := Takes.char (c := '.') rfl rfl
    have kept := takes_of_takeDigits isTimeChar_of_isDigit digits
    have passed := Takes.dropWhile isTimeChar_of_isDigit tail'
    exact ((point.trans kept).trans passed).mono (by decide)
  · obtain ⟨-, rfl⟩ := Prod.mk.inj (Option.some.inj taken)
    exact .nothing _

/-- **A time** has five characters at least: three fields and two colons. -/
theorem takes_of_takeTime {time : Option Time} (taken : takeTime cs = some (time, rest)) :
    Takes isTimeChar 5 cs rest := by
  have colon : isTimeChar ':' = true := rfl
  have field {n : Nat} {cs rest : List Char} (taken : takeField cs = some (n, rest)) :
    Takes isTimeChar 1 cs rest :=
    takes_of_takeField isTimeChar_of_isDigit isTimeChar_of_isBlank taken
  simp only [takeTime, Option.bind_eq_bind, Option.bind_eq_some_iff] at taken
  obtain ⟨⟨hour, _⟩, hours, _, first, ⟨minute, _⟩, minutes, _, second, ⟨sec, _⟩, seconds, ⟨nano, _⟩,
    fraction, same⟩ :=
    taken
  obtain ⟨-, rfl⟩ := Prod.mk.inj (Option.some.inj same)
  exact (((((field hours).trans (.char colon first)).trans (field minutes)).trans
    (.char colon second)).trans (field seconds)).trans (takes_of_takeFraction fraction)

/-- What is left over must be nothing. -/
theorem eq_nil_of_ite {α : Type} {found : Option α} {a : α}
    (read : (if rest.isEmpty = true then found else none) = some a) :
    rest = [] ∧ found = some a := by
  split_ifs at read with empty
  exact ⟨List.isEmpty_iff.1 empty, read⟩

/-- **A date has no colon**: its characters are digits, signs and white space. -/
theorem isDateChar_of_parseDate? {d : Date} (read : parseDate? cs = some d) :
    ∀ c ∈ cs, isDateChar c = true := by
  simp only [parseDate?, Option.bind_eq_bind, Option.bind_eq_some_iff] at read
  obtain ⟨⟨date, rest⟩, taken, read⟩ := read
  obtain ⟨rfl, -⟩ := eq_nil_of_ite read
  exact (takes_of_takeDate taken).all.1

/-- **A time of day has no sign**: its characters are digits, colons, points and white space. -/
theorem isTimeChar_of_parseTime? {t : Time} (read : parseTime? cs = some t) :
    ∀ c ∈ cs, isTimeChar c = true := by
  simp only [parseTime?, Option.bind_eq_bind, Option.bind_eq_some_iff] at read
  obtain ⟨⟨time, rest⟩, taken, read⟩ := read
  obtain ⟨rfl, -⟩ := eq_nil_of_ite read
  exact (takes_of_takeTime taken).all.1

/-- **A moment is a date and a time of day**, with a `T` between them. -/
theorem exists_of_parseDateTime? {m : DateTime} (read : parseDateTime? cs = some m) :
    ∃ date time, cs = date ++ 'T' :: time ∧ (∀ c ∈ date, isDateChar c = true) ∧
      (∀ c ∈ time, isTimeChar c = true) ∧ 5 ≤ time.length := by
  simp only [parseDateTime?, Option.bind_eq_bind, Option.bind_eq_some_iff] at read
  obtain ⟨⟨date, _⟩, dates, _, middle, ⟨time, rest⟩, times, read⟩ := read
  obtain ⟨rfl, -⟩ := eq_nil_of_ite read
  obtain ⟨used, rfl, characters, -⟩ := takes_of_takeDate dates
  obtain rfl := eq_cons_of_takeChar middle
  obtain ⟨characters', long⟩ := (takes_of_takeTime times).all
  exact ⟨used, _, rfl, characters, characters', long⟩

end SchemaBinding.Calendar
