import SchemaBinding.Proofs.Duration.Components
import SchemaBinding.Proofs.Duration.Normal

/-!
# Durations are read back as they are written

A field that is written is a component with its digits (`field_eq`), and so are
seconds that are not negative (`isPointedRun_toChars`). So the fields that are
written are the components that are read (`exists_components?_toChars`), and since
a literal is normalized after its components have been read (`parse_eq`), a
duration in normal form is read back (`parse_print`). Negative seconds are written
with a minus, which no component has (`parse_print_of_neg`). Both together say for
which durations the round trip succeeds (`isNormal_iff_parse_print`).
-/

namespace SchemaBinding

namespace Duration

/-! ## Fields -/

/-- The digits that are written for a count, and read back. -/
def counted (n : Nat) : Option (List Char) := if n = 0 then none else some (Text.digits n)

theorem counted_eq_none {n : Nat} : counted n = none ↔ n = 0 := by
  rw [counted]
  split
  · next zero => exact iff_of_true rfl zero
  · next some => exact iff_of_false nofun some

theorem isSome_counted (n : Nat) : (counted n).isSome = !(n == 0) := by
  rw [Bool.eq_iff_iff, Option.isSome_iff_ne_none, ne_eq, counted_eq_none, Bool.not_eq_true',
    beq_eq_false_iff_ne]

theorem count_counted {n : Nat} (small : n < countBound) : count (counted n) = .ok n := by
  unfold counted
  split
  · next zero => rw [zero, count]
  · rw [count, Text.natural?_digits]
    exact if_pos small

theorem isRun_counted {n : Nat} {ds : List Char} (stated : counted n = some ds) : IsRun ds := by
  unfold counted at stated
  split at stated
  · cases stated
  · obtain rfl := Option.some.inj stated
    exact isRun_of_isDigit (Text.digits_ne_nil n) fun c mem => Text.isDigit_of_mem_digits mem

/-- A written field is a component with its digits. -/
theorem field_eq (n : Nat) (designator : Char) :
    field n designator = part designator (counted n) := by
  unfold field counted
  split <;> rfl

/-! ## Seconds -/

theorem toChars_of_nonneg {s : Decimal} (nonneg : 0 ≤ s.toRat) :
    s.toChars = Decimal.pointed s.coefficient.natAbs s.scale := by
  rw [Decimal.toChars]
  exact if_neg (Int.not_lt.2 (Decimal.coefficient_nonneg_iff.2 nonneg))

/-- Seconds that are not negative are written with digits and at most one point. -/
theorem isPointedRun_toChars {s : Decimal} (nonneg : 0 ≤ s.toRat) : IsPointedRun s.toChars := by
  rw [toChars_of_nonneg nonneg]
  rcases Decimal.pointed_cases s.coefficient.natAbs s.scale with
    ⟨-, plain⟩ | ⟨whole, fraction, split, filled, more, digits, decimals, -, -⟩
  · rw [plain]
    exact .whole (isRun_of_isDigit (Text.digits_ne_nil _) fun c mem =>
      Text.isDigit_of_mem_digits mem)
  · rw [split]
    exact .pointed (isRun_of_isDigit filled digits) (isRun_of_isDigit more decimals)

/-! ## Literals -/

/-- The components of a time, written. -/
def clock (hours minutes : Nat) (seconds : List Char) : List Char :=
  field hours 'H' ++ (field minutes 'M' ++ seconds)

/-- The components of a date, written. -/
def date (years months days : Nat) (time : List Char) : List Char :=
  field years 'Y' ++ (field months 'M' ++ (field days 'D' ++ time))

/-- Weeks have their designator. -/
theorem weekFollows_eq_false {cs : List Char} (none : 'W' ∉ cs) :
    hasWeeks.weekFollows cs = false := by
  fun_induction hasWeeks.weekFollows cs with
  | case1 c rest ih => exact absurd (List.mem_cons_of_mem _ (List.mem_cons_self ..)) none
  | case2 c rest other ih => exact ih fun mem => none (List.mem_cons_of_mem _ mem)
  | case3 => rfl

theorem hasWeeks_eq_false {cs : List Char} (none : 'W' ∉ cs) (negative : Bool) :
    hasWeeks (sign negative ++ 'P' :: cs) = false := by
  have before : 'W' ∉ cs.takeWhile (· ≠ 'T') :=
    fun mem => none ((List.takeWhile_prefix _).subset mem)
  cases negative with
  | false => exact weekFollows_eq_false before
  | true => exact weekFollows_eq_false before

/-! ## Written durations -/

/-- The seconds that a component states. -/
def readSeconds (literal : String) : Option (List Char) → Except Violation Decimal
  | none => .ok Decimal.zero
  | some ds =>
    match Decimal.parse? ds with
    | some d => .ok d
    | none => .error (.notDuration literal)

/-- The parts that the components of a literal state. -/
def Components.parts (literal : String) (c : Components) : Except Violation Duration := do
  let seconds ← readSeconds literal c.seconds
  let years ← count c.years
  let months ← count c.months
  let days ← count c.days
  let hours ← count c.hours
  let minutes ← count c.minutes
  return ⟨c.negative, years, months, days, hours, minutes, seconds⟩

/-- The parts that a literal states. -/
def stated (literal : String) : Except Violation Duration :=
  if hasWeeks literal.toList then .error .weeks
  else
    match components? literal.toList with
    | some c => c.parts literal
    | none => .error (.notDuration literal)

/-- **Reading a literal** normalizes the parts that it states. -/
theorem parse_eq (literal : String) : parse literal = stated literal >>= ofParts := by
  by_cases weeks : hasWeeks literal.toList = true
  · simp only [parse, stated, weeks, if_true]
    rfl
  · simp only [parse, stated, weeks, Bool.false_eq_true, if_false]
    cases components? literal.toList with
    | none => rfl
    | some c =>
      simp only [Components.parts, readSeconds, bind_assoc, pure_bind]
      cases c.seconds with
      | none => rfl
      | some ds =>
        dsimp only
        cases Decimal.parse? ds with
        | none => rfl
        | some d => rfl

variable {d : Duration}

/-- The component of the seconds, written. -/
def secondsChars (s : Decimal) : List Char := if s.isZero then [] else s.toChars ++ ['S']

/-- The component of the seconds that is written, and read back. -/
def writtenSeconds (s : Decimal) : Option (List Char) := if s.isZero then none else some s.toChars

theorem readSeconds_writtenSeconds (literal : String) (s : Decimal) :
    readSeconds literal (writtenSeconds s) = .ok s := by
  unfold writtenSeconds
  split
  · next zero =>
    have same : s = Decimal.zero :=
      Decimal.toRat_injective ((Decimal.isZero_iff.1 zero).trans Decimal.zero_toRat.symm)
    rw [same]
    rfl
  · rw [readSeconds, Decimal.parse?_toChars]

theorem isSome_writtenSeconds (s : Decimal) : (writtenSeconds s).isSome = !s.isZero := by
  unfold writtenSeconds
  cases s.isZero <;> rfl

theorem secondsChars_eq (s : Decimal) : secondsChars s = part 'S' (writtenSeconds s) := by
  unfold secondsChars writtenSeconds
  split <;> rfl

/-- The canonical form of a duration that is not empty. -/
theorem toChars_eq (filled : ¬ d.isZero = true) :
    d.toChars = sign d.negative ++ 'P' :: date d.years d.months d.days
      (if d.hours == 0 && d.minutes == 0 && d.seconds.isZero then []
       else 'T' :: clock d.hours d.minutes (secondsChars d.seconds)) := by
  rw [toChars, if_neg filled, timeChars]
  simp only [sign, date, clock, secondsChars, List.append_assoc, List.cons_append]

/-- The only empty duration without a sign. -/
theorem eq_of_isZero (zero : d.isZero = true) (unsigned : d.negative = false) :
    d = ⟨false, 0, 0, 0, 0, 0, Decimal.zero⟩ := by
  simp only [isZero, Bool.and_eq_true, beq_iff_eq] at zero
  obtain ⟨⟨⟨⟨⟨years, months⟩, days⟩, hours⟩, minutes⟩, seconds⟩ := zero
  have none : d.seconds = Decimal.zero :=
    Decimal.toRat_injective ((Decimal.isZero_iff.1 seconds).trans Decimal.zero_toRat.symm)
  cases d
  simp only at unsigned years months days hours minutes none
  rw [unsigned, years, months, days, hours, minutes, none]

/-- The components that are written for a duration that is not empty. -/
def written (d : Duration) : Components :=
  ⟨d.negative, counted d.years, counted d.months, counted d.days, counted d.hours,
    counted d.minutes, writtenSeconds d.seconds⟩

/-- A duration is written as its components. -/
theorem toChars_written (filled : ¬ d.isZero = true) : d.toChars = d.written.toChars := by
  have time : d.written.hasTime = !(d.hours == 0 && d.minutes == 0 && d.seconds.isZero) := by
    rw [Components.hasTime, written, isSome_counted, isSome_counted, isSome_writtenSeconds,
      ← Bool.not_and, ← Bool.not_and]
  rw [toChars_eq filled, Components.toChars, Components.chars, Components.timeChars, time]
  simp only [written, date, clock, field_eq, secondsChars_eq]
  cases d.hours == 0 && d.minutes == 0 && d.seconds.isZero <;> rfl

theorem isStated_written (nonneg : 0 ≤ d.seconds.toRat) (filled : ¬ d.isZero = true) :
    d.written.IsStated where
  years _ := isRun_counted
  months _ := isRun_counted
  days _ := isRun_counted
  hours _ := isRun_counted
  minutes _ := isRun_counted
  seconds ds stated := by
    change writtenSeconds d.seconds = some ds at stated
    unfold writtenSeconds at stated
    split at stated
    · cases stated
    · obtain rfl := Option.some.inj stated
      exact isPointedRun_toChars nonneg
  filled := by
    simp only [written, Components.hasTime, isSome_counted, isSome_writtenSeconds, ← Bool.not_and]
    rw [Bool.not_eq_true']
    simpa only [isZero, Bool.and_assoc, Bool.not_eq_true] using filled

/-- **The components of a written duration** state its fields, unless the seconds are negative. -/
theorem exists_components?_toChars (nonneg : 0 ≤ d.seconds.toRat)
    (signed : d.negative = true → ¬ d.isZero = true) :
    ∃ seconds, components? d.toChars =
      some ⟨d.negative, counted d.years, counted d.months, counted d.days,
      counted d.hours, counted d.minutes, seconds⟩ ∧
        ∀ literal, readSeconds literal seconds = .ok d.seconds := by
  by_cases zero : d.isZero = true
  · obtain rfl := eq_of_isZero zero (Bool.eq_false_iff.2 fun negative => signed negative zero)
    refine ⟨some Decimal.zero.toChars, ?_, fun literal => by
      rw [readSeconds, Decimal.parse?_toChars]⟩
    have stated : Components.IsStated
      ⟨false, none, none, none, none, none, some Decimal.zero.toChars⟩ :=
      ⟨nofun, nofun, nofun, nofun, nofun, fun ds same =>
        Option.some.inj same ▸ isPointedRun_toChars nonneg, rfl⟩
    exact components?_toChars stated
  · refine ⟨writtenSeconds d.seconds, ?_, fun literal =>
      readSeconds_writtenSeconds literal d.seconds⟩
    rw [toChars_written zero]
    exact components?_toChars (isStated_written nonneg zero)

/-- Negative seconds are written but not read. -/
theorem components?_toChars_of_neg (negative : d.seconds.toRat < 0) :
    components? d.toChars = none := by
  have some : ¬ d.seconds.isZero = true := by
    rw [Decimal.isZero_iff]
    exact negative.ne
  have filled : ¬ d.isZero = true := fun zero => some (Bool.and_eq_true_iff.1 zero).2
  have minus : '-' ∈ d.written.chars := by
    have text : '-' ∈ part 'S' (writtenSeconds d.seconds) := by
      rw [writtenSeconds, if_neg some, Decimal.toChars, if_pos]
      · exact List.mem_cons_self ..
      · exact Int.not_le.1 fun nonneg => not_le.2 negative (Decimal.coefficient_nonneg_iff.1 nonneg)
    have time : d.written.hasTime = true := by
      rw [Components.hasTime, written, isSome_writtenSeconds, Bool.eq_false_iff.2 some]
      exact Bool.or_true _
    simp only [Components.chars, Components.timeChars, time, if_true, List.mem_append,
      List.mem_cons]
    exact .inr (.inr (.inr (.inr (.inr (.inr text)))))
  cases read : components? d.toChars with
  | none => rfl
  | some c =>
    obtain ⟨stated, same⟩ := of_components? read
    rw [toChars_written filled, Components.toChars, Components.toChars] at same
    rw [(sign_append_inj same).2] at minus
    rcases Components.mem_chars stated minus with digit | letter
    · exact absurd digit (Bool.eq_false_iff.1 (isDigit_of_mem_designators (by decide)))
    · exact absurd letter (by decide)

theorem not_mem_field {c : Char} (n : Nat) (letter : ¬ c.isDigit = true) (ne : c ≠ designator) :
    c ∉ field n designator := by
  unfold field
  split
  · exact List.not_mem_nil
  · rw [List.mem_append, List.mem_singleton]
    exact fun mem => mem.elim (fun digit => letter (Text.isDigit_of_mem_digits digit)) ne

theorem not_mem_secondsChars (s : Decimal) : 'W' ∉ secondsChars s := by
  unfold secondsChars
  split
  · exact List.not_mem_nil
  · intro mem
    rcases List.mem_append.1 mem with number | designator
    · exact absurd (Decimal.mem_toChars number) (by decide)
    · exact absurd designator (by decide)

/-- No weeks are written. -/
theorem hasWeeks_toChars (d : Duration) : hasWeeks d.toChars = false := by
  by_cases zero : d.isZero = true
  · rw [toChars, if_pos zero]
    exact hasWeeks_eq_false (show 'W' ∉ ['T', '0', 'S'] by decide) false
  · have none {other : Char} (n : Nat) (ne : 'W' ≠ other) : 'W' ∉ field n other :=
      not_mem_field n (by decide) ne
    have seconds := not_mem_secondsChars d.seconds
    rw [toChars_eq zero]
    refine hasWeeks_eq_false ?_ d.negative
    simp only [date, List.mem_append, not_or]
    refine ⟨none _ (by decide), none _ (by decide), none _ (by decide), ?_⟩
    split
    · exact List.not_mem_nil
    · simp only [clock, List.mem_cons, List.mem_append, not_or]
      exact ⟨by decide, none _ (by decide), none _ (by decide), seconds⟩

/-- **A written duration states its fields**, unless its seconds are negative. -/
theorem stated_print (nonneg : 0 ≤ d.seconds.toRat) (carried : d.IsCarried) (fits : d.Fits 0) :
    stated d.print = .ok d := by
  have hours := carried.hours_lt
  have minutes := carried.minutes_lt
  have days := fits.days
  rw [(totals_of_isCarried carried).2.2] at days
  have bound : countBound = 18446744073709551616 := rfl
  obtain ⟨seconds, read, known⟩ := exists_components?_toChars nonneg carried.sign
  rw [stated, print, String.toList_ofList, hasWeeks_toChars, if_neg Bool.false_ne_true, read]
  simp only [Components.parts, known, count_counted (show d.years < countBound by omega),
    count_counted (show d.months < countBound by omega),
    count_counted (show d.days < countBound by omega),
    count_counted (show d.hours < countBound by omega),
    count_counted (show d.minutes < countBound by omega)]
  rfl

/-- **A duration is read back as it is written** unless its seconds are negative. -/
theorem parse_print {parts : Duration} (h : ofParts parts = .ok d) (nonneg : 0 ≤ d.seconds.toRat) :
    parse d.print = .ok d := by
  rw [parse_eq, stated_print nonneg (isCarried_of_ofParts h) (fits_of_ofParts h)]
  exact ofParts_ofParts h nonneg

theorem parse_print_of_neg (negative : d.seconds.toRat < 0) :
    parse d.print = .error (.notDuration d.print) := by
  rw [parse_eq, stated, print, String.toList_ofList, hasWeeks_toChars, if_neg Bool.false_ne_true,
    components?_toChars_of_neg negative]
  rfl

/-- What is given for parts, or for a literal that states them. -/
inductive Given (parts d : Duration) : Prop
  | made (normalized : ofParts parts = .ok d)
  | read (literal : String) (states : stated literal = .ok parts) (denotes : parse literal = .ok d)

variable {parts : Duration}

theorem Given.ofParts_eq (given : Given parts d) : ofParts parts = .ok d := by
  cases given with
  | made normalized => exact normalized
  | read literal states denotes =>
    rw [parse_eq, states] at denotes
    exact denotes

/-- Every duration that a literal denotes is given for the parts that it states. -/
theorem exists_given_of_parse {literal : String} (denotes : parse literal = .ok d) :
    ∃ parts, stated literal = .ok parts ∧ Given parts d := by
  obtain ⟨parts, states, -⟩ := exists_of_bind_eq_ok (parse_eq literal ▸ denotes)
  exact ⟨parts, states, .read literal states denotes⟩

/-- **Normal form and round trip.** What a literal denotes is given for the parts that it states. A
duration that is given, for parts or for a literal that states them, is carried, and its seconds
fall below zero by three in the last place of the stated seconds at most. It is in normal form if
and only if no more minutes are carried than there are, as is so if the stated seconds have at most
28 digits. And it is in normal form if and only if it is read back as it is written; else its
canonical form is no literal. -/
theorem isNormal_iff_parse_print (d : Duration) :
    (∀ literal, parse literal = .ok d → ∃ parts, stated literal = .ok parts ∧ Given parts d) ∧
    ∀ parts, Given parts d →
      d.IsCarried ∧ -(3 / 10 ^ parts.seconds.scale) ≤ d.seconds.toRat ∧
        (d.IsNormal ↔ 60 * parts.carriedMinutes ≤ parts.seconds.toRat) ∧
        (parts.seconds.coefficient.natAbs < 10 ^ 28 → d.IsNormal) ∧
        (d.IsNormal ↔ parse d.print = .ok d) ∧
        (¬ d.IsNormal → parse d.print = .error (.notDuration d.print)) := by
  refine ⟨fun _ => exists_given_of_parse, fun parts given => ?_⟩
  have made := given.ofParts_eq
  have carried := isCarried_of_ofParts made
  have normal : d.IsNormal ↔ 0 ≤ d.seconds.toRat :=
    ⟨fun normal => normal.seconds_nonneg, fun nonneg => ⟨carried, nonneg⟩⟩
  have failed (negative : ¬ d.IsNormal) : parse d.print = .error (.notDuration d.print) := by
    rw [normal, not_le] at negative
    exact parse_print_of_neg negative
  refine ⟨carried, ?_, normal.trans (seconds_nonneg_iff made),
    fun digits => normal.2 (seconds_nonneg_of_digits made digits),
    ⟨fun is => parse_print made (normal.1 is), fun back => ?_⟩, failed⟩
  · obtain ⟨rest, -, left, -, rfl⟩ := exists_of_ofParts made
    exact left.neg_three_le
  · by_contra other
    rw [failed other] at back
    cases back

/-- Parts that are carried through all fields. -/
theorem isNormal_iff_parse_print_carried :
    ∃ d, Given ⟨true, 1, 13, 40, 25, 61, ⟨595, 1, by decide, by decide, .inr (by decide)⟩⟩ d ∧
      d.IsNormal ∧
      parse d.print = .ok d := by
  let parts : Duration := ⟨true, 1, 13, 40, 25, 61,
    ⟨595, 1, by decide, by decide, .inr (by decide)⟩⟩
  let d : Duration := ⟨true, 2, 2, 6, 2, 1, ⟨595, 1, by decide, by decide, .inr (by decide)⟩⟩
  have given : Given parts d := .made (eq_ok_of_toOption (by decide))
  obtain ⟨-, -, -, digits, back, -⟩ := (isNormal_iff_parse_print d).2 parts given
  have normal : d.IsNormal := digits (by decide)
  exact ⟨d, given, normal, back.1 normal⟩

/-- **Not every duration that is given is in normal form**: out of seconds that fall short of a
minute in the last place a minute is carried, the seconds that are left are negative, and what is
written is no literal. -/
theorem parse_print_almostMinute :
    ¬ (∀ literal d, parse literal = .ok d → d.IsNormal ∧ parse d.print = .ok d) ∧
      ∃ d, parse "PT59.999999999999999999999999999S" = .ok d ∧ ¬ d.IsNormal ∧
        d.print = "PT1M-0.000000000000000000000000001S" ∧
          parse d.print = .error (.notDuration d.print) := by
  let parts : Duration := ⟨false, 0, 0, 0, 0, 0, almostMinute⟩
  let d : Duration := ⟨false, 0, 0, 0, 0, 1, ⟨-1, 27, by decide, by decide, .inr (by decide)⟩⟩
  have negative : d.seconds.toRat < 0 :=
    not_le.1 fun nonneg => absurd (Decimal.coefficient_nonneg_iff.2 nonneg) (by decide)
  have below : almostMinute.toRat < 60 := by
    rw [Decimal.toRat, almostMinute]
    norm_num
  have carried : parts.IsCarried := ⟨by decide, by decide, below, by decide, by decide, by decide⟩
  have denotes : parse "PT59.999999999999999999999999999S" = .ok d := by
    have literal : parts.print = "PT59.999999999999999999999999999S" := by decide
    rw [← literal, parse_eq,
      stated_print (d := parts) almostMinute_nonneg carried ⟨by decide, by decide, by decide⟩]
    exact eq_ok_of_toOption (by decide)
  have other : ¬ d.IsNormal := fun normal => not_le.2 negative normal.seconds_nonneg
  exact ⟨fun all => other (all _ d denotes).1, d, denotes, other, by
    decide, parse_print_of_neg negative⟩

end Duration

end SchemaBinding
