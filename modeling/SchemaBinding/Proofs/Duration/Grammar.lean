import SchemaBinding.Proofs.Duration.Written
import SchemaBinding.Proofs.Value.Rounding
import SchemaBinding.Schema.Error

/-!
# The literals of durations

A literal states numbers: those of the components that it is made of, and zero for
the others (`IsLiteral`). It is read if its counts are not too large and its
seconds can be rounded to a decimal, and denotes what these parts give
(`parse_eq_ok_iff_isLiteral`). Digits of other scripts pass for digits until a
number is made of them (`count_eq_ok_iff`, `isUnsigned_or`), so they are in no
literal; but reading the seconds ends at the first digit that has no room, and
whatever digits stand behind it are not looked at (`parse?_of_endsUnread`). The
statement leaves out what denotes a duration for this reason only
(`HasUnreadDigit`). Rounding is why a literal may denote a duration of other
seconds than it states (`parse_roundedAway`).
-/

namespace SchemaBinding

namespace Duration

variable {ds front cs : List Char} {c : Components} {d parts : Duration} {literal : String}

/-! ## The grammar -/

/-- The numbers that a literal states. -/
structure Numbers where
  negative : Bool
  years : Nat
  months : Nat
  days : Nat
  hours : Nat
  minutes : Nat
  seconds : Rat

/-- The number of a component is that of its digits, which are ASCII, and zero if it is absent. -/
inductive Counts : Option (List Char) → Nat → Prop
  | absent : Counts none 0
  | digits {ds : List Char} (filled : ds ≠ []) (digits : ∀ c ∈ ds, c.isDigit = true) :
    Counts (some ds) (Text.valueOf ds)

/-- The number of the seconds is that of their digits with at most one point, and zero if they are
absent. -/
inductive CountsSeconds : Option (List Char) → Rat → Prop
  | absent : CountsSeconds none 0
  | digits {ds : List Char} {s : Rat} (number : Decimal.IsUnsigned ds s) : CountsSeconds (some ds) s

/-- The numbers of components, of which there is at least one. -/
structure Components.States (c : Components) (n : Numbers) : Prop where
  negative : c.negative = n.negative
  years : Counts c.years n.years
  months : Counts c.months n.months
  days : Counts c.days n.days
  hours : Counts c.hours n.hours
  minutes : Counts c.minutes n.minutes
  seconds : CountsSeconds c.seconds n.seconds
  filled : (c.years.isSome || c.months.isSome || c.days.isSome || c.hasTime) = true

/-- The literals of durations: an optional minus, `P`, the years, months and days, and `T` with the
hours, minutes and seconds if there are any. -/
def IsLiteral (cs : List Char) (n : Numbers) : Prop := ∃ c : Components, cs = c.toChars ∧ c.States n

/-- Parts keep numbers: counts that are not too large, and seconds as a relation tells. -/
structure Numbers.Kept (keeps : Rat → Decimal → Prop) (n : Numbers) (parts : Duration) : Prop where
  negative : n.negative = parts.negative
  years : n.years = parts.years ∧ n.years < countBound
  months : n.months = parts.months ∧ n.months < countBound
  days : n.days = parts.days ∧ n.days < countBound
  hours : n.hours = parts.hours ∧ n.hours < countBound
  minutes : n.minutes = parts.minutes ∧ n.minutes < countBound
  seconds : keeps n.seconds parts.seconds

/-- Parts have exactly the numbers. -/
def Numbers.IsExactly (n : Numbers) (parts : Duration) : Prop :=
  n.Kept (fun s d => d.toRat = s) parts

/-- Parts have the numbers, with the seconds rounded. -/
def Numbers.IsRounded (n : Numbers) (parts : Duration) : Prop := n.Kept Decimal.Rounds parts

/-- No count is too large, and neither are the seconds as a whole number. -/
structure Numbers.IsSmall (n : Numbers) : Prop where
  years : n.years < countBound
  months : n.months < countBound
  days : n.days < countBound
  hours : n.hours < countBound
  minutes : n.minutes < countBound
  seconds : Decimal.coefficientAt n.seconds 0 < coefficientBound

/-- Whether digits with a point go on, with one of another script, behind more digits after the
point than are kept. -/
inductive EndsUnread : List Char → List Char → Prop
  | intro {whole fraction rest : List Char} {digit : Char} (filled : whole ≠ [])
    (digits : ∀ d ∈ whole ++ fraction, d.isDigit = true)
    (other : isDigit digit = true ∧ digit.isDigit = false)
    (fits : Text.valueOf whole < coefficientBound)
    (full : maximalScale < fraction.length ∨ coefficientBound ≤ Text.valueOf (whole ++ fraction)) :
    EndsUnread (whole ++ '.' :: (fraction ++ digit :: rest)) (whole ++ '.' :: fraction)

/-- How components are read: as they are, or with their seconds only up to such a digit. -/
inductive Components.ReadsAs (c : Components) : Components → Prop
  | all : c.ReadsAs c
  | part {ds front : List Char} (seconds : c.seconds = some ds) (ends : EndsUnread ds front) :
    c.ReadsAs { c with seconds := some front }

/-- A literal but for such a digit in its seconds, which denotes a duration without what stands
behind the digits before it. -/
def HasUnreadDigit (cs : List Char) : Prop :=
  ∃ c : Components, c.IsStated ∧ cs = c.toChars ∧ ∃ ds front, c.seconds = some ds ∧
    EndsUnread ds front ∧ ∃ n parts, { c with seconds := some front }.States n ∧
      n.IsRounded parts ∧ parts.Fits parts.carriedMinutes

/-! ## Numbers of literals -/

theorem Counts.isRun {run : Option (List Char)} {n : Nat} (counts : Counts run n)
    (same : run = some ds) :
    IsRun ds := by
  cases counts with
  | absent => cases same
  | digits filled digits =>
    cases same
    exact isRun_of_isDigit filled digits

theorem Counts.unique {run : Option (List Char)} {n n' : Nat} (counts : Counts run n)
    (counts' : Counts run n') :
    n = n' := by
  cases counts with
  | absent => cases counts' with
    | absent => rfl
  | digits => cases counts' with
    | digits => rfl

theorem CountsSeconds.isPointedRun {run : Option (List Char)} {s : Rat}
    (counts : CountsSeconds run s) (same : run = some ds) : IsPointedRun ds := by
  cases counts with
  | absent => cases same
  | digits number =>
    cases same
    cases number with
    | whole filled digits => exact .whole (isRun_of_isDigit filled digits)
    | pointed filled digits more decimals =>
      exact .pointed (isRun_of_isDigit filled digits) (isRun_of_isDigit more decimals)

theorem CountsSeconds.nonneg {run : Option (List Char)} {s : Rat} (counts : CountsSeconds run s) :
    0 ≤ s := by
  cases counts with
  | absent => exact le_rfl
  | digits number => exact number.nonneg

theorem CountsSeconds.unique {run : Option (List Char)} {s s' : Rat} (counts : CountsSeconds run s)
    (counts' : CountsSeconds run s') : s = s' := by
  cases counts with
  | absent => cases counts' with
    | absent => rfl
  | digits number => cases counts' with
    | digits number' => exact number.unique number'

theorem Components.States.isStated {n : Numbers} (states : c.States n) : c.IsStated where
  years _ := states.years.isRun
  months _ := states.months.isRun
  days _ := states.days.isRun
  hours _ := states.hours.isRun
  minutes _ := states.minutes.isRun
  seconds _ := states.seconds.isPointedRun
  filled := states.filled

/-- **A literal states no other numbers.** -/
theorem IsLiteral.unique {n n' : Numbers} (states : IsLiteral cs n) (states' : IsLiteral cs n') :
    n = n' := by
  obtain ⟨c, rfl, numbers⟩ := states
  obtain ⟨c', same, numbers'⟩ := states'
  have read := components?_toChars numbers.isStated
  rw [same, components?_toChars numbers'.isStated] at read
  obtain rfl := Option.some.inj read
  cases n
  cases n'
  rw [Numbers.mk.injEq]
  exact ⟨numbers.negative.symm.trans numbers'.negative, numbers.years.unique numbers'.years,
    numbers.months.unique numbers'.months, numbers.days.unique numbers'.days,
    numbers.hours.unique numbers'.hours,
    numbers.minutes.unique numbers'.minutes, numbers.seconds.unique numbers'.seconds⟩

/-! ## Reading numbers -/

/-- **A count is read if and only if it is one of ASCII digits**, and not too large. -/
theorem count_eq_ok_iff {run : Option (List Char)} {n : Nat} :
    count run = .ok n ↔ Counts run n ∧ n < countBound := by
  cases run with
  | none =>
    rw [count, Except.ok.injEq]
    constructor
    · rintro rfl
      exact ⟨.absent, by decide⟩
    · rintro ⟨⟨⟩, -⟩
      rfl
  | some ds =>
    rw [count]
    constructor
    · intro read
      split at read
      · next m known =>
        obtain ⟨filled, digits, rfl⟩ := Text.natural?_eq_some_iff.1 known
        unfold bounded at read
        split_ifs at read with small
        obtain rfl := Except.ok.inj read
        exact ⟨.digits filled digits, small⟩
      · cases read
    · rintro ⟨counts, small⟩
      cases counts with
      | digits filled digits =>
        rw [Text.natural?_eq_some_iff.2 ⟨filled, digits, rfl⟩]
        exact if_pos small

/-- A run of digits has ASCII digits only, or a first one that is not. -/
theorem IsRun.cases (run : IsRun ds) : (∀ c ∈ ds, c.isDigit = true) ∨
    ∃ before c after, ds = before ++ c :: after ∧ (∀ d ∈ before, d.isDigit = true) ∧
      c.isDigit = false ∧
      isDigit c = true := by
  cases found : ds.find? fun c => !c.isDigit with
  | none =>
    refine .inl fun c mem => ?_
    have digit := List.find?_eq_none.1 found c mem
    rwa [Bool.not_eq_true', Bool.not_eq_false] at digit
  | some c =>
    obtain ⟨other, before, after, rfl, digits⟩ := List.find?_eq_some_iff_append.1 found
    rw [Bool.not_eq_true'] at other
    refine .inr ⟨before, c, after, rfl, fun d mem => ?_, other,
      run.digits c (List.mem_append_right _ (List.mem_cons_self ..))⟩
    have digit := digits d mem
    rwa [Bool.not_not] at digit

theorem ne_of_isDigit {c other : Char} (digit : isDigit c = true) (ascii : other.toNat < 128)
    (letter : other.isDigit = false) : c ≠ other := by
  rintro rfl
  rw [isDigit_eq ascii, letter] at digit
  cases digit

theorem parse?_of_isPointedRun (seconds : IsPointedRun ds) :
    Decimal.parse? ds = (Decimal.readDigits 0 0 false false ds).bind fun (n, scale) =>
      Decimal.ofParts? n scale := by
  have other {c e : Char} (mem : c ∈ ds) (ascii : e.toNat < 128) (letter : e.isDigit = false)
    (point : '.' ≠ e) :
      c ≠ e := by
    rcases seconds.isDigit_or_eq mem with digit | rfl
    · exact ne_of_isDigit digit ascii letter
    · exact point
  refine Decimal.parse?_eq_bind (fun c mem => ?_) ?_
  · rw [Decimal.isExponentMark, Bool.or_eq_false_iff, beq_eq_false_iff_ne, beq_eq_false_iff_ne]
    exact ⟨other mem (by decide) (by decide) (by decide),
      other mem (by decide) (by decide) (by decide)⟩
  · constructor
    · exact fun minus => other (List.mem_of_head? minus) (by decide) (by decide) (by decide) rfl
    · exact fun plus => other (List.mem_of_head? plus) (by decide) (by decide) (by decide) rfl

/-- **Seconds with other digits are not read**, unless reading ends before it comes to them. -/
theorem isUnsigned_or (seconds : IsPointedRun ds) :
    (∃ s, Decimal.IsUnsigned ds s) ∨ Decimal.parse? ds = none ∨ ∃ front, EndsUnread ds front := by
  have point {c : Char} (digit : isDigit c = true) : c ≠ '.' :=
    ne_of_isDigit digit (by decide) (by decide)
  have underscore {c : Char} (digit : isDigit c = true) : c ≠ '_' :=
    ne_of_isDigit digit (by decide) (by decide)
  rw [parse?_of_isPointedRun seconds]
  cases seconds with
  | whole run =>
    rcases run.cases with ascii | ⟨before, c, after, rfl, digits, other, digit⟩
    · exact .inl ⟨_, .whole run.filled ascii⟩
    · rw [Decimal.readDigits_whole_cons_eq_none digits other (point digit) (underscore digit)]
      exact .inr (.inl rfl)
  | @pointed ds fs run fraction =>
    rcases run.cases with ascii | ⟨before, c, after, rfl, digits, other, digit⟩
    -- Behind the point the first other digit is met only if all digits before it have room.
    · rcases fraction.cases with decimals | ⟨before, c, after, rfl, digits, other, digit⟩
      · exact .inl ⟨_, .pointed run.filled ascii fraction.filled decimals⟩
      · refine .inr ?_
        rcases Nat.lt_or_ge (Text.valueOf ds) coefficientBound with fits | large
        · by_cases room :
            before.length ≤ maximalScale ∧ Text.valueOf (ds ++ before) < coefficientBound
          · have joined : Nat.ofDigitChars 10 before (Text.valueOf ds) =
                Text.valueOf (ds ++ before) := (Nat.ofDigitChars_append 0).symm
            rw [Decimal.readDigits_point run.filled ascii fits,
              Decimal.readDigits_fraction digits (joined.trans_lt room.2)
                (by rw [Nat.zero_add]; exact room.1),
              Decimal.readDigits_cons_eq_none other (point digit) (underscore digit)]
            exact .inl rfl
          · have joined : ∀ d ∈ ds ++ before, d.isDigit = true := fun d mem =>
              (List.mem_append.1 mem).elim (ascii d) (digits d)
            exact .inr ⟨_, .intro run.filled joined ⟨digit, other⟩ fits (by omega)⟩
        · rw [Decimal.readDigits_whole_eq_none ascii (show 0 < coefficientBound by decide) large]
          exact .inl rfl
    · rw [List.append_assoc, List.cons_append,
        Decimal.readDigits_whole_cons_eq_none digits other (point digit) (underscore digit)]
      exact .inr (.inl rfl)

/-- The digits before a digit that has no room are a number. -/
theorem EndsUnread.exists_isUnsigned (ends : EndsUnread ds front) :
    ∃ s, Decimal.IsUnsigned front s := by
  obtain ⟨filled, digits, -, fits, full⟩ := ends
  obtain ⟨whole, decimals⟩ := List.forall_mem_append.1 digits
  refine ⟨_, .pointed filled whole ?_ decimals⟩
  rintro rfl
  rw [List.length_nil, List.append_nil] at full
  omega

/-- **Seconds that end unread** are read as the digits before. -/
theorem parse?_of_endsUnread (seconds : IsPointedRun ds) (ends : EndsUnread ds front) :
    Decimal.parse? ds = Decimal.parse? front := by
  obtain ⟨s, number⟩ := ends.exists_isUnsigned
  rw [parse?_of_isPointedRun seconds, Decimal.parse?_of_isUnsigned number]
  obtain ⟨filled, digits, -, fits, full⟩ := ends
  obtain ⟨whole, decimals⟩ := List.forall_mem_append.1 digits
  rw [Decimal.readDigits_point filled whole fits, Decimal.readDigits_point filled whole fits,
    Decimal.readDigits_append_of_full decimals fits full]

theorem rounds_zero : Decimal.Rounds 0 Decimal.zero := by
  have own := Decimal.rounds_toRat Decimal.zero_toRat.ge
  rwa [Decimal.zero_toRat] at own

/-- **The seconds that are read** are those of the components as they are read, rounded. -/
theorem readSeconds_eq_ok_iff {s : Decimal}
    (stated : ∀ ds, c.seconds = some ds → IsPointedRun ds) :
    readSeconds literal c.seconds = .ok s ↔
      ∃ c', c.ReadsAs c' ∧ ∃ r, CountsSeconds c'.seconds r ∧ Decimal.Rounds r s := by
  cases known : c.seconds with
  | none =>
    rw [readSeconds, Except.ok.injEq]
    constructor
    · rintro rfl
      exact ⟨c, .all, 0, known ▸ .absent, rounds_zero⟩
    · rintro ⟨c', reads, r, counts, rounds⟩
      cases reads with
      | all =>
        rw [known] at counts
        cases counts
        exact rounds_zero.unique rounds
      | part seconds ends => cases known.symm.trans seconds
  | some ds =>
    have run := stated ds known
    have parsed : readSeconds literal (some ds) = .ok s ↔ Decimal.parse? ds = some s := by
      rw [readSeconds]
      cases Decimal.parse? ds with
      | none => exact iff_of_false (fun read => by cases read) (Option.some_ne_none s).symm
      | some d => rw [Except.ok.injEq, Option.some.injEq]
    rw [parsed]
    constructor
    · intro read
      rcases isUnsigned_or run with ⟨r, number⟩ | none | ⟨front, ends⟩
      · exact ⟨c, .all, r, known ▸ .digits number,
          (Decimal.parse?_eq_some_iff_rounds number).1 read⟩
      · cases none.symm.trans read
      · obtain ⟨r, number⟩ := ends.exists_isUnsigned
        rw [parse?_of_endsUnread run ends] at read
        exact ⟨_, .part known ends, r, .digits number,
          (Decimal.parse?_eq_some_iff_rounds number).1 read⟩
    · rintro ⟨c', reads, r, counts, rounds⟩
      cases reads with
      | all =>
        rw [known] at counts
        cases counts with
        | digits number => exact (Decimal.parse?_eq_some_iff_rounds number).2 rounds
      | part seconds ends =>
        obtain rfl := Option.some.inj (known.symm.trans seconds)
        rw [parse?_of_endsUnread run ends]
        cases counts with
        | digits number => exact (Decimal.parse?_eq_some_iff_rounds number).2 rounds

/-! ## Reading literals -/

theorem Components.parts_eq_ok_iff : c.parts literal = .ok parts ↔
    c.negative = parts.negative ∧ readSeconds literal c.seconds = .ok parts.seconds ∧
      count c.years = .ok parts.years ∧ count c.months = .ok parts.months ∧
        count c.days = .ok parts.days ∧
      count c.hours = .ok parts.hours ∧ count c.minutes = .ok parts.minutes := by
  constructor
  · intro made
    obtain ⟨seconds, second, made⟩ := exists_of_bind_eq_ok made
    obtain ⟨years, year, made⟩ := exists_of_bind_eq_ok made
    obtain ⟨months, month, made⟩ := exists_of_bind_eq_ok made
    obtain ⟨days, day, made⟩ := exists_of_bind_eq_ok made
    obtain ⟨hours, hour, made⟩ := exists_of_bind_eq_ok made
    obtain ⟨minutes, minute, made⟩ := exists_of_bind_eq_ok made
    obtain rfl := Except.ok.inj made
    exact ⟨rfl, second, year, month, day, hour, minute⟩
  · rintro ⟨sign, second, year, month, day, hour, minute⟩
    rw [Components.parts, second, year, month, day, hour, minute, sign]
    rfl

/-- Components are read with their seconds at most shortened. -/
theorem Components.ReadsAs.eq {c' : Components} (reads : c.ReadsAs c') :
    c' = { c with seconds := c'.seconds } ∧ c'.seconds.isSome = c.seconds.isSome := by
  cases reads with
  | all => exact ⟨rfl, rfl⟩
  | part seconds ends => exact ⟨rfl, by rw [seconds]; rfl⟩

/-- **The parts that components state** are the numbers of what is read of them, rounded. -/
theorem Components.parts_eq_ok_iff_isRounded (stated : c.IsStated) :
    c.parts literal = .ok parts ↔
      ∃ c', c.ReadsAs c' ∧ ∃ n, c'.States n ∧ n.IsRounded parts := by
  rw [Components.parts_eq_ok_iff, readSeconds_eq_ok_iff stated.seconds]
  simp only [count_eq_ok_iff]
  constructor
  · rintro ⟨sign, ⟨c', reads, seconds, second, rounds⟩, years, months, days, hours, minutes⟩
    obtain ⟨same, some⟩ := reads.eq
    have filled : (c'.years.isSome || c'.months.isSome || c'.days.isSome || c'.hasTime) = true := by
      rw [same, hasTime, some]
      exact stated.filled
    refine ⟨c', reads, ⟨c.negative, parts.years, parts.months, parts.days, parts.hours,
      parts.minutes, seconds⟩, ?_, ?_⟩
    · rw [same] at second filled ⊢
      exact ⟨rfl, years.1, months.1, days.1, hours.1, minutes.1, second, filled⟩
    · exact ⟨sign, ⟨rfl, years.2⟩, ⟨rfl, months.2⟩, ⟨rfl, days.2⟩, ⟨rfl, hours.2⟩,
        ⟨rfl, minutes.2⟩, rounds⟩
  · rintro ⟨c', reads, n, states, kept⟩
    have second := states.seconds
    rw [reads.eq.1] at states
    refine ⟨states.negative.trans kept.negative, ⟨c', reads, n.seconds, second, kept.seconds⟩, ?_⟩
    rw [← kept.years.1, ← kept.months.1, ← kept.days.1, ← kept.hours.1, ← kept.minutes.1]
    exact ⟨⟨states.years, kept.years.2⟩, ⟨states.months, kept.months.2⟩,
      ⟨states.days, kept.days.2⟩, ⟨states.hours, kept.hours.2⟩, states.minutes, kept.minutes.2⟩

/-- There are no weeks in a literal. -/
theorem Components.not_mem_chars (stated : c.IsStated) : 'W' ∉ c.chars := by
  intro mem
  rcases Components.mem_chars stated mem with digit | letter
  · exact ne_of_isDigit digit (by decide) (by decide) rfl
  · exact absurd letter (by decide)

theorem Components.not_mem_toChars (stated : c.IsStated) : 'W' ∉ c.toChars := by
  rw [Components.toChars, sign, List.mem_append, List.mem_cons, not_or, not_or]
  refine ⟨?_, by decide, Components.not_mem_chars stated⟩
  split <;> decide

theorem stated_eq_ok_iff : stated literal = .ok parts ↔
    ∃ c : Components, c.IsStated ∧ literal.toList = c.toChars ∧ c.parts literal = .ok parts := by
  constructor
  · intro made
    unfold stated at made
    split_ifs at made
    split at made
    · next c read =>
      obtain ⟨runs, same⟩ := components?_eq_some_iff.1 read
      exact ⟨c, runs, same, made⟩
    · cases made
  · rintro ⟨c, runs, same, made⟩
    have weeks : hasWeeks c.toChars = false :=
      hasWeeks_eq_false (Components.not_mem_chars runs) c.negative
    rw [stated, same, weeks, if_neg Bool.false_ne_true, components?_toChars runs]
    exact made

/-- The parts that a literal states are its numbers, rounded. -/
theorem stated_of_isLiteral {n : Numbers} (states : IsLiteral literal.toList n)
    (kept : n.IsRounded parts) : stated literal = .ok parts := by
  obtain ⟨c, same, numbers⟩ := states
  have runs := numbers.isStated
  exact stated_eq_ok_iff.2 ⟨c, runs, same,
    (Components.parts_eq_ok_iff_isRounded runs).2 ⟨c, .all, n, numbers, kept⟩⟩

theorem parse_eq_ok_iff : parse literal = .ok d ↔
    ∃ parts, stated literal = .ok parts ∧ ofParts parts = .ok d := by
  rw [parse_eq]
  constructor
  · exact exists_of_bind_eq_ok
  · rintro ⟨parts, states, made⟩
    rw [states]
    exact made

/-! ## What is kept of numbers -/

/-- Numbers can be kept if and only if none is too large. -/
theorem Numbers.exists_isRounded_iff {n : Numbers} (nonneg : 0 ≤ n.seconds) :
    (∃ parts, n.IsRounded parts) ↔ n.IsSmall := by
  constructor
  · rintro ⟨parts, kept⟩
    exact ⟨kept.years.2, kept.months.2, kept.days.2, kept.hours.2, kept.minutes.2,
      (Decimal.exists_rounds_iff nonneg).1 ⟨_, kept.seconds⟩⟩
  · intro small
    obtain ⟨s, rounds⟩ := (Decimal.exists_rounds_iff nonneg).2 small.seconds
    exact ⟨⟨n.negative, n.years, n.months, n.days, n.hours, n.minutes, s⟩, rfl, ⟨rfl, small.years⟩,
      ⟨rfl, small.months⟩, ⟨rfl, small.days⟩, ⟨rfl, small.hours⟩, ⟨rfl, small.minutes⟩, rounds⟩

theorem Numbers.IsRounded.unique {n : Numbers} {parts' : Duration} (kept : n.IsRounded parts)
    (kept' : n.IsRounded parts') : parts = parts' := by
  cases parts
  cases parts'
  rw [Duration.mk.injEq]
  exact ⟨kept.negative.symm.trans kept'.negative, kept.years.1.symm.trans kept'.years.1,
    kept.months.1.symm.trans kept'.months.1, kept.days.1.symm.trans kept'.days.1,
    kept.hours.1.symm.trans kept'.hours.1, kept.minutes.1.symm.trans kept'.minutes.1,
    kept.seconds.unique kept'.seconds⟩

/-- Seconds that a decimal has are not rounded. -/
theorem Numbers.IsExactly.isRounded {n : Numbers} (nonneg : 0 ≤ n.seconds)
    (exactly : n.IsExactly parts) :
    n.IsRounded parts := by
  have seconds : parts.seconds.toRat = n.seconds := exactly.seconds
  have rounds := Decimal.rounds_toRat (d := parts.seconds) (seconds ▸ nonneg)
  rw [seconds] at rounds
  exact ⟨exactly.negative, exactly.years, exactly.months, exactly.days, exactly.hours,
    exactly.minutes, rounds⟩

/-- Rounded seconds are not negative. -/
theorem Numbers.IsRounded.nonneg {n : Numbers} (kept : n.IsRounded parts) :
    0 ≤ parts.seconds.toRat := by
  obtain ⟨scale, -, -, -, same⟩ := kept.seconds
  rw [same]
  positivity

/-- **What denotes a duration** is a literal, unless a digit in it is unread. -/
theorem parse_eq_ok_iff_exists (read : ¬ HasUnreadDigit literal.toList) :
    parse literal = .ok d ↔
      ∃ n parts, IsLiteral literal.toList n ∧ n.IsRounded parts ∧ ofParts parts = .ok d := by
  rw [parse_eq_ok_iff]
  constructor
  · rintro ⟨parts, made, total⟩
    obtain ⟨c, runs, same, made⟩ := stated_eq_ok_iff.1 made
    obtain ⟨c', reads, n, states, kept⟩ := (Components.parts_eq_ok_iff_isRounded runs).1 made
    cases reads with
    | all => exact ⟨n, parts, ⟨c, same, states⟩, kept, total⟩
    | part seconds ends =>
      have fits := (exists_ofParts_eq_ok_iff kept.nonneg).1 ⟨d, total⟩
      exact absurd ⟨c, runs, same, _, _, seconds, ends, n, parts, states, kept, fits⟩ read
  · rintro ⟨n, parts, states, kept, total⟩
    exact ⟨parts, stated_of_isLiteral states kept, total⟩

/-- A literal of ASCII characters has no unread digit. -/
theorem not_hasUnreadDigit (ascii : cs.all (·.toNat < 128) = true) : ¬ HasUnreadDigit cs := by
  rintro ⟨c, -, rfl, ds, front, seconds, ends, -⟩
  cases ends with
  | @intro whole fraction rest digit _ _ unread =>
    have mem : digit ∈ c.toChars := by
      simp [Components.toChars, Components.chars, Components.timeChars, Components.hasTime, seconds,
        part]
    have ascii := decide_eq_true_iff.1 (List.all_eq_true.1 ascii digit mem)
    rw [isDigit_eq ascii, unread.2] at unread
    cases unread.1

/-- **The literals of durations.** Let no digit of another script stand behind more digits of the
seconds than are kept, where what is before it denotes a duration. A literal denotes a duration if
and only if it states numbers whose parts, with the seconds rounded, give this duration. It states
one series of numbers at most; if it states any, it denotes a duration if and only if there are such
parts and none of their totals is too large. There are such parts if and only if no count is too
large and neither are the seconds as a whole number, and they have the numbers exactly if a decimal
has the seconds. A text with the designator of weeks is an error. -/
theorem parse_eq_ok_iff_isLiteral {literal : String} (read : ¬ HasUnreadDigit literal.toList) :
    (∀ d, parse literal = .ok d ↔
        ∃ n parts, IsLiteral literal.toList n ∧ n.IsRounded parts ∧ ofParts parts = .ok d) ∧
      (∀ n, IsLiteral literal.toList n →
        (∀ n', IsLiteral literal.toList n' → n' = n) ∧
        ((∃ d, parse literal = .ok d) ↔
          ∃ parts, n.IsRounded parts ∧ parts.Fits parts.carriedMinutes) ∧
        ((∃ parts, n.IsRounded parts) ↔ n.IsSmall) ∧
        ∀ parts, n.IsExactly parts → ∀ parts', n.IsRounded parts' ↔ parts' = parts) ∧
      ('W' ∈ literal.toList → ∃ violation, parse literal = .error violation) := by
  have denotes (d : Duration) := parse_eq_ok_iff_exists (d := d) read
  refine ⟨denotes, fun n states => ?_, fun weeks => ?_⟩
  · obtain ⟨c, -, components⟩ := id states
    have nonneg := components.seconds.nonneg
    refine ⟨fun n' states' => states'.unique states, ?_, Numbers.exists_isRounded_iff nonneg, ?_⟩
    · constructor
      · rintro ⟨d, known⟩
        obtain ⟨n', parts, states', kept, made⟩ := (denotes d).1 known
        obtain rfl := states'.unique states
        exact ⟨parts, kept, (exists_ofParts_eq_ok_iff kept.nonneg).1 ⟨d, made⟩⟩
      · rintro ⟨parts, kept, fits⟩
        obtain ⟨d, made⟩ := (exists_ofParts_eq_ok_iff kept.nonneg).2 fits
        exact ⟨d, (denotes d).2 ⟨n, parts, states, kept, made⟩⟩
    · intro parts exactly parts'
      have kept := exactly.isRounded nonneg
      exact ⟨fun kept' => kept'.unique kept, fun same => same ▸ kept⟩
  · cases known : parse literal with
    | error violation => exact ⟨violation, rfl⟩
    | ok d =>
      obtain ⟨n, parts, ⟨c, same, states⟩, -⟩ := (denotes d).1 known
      exact absurd (same ▸ weeks) (Components.not_mem_toChars states.isStated)

/-- A number just below sixty, with one digit more than is kept. -/
theorem rounds_sixty : Decimal.Rounds (59 + 99999999999999999999999999999 / 10 ^ 29)
    ⟨60, 0, by decide, by decide, .inl rfl⟩ := by
  have coefficient : Decimal.coefficientAt (59 + 99999999999999999999999999999 / 10 ^ 29) 27 =
    60 * 10 ^ 27 := by
    rw [Decimal.coefficientAt, Nat.floor_eq_iff (by norm_num)]
    norm_num
  refine ⟨27, by decide, coefficient.trans_lt (by decide), fun finer fine less => ?_, ?_⟩
  · obtain rfl : finer = 28 := by
      have : maximalScale = 28 := rfl
      omega
    refine Nat.le_floor ?_
    norm_num [coefficientBound]
  · rw [coefficient, Decimal.toRat]
    norm_num

/-- Months before the time, minutes in it, and seconds that are rounded up to a minute. -/
theorem parse_eq_ok_iff_isLiteral_almostMinute :
    parse "-P1M2DT3M59.99999999999999999999999999999S" =
      .ok ⟨true, 0, 1, 2, 0, 4, Decimal.zero⟩ := by
  let c : Components := ⟨true, none, some ['1'], some ['2'], none, some ['3'],
    some "59.99999999999999999999999999999".toList⟩
  let n : Numbers := ⟨true, 0, 1, 2, 0, 3, 59 + 99999999999999999999999999999 / 10 ^ 29⟩
  let parts : Duration := ⟨true, 0, 1, 2, 0, 3, ⟨60, 0, by decide, by decide, .inl rfl⟩⟩
  have seconds : CountsSeconds c.seconds n.seconds := by
    have number := @Decimal.IsUnsigned.pointed ['5', '9']
      "99999999999999999999999999999".toList (by decide)
      (List.all_eq_true.1 rfl) (by decide) (List.all_eq_true.1 rfl)
    rw [show Text.valueOf ['5', '9'] = 59 from rfl,
      show Text.valueOf "99999999999999999999999999999".toList = 99999999999999999999999999999
        by decide] at number
    exact .digits (by exact_mod_cast number)
  have states : IsLiteral "-P1M2DT3M59.99999999999999999999999999999S".toList n :=
    ⟨c, by decide, rfl, .absent, .digits nofun (List.all_eq_true.1 rfl),
      .digits nofun (List.all_eq_true.1 rfl), .absent,
      .digits nofun (List.all_eq_true.1 rfl), seconds, rfl⟩
  have kept : n.IsRounded parts :=
    ⟨rfl, ⟨rfl, by decide⟩, ⟨rfl, by decide⟩, ⟨rfl, by decide⟩, ⟨rfl, by decide⟩, ⟨rfl, by decide⟩,
      rounds_sixty⟩
  exact ((parse_eq_ok_iff_isLiteral (not_hasUnreadDigit (by decide))).1 _).2
    ⟨n, parts, states, kept, eq_ok_of_toOption (by decide)⟩

/-- **Not every literal that is read states seconds of a decimal**: of 29 digits after the point the
last is rounded, to nothing if it is the only one that is not zero and below five. -/
theorem parse_roundedAway :
    ¬ (∀ literal d, parse literal = .ok d ↔
        ∃ n parts, IsLiteral literal.toList n ∧ n.IsExactly parts ∧ ofParts parts = .ok d) ∧
      parse "PT0.00000000000000000000000000001S" = .ok ⟨false, 0, 0, 0, 0, 0, Decimal.zero⟩ ∧
      ∃ n, IsLiteral "PT0.00000000000000000000000000001S".toList n ∧
      ∀ parts, ¬ n.IsExactly parts := by
  let c : Components := ⟨false, none, none, none, none, none,
    some "0.00000000000000000000000000001".toList⟩
  let n : Numbers := ⟨false, 0, 0, 0, 0, 0, 1 / 10 ^ 29⟩
  let parts : Duration := ⟨false, 0, 0, 0, 0, 0, Decimal.zero⟩
  have seconds : CountsSeconds c.seconds n.seconds := by
    have number := @Decimal.IsUnsigned.pointed ['0']
      "00000000000000000000000000001".toList (by decide)
      (List.all_eq_true.1 rfl) (by decide) (List.all_eq_true.1 rfl)
    rw [show Text.valueOf ['0'] = 0 from rfl,
      show Text.valueOf "00000000000000000000000000001".toList = 1 by decide] at number
    refine .digits ?_
    rw [Nat.cast_zero, zero_add, Nat.cast_one] at number
    exact number
  have states : IsLiteral "PT0.00000000000000000000000000001S".toList n :=
    ⟨c, by decide, rfl, .absent, .absent, .absent, .absent, .absent, seconds, rfl⟩
  have rounds : Decimal.Rounds n.seconds Decimal.zero := by
    have coefficient : Decimal.coefficientAt (1 / 10 ^ 29) 28 = 0 := by
      rw [Decimal.coefficientAt, Nat.floor_eq_iff (by norm_num)]
      norm_num
    refine ⟨28, le_rfl, coefficient.trans_lt (by decide), fun finer fine less =>
      absurd fine (Nat.not_le.2 less), ?_⟩
    rw [Decimal.zero_toRat, coefficient, Nat.cast_zero, zero_div]
  have kept : n.IsRounded parts :=
    ⟨rfl, ⟨rfl, by decide⟩, ⟨rfl, by decide⟩, ⟨rfl, by decide⟩, ⟨rfl, by decide⟩,
      ⟨rfl, by decide⟩, rounds⟩
  have other (parts : Duration) : ¬ n.IsExactly parts := by
    intro exactly
    have same : parts.seconds = Decimal.zero :=
      (exactly.isRounded seconds.nonneg).seconds.unique rounds
    have number : parts.seconds.toRat = 1 / 10 ^ 29 := exactly.seconds
    rw [same, Decimal.zero_toRat] at number
    norm_num at number
  have denotes : parse "PT0.00000000000000000000000000001S" = .ok parts :=
    parse_eq_ok_iff.2 ⟨parts, stated_of_isLiteral states kept, eq_ok_of_toOption (by decide)⟩
  refine ⟨fun all => ?_, denotes, n, states, other⟩
  obtain ⟨n', parts', states', exactly, -⟩ := (all _ _).1 denotes
  exact other parts' (states'.unique states ▸ exactly)

end Duration

end SchemaBinding
