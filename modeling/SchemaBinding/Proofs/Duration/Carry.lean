import SchemaBinding.Proofs.Value.Number
import SchemaBinding.Proofs.Value.Quotient
import SchemaBinding.Value.Duration

/-!
# Carrying keeps the length of a duration

Normalizing a duration takes the whole minutes out of its seconds and carries
them, and everything above them, into the next field; the total of the days is
then split anew. With the minutes that are carried as a parameter this is plain
arithmetic on counts (`normalize_eq`), and neither carrying nor splitting changes
the length (`length_spread`). So a duration that is given for parts has their
length, even where the division of the seconds has been rounded up, and none is
given only if a total is too large (`length_ofParts`).
-/

namespace SchemaBinding

namespace Duration

/-! ## Totals -/

/-- The minutes of a duration with `carry` that come from its seconds. -/
def totalMinutes (d : Duration) (carry : Nat) : Nat := d.minutes + carry

/-- The hours with those that come from the minutes. -/
def totalHours (d : Duration) (carry : Nat) : Nat := d.hours + d.totalMinutes carry / 60

/-- The days with those that come from the hours, and those of the months and the years. -/
def totalDays (d : Duration) (carry : Nat) : Nat :=
  d.days + d.totalHours carry / 24 + d.months * daysPerMonth + d.years * daysPerYear

/-- No total is too large to be counted. -/
structure Fits (d : Duration) (carry : Nat) : Prop where
  minutes : d.totalMinutes carry < countBound
  hours : d.totalHours carry < countBound
  days : d.totalDays carry < countBound

/-- Whatever is too large makes a total too large. -/
theorem not_fits_iff {d : Duration} {carry : Nat} :
    ¬ d.Fits carry ↔ countBound ≤ carry ∨ countBound ≤ d.totalMinutes carry ∨
      countBound ≤ d.totalHours carry ∨
      countBound ≤ d.totalDays carry := by
  have minutes : carry ≤ d.totalMinutes carry := Nat.le_add_left ..
  constructor
  · intro large
    by_contra none
    simp only [not_or, Nat.not_le] at none
    exact large ⟨none.2.1, none.2.2.1, none.2.2.2⟩
  · rintro large ⟨minutes, hours, days⟩
    omega

/-- The totals spread over the fields, with what is left of the seconds. -/
def spread (d : Duration) (carry : Nat) (rest : Decimal) : Duration where
  negative := d.negative
  years := d.totalDays carry / daysPerYear
  months := d.totalDays carry % daysPerYear / daysPerMonth
  days := d.totalDays carry % daysPerYear % daysPerMonth
  hours := d.totalHours carry % 24
  minutes := d.totalMinutes carry % 60
  seconds := rest

/-- A duration without its sign if it is empty. -/
def withSign (d : Duration) : Duration := { d with negative := d.negative && !d.isZero }

theorem negative_withSign_iff {d : Duration} :
    d.withSign.negative = true ↔ d.negative = true ∧ ¬ d.isZero = true := by
  rw [withSign, Bool.and_eq_true, Bool.not_eq_true', Bool.not_eq_true]

theorem bounded_bind {α : Type} (n : Nat) (f : Nat → Except Violation α) :
    (bounded n >>= f) = if n < countBound then f n else .error .durationTooLarge := by
  unfold bounded
  split <;> rfl

/-- **The normal form**: the totals are spread, unless one is too large. -/
theorem normalize_eq {d : Duration} {carry : Nat} {rest : Decimal}
    (carried : d.seconds.wholeQuotient 60 = carry)
    (left : d.seconds.subWhole? (carry * 60) = some rest) :
    (d.Fits carry → d.normalize = .ok (d.spread carry rest).withSign) ∧
      (¬ d.Fits carry → d.normalize = .error .durationTooLarge) := by
  simp only [normalize, carried, left, pure_bind, bounded_bind]
  constructor
  · rintro ⟨minutes, hours, days⟩
    rw [totalDays, totalHours, totalMinutes] at days
    rw [totalHours, totalMinutes] at hours
    rw [totalMinutes] at minutes
    rw [if_pos (by omega), if_pos minutes, if_pos hours, if_pos (by omega), if_pos (by omega),
      if_pos (by omega), if_pos (by omega), if_pos days]
    rfl
  · intro large
    split_ifs with carried minutes hours before months both years days
    · exact absurd ⟨minutes, hours, days⟩ large
    all_goals rfl

/-! ## Lengths -/

/-- The whole minutes in a duration, with years of 365 and months of 30 days. -/
def wholeMinutes (d : Duration) : Nat :=
  ((365 * d.years + 30 * d.months + d.days) * 24 + d.hours) * 60 + d.minutes

/-- The number of seconds in a duration, whatever its sign. -/
def length (d : Duration) : Rat := d.wholeMinutes * 60 + d.seconds.toRat

/-- Spreading loses no minute. -/
theorem wholeMinutes_spread (d : Duration) (carry : Nat) (rest : Decimal) :
    (d.spread carry rest).wholeMinutes = d.wholeMinutes + carry := by
  simp only [wholeMinutes, spread, totalDays, totalHours, totalMinutes, daysPerYear, daysPerMonth]
  omega

/-- **Carrying keeps the length.** -/
theorem length_spread {d : Duration} {carry : Nat} {rest : Decimal}
    (left : rest.toRat + 60 * carry = d.seconds.toRat) :
    (d.spread carry rest).length = d.length := by
  rw [length, length, wholeMinutes_spread, ← left, show (d.spread carry rest).seconds =
    rest from rfl]
  push_cast
  ring

/-- Unless its seconds are negative, a duration is empty if it has no length. -/
theorem isZero_iff {d : Duration} (nonneg : 0 ≤ d.seconds.toRat) :
    d.isZero = true ↔ d.length = 0 := by
  simp only [isZero, Bool.and_eq_true, beq_iff_eq, Decimal.isZero_iff]
  constructor
  · rintro ⟨⟨⟨⟨⟨years, months⟩, days⟩, hours⟩, minutes⟩, seconds⟩
    rw [length, wholeMinutes, years, months, days, hours, minutes, seconds]
    norm_num
  · intro empty
    rw [length] at empty
    have whole : (0 : Rat) ≤ d.wholeMinutes := Nat.cast_nonneg _
    have minutes : d.wholeMinutes = 0 := by
      have : (d.wholeMinutes : Rat) = 0 := by linarith
      exact_mod_cast this
    have seconds : d.seconds.toRat = 0 := by linarith
    rw [wholeMinutes] at minutes
    exact ⟨⟨⟨⟨⟨by omega, by omega⟩, by omega⟩, by omega⟩, by omega⟩, seconds⟩

/-! ## Durations with given parts -/

/-- The minutes that are carried out of the seconds. -/
def carriedMinutes (d : Duration) : Nat := d.seconds.wholeQuotient 60

/-- A duration is empty after carrying if it was so before. -/
theorem isZero_spread_iff {d : Duration} {rest : Decimal} (nonneg : 0 ≤ d.seconds.toRat)
    (left : d.seconds.IsRest rest) :
    (d.spread d.carriedMinutes rest).isZero = true ↔ d.length = 0 := by
  have same : (d.spread d.carriedMinutes rest).length = d.length := length_spread left.toRat_add
  constructor
  · intro empty
    have seconds : rest.toRat = 0 := Decimal.isZero_iff.1 (Bool.and_eq_true_iff.1 empty).2
    rw [← same]
    exact (isZero_iff (d := d.spread d.carriedMinutes rest) seconds.ge).1 empty
  · intro empty
    have seconds := (Bool.and_eq_true_iff.1 ((isZero_iff nonneg).2 empty)).2
    have remains : 0 ≤ rest.toRat := left.nonneg_of_digits (by rw [beq_iff_eq.1 seconds]; decide)
    exact (isZero_iff (d := d.spread d.carriedMinutes rest) remains).2 (same.trans empty)

/-- **Parts without negative seconds** give their normal form, unless a total is too large. -/
theorem ofParts_eq {parts : Duration} {rest : Decimal} (nonneg : 0 ≤ parts.seconds.toRat)
    (left : parts.seconds.IsRest rest) :
    (parts.Fits parts.carriedMinutes →
      ofParts parts = .ok (parts.spread parts.carriedMinutes rest).withSign) ∧
      (¬ parts.Fits parts.carriedMinutes → ofParts parts = .error .durationTooLarge) := by
  have positive : ¬ parts.seconds.isNegative = true := by
    rw [Decimal.isNegative_iff, not_lt]
    exact nonneg
  rw [ofParts, if_neg positive]
  exact normalize_eq rfl left.subWhole?_eq

/-- What parts that give a duration say: they fit, and the duration is their totals, spread. -/
theorem exists_of_ofParts {parts d : Duration} (h : ofParts parts = .ok d) :
    ∃ rest, 0 ≤ parts.seconds.toRat ∧ parts.seconds.IsRest rest ∧ parts.Fits parts.carriedMinutes ∧
      d = (parts.spread parts.carriedMinutes rest).withSign := by
  have nonneg : 0 ≤ parts.seconds.toRat := by
    rw [← not_lt, ← Decimal.isNegative_iff]
    intro negative
    rw [ofParts, if_pos negative] at h
    cases h
  obtain ⟨rest, left⟩ := Decimal.exists_isRest nonneg
  obtain ⟨small, large⟩ := ofParts_eq nonneg left
  by_cases fits : parts.Fits parts.carriedMinutes
  · rw [small fits] at h
    exact ⟨rest, nonneg, left, fits, (Except.ok.inj h).symm⟩
  · rw [large fits] at h
    cases h

/-- Parts without negative seconds give no duration if and only if a total is too large. -/
theorem ofParts_eq_error_iff {parts : Duration} (nonneg : 0 ≤ parts.seconds.toRat)
    {violation : Violation} :
    ofParts parts = .error violation ↔
      ¬ parts.Fits parts.carriedMinutes ∧ violation = .durationTooLarge := by
  obtain ⟨rest, left⟩ := Decimal.exists_isRest nonneg
  obtain ⟨small, large⟩ := ofParts_eq nonneg left
  by_cases fits : parts.Fits parts.carriedMinutes
  · rw [small fits]
    exact ⟨nofun, fun failed => absurd fits failed.1⟩
  · rw [large fits]
    exact ⟨fun failed => ⟨fits, (Except.error.inj failed).symm⟩, fun failed =>
      congrArg Except.error failed.2.symm⟩

/-- Parts without negative seconds give a duration if and only if no total is too large. -/
theorem exists_ofParts_eq_ok_iff {parts : Duration} (nonneg : 0 ≤ parts.seconds.toRat) :
    (∃ d, ofParts parts = .ok d) ↔ parts.Fits parts.carriedMinutes := by
  constructor
  · rintro ⟨d, given⟩
    obtain ⟨rest, -, -, fits, -⟩ := exists_of_ofParts given
    exact fits
  · intro fits
    obtain ⟨rest, left⟩ := Decimal.exists_isRest nonneg
    exact ⟨_, (ofParts_eq nonneg left).1 fits⟩

/-- The carried minutes are those of the seconds, but for one that is rounded up. -/
theorem carriedMinutes_bounds {parts : Duration} (nonneg : 0 ≤ parts.seconds.toRat) :
    parts.seconds.toRat < 60 * (parts.carriedMinutes + 1) ∧
      60 * parts.carriedMinutes ≤ parts.seconds.toRat + 3 / 10 ^ parts.seconds.scale := by
  obtain ⟨rest, left⟩ := Decimal.exists_isRest nonneg
  have below := left.lt_sixty
  have short := left.neg_three_le
  rw [← left.toRat_add, carriedMinutes]
  constructor <;> linarith

/-- **Normalization keeps the length of a duration.** Let parts have no negative seconds. The
operations on decimals by which minutes are taken out of the seconds do not overflow; these are the
whole minutes, or one more where the seconds fall short of the next minute by three in their last
place at most. The duration that the parts give has their length, and their sign unless there is no
length. They give none if and only if the minutes that are carried, or the total of the minutes, of
the hours or of the days, is too large to be counted. -/
theorem length_ofParts {parts : Duration} (nonneg : 0 ≤ parts.seconds.toRat) :
    parts.seconds.TakesMinutes ∧
      (parts.seconds.toRat < 60 * (parts.carriedMinutes + 1) ∧
        60 * parts.carriedMinutes ≤ parts.seconds.toRat + 3 / 10 ^ parts.seconds.scale) ∧
      (∀ d, ofParts parts = .ok d →
        d.length = parts.length ∧ (d.negative = true ↔ parts.negative = true ∧ parts.length ≠ 0)) ∧
      (∀ violation, ofParts parts = .error violation → violation = .durationTooLarge) ∧
      ((∃ violation, ofParts parts = .error violation) ↔
        countBound ≤ parts.carriedMinutes ∨ countBound ≤ parts.totalMinutes parts.carriedMinutes ∨
          countBound ≤ parts.totalHours parts.carriedMinutes ∨
            countBound ≤ parts.totalDays parts.carriedMinutes) := by
  refine ⟨Decimal.takesMinutes nonneg, carriedMinutes_bounds nonneg, fun d given => ?_,
    fun violation failed => ((ofParts_eq_error_iff nonneg).1 failed).2, ?_⟩
  · obtain ⟨rest, -, left, -, rfl⟩ := exists_of_ofParts given
    refine ⟨length_spread left.toRat_add, ?_⟩
    rw [ne_eq, ← isZero_spread_iff nonneg left]
    exact negative_withSign_iff
  · rw [← not_fits_iff]
    exact ⟨fun ⟨_, failed⟩ => ((ofParts_eq_error_iff nonneg).1 failed).1,
      fun large => ⟨_, (ofParts_eq_error_iff nonneg).2 ⟨large, rfl⟩⟩⟩

/-- A minute but for one in the last of 27 places after the point. -/
def almostMinute : Decimal :=
  ⟨59999999999999999999999999999, 27, by decide, by decide, .inr (by decide)⟩

theorem almostMinute_nonneg : 0 ≤ almostMinute.toRat := Decimal.coefficient_nonneg_iff.1 (by decide)

/-- A minute is carried out of seconds that fall short of it, and the length is kept all the
same. -/
theorem length_ofParts_almostMinute : 0 ≤ almostMinute.toRat ∧
    ∃ d, ofParts ⟨true, 1, 13, 40, 25, 61, almostMinute⟩ = .ok d ∧ d.minutes = 2 ∧
      d.negative = true ∧
      d.length = length ⟨true, 1, 13, 40, 25, 61, almostMinute⟩ := by
  let parts : Duration := ⟨true, 1, 13, 40, 25, 61, almostMinute⟩
  let d : Duration := ⟨true, 2, 2, 6, 2, 2, ⟨-1, 27, by decide, by decide, .inr (by decide)⟩⟩
  have nonneg : 0 ≤ parts.seconds.toRat := almostMinute_nonneg
  have given : ofParts parts = .ok d := eq_ok_of_toOption (by decide)
  obtain ⟨-, -, kept, -, -⟩ := length_ofParts nonneg
  exact ⟨nonneg, d, given, rfl, rfl, (kept d given).1⟩

end Duration

end SchemaBinding
