import SchemaBinding.Proofs.Duration.Carry

/-!
# The normal form of a duration

A duration that is given for parts has every field below what makes one of the
next (`isCarried_of_ofParts`), but its seconds can be negative, by as much as the
carried minutes exceed the seconds (`seconds_nonneg_iff`). Where they are not, as
for stated seconds of at most 28 digits (`seconds_nonneg_of_digits`), the duration
is in normal form: normalizing it again changes nothing (`ofParts_ofParts`).
-/

namespace SchemaBinding

namespace Duration

/-- Every field is below what makes one of the next field, and only a duration that is not empty is
negative. -/
structure IsCarried (d : Duration) : Prop where
  hours_lt : d.hours < 24
  minutes_lt : d.minutes < 60
  seconds_lt : d.seconds.toRat < 60
  days_lt : d.days < 30
  year : 30 * d.months + d.days < 365
  sign : d.negative = true → ¬ d.isZero = true

/-- The normal form: the seconds are not negative either. -/
structure IsNormal (d : Duration) : Prop extends IsCarried d where
  seconds_nonneg : 0 ≤ d.seconds.toRat

variable {parts d : Duration}

theorem isCarried_spread {carry : Nat} {rest : Decimal} (below : rest.toRat < 60) :
    (parts.spread carry rest).withSign.IsCarried where
  hours_lt := Nat.mod_lt _ (by decide)
  minutes_lt := Nat.mod_lt _ (by decide)
  seconds_lt := below
  days_lt := Nat.mod_lt _ (by decide)
  year := by
    simp only [withSign, spread, daysPerMonth, daysPerYear]
    omega
  sign := fun negative => (negative_withSign_iff.1 negative).2

/-- **What is given for parts is carried.** -/
theorem isCarried_of_ofParts (h : ofParts parts = .ok d) : d.IsCarried := by
  obtain ⟨rest, -, left, -, rfl⟩ := exists_of_ofParts h
  exact isCarried_spread left.lt_sixty

theorem withSign_of_sign (sign : d.negative = true → ¬ d.isZero = true) : d.withSign = d := by
  have same : (d.negative && !d.isZero) = d.negative := by
    cases negative : d.negative with
    | false => rfl
    | true => rw [Bool.true_and, Bool.not_eq_true', Bool.eq_false_iff.2 (sign negative)]
  rw [withSign, same]

theorem totals_of_isCarried (carried : d.IsCarried) :
    d.totalMinutes 0 = d.minutes ∧ d.totalHours 0 = d.hours ∧
      d.totalDays 0 = 365 * d.years + (30 * d.months + d.days) := by
  obtain ⟨hours, minutes, -, -, -, -⟩ := carried
  simp only [totalDays, totalHours, totalMinutes, daysPerYear, daysPerMonth]
  omega

/-- A duration that is carried is spread as it is. -/
theorem spread_zero (carried : d.IsCarried) : d.spread 0 d.seconds = d := by
  obtain ⟨minutes, hours, days⟩ := totals_of_isCarried carried
  have years : (365 * d.years + (30 * d.months + d.days)) / daysPerYear = d.years := by
    have := carried.year
    rw [daysPerYear]
    omega
  have rest :
    (365 * d.years + (30 * d.months + d.days)) % daysPerYear = 30 * d.months + d.days := by
    have := carried.year
    rw [daysPerYear]
    omega
  have months : (30 * d.months + d.days) / daysPerMonth = d.months := by
    have := carried.days_lt
    rw [daysPerMonth]
    omega
  have left : (30 * d.months + d.days) % daysPerMonth = d.days := by
    have := carried.days_lt
    rw [daysPerMonth]
    omega
  rw [spread, minutes, hours, days, years, rest, months, left, Nat.mod_eq_of_lt carried.hours_lt,
    Nat.mod_eq_of_lt carried.minutes_lt]

/-- The days are as many after spreading as before. -/
theorem totalDays_spread (carry : Nat) (rest : Decimal) :
    (parts.spread carry rest).totalDays 0 = parts.totalDays carry := by
  simp only [spread, totalDays, totalHours, totalMinutes, daysPerYear, daysPerMonth]
  omega

/-- What is given for parts can be counted as it is. -/
theorem fits_of_ofParts (h : ofParts parts = .ok d) : d.Fits 0 := by
  have carried := isCarried_of_ofParts h
  obtain ⟨minutes, hours, -⟩ := totals_of_isCarried carried
  refine ⟨?_, ?_, ?_⟩
  · rw [minutes]
    exact Nat.lt_trans carried.minutes_lt (by decide)
  · rw [hours]
    exact Nat.lt_trans carried.hours_lt (by decide)
  · obtain ⟨rest, -, -, fits, rfl⟩ := exists_of_ofParts h
    exact (totalDays_spread parts.carriedMinutes rest).trans_lt fits.days

/-- **Nothing is carried twice**: what is given for parts, unless its seconds are negative, is given
for itself. -/
theorem ofParts_ofParts (h : ofParts parts = .ok d) (nonneg : 0 ≤ d.seconds.toRat) :
    ofParts d = .ok d := by
  have carried := isCarried_of_ofParts h
  have fits := fits_of_ofParts h
  have none : d.carriedMinutes = 0 := by
    obtain ⟨rest, -, left, -, rfl⟩ := exists_of_ofParts h
    exact left.settled nonneg
  obtain ⟨rest, left⟩ := Decimal.exists_isRest nonneg
  have same : rest = d.seconds := by
    have sum := left.toRat_add
    rw [← carriedMinutes, none, Nat.cast_zero, mul_zero, add_zero] at sum
    exact Decimal.toRat_injective sum
  have given := (ofParts_eq nonneg left).1
  rw [none, same, spread_zero carried, withSign_of_sign carried.sign] at given
  exact given fits

/-- The seconds that are given are not negative if no more minutes are carried than there are. -/
theorem seconds_nonneg_iff (h : ofParts parts = .ok d) :
    0 ≤ d.seconds.toRat ↔ 60 * parts.carriedMinutes ≤ parts.seconds.toRat := by
  obtain ⟨rest, -, left, -, rfl⟩ := exists_of_ofParts h
  rw [← left.toRat_add, carriedMinutes, le_add_iff_nonneg_left]
  exact Iff.rfl

/-- Seconds of at most 28 digits leave none that are negative. -/
theorem seconds_nonneg_of_digits (h : ofParts parts = .ok d)
    (digits : parts.seconds.coefficient.natAbs < 10 ^ 28) :
    0 ≤ d.seconds.toRat := by
  obtain ⟨rest, -, left, -, rfl⟩ := exists_of_ofParts h
  exact left.nonneg_of_digits digits

end Duration

end SchemaBinding
