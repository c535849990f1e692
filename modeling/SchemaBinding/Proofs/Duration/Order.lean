import SchemaBinding.Proofs.Duration.Normal
import SchemaBinding.Value.Facet

/-!
# Durations in normal form are ordered by their lengths

Durations are compared field by field. In normal form the fields after each one
make less than a unit of it, so that comparing them is comparing a number in
mixed radices (`IsRemainder.compare_then`). The radices are those of the clock and
30 for the days, but not twelve for the months: the months and days together are
less than the 365 days of a year. From the seconds up this gives the comparison
of the lengths (`compareFields_eq`), and with the signs the order of the signed
lengths (`compare_eq`). It is total, and bounds are bounds on lengths
(`compare_eq_compare_signedLength`).
-/

namespace SchemaBinding

/-! ## Numbers in mixed radices -/

/-- Whether a number is a remainder for `base`. -/
structure IsRemainder (base y : Rat) : Prop where
  nonneg : 0 ≤ y
  lt_base : y < base

/-- Fewer than `radix` units and what is left of a unit are less than `radix` units. -/
theorem IsRemainder.add {base y : Rat} {n radix : Nat} (rest : IsRemainder base y)
    (below : n < radix) :
    IsRemainder (base * radix) (base * n + y) := by
  have positive : 0 ≤ base := rest.nonneg.trans rest.lt_base.le
  have units : ((n + 1 : Nat) : Rat) ≤ radix := Nat.cast_le.2 below
  constructor
  · have := rest.nonneg
    positivity
  · calc base * n + y < base * n + base := add_lt_add_right rest.lt_base _
      _ = base * (n + 1 : Nat) := by push_cast; ring
      _ ≤ base * radix := mul_le_mul_of_nonneg_left units positive

theorem IsRemainder.add_lt_add {base y y' : Rat} {n n' : Nat} (rest : IsRemainder base y)
    (rest' : IsRemainder base y') (less : n < n') : base * n + y < base * n' + y' :=
  (rest.add less).lt_base.trans_le (le_add_of_nonneg_right rest'.nonneg)

/-- **Units are compared before what is left of them.** -/
theorem IsRemainder.compare_then {base y y' : Rat} (rest : IsRemainder base y)
    (rest' : IsRemainder base y') (n n' : Nat) :
    (Ord.compare n n').then (Ord.compare y y') = Ord.compare (base * n + y) (base * n' + y') := by
  rcases lt_trichotomy n n' with less | rfl | greater
  · rw [compare_lt_iff_lt.2 less, compare_lt_iff_lt.2 (rest.add_lt_add rest' less)]
    rfl
  · rw [Std.compare_self, Ordering.eq_then]
    exact compare_eq_compare (add_lt_add_iff_left _).symm (add_lt_add_iff_left _).symm
  · rw [compare_gt_iff_gt.2 greater, compare_gt_iff_gt.2 (rest'.add_lt_add rest greater)]
    rfl

namespace Duration

/-! ## Sizes -/

variable {a b d : Duration}

/-- The number of seconds in the time of a duration. -/
def timeLength (d : Duration) : Rat := 60 * 60 * d.hours + (60 * d.minutes + d.seconds.toRat)

namespace IsNormal

theorem seconds (normal : d.IsNormal) : IsRemainder 60 d.seconds.toRat :=
  ⟨normal.seconds_nonneg, normal.seconds_lt⟩

theorem minutes (normal : d.IsNormal) : IsRemainder (60 * 60) (60 * d.minutes + d.seconds.toRat) :=
  normal.seconds.add normal.minutes_lt

theorem time (normal : d.IsNormal) : IsRemainder (60 * 60 * 24) d.timeLength :=
  normal.minutes.add normal.hours_lt

theorem days (normal : d.IsNormal) :
    IsRemainder (60 * 60 * 24 * 30) (60 * 60 * 24 * d.days + d.timeLength) :=
  normal.time.add normal.days_lt

/-- The months and the days of a year, which are not twelve months. -/
theorem months (normal : d.IsNormal) :
    IsRemainder (60 * 60 * 24 * 365)
      (60 * 60 * 24 * 30 * d.months + (60 * 60 * 24 * d.days + d.timeLength)) := by
  have year := normal.time.add normal.year
  have split : 60 * 60 * 24 * ((30 * d.months + d.days : Nat) : Rat) + d.timeLength
      = 60 * 60 * 24 * 30 * d.months + (60 * 60 * 24 * d.days + d.timeLength) := by
    push_cast
    ring
  rwa [split] at year

end IsNormal

theorem length_eq (d : Duration) : d.length = 60 * 60 * 24 * 365 * d.years +
    (60 * 60 * 24 * 30 * d.months + (60 * 60 * 24 * d.days + d.timeLength)) := by
  rw [length, wholeMinutes, timeLength]
  push_cast
  ring

/-- **Fields are compared as lengths are.** -/
theorem compareFields_eq (left : a.IsNormal) (right : b.IsNormal) :
    a.compareFields b = Ord.compare a.length b.length := by
  rw [compareFields, Decimal.compare_eq, left.seconds.compare_then right.seconds,
    left.minutes.compare_then right.minutes]
  change (Ord.compare a.years b.years).then ((Ord.compare a.months b.months).then
    ((Ord.compare a.days b.days).then (Ord.compare a.timeLength b.timeLength))) = _
  rw [left.time.compare_then right.time, left.days.compare_then right.days,
    left.months.compare_then right.months, ← length_eq, ← length_eq]

/-! ## Signed lengths -/

/-- The number of seconds in a duration, which is negative if the duration is. -/
def signedLength (d : Duration) : Rat := if d.negative then -d.length else d.length

theorem IsNormal.length_nonneg (normal : d.IsNormal) : 0 ≤ d.length :=
  add_nonneg (by positivity) normal.seconds_nonneg

theorem IsNormal.signedLength_neg_iff (normal : d.IsNormal) :
    d.signedLength < 0 ↔ d.negative = true := by
  have nonneg := normal.length_nonneg
  rw [signedLength]
  split
  · next negative =>
    have filled : d.length ≠ 0 := fun empty =>
      normal.sign negative ((isZero_iff normal.seconds_nonneg).2 empty)
    exact iff_of_true (neg_neg_of_pos (lt_of_le_of_ne nonneg filled.symm)) negative
  · next positive => exact iff_of_false nonneg.not_gt positive

/-- **The order of durations in normal form is that of their signed lengths.** -/
theorem compare_eq (left : a.IsNormal) (right : b.IsNormal) :
    a.compare b = Ord.compare a.signedLength b.signedLength := by
  have fields := compareFields_eq left right
  have below := left.signedLength_neg_iff
  have below' := right.signedLength_neg_iff
  rw [compare]
  cases negative : a.negative <;> cases negative' : b.negative
  · simp only [signedLength, negative, negative', Bool.false_eq_true, if_false]
    exact fields
  · rw [eq_comm, compare_gt_iff_gt]
    exact (below'.2 negative').trans_le (not_lt.1 fun h => by rw [below, negative] at h; cases h)
  · rw [eq_comm, compare_lt_iff_lt]
    exact (below.2 negative).trans_le (not_lt.1 fun h => by rw [below', negative'] at h; cases h)
  · simp only [signedLength, negative, negative', if_true]
    rw [fields, Std.OrientedOrd.eq_swap.symm]
    exact compare_eq_compare neg_lt_neg_iff.symm neg_lt_neg_iff.symm

/-- Only a duration compares equal with itself. -/
theorem compare_eq_eq_iff {a b : Duration} : a.compare b = .eq ↔ a = b := by
  constructor
  · intro same
    have fields : a.negative = b.negative ∧ a.compareFields b = .eq := by
      rw [compare] at same
      cases negative : a.negative <;> cases negative' :
        b.negative <;> rw [negative, negative'] at same
      · exact ⟨rfl, same⟩
      · cases same
      · cases same
      · exact ⟨rfl, Ordering.swap_eq_eq.1 same⟩
    obtain ⟨negative, same⟩ := fields
    simp only [compareFields, Decimal.compare_eq, Ordering.then_eq_eq,
      Std.compare_eq_iff_eq] at same
    obtain ⟨years, months, days, hours, minutes, seconds⟩ := same
    replace seconds := Decimal.toRat_injective seconds
    cases a
    cases b
    simp only at negative years months days hours minutes seconds
    rw [negative, years, months, days, hours, minutes, seconds]
  · rintro rfl
    have fields : a.compareFields a = .eq := by
      simp only [compareFields, Decimal.compare_eq, Std.compare_self, Ordering.eq_then]
    rw [compare]
    cases a.negative with
    | false => exact fields
    | true => exact Ordering.swap_eq_eq.2 fields

/-- **Durations in normal form are ordered by their lengths**, negative if the durations are. The
order is total, only equal durations compare equal, and a bound is kept by the durations whose
lengths it admits. -/
theorem compare_eq_compare_signedLength {a b c : Duration} (first : a.IsNormal)
    (second : b.IsNormal) (third : c.IsNormal) :
    a.compare b = Ord.compare a.signedLength b.signedLength ∧ (a.compare b = .eq ↔ a = b) ∧
      b.compare a = (a.compare b).swap ∧
      (a.compare b ≠ .gt → b.compare c ≠ .gt → a.compare c ≠ .gt) ∧
      (∀ literal, Rule.check (.minInclusive b : Rule .duration) a literal = .ok () ↔
        b.signedLength ≤ a.signedLength) ∧
      (∀ literal, Rule.check (.maxInclusive b : Rule .duration) a literal = .ok () ↔
        a.signedLength ≤ b.signedLength) := by
  have ordered := compare_eq first second
  refine ⟨ordered, compare_eq_eq_iff, ?_, fun le le' => ?_, fun literal => ?_, fun literal => ?_⟩
  · rw [ordered, compare_eq second first]
    exact Std.OrientedOrd.eq_swap
  · rw [ordered, ne_eq, compare_gt_iff_gt, not_lt] at le
    rw [compare_eq second third, ne_eq, compare_gt_iff_gt, not_lt] at le'
    rw [compare_eq first third, ne_eq, compare_gt_iff_gt, not_lt]
    exact le.trans le'
  · rw [← not_lt, ← compare_lt_iff_lt, ← ordered]
    simp [Rule.check, Space.compare]
  · rw [← not_lt, ← compare_gt_iff_gt, ← ordered]
    simp [Rule.check, Space.compare]

/-- The last tenth of a second in a year, whose months and days are less than a year although they
are twelve months and more, is within the bound of a year and above one that is negative. -/
theorem compare_endOfYear :
    ∃ last year before : Duration, last.IsNormal ∧ year.IsNormal ∧ before.IsNormal ∧
    last.print = "P12M4DT23H59M59.9S" ∧ year.print = "P1Y" ∧ before.print = "-P1D" ∧
    last.compare year = Ord.compare last.signedLength year.signedLength ∧
      last.signedLength ≤ year.signedLength ∧
    before.signedLength ≤ last.signedLength := by
  let last : Duration := ⟨false, 0, 12, 4, 23, 59, ⟨599, 1, by decide, by decide, .inr (by decide)⟩⟩
  let year : Duration := ⟨false, 1, 0, 0, 0, 0, Decimal.zero⟩
  let before : Duration := ⟨true, 0, 0, 1, 0, 0, Decimal.zero⟩
  have none : 0 ≤ Decimal.zero.toRat ∧ Decimal.zero.toRat < 60 := by
    rw [Decimal.zero_toRat]
    norm_num
  have some : last.seconds.toRat < 60 := by
    change ((599 : Int) : Rat) / 10 ^ 1 < 60
    norm_num
  have lastNormal : last.IsNormal :=
    ⟨⟨by decide, by decide, some, by decide, by decide, by decide⟩,
      Decimal.coefficient_nonneg_iff.1 (by decide)⟩
  have yearNormal : year.IsNormal :=
    ⟨⟨by decide, by decide, none.2, by decide, by decide, by decide⟩, none.1⟩
  have beforeNormal : before.IsNormal :=
    ⟨⟨by decide, by decide, none.2, by decide, by decide, by decide⟩, none.1⟩
  obtain ⟨order, -, -, -, -, above⟩ :=
    compare_eq_compare_signedLength lastNormal yearNormal beforeNormal
  obtain ⟨-, -, -, -, below, -⟩ :=
    compare_eq_compare_signedLength lastNormal beforeNormal yearNormal
  exact ⟨last, year, before, lastNormal, yearNormal, beforeNormal, by decide, by decide +kernel,
    by decide, order, (above "P12M4DT23H59M59.9S").1 rfl, (below "P12M4DT23H59M59.9S").1 rfl⟩

end Duration

end SchemaBinding
