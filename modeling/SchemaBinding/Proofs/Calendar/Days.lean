import Mathlib.Tactic.IntervalCases
import SchemaBinding.Proofs.Value.Number
import SchemaBinding.Value.Calendar

/-!
# Counting days

The days of the proleptic Gregorian calendar are numbered from the first of the
first month of year one. The number of a day is made of the days in the years
before, in the months of the year before, and in the month (`dayNumber`). It is
strictly increasing (`dayNumber_lt`), so that dates are ordered as their numbers
are (`Date.compare_eq`), and the next day is the one with the next number
(`Date.next?_eq_some_iff`). With the seconds of the day this counts the seconds,
and shifting a moment by an offset subtracts it from them
(`DateTime.minusOffset?_eq_some_iff`). Moments outside leap seconds are ordered as
their instants are (`DateTime.compare_eq`).
-/

namespace SchemaBinding

namespace Calendar

/-- Units are compared before what is left of them. -/
theorem compare_then_eq {base u v : Int} {r s : Nat} (left : r < base) (right : s < base) :
    (Ord.compare u v).then (Ord.compare r s) = Ord.compare (base * u + r) (base * v + s) := by
  have less {u v : Int} {r s : Nat} (rest : r < base) (before : u < v) :
    base * u + r < base * v + s := by
    calc base * u + r < base * u + base := by omega
      _ = base * (u + 1) := by rw [mul_add, mul_one]
      _ ≤ base * v := mul_le_mul_of_nonneg_left before (by omega)
      _ ≤ base * v + s := by omega
  rcases lt_trichotomy u v with before | rfl | after
  · rw [compare_lt_iff_lt.2 before, compare_lt_iff_lt.2 (less left before)]
    rfl
  · rw [Std.compare_self, Ordering.eq_then]
    exact compare_eq_compare (by omega) (by omega)
  · rw [compare_gt_iff_gt.2 after, compare_gt_iff_gt.2 (less right after)]
    rfl

/-! ## Years and months -/

/-- The number of days of a year. -/
def yearLength (year : Int) : Int := if isLeap year then 366 else 365

/-- The number of days from the beginning of year one to that of a year. -/
def daysBeforeYear (year : Int) : Int :=
  365 * (year - 1) + (year - 1) / 4 - (year - 1) / 100 + (year - 1) / 400

/-- The number of days from the beginning of a year to that of a month. -/
def daysBeforeMonth (year : Int) (month : Nat) : Nat :=
  ((List.range' 1 (month - 1)).map (daysIn year)).sum

/-- **A year has its length**, so that the days of the years are counted by their lengths. -/
theorem daysBeforeYear_succ (year : Int) :
    daysBeforeYear (year + 1) = daysBeforeYear year + yearLength year := by
  simp only [daysBeforeYear, yearLength, isLeap, decide_eq_true_iff]
  split <;> omega

theorem daysBeforeYear_le {year year' : Int} (le : year ≤ year') :
    daysBeforeYear year ≤ daysBeforeYear year' := by
  unfold daysBeforeYear
  omega

theorem one_le_daysIn (year : Int) (month : Nat) : 1 ≤ daysIn year month := by
  unfold daysIn
  split
  · split <;> decide
  all_goals decide

theorem daysBeforeMonth_succ (year : Int) {month : Nat} (some : 1 ≤ month) :
    daysBeforeMonth year (month + 1) = daysBeforeMonth year month + daysIn year month := by
  obtain ⟨n, rfl⟩ := Nat.exists_eq_add_of_le' some
  simp only [daysBeforeMonth, Nat.add_sub_cancel, List.range'_concat, List.map_append,
    List.sum_append, List.map_cons, List.map_nil, List.sum_cons, List.sum_nil]
  rw [Nat.add_comm 1 (1 * n), Nat.one_mul, Nat.add_zero]

theorem daysBeforeMonth_le (year : Int) {month month' : Nat} (some : 1 ≤ month)
    (less : month < month') :
    daysBeforeMonth year month + daysIn year month ≤ daysBeforeMonth year month' := by
  induction month', less using Nat.le_induction with
  | base => rw [daysBeforeMonth_succ year some]
  | succ last above ih =>
    rw [daysBeforeMonth_succ year (by omega)]
    omega

/-- The twelve months make the year. -/
theorem daysBeforeMonth_thirteen (year : Int) :
    (daysBeforeMonth year 13 : Int) = yearLength year := by
  unfold yearLength
  cases leap : isLeap year <;> simp [daysBeforeMonth, List.range', daysIn, leap]

/-! ## Days -/

/-- The number of a day: that of the first day of year one is one. -/
def dayNumber (year : Int) (month day : Nat) : Int :=
  daysBeforeYear year + daysBeforeMonth year month + day

/-- A day of the calendar, in any year. -/
structure IsDay (year : Int) (month day : Nat) : Prop where
  month_mem : 1 ≤ month ∧ month ≤ 12
  day_mem : 1 ≤ day ∧ day ≤ daysIn year month

variable {year year' : Int} {month month' day day' : Nat}

theorem IsDay.daysBeforeYear_lt (valid : IsDay year month day) :
    daysBeforeYear year < dayNumber year month day := by
  have := valid.day_mem
  unfold dayNumber
  omega

theorem IsDay.le_daysBeforeYear (valid : IsDay year month day) :
    dayNumber year month day ≤ daysBeforeYear (year + 1) := by
  have months := daysBeforeMonth_le year valid.month_mem.1
    (show month < 13 from Nat.lt_succ_of_le valid.month_mem.2)
  have whole := daysBeforeMonth_thirteen year
  have := valid.day_mem
  rw [daysBeforeYear_succ]
  unfold dayNumber
  omega

/-- **Later days have greater numbers.** -/
theorem dayNumber_lt (valid : IsDay year month day) (valid' : IsDay year' month' day')
    (before : year < year' ∨ year = year' ∧ (month < month' ∨ month = month' ∧ day < day')) :
    dayNumber year month day < dayNumber year' month' day' := by
  rcases before with years | ⟨rfl, months | ⟨rfl, days⟩⟩
  · calc dayNumber year month day ≤ daysBeforeYear (year + 1) := valid.le_daysBeforeYear
      _ ≤ daysBeforeYear year' := daysBeforeYear_le years
      _ < dayNumber year' month' day' := valid'.daysBeforeYear_lt
  · have := daysBeforeMonth_le year valid.month_mem.1 months
    have := valid.day_mem
    have := valid'.day_mem
    unfold dayNumber
    omega
  · unfold dayNumber
    omega

/-- A day is determined by its number. -/
theorem eq_of_dayNumber_eq (valid : IsDay year month day) (valid' : IsDay year' month' day')
    (same : dayNumber year month day = dayNumber year' month' day') :
    year = year' ∧ month = month' ∧ day = day' := by
  have notBefore : ¬ (year < year' ∨ year = year' ∧
    (month < month' ∨ month = month' ∧ day < day')) :=
    fun before => (dayNumber_lt valid valid' before).ne same
  have notAfter : ¬ (year' < year ∨ year' = year ∧
    (month' < month ∨ month' = month ∧ day' < day)) :=
    fun before => (dayNumber_lt valid' valid before).ne same.symm
  omega

namespace Date

variable {a b d e : Date}

/-- The number of a date. -/
def number (d : Date) : Int := dayNumber d.year d.month d.day

theorem isDay (d : Date) : IsDay d.year d.month d.day := ⟨d.month_mem, d.day_mem⟩

/-- **Dates are ordered as their numbers are.** -/
theorem compare_eq (a b : Date) : a.compare b = Ord.compare a.number b.number := by
  have less {a b : Date} : _ → a.number < b.number := dayNumber_lt a.isDay b.isDay
  rw [compare]
  rcases lt_trichotomy a.year b.year with before | years | after
  · rw [compare_lt_iff_lt.2 before, compare_lt_iff_lt.2 (less (.inl before))]
    rfl
  · rw [compare_eq_iff_eq.2 years, Ordering.eq_then]
    rcases lt_trichotomy a.month b.month with before | months | after
    · rw [compare_lt_iff_lt.2 before, compare_lt_iff_lt.2 (less (.inr ⟨years, .inl before⟩))]
      rfl
    · rw [compare_eq_iff_eq.2 months, Ordering.eq_then]
      refine compare_eq_compare ?_ ?_
      · rw [number, number, dayNumber, dayNumber, years, months]
        omega
      · rw [number, number, dayNumber, dayNumber, years, months]
        omega
    · rw [compare_gt_iff_gt.2 after, compare_gt_iff_gt.2 (less (.inr ⟨years.symm, .inl after⟩))]
      rfl
  · rw [compare_gt_iff_gt.2 after, compare_gt_iff_gt.2 (less (.inl after))]
    rfl

theorem number_injective (same : a.number = b.number) : a = b := by
  obtain ⟨years, months, days⟩ := eq_of_dayNumber_eq a.isDay b.isDay same
  cases a
  cases b
  obtain rfl := years
  obtain rfl := months
  obtain rfl := days
  rfl

theorem ofParts?_eq_some_iff :
    ofParts? year month day = some d ↔ d.year = year ∧ d.month = month ∧ d.day = day := by
  unfold ofParts?
  constructor
  · intro made
    split_ifs at made
    obtain rfl := Option.some.inj made
    exact ⟨rfl, rfl, rfl⟩
  · rintro ⟨rfl, rfl, rfl⟩
    rw [dif_pos d.year_mem, dif_pos d.month_mem, dif_pos d.day_mem]

/-- A date with given parts is that with their number. -/
theorem ofParts?_eq_some_iff_number (valid : IsDay year month day) :
    ofParts? year month day = some d ↔ d.number = dayNumber year month day := by
  rw [ofParts?_eq_some_iff]
  constructor
  · rintro ⟨rfl, rfl, rfl⟩
    rfl
  · exact eq_of_dayNumber_eq d.isDay valid

/-- **The next day has the next number.** -/
theorem next?_eq_some_iff : d.next? = some e ↔ e.number = d.number + 1 := by
  have month := d.month_mem
  have day := d.day_mem
  unfold next? number
  split_ifs with inside early
  · rw [ofParts?_eq_some_iff_number ⟨month, by omega⟩, number, dayNumber, dayNumber, dayNumber]
    omega
  · rw [ofParts?_eq_some_iff_number ⟨by omega, le_refl 1, one_le_daysIn ..⟩, number, dayNumber,
      dayNumber, dayNumber, daysBeforeMonth_succ d.year month.1]
    omega
  · have last : d.month = 12 := by omega
    have length : (daysBeforeMonth d.year 12 : Int) + daysIn d.year 12 = yearLength d.year := by
      rw [← daysBeforeMonth_thirteen, daysBeforeMonth_succ d.year (show 1 ≤ 12 by decide)]
      exact (Nat.cast_add ..).symm
    rw [last] at inside day ⊢
    have first : daysBeforeMonth (d.year + 1) 1 = 0 := rfl
    rw [ofParts?_eq_some_iff_number ⟨by decide, le_refl 1, one_le_daysIn ..⟩, number, dayNumber,
      dayNumber, dayNumber, daysBeforeYear_succ, first]
    omega

/-- **The day before has the number before.** -/
theorem previous?_eq_some_iff : d.previous? = some e ↔ e.number = d.number - 1 := by
  have month := d.month_mem
  have day := d.day_mem
  unfold previous? number
  split_ifs with inside late
  · rw [ofParts?_eq_some_iff_number ⟨month, by omega⟩, number, dayNumber, dayNumber, dayNumber]
    omega
  · have step := daysBeforeMonth_succ d.year (show 1 ≤ d.month - 1 by omega)
    rw [Nat.sub_add_cancel month.1] at step
    rw [ofParts?_eq_some_iff_number ⟨by omega, one_le_daysIn .., le_refl _⟩, number, dayNumber,
      dayNumber, dayNumber, step]
    omega
  · have first : d.month = 1 := by omega
    have length : (daysBeforeMonth (d.year - 1) 12 : Int) + 31 = yearLength (d.year - 1) := by
      rw [← daysBeforeMonth_thirteen, daysBeforeMonth_succ (d.year - 1) (show 1 ≤ 12 by decide)]
      exact (Nat.cast_add ..).symm
    have years := daysBeforeYear_succ (d.year - 1)
    rw [Int.sub_add_cancel] at years
    have none : daysBeforeMonth d.year 1 = 0 := rfl
    rw [ofParts?_eq_some_iff_number ⟨by decide, by decide, le_refl 31⟩, number, dayNumber,
      dayNumber, dayNumber, first, years, none]
    omega

end Date

namespace DateTime

variable {a b m n : DateTime} {offset : Int}

/-- The number of seconds of a moment from the beginning of the day before the first. -/
def seconds (m : DateTime) : Int := 86400 * m.date.number + m.time.seconds

/-- The number of nanoseconds of a moment. Those of a leap second are counted again in the next. -/
def instant (m : DateTime) : Int := 1000000000 * m.seconds + m.time.nanoseconds

/-- A moment is determined by its seconds and its nanoseconds. -/
theorem eq_of_seconds_eq (seconds : a.seconds = b.seconds)
    (nanoseconds : a.time.nanoseconds = b.time.nanoseconds) :
    a = b := by
  have := a.time.seconds_lt
  have := b.time.seconds_lt
  unfold DateTime.seconds at seconds
  have date : a.date = b.date := Date.number_injective (by omega)
  have time : a.time.seconds = b.time.seconds := by
    rw [date] at seconds
    omega
  obtain ⟨date_a, ⟨seconds_a, nanoseconds_a, _, _⟩⟩ := a
  obtain ⟨date_b, ⟨seconds_b, nanoseconds_b, _, _⟩⟩ := b
  obtain rfl := date
  obtain rfl := time
  obtain rfl := nanoseconds
  rfl

/-- The moment of a time on the day with a number. -/
theorem map_eq_some_iff {date? : Option Date} {time : Time} {number : Int}
    (day : ∀ e, date? = some e ↔ e.number = number) : date?.map (⟨·, time⟩) = some m ↔
      m.seconds = 86400 * number + time.seconds ∧ m.time.nanoseconds = time.nanoseconds := by
  rw [Option.map_eq_some_iff]
  constructor
  · rintro ⟨e, found, rfl⟩
    rw [seconds, (day e).1 found]
    exact ⟨rfl, rfl⟩
  · rintro ⟨seconds, nanoseconds⟩
    have := time.seconds_lt
    have := m.time.seconds_lt
    unfold DateTime.seconds at seconds
    have same : m.date.number = number := by omega
    refine ⟨m.date, (day _).2 same, eq_of_seconds_eq ?_ nanoseconds.symm⟩
    rw [DateTime.seconds, DateTime.seconds, seconds, same]

/-- **Shifting a moment subtracts the offset from its seconds**, over the ends of days, months and
years; its nanoseconds are kept. There is no result if and only if the range of years is left. -/
theorem minusOffset?_eq_some_iff (small : offset.natAbs < 86400) : n.minusOffset? offset = some m ↔
    m.seconds = n.seconds - offset ∧ m.time.nanoseconds = n.time.nanoseconds := by
  have below := n.time.seconds_lt
  unfold minusOffset?
  dsimp only
  -- The shifted seconds are those of the day before, of the same day or of the next.
  split_ifs with before inside
  · rw [map_eq_some_iff fun e => Date.previous?_eq_some_iff]
    have same : 86400 * (n.date.number - 1) + (((n.time.seconds - offset) % 86400).toNat : Int) =
      n.seconds - offset := by
      unfold seconds
      omega
    rw [same]
  · have day (e : Date) : some n.date = some e ↔ e.number = n.date.number := by
      rw [Option.some.injEq]
      exact ⟨fun same => congrArg Date.number same.symm, fun same =>
        Date.number_injective same.symm⟩
    refine (map_eq_some_iff day).trans ?_
    have same : 86400 * n.date.number + (((n.time.seconds - offset) % 86400).toNat : Int) =
      n.seconds - offset := by
      unfold seconds
      omega
    rw [same]
  · rw [map_eq_some_iff fun e => Date.next?_eq_some_iff]
    have same : 86400 * (n.date.number + 1) + (((n.time.seconds - offset) % 86400).toNat : Int) =
      n.seconds - offset := by
      unfold seconds
      omega
    rw [same]

/-- Moments are ordered by their seconds and then by their nanoseconds. -/
theorem compare_eq_then (a b : DateTime) : a.compare b =
    (Ord.compare a.seconds b.seconds).then (Ord.compare a.time.nanoseconds b.time.nanoseconds) := by
  have left := a.time.seconds_lt
  have right := b.time.seconds_lt
  rw [compare, Date.compare_eq, Time.compare, ← Ordering.then_assoc,
    @compare_then_eq 86400 _ _ _ _ (by omega) (by omega)]
  rfl

/-- **Moments outside leap seconds are ordered as their instants are.** -/
theorem compare_eq (left : a.time.nanoseconds < 1000000000)
    (right : b.time.nanoseconds < 1000000000) :
    a.compare b = Ord.compare a.instant b.instant := by
  rw [compare_eq_then, @compare_then_eq 1000000000 _ _ _ _ (by omega) (by omega)]
  rfl

end DateTime

end Calendar

end SchemaBinding
