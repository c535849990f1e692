import SchemaBinding.Value.Space

/-!
# Equal values

Values of one space can be equal without being the same: decimals and durations
of different scale, and the two zeros of floating point numbers. Equal values
compare alike with every other value (`compare_congr`), and whatever a value is
equal to is equal to it (`equal_comm`).
-/

namespace SchemaBinding

/-! ## The spaces one by one -/

/-- Equal decimals compare alike with all others: over the finest power of ten they are one
number. -/
theorem Decimal.compare_congr {a b : Decimal} (h : a.compare b = .eq) (c : Decimal) :
    a.compare c = b.compare c ∧ c.compare a = c.compare b := by
  have same : a.finest = b.finest := Std.compare_eq_iff_eq.1 h
  rw [compare, compare, compare, compare, same]
  exact ⟨rfl, rfl⟩

namespace Binary

/-- Equal binary numbers compare alike with all others, though zero has two forms. -/
theorem compare_congr {format : Format} {a b : Binary} (h : compare format a b = some .eq)
    (c : Binary) :
    compare format a c = compare format b c ∧ compare format c a = compare format c b := by
  cases a with
  | nan => cases h
  | infinite negative =>
    cases b with
    | nan => cases h
    | finite other mantissa exponent => cases negative <;> cases h
    | infinite other =>
      have same : negative = other := by
        cases negative <;> cases other <;> first | rfl | cases h
      rw [same]
      exact ⟨rfl, rfl⟩
  | finite negative mantissa exponent =>
    cases b with
    | nan => cases h
    | infinite other => cases other <;> cases h
    | finite other mantissa' exponent' =>
      have same : multiple format negative mantissa exponent =
        multiple format other mantissa' exponent' :=
        Std.compare_eq_iff_eq.1 (Option.some.inj h)
      cases c with
      | nan => exact ⟨rfl, rfl⟩
      | infinite _ => exact ⟨rfl, rfl⟩
      | finite _ _ _ =>
        rw [compare, compare, compare, compare, same]
        exact ⟨rfl, rfl⟩

end Binary

namespace Calendar

/-- Equal dates compare alike with all others. -/
theorem Date.compare_congr {a b : Date} (h : a.compare b = .eq) (c : Date) :
    a.compare c = b.compare c ∧ c.compare a = c.compare b := by
  rw [Date.compare, Ordering.then_eq_eq, Ordering.then_eq_eq, Std.compare_eq_iff_eq,
    Std.compare_eq_iff_eq, Std.compare_eq_iff_eq] at h
  obtain ⟨year, month, day⟩ := h
  rw [Date.compare, Date.compare, Date.compare, Date.compare, year, month, day]
  exact ⟨rfl, rfl⟩

/-- Equal times compare alike with all others. -/
theorem Time.compare_congr {a b : Time} (h : a.compare b = .eq) (c : Time) :
    a.compare c = b.compare c ∧ c.compare a = c.compare b := by
  rw [Time.compare, Ordering.then_eq_eq, Std.compare_eq_iff_eq, Std.compare_eq_iff_eq] at h
  obtain ⟨seconds, nanoseconds⟩ := h
  rw [Time.compare, Time.compare, Time.compare, Time.compare, seconds, nanoseconds]
  exact ⟨rfl, rfl⟩

/-- Equal stamps compare alike with all others: the date decides before the time. -/
theorem DateTime.compare_congr {a b : DateTime} (h : a.compare b = .eq) (c : DateTime) :
    a.compare c = b.compare c ∧ c.compare a = c.compare b := by
  rw [DateTime.compare, Ordering.then_eq_eq] at h
  obtain ⟨date, time⟩ := h
  have ⟨dates, dates'⟩ := Date.compare_congr date c.date
  have ⟨times, times'⟩ := Time.compare_congr time c.time
  rw [DateTime.compare, DateTime.compare, DateTime.compare, DateTime.compare, dates, dates',
    times, times']
  exact ⟨rfl, rfl⟩

end Calendar

namespace Duration

/-- Durations with equal fields compare alike by their fields. -/
theorem compareFields_congr {a b : Duration} (h : a.compareFields b = .eq) (c : Duration) :
    a.compareFields c = b.compareFields c ∧ c.compareFields a = c.compareFields b := by
  simp only [compareFields, Ordering.then_eq_eq, Std.compare_eq_iff_eq] at h
  obtain ⟨years, months, days, hours, minutes, seconds⟩ := h
  have ⟨left, right⟩ := Decimal.compare_congr seconds c.seconds
  simp only [compareFields, years, months, days, hours, minutes, left, right, and_self]

/-- Equal durations compare alike with all others, by their signs and by their fields. -/
theorem compare_congr {a b : Duration} (h : a.compare b = .eq) (c : Duration) :
    a.compare c = b.compare c ∧ c.compare a = c.compare b := by
  unfold compare at h ⊢
  cases left : a.negative <;> cases right : b.negative <;> rw [left, right] at h
  · have ⟨before, after⟩ := compareFields_congr h c
    cases c.negative
    · exact ⟨before, after⟩
    · exact ⟨rfl, rfl⟩
  · cases h
  · cases h
  · have ⟨before, after⟩ := compareFields_congr (Ordering.swap_eq_eq.1 h) c
    cases c.negative
    · exact ⟨rfl, rfl⟩
    · exact ⟨congrArg Ordering.swap before, congrArg Ordering.swap after⟩

end Duration

/-! ## All spaces -/

namespace Space

variable {space : Space}

/-- Values are equal if they compare as equal. -/
theorem equal_eq_true_iff {a b : space.Carrier} :
    space.equal a b = true ↔ space.compare a b = some .eq :=
  beq_iff_eq

/-- Equal texts are the same. -/
theorem eq_of_equal_text {a b : Space.text.Carrier} (h : Space.text.equal a b = true) : a = b :=
  (compareOfLessAndEq_eq_eq String.le_refl String.not_le).1
    (Option.some.inj (equal_eq_true_iff.1 h))

/-- Equal integers are the same. -/
theorem eq_of_equal_integer {range : IntegerRange} {a b : (Space.integer range).Carrier}
    (h : (Space.integer range).equal a b = true) : a = b :=
  Subtype.ext (Std.compare_eq_iff_eq.1 (Option.some.inj (equal_eq_true_iff.1 h)))

/-- **Equal values compare alike** with every value. -/
theorem compare_congr {a b : space.Carrier} (h : space.equal a b = true) (c : space.Carrier) :
    space.compare a c = space.compare b c ∧ space.compare c a = space.compare c b := by
  -- Where equal values are the same there is nothing to compare.
  have alike (same : a = b) : space.compare a c = space.compare b c ∧
    space.compare c a = space.compare c b :=
    same ▸ ⟨rfl, rfl⟩
  have equal := equal_eq_true_iff.1 h
  cases space with
  | text => exact alike (eq_of_equal_text h)
  | boolean => exact alike ((@Std.compare_eq_iff_eq Bool _ _ a b).1 (Option.some.inj equal))
  | integer range => exact alike (eq_of_equal_integer h)
  | decimal =>
    exact (Decimal.compare_congr (Option.some.inj equal) c).imp (congrArg some)
      (congrArg some)
  | binary format => exact Binary.compare_congr equal c
  | date =>
    exact (Calendar.Date.compare_congr (Option.some.inj equal) c).imp (congrArg some)
      (congrArg some)
  | dateTime =>
    exact (Calendar.DateTime.compare_congr (Option.some.inj equal) c).imp (congrArg some)
      (congrArg some)
  | dateTimeStamp =>
    exact (Calendar.DateTime.compare_congr (Option.some.inj equal) c).imp (congrArg some)
      (congrArg some)
  | time =>
    exact (Calendar.Time.compare_congr (Option.some.inj equal) c).imp (congrArg some)
      (congrArg some)
  | duration =>
    exact (Duration.compare_congr (Option.some.inj equal) c).imp (congrArg some)
      (congrArg some)

/-- A value that is equal to some value is equal to itself. Only what is no number is not. -/
theorem equal_self {a b : space.Carrier} (h : space.equal a b = true) : space.equal b b = true := by
  rw [equal_eq_true_iff] at h ⊢
  exact ((compare_congr (equal_eq_true_iff.2 h) b).1).symm.trans h

/-- Equality is symmetric. -/
theorem equal_comm {a b : space.Carrier} (h : space.equal a b = true) : space.equal b a = true := by
  have self := equal_eq_true_iff.1 (equal_self h)
  exact equal_eq_true_iff.2 ((compare_congr h b).2.trans self)

/-- What is equal to one of two equal values is equal to the other. -/
theorem equal_congr {a b : space.Carrier} (h : space.equal a b = true) (c : space.Carrier) :
    space.equal c a = space.equal c b := by
  rw [equal, equal, (compare_congr h c).2]

end Space

end SchemaBinding
