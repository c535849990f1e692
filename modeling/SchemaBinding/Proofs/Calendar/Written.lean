import Mathlib.Algebra.Group.Nat.Defs
import SchemaBinding.Proofs.Calendar.Reading
import SchemaBinding.Proofs.Value.Canonical

/-!
# Written dates and times are read back

A number that fits a width is written with as many digits (`length_padded`), and
a reader that takes up to so many takes these digits (`takeDigits_padded`). So the
fields of a date are found in its canonical form (`takeDate_toChars`), also those
of a year with a sign, whose digits end at the dash. The fields of a time of day
are found, and its fraction, whether that has no, three, six or nine digits
(`takeTime_toChars`); they are the parts of the time if a leap second is the last
of its minute (`Time.IsRegular`), as it is in every time that is read.
-/

namespace SchemaBinding

namespace Calendar

open Text

variable {ds rest : List Char} {n width least most : Nat}

/-! ## Digits -/

/-- A number that fits a width is written with as many digits. -/
theorem length_padded (positive : 0 < width) (fits : n < 10 ^ width) :
    (padded width n).length = width := by
  have short : (digits n).length ≤ width := (Nat.length_toDigits_le_iff (by decide) positive).2 fits
  rw [padded, List.length_append, List.length_replicate, Nat.sub_add_cancel short]

theorem padded_ne_nil (width n : Nat) : padded width n ≠ [] :=
  List.append_ne_nil_of_right_ne_nil _ (digits_ne_nil n)

/-- As many digits are taken as may be, whatever follows. -/
theorem takeDigits_append (digits : ∀ c ∈ ds, c.isDigit = true) (filled : ds ≠ [])
    (enough : least ≤ ds.length) (full : ds.length = most) (rest : List Char) :
    takeDigits least most (ds ++ rest) = some (ds, rest) := by
  have taken : ((ds ++ rest).take most).takeWhile Char.isDigit = ds := by
    rw [List.take_left' full]
    exact List.takeWhile_eq_self_iff.2 digits
  rw [takeDigits, taken, if_pos ⟨enough, filled⟩, List.drop_left]

/-- Fewer digits are taken if a character follows that is none. -/
theorem takeDigits_append_cons {c : Char} (digits : ∀ c ∈ ds, c.isDigit = true) (filled : ds ≠ [])
    (enough : least ≤ ds.length) (room : ds.length ≤ most) (stops : c.isDigit = false)
    (rest : List Char) :
    takeDigits least most (ds ++ c :: rest) = some (ds, c :: rest) := by
  have taken : ((ds ++ c :: rest).take most).takeWhile Char.isDigit = ds := by
    rw [List.take_append, List.take_of_length_le room, List.takeWhile_append_of_pos digits]
    cases most - ds.length with
    | zero => rw [List.take_zero, List.takeWhile_nil, List.append_nil]
    | succ more => rw [List.take_succ_cons, List.takeWhile_cons_of_neg (Bool.eq_false_iff.1 stops),
        List.append_nil]
  rw [takeDigits, taken, if_pos ⟨enough, filled⟩, List.drop_left]

/-- All digits are taken at the end of the text. -/
theorem takeDigits_self (digits : ∀ c ∈ ds, c.isDigit = true) (filled : ds ≠ [])
    (enough : least ≤ ds.length) (room : ds.length ≤ most) :
    takeDigits least most ds = some (ds, []) := by
  rw [takeDigits, List.take_of_length_le room, List.takeWhile_eq_self_iff.2 digits,
    if_pos ⟨enough, filled⟩, List.drop_length]

theorem takeDigits_padded (positive : 0 < width) (fits : n < 10 ^ width) (enough : least ≤ width)
    (rest : List Char) :
    takeDigits least width (padded width n ++ rest) = some (padded width n, rest) :=
  have full := length_padded positive fits
  takeDigits_append (fun _ mem => isDigit_of_mem_padded mem) (padded_ne_nil width n)
    (full.symm ▸ enough) full rest

/-- Nothing blank is passed over before digits. -/
theorem dropWhile_isBlank_padded (width n : Nat) (rest : List Char) :
    (padded width n ++ rest).dropWhile isBlank = padded width n ++ rest := by
  obtain ⟨c, cs, same⟩ := List.exists_cons_of_ne_nil (padded_ne_nil width n)
  have digit : c.isDigit = true := @isDigit_of_mem_padded width n c (same ▸ List.mem_cons_self ..)
  rw [same, List.cons_append, List.dropWhile_cons_of_neg]
  rw [Space.unblank_of_numeral (.inl digit)]
  exact Bool.false_ne_true

/-- **A field of two digits is read back.** -/
theorem takeField_padded (fits : n < 100) (rest : List Char) :
    takeField (padded 2 n ++ rest) = some (n, rest) := by
  rw [takeField, dropWhile_isBlank_padded, takeDigits_padded (by decide) fits (by decide),
    Option.map_some]
  exact congrArg (fun n => some (n, rest)) (valueOf_padded 2 n)

theorem takeChar_cons (c : Char) (rest : List Char) : takeChar c (c :: rest) = some rest :=
  if_pos rfl

/-! ## Dates -/

theorem daysIn_le (year : Int) (month : Nat) : daysIn year month ≤ 31 := by
  unfold daysIn
  split
  · split <;> decide
  all_goals decide

/-- A year with a sign is read up to the dash after its digits. -/
theorem takeLong_padded {sign : Nat → Int} (small : n < yearBound) (rest : List Char) :
    takeYear.takeLong (padded 4 n ++ '-' :: rest) sign = some (sign n, '-' :: rest) := by
  have room : (padded 4 n).length ≤ (padded 4 n ++ '-' :: rest).length := by
    rw [List.length_append]
    omega
  rw [takeYear.takeLong, takeDigits_append_cons (fun _ mem => isDigit_of_mem_padded mem)
    (padded_ne_nil 4 n) (List.length_pos_iff.2 (padded_ne_nil 4 n)) room (by decide)]
  simp only [Option.bind_eq_bind, Option.bind_some, valueOf_padded, if_pos small]
  rfl

theorem takeYear_cons_minus (rest : List Char) :
    takeYear ('-' :: rest) = takeYear.takeLong rest fun n => -(n : Int) := rfl

theorem takeYear_cons_plus (rest : List Char) :
    takeYear ('+' :: rest) = takeYear.takeLong rest Int.ofNat := rfl

/-- A year of four digits has no sign. -/
theorem takeYear_padded (fits : n < 10000) (rest : List Char) :
    takeYear (padded 4 n ++ rest) = some ((n : Int), rest) := by
  obtain ⟨c, cs, same⟩ := List.exists_cons_of_ne_nil (padded_ne_nil 4 n)
  have digit : c.isDigit = true := @isDigit_of_mem_padded 4 n c (same ▸ List.mem_cons_self ..)
  unfold takeYear
  rw [dropWhile_isBlank_padded]
  split
  · next minus =>
    rw [same, List.cons_append] at minus
    exact absurd ((List.cons.inj minus).1 ▸ digit) (by decide)
  · next plus =>
    rw [same, List.cons_append] at plus
    exact absurd ((List.cons.inj plus).1 ▸ digit) (by decide)
  · rw [takeDigits_padded (by decide) fits (by decide), Option.map_some]
    exact congrArg (fun n : Nat => some ((n : Int), rest)) (valueOf_padded 4 n)

/-- **A written year is read back.** -/
theorem takeYear_yearChars {year : Int} (small : year.natAbs < yearBound) (rest : List Char) :
    takeYear (Date.yearChars year ++ '-' :: rest) = some (year, '-' :: rest) := by
  unfold Date.yearChars
  split_ifs with plain negative
  · rw [takeYear_padded (by omega)]
    congr 2
    omega
  · rw [List.cons_append, takeYear_cons_minus, takeLong_padded small]
    congr 2
    omega
  · rw [List.cons_append, takeYear_cons_plus, takeLong_padded small]
    congr 2
    exact Int.natAbs_of_nonneg (by omega)

/-- **A written date is read back**, whatever follows. -/
theorem takeDate_toChars (d : Date) (rest : List Char) :
    takeDate (d.toChars ++ rest) = some (some d, rest) := by
  have month : d.month < 100 := by have := d.month_mem; omega
  have day : d.day < 100 := by have := d.day_mem; have := daysIn_le d.year d.month; omega
  have year : d.year.natAbs < yearBound := by
    have := d.year_mem
    unfold firstYear lastYear at this
    unfold yearBound
    omega
  have made : Date.ofParts? d.year d.month d.day = some d := by
    rw [Date.ofParts?, dif_pos d.year_mem, dif_pos d.month_mem, dif_pos d.day_mem]
  have split : d.toChars ++ rest =
      Date.yearChars d.year ++ '-' :: (padded 2 d.month ++ '-' :: (padded 2 d.day ++ rest)) := by
    simp only [Date.toChars, List.append_assoc, List.cons_append]
  rw [split, takeDate, takeYear_yearChars year]
  simp only [Option.bind_eq_bind, Option.bind_some, takeChar_cons, takeField_padded month,
    takeField_padded day, made]
  rfl

theorem parseDate?_toChars (d : Date) : parseDate? d.toChars = some d := by
  have taken := takeDate_toChars d []
  rw [List.append_nil] at taken
  rw [parseDate?, taken]
  rfl

/-! ## Times of day -/

/-- A leap second is the last of its minute. -/
def Time.IsRegular (t : Time) : Prop := t.nanoseconds < 1000000000 ∨ t.seconds % 60 = 59

/-- A time that is made of parts is regular. -/
theorem Time.isRegular_of_ofParts? {hour minute second nanosecond : Nat} {t : Time}
    (made : ofParts? hour minute second nanosecond = some t) :
    t.IsRegular ∧ (t.nanoseconds < 1000000000 ↔ second < 60) := by
  unfold ofParts? at made
  dsimp only at made
  unfold IsRegular
  by_cases leap : second = 60
  · simp only [if_pos leap] at made
    split_ifs at made with bounds
    obtain rfl := Option.some.inj made
    dsimp only
    omega
  · simp only [if_neg leap] at made
    split_ifs at made with bounds
    obtain rfl := Option.some.inj made
    dsimp only
    omega

theorem takeNanoseconds_padded (positive : 0 < width) (few : width ≤ 9) (fits : n < 10 ^ width) :
    takeNanoseconds (padded width n) = some (n * 10 ^ (9 - width), []) := by
  have full := length_padded positive fits
  have taken : takeDigits 1 9 (padded width n) = some (padded width n, []) :=
    takeDigits_self (fun _ mem => isDigit_of_mem_padded mem) (padded_ne_nil width n)
      (by omega) (by omega)
  rw [takeNanoseconds, taken]
  simp only [Option.bind_eq_bind, Option.bind_some, valueOf_padded, full]
  rfl

/-- **A written fraction is read back.** -/
theorem takeFraction_fractionChars (small : n < 1000000000) :
    takeFraction (Time.fractionChars n) = some (n, []) := by
  unfold Time.fractionChars
  split_ifs with none three six
  · rw [none]
    rfl
  · rw [takeFraction, takeNanoseconds_padded (by decide) (by decide) (by omega)]
    congr 2
    omega
  · rw [takeFraction, takeNanoseconds_padded (by decide) (by decide) (by omega)]
    congr 2
    omega
  · rw [takeFraction, takeNanoseconds_padded (by decide) (by decide) small]
    congr 2
    omega

/-- The parts that are written for a time of day make it. -/
theorem Time.ofParts?_self {t : Time} (regular : t.IsRegular) :
    ofParts? (t.seconds / 3600) (t.seconds / 60 % 60) (t.seconds % 60 + t.nanoseconds / 1000000000)
      (t.nanoseconds % 1000000000) = some t := by
  have seconds := t.seconds_lt
  have nanoseconds := t.nanoseconds_lt
  unfold IsRegular at regular
  by_cases leap : t.nanoseconds < 1000000000
  · have second : t.seconds % 60 + t.nanoseconds / 1000000000 ≠ 60 := by omega
    unfold ofParts?
    simp only [if_neg second]
    rw [dif_pos (by omega)]
    congr 2 <;> omega
  · have second : t.seconds % 60 + t.nanoseconds / 1000000000 = 60 := by omega
    unfold ofParts?
    simp only [if_pos second]
    rw [dif_pos (by omega)]
    congr 2 <;> omega

/-- **A written time of day is read back.** -/
theorem takeTime_toChars {t : Time} (regular : t.IsRegular) :
    takeTime t.toChars = some (some t, []) := by
  have seconds := t.seconds_lt
  have nanoseconds := t.nanoseconds_lt
  have hour : t.seconds / 3600 < 100 := by omega
  have minute : t.seconds / 60 % 60 < 100 := by omega
  have second : t.seconds % 60 + t.nanoseconds / 1000000000 < 100 := by omega
  have fraction := takeFraction_fractionChars
    (Nat.mod_lt t.nanoseconds (show 0 < 1000000000 by decide))
  have split : t.toChars = padded 2 (t.seconds / 3600) ++ ':' :: (padded 2 (t.seconds / 60 % 60) ++
      ':' :: (padded 2 (t.seconds % 60 + t.nanoseconds / 1000000000) ++
        Time.fractionChars (t.nanoseconds % 1000000000))) := by
    simp only [Time.toChars, List.append_assoc, List.cons_append]
  rw [split, takeTime]
  simp only [Option.bind_eq_bind, Option.bind_some, takeChar_cons, takeField_padded hour,
    takeField_padded minute, takeField_padded second, fraction, Time.ofParts?_self regular]
  rfl

theorem parseTime?_toChars {t : Time} (regular : t.IsRegular) : parseTime? t.toChars = some t := by
  rw [parseTime?, takeTime_toChars regular]
  rfl

/-- **A written moment is read back**, without the `Z` at its end. -/
theorem parseDateTime?_toChars {m : DateTime} (regular : m.time.IsRegular) :
    parseDateTime? (m.date.toChars ++ 'T' :: m.time.toChars) = some m := by
  rw [parseDateTime?, takeDate_toChars]
  simp only [Option.bind_eq_bind, Option.bind_some, takeChar_cons, takeTime_toChars regular]
  rfl

end Calendar

end SchemaBinding
