import SchemaBinding.Proofs.Binding.Literal
import SchemaBinding.Proofs.Calendar.Instant
import SchemaBinding.Proofs.Value.Rounding

/-!
# Stamps that are written again

A stamp has fields of fixed width, a year of four digits among them, and an
offset. Its value is the moment shifted to universal time, which may fall into the
year before the first or after the last one that has four digits. Where the year
has four digits the canonical form is a stamp of the same value
(`parseStamp?_toChars`); otherwise the year is written with a sign, which no stamp
begins with (`parseStamp?_of_signed`). A shift is less than a day, so this can only
happen on the day before the first year or on the day after the last
(`edge_of_parseStamp?`). So a stamp that is read is read again from its canonical
form if and only if its year in universal time has four digits (`ofLiteral_stamp`).
-/

namespace SchemaBinding

namespace Calendar

open Text

variable {cs rest : List Char} {m n : DateTime} {t : Time} {width k : Nat} {offset : Int}

/-! ## Fields -/

/-- **A field of fixed width is read back.** -/
theorem takeFixed_padded (positive : 0 < width) (fits : k < 10 ^ width) (rest : List Char) :
    takeFixed width (padded width k ++ rest) = some (k, rest) := by
  rw [takeFixed, takeDigits_padded positive fits (le_refl width), Option.map_some]
  exact congrArg (fun k => some (k, rest)) (valueOf_padded width k)

/-- No field begins with a character that is no digit. -/
theorem takeFixed_cons {c : Char} (other : c.isDigit = false) (rest : List Char) :
    takeFixed (width + 1) (c :: rest) = none := by
  rw [takeFixed, takeDigits, List.take_succ_cons,
    List.takeWhile_cons_of_neg (Bool.eq_false_iff.1 other),
    if_neg fun taken => taken.2 rfl, Option.map_none]

theorem takeNanoseconds_padded_zone (positive : 0 < width) (few : width ≤ 9)
    (fits : k < 10 ^ width) :
    takeNanoseconds (padded width k ++ ['Z']) = some (k * 10 ^ (9 - width), ['Z']) := by
  have full := length_padded positive fits
  have taken : takeDigits 1 9 (padded width k ++ ['Z']) = some (padded width k, ['Z']) :=
    takeDigits_append_cons (fun _ mem => isDigit_of_mem_padded mem) (padded_ne_nil width k)
      (by omega) (by omega) (by decide) []
  rw [takeNanoseconds, taken]
  simp only [Option.bind_eq_bind, Option.bind_some, valueOf_padded, full]
  rfl

/-- **A written fraction is read back** before the letter of universal time. -/
theorem takeFraction_fractionChars_zone (small : k < 1000000000) :
    takeFraction (Time.fractionChars k ++ ['Z']) = some (k, ['Z']) := by
  unfold Time.fractionChars
  split_ifs with none three six
  · rw [none]
    rfl
  · rw [List.cons_append, takeFraction,
      takeNanoseconds_padded_zone (by decide) (by decide) (by omega)]
    congr 2
    omega
  · rw [List.cons_append, takeFraction,
      takeNanoseconds_padded_zone (by decide) (by decide) (by omega)]
    congr 2
    omega
  · rw [List.cons_append, takeFraction, takeNanoseconds_padded_zone (by decide) (by decide) small]
    congr 2
    omega

/-! ## The parts of a stamp -/

/-- Takes the date of a stamp off the front: fields of fixed width with dashes between them. -/
def takeStampDate (cs : List Char) : Option (Option Date × List Char) := do
  let (year, cs) ← takeFixed 4 cs
  let (month, cs) ← takeFixed 2 (← takeChar '-' cs)
  let (day, cs) ← takeFixed 2 (← takeChar '-' cs)
  return (Date.ofParts? year month day, cs)

/-- Passes over what stands between the date and the time of a stamp. -/
def takeStampLetter : List Char → Option (List Char)
  | 'T' :: rest | 't' :: rest | ' ' :: rest => some rest
  | _ => none

/-- Takes the time of day of a stamp off the front: fields of fixed width with colons between them,
and a fraction. -/
def takeStampTime (cs : List Char) : Option (Option Time × List Char) := do
  let (hour, cs) ← takeFixed 2 cs
  let (minute, cs) ← takeFixed 2 (← takeChar ':' cs)
  let (second, cs) ← takeFixed 2 (← takeChar ':' cs)
  let (nanosecond, cs) ← takeFraction cs
  return (Time.ofParts? hour minute second nanosecond, cs)

/-- **A stamp is a date, a time of day and an offset.** -/
theorem parseStamp?_eq (cs : List Char) : parseStamp? cs = (do
    let (date, cs) ← takeStampDate cs
    let cs ← takeStampLetter cs
    let (time, cs) ← takeStampTime cs
    let (offset, rest) ← takeOffset cs
    if rest.isEmpty then DateTime.minusOffset? ⟨← date, ← time⟩ offset else none) := by
  unfold parseStamp? takeStampDate takeStampTime
  simp -zeta only [bind_assoc, pure_bind]
  refine bind_congr fun (year, cs) => bind_congr fun cs => bind_congr fun (month, cs) =>
    bind_congr fun cs =>
    bind_congr fun (day, cs) => ?_
  change _ = Option.bind (takeStampLetter cs) _
  dsimp only
  split
  · rfl
  · rfl
  · rfl
  · next upper lower blank =>
    have none : takeStampLetter cs = none := by
      unfold takeStampLetter
      split
      · exact absurd rfl (upper _)
      · exact absurd rfl (lower _)
      · exact absurd rfl (blank _)
      · rfl
    rw [none]
    rfl

/-! ## Written stamps -/

/-- Whether a moment is in a year that has four digits. -/
def DateTime.HasStampYear (m : DateTime) : Prop := 0 ≤ m.date.year ∧ m.date.year ≤ 9999

theorem takeStampDate_toChars {d : Date} (low : 0 ≤ d.year) (high : d.year ≤ 9999)
    (rest : List Char) :
    takeStampDate (d.toChars ++ rest) = some (some d, rest) := by
  have year : d.year.natAbs < 10 ^ 4 := by omega
  have month : d.month < 10 ^ 2 := by have := d.month_mem; omega
  have day : d.day < 10 ^ 2 := by have := d.day_mem; have := daysIn_le d.year d.month; omega
  have made : Date.ofParts? (d.year.natAbs : Int) d.month d.day = some d :=
    Date.ofParts?_eq_some_iff.2 ⟨by omega, rfl, rfl⟩
  have split : d.toChars ++ rest =
      padded 4 d.year.natAbs ++ '-' :: (padded 2 d.month ++ '-' :: (padded 2 d.day ++ rest)) := by
    simp only [Date.toChars, Date.yearChars, if_pos (show 0 ≤ d.year ∧ d.year < 10000 by omega),
      List.append_assoc, List.cons_append]
  rw [split, takeStampDate]
  simp only [Option.bind_eq_bind, Option.bind_some, takeChar_cons,
    takeFixed_padded (by decide) year,
    takeFixed_padded (by decide) month, takeFixed_padded (by decide) day, made]
  rfl

theorem takeStampTime_toChars (regular : t.IsRegular) :
    takeStampTime (t.toChars ++ ['Z']) = some (some t, ['Z']) := by
  have seconds := t.seconds_lt
  have nanoseconds := t.nanoseconds_lt
  have hour : t.seconds / 3600 < 10 ^ 2 := by omega
  have minute : t.seconds / 60 % 60 < 10 ^ 2 := by omega
  have second : t.seconds % 60 + t.nanoseconds / 1000000000 < 10 ^ 2 := by omega
  have fraction := takeFraction_fractionChars_zone
    (Nat.mod_lt t.nanoseconds (show 0 < 1000000000 by decide))
  have split : t.toChars ++ ['Z'] = padded 2 (t.seconds / 3600) ++
    ':' :: (padded 2 (t.seconds / 60 % 60) ++
      ':' :: (padded 2 (t.seconds % 60 + t.nanoseconds / 1000000000) ++
        (Time.fractionChars (t.nanoseconds % 1000000000) ++ ['Z']))) := by
    simp only [Time.toChars, List.append_assoc, List.cons_append]
  rw [split, takeStampTime]
  simp only [Option.bind_eq_bind, Option.bind_some, takeChar_cons,
    takeFixed_padded (by decide) hour,
    takeFixed_padded (by decide) minute, takeFixed_padded (by decide) second, fraction,
    Time.ofParts?_self regular]
  rfl

/-- **A written moment is a stamp of itself** if its year has four digits. -/
theorem parseStamp?_toChars (regular : m.time.IsRegular) (year : m.HasStampYear) :
    parseStamp? m.toChars = some m := by
  have split : m.toChars = m.date.toChars ++ 'T' :: (m.time.toChars ++ ['Z']) := by
    simp only [DateTime.toChars, List.append_assoc, List.cons_append]
  have unshifted : m.minusOffset? 0 = some m :=
    (DateTime.minusOffset?_eq_some_iff (by decide)).2 ⟨(Int.sub_zero _).symm, rfl⟩
  rw [parseStamp?_eq, split]
  refine Option.bind_eq_some_iff.2
    ⟨_, takeStampDate_toChars year.1 year.2 _, Option.bind_eq_some_iff.2 ⟨_, rfl, ?_⟩⟩
  refine Option.bind_eq_some_iff.2
    ⟨_, takeStampTime_toChars regular, Option.bind_eq_some_iff.2 ⟨(0, []), rfl, ?_⟩⟩
  dsimp only
  rw [if_pos List.isEmpty_nil]
  exact Option.bind_eq_some_iff.2 ⟨_, rfl, Option.bind_eq_some_iff.2 ⟨_, rfl, unshifted⟩⟩

/-- **A moment whose year is written with a sign is no stamp.** -/
theorem parseStamp?_of_signed (signed : ¬ m.HasStampYear) : parseStamp? m.toChars = none := by
  have beyond : ¬ (0 ≤ m.date.year ∧ m.date.year < 10000) :=
    fun within => signed ⟨within.1, by omega⟩
  have sign : ∃ c rest, m.toChars = c :: rest ∧ c.isDigit = false := by
    simp only [DateTime.toChars, Date.toChars, Date.yearChars, if_neg beyond, List.cons_append]
    exact ⟨_, _, rfl, by split_ifs <;> rfl⟩
  obtain ⟨c, rest, same, other⟩ := sign
  rw [parseStamp?_eq, takeStampDate, same, takeFixed_cons other]
  rfl

/-! ## Stamps that are read -/

theorem takeFixed_lt (taken : takeFixed width cs = some (k, rest)) : k < 10 ^ width := by
  obtain ⟨⟨ds, rest'⟩, digits, same⟩ := Option.map_eq_some_iff.1 taken
  obtain ⟨rfl, -⟩ := Prod.mk.inj same
  obtain ⟨-, all, -⟩ := eq_append_of_takeDigits digits
  have short : ds.length ≤ width := by
    rw [takeDigits] at digits
    split_ifs at digits
    obtain ⟨rfl, -⟩ := Prod.mk.inj (Option.some.inj digits)
    exact (List.takeWhile_prefix _).length_le.trans (List.length_take_le ..)
  exact (Decimal.valueOf_lt all).trans_le (Nat.pow_le_pow_right (by decide) short)

/-- The hours and minutes of an offset make less than a day. -/
theorem offset_of_takeFields {sign : Int → Int} (signed : ∀ n, sign n = n ∨ sign n = -n)
    (taken : takeOffset.takeFields cs sign = some (offset, rest)) :
    offset % 60 = 0 ∧ offset.natAbs < 86400 := by
  simp only [takeOffset.takeFields, Option.bind_eq_bind, Option.bind_eq_some_iff] at taken
  obtain ⟨⟨hours, _⟩, -, _, -, ⟨minutes, _⟩, -, same⟩ := taken
  split_ifs at same with small
  · obtain ⟨rfl, -⟩ := Prod.mk.inj (Option.some.inj same)
    dsimp only at small ⊢
    rcases signed (((hours : Int) * 60 + minutes) * 60) with plus | minus <;> omega

/-- The offset of a stamp is a number of minutes less than a day. -/
theorem offset_of_takeOffset (taken : takeOffset cs = some (offset, rest)) :
    offset % 60 = 0 ∧ offset.natAbs < 86400 := by
  have utc {rest' : List Char} (same : some ((0 : Int), rest') = some (offset, rest)) :
      offset % 60 = 0 ∧ offset.natAbs < 86400 := by
    obtain ⟨rfl, -⟩ := Prod.mk.inj (Option.some.inj same)
    decide
  unfold takeOffset at taken
  split at taken
  · exact utc taken
  · exact utc taken
  · exact offset_of_takeFields (fun n => .inl rfl) taken
  · exact offset_of_takeFields (fun n => .inr rfl) taken
  · exact offset_of_takeFields (fun n => .inr rfl) taken
  · cases taken

/-- **A stamp is a local moment in a year of four digits**, and an offset of whole minutes less than
a day. -/
theorem exists_of_parseStamp? (read : parseStamp? cs = some m) :
    ∃ (n : DateTime) (offset : Int), n.HasStampYear ∧ n.time.IsRegular ∧ offset % 60 = 0 ∧
      offset.natAbs < 86400 ∧
      n.minusOffset? offset = some m := by
  rw [parseStamp?_eq] at read
  obtain ⟨⟨date?, _⟩, dates, read⟩ := Option.bind_eq_some_iff.1 read
  obtain ⟨_, -, read⟩ := Option.bind_eq_some_iff.1 read
  obtain ⟨⟨time?, _⟩, times, read⟩ := Option.bind_eq_some_iff.1 read
  obtain ⟨⟨offset, rest⟩, zone, read⟩ := Option.bind_eq_some_iff.1 read
  obtain ⟨-, read⟩ := eq_nil_of_ite read
  obtain ⟨date, someDate, read⟩ := Option.bind_eq_some_iff.1 read
  obtain ⟨time, someTime, read⟩ := Option.bind_eq_some_iff.1 read
  subst someDate someTime
  obtain ⟨minutes, small⟩ := offset_of_takeOffset zone
  refine ⟨⟨date, time⟩, offset, ?_, ?_, minutes, small, read⟩
  · simp only [takeStampDate, Option.bind_eq_bind, Option.bind_eq_some_iff] at dates
    obtain ⟨⟨year, _⟩, years, _, -, _, -, _, -, _, -, same⟩ := dates
    obtain ⟨made, -⟩ := Prod.mk.inj (Option.some.inj same)
    have four := takeFixed_lt years
    have stated := (Date.ofParts?_eq_some_iff.1 made).1
    dsimp only at stated four
    unfold DateTime.HasStampYear
    dsimp only
    omega
  · simp only [takeStampTime, Option.bind_eq_bind, Option.bind_eq_some_iff] at times
    obtain ⟨_, -, _, -, _, -, _, -, _, -, _, -, same⟩ := times
    obtain ⟨made, -⟩ := Prod.mk.inj (Option.some.inj same)
    exact (Time.isRegular_of_ofParts? made).1

theorem isRegular_of_parseStamp? (read : parseStamp? cs = some m) : m.time.IsRegular := by
  obtain ⟨n, offset, -, regular, minutes, small, shifted⟩ := exists_of_parseStamp? read
  exact isRegular_of_minusOffset? regular minutes small shifted

/-! ## The edges of the years of four digits -/

/-- The day before is in the same year, or the last of the year before. -/
theorem Date.year_of_previous? {d e : Date} (found : d.previous? = some e) :
    e.year = d.year ∨ e.year = d.year - 1 ∧ e.month = 12 ∧ e.day = 31 := by
  unfold previous? at found
  split_ifs at found
  · exact .inl (ofParts?_eq_some_iff.1 found).1
  · exact .inl (ofParts?_eq_some_iff.1 found).1
  · exact .inr (ofParts?_eq_some_iff.1 found)

/-- The next day is in the same year, or the first of the next year. -/
theorem Date.year_of_next? {d e : Date} (found : d.next? = some e) :
    e.year = d.year ∨ e.year = d.year + 1 ∧ e.month = 1 ∧ e.day = 1 := by
  unfold next? at found
  split_ifs at found
  · exact .inl (ofParts?_eq_some_iff.1 found).1
  · exact .inl (ofParts?_eq_some_iff.1 found).1
  · exact .inr (ofParts?_eq_some_iff.1 found)

/-- The days next to the years of four digits: the last before them and the first after them. -/
def Date.IsEdge (d : Date) : Prop :=
  d.year = -1 ∧ d.month = 12 ∧ d.day = 31 ∨ d.year = 10000 ∧ d.month = 1 ∧ d.day = 1

/-- **A stamp outside the years of four digits is on a day next to them.** -/
theorem isEdge_of_parseStamp? (read : parseStamp? cs = some m) (signed : ¬ m.HasStampYear) :
    m.date.IsEdge := by
  obtain ⟨n, offset, ⟨low, high⟩, -, -, -, shifted⟩ := exists_of_parseStamp? read
  unfold DateTime.HasStampYear at signed
  unfold Date.IsEdge
  unfold DateTime.minusOffset? at shifted
  dsimp only at shifted
  split_ifs at shifted
  · obtain ⟨d, found, rfl⟩ := Option.map_eq_some_iff.1 shifted
    have := Date.year_of_previous? found
    dsimp only at signed ⊢
    omega
  · obtain rfl := Option.some.inj shifted
    exact absurd ⟨low, high⟩ signed
  · obtain ⟨d, found, rfl⟩ := Option.map_eq_some_iff.1 shifted
    have := Date.year_of_next? found
    dsimp only at signed ⊢
    omega

/-! ## Literals -/

/-- The characters of written moments are not blank. -/
theorem unblank_toChars (m : DateTime) : ∀ c ∈ m.toChars, isBlank c = false := by
  have padded (width k : Nat) : ∀ c ∈ padded width k, isBlank c = false :=
    fun c mem => Space.unblank_of_numeral (.inl (isDigit_of_mem_padded mem))
  have year : ∀ c ∈ Date.yearChars m.date.year, isBlank c = false := by
    unfold Date.yearChars
    split_ifs
    · exact padded 4 _
    · exact List.forall_mem_cons.2 ⟨by decide, padded 4 _⟩
    · exact List.forall_mem_cons.2 ⟨by decide, padded 4 _⟩
  have fraction :
    ∀ c ∈ Time.fractionChars (m.time.nanoseconds % 1000000000), isBlank c = false := by
    unfold Time.fractionChars
    split_ifs
    · exact List.forall_mem_nil _
    all_goals exact List.forall_mem_cons.2 ⟨by decide, padded _ _⟩
  simp only [DateTime.toChars, Date.toChars, Time.toChars, List.forall_mem_append,
    List.forall_mem_cons]
  exact ⟨⟨⟨⟨year, by decide, padded 2 _⟩, by decide, padded 2 _⟩, by decide,
    ⟨⟨padded 2 _, by decide, padded 2 _⟩, by decide, padded 2 _⟩, fraction⟩, by
    decide, List.forall_mem_nil _⟩

end Calendar

namespace SimpleType

open Calendar

/-- Stamps are read from literals after the treatment of white space, without further checks. -/
theorem ofLiteral_stamp_eq (literal : String) :
    (SimpleType.builtin .dateTimeStamp).ofLiteral literal =
    Space.parseStamp (Whitespace.collapse.apply literal) := by
  change (Space.parseStamp (Whitespace.collapse.apply literal) >>= fun m => pure m) = _
  exact bind_pure _

/-- **Which stamps are read again.** Let a literal of a stamp be read. The text that is written for
its value is read as the same value if and only if the year of the value in universal time has four
digits; otherwise the text is refused as no stamp. In this case the value is on the last day before
the years of four digits, or on the first day after them. -/
theorem ofLiteral_stamp {literal : String} {m : DateTime}
    (denotes : (SimpleType.builtin .dateTimeStamp).ofLiteral literal = .ok m) :
    let written := (SimpleType.builtin .dateTimeStamp).text m
    ((SimpleType.builtin .dateTimeStamp).ofLiteral written = .ok m ↔ m.HasStampYear) ∧
      (¬ m.HasStampYear →
        (SimpleType.builtin .dateTimeStamp).ofLiteral written =
        .error (.invalidLiteral written .dateTimeStamp) ∧
          m.date.IsEdge) := by
  intro written
  have chars : written.toList = m.toChars := String.toList_ofList
  have kept : Whitespace.collapse.apply written = written :=
    Whitespace.apply_of_unblank _ (chars ▸ unblank_toChars m)
  have read : parseStamp? (Whitespace.collapse.apply literal).toList = some m := by
    rw [ofLiteral_stamp_eq, Space.parseStamp] at denotes
    split at denotes
    · next found => exact found.trans (congrArg some (Except.ok.inj denotes))
    · cases denotes
  have again :
    (SimpleType.builtin .dateTimeStamp).ofLiteral written = Space.parseStamp written := by
    rw [ofLiteral_stamp_eq, kept]
  by_cases year : m.HasStampYear
  · have reread : (SimpleType.builtin .dateTimeStamp).ofLiteral written = .ok m := by
      rw [again, Space.parseStamp, chars, parseStamp?_toChars (isRegular_of_parseStamp? read) year]
      rfl
    exact ⟨iff_of_true reread year, fun signed => absurd year signed⟩
  · have refused : (SimpleType.builtin .dateTimeStamp).ofLiteral written =
        .error (.invalidLiteral written .dateTimeStamp) := by
      rw [again, Space.parseStamp, chars, parseStamp?_of_signed year]
      rfl
    have differs : (SimpleType.builtin .dateTimeStamp).ofLiteral written ≠ .ok m := by
      intro same
      cases refused.symm.trans same
    exact ⟨iff_of_false differs year, fun _ => ⟨refused, isEdge_of_parseStamp? read year⟩⟩

/-- The last moment of a leap day that has a fraction, at an offset that leads into the next
month. -/
theorem ofLiteral_stamp_leap_day :
    let m : DateTime := ⟨⟨2024, 3, 1, by decide, by decide, by decide⟩,
      ⟨3599, 999000000, by decide, by decide⟩⟩
    (SimpleType.builtin .dateTimeStamp).ofLiteral " 2024-02-29t23:59:59.9990-01:00" = .ok m ∧
      (SimpleType.builtin .dateTimeStamp).text m = "2024-03-01T00:59:59.999Z" ∧
      (SimpleType.builtin .dateTimeStamp).ofLiteral ((SimpleType.builtin .dateTimeStamp).text m) =
      .ok m := by
  intro m
  have denotes : (SimpleType.builtin .dateTimeStamp).ofLiteral " 2024-02-29t23:59:59.9990-01:00" =
    .ok m := by
    rw [ofLiteral_stamp_eq]
    rfl
  exact ⟨denotes, by decide +kernel, (ofLiteral_stamp denotes).1.2 ⟨by decide, by decide⟩⟩

/-- **Not every stamp that is written is read again**: the first moment of the first year is shifted
into the year before. -/
theorem not_forall_ofLiteral_stamp :
    ¬ ∀ (literal : String) (m : DateTime),
      (SimpleType.builtin .dateTimeStamp).ofLiteral literal = .ok m →
      (SimpleType.builtin .dateTimeStamp).ofLiteral ((SimpleType.builtin .dateTimeStamp).text m) =
        .ok m := by
  intro all
  have denotes : (SimpleType.builtin .dateTimeStamp).ofLiteral "0000-01-01T00:00:00+01:00" =
      .ok ⟨⟨-1, 12, 31, by decide, by decide, by decide⟩, ⟨82800, 0, by decide, by decide⟩⟩ :=
      by rfl
  have refused : ((SimpleType.builtin .dateTimeStamp).ofLiteral "-0001-12-31T23:00:00Z").isOk =
    false := by decide +kernel
  have again := all _ _ denotes
  rw [show (SimpleType.builtin .dateTimeStamp).text
    ⟨⟨-1, 12, 31, by decide, by decide, by decide⟩, ⟨82800, 0, by decide, by decide⟩⟩ =
      "-0001-12-31T23:00:00Z" by decide +kernel]
    at again
  rw [again] at refused
  cases refused

end SimpleType

end SchemaBinding
