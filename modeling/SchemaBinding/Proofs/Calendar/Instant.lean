import SchemaBinding.Proofs.Calendar.Days
import SchemaBinding.Proofs.Calendar.Timezone
import SchemaBinding.Proofs.Calendar.Written

/-!
# Dates, times and instants

The canonical form of a date has no colon and that of a time of day no sign, so
that neither ends in what is read as a time zone, and that of a moment ends in a
`Z`. Every time of day that is read is regular, and stays so when it is shifted,
because offsets are whole minutes (`isRegular_of_minusOffset?`). So the canonical
form of a value that is read is read as the same value. The value of a literal
with an offset is the local moment less the offset, counted in seconds over all
days of the calendar, with its nanoseconds, so that outside leap seconds literals
are ordered as their instants are (`calendar_instants`).
-/

namespace SchemaBinding

namespace Calendar

variable {cs localPart : List Char} {m n : DateTime} {t : Time} {offset : Int}

/-! ## The parts of a literal -/

/-- The offset of a time zone is a number of minutes less than a day. -/
theorem offset_of_isReadZone {zone : List Char} (found : IsReadZone zone offset) :
    offset % 60 = 0 ∧ offset.natAbs < 86400 := by
  cases found with
  | utc => decide
  | offset signed two_hours two_minutes hour minute bounded =>
    unfold signedOffset
    split_ifs <;> omega

theorem offset_of_parted {offset : Option Int} (parted : Parted cs localPart offset) :
    offset.getD 0 % 60 = 0 ∧ (offset.getD 0).natAbs < 86400 := by
  cases parted with
  | zoned split found => exact offset_of_isReadZone found
  | unzoned unmarked => decide

/-- The parts of a literal are determined. -/
theorem Parted.unique {localPart' : List Char} {offset offset' : Option Int}
    (parted : Parted cs localPart offset) (parted' : Parted cs localPart' offset') :
    localPart = localPart' ∧ offset = offset' := by
  cases parted with
  | zoned split found =>
    cases parted' with
    | zoned split' found' =>
      have same := (splitTimezone_eq_offset_iff.2 ⟨_, split, found⟩).symm.trans
        (splitTimezone_eq_offset_iff.2 ⟨_, split', found'⟩)
      obtain ⟨rfl, zone⟩ := Prod.mk.inj same
      exact ⟨rfl, congrArg some (Zone.offset.inj zone)⟩
    | unzoned unmarked => exact absurd ⟨_, _, _, split, found⟩ unmarked
  | unzoned unmarked =>
    cases parted' with
    | zoned split' found' => exact absurd ⟨_, _, _, split', found'⟩ unmarked
    | unzoned _ => exact ⟨rfl, rfl⟩

/-- A literal without a `Z` and without a sign or a colon has no time zone. -/
theorem not_isZoned (utc : 'Z' ∉ cs) (unsigned : ':' ∉ cs ∨ ('+' ∉ cs ∧ '-' ∉ cs)) :
    ¬ IsZoned cs := by
  rintro ⟨before, zone, offset, rfl, found⟩
  cases found with
  | utc => exact utc (by simp)
  | offset signed two_hours two_minutes hour minute bounded =>
    rcases unsigned with colon | ⟨plus, minus⟩
    · exact colon (by simp)
    · rcases signed with rfl | rfl
      · exact plus (by simp)
      · exact minus (by simp)

theorem not_isZoned_of_parseDate? {d : Date} (read : parseDate? cs = some d) : ¬ IsZoned cs := by
  have known := isDateChar_of_parseDate? read
  exact not_isZoned (fun mem => absurd (known 'Z' mem) (by decide))
    (.inl fun mem => absurd (known ':' mem) (by decide))

theorem not_isZoned_of_parseTime? (read : parseTime? cs = some t) : ¬ IsZoned cs := by
  have known := isTimeChar_of_parseTime? read
  refine not_isZoned (fun mem => absurd (known 'Z' mem) (by decide)) (.inr ⟨?_, ?_⟩)
  · exact fun mem => absurd (known '+' mem) (by decide)
  · exact fun mem => absurd (known '-' mem) (by decide)

/-! ## Regular times -/

/-- The second that a local moment states. -/
def secondField? (cs : List Char) : Option Nat := do
  let (_, cs) ← takeDate cs
  let (_, cs) ← takeField (← takeChar 'T' cs)
  let (_, cs) ← takeField (← takeChar ':' cs)
  let (second, _) ← takeField (← takeChar ':' cs)
  return second

theorem isRegular_of_parseTime? (read : parseTime? cs = some t) : t.IsRegular := by
  simp only [parseTime?, takeTime, Option.bind_eq_bind, Option.bind_eq_some_iff] at read
  obtain ⟨⟨time, rest⟩, ⟨_, -, _, -, _, -, _, -, _, -, _, -, made⟩, read⟩ := read
  obtain ⟨made, -⟩ := Prod.mk.inj (Option.some.inj made)
  obtain ⟨-, rfl⟩ := eq_nil_of_ite read
  exact (Time.isRegular_of_ofParts? made).1

/-- A local moment is outside a leap second if and only if its second is below sixty. -/
theorem exists_secondField? (read : parseDateTime? cs = some m) :
    ∃ second, secondField? cs = some second ∧ m.time.IsRegular ∧
      (m.time.nanoseconds < 1000000000 ↔ second < 60) := by
  simp only [parseDateTime?, takeTime, Option.bind_eq_bind, Option.bind_eq_some_iff] at read
  obtain ⟨_, date, _, letter, ⟨time, rest⟩,
    ⟨_, hours, _, first, _, minutes, _, second, ⟨s, _⟩, seconds, _, -, made⟩, read⟩ := read
  obtain ⟨made, -⟩ := Prod.mk.inj (Option.some.inj made)
  obtain ⟨-, read⟩ := eq_nil_of_ite read
  obtain ⟨d, -, read⟩ := Option.bind_eq_some_iff.1 read
  obtain ⟨u, known, read⟩ := Option.bind_eq_some_iff.1 read
  obtain rfl := Option.some.inj read
  refine ⟨s, ?_, Time.isRegular_of_ofParts? (made.trans known)⟩
  simp only [secondField?, date, letter, hours, first, minutes, second, seconds,
    Option.bind_eq_bind, Option.bind_some]
  rfl

/-- Shifting by whole minutes keeps a leap second the last of its minute. -/
theorem isRegular_of_minusOffset? (regular : n.time.IsRegular) (minutes : offset % 60 = 0)
    (small : offset.natAbs < 86400) (shifted : n.minusOffset? offset = some m) :
    m.time.IsRegular := by
  obtain ⟨seconds, nanoseconds⟩ := (DateTime.minusOffset?_eq_some_iff small).1 shifted
  unfold DateTime.seconds at seconds
  unfold Time.IsRegular at regular ⊢
  omega

/-! ## Values and instants -/

/-- The instant that a literal denotes: that of its local moment, less the offset. -/
def DenotesInstant (literal : String) (i : Int) : Prop :=
  ∃ localPart offset n, Parted literal.toList localPart offset ∧ parseDateTime? localPart = some n ∧
    i = n.instant - 1000000000 * offset.getD 0

/-- The second that a literal states. -/
def StatesSecond (literal : String) (second : Nat) : Prop :=
  ∃ localPart offset, Parted literal.toList localPart offset ∧ secondField? localPart = some second

theorem parseDate_canonical (d : Date) : Space.parseDate (Space.canonical .date d) = .ok d := by
  have read := parseDate?_toChars d
  refine parseDate_eq_ok_iff.2 ⟨d.toChars, none, ?_, read⟩
  change Parted (String.ofList d.toChars).toList _ _
  rw [String.toList_ofList]
  exact .unzoned (not_isZoned_of_parseDate? read)

theorem parseTime_canonical (regular : t.IsRegular) :
    Space.parseTime (Space.canonical .time t) = .ok t := by
  have read := parseTime?_toChars regular
  refine parseTime_eq_ok_iff.2 ⟨t.toChars, none, ?_, read⟩
  change Parted (String.ofList t.toChars).toList _ _
  rw [String.toList_ofList]
  exact .unzoned (not_isZoned_of_parseTime? read)

theorem parseDateTime_canonical (regular : m.time.IsRegular) :
    Space.parseDateTime (Space.canonical .dateTime m) = .ok m := by
  refine parseDateTime_eq_ok_iff.2
    ⟨m.date.toChars ++ 'T' :: m.time.toChars, some 0, ?_, m, parseDateTime?_toChars regular, ?_⟩
  · change Parted (String.ofList m.toChars).toList _ _
    rw [String.toList_ofList]
    exact .zoned (by simp [DateTime.toChars]) .utc
  · exact (DateTime.minusOffset?_eq_some_iff (by decide)).2 ⟨(Int.sub_zero _).symm, rfl⟩

/-- What a literal is read as: its local moment with the offset subtracted from the seconds. -/
theorem parseDateTime_iff {literal : String} {offset : Option Int}
    (parted : Parted literal.toList localPart offset) (read : parseDateTime? localPart = some n) :
    Space.parseDateTime literal = .ok m ↔
      m.seconds = n.seconds - offset.getD 0 ∧ m.time.nanoseconds = n.time.nanoseconds := by
  rw [← DateTime.minusOffset?_eq_some_iff (offset_of_parted parted).2, parseDateTime_eq_ok_iff]
  constructor
  · rintro ⟨before, offset', parted', n', read', shifted⟩
    obtain ⟨rfl, rfl⟩ := parted.unique parted'
    obtain rfl := Option.some.inj (read.symm.trans read')
    exact shifted
  · exact fun shifted => ⟨localPart, offset, parted, n, read, shifted⟩

/-- A literal denotes the instant of the value that it is read as, and no other. -/
theorem denotesInstant_iff {literal : String} (denotes : Space.parseDateTime literal = .ok m)
    {i : Int} :
    DenotesInstant literal i ↔ i = m.instant := by
  obtain ⟨localPart, offset, parted, n, read, -⟩ := parseDateTime_eq_ok_iff.1 denotes
  obtain ⟨seconds, nanoseconds⟩ := (parseDateTime_iff parted read).1 denotes
  have instant : m.instant = n.instant - 1000000000 * offset.getD 0 := by
    rw [DateTime.instant, DateTime.instant, seconds, nanoseconds]
    omega
  constructor
  · rintro ⟨before, offset', n', parted', read', rfl⟩
    obtain ⟨rfl, rfl⟩ := parted.unique parted'
    obtain rfl := Option.some.inj (read.symm.trans read')
    exact instant.symm
  · rintro rfl
    exact ⟨localPart, offset, n, parted, read, instant⟩

/-- A literal whose second is below sixty denotes a moment outside a leap second. -/
theorem nanoseconds_lt_of_statesSecond {literal : String}
    (denotes : Space.parseDateTime literal = .ok m) {second : Nat}
    (states : StatesSecond literal second) (small : second < 60) :
    m.time.nanoseconds < 1000000000 := by
  obtain ⟨localPart, offset, parted, n, read, -⟩ := parseDateTime_eq_ok_iff.1 denotes
  obtain ⟨-, nanoseconds⟩ := (parseDateTime_iff parted read).1 denotes
  obtain ⟨second', states', -, outside⟩ := exists_secondField? read
  obtain ⟨before, offset', parted', states⟩ := states
  obtain ⟨rfl, rfl⟩ := parted.unique parted'
  obtain rfl := Option.some.inj (states.symm.trans states')
  rw [nanoseconds]
  exact outside.2 small

theorem isRegular_of_parseDateTime {literal : String}
    (denotes : Space.parseDateTime literal = .ok m) :
    m.time.IsRegular := by
  obtain ⟨localPart, offset, parted, n, read, shifted⟩ := parseDateTime_eq_ok_iff.1 denotes
  obtain ⟨minutes, small⟩ := offset_of_parted parted
  obtain ⟨-, -, regular, -⟩ := exists_secondField? read
  exact isRegular_of_minusOffset? regular minutes small shifted

/-- **Dates and times survive their canonical form, and moments are instants.** A date, a time of
day or a moment that a literal is read as is read from its canonical form too. A literal of a local
moment and an offset is read as the moment with the offset subtracted from its seconds, counted over
the days of the calendar, and with its nanoseconds, if there is one, and denotes its instant.
Moments that are read of literals with seconds below sixty are ordered as the instants that these
denote. -/
theorem calendar_instants :
    (∀ literal d, Space.parse .date literal = .ok d →
      Space.parse .date (Space.canonical .date d) = .ok d) ∧
    (∀ literal t, Space.parse .time literal = .ok t →
      Space.parse .time (Space.canonical .time t) = .ok t) ∧
    (∀ literal m, Space.parse .dateTime literal = .ok m →
      Space.parse .dateTime (Space.canonical .dateTime m) = .ok m ∧ ∀ i, DenotesInstant literal i ↔
        i = m.instant) ∧
    (∀ literal localPart offset n, Parted literal.toList localPart offset →
      parseDateTime? localPart = some n →
      ∀ m, Space.parse .dateTime literal = .ok m ↔
        m.seconds = n.seconds - offset.getD 0 ∧ m.time.nanoseconds = n.time.nanoseconds) ∧
    ∀ literal literal' m m', Space.parse .dateTime literal = .ok m →
      Space.parse .dateTime literal' = .ok m' →
      ∀ second second', StatesSecond literal second → second < 60 → StatesSecond literal' second' →
        second' < 60 →
        ∀ i i', DenotesInstant literal i → DenotesInstant literal' i' →
          Space.compare .dateTime m m' = some (Ord.compare i i') := by
  refine ⟨fun literal d read => parseDate_canonical d, fun literal t read =>
    ?_, fun literal m read => ?_,
    fun literal localPart offset n parted read m => parseDateTime_iff parted read, ?_⟩
  · obtain ⟨localPart, offset, -, found⟩ := parseTime_eq_ok_iff.1 read
    exact parseTime_canonical (isRegular_of_parseTime? found)
  · exact ⟨parseDateTime_canonical (isRegular_of_parseDateTime read), fun i =>
      denotesInstant_iff read⟩
  · intro literal literal' m m' read read' second second' states small states' small' i i'
      denotes denotes'
    rw [(denotesInstant_iff read).1 denotes, (denotesInstant_iff read').1 denotes']
    exact congrArg some (DateTime.compare_eq (nanoseconds_lt_of_statesSecond read states small)
      (nanoseconds_lt_of_statesSecond read' states' small'))

/-- The last nanosecond of a leap day at an offset, and the next one without a time zone; a date
before the year one, and a leap second. -/
theorem calendar_instants_leap_day :
    (∃ m m' : DateTime, Space.parse .dateTime "2024-02-29T23:59:59.999999999-01:00" = .ok m ∧
      Space.parse .dateTime "2024-03-01T01:00:00" = .ok m' ∧
      Space.parse .dateTime (Space.canonical .dateTime m) = .ok m ∧
      m.seconds = 63844938000 - 1 ∧ Space.compare .dateTime m m' = some .lt) ∧
    (∃ d : Date, Space.parse .date "-0044-03-15+14:00" = .ok d ∧
      Space.parse .date (Space.canonical .date d) = .ok d) ∧
    ∃ t : Time, Space.parse .time "23:59:60.5Z" = .ok t ∧
      Space.parse .time (Space.canonical .time t) = .ok t := by
  obtain ⟨dates, times, moments, -, ordered⟩ := calendar_instants
  refine ⟨⟨⟨⟨2024, 3, 1, by decide, by decide, by decide⟩, ⟨3599, 999999999, by decide, by decide⟩⟩,
    ⟨⟨2024, 3, 1, by decide, by decide, by decide⟩, ⟨3600, 0, by decide, by decide⟩⟩, ?_⟩,
    ⟨⟨-44, 3, 15, by decide, by decide, by decide⟩, ?_⟩,
    ⟨⟨86399, 1500000000, by decide, by decide⟩, ?_⟩⟩
  · have read : Space.parse .dateTime "2024-02-29T23:59:59.999999999-01:00" = .ok
        ⟨⟨2024, 3, 1, by decide, by decide, by decide⟩, ⟨3599, 999999999, by decide, by decide⟩⟩ :=
          by rfl
    have read' : Space.parse .dateTime "2024-03-01T01:00:00" = .ok
        ⟨⟨2024, 3, 1, by decide, by decide, by decide⟩, ⟨3600, 0, by decide, by decide⟩⟩ := by rfl
    have parted : Parted "2024-02-29T23:59:59.999999999-01:00".toList
        "2024-02-29T23:59:59.999999999".toList (some (-3600)) := parted_of_splitOffset (by rfl)
    have parted' : Parted "2024-03-01T01:00:00".toList "2024-03-01T01:00:00".toList none :=
      parted_of_splitOffset (by rfl)
    refine ⟨read, read', (moments _ _ read).1, by rfl, ?_⟩
    rw [ordered _ _ _ _ read read' 59 0 ⟨_, _, parted, by rfl⟩ (by decide) ⟨_, _, parted', by rfl⟩
      (by decide) _ _ (((moments _ _ read).2 _).2 rfl) (((moments _ _ read').2 _).2 rfl)]
    rfl
  · have read : Space.parse .date "-0044-03-15+14:00" =
      .ok ⟨-44, 3, 15, by decide, by decide, by decide⟩ := by rfl
    exact ⟨read, dates _ _ read⟩
  · have read : Space.parse .time "23:59:60.5Z" = .ok ⟨86399, 1500000000, by decide, by decide⟩ :=
      by rfl
    exact ⟨read, times _ _ read⟩

end Calendar

end SchemaBinding
