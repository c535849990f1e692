import SchemaBinding.Proofs.Binding.Numeral
import SchemaBinding.Proofs.Calendar.Reading

/-!
# Time zones at the end of a literal

A time zone is a `Z`, or a sign and two fields of two bytes with a colon between
them (`Fields`). It is found at positions in the bytes of the literal: the last
six are cut off, and the fields are the slices before and after the fourth. The
positions are checked first, and the bytes of the sign and of the colon make the
others boundaries, so that no slice fails (`splitBytes?_eq`). The fields are read
as integers with a sign of their own, and only their sum is kept below a day. So
besides the zones that have two digits in each field, and minutes below sixty,
others are read that have a sign in a field or more minutes
(`splitTimezone_exact`). No date, time of day or moment ends in what could be
fields, so a literal is read as zoned if and only if it ends in a zone that is
read, and as a local one otherwise (`Parted`, `parseDateTime_eq_ok_iff`).
-/

namespace SchemaBinding

namespace Calendar

open Text

/-! ## Splitting -/

/-- The fields of a time zone at the end of a literal, and what is before them. -/
structure Fields (cs localPart : List Char) (sign : Char) (hours minutes : List Char) : Prop where
  split : cs = localPart ++ sign :: (hours ++ ':' :: minutes)
  signed : sign = '+' ∨ sign = '-'
  hours_bytes : (bytes hours).length = 2
  minutes_bytes : (bytes minutes).length = 2

/-- Whether a literal ends in the fields of a time zone. -/
def HasFields (cs : List Char) : Prop :=
  ∃ localPart sign hours minutes, Fields cs localPart sign hours minutes

/-- The split of a literal with these fields at its end. -/
def readFields (cs localPart : List Char) (sign : Char) (hours minutes : List Char) :
    List Char × Zone :=
  match integer? hours, integer? minutes with
  | some h, some m =>
    let seconds := (h * 60 + m) * 60
    let offset := if sign = '-' then -seconds else seconds
    if isOffset offset then (localPart, .offset offset) else (cs, .invalid)
  | _, _ => (cs, .invalid)

/-- The split of a literal by positions in its bytes: the last six of them are cut off, the first
and the fourth of these are compared, and the slices from the second to the third and from the fifth
to the sixth are read. There is no result if a byte is asked for that is not there, or a slice that
does not begin and end at boundaries. -/
def splitBytes? (cs : List Char) : Option (List Char × Zone) :=
  if cs.getLast? = some 'Z' then some (cs.dropLast, .offset 0)
  else if (bytes cs).length < 6 then some (cs, .none)
  else
    match cutAt? ((bytes cs).length - 6) cs with
    | Option.none => some (cs, .none)
    | some (localPart, zone) => do
      let first ← (bytes zone)[0]?
      let fourth ← (bytes zone)[3]?
      if (first = '+'.toUInt8 ∨ first = '-'.toUInt8) ∧ fourth = ':'.toUInt8 then
        let hours ← slice? 1 3 zone
        let minutes ← slice? 4 6 zone
        return readFields cs localPart (if first = '-'.toUInt8 then '-' else '+') hours minutes
      else return (cs, .none)

variable {cs localPart hours minutes zone : List Char} {sign : Char}

theorem bytes_sign (signed : sign = '+' ∨ sign = '-') : bytes [sign] = [sign.toUInt8] := by
  rcases signed with rfl | rfl <;> rfl

/-- The end that is cut off has six bytes. -/
theorem length_bytes_of_cutAt? (cut : cutAt? ((bytes cs).length - 6) cs = some (localPart, zone))
    (long : 6 ≤ (bytes cs).length) : (bytes zone).length = 6 := by
  obtain ⟨split, before⟩ := cutAt?_eq_some_iff.1 cut
  have whole := congrArg (fun cs => (bytes cs).length) split
  simp only [length_bytes_append] at whole
  omega

/-- The bytes of a sign, two fields and the colon between them. -/
theorem length_bytes_zone (signed : sign = '+' ∨ sign = '-') :
    (bytes (sign :: (hours ++ ':' :: minutes))).length =
      (bytes hours).length + (bytes minutes).length + 2 := by
  have first : (bytes [sign]).length = 1 := congrArg List.length (bytes_sign signed)
  have colon : (bytes [':']).length = 1 := rfl
  have split : sign :: (hours ++ ':' :: minutes) = [sign] ++ (hours ++ ([':'] ++ minutes)) := rfl
  rw [split, length_bytes_append, length_bytes_append, length_bytes_append, first, colon]
  omega

namespace Fields

theorem cutAt?_eq (fields : Fields cs localPart sign hours minutes) :
    6 ≤ (bytes cs).length ∧ cutAt? ((bytes cs).length - 6) cs =
      some (localPart, sign :: (hours ++ ':' :: minutes)) := by
  have length := @length_bytes_zone hours minutes sign fields.signed
  rw [fields.hours_bytes, fields.minutes_bytes] at length
  have whole : (bytes cs).length = (bytes localPart).length + 6 := by
    rw [fields.split, length_bytes_append, length]
  exact ⟨by omega, cutAt?_eq_some_iff.2 ⟨fields.split, by omega⟩⟩

end Fields

/-- The last six bytes of a literal are the fields of a time zone if the first and the fourth are
those of a sign and a colon. -/
theorem fields_of_bytes (cut : cutAt? ((bytes cs).length - 6) cs = some (localPart, zone))
    (long : 6 ≤ (bytes cs).length) (signed : sign = '+' ∨ sign = '-')
    (first : (bytes zone)[0]? = some sign.toUInt8) (fourth : (bytes zone)[3]? = some ':'.toUInt8) :
    ∃ hours minutes, zone = sign :: (hours ++ ':' :: minutes) ∧
      Fields cs localPart sign hours minutes := by
  have ascii : isAscii sign = true := by rcases signed with rfl | rfl <;> rfl
  obtain ⟨split, -⟩ := cutAt?_eq_some_iff.1 cut
  have six := length_bytes_of_cutAt? cut long
  obtain ⟨none, rest, same, empty⟩ := (getElem?_bytes_eq_some_iff ascii).1 first
  obtain rfl : none = [] :=
    List.length_eq_zero_iff.1 (by have := length_le_length_bytes none; omega)
  obtain ⟨start, minutes, same', three⟩ :=
    (getElem?_bytes_eq_some_iff (show isAscii ':' = true from rfl)).1 fourth
  rw [List.nil_append] at same
  subst same
  cases start with
  | nil => cases three
  | cons c hours =>
    obtain ⟨rfl, rfl⟩ := List.cons.inj same'
    have two := length_bytes_append [sign] hours
    rw [bytes_sign signed] at two
    have two : 3 = 1 + (bytes hours).length := three.symm.trans two
    have six : (bytes (sign :: (hours ++ ':' :: minutes))).length = 6 := six
    rw [length_bytes_zone signed] at six
    exact ⟨hours, minutes, rfl, split, signed, by omega, by omega⟩

/-- **The split by positions at fields**: the bytes that are compared are there, and the slices are
the fields. -/
theorem splitBytes?_of_fields (notUtc : cs.getLast? ≠ some 'Z')
    (fields : Fields cs localPart sign hours minutes) :
    splitBytes? cs = some (readFields cs localPart sign hours minutes) := by
  obtain ⟨long, cut⟩ := fields.cutAt?_eq
  have first : (bytes (sign :: (hours ++ ':' :: minutes)))[0]? = some sign.toUInt8 := by
    rcases fields.signed with rfl | rfl <;> rfl
  have fourth : (bytes (sign :: (hours ++ ':' :: minutes)))[3]? = some ':'.toUInt8 := by
    refine (getElem?_bytes_eq_some_iff rfl).2 ⟨sign :: hours, minutes, rfl, ?_⟩
    have hours_bytes := length_bytes_append [sign] hours
    rw [bytes_sign fields.signed, fields.hours_bytes] at hours_bytes
    exact hours_bytes
  have inner : slice? 1 3 (sign :: (hours ++ ':' :: minutes)) = some hours :=
    slice?_append (':' :: minutes) (congrArg List.length (bytes_sign fields.signed))
      fields.hours_bytes
  have outer : slice? 4 6 (sign :: (hours ++ ':' :: minutes)) = some minutes := by
    have start : (bytes (sign :: (hours ++ [':']))).length = 4 := by
      have split : sign :: (hours ++ [':']) = [sign] ++ (hours ++ [':']) := rfl
      rw [split, length_bytes_append, length_bytes_append, bytes_sign fields.signed,
        fields.hours_bytes]
      rfl
    have cut := @slice?_append _ _ 4 6 [] start fields.minutes_bytes
    rw [List.append_nil, List.cons_append, List.append_assoc] at cut
    exact cut
  have minus : (if sign.toUInt8 = '-'.toUInt8 then '-' else '+') = sign := by
    rcases fields.signed with rfl | rfl <;> rfl
  have matched : (sign.toUInt8 = '+'.toUInt8 ∨ sign.toUInt8 = '-'.toUInt8) ∧ True :=
    ⟨fields.signed.imp (congrArg Char.toUInt8) (congrArg Char.toUInt8), trivial⟩
  simp only [splitBytes?, if_neg notUtc, if_neg (Nat.not_lt.2 long), cut, first, fourth, inner,
    outer, minus, Option.bind_eq_bind, Option.bind_some]
  exact if_pos matched

/-- The split by positions where no fields are. -/
theorem splitBytes?_of_not_fields (notUtc : cs.getLast? ≠ some 'Z')
    (none : ¬ HasFields cs) :
    splitBytes? cs = some (cs, .none) := by
  rw [splitBytes?, if_neg notUtc]
  split_ifs with short
  · rfl
  · cases cut : cutAt? ((bytes cs).length - 6) cs with
    | none => rfl
    | some parts =>
      obtain ⟨localPart, zone⟩ := parts
      have six := length_bytes_of_cutAt? cut (Nat.not_lt.1 short)
      have first : (bytes zone)[0]? = some (bytes zone)[0] := List.getElem?_eq_getElem _
      have fourth : (bytes zone)[3]? = some (bytes zone)[3] := List.getElem?_eq_getElem _
      dsimp only
      rw [first, fourth]
      simp only [Option.bind_eq_bind, Option.bind_some]
      rw [if_neg]
      · rfl
      · rintro ⟨signed, colon⟩
        obtain ⟨sign, known, same⟩ : ∃ sign, (sign = '+' ∨ sign = '-') ∧
          (bytes zone)[0] = sign.toUInt8 :=
          signed.elim (fun plus => ⟨_, .inl rfl, plus⟩) fun minus => ⟨_, .inr rfl, minus⟩
        rw [colon] at fourth
        rw [same] at first
        obtain ⟨hours, minutes, -, fields⟩ := fields_of_bytes cut (by omega) known first fourth
        exact none ⟨_, _, _, _, fields⟩

/-! ## The split of a literal -/

theorem zoneFields?_eq_some_iff {fields : List Char} :
    zoneFields? fields = some (hours, minutes) ↔
      fields = hours ++ ':' :: minutes ∧ (bytes hours).length = 2 := by
  unfold zoneFields?
  split
  · next hours' minutes' cut =>
    obtain ⟨rfl, two⟩ := cutAt?_eq_some_iff.1 cut
    constructor
    · intro same
      obtain ⟨rfl, rfl⟩ := Prod.mk.inj (Option.some.inj same)
      exact ⟨rfl, two⟩
    · intro same
      rw [← cutAt?_eq_some_iff, cut] at same
      obtain ⟨rfl, tail⟩ := Prod.mk.inj (Option.some.inj same)
      rw [(List.cons.inj tail).2]
  · next none =>
    refine iff_of_false nofun fun same => ?_
    exact none _ _ (cutAt?_eq_some_iff.2 same)

theorem splitTimezone_of_fields (notUtc : cs.getLast? ≠ some 'Z')
    (fields : Fields cs localPart sign hours minutes) :
    splitTimezone cs = readFields cs localPart sign hours minutes := by
  obtain ⟨long, cut⟩ := fields.cutAt?_eq
  have zone : splitZone cs = (localPart, sign :: (hours ++ ':' :: minutes)) := by
    simp only [splitZone, if_neg (Nat.not_lt.2 long), cut, Option.getD_some]
  have parts : zoneFields? (hours ++ ':' :: minutes) = some (hours, minutes) :=
    zoneFields?_eq_some_iff.2 ⟨rfl, fields.hours_bytes⟩
  simp only [splitTimezone, if_neg notUtc, zone, if_pos fields.signed, parts]
  rfl

theorem splitTimezone_of_not_fields (notUtc : cs.getLast? ≠ some 'Z')
    (none : ¬ HasFields cs) :
    splitTimezone cs = (cs, .none) := by
  by_cases short : (bytes cs).length < 6
  · simp only [splitTimezone, splitZone, if_neg notUtc, if_pos short]
  · cases cut : cutAt? ((bytes cs).length - 6) cs with
    | none => simp only [splitTimezone, splitZone, if_neg notUtc, if_neg short, cut,
        Option.getD_none]
    | some parts =>
      obtain ⟨localPart, zone⟩ := parts
      simp only [splitTimezone, splitZone, if_neg notUtc, if_neg short, cut, Option.getD_some]
      cases zone with
      | nil => rfl
      | cons sign fields =>
        by_cases signed : sign = '+' ∨ sign = '-'
        · cases parts : zoneFields? fields with
          | none => simp only [if_pos signed, parts]
          | some parts' =>
            obtain ⟨hours, minutes⟩ := parts'
            obtain ⟨rfl, two⟩ := zoneFields?_eq_some_iff.1 parts
            have six := length_bytes_of_cutAt? cut (Nat.not_lt.1 short)
            rw [length_bytes_zone signed] at six
            exact absurd
              ⟨localPart, sign, hours, minutes, (cutAt?_eq_some_iff.1 cut).1, signed, two, by omega⟩
              none
        · simp only [if_neg signed]

/-- **No slice of a literal fails**, and the split by positions is the split. -/
theorem splitBytes?_eq (cs : List Char) : splitBytes? cs = some (splitTimezone cs) := by
  by_cases closed : cs.getLast? = some 'Z'
  · simp only [splitBytes?, splitTimezone, if_pos closed]
  · by_cases some : HasFields cs
    · obtain ⟨localPart, sign, hours, minutes, fields⟩ := some
      rw [splitBytes?_of_fields closed fields, splitTimezone_of_fields closed fields]
    · rw [splitBytes?_of_not_fields closed some, splitTimezone_of_not_fields closed some]

/-! ## Zones -/

/-- The offset in seconds of a number of minutes after a sign. -/
def signedOffset (sign : Char) (minutes : Int) : Int :=
  if sign = '-' then -(minutes * 60) else minutes * 60

/-- A time zone with its offset in seconds: a `Z`, or a sign, two digits below 24, a colon and two
digits below 60. -/
inductive IsZone : List Char → Int → Prop
  | utc : IsZone ['Z'] 0
  | offset {sign : Char} {hours minutes : List Char} (signed : sign = '+' ∨ sign = '-')
      (two_hours : hours.length = 2) (two_minutes : minutes.length = 2)
      (hours_digits : ∀ c ∈ hours, c.isDigit = true)
      (minutes_digits : ∀ c ∈ minutes, c.isDigit = true) (hours_lt : valueOf hours < 24)
      (minutes_lt : valueOf minutes < 60) :
      IsZone (sign :: (hours ++ ':' :: minutes))
        (signedOffset sign (60 * valueOf hours + valueOf minutes))

/-- What is read as a time zone, with its offset in seconds: a `Z`, or a sign and two numerals of
two characters with a colon between them, which make less than a day. -/
inductive IsReadZone : List Char → Int → Prop
  | utc : IsReadZone ['Z'] 0
  | offset {sign : Char} {hours minutes : List Char} {h m : Int} (signed : sign = '+' ∨ sign = '-')
    (two_hours : hours.length = 2) (two_minutes : minutes.length = 2)
    (hours_numeral : IsNumeral hours h)
    (minutes_numeral : IsNumeral minutes m) (bounded : (60 * h + m).natAbs < 1440) :
    IsReadZone (sign :: (hours ++ ':' :: minutes)) (signedOffset sign (60 * h + m))

/-- Two fields after a sign, of which one begins with a sign of its own or the second is sixty or
more. -/
def IsLoose (zone : List Char) : Prop :=
  ∃ sign hours minutes, zone = sign :: (hours ++ ':' :: minutes) ∧ hours.length = 2 ∧
    (beginsWithSign hours = true ∨ beginsWithSign minutes = true ∨ 60 ≤ valueOf minutes)

/-- A literal that ends in what is read as a time zone. -/
def IsZoned (cs : List Char) : Prop :=
  ∃ localPart zone offset, cs = localPart ++ zone ∧ IsReadZone zone offset

theorem isAscii_of_isNumeral {n : Int} (numeral : IsNumeral cs n) : ∀ c ∈ cs, isAscii c = true := by
  intro c mem
  cases numeral with
  | unsigned filled digits => exact isAscii_of_isDigit (digits c mem)
  | plus filled digits =>
    rcases List.mem_cons.1 mem with rfl | mem
    · rfl
    · exact isAscii_of_isDigit (digits c mem)
  | minus filled digits =>
    rcases List.mem_cons.1 mem with rfl | mem
    · rfl
    · exact isAscii_of_isDigit (digits c mem)

/-- A numeral without a sign is a run of digits. -/
theorem digits_of_isNumeral {n : Int} (numeral : IsNumeral cs n)
    (unsigned : beginsWithSign cs = false) :
    (∀ c ∈ cs, c.isDigit = true) ∧ n = valueOf cs := by
  cases numeral with
  | unsigned filled digits => exact ⟨digits, rfl⟩
  | plus filled digits => cases unsigned
  | minus filled digits => cases unsigned

/-- A numeral does not end in a letter. -/
theorem getLast?_of_isNumeral {n : Int} (numeral : IsNumeral cs n) (before : List Char) :
    (before ++ cs).getLast? ≠ some 'Z' := by
  have last {ds : List Char} (filled : ds ≠ []) (digits : ∀ c ∈ ds, c.isDigit = true)
    (before : List Char) :
      (before ++ ds).getLast? ≠ some 'Z' := by
    rw [List.getLast?_append_of_ne_nil before filled]
    intro letter
    exact absurd (digits 'Z' (List.mem_of_getLast? letter)) (by decide)
  cases numeral with
  | unsigned filled digits => exact last filled digits before
  | @plus ds filled digits =>
    rw [List.append_cons]
    exact last filled digits (before ++ ['+'])
  | @minus ds filled digits =>
    rw [List.append_cons]
    exact last filled digits (before ++ ['-'])

/-- **A time zone is what is read as one, if it is not loose.** -/
theorem isZone_iff {offset : Int} :
    IsZone zone offset ↔ IsReadZone zone offset ∧ ¬ IsLoose zone := by
  constructor
  · intro found
    cases found with
    | utc =>
      refine ⟨.utc, ?_⟩
      rintro ⟨sign, hours, minutes, same, -, -⟩
      exact absurd (List.cons.inj same).2.symm
        (List.append_ne_nil_of_right_ne_nil hours (List.cons_ne_nil ':' minutes))
    | offset signed two_hours two_minutes hours_digits minutes_digits hours_lt minutes_lt =>
      have filled {ds : List Char} (two : ds.length = 2) : ds ≠ [] :=
        List.ne_nil_of_length_pos (by omega)
      refine ⟨.offset signed two_hours two_minutes (.unsigned (filled two_hours) hours_digits)
        (.unsigned (filled two_minutes) minutes_digits) (by omega), ?_⟩
      rintro ⟨sign', hours', minutes', same, two, loose⟩
      obtain ⟨rfl, colon⟩ := List.append_inj (List.cons.inj same).2 (two_hours.trans two.symm)
      obtain ⟨-, rfl⟩ := List.cons.inj colon
      rw [beginsWithSign_of_digits hours_digits, beginsWithSign_of_digits minutes_digits] at loose
      simp only [Bool.false_eq_true, false_or] at loose
      omega
  · rintro ⟨found, strict⟩
    cases found with
    | utc => exact .utc
    | @offset sign hours minutes h m signed two_hours two_minutes hours_numeral
        minutes_numeral bounded =>
      have loose := fun reason => strict ⟨sign, hours, minutes, rfl, two_hours, reason⟩
      obtain ⟨hours_digits, rfl⟩ :=
        digits_of_isNumeral hours_numeral (Bool.eq_false_iff.2 fun signed => loose (.inl signed))
      obtain ⟨minutes_digits, rfl⟩ :=
        digits_of_isNumeral minutes_numeral
          (Bool.eq_false_iff.2 fun signed => loose (.inr (.inl signed)))
      have minutes_lt := Nat.not_le.1 fun many => loose (.inr (.inr many))
      exact .offset signed two_hours two_minutes hours_digits minutes_digits (by omega) minutes_lt

theorem readFields_eq_offset_iff {before : List Char} {offset : Int} :
    readFields cs localPart sign hours minutes = (before, .offset offset) ↔
      ∃ h m, IsNumeral hours h ∧ IsNumeral minutes m ∧ (60 * h + m).natAbs < 1440 ∧
        localPart = before ∧
        signedOffset sign (60 * h + m) = offset := by
  simp only [← integer?_eq_some_iff]
  unfold readFields
  split
  · next h m hour minute =>
    have same : (if sign = '-' then -((h * 60 + m) * 60) else (h * 60 + m) * 60) =
      signedOffset sign (60 * h + m) := by
      rw [signedOffset, Int.mul_comm h 60]
    have bounded : isOffset (signedOffset sign (60 * h + m)) = true ↔
      (60 * h + m).natAbs < 1440 := by
      rw [isOffset, decide_eq_true_iff, signedOffset]
      split_ifs <;> omega
    dsimp only
    rw [same, hour, minute]
    constructor
    · intro read
      split_ifs at read with small
      · obtain ⟨rfl, zone⟩ := Prod.mk.inj read
        exact ⟨h, m, rfl, rfl, bounded.1 small, rfl, Zone.offset.inj zone⟩
      · cases (Prod.mk.inj read).2
    · rintro ⟨h', m', first, second, small, rfl, rfl⟩
      obtain rfl := Option.some.inj first
      obtain rfl := Option.some.inj second
      exact if_pos (bounded.2 small)
  · next none =>
    refine iff_of_false (fun read => ?_) ?_
    · cases (Prod.mk.inj read).2
    · rintro ⟨h, m, hour, minute, -⟩
      exact none h m hour minute

/-- **The local part and the offset of a literal**, if it ends in what is read as a time zone. -/
theorem splitTimezone_eq_offset_iff {offset : Int} :
    splitTimezone cs = (localPart, .offset offset) ↔
      ∃ zone, cs = localPart ++ zone ∧ IsReadZone zone offset := by
  constructor
  · intro read
    by_cases utc : cs.getLast? = some 'Z'
    · simp only [splitTimezone, if_pos utc] at read
      obtain ⟨rfl, zone⟩ := Prod.mk.inj read
      obtain rfl := Zone.offset.inj zone
      exact ⟨['Z'], (List.dropLast_append_getLast? 'Z' utc).symm, .utc⟩
    · by_cases found : HasFields cs
      · obtain ⟨before, sign, hours, minutes, fields⟩ := found
        rw [splitTimezone_of_fields utc fields] at read
        obtain ⟨h, m, hour, minute, bounded, rfl, rfl⟩ := readFields_eq_offset_iff.1 read
        have two {ds : List Char} {n : Int} (numeral : IsNumeral ds n)
          (bytes : (bytes ds).length = 2) : ds.length = 2 :=
          (length_bytes_of_isAscii (isAscii_of_isNumeral numeral)).symm.trans bytes
        exact ⟨_, fields.split,
          .offset fields.signed (two hour fields.hours_bytes) (two minute fields.minutes_bytes)
          hour minute bounded⟩
      · rw [splitTimezone_of_not_fields utc found] at read
        cases (Prod.mk.inj read).2
  · rintro ⟨zone, rfl, found⟩
    cases found with
    | utc =>
      have utc : (localPart ++ ['Z']).getLast? = some 'Z' := List.getLast?_concat
      simp only [splitTimezone, if_pos utc, List.dropLast_concat]
    | @offset sign hours minutes h m signed two_hours two_minutes hour minute bounded =>
      have notUtc : (localPart ++ sign :: (hours ++ ':' :: minutes)).getLast? ≠ some 'Z' := by
        have split : localPart ++ sign :: (hours ++ ':' :: minutes)
            = (localPart ++ sign :: (hours ++ [':'])) ++ minutes := by
          simp only [List.append_assoc, List.cons_append, List.nil_append]
        rw [split]
        exact getLast?_of_isNumeral minute _
      have two {ds : List Char} {n : Int} (numeral : IsNumeral ds n) (two : ds.length = 2) :
        (bytes ds).length = 2 :=
        (length_bytes_of_isAscii (isAscii_of_isNumeral numeral)).trans two
      have fields : Fields (localPart ++ sign :: (hours ++ ':' :: minutes))
        localPart sign hours minutes :=
        ⟨rfl, signed, two hour two_hours, two minute two_minutes⟩
      rw [splitTimezone_of_fields notUtc fields]
      exact readFields_eq_offset_iff.2 ⟨h, m, hour, minute, bounded, rfl, rfl⟩

/-- Without a time zone the literal is left as it is. -/
theorem eq_of_splitTimezone_none (read : splitTimezone cs = (localPart, .none)) :
    cs = localPart := by
  by_cases utc : cs.getLast? = some 'Z'
  · simp only [splitTimezone, if_pos utc] at read
    cases (Prod.mk.inj read).2
  · by_cases found : HasFields cs
    · obtain ⟨before, sign, hours, minutes, fields⟩ := found
      rw [splitTimezone_of_fields utc fields, readFields] at read
      split at read
      · dsimp only at read
        split_ifs at read
        all_goals cases (Prod.mk.inj read).2
      · cases (Prod.mk.inj read).2
    · rw [splitTimezone_of_not_fields utc found] at read
      exact (Prod.mk.inj read).1

/-! ## Literals of dates, times of day and moments -/

/-- The parts of a literal: what is before its time zone and the offset, or all of it if it has
none. -/
inductive Parted (cs : List Char) : List Char → Option Int → Prop
  | zoned {localPart zone : List Char} {offset : Int} (split : cs = localPart ++ zone)
    (found : IsReadZone zone offset) : Parted cs localPart (some offset)
  | unzoned (unmarked : ¬ IsZoned cs) : Parted cs cs none

theorem parted_of_splitOffset {literal : String} {offset : Option Int}
    (read : Space.splitOffset literal = .ok (localPart, offset)) :
    Parted literal.toList localPart offset := by
  unfold Space.splitOffset at read
  split at read
  · next before split =>
    obtain ⟨rfl, rfl⟩ := Prod.mk.inj (Except.ok.inj read)
    have unmarked : ¬ IsZoned literal.toList := by
      rintro ⟨localPart, zone, offset, found⟩
      rw [splitTimezone_eq_offset_iff.2 ⟨zone, found⟩] at split
      cases (Prod.mk.inj split).2
    obtain rfl := eq_of_splitTimezone_none split
    exact .unzoned unmarked
  · next before seconds split =>
    obtain ⟨rfl, rfl⟩ := Prod.mk.inj (Except.ok.inj read)
    obtain ⟨zone, same, found⟩ := splitTimezone_eq_offset_iff.1 split
    exact .zoned same found
  · cases read

/-- **The parts of a literal are found**, unless it ends in fields that are no time zone. -/
theorem splitOffset_of_parted {literal : String} {offset : Option Int}
    (parted : Parted literal.toList localPart offset)
    (plain : offset = none → ¬ HasFields literal.toList) :
    Space.splitOffset literal = .ok (localPart, offset) := by
  unfold Space.splitOffset
  cases parted with
  | zoned split found => rw [splitTimezone_eq_offset_iff.2 ⟨_, split, found⟩]
  | unzoned unmarked =>
    have notUtc : literal.toList.getLast? ≠ some 'Z' := fun utc =>
      unmarked ⟨_, ['Z'], 0, (List.dropLast_append_getLast? 'Z' utc).symm, .utc⟩
    rw [splitTimezone_of_not_fields notUtc (plain rfl)]

/-- A date has no fields of a time zone at its end, as they have a colon. -/
theorem not_hasFields_of_parseDate? {d : Date} (read : parseDate? cs = some d) :
    ¬ HasFields cs := by
  rintro ⟨localPart, sign, hours, minutes, fields⟩
  have colon := isDateChar_of_parseDate? read ':' (by rw [fields.split]; simp)
  exact absurd colon (by decide)

/-- A time of day has no fields of a time zone at its end, as they have a sign. -/
theorem not_hasFields_of_parseTime? {t : Time} (read : parseTime? cs = some t) :
    ¬ HasFields cs := by
  rintro ⟨localPart, sign, hours, minutes, fields⟩
  have character := isTimeChar_of_parseTime? read sign (by rw [fields.split]; simp)
  rcases fields.signed with rfl | rfl
  · exact absurd character (by decide)
  · exact absurd character (by decide)

/-- A moment has no fields of a time zone at its end, as its time of day is too long for them to
have a sign. -/
theorem not_hasFields_of_parseDateTime? {m : DateTime} (read : parseDateTime? cs = some m) :
    ¬ HasFields cs := by
  rintro ⟨localPart, sign, hours, minutes, fields⟩
  obtain ⟨date, time, split, -, characters, long⟩ := exists_of_parseDateTime? read
  have short : (sign :: (hours ++ ':' :: minutes)).length ≤ ('T' :: time).length := by
    have bytes := length_le_length_bytes (sign :: (hours ++ ':' :: minutes))
    rw [length_bytes_zone fields.signed, fields.hours_bytes, fields.minutes_bytes] at bytes
    exact bytes.trans (Nat.succ_le_succ long)
  have inside : sign :: (hours ++ ':' :: minutes) <:+ 'T' :: time :=
    List.suffix_of_suffix_length_le (fields.split ▸ List.suffix_append ..)
      (split ▸ List.suffix_append ..) short
  rcases List.mem_cons.1 (inside.subset (List.mem_cons_self ..)) with rfl | mem
  · exact absurd fields.signed (by decide)
  · have character := characters sign mem
    rcases fields.signed with rfl | rfl
    · exact absurd character (by decide)
    · exact absurd character (by decide)

/-- A literal is read as its parts are, if what has no time zone does not end in fields. -/
theorem splitOffset_bind_eq_ok_iff {α : Type} {literal : String}
    {next : List Char × Option Int → Except Violation α}
    {read? : List Char → Option Int → Option α} {a : α}
    (same : ∀ cs offset, next (cs, offset) = .ok a ↔ read? cs offset = some a)
    (plain : ∀ cs, read? cs none = some a → ¬ HasFields cs) :
    (Space.splitOffset literal >>= next) = .ok a ↔
      ∃ localPart offset, Parted literal.toList localPart offset ∧
        read? localPart offset = some a := by
  simp only [← same] at plain ⊢
  constructor
  · intro read
    cases split : Space.splitOffset literal with
    | error violation =>
      rw [split] at read
      cases read
    | ok parts =>
      rw [split] at read
      exact ⟨parts.1, parts.2, parted_of_splitOffset split, read⟩
  · rintro ⟨localPart, offset, parted, read⟩
    have split : Space.splitOffset literal = .ok (localPart, offset) := by
      refine splitOffset_of_parted parted fun none => ?_
      subst none
      cases parted
      exact plain _ read
    rw [split]
    exact read

theorem parseDate_eq_ok_iff {literal : String} {d : Date} : Space.parseDate literal = .ok d ↔
    ∃ localPart offset, Parted literal.toList localPart offset ∧ parseDate? localPart = some d := by
  refine @splitOffset_bind_eq_ok_iff _ literal _ (fun cs _ => parseDate? cs) d (fun cs offset => ?_)
    fun cs => not_hasFields_of_parseDate?
  dsimp only
  cases parseDate? cs with
  | none => exact iff_of_false nofun nofun
  | some found => rw [Except.ok.injEq, Option.some.injEq]

theorem parseTime_eq_ok_iff {literal : String} {t : Time} : Space.parseTime literal = .ok t ↔
    ∃ localPart offset, Parted literal.toList localPart offset ∧ parseTime? localPart = some t := by
  refine @splitOffset_bind_eq_ok_iff _ literal _ (fun cs _ => parseTime? cs) t (fun cs offset => ?_)
    fun cs => not_hasFields_of_parseTime?
  dsimp only
  cases parseTime? cs with
  | none => exact iff_of_false nofun nofun
  | some found => rw [Except.ok.injEq, Option.some.injEq]

/-- The moment that is read of the parts of a literal: the local one, less the offset. -/
theorem parseDateTime_eq_ok_iff {literal : String} {m : DateTime} :
    Space.parseDateTime literal = .ok m ↔
    ∃ localPart offset, Parted literal.toList localPart offset ∧
      ∃ n, parseDateTime? localPart = some n ∧ n.minusOffset? (offset.getD 0) = some m := by
  simp only [← Option.bind_eq_some_iff]
  refine @splitOffset_bind_eq_ok_iff _ literal _
    (fun cs offset => (parseDateTime? cs).bind (·.minusOffset? (offset.getD 0)))
      m (fun cs offset => ?_) fun cs read => ?_
  · dsimp only
    cases (parseDateTime? cs).bind (·.minusOffset? (offset.getD 0)) with
    | none => exact iff_of_false nofun nofun
    | some found => rw [Except.ok.injEq, Option.some.injEq]
  · obtain ⟨n, found, -⟩ := Option.bind_eq_some_iff.1 read
    exact not_hasFields_of_parseDateTime? found

/-- Types without constraints read what their space reads, after the treatment of white space. -/
theorem ofLiteral_eq_ok_iff_of_unconstrained {type : SimpleBuiltin} (free : type.constraints = [])
    (collapse : type.whitespace = .collapse) {literal : String} {v : type.space.Carrier} :
    (SimpleType.builtin type).ofLiteral literal = .ok v ↔
      type.space.parse (Whitespace.collapse.apply literal) = .ok v := by
  have checked (literal : String) : (SimpleType.builtin type).validate v literal = .ok () := by
    change type.validate v literal = .ok ()
    rw [SimpleBuiltin.validate, free]
    rfl
  refine (@SimpleType.ofLiteral_eq_ok_iff_of_plain (.builtin type) rfl literal v).trans ?_
  rw [SimpleType.whitespace, SimpleType.root, collapse]
  exact and_iff_left (checked _)

/-- **Time zones are recognised exactly, but for loose fields.** No byte of a literal is asked for
that is not there, and no slice begins or ends inside a character. A literal has an offset if and
only if it ends in what is read as a time zone, and the local part is what is before it. This is a
time zone with this offset if it is not loose. Literals of dates, times of day and moments that end
in none are read as local ones. -/
theorem splitTimezone_exact (literal : String) :
    splitBytes? literal.toList = some (splitTimezone literal.toList) ∧
    (∀ localPart offset, splitTimezone literal.toList = (localPart, .offset offset) ↔
      ∃ zone, literal.toList = localPart ++ zone ∧ IsReadZone zone offset) ∧
    (∀ zone offset, IsZone zone offset ↔ IsReadZone zone offset ∧ ¬ IsLoose zone) ∧
    (∀ d, (SimpleType.builtin .date).ofLiteral literal = .ok d ↔
      ∃ localPart offset, Parted (SimpleBuiltin.collapsed literal) localPart offset ∧
        parseDate? localPart = some d) ∧
    (∀ t, (SimpleType.builtin .time).ofLiteral literal = .ok t ↔
      ∃ localPart offset, Parted (SimpleBuiltin.collapsed literal) localPart offset ∧
        parseTime? localPart = some t) ∧
    ∀ m, (SimpleType.builtin .dateTime).ofLiteral literal = .ok m ↔
      ∃ localPart offset, Parted (SimpleBuiltin.collapsed literal) localPart offset ∧
        ∃ n, parseDateTime? localPart = some n ∧ n.minusOffset? (offset.getD 0) = some m := by
  refine ⟨splitBytes?_eq _, fun localPart offset => splitTimezone_eq_offset_iff, fun zone offset =>
    isZone_iff, fun d => ?_, fun t => ?_, fun m => ?_⟩
  · exact (@ofLiteral_eq_ok_iff_of_unconstrained .date rfl rfl literal d).trans parseDate_eq_ok_iff
  · exact (@ofLiteral_eq_ok_iff_of_unconstrained .time rfl rfl literal t).trans parseTime_eq_ok_iff
  · exact (@ofLiteral_eq_ok_iff_of_unconstrained .dateTime rfl rfl literal m).trans
      parseDateTime_eq_ok_iff

/-- **Not every offset is that of a time zone**: ninety-nine minutes are read. -/
theorem not_forall_isZone :
    ¬ (∀ cs localPart offset, splitTimezone cs = (localPart, .offset offset) →
        ∃ zone, cs = localPart ++ zone ∧ IsZone zone offset) ∧
      splitTimezone "2024-03-01T10:15:30+01:99".toList =
        ("2024-03-01T10:15:30".toList, .offset 9540) := by
  have read : splitTimezone "2024-03-01T10:15:30+01:99".toList =
    ("2024-03-01T10:15:30".toList, .offset 9540) := by
    decide
  refine ⟨fun all => ?_, read⟩
  obtain ⟨zone, split, found⟩ := all _ _ _ read
  obtain rfl : zone = "+01:99".toList := (List.append_cancel_left (split.symm.trans (by decide)))
  refine (isZone_iff.1 found).2 ⟨'+', ['0', '1'], ['9', '9'], by
    decide, rfl, .inr (.inr (by decide))⟩

end Calendar

end SchemaBinding
