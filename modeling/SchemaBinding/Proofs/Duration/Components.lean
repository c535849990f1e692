import Mathlib.Data.List.TakeWhile
import SchemaBinding.Proofs.Text.Category
import SchemaBinding.Value.Duration

/-!
# The components of a duration

A component is a run of digits and a designator (`part`), and what is read for a
designator is one at the beginning of the text (`of_component`). A component that
stands there is read (`component_part`), and none where another designator follows
the digits (`component_part_of_ne`). Digits of every script count here, but no
designator is one (`isDigit_of_mem_designators`). So a literal is taken apart into
given components if and only if these are runs of digits, at least one, and the
literal is what they make, in order (`components?_eq_some_iff`).
-/

namespace SchemaBinding

namespace Duration

/-! ## Digits and designators -/

theorem isDigit_eq {c : Char} (ascii : c.toNat < 128) : isDigit c = c.isDigit := by
  rw [Bool.eq_iff_iff, isDigit, beq_iff_eq]
  exact Text.categoryOf_eq_decimalNumber_iff ascii

theorem isDigit_of_isDigit {c : Char} (digit : c.isDigit = true) : isDigit c = true := by
  have range := Char.isDigit_iff_toNat.1 digit
  rw [show '9'.toNat = 57 from rfl] at range
  rw [isDigit_eq (by omega)]
  exact digit

/-- The designators of a duration, and what stands between digits. -/
def designators : List Char := ['Y', 'M', 'D', 'H', 'S', 'T', '.', '-']

theorem isDigit_of_mem_designators {c : Char} (known : c ∈ designators) : isDigit c = false := by
  have all : designators.all (fun c => c.toNat < 128 && !c.isDigit) = true := by decide
  obtain ⟨ascii, letter⟩ := Bool.and_eq_true_iff.1 (List.all_eq_true.1 all c known)
  rw [isDigit_eq (decide_eq_true_iff.1 ascii), ← Bool.not_eq_true']
  exact letter

variable {ds cs rest : List Char} {designator other : Char} {run : Option (List Char)}

/-- A run of digits ends before a designator. -/
theorem span_digits (digits : ∀ d ∈ ds, isDigit d = true) (known : designator ∈ designators)
    (rest : List Char) :
    (ds ++ designator :: rest).takeWhile isDigit = ds ∧
      (ds ++ designator :: rest).dropWhile isDigit = designator :: rest := by
  have stops : ¬ isDigit designator = true := by
    rw [isDigit_of_mem_designators known]
    exact Bool.false_ne_true
  rw [List.takeWhile_append_of_pos digits, List.dropWhile_append_of_pos digits,
    List.takeWhile_cons_of_neg stops, List.dropWhile_cons_of_neg stops, List.append_nil]
  exact ⟨rfl, rfl⟩

/-! ## Components -/

/-- A run of digits. -/
structure IsRun (ds : List Char) : Prop where
  filled : ds ≠ []
  digits : ∀ c ∈ ds, isDigit c = true

theorem isRun_of_isDigit (filled : ds ≠ []) (digits : ∀ c ∈ ds, c.isDigit = true) : IsRun ds :=
  ⟨filled, fun c mem => isDigit_of_isDigit (digits c mem)⟩

/-- A component as it stands in a literal: its digits and the designator. -/
def part (designator : Char) : Option (List Char) → List Char
  | none => []
  | some ds => ds ++ [designator]

theorem component_digits (run : IsRun ds) (known : designator ∈ designators) (rest : List Char) :
    component designator (ds ++ designator :: rest) = (some ds, rest) := by
  obtain ⟨before, after⟩ := span_digits run.digits known rest
  rw [component, before, after]
  dsimp only
  rw [if_pos]
  rw [Bool.and_eq_true, Bool.not_eq_true', List.isEmpty_eq_false_iff, beq_self_eq_true]
  exact ⟨run.filled, rfl⟩

/-- Nothing is read for a designator where another one follows the digits, or where there are
none. -/
theorem component_of_ne (digits : ∀ c ∈ ds, isDigit c = true) (known : other ∈ designators)
    (rest : List Char) (ne : ds = [] ∨ other ≠ designator) :
    component designator (ds ++ other :: rest) = (none, ds ++ other :: rest) := by
  obtain ⟨before, after⟩ := span_digits digits known rest
  rw [component, before, after]
  dsimp only
  rw [if_neg]
  simp only [Bool.and_eq_true, Bool.not_eq_true', List.isEmpty_eq_false_iff, beq_iff_eq, not_and]
  exact fun filled => ne.elim (fun empty => absurd empty filled) id

theorem component_nil (designator : Char) : component designator [] = (none, []) := rfl

theorem component_cons_of_mem {c : Char} (known : c ∈ designators) (designator : Char)
    (rest : List Char) :
    component designator (c :: rest) = (none, c :: rest) :=
  component_of_ne (show ∀ c ∈ ([] : List Char), isDigit c = true from nofun) known rest (.inl rfl)

/-- **A component is read where it stands**, and nothing if there is none. -/
theorem component_part (known : designator ∈ designators) (stated : ∀ ds, run = some ds → IsRun ds)
    (skips : component designator rest = (none, rest)) :
    component designator (part designator run ++ rest) = (run, rest) := by
  cases run with
  | none => exact skips
  | some ds =>
    rw [part, List.append_assoc]
    exact component_digits (stated ds rfl) known rest

/-- A component is not read for another designator. -/
theorem component_part_of_ne (known : other ∈ designators) (ne : other ≠ designator)
    (stated : ∀ ds, run = some ds → IsRun ds) (skips : component designator rest = (none, rest)) :
    component designator (part other run ++ rest) = (none, part other run ++ rest) := by
  cases run with
  | none => exact skips
  | some ds =>
    rw [part, List.append_assoc]
    exact component_of_ne (stated ds rfl).digits known rest (.inr ne)

/-- What is read for a designator stands at the beginning. -/
theorem of_component (read : component designator cs = (run, rest)) :
    cs = part designator run ++ rest ∧ ∀ ds, run = some ds → IsRun ds := by
  have split : cs.takeWhile isDigit ++ cs.dropWhile isDigit = cs := List.takeWhile_append_dropWhile
  unfold component at read
  dsimp only at read
  split at read
  · next c after follows =>
    split_ifs at read with found
    · obtain ⟨rfl, rfl⟩ := Prod.mk.inj read
      rw [Bool.and_eq_true, Bool.not_eq_true', List.isEmpty_eq_false_iff, beq_iff_eq] at found
      obtain ⟨filled, rfl⟩ := found
      refine ⟨?_, ?_⟩
      · rw [part, List.append_assoc, List.singleton_append, ← follows]
        exact split.symm
      · rintro ds ⟨⟩
        exact ⟨filled, fun c mem => List.all_eq_true.1 List.all_takeWhile c mem⟩
    · obtain ⟨rfl, rfl⟩ := Prod.mk.inj read
      exact ⟨rfl, nofun⟩
  · obtain ⟨rfl, rfl⟩ := Prod.mk.inj read
    exact ⟨rfl, nofun⟩

/-! ## Seconds -/

/-- A run of digits, or two with a point between them. -/
inductive IsPointedRun : List Char → Prop
  | whole {ds : List Char} (run : IsRun ds) : IsPointedRun ds
  | pointed {ds fs : List Char} (run : IsRun ds) (fraction : IsRun fs) :
      IsPointedRun (ds ++ '.' :: fs)

theorem IsPointedRun.isDigit_or_eq (seconds : IsPointedRun ds) {c : Char} (mem : c ∈ ds) :
    isDigit c = true ∨ c = '.' := by
  cases seconds with
  | whole run => exact .inl (run.digits c mem)
  | pointed run fraction =>
    rcases List.mem_append.1 mem with digit | rest
    · exact .inl (run.digits c digit)
    · rcases List.mem_cons.1 rest with point | digit
      · exact .inr point
      · exact .inl (fraction.digits c digit)

/-- **Seconds are read where they stand at the end**, and nothing if there are none. -/
theorem secondsComponent_part (stated : ∀ ds, run = some ds → IsPointedRun ds) :
    secondsComponent (part 'S' run) = (run, []) := by
  have last : 'S' ∈ designators := by decide
  have point : '.' ∈ designators := by decide
  cases run with
  | none => rfl
  | some ds =>
    cases stated ds rfl with
    | whole run => rw [part, secondsComponent, component_digits run last]
    | @pointed ds fs run fraction =>
      obtain ⟨before, after⟩ := span_digits run.digits point (fs ++ ['S'])
      have split : part 'S' (some (ds ++ '.' :: fs)) = ds ++ '.' :: (fs ++ ['S']) := by
        rw [part, List.append_assoc, List.cons_append]
      have seconds : component 'S' (fs ++ ['S']) = (some fs, []) :=
        component_digits fraction last []
      rw [split, secondsComponent, component_of_ne run.digits point _ (.inr (by decide)),
        before, after]
      simp only [seconds]
      rw [if_neg (by rw [List.isEmpty_iff]; exact run.filled)]

/-- Seconds are not read for another designator. -/
theorem component_part_seconds (ne : 'S' ≠ designator) (point : '.' ≠ designator)
    (stated : ∀ ds, run = some ds → IsPointedRun ds) :
    component designator (part 'S' run) = (none, part 'S' run) := by
  cases run with
  | none => rfl
  | some ds =>
    cases stated ds rfl with
    | whole run => exact component_of_ne run.digits (by decide) [] (.inr ne)
    | @pointed ds fs run fraction =>
      rw [part, List.append_assoc]
      exact component_of_ne run.digits (by decide) (fs ++ ['S']) (.inr point)

/-- What is read for the seconds stands at the beginning. -/
theorem of_secondsComponent (read : secondsComponent cs = (run, rest)) :
    cs = part 'S' run ++ rest ∧ ∀ ds, run = some ds → IsPointedRun ds := by
  have split : cs.takeWhile isDigit ++ cs.dropWhile isDigit = cs := List.takeWhile_append_dropWhile
  unfold secondsComponent at read
  split at read
  · next ds after found =>
    obtain ⟨rfl, rfl⟩ := Prod.mk.inj read
    obtain ⟨same, stated⟩ := of_component found
    refine ⟨same, ?_⟩
    rintro ds ⟨⟩
    exact .whole (stated _ rfl)
  · dsimp only at read
    split at read
    · next after follows =>
      split at read
      · next fs after found =>
        split_ifs at read with empty
        · obtain ⟨rfl, rfl⟩ := Prod.mk.inj read
          exact ⟨rfl, nofun⟩
        · obtain ⟨rfl, rfl⟩ := Prod.mk.inj read
          obtain ⟨same, stated⟩ := of_component found
          have run : IsRun (cs.takeWhile isDigit) :=
            ⟨fun nil => empty (List.isEmpty_iff.2 nil), fun c mem =>
              List.all_eq_true.1 List.all_takeWhile c mem⟩
          refine ⟨?_, ?_⟩
          · rw [part, List.append_assoc, List.cons_append, List.append_assoc]
            rw [follows, same, part, List.append_assoc] at split
            exact split.symm
          · rintro ds ⟨⟩
            exact .pointed run (stated _ rfl)
      · obtain ⟨rfl, rfl⟩ := Prod.mk.inj read
        exact ⟨rfl, nofun⟩
    · obtain ⟨rfl, rfl⟩ := Prod.mk.inj read
      exact ⟨rfl, nofun⟩

/-! ## Literals -/

/-- The minus of a negative duration. -/
def sign (negative : Bool) : List Char := if negative then ['-'] else []

theorem sign_append_inj {negative negative' : Bool}
    (same : sign negative ++ 'P' :: cs = sign negative' ++ 'P' :: rest) :
    negative = negative' ∧ cs = rest := by
  cases negative with
  | false =>
    cases negative' with
    | false => exact ⟨rfl, (List.cons.inj same).2⟩
    | true => exact absurd (List.cons.inj same).1 (by decide)
  | true =>
    cases negative' with
    | false => exact absurd (List.cons.inj same).1 (by decide)
    | true => exact ⟨rfl, (List.cons.inj (List.cons.inj same).2).2⟩

namespace Components

/-- Whether there is a component of the time. -/
def hasTime (c : Components) : Bool := c.hours.isSome || c.minutes.isSome || c.seconds.isSome

/-- What the components make after the days. -/
def timeChars (c : Components) : List Char :=
  if c.hasTime then 'T' :: (part 'H' c.hours ++ (part 'M' c.minutes ++ part 'S' c.seconds)) else []

/-- What the components make after the sign and the designator of a duration. -/
def chars (c : Components) : List Char :=
  part 'Y' c.years ++ (part 'M' c.months ++ (part 'D' c.days ++ c.timeChars))

/-- The literal that the components make. -/
def toChars (c : Components) : List Char := sign c.negative ++ 'P' :: c.chars

/-- The components are runs of digits, and there is at least one. -/
structure IsStated (c : Components) : Prop where
  years : ∀ ds, c.years = some ds → IsRun ds
  months : ∀ ds, c.months = some ds → IsRun ds
  days : ∀ ds, c.days = some ds → IsRun ds
  hours : ∀ ds, c.hours = some ds → IsRun ds
  minutes : ∀ ds, c.minutes = some ds → IsRun ds
  seconds : ∀ ds, c.seconds = some ds → IsPointedRun ds
  filled : (c.years.isSome || c.months.isSome || c.days.isSome || c.hasTime) = true

variable {c : Components}

/-- The characters of components are digits, designators and a point. -/
theorem mem_chars (stated : c.IsStated) {character : Char} (mem : character ∈ c.chars) :
    isDigit character = true ∨ character ∈ ['Y', 'M', 'D', 'T', 'H', 'S', '.'] := by
  have field {designator : Char} {run : Option (List Char)}
    (stated : ∀ ds, run = some ds → IsRun ds) (mem : character ∈ part designator run) :
      isDigit character = true ∨ character = designator := by
    cases run with
    | none => cases mem
    | some ds =>
      rcases List.mem_append.1 mem with digit | letter
      · exact .inl ((stated ds rfl).digits character digit)
      · exact .inr (List.mem_singleton.1 letter)
  have seconds (mem : character ∈ part 'S' c.seconds) : isDigit character = true ∨ character = 'S' ∨
    character = '.' := by
    cases known : c.seconds with
    | none =>
      rw [known] at mem
      cases mem
    | some ds =>
      rw [known] at mem
      rcases List.mem_append.1 mem with digit | letter
      · exact ((stated.seconds ds known).isDigit_or_eq digit).imp_right .inr
      · exact .inr (.inl (List.mem_singleton.1 letter))
  simp only [chars, timeChars, List.mem_append] at mem
  rcases mem with years | months | days | time
  · exact (field stated.years years).imp_right (by rintro rfl; decide)
  · exact (field stated.months months).imp_right (by rintro rfl; decide)
  · exact (field stated.days days).imp_right (by rintro rfl; decide)
  · split at time
    · simp only [List.mem_cons, List.mem_append] at time
      rcases time with rfl | hours | minutes | rest
      · exact .inr (by decide)
      · exact (field stated.hours hours).imp_right (by rintro rfl; decide)
      · exact (field stated.minutes minutes).imp_right (by rintro rfl; decide)
      · exact (seconds rest).imp_right (by rintro (rfl | rfl) <;> decide)
    · cases time

/-- The components of the time are read. -/
theorem timeComponents_eq (stated : c.IsStated) :
    timeComponents (part 'H' c.hours ++ (part 'M' c.minutes ++ part 'S' c.seconds))
      = ((c.hours, c.minutes, c.seconds), []) := by
  have hour := @component_part_seconds 'H' _ (by decide) (by decide) stated.seconds
  have minute := @component_part_seconds 'M' _ (by decide) (by decide) stated.seconds
  rw [timeComponents, component_part (by decide) stated.hours
    (component_part_of_ne (by decide) (by decide) stated.minutes hour)]
  dsimp only
  rw [component_part (by decide) stated.minutes minute]
  dsimp only
  rw [secondsComponent_part stated.seconds]

/-- The components of the date are read, up to the time. -/
theorem exists_components_date (stated : c.IsStated) {time : List Char}
    (stops : ∀ designator, component designator time = (none, time)) : ∃ afterYears afterMonths,
    component 'Y' (part 'Y' c.years ++ (part 'M' c.months ++ (part 'D' c.days ++ time))) =
      (c.years, afterYears) ∧
      component 'M' afterYears = (c.months, afterMonths) ∧
        component 'D' afterMonths = (c.days, time) := by
  have afterMonths := @component_part_of_ne _ 'M' 'D' _ (by decide) (by decide)
    stated.days (stops 'M')
  have afterDays := @component_part_of_ne _ 'Y' 'D' _ (by decide) (by decide)
    stated.days (stops 'Y')
  have afterYears := @component_part_of_ne _ 'Y' 'M' _ (by decide) (by decide)
    stated.months afterDays
  exact ⟨_, _, component_part (by decide) stated.years afterYears,
    component_part (by decide) stated.months afterMonths,
    component_part (by decide) stated.days (stops 'D')⟩

end Components

/-- The components after the sign and the designator of a duration. -/
theorem components?_sign (negative : Bool) (cs : List Char) :
    components? (sign negative ++ 'P' :: cs) =
    let (years, cs) := component 'Y' cs
    let (months, cs) := component 'M' cs
    let (days, cs) := component 'D' cs
    match cs with
    | [] => if years.isSome || months.isSome || days.isSome then
        some { negative, years, months, days, hours := none, minutes := none, seconds := none }
      else none
    | 'T' :: rest =>
      let ((hours, minutes, seconds), rest) := timeComponents rest
      if rest.isEmpty && (hours.isSome || minutes.isSome || seconds.isSome) then
        some { negative, years, months, days, hours, minutes, seconds } else none
    | _ => none := by
  cases negative <;> rfl

/-- **A literal is taken apart into its components.** -/
theorem components?_toChars {c : Components} (stated : c.IsStated) :
    components? c.toChars = some c := by
  have filled := stated.filled
  rw [Components.toChars, components?_sign, Components.chars, Components.timeChars]
  cases time : c.hasTime with
  | false =>
    obtain ⟨_, _, year, month, day⟩ := Components.exists_components_date stated component_nil
    rw [time, Bool.or_false] at filled
    simp only [Bool.false_eq_true, if_false, year, month, day]
    rw [if_pos filled]
    simp only [Components.hasTime, Bool.or_eq_false_iff, Option.isSome_eq_false_iff,
      Option.isNone_iff_eq_none] at time
    obtain ⟨⟨hours, minutes⟩, seconds⟩ := time
    cases c
    simp only at hours minutes seconds
    rw [hours, minutes, seconds]
  | true =>
    obtain ⟨_, _, year, month, day⟩ := Components.exists_components_date stated
      fun designator => component_cons_of_mem (show 'T' ∈ designators by decide) designator
        (part 'H' c.hours ++ (part 'M' c.minutes ++ part 'S' c.seconds))
    simp only [if_true, year, month, day, Components.timeComponents_eq stated]
    exact if_pos time

/-- A literal that is taken apart has the designator of a duration, with a minus or without. -/
theorem exists_sign_of_components? {c : Components} (read : components? cs = some c) :
    ∃ negative after, cs = sign negative ++ 'P' :: after := by
  unfold components? at read
  dsimp only at read
  split at read
  · next after found =>
    split at found
    · exact ⟨true, after, congrArg ('-' :: ·) found⟩
    · exact ⟨false, after, found⟩
  · cases read

/-- **What a literal is taken apart into makes it.** -/
theorem of_components? {c : Components} (read : components? cs = some c) :
    c.IsStated ∧ cs = c.toChars := by
  obtain ⟨negative, after, rfl⟩ := exists_sign_of_components? read
  rw [components?_sign] at read
  rcases year : component 'Y' after with ⟨years, afterYears⟩
  rcases month : component 'M' afterYears with ⟨months, afterMonths⟩
  rcases day : component 'D' afterMonths with ⟨days, time⟩
  simp only [year, month, day] at read
  obtain ⟨rfl, years_run⟩ := of_component year
  obtain ⟨rfl, months_run⟩ := of_component month
  obtain ⟨rfl, days_run⟩ := of_component day
  split at read
  · split_ifs at read with filled
    obtain rfl := Option.some.inj read
    refine ⟨⟨years_run, months_run, days_run, nofun, nofun, nofun, ?_⟩, rfl⟩
    simpa only [Components.hasTime, Option.isSome_none, Bool.or_false] using filled
  · next clock =>
    rcases parts : timeComponents clock with ⟨⟨hours, minutes, seconds⟩, rest⟩
    simp only [parts] at read
    split_ifs at read with filled
    obtain rfl := Option.some.inj read
    obtain ⟨empty, time⟩ := Bool.and_eq_true_iff.1 filled
    obtain rfl := List.isEmpty_iff.1 empty
    unfold timeComponents at parts
    rcases hour : component 'H' clock with ⟨hours', afterHours⟩
    rcases minute : component 'M' afterHours with ⟨minutes', afterMinutes⟩
    rcases second : secondsComponent afterMinutes with ⟨seconds', afterSeconds⟩
    simp only [hour, minute, second, Prod.mk.injEq] at parts
    obtain ⟨⟨rfl, rfl, rfl⟩, rfl⟩ := parts
    obtain ⟨rfl, hours_run⟩ := of_component hour
    obtain ⟨rfl, minutes_run⟩ := of_component minute
    obtain ⟨rfl, seconds_run⟩ := of_secondsComponent second
    refine ⟨⟨years_run, months_run, days_run, hours_run, minutes_run, seconds_run, ?_⟩, ?_⟩
    · rw [Components.hasTime, time, Bool.or_true]
    · simp only [Components.toChars, Components.chars, Components.timeChars, Components.hasTime,
        time, if_true, List.append_nil]
  · cases read

theorem components?_eq_some_iff {c : Components} :
    components? cs = some c ↔ c.IsStated ∧ cs = c.toChars :=
  ⟨of_components?, fun ⟨stated, same⟩ => same ▸ components?_toChars stated⟩

end Duration

end SchemaBinding
