import Mathlib.Data.List.TakeWhile
import SchemaBinding.Value.Space
import SchemaBinding.Value.Whitespace

/-!
# Canonical forms are literals of their values

A whole number is written with digits and at most a minus, and read back from
them (`integer?_signed`). The canonical form of a decimal has its digits, with a
point before the last `scale` of them; reading it finds the same coefficient and
scale, because neither bound is reached before the last digit (`parse?_toChars`).
So every text, truth value, integer and decimal that a literal denotes is
denoted by its canonical form too (`parse_canonical`), and except for texts this
form has no blanks (`unblank_canonical`).
-/

namespace SchemaBinding

/-! ## Digits -/

namespace Text

/-- A numeral without sign is a run of digits. -/
theorem natural?_eq_some_iff {ds : List Char} {n : Nat} :
    natural? ds = some n ↔ ds ≠ [] ∧ (∀ c ∈ ds, c.isDigit = true) ∧ n = valueOf ds := by
  unfold natural?
  split
  · next numeral =>
    rw [Option.some.injEq]
    exact ⟨fun same => ⟨numeral.1, List.all_eq_true.1 numeral.2, same.symm⟩, fun number =>
      number.2.2.symm⟩
  · next other => exact iff_of_false nofun fun number => other ⟨number.1,
      List.all_eq_true.2 number.2.1⟩

/-- A numeral that begins with a digit has no sign. -/
theorem integer?_of_isDigit {c : Char} (h : c.isDigit = true) (cs : List Char) :
    integer? (c :: cs) = (natural? (c :: cs)).map Int.ofNat := by
  unfold integer?
  split
  · next same => exact absurd ((List.cons.inj same).1 ▸ h) (by decide)
  · next same => exact absurd ((List.cons.inj same).1 ▸ h) (by decide)
  · rfl

/-- The first character of a written natural number is a digit. -/
theorem exists_digits_eq_cons (n : Nat) : ∃ c cs, digits n = c :: cs ∧ c.isDigit = true := by
  cases h : digits n with
  | nil => exact absurd h (digits_ne_nil n)
  | cons c cs => exact ⟨c, cs, rfl, isDigit_of_mem_digits (h ▸ List.mem_cons_self ..)⟩

/-- **A written integer is read back.** -/
theorem integer?_signed (n : Int) : integer? (signed n) = some n := by
  unfold signed
  split
  · next negative =>
    rw [integer?, natural?_digits]
    change some (-(n.natAbs : Int)) = some n
    congr 1
    omega
  · next positive =>
    obtain ⟨c, cs, hcs, hc⟩ := exists_digits_eq_cons n.natAbs
    rw [hcs, integer?_of_isDigit hc, ← hcs, natural?_digits, Option.map_some]
    congr 1
    rw [Int.ofNat_eq_natCast]
    omega

theorem isDigit_of_mem_padded {width n : Nat} {c : Char} (h : c ∈ padded width n) :
    c.isDigit = true := by
  rcases List.mem_append.1 h with zero | digit
  · rw [(List.mem_replicate.1 zero).2]
    decide
  · exact isDigit_of_mem_digits digit

theorem le_length_padded (width n : Nat) : width ≤ (padded width n).length := by
  rw [padded, List.length_append, List.length_replicate]
  omega

/-- Zeros in front do not change the number that digits denote. -/
theorem valueOf_padded (width n : Nat) : valueOf (padded width n) = n := by
  rw [valueOf, padded, Nat.ofDigitChars_append, Nat.ofDigitChars_replicate_zero,
    Nat.mul_zero, digits, Nat.ofDigitChars_ten_toDigits]

/-- More digits denote no smaller number. -/
theorem le_ofDigitChars (ds : List Char) (n : Nat) : n ≤ Nat.ofDigitChars 10 ds n := by
  rw [Nat.ofDigitChars_eq_ofDigitChars_zero]
  have := Nat.le_mul_of_pos_left n (Nat.pow_pos (n := ds.length) (show 0 < 10 by decide))
  omega

end Text

/-! ## Decimals -/

namespace Decimal

/-- Digits before the point are taken in as long as the coefficient fits. -/
theorem readDigits_whole {ds : List Char} (digit : ∀ c ∈ ds, c.isDigit = true) {n : Nat}
    (fits : Nat.ofDigitChars 10 ds n < coefficientBound) (some? : Bool) (rest : List Char) :
    readDigits n 0 false some? (ds ++ rest)
      = readDigits (Nat.ofDigitChars 10 ds n) 0 false (some? || !ds.isEmpty) rest := by
  induction ds generalizing n some? with
  | nil => rw [List.nil_append, Nat.ofDigitChars_nil, List.isEmpty_nil, Bool.not_true,
      Bool.or_false]
  | cons c ds ih =>
    rw [Nat.ofDigitChars_cons, show '0'.toNat = 48 from rfl] at fits ⊢
    have hc : c.isDigit = true := digit c (List.mem_cons_self ..)
    have next : 10 * n + (c.toNat - 48) < coefficientBound :=
      Nat.lt_of_le_of_lt (Text.le_ofDigitChars ds _) fits
    rw [List.cons_append, readDigits, if_neg (fun h => Bool.false_ne_true h.1), if_pos hc,
      if_pos next,
      if_neg Bool.false_ne_true, ih (fun d hd => digit d (List.mem_cons_of_mem _ hd)) fits]
    rw [Bool.true_or, List.isEmpty_cons, Bool.not_false, Bool.or_true]

/-- Digits after the point are taken in as long as the coefficient and the scale fit. -/
theorem readDigits_fraction {ds : List Char} (digit : ∀ c ∈ ds, c.isDigit = true) {n scale : Nat}
    (fits : Nat.ofDigitChars 10 ds n < coefficientBound) (fine : scale + ds.length ≤ maximalScale)
    (rest : List Char) :
    readDigits n scale true true (ds ++ rest)
      = readDigits (Nat.ofDigitChars 10 ds n) (scale + ds.length) true true rest := by
  induction ds generalizing n scale with
  | nil => rfl
  | cons c ds ih =>
    rw [Nat.ofDigitChars_cons, show '0'.toNat = 48 from rfl] at fits ⊢
    rw [List.length_cons] at fine
    have hc : c.isDigit = true := digit c (List.mem_cons_self ..)
    have next : 10 * n + (c.toNat - 48) < coefficientBound :=
      Nat.lt_of_le_of_lt (Text.le_ofDigitChars ds _) fits
    have room : ¬(true = true ∧ maximalScale ≤ scale) := fun h => by omega
    rw [List.cons_append, readDigits, if_neg room, if_pos hc, if_pos next, if_pos rfl,
      ih (fun d hd => digit d (List.mem_cons_of_mem _ hd)) fits (by omega), List.length_cons,
      Nat.add_assoc, Nat.add_comm 1]

theorem readDigits_digits {ds : List Char} (filled : ds ≠ [])
    (digits : ∀ c ∈ ds, c.isDigit = true) (fits : Text.valueOf ds < coefficientBound) :
    readDigits 0 0 false false ds = some (Text.valueOf ds, 0) := by
  have read := readDigits_whole digits fits false []
  have some : (!ds.isEmpty) = true := by
    rw [Bool.not_eq_true', List.isEmpty_eq_false_iff]
    exact filled
  rw [List.append_nil, Bool.false_or, some] at read
  rw [read]
  rfl

/-- Reading goes on behind the point if the digits before it have room. -/
theorem readDigits_point {ds : List Char} (filled : ds ≠ []) (digits : ∀ c ∈ ds, c.isDigit = true)
    (fits : Text.valueOf ds < coefficientBound) (rest : List Char) :
    readDigits 0 0 false false (ds ++ '.' :: rest) =
      readDigits (Text.valueOf ds) 0 true true rest := by
  have some : (!ds.isEmpty) = true := by
    rw [Bool.not_eq_true', List.isEmpty_eq_false_iff]
    exact filled
  rw [readDigits_whole digits fits, some, Bool.or_true, readDigits,
    if_neg (fun h => Bool.false_ne_true h.1), if_neg (by decide), if_pos (by decide)]
  rfl

theorem isExponentMark_of_isDigit {c : Char} (digit : c.isDigit = true) :
    isExponentMark c = false := by
  rw [Bool.eq_false_iff, isExponentMark]
  intro mark
  rw [Bool.or_eq_true, beq_iff_eq, beq_iff_eq] at mark
  rcases mark with rfl | rfl <;> exact absurd digit (by decide)

/-- Pointed digits are digits, or digits on both sides of a point, as many behind it as the scale
says. -/
theorem pointed_cases (n scale : Nat) : (scale = 0 ∧ pointed n scale = Text.digits n) ∨
    ∃ whole fraction, pointed n scale = whole ++ '.' :: fraction ∧ whole ≠ [] ∧ fraction ≠ [] ∧
      (∀ c ∈ whole, c.isDigit = true) ∧ (∀ c ∈ fraction, c.isDigit = true) ∧
        fraction.length = scale ∧
      Text.valueOf (whole ++ fraction) = n := by
  unfold pointed
  split
  · next whole => exact .inl ⟨whole, rfl⟩
  · next part =>
    have long := Text.le_length_padded (scale + 1) n
    have value := Text.valueOf_padded (scale + 1) n
    have digits : ∀ c ∈ Text.padded (scale + 1) n, c.isDigit = true :=
      fun c mem => Text.isDigit_of_mem_padded mem
    generalize Text.padded (scale + 1) n = ds at long value digits
    have behind : (ds.drop (ds.length - scale)).length = scale := by
      rw [List.length_drop]
      omega
    refine .inr ⟨_, _, rfl, ?_, ?_, fun c mem => digits c (List.mem_of_mem_take mem),
      fun c mem => digits c (List.mem_of_mem_drop mem), behind, ?_⟩
    · rw [← List.length_pos_iff, List.length_take]
      omega
    · rw [← List.length_pos_iff, behind]
      exact Nat.pos_of_ne_zero part
    · rw [List.take_append_drop]
      exact value

/-- **Pointed digits are read back** as their number and scale. -/
theorem readDigits_pointed {n scale : Nat} (fits : n < coefficientBound)
    (fine : scale ≤ maximalScale) :
    readDigits 0 0 false false (pointed n scale) = some (n, scale) := by
  rcases pointed_cases n scale with
    ⟨rfl, plain⟩ | ⟨whole, fraction, split, filled, -, digits, decimals, rfl, rfl⟩
  · have value : Text.valueOf (Text.digits n) = n := Nat.ofDigitChars_ten_toDigits
    rw [plain, readDigits_digits (Text.digits_ne_nil n)
      (fun c mem => Text.isDigit_of_mem_digits mem) (value.trans_lt fits), value]
  · have joined : Nat.ofDigitChars 10 fraction (Text.valueOf whole) =
      Text.valueOf (whole ++ fraction) :=
      (Nat.ofDigitChars_append 0).symm
    have before : Text.valueOf whole < coefficientBound :=
      Nat.lt_of_le_of_lt (joined ▸ Text.le_ofDigitChars fraction _) fits
    have read := @readDigits_fraction _ decimals _ 0 (joined.trans_lt fits)
      (by rw [Nat.zero_add]; exact fine) []
    rw [List.append_nil, Nat.zero_add, joined] at read
    rw [split, readDigits_point filled digits before, read]
    rfl

theorem mem_pointed {n scale : Nat} {c : Char} (h : c ∈ pointed n scale) :
    c.isDigit = true ∨ c = '.' := by
  rcases pointed_cases n scale with
    ⟨-, plain⟩ | ⟨whole, fraction, split, -, -, digits, decimals, -, -⟩
  · exact .inl (Text.isDigit_of_mem_digits (plain ▸ h))
  · rw [split, List.mem_append, List.mem_cons] at h
    rcases h with before | rfl | after
    · exact .inl (digits c before)
    · exact .inr rfl
    · exact .inl (decimals c after)

/-- The canonical form of a decimal has digits, a point and a minus only. -/
theorem mem_toChars {d : Decimal} {c : Char} (h : c ∈ d.toChars) :
    c.isDigit = true ∨ c = '.' ∨ c = '-' := by
  unfold toChars at h
  dsimp only at h
  split at h
  · rcases List.mem_cons.1 h with rfl | digit
    · exact .inr (.inr rfl)
    · exact (mem_pointed digit).imp_right .inl
  · exact (mem_pointed h).imp_right .inl

/-- The first of pointed digits is a digit. -/
theorem exists_pointed_eq_cons (n scale : Nat) :
    ∃ c cs, pointed n scale = c :: cs ∧ c.isDigit = true := by
  rcases pointed_cases n scale with
    ⟨-, plain⟩ | ⟨whole, fraction, split, filled, -, digits, -, -, -⟩
  · rw [plain]
    exact Text.exists_digits_eq_cons n
  · obtain ⟨c, cs, rfl⟩ := List.exists_cons_of_ne_nil filled
    exact ⟨c, _, split, digits c (List.mem_cons_self ..)⟩

theorem readSigned_of_isDigit {c : Char} (h : c.isDigit = true) (cs : List Char) :
    readSigned (c :: cs) = (readDigits 0 0 false false (c :: cs)).map fun (n, s) =>
      ((n : Int), s) := by
  unfold readSigned
  split
  · next same => exact absurd ((List.cons.inj same).1 ▸ h) (by decide)
  · next same => exact absurd ((List.cons.inj same).1 ▸ h) (by decide)
  · rfl

theorem readSigned_toChars (d : Decimal) :
    readSigned d.toChars = some (d.coefficient, d.scale) := by
  have read := readDigits_pointed d.bounded d.fine
  unfold toChars
  dsimp only
  split
  · next negative =>
    rw [readSigned, read, Option.map_some]
    dsimp only
    congr 2
    omega
  · next positive =>
    obtain ⟨c, cs, hcs, hc⟩ := exists_pointed_eq_cons d.coefficient.natAbs d.scale
    rw [hcs, readSigned_of_isDigit hc, ← hcs, read, Option.map_some]
    dsimp only
    congr 2
    omega

/-- A number with the smallest possible scale is kept as it is. -/
theorem ofParts?_self (d : Decimal) : ofParts? d.coefficient d.scale = some d := by
  have kept : reduce d.coefficient d.scale = (d.coefficient, d.scale) := by
    cases hs : d.scale with
    | zero => rfl
    | succ scale =>
      have fraction : d.coefficient % 10 ≠ 0 := d.reduced.resolve_left (by omega)
      rw [reduce, if_neg fraction]
  rw [ofParts?, dif_pos ⟨d.bounded, d.fine⟩]
  congr 1
  cases d
  simp only [kept]

/-- **A written decimal is read back.** -/
theorem parse?_toChars (d : Decimal) : parse? d.toChars = some d := by
  have plain : ∀ c ∈ d.toChars, (!isExponentMark c) = true := by
    intro c hc
    rcases mem_toChars hc with digit | rfl | rfl
    · cases mark : isExponentMark c with
      | false => rfl
      | true =>
        simp only [isExponentMark, Bool.or_eq_true, beq_iff_eq] at mark
        rcases mark with rfl | rfl <;> exact absurd digit (by decide)
    · decide
    · decide
  have whole : d.toChars.takeWhile (fun c => !isExponentMark c) = d.toChars :=
    List.takeWhile_eq_self_iff.2 plain
  have nothing : d.toChars.dropWhile (fun c => !isExponentMark c) = [] :=
    List.dropWhile_eq_nil_iff.2 plain
  rw [parse?, whole, nothing, readSigned_toChars]
  exact ofParts?_self d

end Decimal

/-! ## Spaces -/

namespace Space

/-- The spaces of texts, truth values, integers and decimals. -/
inductive IsExact : Space → Prop
  | text : IsExact .text
  | boolean : IsExact .boolean
  | integer (range : IntegerRange) : IsExact (.integer range)
  | decimal : IsExact .decimal

/-- A plus sign is not dropped where there is none. -/
theorem dropPlus_of_ne {cs : List Char} (h : cs.head? ≠ some '+') : dropPlus cs = cs := by
  unfold dropPlus
  split
  · exact absurd rfl h
  · rfl

theorem head?_signed_ne (n : Int) : (Text.signed n).head? ≠ some '+' := by
  unfold Text.signed
  split
  · rw [List.head?_cons]
    decide
  · obtain ⟨c, cs, hcs, hc⟩ := Text.exists_digits_eq_cons n.natAbs
    rw [hcs, List.head?_cons]
    intro plus
    exact absurd (Option.some.inj plus ▸ hc) (by decide)

/-- An integer is read if it is written and belongs to the range, and to the widest one. -/
theorem parseInteger_eq_ok_iff {range : IntegerRange} {literal : String}
    {v : { n : Int // n ∈ range }} :
    parseInteger range literal = .ok v ↔
      Text.integer? (dropPlus literal.toList) = some v.val ∧ v.val ∈ IntegerRange.widest := by
  rw [parseInteger]
  cases Text.integer? (dropPlus literal.toList) with
  | none =>
    constructor
    · intro h
      cases h
    · rintro ⟨h, -⟩
      cases h
  | some n =>
    dsimp only
    constructor
    · intro h
      split at h
      · next known =>
        split at h
        · obtain rfl := Except.ok.inj h
          exact ⟨rfl, known⟩
        · cases h
      · cases h
    · rintro ⟨same, known⟩
      obtain rfl := Option.some.inj same
      rw [if_pos known, dif_pos v.property]

/-- **A written integer is read back in every range that it belongs to.** -/
theorem parseInteger_signed {range : IntegerRange} (n : { n : Int // n ∈ range })
    (known : n.val ∈ IntegerRange.widest) :
    parseInteger range (String.ofList (Text.signed n.val)) = .ok n := by
  rw [parseInteger_eq_ok_iff, String.toList_ofList, dropPlus_of_ne (head?_signed_ne n.val),
    Text.integer?_signed]
  exact ⟨rfl, known⟩

theorem head?_toChars_ne (d : Decimal) : d.toChars.head? ≠ some '+' := by
  cases h : d.toChars with
  | nil => exact nofun
  | cons c cs =>
    rw [List.head?_cons]
    intro plus
    rcases Decimal.mem_toChars (h ▸ List.mem_cons_self (a := c) (l := cs)) with digit | rfl | rfl
    · exact absurd (Option.some.inj plus ▸ digit) (by decide)
    · exact absurd plus (by decide)
    · exact absurd plus (by decide)

theorem parseDecimal_print (d : Decimal) : parseDecimal d.print = .ok d := by
  rw [parseDecimal, Decimal.print, String.toList_ofList, dropPlus_of_ne (head?_toChars_ne d),
    Decimal.parse?_toChars]

/-- **The canonical form of a value that is read is read as that value.** -/
theorem parse_canonical {space : Space} (exact : space.IsExact) {literal : String}
    {v : space.Carrier} (h : space.parse literal = .ok v) :
    space.parse (space.canonical v) = .ok v := by
  cases exact with
  | text => rfl
  | boolean =>
    cases (v : Bool) with
    | false => rfl
    | true => rfl
  | integer range => exact parseInteger_signed v (parseInteger_eq_ok_iff.1 h).2
  | decimal => exact parseDecimal_print v

/-- The characters of numerals are not blank. -/
theorem unblank_of_numeral {c : Char} (h : c.isDigit = true ∨ c = '.' ∨ c = '-') :
    Text.isBlank c = false := by
  rcases h with digit | rfl | rfl
  · rw [Char.isDigit_iff_toNat, show '0'.toNat = 48 from rfl, show '9'.toNat = 57 from rfl] at digit
    simp only [Text.isBlank, Bool.or_eq_false_iff, Bool.and_eq_false_iff, decide_eq_false_iff_not,
      beq_eq_false_iff_ne]
    omega
  · decide
  · decide

theorem unblank_of_all {cs : List Char} (h : (cs.all fun c => !Text.isBlank c) = true) :
    ∀ c ∈ cs, Text.isBlank c = false := by
  intro c hc
  rw [← Bool.not_eq_true', List.all_eq_true.1 h c hc]

/-- **A canonical form has no blanks**, unless it is a text. -/
theorem unblank_canonical {space : Space} (exact : space.IsExact) (other : space ≠ .text)
    (v : space.Carrier) :
    ∀ c ∈ (space.canonical v).toList, Text.isBlank c = false := by
  cases exact with
  | text => exact absurd rfl other
  | boolean =>
    cases (v : Bool) with
    | false => exact unblank_of_all rfl
    | true => exact unblank_of_all rfl
  | integer range =>
    intro c hc
    change c ∈ (String.ofList (Text.signed v.val)).toList at hc
    rw [String.toList_ofList, Text.signed] at hc
    split at hc
    · rcases List.mem_cons.1 hc with rfl | digit
      · decide
      · exact unblank_of_numeral (.inl (Text.isDigit_of_mem_digits digit))
    · exact unblank_of_numeral (.inl (Text.isDigit_of_mem_digits hc))
  | decimal =>
    intro c hc
    change c ∈ (String.ofList (Decimal.toChars v)).toList at hc
    rw [String.toList_ofList] at hc
    exact unblank_of_numeral (Decimal.mem_toChars hc)

end Space

end SchemaBinding
