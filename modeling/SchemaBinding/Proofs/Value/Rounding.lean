import Mathlib.Data.Nat.Find
import Mathlib.Data.Rat.Floor
import Mathlib.Tactic.Linarith
import Mathlib.Tactic.Positivity
import SchemaBinding.Proofs.Value.Canonical
import SchemaBinding.Proofs.Value.Quotient

/-!
# Numbers with too many digits are rounded

A number is rounded to a decimal at the largest scale at which its coefficient
fits, and a half is rounded up (`Rounds`). There is at most one such decimal, and
there is one if and only if the number is below the bound after rounding to a
whole number (`exists_rounds_iff`). Reading digits stops at the first one that has
no room (`digits_cases`) and looks at this one only (`readDigits_stop`), which is
enough: it tells whether what is left out is a half or more (`rounds_roundAt`). So
what is read for digits with a point is the decimal to which their number is
rounded (`parse?_eq_some_iff_rounds`).
-/

namespace SchemaBinding

namespace Decimal

variable {s : Rat} {d d' : Decimal} {n scale finer : Nat}

/-! ## Rounding -/

/-- The coefficient of a number at a scale, where a half is rounded up. -/
def coefficientAt (s : Rat) (scale : Nat) : Nat := ⌊s * 10 ^ scale + 1 / 2⌋₊

/-- A decimal is a number rounded at the largest scale at which its coefficient fits. -/
def Rounds (s : Rat) (d : Decimal) : Prop :=
  ∃ scale ≤ maximalScale, coefficientAt s scale < coefficientBound ∧
    (∀ finer ≤ maximalScale, scale < finer → coefficientBound ≤ coefficientAt s finer) ∧
    d.toRat = coefficientAt s scale / 10 ^ scale

/-- Coefficients grow with the scale. -/
theorem coefficientAt_le (nonneg : 0 ≤ s) (le : scale ≤ finer) :
    coefficientAt s scale ≤ coefficientAt s finer := by
  refine Nat.floor_le_floor (add_le_add_left (mul_le_mul_of_nonneg_left ?_ nonneg) _)
  exact pow_le_pow_right₀ (by norm_num) le

/-- A number with as many digits as the scale has its coefficient. -/
theorem coefficientAt_div (n scale more : Nat) :
    coefficientAt (n / 10 ^ scale) (scale + more) = n * 10 ^ more := by
  have whole : (n : Rat) / 10 ^ scale * 10 ^ (scale + more) = (n * 10 ^ more : Nat) := by
    push_cast
    rw [pow_add]
    field_simp
  rw [coefficientAt, whole, Nat.floor_eq_iff (by positivity)]
  constructor <;> linarith

theorem Rounds.unique (rounds : Rounds s d) (rounds' : Rounds s d') : d = d' := by
  obtain ⟨scale, fine, fits, largest, same⟩ := rounds
  obtain ⟨scale', fine', fits', largest', same'⟩ := rounds'
  have le : scale ≤ scale' := by
    by_contra less
    exact absurd fits (Nat.not_lt.2 (largest' scale fine (Nat.not_le.1 less)))
  have ge : scale' ≤ scale := by
    by_contra less
    exact absurd fits' (Nat.not_lt.2 (largest scale' fine' (Nat.not_le.1 less)))
  obtain rfl := Nat.le_antisymm le ge
  exact toRat_injective (same.trans same'.symm)

/-- The decimal of the largest coefficient that fits. -/
theorem exists_rounds (fine : scale ≤ maximalScale)
    (fits : coefficientAt s scale < coefficientBound)
    (largest : ∀ finer ≤ maximalScale, scale < finer → coefficientBound ≤ coefficientAt s finer) :
    ∃ d, ofParts? (coefficientAt s scale) scale = some d ∧ Rounds s d := by
  obtain ⟨d, made⟩ : ∃ d, ofParts? (coefficientAt s scale) scale = some d := by
    rw [ofParts?, dif_pos ⟨fits, fine⟩]
    exact ⟨_, rfl⟩
  refine ⟨d, made, scale, fine, fits, largest, ?_⟩
  rw [toRat_of_ofParts? made, Int.cast_natCast]

/-- **A number can be rounded** if and only if it is below the bound as a whole number. -/
theorem exists_rounds_iff (nonneg : 0 ≤ s) :
    (∃ d, Rounds s d) ↔ coefficientAt s 0 < coefficientBound := by
  constructor
  · rintro ⟨d, scale, -, fits, -⟩
    exact (coefficientAt_le nonneg (Nat.zero_le scale)).trans_lt fits
  · intro whole
    let fits (scale : Nat) : Prop := coefficientAt s scale < coefficientBound
    have small : fits (Nat.findGreatest fits maximalScale) :=
      Nat.findGreatest_spec (P := fits) (Nat.zero_le _) whole
    obtain ⟨d, -, rounds⟩ :=
      exists_rounds (Nat.findGreatest_le maximalScale) small fun finer fine greater =>
      Nat.not_lt.1 (Nat.findGreatest_is_greatest (P := fits) greater fine)
    exact ⟨d, rounds⟩

/-- A number that is one of a decimal is rounded to it. -/
theorem rounds_toRat (nonneg : 0 ≤ d.toRat) : Rounds d.toRat d := by
  have number : d.toRat = (d.coefficient.natAbs : Rat) / 10 ^ d.scale := by
    rw [toRat, Nat.cast_natAbs, abs_of_nonneg (coefficient_nonneg_iff.2 nonneg)]
  have own : coefficientAt d.toRat d.scale = d.coefficient.natAbs := by
    rw [number]
    exact (coefficientAt_div _ d.scale 0).trans (mul_one _)
  have whole : coefficientAt d.toRat 0 < coefficientBound :=
    ((coefficientAt_le nonneg (Nat.zero_le d.scale)).trans_eq own).trans_lt d.bounded
  obtain ⟨d', scale, fine, fits, largest, same⟩ := (exists_rounds_iff nonneg).2 whole
  have le : d.scale ≤ scale := by
    by_contra less
    exact absurd (own.trans_lt d.bounded) (Nat.not_lt.2 (largest _ d.fine (Nat.not_le.1 less)))
  obtain ⟨more, rfl⟩ := Nat.exists_eq_add_of_le le
  refine ⟨_, fine, fits, largest, ?_⟩
  conv_rhs => rw [number, coefficientAt_div]
  rw [number, pow_add, div_eq_div_iff (by positivity) (by positivity)]
  push_cast
  ring

/-! ## Reading digits -/

/-- Digits whose number does not fit are not read without a point. -/
theorem readDigits_whole_eq_none {ds : List Char} (digit : ∀ c ∈ ds, c.isDigit = true)
    (small : n < coefficientBound) (large : coefficientBound ≤ Nat.ofDigitChars 10 ds n)
    (some? : Bool) (rest : List Char) :
    readDigits n 0 false some? (ds ++ rest) = none := by
  induction ds generalizing n some? with
  | nil => exact absurd small (Nat.not_lt.2 large)
  | cons c ds ih =>
    rw [Nat.ofDigitChars_cons, show '0'.toNat = 48 from rfl] at large
    rw [List.cons_append, readDigits, if_neg fun h =>
      Bool.false_ne_true h.1, if_pos (digit c (List.mem_cons_self ..))]
    by_cases next : 10 * n + (c.toNat - 48) < coefficientBound
    · rw [if_pos next, if_neg Bool.false_ne_true]
      exact ih (fun d hd => digit d (List.mem_cons_of_mem _ hd)) next large true
    · rw [if_neg next, if_neg Bool.false_ne_true]

/-- Nothing is read from a character that is no digit, point or underscore. -/
theorem readDigits_cons_eq_none {c : Char} (letter : c.isDigit = false) (point : c ≠ '.')
    (underscore : c ≠ '_') (behind some? : Bool) (rest : List Char) :
    readDigits n scale behind some? (c :: rest) = none := by
  have other : ¬ c.isDigit = true := Bool.eq_false_iff.1 letter
  rw [readDigits]
  split_ifs with full separator underscored
  · rw [roundAt, if_neg (not_or.2 ⟨other, not_or.2 ⟨underscore, point⟩⟩)]
  · exact absurd separator.1 point
  · exact absurd underscored.1 underscore
  · rfl

/-- So nothing is read if one stands behind the first digits. -/
theorem readDigits_whole_cons_eq_none {ds : List Char} {c : Char}
    (digits : ∀ c ∈ ds, c.isDigit = true) (letter : c.isDigit = false) (point : c ≠ '.')
    (underscore : c ≠ '_') (rest : List Char) :
    readDigits 0 0 false false (ds ++ c :: rest) = none := by
  rcases Nat.lt_or_ge (Text.valueOf ds) coefficientBound with fits | large
  · rw [readDigits_whole digits fits]
    exact readDigits_cons_eq_none letter point underscore ..
  · exact readDigits_whole_eq_none digits (by decide) large false _

/-- Digits after a point either all have room, or there is a first one that has none. -/
theorem digits_cases (ds : List Char) (small : n < coefficientBound) (fine : scale ≤ maximalScale) :
    (Nat.ofDigitChars 10 ds n < coefficientBound ∧ scale + ds.length ≤ maximalScale) ∨
      ∃ kept c left, ds = kept ++ c :: left ∧ Nat.ofDigitChars 10 kept n < coefficientBound ∧
        scale + kept.length ≤ maximalScale ∧
        (scale + kept.length = maximalScale ∨
          coefficientBound ≤ 10 * Nat.ofDigitChars 10 kept n + (c.toNat - 48)) := by
  induction ds generalizing n scale with
  | nil => exact .inl ⟨small, fine⟩
  | cons c ds ih =>
    by_cases room : scale < maximalScale ∧ 10 * n + (c.toNat - 48) < coefficientBound
    · rcases ih room.2 (Nat.succ_le_of_lt room.1) with
        ⟨fits, short⟩ | ⟨kept, c', left, rfl, fits, short, stops⟩
      · refine .inl ⟨fits, ?_⟩
        rw [List.length_cons]
        omega
      · refine .inr ⟨c :: kept, c', left, rfl, fits, ?_, ?_⟩
        · rw [List.length_cons]
          omega
        · rw [List.length_cons]
          exact stops.imp_left fun full => by omega
    · refine .inr ⟨[], c, ds, rfl, small, fine, ?_⟩
      rw [List.length_nil, Nat.ofDigitChars_nil]
      omega

/-- **Reading ends at the first digit that has no room**, and looks at nothing after it. -/
theorem readDigits_stop {c : Char} (digit : c.isDigit = true)
    (stops : scale = maximalScale ∨ coefficientBound ≤ 10 * n + (c.toNat - 48)) (rest : List Char) :
    readDigits n scale true true (c :: rest) = roundAt n scale c := by
  rw [readDigits]
  by_cases full : maximalScale ≤ scale
  · rw [if_pos ⟨rfl, full⟩]
  · have large := stops.resolve_left (by omega)
    rw [if_neg fun h => full h.2, if_pos digit, if_neg (Nat.not_lt.2 large), if_pos rfl]

/-- So what stands behind more digits than have room is not looked at. -/
theorem readDigits_append_of_full {ds fs : List Char} (decimals : ∀ c ∈ fs, c.isDigit = true)
    (fits : Text.valueOf ds < coefficientBound)
    (full : maximalScale < fs.length ∨ coefficientBound ≤ Text.valueOf (ds ++ fs))
    (rest : List Char) :
    readDigits (Text.valueOf ds) 0 true true (fs ++ rest) =
      readDigits (Text.valueOf ds) 0 true true fs := by
  rcases digits_cases fs fits (Nat.zero_le maximalScale) with
    ⟨all, short⟩ | ⟨kept, c, left, rfl, small, fine, stops⟩
  · have joined : Text.valueOf (ds ++ fs) = Nat.ofDigitChars 10 fs (Text.valueOf ds) :=
      Nat.ofDigitChars_append 0
    rw [joined] at full
    omega
  · have before : ∀ c ∈ kept, c.isDigit = true := fun c mem =>
      decimals c (List.mem_append_left _ mem)
    have digit : c.isDigit = true := decimals c (List.mem_append_right _ (List.mem_cons_self ..))
    rw [List.append_assoc, readDigits_fraction before small fine,
      readDigits_fraction before small fine, List.cons_append, readDigits_stop digit stops,
      readDigits_stop digit stops]

/-! ## The digit that is looked at -/

/-- A digit that is looked at: what is kept before it, and the number of both. -/
structure Looks (s : Rat) (n scale digit : Nat) : Prop where
  small : n < coefficientBound
  fine : scale ≤ maximalScale
  digit_lt : digit < 10
  le : ((10 * n + digit : Nat) : Rat) ≤ s * 10 ^ (scale + 1)
  lt : s * 10 ^ (scale + 1) < (10 * n + digit : Nat) + 1

namespace Looks

variable {digit : Nat}

/-- The digit tells whether what is left out is a half or more. -/
theorem coefficientAt_eq (looks : Looks s n scale digit) :
    coefficientAt s scale = if 5 ≤ digit then n + 1 else n := by
  have le := looks.le
  have lt := looks.lt
  have tenth : s * 10 ^ scale = s * 10 ^ (scale + 1) / 10 := by
    rw [pow_succ]
    ring
  have below := looks.digit_lt
  have nonneg : 0 ≤ s * 10 ^ scale + 1 / 2 := by
    rw [tenth]
    have : (0 : Rat) ≤ (10 * n + digit : Nat) := Nat.cast_nonneg _
    linarith
  rw [coefficientAt, tenth] at *
  push_cast at le lt
  split_ifs with half
  · have : (5 : Rat) ≤ digit := by exact_mod_cast half
    have : (digit : Rat) + 1 ≤ 10 := by exact_mod_cast below
    rw [Nat.floor_eq_iff nonneg]
    push_cast
    constructor <;> linarith
  · have : (digit : Rat) + 1 ≤ 5 := by exact_mod_cast Nat.not_le.1 half
    rw [Nat.floor_eq_iff nonneg]
    constructor <;> linarith

/-- A number that is rounded up at a scale is rounded at the scale before as what it has been
rounded to. -/
theorem coefficientAt_pred (looks : Looks s n (scale + 1) digit) (half : 5 ≤ digit) :
    coefficientAt s scale = (n + 1 + 4) / 10 := by
  have le := looks.le
  have lt := looks.lt
  have hundredth : s * 10 ^ scale = s * 10 ^ (scale + 1 + 1) / 100 := by
    rw [pow_succ, pow_succ]
    ring
  have below : (digit : Rat) + 1 ≤ 10 := by exact_mod_cast looks.digit_lt
  have above : (5 : Rat) ≤ digit := by exact_mod_cast half
  obtain ⟨r, r_lt, split⟩ : ∃ r < 10, n + 1 + 4 = 10 * ((n + 1 + 4) / 10) + r :=
    ⟨(n + 1 + 4) % 10, Nat.mod_lt _ (by decide), (Nat.div_add_mod ..).symm⟩
  generalize (n + 1 + 4) / 10 = p at split ⊢
  have split : (n : Rat) + 1 + 4 = 10 * p + r := by exact_mod_cast split
  have rest : (r : Rat) + 1 ≤ 10 := by exact_mod_cast r_lt
  have nonneg : (0 : Rat) ≤ r := Nat.cast_nonneg r
  have whole : (0 : Rat) ≤ n := Nat.cast_nonneg n
  push_cast at le lt
  rw [coefficientAt, hundredth, Nat.floor_eq_iff (by linarith)]
  constructor <;> linarith

/-- Finer coefficients have the digit at least. -/
theorem le_coefficientAt (looks : Looks s n scale digit) (nonneg : 0 ≤ s) (less : scale < finer) :
    10 * n + digit ≤ coefficientAt s finer := by
  have own : 10 * n + digit ≤ coefficientAt s (scale + 1) := Nat.le_floor (by linarith [looks.le])
  exact own.trans (coefficientAt_le nonneg less)

end Looks

/-! ## Reading a number -/

/-- What is read where the digit has no room. -/
theorem roundAt_eq {c : Char} (known : c.isDigit = true) : roundAt n scale c =
    if 5 ≤ c.toNat - 48 then
      if n + 1 < coefficientBound then some (n + 1, scale)
      else if scale = 0 then none
      else some ((n + 1 + 4) / 10, scale - 1)
    else some (n, scale) := by
  have half : (c.isDigit = true ∧ '5' ≤ c) ↔ 5 ≤ c.toNat - 48 := by
    have := Char.isDigit_iff_toNat.1 known
    rw [and_iff_right known, Char.le_def, UInt32.le_iff_toNat_le]
    change 53 ≤ c.toNat ↔ _
    omega
  rw [roundAt, if_pos (.inl known)]
  simp only [half]

/-- **The digit that has no room is enough to round the number**, and there is no result only if it
cannot be rounded. -/
theorem rounds_roundAt {c : Char} (known : c.isDigit = true)
    (looks : Looks s n scale (c.toNat - 48)) (nonneg : 0 ≤ s)
    (stops : scale = maximalScale ∨ coefficientBound ≤ 10 * n + (c.toNat - 48)) :
    ((roundAt n scale c).bind fun (m, j) => ofParts? m j) = some d ↔ Rounds s d := by
  have fine := looks.fine
  have large :
    ∀ finer ≤ maximalScale, scale < finer → coefficientBound ≤ coefficientAt s finer := by
    intro finer fine' less
    exact (stops.resolve_left (by omega)).trans (looks.le_coefficientAt nonneg less)
  have own := looks.coefficientAt_eq
  -- Whatever is found is the one decimal to which the number is rounded.
  have found {m j : Nat} (fine : j ≤ maximalScale) (fits : m < coefficientBound)
    (same : coefficientAt s j = m)
      (largest : ∀ finer ≤ maximalScale, j < finer → coefficientBound ≤ coefficientAt s finer) :
      ofParts? m j = some d ↔ Rounds s d := by
    obtain ⟨d', made, rounds⟩ := exists_rounds fine (same.trans_lt fits) largest
    rw [same] at made
    rw [made, Option.some.injEq]
    exact ⟨fun same => same ▸ rounds, fun rounds' => rounds.unique rounds'⟩
  rw [roundAt_eq known]
  split_ifs at own ⊢ with half next none
  · exact found looks.fine next own large
  · rw [none] at own
    refine iff_of_false nofun fun rounds => ?_
    have whole := (exists_rounds_iff nonneg).1 ⟨d, rounds⟩
    omega
  · obtain ⟨before, rfl⟩ := Nat.exists_eq_add_of_lt (Nat.pos_of_ne_zero none)
    rw [Nat.zero_add] at looks own large fine ⊢
    have fits : (n + 1 + 4) / 10 < coefficientBound := by
      have := looks.small
      have : coefficientBound = 79228162514264337593543950336 := rfl
      omega
    refine found (by omega) fits (looks.coefficientAt_pred half) fun finer fine' less => ?_
    rcases Nat.lt_or_eq_of_le (Nat.succ_le_of_lt less) with more | rfl
    · exact large finer fine' more
    · exact own.symm ▸ Nat.not_lt.1 next
  · exact found looks.fine looks.small own large

/-- Digits with at most one point between them, and their number. -/
inductive IsUnsigned : List Char → Rat → Prop
  | whole {ds : List Char} (filled : ds ≠ []) (digits : ∀ c ∈ ds, c.isDigit = true) :
      IsUnsigned ds (Text.valueOf ds)
  | pointed {ds fs : List Char} (filled : ds ≠ []) (digits : ∀ c ∈ ds, c.isDigit = true)
      (more : fs ≠ []) (decimals : ∀ c ∈ fs, c.isDigit = true) :
      IsUnsigned (ds ++ '.' :: fs) (Text.valueOf ds + Text.valueOf fs / 10 ^ fs.length)

theorem IsUnsigned.nonneg {cs : List Char} (number : IsUnsigned cs s) : 0 ≤ s := by
  cases number <;> positivity

/-- Digits with a point have one number only. -/
theorem IsUnsigned.unique {cs : List Char} {s' : Rat} (number : IsUnsigned cs s)
    (number' : IsUnsigned cs s') : s = s' := by
  have point {ds : List Char} (digits : ∀ c ∈ ds, c.isDigit = true) : '.' ∉ ds := fun mem =>
    absurd (digits '.' mem) (by decide)
  generalize same : cs = cs' at number'
  cases number with
  | whole filled digits =>
    cases number' with
    | whole => rw [same]
    | pointed =>
      exact absurd (same ▸ List.mem_append_right _ (List.mem_cons_self ..)) (point digits)
  | pointed filled digits more decimals =>
    cases number' with
    | whole filled' digits' =>
      exact absurd (same ▸ List.mem_append_right _ (List.mem_cons_self ..)) (point digits')
    | pointed filled' digits' more' decimals' =>
      obtain ⟨rfl, -, rfl⟩ :=
        (List.append_cons_inj_of_notMem (point digits) (point decimals)).1 same
      rfl

/-- A text without sign and exponent is read digit by digit. -/
theorem parse?_eq_bind {cs : List Char} (plain : ∀ c ∈ cs, isExponentMark c = false)
    (unsigned : cs.head? ≠ some '-' ∧ cs.head? ≠ some '+') :
    parse? cs = (readDigits 0 0 false false cs).bind fun (n, scale) => ofParts? n scale := by
  have known : ∀ c ∈ cs, (!isExponentMark c) = true := fun c mem => by rw [plain c mem]; rfl
  have whole : cs.takeWhile (fun c => !isExponentMark c) = cs := List.takeWhile_eq_self_iff.2 known
  have nothing : cs.dropWhile (fun c => !isExponentMark c) = [] := List.dropWhile_eq_nil_iff.2 known
  have signed :
    readSigned cs = (readDigits 0 0 false false cs).map fun (n, s) => ((n : Int), s) := by
    unfold readSigned
    split
    · exact absurd rfl unsigned.1
    · exact absurd rfl unsigned.2
    · rfl
  rw [parse?, whole, nothing, signed]
  cases readDigits 0 0 false false cs with
  | none => rfl
  | some read => rfl

theorem valueOf_append (ds fs : List Char) :
    Text.valueOf (ds ++ fs) = 10 ^ fs.length * Text.valueOf ds + Text.valueOf fs := by
  rw [Text.valueOf, Nat.ofDigitChars_append, Nat.ofDigitChars_eq_ofDigitChars_zero]
  rfl

theorem valueOf_singleton (c : Char) : Text.valueOf [c] = c.toNat - 48 := by
  rw [Text.valueOf, Nat.ofDigitChars_cons, Nat.ofDigitChars_nil, Nat.mul_zero, Nat.zero_add]
  rfl

/-- The number of digits is below the power of their count. -/
theorem valueOf_lt {ds : List Char} (digits : ∀ c ∈ ds, c.isDigit = true) :
    Text.valueOf ds < 10 ^ ds.length := by
  induction ds with
  | nil => exact Nat.one_pos
  | cons c ds ih =>
    have range := Char.isDigit_iff_toNat.1 (digits c (List.mem_cons_self ..))
    rw [show '9'.toNat = 57 from rfl, show '0'.toNat = 48 from rfl] at range
    have rest := ih fun d mem => digits d (List.mem_cons_of_mem _ mem)
    have split := valueOf_append [c] ds
    have most : 10 ^ ds.length * (c.toNat - 48) ≤ 10 ^ ds.length * 9 :=
      Nat.mul_le_mul_left _ (by omega)
    rw [valueOf_singleton] at split
    rw [List.length_cons, pow_succ, show c :: ds = [c] ++ ds from rfl, split]
    omega

/-- The number of digits on both sides of a point. -/
theorem pointed_eq (ds fs : List Char) :
    (Text.valueOf ds + Text.valueOf fs / 10 ^ fs.length : Rat) =
      Text.valueOf (ds ++ fs) / 10 ^ fs.length := by
  rw [valueOf_append]
  push_cast
  rw [add_div, mul_div_cancel_left₀ _ (by positivity)]

/-- The digits that are read look at the number of all. -/
theorem looks_of_append {ds kept left : List Char} {c : Char} (digit : c.isDigit = true)
    (digits : ∀ c ∈ left, c.isDigit = true) (small : Text.valueOf (ds ++ kept) < coefficientBound)
    (fine : kept.length ≤ maximalScale) :
    Looks (Text.valueOf (ds ++ (kept ++ c :: left)) / 10 ^ (kept ++ c :: left).length)
      (Text.valueOf (ds ++ kept)) kept.length (c.toNat - 48) := by
  have value : Text.valueOf (ds ++ (kept ++ c :: left)) =
      10 ^ left.length * (10 * Text.valueOf (ds ++ kept) + (c.toNat - 48)) + Text.valueOf left := by
    rw [← List.append_assoc, List.append_cons, valueOf_append, valueOf_append (ds ++ kept) [c],
      valueOf_singleton]
    rfl
  have places : (kept ++ c :: left).length = kept.length + 1 + left.length := by
    rw [List.length_append, List.length_cons]
    omega
  have moved : (Text.valueOf (ds ++ (kept ++ c :: left)) : Rat) / 10 ^ (kept ++ c :: left).length
      * 10 ^ (kept.length + 1) =
        (10 * Text.valueOf (ds ++ kept) + (c.toNat - 48) : Nat) + Text.valueOf left / 10 ^
        left.length := by
    rw [value, places, pow_add]
    push_cast
    field_simp
  have positive : (0 : Rat) < 10 ^ left.length := by positivity
  have below : (Text.valueOf left : Rat) / 10 ^ left.length < 1 := by
    rw [div_lt_one positive]
    exact_mod_cast valueOf_lt digits
  have nonneg : (0 : Rat) ≤ Text.valueOf left / 10 ^ left.length := by positivity
  have range := Char.isDigit_iff_toNat.1 digit
  rw [show '9'.toNat = 57 from rfl] at range
  refine ⟨small, fine, by omega, ?_, ?_⟩
  · rw [moved]
    exact le_add_of_nonneg_right nonneg
  · rw [moved]
    exact add_lt_add_right below _

/-- A number that fits as it is written is not rounded. -/
theorem ofParts?_eq_some_iff_rounds (fits : n < coefficientBound) (fine : scale ≤ maximalScale) :
    ofParts? n scale = some d ↔ Rounds (n / 10 ^ scale) d := by
  obtain ⟨d', made⟩ : ∃ d', ofParts? n scale = some d' := by
    rw [ofParts?, dif_pos ⟨fits, fine⟩]
    exact ⟨_, rfl⟩
  have number : d'.toRat = n / 10 ^ scale := by rw [toRat_of_ofParts? made, Int.cast_natCast]
  have rounds : Rounds (n / 10 ^ scale) d' := number ▸ rounds_toRat (number ▸ by positivity)
  rw [made, Option.some.injEq]
  exact ⟨fun same => same ▸ rounds, fun rounds' => rounds.unique rounds'⟩

/-- A number whose whole part is too large cannot be rounded. -/
theorem not_rounds_of_le (large : (coefficientBound : Rat) ≤ s) : ¬ Rounds s d := by
  intro rounds
  have nonneg : 0 ≤ s := (Nat.cast_nonneg coefficientBound).trans large
  have whole := (exists_rounds_iff nonneg).1 ⟨d, rounds⟩
  refine absurd whole (Nat.not_lt.2 (Nat.le_floor ?_))
  rw [pow_zero, mul_one]
  linarith

/-- Digits with a point have no sign and no exponent. -/
theorem parse?_of_isUnsigned {cs : List Char} (number : IsUnsigned cs s) :
    parse? cs = (readDigits 0 0 false false cs).bind fun (n, scale) => ofParts? n scale := by
  have known : ∀ c ∈ cs, c.isDigit = true ∨ c = '.' := by
    cases number with
    | whole filled digits => exact fun c mem => .inl (digits c mem)
    | pointed filled digits more decimals =>
      simp only [List.mem_append, List.mem_cons]
      rintro c (mem | rfl | mem)
      · exact .inl (digits c mem)
      · exact .inr rfl
      · exact .inl (decimals c mem)
  refine parse?_eq_bind (fun c mem => ?_) ⟨fun minus => ?_, fun plus => ?_⟩
  · rcases known c mem with digit | rfl
    · exact isExponentMark_of_isDigit digit
    · rfl
  · exact absurd (known '-' (List.mem_of_head? minus)) (by decide)
  · exact absurd (known '+' (List.mem_of_head? plus)) (by decide)

/-- What is read for digits is their number, unless it is too large. -/
theorem parse?_whole_eq_some_iff {ds : List Char} (filled : ds ≠ [])
    (digits : ∀ c ∈ ds, c.isDigit = true) :
    parse? ds = some d ↔ Rounds (Text.valueOf ds) d := by
  rw [parse?_of_isUnsigned (.whole filled digits)]
  rcases Nat.lt_or_ge (Text.valueOf ds) coefficientBound with fits | large
  · have kept := @ofParts?_eq_some_iff_rounds d _ 0 fits (Nat.zero_le _)
    rw [pow_zero, div_one] at kept
    rw [readDigits_digits filled digits fits]
    exact kept
  · have none := readDigits_whole_eq_none digits (show 0 < coefficientBound by decide)
      large false []
    rw [List.append_nil] at none
    rw [none, Option.bind_none]
    exact iff_of_false (Option.some_ne_none d).symm (not_rounds_of_le (Nat.cast_le.2 large))

/-- What is read for digits on both sides of a point is their number as it is if all have room, and
what the first one that has none tells otherwise. -/
theorem parse?_pointed_eq_some_iff {ds fs : List Char} (filled : ds ≠ [])
    (digits : ∀ c ∈ ds, c.isDigit = true) (more : fs ≠ []) (decimals : ∀ c ∈ fs, c.isDigit = true) :
    parse? (ds ++ '.' :: fs) = some d ↔
      Rounds (Text.valueOf ds + Text.valueOf fs / 10 ^ fs.length) d := by
  have joined (kept : List Char) :
    Nat.ofDigitChars 10 kept (Text.valueOf ds) = Text.valueOf (ds ++ kept) :=
    (Nat.ofDigitChars_append 0).symm
  rw [parse?_of_isUnsigned (.pointed filled digits more decimals), pointed_eq]
  rcases Nat.lt_or_ge (Text.valueOf ds) coefficientBound with fits | large
  · rw [readDigits_point filled digits fits]
    rcases digits_cases fs fits (Nat.zero_le maximalScale) with
      ⟨all, short⟩ | ⟨kept, c, left, rfl, small, fine, stops⟩
    · have read := readDigits_fraction decimals all short []
      rw [List.append_nil, readDigits, if_pos rfl, Nat.zero_add, joined] at read
      rw [Nat.zero_add] at short
      rw [joined] at all
      rw [read, Option.bind_some]
      exact ofParts?_eq_some_iff_rounds all short
    · have before : ∀ c ∈ kept, c.isDigit = true :=
        fun c mem => decimals c (List.mem_append_left _ mem)
      have digit : c.isDigit = true := decimals c (List.mem_append_right _ (List.mem_cons_self ..))
      have after : ∀ c ∈ left, c.isDigit = true := fun c mem =>
        decimals c (List.mem_append_right _ (List.mem_cons_of_mem _ mem))
      rw [readDigits_fraction before small fine, readDigits_stop digit stops]
      rw [Nat.zero_add] at fine stops ⊢
      rw [joined] at small stops ⊢
      exact rounds_roundAt digit (looks_of_append digit after small fine) (by positivity) stops
  · rw [readDigits_whole_eq_none digits (show 0 < coefficientBound by decide) large,
      Option.bind_none]
    refine iff_of_false (Option.some_ne_none d).symm (not_rounds_of_le ?_)
    rw [← pointed_eq]
    have : (coefficientBound : Rat) ≤ Text.valueOf ds := Nat.cast_le.2 large
    have : (0 : Rat) ≤ Text.valueOf fs / 10 ^ fs.length := by positivity
    linarith

/-- **What is read for digits with a point** is the decimal to which their number is rounded, if
there is one. -/
theorem parse?_eq_some_iff_rounds {cs : List Char} (number : IsUnsigned cs s) :
    parse? cs = some d ↔ Rounds s d := by
  cases number with
  | whole filled digits => exact parse?_whole_eq_some_iff filled digits
  | pointed filled digits more decimals =>
    exact parse?_pointed_eq_some_iff filled digits more decimals

end Decimal

end SchemaBinding
