import Mathlib.Tactic.Linarith
import Mathlib.Tactic.Ring
import Mathlib.Tactic.GCongr
import Mathlib.Tactic.Positivity
import SchemaBinding.Proofs.Value.Number

/-!
# Minutes in seconds

A quotient is rounded at the largest scale at which it fits, so its whole part
can be one more than that of the exact quotient. Of seconds that are divided by
sixty this is the case only if they fall short of the next minute by three in
their last place at most (`minutes_le_add_three`), and not if they have at most
28 digits (`minutes_le_of_digits`). The minutes are below the bound of the
coefficients all the same (`minutes_lt_coefficientBound`), because this bound and
the two numbers after it are no multiples of sixty; so no operation on the way
overflows (`takesMinutes`). What is left of the seconds has no minutes, unless it
is negative (`minutes_rest`).
-/

namespace SchemaBinding

namespace Decimal

/-! ## Rounding -/

/-- Rounding never goes below the whole part. -/
theorem div_le_roundHalfEven (num den : Nat) : num / den ≤ roundHalfEven num den := by
  unfold roundHalfEven
  dsimp only
  split <;> omega

/-- Rounding goes up by a half at most. -/
theorem two_mul_roundHalfEven_le (num den : Nat) :
    2 * (den * roundHalfEven num den) ≤ 2 * num + den := by
  have whole := Nat.div_add_mod num den
  unfold roundHalfEven
  dsimp only
  split
  · next up =>
    have half : den ≤ 2 * (num % den) := up.elim Nat.le_of_lt fun tie => tie.1.ge
    rw [Nat.mul_add, Nat.mul_one]
    omega
  · omega

/-! ## The scale of a quotient -/

theorem quotientScale_le (num den scale : Nat) : quotientScale num den scale ≤ scale := by
  induction scale with
  | zero => exact Nat.le_refl 0
  | succ scale ih =>
    rw [quotientScale]
    split
    · exact Nat.le_refl _
    · exact Nat.le_succ_of_le ih

/-- A scale at which the truncated quotient fits is not passed over. -/
theorem le_quotientScale {num den t scale : Nat} (le : t ≤ scale)
    (fits : num * Nat.pow 10 t / den < coefficientBound) :
    t ≤ quotientScale num den scale := by
  induction scale with
  | zero => exact le
  | succ scale ih =>
    rw [quotientScale]
    split
    · exact le
    · next larger =>
      refine ih (Nat.le_of_lt_succ (Nat.lt_of_le_of_ne le ?_))
      rintro rfl
      exact larger fits

/-- The truncated quotient fits at the scale that is chosen, if it fits at all. -/
theorem quotientScale_fits {num den : Nat} (fits : num / den < coefficientBound) (scale : Nat) :
    num * Nat.pow 10 (quotientScale num den scale) / den < coefficientBound := by
  induction scale with
  | zero => rwa [quotientScale, show Nat.pow 10 0 = 1 from rfl, Nat.mul_one]
  | succ scale ih =>
    rw [quotientScale]
    split
    · assumption
    · exact ih

/-- A quotient is rounded at the scale of the truncated one, or at the next smaller scale when it
does not fit. -/
theorem quotient_cases (num den : Nat) : ∃ scale,
    quotient num den = (roundHalfEven (num * Nat.pow 10 scale) den, scale) ∧
      (scale = quotientScale num den maximalScale ∧
        roundHalfEven (num * Nat.pow 10 scale) den < coefficientBound ∨
        scale = quotientScale num den maximalScale - 1 ∧
          ¬ roundHalfEven (num * Nat.pow 10 (quotientScale num den maximalScale)) den <
            coefficientBound) := by
  unfold quotient
  generalize quotientScale num den maximalScale = scale
  dsimp only
  split
  · next fits => exact ⟨scale, rfl, .inl ⟨rfl, fits⟩⟩
  · next large => exact ⟨scale - 1, rfl, .inr ⟨rfl, large⟩⟩

theorem quotient_snd_le (num den : Nat) : (quotient num den).2 ≤ maximalScale := by
  have le := quotientScale_le num den maximalScale
  obtain ⟨scale, found, ⟨rfl, -⟩ | ⟨rfl, -⟩⟩ := quotient_cases num den
  · rw [found]
    exact le
  · rw [found]
    exact Nat.le_trans (Nat.sub_le ..) le

/-- A scale at which the rounded quotient fits is not passed over. -/
theorem le_quotient_snd {num den t : Nat} (fine : t ≤ maximalScale)
    (fits : roundHalfEven (num * Nat.pow 10 t) den < coefficientBound) :
    t ≤ (quotient num den).2 := by
  have le : t ≤ quotientScale num den maximalScale :=
    le_quotientScale fine (Nat.lt_of_le_of_lt (div_le_roundHalfEven _ _) fits)
  obtain ⟨scale, found, ⟨rfl, -⟩ | ⟨rfl, large⟩⟩ := quotient_cases num den
  · rw [found]
    exact le
  · rw [found]
    refine Nat.le_sub_one_of_lt (Nat.lt_of_le_of_ne le fun same => ?_)
    rw [same] at fits
    exact large fits

theorem roundHalfEven_le_succ (num den : Nat) : roundHalfEven num den ≤ num / den + 1 := by
  unfold roundHalfEven
  dsimp only
  split <;> omega

/-- **A quotient fits** if it does without digits after the point. -/
theorem quotient_fst_lt {num den : Nat} (fits : roundHalfEven num den < coefficientBound) :
    (quotient num den).1 < coefficientBound := by
  obtain ⟨scale, found, ⟨-, fits⟩ | ⟨fewer, large⟩⟩ := quotient_cases num den
  · rw [found]
    exact fits
  · rw [found]
    have trunc := quotientScale_fits (Nat.lt_of_le_of_lt (div_le_roundHalfEven _ _) fits)
      maximalScale
    generalize quotientScale num den maximalScale = larger at fewer large trunc
    cases larger with
    | zero => exact absurd (by rwa [show Nat.pow 10 0 = 1 from rfl, Nat.mul_one]) large
    | succ larger =>
      obtain rfl : scale = larger := fewer
      -- One digit fewer leaves a tenth of a number that fits.
      have tenth : num * Nat.pow 10 scale / den = num * Nat.pow 10 (scale + 1) / den / 10 := by
        rw [Nat.div_div_eq_div_mul, Nat.pow_eq, Nat.pow_eq, Nat.pow_succ, ← Nat.mul_assoc,
          Nat.mul_div_mul_right _ _ (by decide)]
      have up := roundHalfEven_le_succ (num * Nat.pow 10 scale) den
      have bound : coefficientBound = 79228162514264337593543950336 := rfl
      omega

/-! ## Whole parts -/

theorem wholeQuotient_of_quotient {d : Decimal} {divisor coefficient scale : Nat}
    (h : quotient d.coefficient.natAbs (Nat.pow 10 d.scale * divisor) = (coefficient, scale)) :
    d.wholeQuotient divisor = coefficient / Nat.pow 10 scale := by
  rw [wholeQuotient, h, wholePart]

/-- **A whole part is that of a quotient rounded at some scale**, and this scale is not below one at
which the rounded quotient fits. -/
theorem exists_wholeQuotient (d : Decimal) (divisor : Nat) : ∃ places,
    d.wholeQuotient divisor
        = roundHalfEven (d.coefficient.natAbs * 10 ^ places)
          (10 ^ d.scale * divisor) / 10 ^ places ∧
      ∀ t, t ≤ maximalScale →
        roundHalfEven (d.coefficient.natAbs * 10 ^ t) (10 ^ d.scale * divisor) < coefficientBound →
          t ≤ places := by
  obtain ⟨places, found, -⟩ := quotient_cases d.coefficient.natAbs (Nat.pow 10 d.scale * divisor)
  refine ⟨places, wholeQuotient_of_quotient found, fun t fine fits => ?_⟩
  have le := le_quotient_snd fine fits
  rw [← Nat.pow_eq, found] at le
  exact le

/-- Rounding does not lower the whole part. -/
theorem div_le_wholeQuotient (d : Decimal) (divisor : Nat) :
    d.coefficient.natAbs / (10 ^ d.scale * divisor) ≤ d.wholeQuotient divisor := by
  obtain ⟨places, whole, -⟩ := exists_wholeQuotient d divisor
  rw [whole]
  refine (Nat.le_div_iff_mul_le (Nat.pow_pos (by decide))).2
    (Nat.le_trans ?_ (div_le_roundHalfEven _ _))
  rw [Nat.mul_comm d.coefficient.natAbs, Nat.mul_comm (_ / _)]
  exact Nat.mul_div_le_mul_div_assoc _ _ _

/-! ## Minutes in seconds -/

variable {d : Decimal}

/-- The quotient by sixty, rounded `j` places behind the last one of `d`. -/
theorem rounded_minutes_le (d : Decimal) (j : Nat) :
    120 * roundHalfEven (d.coefficient.natAbs * 10 ^ (d.scale + j)) (10 ^ d.scale * 60)
      ≤ 2 * (d.coefficient.natAbs * 10 ^ j) + 60 := by
  have rounded := two_mul_roundHalfEven_le (d.coefficient.natAbs * 10 ^ (d.scale + j))
    (10 ^ d.scale * 60)
  rw [Nat.pow_add] at rounded ⊢
  refine Nat.le_of_mul_le_mul_left ?_ (Nat.pow_pos (n := d.scale) (show 0 < 10 by decide))
  linarith

/-- The minutes that are carried out of seconds exceed the seconds by less, the more places there
are for the rounded quotient. -/
theorem minutes_le_of_room {j : Nat} (fine : d.scale + j ≤ maximalScale)
    (room : 2 * (d.coefficient.natAbs * 10 ^ j) + 60 < 120 * coefficientBound) :
    10 ^ j * (2 * (d.wholeQuotient 60 * (10 ^ d.scale * 60))) ≤
      10 ^ j * (2 * d.coefficient.natAbs) + 60 := by
  obtain ⟨places, whole, best⟩ := exists_wholeQuotient d 60
  have le : d.scale + j ≤ places := best _ fine (by have := rounded_minutes_le d j; omega)
  obtain ⟨more, rfl⟩ := Nat.exists_eq_add_of_le le
  have rounded := two_mul_roundHalfEven_le (d.coefficient.natAbs * 10 ^ (d.scale + j + more))
    (10 ^ d.scale * 60)
  have part := Nat.div_mul_le_self
    (roundHalfEven (d.coefficient.natAbs * 10 ^ (d.scale + j + more)) (10 ^ d.scale * 60))
    (10 ^ (d.scale + j + more))
  rw [← whole] at part
  generalize roundHalfEven _ _ = quotient at rounded part
  rw [Nat.pow_add, Nat.pow_add] at rounded part
  have one : 1 ≤ 10 ^ more := Nat.one_le_pow _ _ (by decide)
  refine Nat.le_of_mul_le_mul_left (c := 10 ^ d.scale * 10 ^ more) ?_ (by positivity)
  calc 10 ^ d.scale * 10 ^ more * (10 ^ j * (2 * (d.wholeQuotient 60 * (10 ^ d.scale * 60))))
      = 2 * (10 ^ d.scale * 60 * (d.wholeQuotient 60 * (10 ^ d.scale * 10 ^ j * 10 ^ more))) :=
        by ring
    _ ≤ 2 * (10 ^ d.scale * 60 * quotient) := by gcongr
    _ ≤ 2 * (d.coefficient.natAbs * (10 ^ d.scale * 10 ^ j * 10 ^ more)) + 10 ^ d.scale * 60 * 1 :=
      by rwa [Nat.mul_one]
    _ ≤ 2 * (d.coefficient.natAbs * (10 ^ d.scale * 10 ^ j * 10 ^ more)) + 10 ^ d.scale * 60 * 10 ^
      more := by gcongr
    _ = 10 ^ d.scale * 10 ^ more * (10 ^ j * (2 * d.coefficient.natAbs) + 60) := by ring

/-- **The minutes exceed the seconds by three in their last place at most.** -/
theorem minutes_le_add_three (d : Decimal) :
    d.wholeQuotient 60 * (10 ^ d.scale * 60) ≤ d.coefficient.natAbs + 3 := by
  have bound : coefficientBound = 79228162514264337593543950336 := rfl
  have small := d.bounded
  have fine : d.scale ≤ 28 := d.fine
  have rough := minutes_le_of_room (d := d) (j := 0) d.fine (by omega)
  rcases Nat.eq_zero_or_pos (d.wholeQuotient 60) with none | some
  · rw [none]
    omega
  · have sixty : 1 * (10 ^ d.scale * 60) ≤ d.wholeQuotient 60 * (10 ^ d.scale * 60) :=
      Nat.mul_le_mul_right _ some
    have coarse : d.scale ≠ 28 := by
      intro finest
      rw [finest] at sixty rough
      omega
    have close := minutes_le_of_room (d := d) (j := 1) (show d.scale + 1 ≤ 28 by omega) (by omega)
    omega

/-- **Minutes are seconds**: as many decimals of the same scale. -/
theorem minutes_lt_coefficientBound (d : Decimal) :
    d.wholeQuotient 60 * (10 ^ d.scale * 60) < coefficientBound := by
  have bound : coefficientBound = 79228162514264337593543950336 := rfl
  have small := d.bounded
  have close := minutes_le_add_three d
  -- The bound and the two numbers after it are no multiples of sixty.
  have sixties : d.wholeQuotient 60 * (10 ^ d.scale * 60) =
    60 * (d.wholeQuotient 60 * 10 ^ d.scale) := by ring
  omega

/-- The minutes that are carried are not fewer than there are. -/
theorem lt_next_minute (d : Decimal) :
    d.coefficient.natAbs < d.wholeQuotient 60 * (10 ^ d.scale * 60) + 10 ^ d.scale * 60 := by
  have next := (Nat.div_lt_iff_lt_mul (show 0 < 10 ^ d.scale * 60 by positivity)).1
    (Nat.lt_succ_of_le (div_le_wholeQuotient d 60))
  rwa [Nat.succ_mul] at next

/-- A whole minute is carried out of sixty seconds, or of three in the last place fewer. -/
theorem minutes_eq_zero_of_lt (below : d.coefficient.natAbs + 3 < 10 ^ d.scale * 60) :
    d.wholeQuotient 60 = 0 := by
  refine Nat.eq_zero_of_not_pos fun some => ?_
  have sixty : 1 * (10 ^ d.scale * 60) ≤ d.wholeQuotient 60 * (10 ^ d.scale * 60) :=
    Nat.mul_le_mul_right _ some
  have close := minutes_le_add_three d
  omega

/-- With room for two more places no more minutes are carried than there are. -/
theorem minutes_le (places : d.scale ≤ 26)
    (room : 5 * d.coefficient.natAbs + 2 ≤ 3 * coefficientBound) :
    d.wholeQuotient 60 * (10 ^ d.scale * 60) ≤ d.coefficient.natAbs := by
  have close := minutes_le_of_room (d := d) (j := 2) (show d.scale + 2 ≤ 28 by omega) (by omega)
  omega

/-- **Seconds of at most 28 digits** carry no more minutes than there are. -/
theorem minutes_le_of_digits (digits : d.coefficient.natAbs < 10 ^ 28) :
    d.wholeQuotient 60 * (10 ^ d.scale * 60) ≤ d.coefficient.natAbs := by
  have bound : coefficientBound = 79228162514264337593543950336 := rfl
  rcases Nat.lt_or_ge d.scale 27 with places | places
  · exact minutes_le (Nat.le_of_lt_succ places) (by omega)
  · have power : 10 ^ 27 ≤ 10 ^ d.scale := Nat.pow_le_pow_right (by decide) places
    rw [minutes_eq_zero_of_lt (by omega), Nat.zero_mul]
    exact Nat.zero_le _

/-- **Nothing is carried twice.** What the minutes leave of seconds, unless it is negative, has
none. -/
theorem minutes_rest {rest : Decimal} (scale : rest.scale = d.scale)
    (left : rest.coefficient.natAbs + d.wholeQuotient 60 * (10 ^ d.scale * 60) =
      d.coefficient.natAbs) :
    rest.wholeQuotient 60 = 0 := by
  have bound : coefficientBound = 79228162514264337593543950336 := rfl
  have small := d.bounded
  have fine : d.scale ≤ 28 := d.fine
  have below : rest.coefficient.natAbs < 10 ^ d.scale * 60 := by
    have := lt_next_minute d
    omega
  rcases Nat.lt_or_ge d.scale 27 with places | places
  · have power : 10 ^ d.scale ≤ 10 ^ 26 :=
      Nat.pow_le_pow_right (by decide) (Nat.le_of_lt_succ places)
    have close := minutes_le (d := rest) (by omega) (by omega)
    rw [scale] at close
    refine Nat.eq_zero_of_not_pos fun some => ?_
    have sixty : 1 * (10 ^ d.scale * 60) ≤ rest.wholeQuotient 60 * (10 ^ d.scale * 60) :=
      Nat.mul_le_mul_right _ some
    omega
  · have power : 10 ^ 27 ≤ 10 ^ d.scale := Nat.pow_le_pow_right (by decide) places
    rcases Nat.eq_zero_or_pos (d.wholeQuotient 60) with none | some
    · -- Nothing has been carried, so the same seconds are divided again.
      rw [wholeQuotient, scale, show rest.coefficient.natAbs = d.coefficient.natAbs by
        rw [none] at left; omega]
      exact none
    · have sixty : 1 * (10 ^ d.scale * 60) ≤ d.wholeQuotient 60 * (10 ^ d.scale * 60) :=
        Nat.mul_le_mul_right _ some
      exact minutes_eq_zero_of_lt (by rw [scale]; omega)

/-! ## What is left of seconds -/

/-- What is left of seconds when their minutes are taken out. -/
structure IsRest (d rest : Decimal) : Prop where
  subWhole?_eq : d.subWhole? (d.wholeQuotient 60 * 60) = some rest
  toRat_add : rest.toRat + 60 * d.wholeQuotient 60 = d.toRat
  lt_sixty : rest.toRat < 60
  neg_three_le : -(3 / 10 ^ d.scale) ≤ rest.toRat
  nonneg_of_digits : d.coefficient.natAbs < 10 ^ 28 → 0 ≤ rest.toRat
  /-- Nothing is carried twice. -/
  settled : 0 ≤ rest.toRat → rest.wholeQuotient 60 = 0

theorem coefficient_nonneg_iff {d : Decimal} : 0 ≤ d.coefficient ↔ 0 ≤ d.toRat := by
  rw [toRat, le_div_iff₀ (by positivity), zero_mul, Int.cast_nonneg_iff]

/-- Taking minutes out of seconds keeps the scale, so it is a subtraction of coefficients. -/
theorem exists_subWhole?_minutes {d : Decimal} (nonneg : 0 ≤ d.coefficient) :
    ∃ rest : Decimal, d.subWhole? (d.wholeQuotient 60 * 60) = some rest ∧ rest.scale = d.scale ∧
      rest.coefficient + (d.wholeQuotient 60 * (10 ^ d.scale * 60) : Nat) = d.coefficient := by
  have small := d.bounded
  have minutes := minutes_lt_coefficientBound d
  have difference : d.coefficient - (d.wholeQuotient 60 * 60 : Nat) * Int.pow 10 d.scale
      = d.coefficient - (d.wholeQuotient 60 * (10 ^ d.scale * 60) : Nat) := by
    rw [Int.pow_eq]
    push_cast
    ring
  have reduced : d.scale = 0 ∨
    (d.coefficient - (d.wholeQuotient 60 * (10 ^ d.scale * 60) : Nat)) % 10 ≠ 0 := by
    refine d.reduced.imp_right fun fraction => ?_
    have tens : d.wholeQuotient 60 * (10 ^ d.scale * 60) =
      10 * (d.wholeQuotient 60 * (10 ^ d.scale * 6)) := by ring
    omega
  let rest : Decimal := ⟨_, d.scale, by omega, d.fine, reduced⟩
  refine ⟨rest, ?_, rfl, Int.sub_add_cancel ..⟩
  rw [subWhole?, difference]
  exact ofParts?_self rest

/-- **Minutes are taken out of seconds** exactly. -/
theorem exists_isRest {d : Decimal} (nonneg : 0 ≤ d.toRat) : ∃ rest, d.IsRest rest := by
  have positive : 0 ≤ d.coefficient := coefficient_nonneg_iff.2 nonneg
  obtain ⟨rest, left, scale, coefficient⟩ := exists_subWhole?_minutes positive
  have power : (0 : Rat) < 10 ^ d.scale := by positivity
  have whole : rest.toRat * 10 ^ d.scale = rest.coefficient := by
    rw [toRat, scale, div_mul_cancel₀ _ power.ne']
  have close := minutes_le_add_three d
  have exact : d.toRat * 10 ^ d.scale = d.coefficient := by
    rw [toRat, div_mul_cancel₀ _ power.ne']
  refine ⟨rest, left, ?_, ?_, ?_, fun digits => ?_, fun remains => ?_⟩
  · have sum : (rest.coefficient : Rat) + d.wholeQuotient 60 * (10 ^ d.scale * 60) =
      d.coefficient := by
      exact_mod_cast coefficient
    rw [← whole, ← exact] at sum
    refine mul_right_cancel₀ power.ne' ?_
    linarith
  · have below : rest.coefficient < (10 ^ d.scale * 60 : Nat) := by
      have := lt_next_minute d
      omega
    rw [← mul_lt_mul_iff_left₀ power, whole, mul_comm]
    exact_mod_cast below
  · rw [← neg_div, div_le_iff₀ power, whole]
    have : -3 ≤ rest.coefficient := by omega
    exact_mod_cast this
  · rw [← coefficient_nonneg_iff]
    have := minutes_le_of_digits digits
    omega
  · rw [← coefficient_nonneg_iff] at remains
    exact minutes_rest scale (by omega)

/-- No operation on decimals overflows when minutes are taken out of seconds. -/
structure TakesMinutes (d : Decimal) : Prop where
  quotient_bounded : (quotient d.coefficient.natAbs (Nat.pow 10 d.scale * 60)).1 < coefficientBound
  quotient_fine : (quotient d.coefficient.natAbs (Nat.pow 10 d.scale * 60)).2 ≤ maximalScale
  /-- The minutes, in seconds, are a decimal, and so they are at the scale of the seconds. -/
  product : (ofInt? (d.wholeQuotient 60 * 60 : Nat)).isSome ∧
    (ofParts? (d.wholeQuotient 60 * 60 * 10 ^ d.scale : Nat) d.scale).isSome
  difference : (d.subWhole? (d.wholeQuotient 60 * 60)).isSome

theorem isSome_ofParts? {n s : Nat} (small : n < coefficientBound) (fine : s ≤ maximalScale) :
    (ofParts? (n : Int) s).isSome := by
  rw [ofParts?, dif_pos ⟨by rwa [Int.natAbs_natCast], fine⟩]
  rfl

theorem takesMinutes {d : Decimal} (nonneg : 0 ≤ d.toRat) : d.TakesMinutes := by
  have minutes := minutes_lt_coefficientBound d
  have aligned : d.wholeQuotient 60 * 60 * 10 ^ d.scale =
    d.wholeQuotient 60 * (10 ^ d.scale * 60) := by ring
  have whole : d.wholeQuotient 60 * 60 ≤ d.wholeQuotient 60 * 60 * 10 ^ d.scale :=
    Nat.le_mul_of_pos_right _ (by positivity)
  obtain ⟨rest, isRest⟩ := exists_isRest nonneg
  refine ⟨quotient_fst_lt ?_, quotient_snd_le _ _, ⟨isSome_ofParts? (by omega) (by decide), ?_⟩, ?_⟩
  · have small := d.bounded
    have bound : coefficientBound = 79228162514264337593543950336 := rfl
    have sixty : 60 ≤ Nat.pow 10 d.scale * 60 := Nat.le_mul_of_pos_left _ (Nat.pow_pos (by decide))
    have less := Nat.div_le_div_left (a := d.coefficient.natAbs) sixty (by decide)
    have rounded := roundHalfEven_le_succ d.coefficient.natAbs (Nat.pow 10 d.scale * 60)
    omega
  · rw [aligned]
    exact isSome_ofParts? minutes d.fine
  · rw [isRest.subWhole?_eq]
    rfl

end Decimal

end SchemaBinding
