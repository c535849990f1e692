import SchemaBinding.Text.Numeral

/-!
# Decimal numbers of bounded size

Source: `SPEC_FULL.md`, 4.3 (the primitive ladder); `builtins/native`
(`parse_literal`, `to_wire`) and `builtins/duration`, with the rules of the
decimal library.

A decimal number is a coefficient of at most 96 bits over a power of ten of at
most 28. Each number has one representation here, the one with the smallest
power. Reading keeps as many digits as fit and rounds a half away from zero;
dividing keeps as many digits as fit and rounds a half to the even neighbour.
-/

namespace SchemaBinding

/-- The coefficients of decimals lie below this bound. -/
def coefficientBound : Nat := 0x1000000000000000000000000

/-- The largest number of digits after the point. -/
def maximalScale : Nat := 28

/-- The number `coefficient / 10 ^ scale`, with the smallest possible scale. -/
structure Decimal where
  coefficient : Int
  scale : Nat
  bounded : coefficient.natAbs < coefficientBound
  fine : scale ≤ maximalScale
  reduced : scale = 0 ∨ coefficient % 10 ≠ 0
  deriving DecidableEq

namespace Decimal

/-- Drops trailing zeros after the point. -/
def reduce (coefficient : Int) : (scale : Nat) → Int × Nat
  | 0 => (coefficient, 0)
  | scale + 1 => if coefficient % 10 = 0 then reduce (coefficient / 10) scale else (coefficient,
      scale + 1)

theorem reduce_scale_le (c : Int) (s : Nat) : (reduce c s).2 ≤ s := by
  induction s generalizing c with
  | zero => simp [reduce]
  | succ s ih =>
    unfold reduce
    split
    · exact Nat.le_succ_of_le (ih _)
    · exact Nat.le_refl _

theorem reduce_natAbs_le (c : Int) (s : Nat) : (reduce c s).1.natAbs ≤ c.natAbs := by
  induction s generalizing c with
  | zero => simp [reduce]
  | succ s ih =>
    unfold reduce
    split
    · exact Nat.le_trans (ih _) (by omega)
    · exact Nat.le_refl _

theorem reduce_reduced (c : Int) (s : Nat) : (reduce c s).2 = 0 ∨ (reduce c s).1 % 10 ≠ 0 := by
  induction s generalizing c with
  | zero => simp [reduce]
  | succ s ih =>
    unfold reduce
    split
    · exact ih _
    · exact Or.inr ‹_›

/-- The decimal `coefficient / 10 ^ scale`, if it fits as written. -/
def ofParts? (coefficient : Int) (scale : Nat) : Option Decimal :=
  if h : coefficient.natAbs < coefficientBound ∧ scale ≤ maximalScale then
    some {
      coefficient := (reduce coefficient scale).1
      scale := (reduce coefficient scale).2
      bounded := Nat.lt_of_le_of_lt (reduce_natAbs_le _ _) h.1
      fine := Nat.le_trans (reduce_scale_le _ _) h.2
      reduced := reduce_reduced _ _ }
  else none

/-- The number zero. -/
def zero : Decimal := ⟨0, 0, by decide, by decide, .inl rfl⟩

instance : Inhabited Decimal := ⟨zero⟩

/-- A whole number as a decimal, if it fits. -/
def ofInt? (n : Int) : Option Decimal := ofParts? n 0

/-! ## Reading -/

/-- Ends reading at the first character `c` that has no room left: a digit from five on rounds up.
When the rounded coefficient no longer fits, one digit fewer is kept. Nothing after `c` is looked
at. -/
def roundAt (coefficient scale : Nat) (c : Char) : Option (Nat × Nat) :=
  if c.isDigit ∨ c = '_' ∨ c = '.' then
    if c.isDigit ∧ '5' ≤ c then
      if coefficient + 1 < coefficientBound then some (coefficient + 1, scale)
      else if scale = 0 then none
      else some ((coefficient + 1 + 4) / 10, scale - 1)
    else some (coefficient, scale)
  else none

/-- Reads digits, with underscores between them and at most one point. `point` tells whether the
point has been read, `some?` whether anything but it has. -/
def readDigits (coefficient scale : Nat) (point some? : Bool) : List Char → Option (Nat × Nat)
  | [] => if some? then some (coefficient, scale) else none
  | c :: rest =>
    if point ∧ maximalScale ≤ scale then roundAt coefficient scale c
    else if c.isDigit then
      let next := 10 * coefficient + (c.toNat - 48)
      if next < coefficientBound then readDigits next (if point then scale + 1 else scale)
        point true rest
      else if point then roundAt coefficient scale c
      else none
    else if c = '.' ∧ !point then readDigits coefficient scale true some? rest
    else if c = '_' ∧ some? then readDigits coefficient scale point true rest
    else none

/-- Reads an optional sign and digits. -/
def readSigned : List Char → Option (Int × Nat)
  | '-' :: cs => (readDigits 0 0 false false cs).map fun (n, s) => (-(n : Int), s)
  | '+' :: cs => (readDigits 0 0 false false cs).map fun (n, s) => ((n : Int), s)
  | cs => (readDigits 0 0 false false cs).map fun (n, s) => ((n : Int), s)

/-- Moves the point of a number by an exponent. -/
def shift (coefficient : Int) (scale : Nat) (exponent : Int) : Option Decimal :=
  let moved : Int := (scale : Int) - exponent
  if 0 ≤ moved then
    if moved ≤ maximalScale then ofParts? coefficient moved.toNat else none
  else if coefficient = 0 then some zero
  else if -moved ≤ maximalScale then ofParts? (coefficient * Int.pow 10 (-moved).toNat) 0
  else none

/-- Whether a character marks an exponent. -/
def isExponentMark (c : Char) : Bool := c == 'e' || c == 'E'

/-- Reads a decimal: an optional sign, digits with at most one point, and possibly an exponent. -/
def parse? (cs : List Char) : Option Decimal := do
  let (coefficient, scale) ← readSigned (cs.takeWhile fun c => !isExponentMark c)
  match cs.dropWhile fun c => !isExponentMark c with
  | [] => ofParts? coefficient scale
  | _ :: exponent => shift coefficient scale (← Text.integer? exponent)

/-! ## Writing -/

/-- The digits of a number, with a point before the last `scale` of them. -/
def pointed (n scale : Nat) : List Char :=
  if scale = 0 then Text.digits n
  else
    let ds := Text.padded (scale + 1) n
    ds.take (ds.length - scale) ++ '.' :: ds.drop (ds.length - scale)

/-- The canonical form of a decimal. -/
def toChars (d : Decimal) : List Char :=
  let ds := pointed d.coefficient.natAbs d.scale
  if d.coefficient < 0 then '-' :: ds else ds

/-- The canonical form of a decimal. -/
def print (d : Decimal) : String := String.ofList d.toChars

/-! ## Order and arithmetic -/

/-- The coefficient of a decimal over the finest power of ten. -/
def finest (d : Decimal) : Int := d.coefficient * Int.pow 10 (maximalScale - d.scale)

/-- The order of two decimals. -/
def compare (a b : Decimal) : Ordering := Ord.compare a.finest b.finest

/-- The quotient rounded to the nearest whole number, a half to the even neighbour. -/
def roundHalfEven (num den : Nat) : Nat :=
  let q := num / den
  let twice := 2 * (num % den)
  if twice > den ∨ (twice = den ∧ q % 2 = 1) then q + 1 else q

/-- The largest scale, from `scale` down, at which the truncated quotient `num / den` fits. -/
def quotientScale (num den : Nat) : (scale : Nat) → Nat
  | 0 => 0
  | scale + 1 =>
    if num * Nat.pow 10 (scale + 1) / den < coefficientBound then
      scale + 1 else quotientScale num den scale

/-- The quotient of a number by a divisor, rounded at the largest scale at which it fits: its
coefficient and its scale. -/
def quotient (num den : Nat) : Nat × Nat :=
  let scale := quotientScale num den maximalScale
  let rounded := roundHalfEven (num * Nat.pow 10 scale) den
  if rounded < coefficientBound then (rounded, scale)
  else (roundHalfEven (num * Nat.pow 10 (scale - 1)) den, scale - 1)

/-- The whole part of a number that is given by its coefficient and its scale. -/
def wholePart (number : Nat × Nat) : Nat := number.1 / Nat.pow 10 number.2

/-- The whole part of the rounded quotient of a decimal by a whole number. Only the size of the
decimal counts. -/
def wholeQuotient (d : Decimal) (divisor : Nat) : Nat :=
  wholePart (quotient d.coefficient.natAbs (Nat.pow 10 d.scale * divisor))

/-- The difference of a decimal and a whole number, if it fits. -/
def subWhole? (d : Decimal) (n : Nat) : Option Decimal :=
  ofParts? (d.coefficient - n * Int.pow 10 d.scale) d.scale

/-- Whether a decimal is negative. -/
def isNegative (d : Decimal) : Bool := d.coefficient < 0

/-- Whether a decimal is zero. -/
def isZero (d : Decimal) : Bool := d.coefficient == 0

end Decimal

end SchemaBinding
