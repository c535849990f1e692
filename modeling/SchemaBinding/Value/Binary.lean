import SchemaBinding.Text.Numeral

/-!
# Binary floating point numbers

Source: `SPEC_FULL.md`, 10.7 (`double`, `float`); `builtins/native`
(`parse_literal`, `to_wire`).

Numbers `± mantissa * 2 ^ exponent` of a format with a bounded mantissa and a
bounded exponent, infinities and a value that is no number, all in exact
integer arithmetic. A numeral is read as the nearest number of the format, a
half to the even neighbour; a number is written with the fewest digits that are
read back as that number, without an exponent.
-/

namespace SchemaBinding

/-- A format: the bits of its mantissas and its smallest and largest exponents. -/
structure Binary.Format where
  precision : Nat
  least : Int
  greatest : Int
  deriving DecidableEq, Repr

/-- The format of 32 bits. -/
def Binary.single : Binary.Format := ⟨24, -149, 104⟩

/-- The format of 64 bits. -/
def Binary.double : Binary.Format := ⟨53, -1074, 971⟩

/-- A number of a format. Mantissas are below `2 ^ precision`, and below half of it only with the
least exponent. -/
inductive Binary where
  | nan
  | infinite (negative : Bool)
  | finite (negative : Bool) (mantissa : Nat) (exponent : Int)
  deriving DecidableEq, Repr, Inhabited

namespace Binary

/-! ## Order -/

/-- A finite number as a multiple of the smallest positive one of its format. -/
def multiple (format : Format) (negative : Bool) (mantissa : Nat) (exponent : Int) : Int :=
  let n : Int := mantissa * Int.pow 2 (exponent - format.least).toNat
  if negative then -n else n

/-- The order of two numbers, unless one of them is no number. The two zeros are equal. -/
def compare (format : Format) : Binary → Binary → Option Ordering
  | .nan, _ | _, .nan => none
  | .infinite a, .infinite b => some (if a = b then .eq else if a then .lt else .gt)
  | .infinite a, .finite .. => some (if a then .lt else .gt)
  | .finite .., .infinite b => some (if b then .gt else .lt)
  | .finite a m e, .finite b n f =>
    some (Ord.compare (multiple format a m e) (multiple format b n f))

/-! ## Reading -/

/-- The quotient of two whole numbers rounded to the nearest, a half to the even neighbour. -/
def roundQuotient (num den : Nat) : Nat :=
  let q := num / den
  let twice := 2 * (num % den)
  if twice > den ∨ (twice = den ∧ q % 2 = 1) then q + 1 else q

/-- The quotient `num / (den * 2 ^ exponent)`, rounded. -/
def scaled (num den : Nat) (exponent : Int) : Nat :=
  if exponent < 0 then roundQuotient (num * Nat.pow 2 exponent.natAbs) den
  else roundQuotient num (den * Nat.pow 2 exponent.toNat)

/-- The number of the format nearest to `num / den`. -/
def nearest (format : Format) (negative : Bool) (num den : Nat) : Binary :=
  if num = 0 then .finite negative 0 format.least
  else
    let low : Int := (Nat.log2 num : Int) - Nat.log2 den - 1
    let guess := max format.least (low - format.precision + 1)
    let exponent := if scaled num den guess < Nat.pow 2 format.precision then guess else guess + 1
    let mantissa := scaled num den exponent
    let (mantissa, exponent) :=
      if mantissa < Nat.pow 2 format.precision then
        (mantissa, exponent) else (mantissa / 2, exponent + 1)
    if exponent ≤ format.greatest then .finite negative mantissa exponent else .infinite negative

/-- Numerals beyond these powers of ten are infinite or zero in every format. -/
def decimalReach : Int := 400

/-- The number nearest to `digits * 10 ^ exponent`. -/
def ofDecimal (format : Format) (negative : Bool) (digits : Nat) (exponent : Int) : Binary :=
  let top : Int := (Text.digits digits).length + exponent
  if digits = 0 ∨ top < -decimalReach then .finite negative 0 format.least
  else if top > decimalReach then .infinite negative
  else if exponent < 0 then nearest format negative digits (Nat.pow 10 exponent.natAbs)
  else nearest format negative (digits * Nat.pow 10 exponent.toNat) 1

/-- The exponent part of a numeral: nothing, or a mark and a whole number. -/
def exponentPart? : List Char → Option Int
  | [] => some 0
  | c :: rest => if c = 'e' ∨ c = 'E' then Text.integer? rest else none

/-- Reads an unsigned numeral: digits around at most one point, at least one of them, and possibly
an exponent. -/
def readNumeral? (format : Format) (negative : Bool) (cs : List Char) : Option Binary := do
  let whole := cs.takeWhile Char.isDigit
  let (fraction, rest) :=
    match cs.dropWhile Char.isDigit with
    | '.' :: rest => (rest.takeWhile Char.isDigit, rest.dropWhile Char.isDigit)
    | rest => ([], rest)
  if whole.isEmpty ∧ fraction.isEmpty then none
  let exponent ← exponentPart? rest
  return ofDecimal format negative (Text.valueOf (whole ++ fraction)) (exponent - fraction.length)

/-- Reads an unsigned number: one of the names of the infinite and of no number, in any case, or a
numeral. -/
def readUnsigned? (format : Format) (negative : Bool) (cs : List Char) : Option Binary :=
  match String.ofList (cs.map Char.toLower) with
  | "inf" | "infinity" => some (.infinite negative)
  | "nan" => some .nan
  | _ => readNumeral? format negative cs

/-- Reads a number with at most one sign. -/
def parse? (format : Format) : List Char → Option Binary
  | '-' :: cs => readUnsigned? format true cs
  | '+' :: cs => readUnsigned? format false cs
  | cs => readUnsigned? format false cs

/-! ## Writing -/

/-- The decimal numeral of `digits * 10 ^ power`, without an exponent. -/
def positional (digits : Nat) (power : Int) : List Char :=
  if 0 ≤ power then Text.digits digits ++ List.replicate power.toNat '0'
  else
    let places := power.natAbs
    let ds := Text.padded (places + 1) digits
    ds.take (ds.length - places) ++ '.' :: ds.drop (ds.length - places)

/-- The multiples of `10 ^ power` next to `num / den`, below and above, as numbers of that power. -/
def neighbours (num den : Nat) (power : Int) : Nat × Nat :=
  let low := if power < 0 then
    num * Nat.pow 10 power.natAbs / den else num / (den * Nat.pow 10 power.toNat)
  (low, low + 1)

/-- Whether `digits * 10 ^ power` lies between `low / den` and `high / den`, ends included if
`closed`. -/
def within (low high den : Nat) (closed : Bool) (digits : Nat) (power : Int) : Bool :=
  let (n, d) :=
    if power < 0 then (digits * den,
      Nat.pow 10 power.natAbs) else (digits * Nat.pow 10 power.toNat * den, 1)
  if closed then low * d ≤ n && n ≤ high * d else low * d < n && n < high * d

/-- Whether `(digits + 1) * 10 ^ power` is at least as near to `num / den` as `digits * 10 ^ power`
is. -/
def upperNearer (num den digits : Nat) (power : Int) : Bool :=
  let middle := 2 * digits + 1
  if power < 0 then middle * den ≤ 2 * num * Nat.pow 10 power.natAbs
  else middle * Nat.pow 10 power.toNat * den ≤ 2 * num

/-- The first power of ten, from `power` down, with a multiple that is read back as `num / den`, and
that multiple. `fuel` bounds the number of powers tried. -/
def shortestFrom (num low high den : Nat) (closed : Bool) : (fuel : Nat) → (power : Int) → Nat × Int
  | 0, power => (num / den, power)
  | fuel + 1, power =>
    let (below, above) := neighbours num den power
    match within low high den closed below power && below != 0,
      within low high den closed above power with
    | true, true => (if upperNearer num den below power then above else below, power)
    | true, false => (below, power)
    | false, true => (above, power)
    | false, false => shortestFrom num low high den closed fuel (power - 1)

/-- The shortest digits of a positive number and their power of ten. -/
def shortest (format : Format) (mantissa : Nat) (exponent : Int) : Nat × Int :=
  let closed := mantissa % 2 == 0
  let narrow := mantissa = Nat.pow 2 (format.precision - 1) ∧ format.least < exponent
  let quarter := exponent - 2
  let up := Nat.pow 2 quarter.toNat
  let den := Nat.pow 2 (-quarter).toNat
  let num := 4 * mantissa * up
  let low := if narrow then (4 * mantissa - 1) * up else (4 * mantissa - 2) * up
  let high := (4 * mantissa + 2) * up
  let digitsAbove := (Text.digits (high / den)).length
  let first : Int :=
    if high / den = 0 then
      -(((Nat.log2 den - Nat.log2 high : Nat) : Int) * 30103 / 100000) + 1
    else digitsAbove
  shortestFrom num low high den closed 25 first

/-- The canonical form of a number. -/
def print (format : Format) : Binary → String
  | .nan => "NaN"
  | .infinite negative => if negative then "-INF" else "INF"
  | .finite negative mantissa exponent =>
    let sign := if negative then ['-'] else []
    let ds :=
      if mantissa = 0 then ['0']
      else
        let (digits, power) := shortest format mantissa exponent
        positional digits power
    String.ofList (sign ++ ds)

end Binary

end SchemaBinding
