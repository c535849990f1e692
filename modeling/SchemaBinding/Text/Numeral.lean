/-!
# Numerals

Source: Numbers as `builtins/native` (`parse_literal`), `builtins/duration`
(`from_str`) and `xsd/values` (`convert`) read them.

Whole numbers in decimal notation: reading them from characters and writing
them. The main statements say that a written number is read back and that a
numeral is a non-empty run of ASCII digits.
-/

namespace SchemaBinding.Text

/-- The characters of a number in base ten, without leading zeros. -/
def digits (n : Nat) : List Char := Nat.toDigits 10 n

/-- The number that a run of digits denotes. -/
def valueOf (cs : List Char) : Nat := Nat.ofDigitChars 10 cs 0

/-- Reads a numeral without sign: one or more ASCII digits. -/
def natural? (cs : List Char) : Option Nat :=
  if cs ≠ [] ∧ cs.all Char.isDigit then some (valueOf cs) else none

/-- Reads a numeral with at most one sign. -/
def integer? : List Char → Option Int
  | '+' :: cs => (natural? cs).map Int.ofNat
  | '-' :: cs => (natural? cs).map fun n => -(n : Int)
  | cs => (natural? cs).map Int.ofNat

/-- Reads a numeral with at most a plus sign whose number is at most `bound`. -/
def naturalUpTo? (bound : Nat) (cs : List Char) : Option Nat := do
  let n ← natural? (match cs with | '+' :: rest => rest | _ => cs)
  if n ≤ bound then some n else none

/-- Writes a number with at least `width` digits, zeros in front. -/
def padded (width n : Nat) : List Char :=
  let ds := digits n
  List.replicate (width - ds.length) '0' ++ ds

/-- Writes a number with a minus when it is negative. -/
def signed (n : Int) : List Char :=
  if n < 0 then '-' :: digits n.natAbs else digits n.natAbs

theorem digits_ne_nil (n : Nat) : digits n ≠ [] := by
  unfold digits
  have := Nat.length_toDigits_pos (b := 10) (n := n)
  intro h
  simp [h] at this

theorem isDigit_of_mem_digits {n : Nat} {c : Char} (h : c ∈ digits n) : c.isDigit = true :=
  Nat.isDigit_of_mem_toDigits (by decide) (by decide) h

/-- **A written number is read back.** -/
theorem natural?_digits (n : Nat) : natural? (digits n) = some n := by
  have all : (digits n).all Char.isDigit = true :=
    List.all_eq_true.2 fun _ h => isDigit_of_mem_digits h
  simp only [natural?, digits_ne_nil, all, ne_eq, not_false_eq_true, and_self, if_true]
  exact congrArg some Nat.ofDigitChars_ten_toDigits

end SchemaBinding.Text
