import SchemaBinding.Pattern.CharSet

/-!
# Encoded characters

Source: The byte ranges of the expression library that `builtins/restriction`
(`pattern_matches`) relies on; `SPEC_FULL.md`, 4.3.

A character is encoded by one to four bytes. The encodings of the characters of
a run are described by rows of byte ranges: a row stands for all sequences of
bytes that take one byte from each of its ranges, and a run is cut into as few
rows as describe it exactly.
-/

namespace SchemaBinding.Encoding

/-- A range of bytes, with first and last. -/
abbrev ByteRange := Nat × Nat

/-- The bytes that encode the character with a code point. -/
def bytes (n : Nat) : List Nat :=
  if n < 0x80 then [n]
  else if n < 0x800 then [0xC0 + n / 0x40, 0x80 + n % 0x40]
  else if n < 0x10000 then [0xE0 + n / 0x1000, 0x80 + n / 0x40 % 0x40, 0x80 + n % 0x40]
  else [0xF0 + n / 0x40000, 0x80 + n / 0x1000 % 0x40, 0x80 + n / 0x40 % 0x40, 0x80 + n % 0x40]

/-- Where a run is cut first, as the end of its first part: where the number of bytes changes, and
where one of the last bytes, which differ by `size` characters, does not take all its values. -/
def cut? (low high : Nat) : Option Nat :=
  match [0x7F, 0x7FF, 0xFFFF].find? fun last => low ≤ last && last < high with
  | some last => some last
  | none =>
    if high ≤ 0x7F then none
    else [0x40, 0x1000, 0x40000].findSome? fun size =>
      if low / size = high / size then none
      else if low % size ≠ 0 then some (low / size * size + size - 1)
      else if high % size ≠ size - 1 then some (high / size * size - 1)
      else none

/-- The rows of byte ranges for the characters from `low` to `high`. `count` bounds the number of
cuts in a row. -/
def rowsOfRun : (count low high : Nat) → List (List ByteRange)
  | 0, _, _ => []
  | count + 1, low, high =>
    match cut? low high with
    | some last => rowsOfRun count low last ++ rowsOfRun count (last + 1) high
    | none => [(bytes low).zip (bytes high)]

/-- The runs of characters in a run of code points. -/
def withoutSurrogates : Nat × Nat → List (Nat × Nat)
  | (low, high) =>
    if low < 0xE000 ∧ 0xD7FF < high then [(low, 0xD7FF), (0xE000, high)] else [(low, high)]

/-- The rows of byte ranges for the characters of a set. A run is cut at most three times for its
length and twice for each of the last three bytes. -/
def rows (s : CharSet) : List (List ByteRange) :=
  s.runs.flatMap fun run => (withoutSurrogates run).flatMap fun (low, high) => rowsOfRun 16 low high

end SchemaBinding.Encoding
