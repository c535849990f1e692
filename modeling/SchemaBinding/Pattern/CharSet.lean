import SchemaBinding.Text.Blank
import SchemaBinding.Text.LetterCase
import SchemaBinding.Text.Property

/-!
# Sets of characters in patterns

Source: The sets of the expression library that `builtins/restriction`
(`pattern_matches`) relies on; `SPEC_FULL.md`, 4.3.

A set of characters is a list of runs of code points, in order and with gaps
between them, so that equal sets have equal runs. Bracketed classes, escapes and
properties are built by the operations on sets and by closing a set under letter
case.
-/

namespace SchemaBinding

/-- Which characters are told apart only by their case. -/
inductive LetterCase where
  /-- Simple case folding. -/
  | unicode
  /-- The letters `A` to `Z` alone. -/
  | ascii
  deriving DecidableEq, Repr

/-- The classes of two and more characters that differ only in case. -/
def LetterCase.classes : LetterCase → List (List Nat)
  | .unicode => Text.caseOrbits
  | .ascii => (List.range 26).map fun i => [0x41 + i, 0x61 + i]

/-- A set of characters: runs of code points, with first and last. -/
structure CharSet where
  runs : List (Nat × Nat)
  deriving DecidableEq, Repr, Inhabited

namespace CharSet

/-- The code point of the last character. -/
def lastChar : Nat := 0x10FFFF

/-- The code point after `n`. Surrogates are no characters. -/
def next (n : Nat) : Nat := if n = 0xD7FF then 0xE000 else n + 1

/-- The code point before `n`. Surrogates are no characters. -/
def previous (n : Nat) : Nat := if n = 0xE000 then 0xD7FF else n - 1

/-- Whether a set contains a character. -/
def contains (s : CharSet) (c : Char) : Bool :=
  s.runs.any fun (low, high) => low ≤ c.toNat && c.toNat ≤ high

/-! ## Building sets -/

/-- Joins runs that overlap or touch, when the runs are in order. -/
def join : List (Nat × Nat) → List (Nat × Nat)
  | (a, b) :: (c, d) :: rest =>
    if c ≤ b + 1 then join ((a, max b d) :: rest) else (a, b) :: join ((c, d) :: rest)
  | short => short
termination_by runs => runs.length

/-- The set of the characters in some runs. -/
def ofRuns (runs : List (Nat × Nat)) : CharSet :=
  ⟨join (runs.mergeSort fun r s => r.1 < s.1 || (r.1 == s.1 && r.2 ≤ s.2))⟩

/-- The empty set. -/
def empty : CharSet := ⟨[]⟩

/-- All characters. -/
def all : CharSet := ⟨[(0, lastChar)]⟩

/-- The set of one character. -/
def single (c : Char) : CharSet := ⟨[(c.toNat, c.toNat)]⟩

/-- The characters from `low` to `high`. -/
def range (low high : Char) : CharSet := ⟨[(low.toNat, high.toNat)]⟩

/-- The only member of a set that has just one. -/
def onlyMember? (s : CharSet) : Option Char :=
  match s.runs with
  | [(low, high)] => if low = high then some (Char.ofNat low) else none
  | _ => none

/-- Whether all members are characters of ASCII. -/
def isAscii (s : CharSet) : Bool := s.runs.all fun (_, high) => high < 0x80

/-! ## Operations -/

/-- The set with the members of some sets. -/
def unionAll (sets : List CharSet) : CharSet := ofRuns (sets.flatMap runs)

/-- The set with the members of two sets. -/
def union (s t : CharSet) : CharSet := unionAll [s, t]

/-- The runs where two lists of runs overlap. -/
def overlaps : List (Nat × Nat) → List (Nat × Nat) → List (Nat × Nat)
  | [], _ => []
  | _, [] => []
  | (a, b) :: r, (c, d) :: s =>
    let rest := if b < d then overlaps r ((c, d) :: s) else overlaps ((a, b) :: r) s
    if max a c ≤ min b d then (max a c, min b d) :: rest else rest
termination_by r s => r.length + s.length

/-- The set of the common members of two sets. -/
def intersection (s t : CharSet) : CharSet := ⟨overlaps s.runs t.runs⟩

/-- What remains of the first runs without the second ones. -/
def remainder : List (Nat × Nat) → List (Nat × Nat) → List (Nat × Nat)
  | [], _ => []
  | r, [] => r
  | (a, b) :: r, (c, d) :: s =>
    if d < a then remainder ((a, b) :: r) s
    else if b < c then (a, b) :: remainder r ((c, d) :: s)
    else
      let before := if a < c then [(a, previous c)] else []
      before ++ (if d < b then remainder ((next d, b) :: r) s else remainder r ((c, d) :: s))
termination_by r s => r.length + s.length

/-- The set of the members of the first set that are not in the second. -/
def difference (s t : CharSet) : CharSet := ⟨remainder s.runs t.runs⟩

/-- The set of the members of exactly one of two sets. -/
def symmetricDifference (s t : CharSet) : CharSet := (s.union t).difference (s.intersection t)

/-- The runs after the code point `last`, which ends a run, that some runs leave out. Between the
last character before the surrogates and the first one after them there is none: there the run is
taken from the one to the other. -/
def gaps (last : Nat) : List (Nat × Nat) → List (Nat × Nat)
  | [] => if last < lastChar then [(next last, lastChar)] else []
  | (low, high) :: rest =>
    (min (next last) (previous low), max (next last) (previous low)) :: gaps high rest

/-- The set of the characters that are not in a set. -/
def complement (s : CharSet) : CharSet :=
  match s.runs with
  | [] => all
  | (low, high) :: rest => ⟨(if 0 < low then [(0, previous low)] else []) ++ gaps high rest⟩

/-- The characters that differ only in case from one in the set. -/
def close (letterCase : LetterCase) (s : CharSet) : CharSet :=
  let touched := letterCase.classes.filter fun members =>
    members.any fun n => s.runs.any fun (low, high) => low ≤ n && n ≤ high
  ofRuns (s.runs ++ touched.flatMap fun members => members.map fun n => (n, n))

/-! ## Sets from tables -/

/-- The runs of the code points in some general categories. `start` is where the run before the
given ones began, if it belongs to one of them. -/
def categoryRuns (categories : List Text.Category) (start : Option Nat) :
    List (Nat × Text.Category) → List (Nat × Nat)
  | [] => (start.map fun a => (a, lastChar)).toList
  | (a, category) :: rest =>
    match start, categories.contains category with
    | some _, true => categoryRuns categories start rest
    | some b, false => (b, a - 1) :: categoryRuns categories none rest
    | none, true => categoryRuns categories (some a) rest
    | none, false => categoryRuns categories none rest

/-- The set of the characters in some general categories. -/
def ofCategories (categories : List Text.Category) : CharSet :=
  ⟨categoryRuns categories none Text.categoryRuns.toList⟩

/-- The set of the characters of a class in a table. -/
def ofMembership (m : Text.Membership) : CharSet :=
  (ofCategories m.categories).symmetricDifference ⟨Text.spans m.exceptions⟩

/-! ## The sets with names of their own -/

/-- A decimal digit. -/
def digit : CharSet := ofCategories [.decimalNumber]

/-- The set of the characters that have a binary property. -/
def ofProperty (name : String) : CharSet :=
  ((Text.binaryProperty? name).map ofMembership).getD empty

/-- White space. -/
def space : CharSet := ofProperty "whitespace"

/-- A character of a word: an alphabetic one, a mark, a decimal digit, a connector or a joiner. -/
def word : CharSet :=
  unionAll [ofProperty "alphabetic", ofProperty "joincontrol",
    ofCategories [.nonspacingMark, .spacingMark, .enclosingMark, .decimalNumber,
      .connectorPunctuation]]

/-- A decimal digit of ASCII. -/
def asciiDigit : CharSet := ⟨[(0x30, 0x39)]⟩

/-- White space of ASCII. -/
def asciiSpace : CharSet := ⟨[(0x09, 0x0D), (0x20, 0x20)]⟩

/-- A character of a word in ASCII. -/
def asciiWord : CharSet := ⟨[(0x30, 0x39), (0x41, 0x5A), (0x5F, 0x5F), (0x61, 0x7A)]⟩

/-- The class of ASCII characters with a name. -/
def asciiClass? (name : String) : Option CharSet :=
  match name with
  | "alnum" => some ⟨[(0x30, 0x39), (0x41, 0x5A), (0x61, 0x7A)]⟩
  | "alpha" => some ⟨[(0x41, 0x5A), (0x61, 0x7A)]⟩
  | "ascii" => some ⟨[(0x00, 0x7F)]⟩
  | "blank" => some ⟨[(0x09, 0x09), (0x20, 0x20)]⟩
  | "cntrl" => some ⟨[(0x00, 0x1F), (0x7F, 0x7F)]⟩
  | "digit" => some asciiDigit
  | "graph" => some ⟨[(0x21, 0x7E)]⟩
  | "lower" => some ⟨[(0x61, 0x7A)]⟩
  | "print" => some ⟨[(0x20, 0x7E)]⟩
  | "punct" => some ⟨[(0x21, 0x2F), (0x3A, 0x40), (0x5B, 0x60), (0x7B, 0x7E)]⟩
  | "space" => some asciiSpace
  | "upper" => some ⟨[(0x41, 0x5A)]⟩
  | "word" => some asciiWord
  | "xdigit" => some ⟨[(0x30, 0x39), (0x41, 0x46), (0x61, 0x66)]⟩
  | _ => none

end CharSet

end SchemaBinding
