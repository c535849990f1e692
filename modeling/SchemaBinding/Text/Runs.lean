import SchemaBinding.Text.Category

/-!
# Runs of characters

Source: Data of the character set, as the expression library of
`builtins/restriction` has it.

Tables of characters list the runs of code points that belong to a class. Runs
are written as letters: for each run the distance from the end of the run before
and the number of its code points after the first, in base 26, the last digit as
a capital letter. Most classes are close to a union of general categories, and
then the table lists the exceptions only.
-/

namespace SchemaBinding.Text

/-- Reads alternating distances and lengths: `start` is the code point after the run before,
`number` the digits read so far, and `distance` the distance when it has been read. -/
def readSpans (start : Nat) (distance : Option Nat) (number : Nat) : List Char → List (Nat × Nat)
  | [] => []
  | c :: rest =>
    if 'a' ≤ c then readSpans start distance (26 * number + (c.toNat - 97)) rest
    else
      let n := 26 * number + (c.toNat - 65)
      match distance with
      | none => readSpans start (some n) 0 rest
      | some d => (start + d, start + d + n) :: readSpans (start + d + n + 1) none 0 rest

/-- The runs of code points that letters stand for, as first and last code points. -/
def spans (letters : String) : List (Nat × Nat) := readSpans 0 none 0 letters.toList

/-- The characters of a class: those of some categories, and the runs where this is the other way
round. -/
structure Membership where
  categories : List Category
  exceptions : String

/-- The entry for a name in a table whose entries have several names. -/
def named? {α : Type} (table : List (List String × α)) (name : String) : Option α :=
  (table.find? fun entry => entry.1.contains name).map (·.2)

/-- Letters. -/
def letters : List Category :=
  [.uppercaseLetter, .lowercaseLetter, .titlecaseLetter, .modifierLetter, .otherLetter]

end SchemaBinding.Text
