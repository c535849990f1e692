import SchemaBinding.Text.Blank

/-!
# White space of literals

Source: `builtins/meta` (`normalized_value`); `SPEC_FULL.md`, 10.7 (the string
family).

What happens to the white space of a literal before it is read: nothing, or tabs
and line ends become spaces, or moreover the ends are trimmed and the gaps
between words become single spaces. The main statement says what replacing
leaves.
-/

namespace SchemaBinding

/-- The ways to treat white space. -/
inductive Whitespace where
  | preserve
  | replace
  | collapse
  deriving DecidableEq, Repr

namespace Whitespace

/-- Whether a character is a tab or ends a line. -/
def isBreak (c : Char) : Bool := c == '\t' || c == '\n' || c == '\r'

/-- The words with single spaces between them. -/
def joinWords : List (List Char) → List Char
  | [] => []
  | [word] => word
  | word :: rest => word ++ ' ' :: joinWords rest

/-- The characters of a literal after the treatment. -/
def applyChars : Whitespace → List Char → List Char
  | .preserve, cs => cs
  | .replace, cs => cs.map fun c => if isBreak c then ' ' else c
  | .collapse, cs => joinWords (Text.words cs)

/-- A literal after the treatment. -/
def apply (mode : Whitespace) (literal : String) : String :=
  String.ofList (mode.applyChars literal.toList)

/-- **Replacing leaves no tab and no line end.** -/
theorem not_isBreak_of_mem_replace {c : Char} {cs : List Char} (h : c ∈ applyChars .replace cs) :
    isBreak c = false := by
  simp only [applyChars, List.mem_map] at h
  obtain ⟨d, _, rfl⟩ := h
  cases hd : isBreak d
  · simpa using hd
  · rfl

end Whitespace

end SchemaBinding
