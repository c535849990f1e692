/-!
# White space of texts

Source: What `xsd/values`, `builtins/meta` (`normalized_value`) and
`generator/generators` (`doc_lines`) take for white space.

The characters with the property White_Space, and what is defined by them:
trimming a text, splitting it into words, and its lines.
-/

namespace SchemaBinding.Text

/-- Whether a character has the property White_Space. -/
def isBlank (c : Char) : Bool :=
  let n := c.toNat
  (0x09 ≤ n && n ≤ 0x0D) || n == 0x20 || n == 0x85 || n == 0xA0 || n == 0x1680 ||
  (0x2000 ≤ n && n ≤ 0x200A) || n == 0x2028 || n == 0x2029 || n == 0x202F || n == 0x205F ||
  n == 0x3000

/-- Drops the white space at both ends. -/
def trimChars (cs : List Char) : List Char :=
  ((cs.dropWhile isBlank).reverse.dropWhile isBlank).reverse

/-- The text without the white space at both ends. -/
def trim (s : String) : String := String.ofList (trimChars s.toList)

/-- The maximal runs of characters that do not satisfy `p`, in order. `word` is the run being
read. -/
def runsFrom (p : Char → Bool) (word : List Char) : List Char → List (List Char)
  | [] => if word.isEmpty then [] else [word]
  | c :: rest =>
    if p c then (if word.isEmpty then runsFrom p [] rest else word :: runsFrom p [] rest)
    else runsFrom p (word ++ [c]) rest

/-- The words of a text: its maximal runs without white space. -/
def words (cs : List Char) : List (List Char) := runsFrom isBlank [] cs

/-- The lines of a text: they end at a line feed, which takes a carriage return before it along.
Nothing after the last line feed is no line. `line` is the line being read. -/
def linesFrom (line : List Char) : List Char → List (List Char)
  | [] => if line.isEmpty then [] else [line]
  | c :: rest =>
    if c = '\n' then dropReturn line :: linesFrom [] rest else linesFrom (line ++ [c]) rest
where
  /-- A line without the carriage return at its end. -/
  dropReturn (line : List Char) : List Char :=
    if line.getLast? = some '\r' then line.dropLast else line

/-- The lines of a text. -/
def lines (s : String) : List String := (linesFrom [] s.toList).map String.ofList

end SchemaBinding.Text
