import SchemaBinding.Text.Quoted

/-!
# Source text

Source: `SPEC_FULL.md`, 9 and 10.8: the syntax trees of `generator/generators`,
without their layout.

Source text as tokens. A file consists of items, each a sequence of tokens:
words, which are names, numbers or signs, and literals, which stand for texts.
-/

namespace SchemaBinding

/-- A token of source text. -/
inductive SourceToken where
  | word (text : String)
  | literal (value : String)
  deriving DecidableEq, Repr

/-- Source text as tokens. -/
abbrev Source := List SourceToken

/-- A source file with the items it consists of. -/
structure SourceFile where
  name : String
  items : List Source
  deriving DecidableEq, Repr

namespace Source

/-- The words of a text, with single spaces between them. -/
def words (text : String) : Source :=
  (text.toList.splitOn ' ').map fun cs => .word (String.ofList cs)

/-- A single word. -/
def word (text : String) : Source := [.word text]

/-- A literal. -/
def literal (value : String) : Source := [.literal value]

/-- Source text between round brackets. -/
def parens (inner : Source) : Source := .word "(" :: inner ++ [.word ")"]

/-- Source text between square brackets. -/
def brackets (inner : Source) : Source := .word "[" :: inner ++ [.word "]"]

/-- Source text between curly brackets. -/
def braces (inner : Source) : Source := .word "\x7b" :: inner ++ [.word "\x7d"]

/-- Pieces of source text with commas between them. -/
def commas : List Source → Source
  | [] => []
  | [piece] => piece
  | piece :: rest => piece ++ .word "," :: commas rest

/-- A token as text. -/
def printToken : SourceToken → String
  | .word text => text
  | .literal value => Text.quoted value

/-- Whether two words are written together as one sign. -/
def isOneSign : SourceToken → SourceToken → Bool
  | .word ":", .word ":" => true
  | .word "-", .word ">" => true
  | _, _ => false

/-- Source text with spaces between the tokens, except within a sign. -/
def print : Source → String
  | [] => ""
  | [token] => printToken token
  | token :: next :: rest =>
    printToken token ++ (if isOneSign token next then "" else " ") ++ print (next :: rest)

end Source

/-- The text of a file: one item to a line. -/
def SourceFile.print (file : SourceFile) : String :=
  String.join (file.items.map fun item => item.print ++ "\n")

end SchemaBinding
