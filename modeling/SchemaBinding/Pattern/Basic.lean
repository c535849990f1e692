import SchemaBinding.Pattern.CharSet

/-!
# Patterns

Source: `SPEC_FULL.md`, 4.3 (`Pattern`); `builtins/restriction`
(`pattern_matches`), with the rules of the expression library.

A pattern describes spans of a text: given characters, single characters from a
set, places with certain neighbours, sequences, choices and repetitions. `ends`
computes all ends of spans from their beginnings, and a text has a match when
some span of it is described.
-/

namespace SchemaBinding

/-- What a place is with respect to words. -/
inductive WordPlace where
  | boundary
  | noBoundary
  | start
  | stop
  /-- No word before. -/
  | startHalf
  /-- No word after. -/
  | stopHalf
  deriving DecidableEq, Repr

/-- A condition on the characters before and after a place. -/
inductive Look where
  | textStart
  | textEnd
  /-- The start of a line. Lines end at a line feed, or also at a carriage return. -/
  | lineStart (returns : Bool)
  | lineEnd (returns : Bool)
  | word (place : WordPlace) (ascii : Bool)
  deriving DecidableEq, Repr

namespace Look

/-- Whether the neighbour of a place belongs to a word. -/
def inWord (ascii : Bool) : Option Char → Bool
  | none => false
  | some c => (if ascii then CharSet.asciiWord else CharSet.word).contains c

/-- Whether a condition holds between two characters, which are missing at the ends of the text. -/
def holds : Look → (before after : Option Char) → Bool
  | .textStart, before, _ => before.isNone
  | .textEnd, _, after => after.isNone
  | .lineStart false, before, _ => before.isNone || before == some '\n'
  | .lineEnd false, _, after => after.isNone || after == some '\n'
  | .lineStart true, before, after =>
    before.isNone || before == some '\n' || (before == some '\r' && after != some '\n')
  | .lineEnd true, before, after =>
    after.isNone || after == some '\r' || (after == some '\n' && before != some '\r')
  | .word place ascii, before, after =>
    let left := inWord ascii before
    let right := inWord ascii after
    match place with
    | .boundary => left != right
    | .noBoundary => left == right
    | .start => !left && right
    | .stop => left && !right
    | .startHalf => !left
    | .stopHalf => !right

end Look

/-- A pattern. -/
inductive Pattern where
  | empty
  /-- The characters of a text, one after the other. -/
  | literal (text : List Char)
  /-- A character from a set, which is meant as a set of bytes or of characters. -/
  | set (bytes : Bool) (set : CharSet)
  | look (look : Look)
  | seq (first rest : Pattern)
  | alt (first rest : Pattern)
  /-- At least `least` and at most `most` spans of the pattern in a row, as many as possible if it
  is greedy. -/
  | repeated (pattern : Pattern) (least : Nat) (most : Option Nat) (greedy : Bool)
  /-- A group with a number of its own. -/
  | group (number : Nat) (pattern : Pattern)
  deriving DecidableEq, Inhabited

namespace Pattern

/-! ## Matching -/

/-- Merges two increasing lists into one, each number once. -/
def merge : List Nat → List Nat → List Nat
  | [], b => b
  | a, [] => a
  | i :: a, j :: b =>
    if i < j then i :: merge a (j :: b)
    else if j < i then j :: merge (i :: a) b
    else i :: merge a b
termination_by a b => a.length + b.length

/-- Applies a step `count` times. It stops when the step changes nothing any more. -/
def iterate (step : List Nat → List Nat) : (count : Nat) → List Nat → List Nat
  | 0, places => places
  | count + 1, places =>
    let next := step places
    if next = places then places else iterate step count next

/-- The places reached by at most `count` steps. -/
def reach (step : List Nat → List Nat) (count : Nat) (places : List Nat) : List Nat :=
  iterate (fun reached => merge reached (step reached)) count places

/-- Whether the characters of `text` from a place on begin with the given ones. -/
def isAt (text : Array Char) (place : Nat) : List Char → Bool
  | [] => true
  | c :: rest => text[place]? == some c && isAt text (place + 1) rest

/-- The ends of the spans of `text` that the pattern describes and that begin at one of the
places. -/
def ends (text : Array Char) : Pattern → List Nat → List Nat
  | .empty, places => places
  | .literal cs, places =>
    places.filterMap fun i => if isAt text i cs then some (i + cs.length) else none
  | .set _ s, places =>
    places.filterMap fun i =>
      match text[i]? with
      | some c => if s.contains c then some (i + 1) else none
      | none => none
  | .look l, places =>
    places.filter fun i => l.holds (if i = 0 then none else text[i - 1]?) text[i]?
  | .seq p q, places => q.ends text (p.ends text places)
  | .alt p q, places => merge (p.ends text places) (q.ends text places)
  | .repeated p least most _, places =>
    let further :=
      match most with
      | none => text.size + 1
      | some most => min (most - least) (text.size + 1)
    reach (p.ends text) further (iterate (p.ends text) least places)
  | .group _ p, places => p.ends text places

/-- Whether the pattern describes some span of a text. -/
def matchesIn (p : Pattern) (text : String) : Bool :=
  let cs := text.toList.toArray
  !(p.ends cs (List.range (cs.size + 1))).isEmpty

end Pattern

end SchemaBinding
