import SchemaBinding.Pattern.Basic

/-!
# Patterns in normal form

Source: The intermediate form of the expression library that
`builtins/restriction` (`pattern_matches`) relies on; `SPEC_FULL.md`, 4.3.

The functions that build patterns from their parts keep them small: neighbouring
characters become one literal, nested sequences and choices become flat, choices
between characters become sets, and what all alternatives begin with stands
before the choice. Sequences and choices nest to the right, and the first part
of a sequence is no sequence, so a pattern has one list of parts.
-/

namespace SchemaBinding.Pattern

/-! ## What is known about the spans -/

/-- Whether a pattern describes empty spans only. -/
def isPlace : Pattern → Bool
  | .empty | .look _ => true
  | .literal _ | .set .. => false
  | .seq p q | .alt p q => p.isPlace && q.isPlace
  | .repeated p _ _ _ | .group _ p => p.isPlace

/-- The least length of a span, unless some part can match nothing. -/
def leastLength? : Pattern → Option Nat
  | .empty | .look _ => some 0
  | .literal text => some text.length
  | .set _ s => if s.runs.isEmpty then none else some 1
  | .seq p q => do return (← p.leastLength?) + (← q.leastLength?)
  | .alt p q => do return min (← p.leastLength?) (← q.leastLength?)
  | .repeated p least _ _ => do return (← p.leastLength?) * least
  | .group _ p => p.leastLength?

/-- Whether every span begins at a place that meets a condition. -/
def beginsAt (l : Look) : Pattern → Bool
  | .look l' => l == l'
  | .seq p q => p.beginsAt l || (p.isPlace && q.beginsAt l)
  | .alt p q => p.beginsAt l && q.beginsAt l
  | .repeated p least _ _ => 0 < least && p.beginsAt l
  | .group _ p => p.beginsAt l
  | .empty | .literal _ | .set .. => false

/-- Whether every span ends at a place that meets a condition. -/
def endsAt (l : Look) : Pattern → Bool
  | .look l' => l == l'
  | .seq p q => q.endsAt l || (q.isPlace && p.endsAt l)
  | .alt p q => p.endsAt l && q.endsAt l
  | .repeated p least _ _ => 0 < least && p.endsAt l
  | .group _ p => p.endsAt l
  | .empty | .literal _ | .set .. => false

/-! ## Sets and repetitions -/

/-- A character from a set. A set of one character is a literal, and the empty set is one of
bytes. -/
def ofSet (bytes : Bool) (s : CharSet) : Pattern :=
  match s.onlyMember? with
  | some c => .literal [c]
  | none => .set (bytes || s.runs.isEmpty) s

/-- A repetition. Empty spans need not be repeated, and a single one is no repetition. -/
def times (p : Pattern) (least : Nat) (most : Option Nat) (greedy : Bool) : Pattern :=
  let (least, most) := if p.isPlace then
    (min least 1, some ((most.map (min 1)).getD 1)) else (least, most)
  if most = some 0 then .empty
  else if least = 1 ∧ most = some 1 then p
  else .repeated p least most greedy

/-! ## Sequences -/

/-- The parts of a sequence. -/
def parts : Pattern → List Pattern
  | .seq p q => p :: q.parts
  | .empty => []
  | p => [p]

/-- Joins neighbouring literals. -/
def joinLiterals : List Pattern → List Pattern
  | [] => []
  | p :: rest =>
    match p, joinLiterals rest with
    | .literal text, .literal more :: others => .literal (text ++ more) :: others
    | _, joined => p :: joined

/-- Parts one after the other, when none is a sequence. -/
def inSequence : List Pattern → Pattern
  | [] => .empty
  | [p] => p
  | p :: rest => .seq p (inSequence rest)

/-- Patterns one after the other. -/
def sequence (ps : List Pattern) : Pattern := inSequence (joinLiterals (ps.flatMap parts))

/-! ## Choices -/

/-- The alternatives of a choice. -/
def alternatives : Pattern → List Pattern
  | .alt p q => p :: q.alternatives
  | p => [p]

/-- A choice between alternatives, when none is a choice. -/
def inChoice : List Pattern → Pattern
  | [] => .set true .empty
  | [p] => p
  | p :: rest => .alt p (inChoice rest)

/-- The set of the characters that the alternatives are, if each is one. -/
def charsOf? (ps : List Pattern) : Option CharSet :=
  (ps.mapM fun (p : Pattern) =>
    match p with | .literal [c] => some (CharSet.single c) | _ => none).map CharSet.unionAll

/-- The union of the sets that the alternatives are, if each is one. -/
def setsOf? (ps : List Pattern) : Option CharSet :=
  (ps.mapM fun (p : Pattern) => match p with | .set _ s => some s | _ => none).map CharSet.unionAll

/-- The longest common beginning of two lists of parts. -/
def commonParts : List Pattern → List Pattern → List Pattern
  | p :: ps, q :: qs => if p = q then p :: commonParts ps qs else []
  | _, _ => []

/-- The parts that all alternatives begin with. Only sequences share parts. -/
def sharedParts (ps : List Pattern) : List Pattern :=
  let partsOf (p : Pattern) : List Pattern := match p with | .seq .. => p.parts | _ => []
  match ps.map partsOf with
  | [] => []
  | first :: rest => rest.foldl commonParts first

/-- The number of parts of a pattern at all depths. -/
def weight : Pattern → Nat
  | .empty | .literal _ | .set .. | .look _ => 1
  | .seq p q | .alt p q => p.weight + q.weight + 1
  | .repeated p _ _ _ | .group _ p => p.weight + 1

/-- A choice between patterns. `count` bounds how often shared parts are taken out. -/
def choiceWithin : (count : Nat) → List Pattern → Pattern
  | 0, ps => inChoice ps
  | count + 1, ps =>
    let ps := ps.flatMap alternatives
    match ps with
    | [] | [_] => inChoice ps
    | _ =>
      match (charsOf? ps).or (setsOf? ps) with
      | some s => ofSet false s
      | none =>
        match sharedParts ps with
        | [] => inChoice ps
        | shared =>
          sequence (shared ++ [choiceWithin count
            (ps.map fun p => sequence (p.parts.drop shared.length))])

/-- A choice between patterns. Every pattern is an alternative, a choice brings its own ones. -/
def choice (ps : List Pattern) : Pattern :=
  choiceWithin (ps.foldl (fun total p => total + p.weight) 0 + 1) ps

end SchemaBinding.Pattern
