import Std.Data.HashMap
import SchemaBinding.Pattern.Encoding
import SchemaBinding.Pattern.Normal

/-!
# The machine of a pattern

Source: The bound on compiled patterns of the expression library that
`builtins/restriction` (`pattern_matches`) relies on; `SPEC_FULL.md`, 4.3.

A pattern is matched only if the machines that read its spans byte by byte,
forward and backward, are small enough. A machine has states of one size, and
states that have several successors take more room for them. Repetitions are
copies, and sets of characters beyond ASCII share the ends of their rows of byte
ranges as far as a cache of limited size remembers them; so the room for a set
depends on the numbers of its states.
-/

namespace SchemaBinding

/-- What has been built of a machine: the number of states, and the room that their successors
take. -/
structure Machine where
  states : Nat := 0
  links : Nat := 0

namespace Machine

/-! ## Room -/

/-- The room of a state. -/
def stateRoom : Nat := 32

/-- The room of a successor for a range of bytes. -/
def rangeRoom : Nat := 8

/-- The room of a successor without bytes. -/
def branchRoom : Nat := 4

/-- The room that a machine takes. -/
def room (m : Machine) : Nat := stateRoom * m.states + m.links

/-- The largest room that a machine may take. -/
def maximalRoom : Nat := 10 * 0x100000

/-- A step of building: a value and the machine after it, or nothing when the machine becomes too
large. -/
abbrev Step (α : Type) := StateT Machine Option α

/-- Adds states and room for their successors. -/
def add (states links : Nat) : Step Unit := fun m =>
  let next : Machine := ⟨m.states + states, m.links + links⟩
  if next.room ≤ maximalRoom then some ((), next) else none

/-- Continues a part. An open part ends in a branching state, which gets one more successor. -/
def follow (isOpen : Bool) : Step Unit := if isOpen then add 0 branchRoom else pure ()

/-! ## Caches -/

/-- A cache with a limited number of places: where two keys have the same place, the later one
stays. -/
abbrev Cache (κ : Type) := Std.HashMap Nat (κ × Nat)

/-- The place of a key that consists of some numbers, in a cache of `size` places. -/
def placeOf (size : Nat) (key : List Nat) : Nat :=
  (key.foldl (fun (h : UInt64) n => (h ^^^ n.toUInt64) * 1099511628211)
    14695981039346656037 % size.toUInt64).toNat

/-- The number that a cache holds for a key. -/
def lookUp {κ : Type} [DecidableEq κ] (cache : Cache κ) (place : Nat) (key : κ) : Option Nat :=
  match cache[place]? with
  | some (found, value) => if found = key then some value else none
  | none => none

/-! ## Sets of characters -/

open Encoding (ByteRange)

/-- A successor for a range of bytes. -/
abbrev Link := ByteRange × Nat

/-- The number of places for states that are shared by rows with the same ends. -/
def sharedStates : Nat := 10000

/-- The state with the given successors: a remembered one, or a new one. -/
def stateWith (links : List Link) : StateT (Cache (List Link)) Step Nat := do
  let place := placeOf sharedStates (links.flatMap fun ((low, high), next) => [low, high, next])
  match lookUp (← get) place links with
  | some state => return state
  | none =>
    let state := (← (StateT.lift MonadState.get : StateT (Cache (List Link)) Step Machine)).states
    StateT.lift (add 1 (rangeRoom * links.length))
    modify (·.insert place (links, state))
    return state

/-- Groups neighbouring rows with the same first range: the range, and the rows without it. -/
def groups : List (List ByteRange) → List (ByteRange × List (List ByteRange))
  | [] => []
  | [] :: rows => groups rows
  | (r :: row) :: rows =>
    match groups rows with
    | (r', more) :: others =>
      if r = r' then (r, row :: more) :: others else (r, [row]) :: (r', more) :: others
    | [] => [(r, [row])]

/-- The state from which some rows lead to the state `target`. `depth` bounds the length of the
rows. -/
def stateOfRows (target : Nat) : (depth : Nat) → List (List ByteRange) →
      StateT (Cache (List Link)) Step Nat
  | 0, _ => return target
  | depth + 1, rows => do
    let links ← (groups rows).mapM fun (range, rest) => do
      return (range, ← if rest = [[]] then pure target else stateOfRows target depth rest)
    stateWith links

/-- Builds the part for a set that is read forward. -/
def forwardSet (s : CharSet) : Step Unit := do
  let target := (← get).states
  add 1 0
  let _ ← (stateOfRows target 4 (Encoding.rows s)).run {}

/-- The number of places for states that are shared by rows with the same beginnings. -/
def sharedEnds : Nat := 1000

/-- Builds the states for a row that is read from its last range on and leads to the state `next`:
its first range is read last. -/
def backwardRow (next : Nat) : List ByteRange → Cache (Nat × ByteRange) →
      Step (Cache (Nat × ByteRange))
  | [], cache => return cache
  | range :: row, cache => do
    let place := placeOf sharedEnds [next, range.1, range.2]
    match lookUp cache place (next, range) with
    | some state => backwardRow state row cache
    | none =>
      let state := (← get).states
      add 1 0
      backwardRow state row (cache.insert place ((next, range), state))

/-- Builds the part for a set that is read backward. -/
def backwardSet (s : CharSet) : Step Unit := do
  add 1 0
  let target := (← get).states
  add 1 0
  let _ ← (Encoding.rows s).foldlM
    (fun cache row => do add 0 branchRoom; backwardRow target row cache) {}

/-! ## Literals -/

/-- The states and the room of their successors for the rest of some words that begin alike, as far
as the words go on. A word that ends splits the others into those before and those after it. `depth`
bounds their length. -/
def wordStates : (depth : Nat) → List (List Nat) → Nat × Nat
  | 0, _ => (0, 0)
  | depth + 1, words =>
    let chunks := chunksOf words
    let parts := chunks.map fun chunk =>
      let firsts := (chunk.filterMap List.head?).eraseDups
      let below := firsts.map fun b =>
        let rest := chunk.filterMap fun word =>
          if word.head? = some b then some (word.drop 1) else none
        if rest.all (·.isEmpty) then (0, 0) else wordStates depth rest
      let links := if firsts.length < 2 then 0 else rangeRoom * firsts.length
      ((below.map (·.1)).sum + min firsts.length 1, (below.map (·.2)).sum + links)
    let branches := (chunks.filter (!·.isEmpty)).length + (chunks.length - 1)
    ((parts.map (·.1)).sum + 1, (parts.map (·.2)).sum + branchRoom * branches)
where
  /-- The runs of words between the ends of words. Ends before the first word that goes on count
  once. -/
  chunksOf (words : List (List Nat)) : List (List (List Nat)) :=
    let leading := words.takeWhile (·.isEmpty)
    let others := words.drop leading.length
    let split := others.foldr
      (fun (word : List Nat) (chunks : List (List (List Nat))) =>
        match word, chunks with
        | [], chunks => [] :: chunks
        | word, chunk :: chunks => (word :: chunk) :: chunks
        | word, [] => [[word]])
      [[]]
    if leading.isEmpty then split else [] :: split

/-! ## Patterns -/

/-- Whether a machine reads forward or backward. -/
inductive Direction where
  | forward
  | backward
  deriving DecidableEq, Repr

/-- The place of a pattern among alternatives. -/
inductive Place where
  /-- None, or the first one. -/
  | first
  | second
  | later
  deriving DecidableEq, Repr

/-- Ends an alternative after the first, which is open or not: the second one brings the branching
state and the common end. -/
def endBranch (place : Place) (isOpen : Bool) : Step Bool := do
  match place with
  | .first => return isOpen
  | .second =>
    add 2 branchRoom
    follow isOpen
    return false
  | .later =>
    add 0 branchRoom
    follow isOpen
    return false

/-- `count` more copies of a part after a part that is open or not. -/
def copies (part : Step Bool) : (count : Nat) → (isOpen : Bool) → Step Bool
  | 0, isOpen, m => some (isOpen, m)
  | count + 1, isOpen, m =>
    match follow isOpen m with
    | none => none
    | some ((), m) =>
      match part m with
      | none => none
      | some (isOpen, m) => copies part count isOpen m

/-- `count` copies of a part. -/
def exactly (part : Step Bool) (count : Nat) : Step Bool :=
  match count with
  | 0 => do
    add 1 0
    return false
  | count + 1 => do copies part count (← part)

/-- `count` more copies of a part that may be left out together with all that follow. -/
def optionalCopies (part : Step Bool) : (count : Nat) → (isOpen : Bool) → Step Bool
  | 0, isOpen, m => some (isOpen, m)
  | count + 1, isOpen, m =>
    match (do add 1 (2 * branchRoom); follow isOpen; part : Step Bool) m with
    | none => none
    | some (isOpen, m) => optionalCopies part count isOpen m

/-- A part repeated at least `least` times. `full` tells that the part reads something. -/
def atLeast (part : Step Bool) (full : Bool) (least : Nat) : Step Bool := do
  match least, full with
  | 0, true =>
    add 1 branchRoom
    follow (← part)
    return true
  | 0, false =>
    follow (← part)
    add 3 (4 * branchRoom)
    return false
  | 1, _ =>
    follow (← part)
    add 1 branchRoom
    return true
  | least + 2, _ =>
    follow (← exactly part (least + 1))
    follow (← part)
    add 1 branchRoom
    return true

/-- A part repeated at least `least` and at most `most` times, which are not the same. -/
def between (part : Step Bool) (least most : Nat) : Step Bool := do
  if least = 0 ∧ most = 1 then
    add 1 (2 * branchRoom)
    let isOpen ← part
    add 1 0
    follow isOpen
    return false
  else
    let isOpen ← exactly part least
    add 1 0
    follow (← optionalCopies part (most - least) isOpen)
    return false

/-- The words that the alternatives of a choice are, if each is a literal. -/
def words? (d : Direction) (p : Pattern) : Option (List (List Nat)) :=
  p.alternatives.mapM fun (q : Pattern) =>
    match q with
    | .literal text =>
      let word := text.flatMap fun c => Encoding.bytes c.toNat
      some (if d = .forward then word else word.reverse)
    | _ => none

/-- Builds the part for a pattern at a place among alternatives, and tells whether it is open. -/
def build (d : Direction) : Pattern → Place → Step Bool
  | .empty, place => do
    add 1 0
    endBranch place false
  | .literal text, place => do
    add (text.foldl (fun size c => size + c.utf8Size) 0) 0
    endBranch place false
  | .set bytes s, place => do
    if bytes || s.isAscii then add 2 (rangeRoom * s.runs.length)
    else if d = .forward then forwardSet s
    else backwardSet s
    endBranch place false
  | .look _, place => do
    add 1 0
    endBranch place false
  | .seq p q, place => do
    match d with
    | .forward =>
      follow (← build d p .first)
      endBranch place (← build d q .first)
    | .backward =>
      follow (← build d q .first)
      endBranch place (← build d p .first)
  | .alt p q, place => do
    match if place = .first then words? d (.alt p q) else none with
    | some words =>
      let (states, links) := wordStates ((words.map List.length).foldl max 0 + 1) words
      add (states + 1) links
      return false
    | none =>
      let isOpen ← build d p .first
      match place with
      | .first =>
        add 0 branchRoom
        follow isOpen
      | _ =>
        let _ ← endBranch place isOpen
      build d q (if place = .first then .second else .later)
  | .repeated p least most _, place => do
    let part := build d p .first
    let isOpen ←
      match most with
      | none => atLeast part (p.leastLength?.any (0 < ·)) least
      | some most => if least = most then exactly part least else between part least most
    endBranch place isOpen
  | .group _ p, place => do
    match d with
    | .forward =>
      add 1 0
      let isOpen ← build d p .first
      add 1 0
      follow isOpen
      endBranch place false
    | .backward => endBranch place (← build d p .first)

/-- Builds the whole machine. Unless each span begins (backward: ends) at an end of the text, the
machine first passes over any bytes. -/
def buildAll (d : Direction) (p : Pattern) : Step Unit := do
  let anchored := match d with | .forward => p.beginsAt .textStart | .backward => p.endsAt .textEnd
  if anchored then add 1 0 else add 3 (rangeRoom + 2 * branchRoom)
  follow (← build d (if d = .forward then .group 0 p else p) .first)
  add 1 0

end Machine

/-- Whether the machines of a pattern, forward and backward, are small enough. -/
def Pattern.isMachineSized (p : Pattern) : Bool :=
  (Machine.buildAll .forward p {}).isSome && (Machine.buildAll .backward p {}).isSome

end SchemaBinding
