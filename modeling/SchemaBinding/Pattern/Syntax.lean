import SchemaBinding.Pattern.Machine
import SchemaBinding.Pattern.Property
import SchemaBinding.Text.Numeral

/-!
# The notation of patterns

Source: The notation of the expression library that `builtins/restriction`
(`pattern_matches`) relies on; `SPEC_FULL.md`, 4.3.

Reading patterns: groups, flags, classes with nested sets and operations on
them, escapes, assertions and repetitions. A text that is no pattern gives none.
Flags are settled while reading, so that a pattern needs no flags. The nesting
of a pattern is bounded, and so is its size.
-/

namespace SchemaBinding

namespace Text

/-- Letters, and what counts as one, that a later version of the character set assigns, as the first
and last code points of runs. Sets in patterns do not know them, but names of groups may contain
them. -/
def laterAlphabetic : List (Nat × Nat) :=
  [(0x88F, 0x88F), (0xC5C, 0xC5C), (0xCDC, 0xCDC), (0xA7CE, 0xA7CF), (0xA7D2, 0xA7D2),
   (0xA7D4, 0xA7D4), (0xA7F1, 0xA7F1), (0x10940, 0x10959), (0x10EC5, 0x10EC7), (0x10EFA, 0x10EFB),
   (0x11B60, 0x11B67), (0x11DB0, 0x11DDB), (0x16EA0, 0x16EB8), (0x16EBB, 0x16ED3),
   (0x16FF2, 0x16FF6), (0x187F8, 0x187FF), (0x18D09, 0x18D1E), (0x18D80, 0x18DF2),
   (0x1E6C0, 0x1E6DE), (0x1E6E0, 0x1E6F5), (0x1E6FE, 0x1E6FF), (0x2B73A, 0x2B73F),
   (0x2CEA2, 0x2CEAD), (0x323B0, 0x33479)]

/-- Decimal digits that a later version of the character set assigns. -/
def laterDigit : List (Nat × Nat) := [(0x11DE0, 0x11DE9)]

end Text

namespace Pattern

/-- The flags in force at a place of a pattern. -/
structure Flags where
  ignoreCase : Bool := false
  multiLine : Bool := false
  dotAll : Bool := false
  unicode : Bool := true
  returns : Bool := false
  lazy : Bool := false
  verbose : Bool := false

namespace Flags

/-- The letter case that does not count in sets of characters. -/
def letterCase (flags : Flags) : LetterCase := if flags.unicode then .unicode else .ascii

/-- Closes a set under case where case does not count. -/
def fold (flags : Flags) (s : CharSet) : CharSet :=
  if flags.ignoreCase then s.close flags.letterCase else s

/-- Sets the flag with a letter. -/
def set? (flags : Flags) (letter : Char) (on : Bool) : Option Flags :=
  match letter with
  | 'i' => some { flags with ignoreCase := on }
  | 'm' => some { flags with multiLine := on }
  | 's' => some { flags with dotAll := on }
  | 'u' => some { flags with unicode := on }
  | 'R' => some { flags with returns := on }
  | 'x' => some { flags with verbose := on }
  | 'U' => some { flags with lazy := on }
  | _ => none

end Flags

/-- A pattern as read, with the depth of its nesting. Settings of flags cannot be repeated. -/
structure Reading where
  pattern : Pattern
  depth : Nat
  repeatable : Bool := true

/-- A set as read, with the depth of its nesting. -/
structure SetReading where
  set : CharSet
  depth : Nat

/-- What remains to be read, with the length of the whole pattern, the flags in force, the number of
the next group and the names of the groups so far. -/
structure Reader.State where
  rest : List Char
  length : Nat
  flags : Flags := {}
  nextGroup : Nat := 1
  names : List String := []

/-- A step of reading. -/
abbrev Reader := StateT Reader.State Option

namespace Reader

/-! ## Characters -/

/-- Drops the blanks and comments at the front of verbose notation. `comment` tells whether a
comment is open. -/
def dropBlanks (comment : Bool) : List Char → List Char
  | [] => []
  | c :: rest =>
    if comment then dropBlanks (c != '\n') rest
    else if Text.isBlank c then dropBlanks false rest
    else if c = '#' then dropBlanks true rest
    else c :: rest

/-- Passes over blanks and comments where they do not count. -/
def skipBlanks : Reader Unit :=
  modify fun s => if s.flags.verbose then { s with rest := dropBlanks false s.rest } else s

/-- The next character, which stays. -/
def peek? : Reader (Option Char) := return (← get).rest.head?

/-- The next character, which stays; there must be one. -/
def peek : Reader Char := do
  let some c ← peek? | failure
  return c

/-- Passes over a character. -/
def skip : Reader Unit := modify fun s => { s with rest := s.rest.drop 1 }

/-- Passes over a character and the blanks after it. -/
def advance : Reader Unit := do skip; skipBlanks

/-- Passes over a character and the blanks after it; something must follow. -/
def advanceWithin : Reader Unit := do
  advance
  let _ ← peek

/-- Passes over a text if it comes next. -/
def skipIf (s : String) : Reader Bool := do
  let state ← get
  if s.toList.isPrefixOf state.rest then
    modify fun state => { state with rest := state.rest.drop s.toList.length }
    return true
  else return false

/-- The longest run of characters that satisfy `p`, and the blanks after each. `count` bounds its
length. -/
def takeSpaced (p : Char → Bool) : (count : Nat) → Reader (List Char)
  | 0 => return []
  | count + 1 => do
    match ← peek? with
    | some c =>
      if p c then
        advance
        return c :: (← takeSpaced p count)
      else return []
    | none => return []

/-- A bound on the number of characters that remain. -/
def remaining : Reader Nat := return (← get).length

/-- A decimal numeral below `2 ^ 32`, between blanks, if there is one. -/
def decimal : Reader (Option Nat) := do
  modify fun s => { s with rest := s.rest.dropWhile Text.isBlank }
  let ds ← takeSpaced Char.isDigit (← remaining)
  let _ ← takeSpaced Text.isBlank (← remaining)
  if ds.isEmpty then return none
  let n := Text.valueOf ds
  if n < 0x100000000 then return some n else failure

/-! ## Escapes -/

/-- What an escape stands for. -/
inductive Escape where
  /-- A character. One written as a byte is a character of ASCII where patterns are made of
  bytes. -/
  | char (c : Char) (byte : Bool)
  | set (s : CharSet)
  | look (l : Look)

/-- The value of a hexadecimal digit. -/
def hexDigit? (c : Char) : Option Nat :=
  if c.isDigit then some (c.toNat - 48)
  else if 'a' ≤ c ∧ c ≤ 'f' then some (c.toNat - 87)
  else if 'A' ≤ c ∧ c ≤ 'F' then some (c.toNat - 55)
  else none

/-- The character with the code point that hexadecimal digits denote. -/
def hexChar (ds : List Char) : Reader Char := do
  let values ← ds.mapM fun c => (hexDigit? c : Option Nat)
  let n := values.foldl (fun n d => 16 * n + d) 0
  if h : n.isValidChar then return Char.ofNatAux n h else failure

/-- Exactly `count` hexadecimal digits, with blanks between them. -/
def hexDigits : (count : Nat) → Reader (List Char)
  | 0 => return []
  | count + 1 => do
    let c ← peek
    if (hexDigit? c).isNone then failure
    advance
    return c :: (← hexDigits count)

/-- The code point after a letter that announces `width` digits, or any number of them in braces. -/
def hexEscape (width : Nat) : Reader Escape := do
  advanceWithin
  if (← peek) = '\x7b' then
    advanceWithin
    let ds ← takeSpaced (fun c => (hexDigit? c).isSome) (← remaining)
    if ds.isEmpty ∨ (← peek) ≠ '\x7d' then failure
    advance
    return .char (← hexChar ds) false
  else
    return .char (← hexChar (← hexDigits width)) (width == 2)

/-- Splits a text at the first occurrence of a separator. -/
def splitAt? (separator : List Char) (before : List Char) :
    List Char → Option (List Char × List Char)
  | [] => none
  | c :: rest =>
    if separator.isPrefixOf (c :: rest) then some (before, (c :: rest).drop separator.length)
    else splitAt? separator (before ++ [c]) rest

/-- The set that the text between the braces of a property stands for, and whether its complement is
meant. -/
def propertySet? (name : List Char) : Option (CharSet × Bool) :=
  match splitAt? ['!', '='] [] name with
  | some (kind, value) => (CharSet.namedValue? kind value).map (·, true)
  | none =>
    let set := match (splitAt? [':'] [] name).or (splitAt? ['='] [] name) with
      | some (kind, value) => CharSet.namedValue? kind value
      | none => CharSet.named? name
    set.map (·, false)

/-- Closes a set under case where case does not count, and then takes its complement if it is
negated. Where patterns are made of bytes, a negated set would hold more than ASCII. -/
def foldAndNegate (flags : Flags) (negated : Bool) (s : CharSet) : Option CharSet :=
  if negated then (if flags.unicode then some (flags.fold s).complement else none)
  else some (flags.fold s)

/-- The set of the characters with the named property, or without it. -/
def namedSet (negated : Bool) (name : List Char) : Reader CharSet := do
  let flags := (← get).flags
  if !flags.unicode then failure
  let some (s, otherwise) := propertySet? name | failure
  let some s := foldAndNegate flags (negated != otherwise) s | failure
  return s

/-- A property, after its letter: a single character, or a name in braces. -/
def property (negated : Bool) : Reader CharSet := do
  advanceWithin
  let name ←
    if (← peek) = '\x7b' then do
      advance
      let name ← takeSpaced (· ≠ '\x7d') (← remaining)
      if (← peek) ≠ '\x7d' then failure
      skip
      pure name
    else do
      let c ← peek
      if c = '\\' then failure
      advance
      pure [c]
  namedSet negated name

/-- The set that one of the letters `d`, `s` and `w` stands for. -/
def letterSet (flags : Flags) : Char → CharSet
  | 'd' => if flags.unicode then .digit else .asciiDigit
  | 's' => if flags.unicode then .space else .asciiSpace
  | _ => if flags.unicode then .word else .asciiWord

/-- The place that the name of a boundary stands for. -/
def namedPlace? (name : String) : Option WordPlace :=
  match name with
  | "start" => some .start
  | "end" => some .stop
  | "start-half" => some .startHalf
  | "end-half" => some .stopHalf
  | _ => none

/-- Whether a character may stand in the name of a boundary. -/
def isPlaceChar (c : Char) : Bool := c.isAlpha || c == '-'

/-- The name of a special boundary, and the brace after it. -/
def placeName : Reader WordPlace := do
  let name ← takeSpaced isPlaceChar (← remaining)
  if (← peek) ≠ '\x7d' then failure
  skip
  let some place := namedPlace? (String.ofList name) | failure
  return place

/-- The boundary after `\b`: braces hold the name of a special one, unless they begin a
repetition. -/
def boundary : Reader WordPlace := do
  if (← peek?) ≠ some '\x7b' then return .boundary
  let before ← get
  advanceWithin
  if isPlaceChar (← peek) then placeName
  else
    modify fun _ => before
    return .boundary

/-- Whether a character can be written after a backslash to stand for itself. -/
def isEscapable (c : Char) : Bool :=
  c.toNat < 128 && !c.isAlphanum && c != '<' && c != '>'

/-- The character that a letter stands for after a backslash. -/
def controlChar? : Char → Option Char
  | 'a' => some '\x07'
  | 'f' => some '\x0c'
  | 't' => some '\t'
  | 'n' => some '\n'
  | 'r' => some '\r'
  | 'v' => some '\x0b'
  | _ => none

/-- An escape, from its backslash on. -/
def escape : Reader Escape := do
  skip
  let c ← peek
  let flags := (← get).flags
  let look (place : WordPlace) : Escape := .look (.word place (!flags.unicode))
  match c with
  | 'x' => hexEscape 2
  | 'u' => hexEscape 4
  | 'U' => hexEscape 8
  | 'p' => return .set (← property false)
  | 'P' => return .set (← property true)
  | _ =>
    skip
    match c with
    | 'd' | 's' | 'w' => return .set (letterSet flags c)
    | 'D' | 'S' | 'W' =>
      if flags.unicode then return .set (letterSet flags c.toLower).complement else failure
    | 'A' => return .look .textStart
    | 'z' => return .look .textEnd
    | 'b' => return look (← boundary)
    | 'B' => return look .noBoundary
    | '<' => return look .start
    | '>' => return look .stop
    | _ =>
      match controlChar? c with
      | some control => return .char control false
      | none => if isEscapable c then return .char c false else failure

/-! ## Classes -/

/-- An operation between the sets of a class. -/
inductive Operation where
  | intersection
  | difference
  | symmetricDifference

/-- The set that results from an operation. -/
def Operation.apply : Operation → CharSet → CharSet → CharSet
  | .intersection => .intersection
  | .difference => .difference
  | .symmetricDifference => .symmetricDifference

/-- A set as an item of a class. -/
def item (s : CharSet) : SetReading := ⟨s, 0⟩

/-- The items of a class as one set. `items` are in reverse order. -/
def unionOf (items : List SetReading) : SetReading :=
  match items with
  | [] => item .empty
  | [single] => single
  | _ => ⟨.unionAll (items.reverse.map (·.set)), 1 + (items.map (·.depth)).foldl max 0⟩

/-- The items as the right operand of the operation before them, if there is one. -/
def operand (flags : Flags) (left? : Option (Operation × SetReading)) (items : List SetReading) :
    SetReading :=
  let right := unionOf items
  match left? with
  | none => right
  | some (operation, left) =>
    ⟨operation.apply (flags.fold left.set) (flags.fold right.set), 1 + max left.depth right.depth⟩

/-- A single character or an escape in a class. -/
def classItem : Reader Escape := do
  let c ← peek
  if c = '\\' then escape
  else
    skip
    return .char c false

/-- A character as an item of a class. Where patterns are made of bytes it must be one of ASCII. -/
def classChar : Escape → Reader Char
  | .char c _ => do
    if (← get).flags.unicode ∨ c.toNat < 128 then return c else failure
  | _ => failure

/-- The character after the next one where blanks and number signs do not count: the first of the
others, or the very next one if there is no other. After a number sign further ones count. -/
def afterNext (verbose : Bool) (rest : List Char) : Option Char :=
  if verbose then go false (rest.drop 1) (rest.drop 1).head? else (rest.drop 1).head?
where
  /-- Passes over blanks and over one number sign. -/
  go (signSeen : Bool) : List Char → Option Char → Option Char
    | [], first => first
    | c :: rest, first =>
      if Text.isBlank c then go signSeen rest first
      else if !signSeen && c == '#' then go true rest first
      else some c

/-- An item of a class that is no range. -/
def singleItem (written : Escape) : Reader SetReading := do
  match written with
  | .char .. => return item (.single (← classChar written))
  | .set s => return item s
  | .look _ => failure

/-- A range between two characters. -/
def rangeEnd (first last : Escape) : Reader SetReading := do
  let low ← classChar first
  let high ← classChar last
  if low ≤ high then return item (.range low high) else failure

/-- An item of a class after what it begins with: a range if a hyphen and another character
follow. -/
def rangeFrom (first : Escape) : Reader SetReading := do
  skipBlanks
  let next ← peek
  let state ← get
  let after := afterNext state.flags.verbose state.rest
  if next ≠ '-' ∨ after = some ']' ∨ after = some '-' then singleItem first
  else
    advanceWithin
    rangeEnd first (← classItem)

/-- A character, a range or an escape as an item of a class. -/
def classRange : Reader SetReading := do rangeFrom (← classItem)

/-- A class of ASCII characters from its name on, if there is one. -/
def namedClass? (flags : Flags) (negated : Bool) (rest : List Char) :
    Option (Option CharSet × List Char) :=
  match rest.dropWhile (· ≠ ':') with
  | ':' :: ']' :: after =>
    (CharSet.asciiClass? (String.ofList (rest.takeWhile (· ≠ ':')))).map fun s =>
      (foldAndNegate flags negated s, after)
  | _ => none

/-- A class of ASCII characters with a name, from its bracket on, if there is one. -/
def asciiClass? (flags : Flags) (rest : List Char) : Option (Option CharSet × List Char) :=
  match rest with
  | '[' :: ':' :: '^' :: rest => namedClass? flags true rest
  | '[' :: ':' :: rest => namedClass? flags false rest
  | _ => none

/-- The hyphens at the beginning of a class, which stand for themselves. `count` bounds their
number. -/
def leadingHyphens : (count : Nat) → Reader (List SetReading)
  | 0 => return []
  | count + 1 => do
    if (← peek) = '-' then
      advanceWithin
      return item (.single '-') :: (← leadingHyphens count)
    else return []

/-- The characters at the beginning of a class that stand for themselves: hyphens, or else a
bracket. -/
def classStart : Reader (List SetReading) := do
  let hyphens ← leadingHyphens ((← remaining) + 1)
  if hyphens.isEmpty ∧ (← peek) = ']' then
    advanceWithin
    return [item (.single ']')]
  return hyphens

/-- The beginning of a class, from its bracket on: whether it is negated, and the characters at the
beginning that stand for themselves. -/
def classOpening : Reader (Bool × List SetReading) := do
  advanceWithin
  let negated := (← peek) == '^'
  if negated then advanceWithin
  return (negated, ← classStart)

/-- A class in a class, from its bracket on: one with a name, or one whose rest `body` reads. -/
def innerClass (body : (negated : Bool) → (opening : List SetReading) → Reader SetReading) :
    Reader SetReading := do
  let state ← get
  match asciiClass? state.flags state.rest with
  | some (some s, after) =>
    modify fun state => { state with rest := after }
    return item s
  | some (none, _) => failure
  | none =>
    let (negated, opening) ← classOpening
    body negated opening

/-- The rest of a class up to its closing bracket. `items` are the items since the last operation,
in reverse order, and `left?` is what stands before them. `count` bounds the number of steps. -/
def classBody : (count : Nat) → (negated : Bool) → (left? : Option (Operation × SetReading)) →
    (items : List SetReading) → Reader SetReading
  | 0, _, _, _ => failure
  | count + 1, negated, left?, items => do
    skipBlanks
    let flags := (← get).flags
    let operate (operation : Operation) : Reader SetReading := do
      skip
      skip
      classBody count negated (some (operation, operand flags left? items)) []
    match (← get).rest with
    | ']' :: _ =>
      skip
      let content := operand flags left? items
      let some s := foldAndNegate flags negated content.set | failure
      return ⟨s, 1 + content.depth⟩
    | '[' :: _ =>
      let inner ← innerClass fun negated opening => classBody count negated none opening
      classBody count negated left? (inner :: items)
    | '&' :: '&' :: _ => operate .intersection
    | '-' :: '-' :: _ => operate .difference
    | '~' :: '~' :: _ => operate .symmetricDifference
    | [] => failure
    | _ => classBody count negated left? ((← classRange) :: items)

/-- A class, from its opening bracket on. -/
def charClass : Reader Reading := do
  let (negated, opening) ← classOpening
  let s ← classBody ((← remaining) + 1) negated none opening
  return { pattern := ofSet (!(← get).flags.unicode) s.set, depth := s.depth }

/-! ## Groups -/

/-- Whether a character may stand in the name of a group, at its beginning or later. -/
def isNameChar (first : Bool) (c : Char) : Bool :=
  c == '_' || alphabetic.contains c ||
    (!first && (c == '.' || c == '[' || c == ']' || numeric.contains c))
where
  /-- The letters and what counts as one. -/
  alphabetic : CharSet := (CharSet.ofProperty "alphabetic").union (.ofRuns Text.laterAlphabetic)
  /-- The numbers of every kind. -/
  numeric : CharSet :=
    (CharSet.ofCategories [.decimalNumber, .letterNumber, .otherNumber]).union
      (.ofRuns Text.laterDigit)

/-- Whether some characters are the name of a group. -/
def isGroupName : List Char → Bool
  | c :: rest => isNameChar true c && rest.all (isNameChar false)
  | [] => false

/-- The name of a group up to its closing angle. A name may occur once only. -/
def groupName : Reader Unit := do
  let state ← get
  let name := state.rest.takeWhile (· ≠ '>')
  let text := String.ofList name
  if !isGroupName name ∨ state.names.contains text then failure
  modify fun s => { s with rest := s.rest.drop name.length, names := text :: s.names }
  if !(← skipIf ">") then failure

/-- The letters of flags up to a colon or a closing parenthesis, with the flags that they set.
`seen` are the letters so far, in reverse order; each may occur once, and a minus is not the
last. -/
def groupFlags (flags : Flags) (seen : List Char) : (count : Nat) → Reader Flags
  | 0 => failure
  | count + 1 => do
    let c ← peek
    if c = ':' ∨ c = ')' then
      if seen.head? = some '-' then failure else return flags
    else
      if seen.contains c then failure
      skip
      if c = '-' then groupFlags flags (c :: seen) count
      else
        let some next := flags.set? c (!seen.contains '-') | failure
        groupFlags next (c :: seen) count

/-- What begins with a parenthesis. -/
inductive Opening where
  /-- A setting of flags, which is complete. -/
  | setting
  /-- A group, with its number if it has one and the flags to be restored at its end. -/
  | group (number : Option Nat) (outer : Flags)

/-- The next number of a group. -/
def numberGroup : Reader Nat :=
  modifyGet fun s => (s.nextGroup, { s with nextGroup := s.nextGroup + 1 })

/-- The beginning of a group, from its parenthesis on. -/
def groupOpening : Reader Opening := do
  let outer := (← get).flags
  advance
  if ← skipIf "?=" <||> skipIf "?!" <||> skipIf "?<=" <||> skipIf "?<!" then failure
  if ← skipIf "?P<" <||> skipIf "?<" then
    let number ← numberGroup
    groupName
    return .group number outer
  if !(← skipIf "?") then return .group (← numberGroup) outer
  let start ← peek
  let flags ← groupFlags outer [] ((← remaining) + 1)
  let closing ← peek
  if closing = ')' ∧ start = ')' then failure
  skip
  modify fun s => { s with flags }
  return if closing = ')' then .setting else .group none outer

/-! ## Patterns -/

/-- A character as a pattern. -/
def charPattern (flags : Flags) (c : Char) : Pattern :=
  ofSet (!flags.unicode) (flags.fold (.single c))

/-- The set of the characters that a dot stands for. -/
def dotSet (flags : Flags) : CharSet :=
  if flags.dotAll then .all
  else (CharSet.mk (if flags.returns then
    [(0x0A, 0x0A), (0x0D, 0x0D)] else [(0x0A, 0x0A)])).complement

/-- An escape, an assertion, a dot or a character. -/
def primitive : Reader Pattern := do
  let flags := (← get).flags
  match ← peek with
  | '\\' =>
    match ← escape with
    | .char c byte =>
      if byte ∧ !flags.unicode ∧ 128 ≤ c.toNat then failure else return charPattern flags c
    | .set s => return ofSet (!flags.unicode) s
    | .look l => return .look l
  | '.' =>
    skip
    if flags.unicode then return ofSet false (dotSet flags) else failure
  | '^' =>
    skip
    return .look (if flags.multiLine then .lineStart flags.returns else .textStart)
  | '$' =>
    skip
    return .look (if flags.multiLine then .lineEnd flags.returns else .textEnd)
  | c =>
    skip
    return charPattern flags c

/-- The end of the bounds of a repetition, at the closing brace. -/
def boundsEnd (least : Nat) (most : Option Nat) : Reader (Nat × Option Nat) := do
  if (← peek) ≠ '\x7d' then failure
  if most.any (· < least) then failure
  advance
  return (least, most)

/-- The bounds of a repetition after the comma: there may be no upper one. -/
def boundsAfterComma (least : Nat) : Reader (Nat × Option Nat) := do
  if (← peek) = '\x7d' then boundsEnd least none
  else
    let some most ← decimal | failure
    boundsEnd least (some most)

/-- The bounds of a repetition in braces, after the opening brace. -/
def boundsWithin : Reader (Nat × Option Nat) := do
  let least ← decimal
  if (← peek) = ',' then
    advanceWithin
    let some least := least | failure
    boundsAfterComma least
  else
    let some least := least | failure
    boundsEnd least (some least)

/-- The bounds of a repetition in braces, from the opening brace on. -/
def bounds : Reader (Nat × Option Nat) := do
  advanceWithin
  boundsWithin

/-- A repetition of a pattern, from its sign on. A question mark after the sign reverses its
greed. -/
def repetition (p : Pattern) : Reader Pattern := do
  let (least, most) ←
    match ← peek with
    | '\x7b' => bounds
    | c =>
      skip
      pure (match c with | '?' => (0, some 1) | '*' => (0, none) | _ => (1, none))
  let marked ← skipIf "?"
  return p.times least most (marked == (← get).flags.lazy)

/-- Patterns one after the other, in reverse order, as one pattern. -/
def sequence (items : List Reading) : Reading :=
  match items with
  | [] => { pattern := .empty, depth := 0 }
  | [single] => single
  | _ => {
    pattern := Pattern.sequence (items.reverse.map (·.pattern))
    depth := 1 + (items.map (·.depth)).foldl max 0 }

/-- Alternatives in reverse order as one pattern, the last given by its parts. -/
def choice (branches items : List Reading) : Reading :=
  let last := sequence items
  match branches with
  | [] => last
  | _ => {
    pattern := Pattern.choice ((branches.reverse ++ [last]).map (·.pattern))
    depth := 1 + (branches.map (·.depth)).foldl max last.depth }

/-- A group as a part of a pattern. -/
def grouped (number : Option Nat) (inner : Reading) : Reading where
  pattern := match number with
    | some n => .group n inner.pattern
    | none => inner.pattern
  depth := 1 + inner.depth

/-- The parenthesis at the end of a group, after which the flags before the group hold again. -/
def groupEnd (number : Option Nat) (outer : Flags) (inner : Reading) : Reader Reading := do
  if !(← skipIf ")") then failure
  modify fun s => { s with flags := outer }
  return grouped number inner

/-- What a parenthesis begins: a group, whose inside `body` reads, or a setting of flags. -/
def group (body : Reader Reading) : Reader Reading := do
  match ← groupOpening with
  | .setting => return { pattern := .empty, depth := 0, repeatable := false }
  | .group number outer => groupEnd number outer (← body)

/-- The parts of an alternative, in reverse order, after the repetition of the last one. -/
def repeatLast : (items : List Reading) → Reader (List Reading)
  | [] => failure
  | last :: before => do
    if !last.repeatable then failure
    return { pattern := ← repetition last.pattern, depth := 1 + last.depth } :: before

/-- What comes next in a pattern. -/
inductive Sign where
  /-- The end of the pattern or of a group. -/
  | stop
  /-- Another alternative. -/
  | bar
  | parenthesis
  | bracket
  | repetition
  | other

/-- What a character, if there is one, begins in a pattern. -/
def Sign.of : Option Char → Sign
  | none | some ')' => .stop
  | some '|' => .bar
  | some '(' => .parenthesis
  | some '[' => .bracket
  | some c => if c = '?' ∨ c = '*' ∨ c = '+' ∨ c = '\x7b' then .repetition else .other

/-- The rest of a pattern or a group. `branches` are the alternatives before the current one,
`items` the parts of this one, both in reverse order. `count` bounds the number of steps. -/
def body : (count : Nat) → (branches items : List Reading) → Reader Reading
  | 0, _, _ => failure
  | count + 1, branches, items => do
    skipBlanks
    match Sign.of (← peek?) with
    | .stop => return choice branches items
    | .bar =>
      skip
      body count (sequence items :: branches) []
    | .parenthesis => body count branches ((← group (body count [] [])) :: items)
    | .bracket => body count branches ((← charClass) :: items)
    | .repetition => body count branches (← repeatLast items)
    | .other => body count branches ({ pattern := ← primitive, depth := 0 } :: items)

end Reader

/-- The largest depth to which patterns may be nested. -/
def maximalDepth : Nat := 250

/-- Reads a whole text as a pattern, however large it is. -/
def read? (text : String) : Option Reading := do
  let cs := text.toList
  let (reading, state) ← (Reader.body (cs.length + 1) [] []).run { rest := cs, length := cs.length }
  if state.rest.isEmpty then return reading else none

/-- Reads a pattern. -/
def parse? (text : String) : Option Pattern := do
  let reading ← read? text
  if reading.depth ≤ maximalDepth ∧ reading.pattern.isMachineSized then
    return reading.pattern else none

/-- The pattern that matches the texts that a pattern facet describes from the first to the last
character. The text of the facet is put into a group between assertions of the ends before it is
read. -/
def ofFacet? (facet : String) : Option Pattern := parse? ("^(?:" ++ facet ++ ")$")

end Pattern

end SchemaBinding
