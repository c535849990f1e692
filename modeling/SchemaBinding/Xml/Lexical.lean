/-!
# The characters and the tokens of documents

Source: `SPEC_FULL.md`, 1 and 10.7: the rules of the library that `xsd/import`
(`parse`) and `builtins/xml` (`from_xml`) use.

The character classes of XML 1.0, and the reading of markup into tokens: tags
with their raw attribute values, character data with its references still in
place, comments and processing instructions. Tokens say nothing about the names
of nested tags, namespaces or the meaning of references.
-/

namespace SchemaBinding.Xml

/-- Why a text is no well-formed document. -/
inductive Malformed where
  | unexpectedEnd
  | unexpected (found : Char)
  | forbiddenCharacter (c : Char)
  | invalidName
  | invalidComment
  | misplacedDeclaration
  | cdataEndInText
  | unsupportedDeclaration
  | documentType
  | malformedReference
  | unknownEntity (name : String)
  | entityLoop
  | markupInAttribute
  | reservedPrefix (name : String)
  | reservedNamespace (uri : String)
  | repeatedNamespace (boundPrefix : String)
  | unknownPrefix (name : String)
  | repeatedAttribute (name : String)
  | unexpectedCloseTag (name : String)
  | unclosedElement
  | missingRoot
  | contentAfterRoot
  deriving DecidableEq, Repr

/-- White space of markup. -/
def isSpace (c : Char) : Bool := c == ' ' || c == '\t' || c == '\n' || c == '\r'

/-- Whether a document may contain a character. -/
def isAllowed (c : Char) : Bool :=
  let n := c.toNat
  if n < 0x20 then isSpace c else n != 0xFFFE && n != 0xFFFF

/-- Whether a code point lies in one of the ranges. -/
def inRanges (ranges : List (Nat × Nat)) (n : Nat) : Bool :=
  ranges.any fun (low, high) => low ≤ n && n ≤ high

/-- Beyond ASCII, the characters with which a name may start. -/
def nameStartRanges : List (Nat × Nat) :=
  [(0xC0, 0xD6), (0xD8, 0xF6), (0xF8, 0x2FF), (0x370, 0x37D), (0x37F, 0x1FFF), (0x200C, 0x200D),
   (0x2070, 0x218F), (0x2C00, 0x2FEF), (0x3001, 0xD7FF), (0xF900, 0xFDCF), (0xFDF0, 0xFFFD),
   (0x10000, 0xEFFFF)]

/-- Whether a name may start with a character. -/
def isNameStart (c : Char) : Bool :=
  c.isAlpha || c == '_' || c == ':' || inRanges nameStartRanges c.toNat

/-- Whether a name may contain a character after its first. -/
def isNameChar (c : Char) : Bool :=
  isNameStart c || c.isDigit || c == '-' || c == '.' || c.toNat == 0xB7 ||
    inRanges [(0x300, 0x36F), (0x203F, 0x2040)] c.toNat

/-- A name with the part before its colon, which is empty when there is none. -/
structure PrefixedName where
  qualifier : String
  localName : String
  deriving DecidableEq, Repr, Inhabited

/-- An attribute as written, its value between the quotes. -/
structure RawAttribute where
  name : PrefixedName
  value : List Char
  deriving DecidableEq, Repr, Inhabited

/-- What comes after the attributes of a start tag. -/
inductive TagEnd where
  /-- The content of the element. -/
  | content
  /-- Nothing: the element is empty. -/
  | closed
  /-- The end of the text, which breaks off within the tag. -/
  | missing
  deriving DecidableEq, Repr, Inhabited

/-- A token of content. -/
inductive Token where
  | startTag (name : PrefixedName) (attributes : List RawAttribute) (ending : TagEnd)
  | endTag (name : PrefixedName)
  | text (raw : List Char)
  | cdata (text : List Char)
  | comment (text : List Char)
  | instruction (target : String) (value : Option String)
  deriving DecidableEq, Repr, Inhabited

/-- Reads something from the front of the characters that are left. -/
abbrev Reader := StateT (List Char) (Except Malformed)

namespace Reader

/-- Whether the rest starts with the characters of `s`. -/
def startsWith (s : String) : Reader Bool := do
  return s.toList.isPrefixOf (← get)

/-- Passes over `n` characters. -/
def skip (n : Nat) : Reader Unit := modify (·.drop n)

/-- Passes over white space. -/
def skipSpaces : Reader Unit := modify (·.dropWhile isSpace)

/-- The next character, which stays. -/
def peek : Reader Char := do
  match ← get with
  | c :: _ => return c
  | [] => throw .unexpectedEnd

/-- Passes over the character `c`, which has to come next. -/
def char (c : Char) : Reader Unit := do
  let found ← peek
  if found = c then skip 1 else throw (.unexpected found)

/-- Passes over the characters of `s`, which have to come next. -/
def string (s : String) : Reader Unit := do
  if ← startsWith s then skip s.length
  else
    match ← get with
    | c :: _ => throw (.unexpected c)
    | [] => throw .unexpectedEnd

/-- Passes over white space, of which there has to be some. -/
def spaces : Reader Unit := do
  let c ← peek
  if isSpace c then skipSpaces else throw (.unexpected c)

/-- The characters up to the first place where `stop` holds of the rest, all of them allowed in
documents. -/
def untilFrom (stop : List Char → Bool) (taken : List Char) :
    List Char → Except Malformed (List Char × List Char)
  | [] => .ok (taken.reverse, [])
  | c :: rest =>
    if stop (c :: rest) then .ok (taken.reverse, c :: rest)
    else if isAllowed c then untilFrom stop (c :: taken) rest
    else .error (.forbiddenCharacter c)

/-- Takes the allowed characters up to the first place where `stop` holds of the rest, or to the
end. -/
def takeUntil (stop : List Char → Bool) : Reader (List Char) := do
  let (taken, rest) ← untilFrom stop [] (← get)
  set rest
  return taken

/-- Takes the characters before the first `end`, and passes over `end`, which has to be there. -/
def takeBefore (ending : String) : Reader (List Char) := do
  let taken ← takeUntil ending.toList.isPrefixOf
  string ending
  return taken

/-- A quote that opens a literal. -/
def quote : Reader Char := do
  let c ← peek
  if c = '\'' ∨ c = '"' then
    skip 1
    return c
  else throw (.unexpected c)

/-- A name, in which colons are characters like others. -/
def name : Reader String := do
  match ← get with
  | c :: rest =>
    if isNameStart c then
      set (rest.dropWhile isNameChar)
      return String.ofList (c :: rest.takeWhile isNameChar)
    else throw .invalidName
  | [] => throw .invalidName

/-- A name with at most one colon, each of whose parts is a name; the part before the colon may be
missing. -/
def prefixedName : Reader PrefixedName := do
  let cs ← get
  let word := cs.takeWhile isNameChar
  set (cs.dropWhile isNameChar)
  let (qualifier, localName) :=
    if word.contains ':' then
      (word.takeWhile (· ≠ ':'), (word.dropWhile (· ≠ ':')).drop 1) else ([], word)
  let startsWell := match qualifier with | [] => true | c :: _ => isNameStart c
  match localName with
  | [] => throw .invalidName
  | c :: _ =>
    if startsWell && isNameStart c && !localName.contains ':' then
      return ⟨String.ofList qualifier, String.ofList localName⟩
    else throw .invalidName

/-- An equals sign with white space around it. -/
def equalsSign : Reader Unit := do
  skipSpaces
  char '='
  skipSpaces

/-- An attribute. Its value holds no opening angle bracket. -/
def rawAttribute : Reader RawAttribute := do
  let name ← prefixedName
  equalsSign
  let q ← quote
  let value ← takeUntil fun rest => match rest with | c :: _ => c == q || c == '<' | [] => true
  char q
  return ⟨name, value⟩

/-- A comment, from its opening on. -/
def comment : Reader Token := do
  skip 4
  let text ← takeBefore "-->"
  if text.getLast? = some '-' ∨ hasDashes text then throw .invalidComment
  return .comment text
where
  /-- Whether two dashes follow each other. -/
  hasDashes : List Char → Bool
    | '-' :: '-' :: _ => true
    | _ :: rest => hasDashes rest
    | [] => false

/-- A processing instruction, from its opening on. -/
def instruction : Reader Token := do
  if ← startsWith "<?xml " then throw .misplacedDeclaration
  skip 2
  let target ← name
  skipSpaces
  let value ← takeBefore "?>"
  return .instruction target (if value.isEmpty then none else some (String.ofList value))

/-- A section of character data in which markup has no meaning, from its opening on. -/
def cdata : Reader Token := do
  skip 9
  return .cdata (← takeBefore "]]>")

/-- An end tag, from its opening on. -/
def endTag : Reader Token := do
  skip 2
  let name ← prefixedName
  skipSpaces
  char '>'
  return .endTag name

/-- What follows the name of a start tag: attributes, each after white space, and the end of the tag
or of the text. `count` bounds their number. -/
def attributesAndEnd : (count : Nat) → List RawAttribute → Reader (List RawAttribute × TagEnd)
  | 0, _ => throw .unexpectedEnd
  | count + 1, read => do
    let some first := (← get).head? | return (read.reverse, .missing)
    skipSpaces
    match ← peek with
    | '/' =>
      skip 1
      char '>'
      return (read.reverse, .closed)
    | '>' =>
      skip 1
      return (read.reverse, .content)
    | c =>
      if isSpace first then attributesAndEnd count ((← rawAttribute) :: read)
      else throw (.unexpected c)

/-- A start tag, from its opening on. -/
def startTag : Reader Token := do
  skip 1
  let name ← prefixedName
  let (attributes, ending) ← attributesAndEnd ((← get).length + 1) []
  return .startTag name attributes ending

/-- Character data up to the next markup. -/
def text : Reader Token := do
  let raw ← takeUntil fun rest => match rest with | c :: _ => c == '<' | [] => true
  if endsCdata raw then throw .cdataEndInText
  return .text raw
where
  /-- Whether the end of a section of character data occurs. -/
  endsCdata : List Char → Bool
    | ']' :: ']' :: '>' :: _ => true
    | _ :: rest => endsCdata rest
    | [] => false

/-- The next token of content. -/
def token : Reader Token := do
  match ← get with
  | '<' :: '!' :: _ =>
    if ← startsWith "<!--" then comment
    else if ← startsWith "<![CDATA[" then cdata
    else throw .unsupportedDeclaration
  | '<' :: '?' :: _ => instruction
  | '<' :: '/' :: _ => endTag
  | '<' :: _ => startTag
  | _ => text

end Reader

/-- How many elements are open after a token, when `depth` were open before it. -/
def Token.depthAfter (depth : Nat) : Token → Nat
  | .startTag _ _ .content => depth + 1
  | .endTag _ => depth - 1
  | _ => depth

/-- The tokens inside `depth` open elements, up to the end tag of the outermost one or to the end of
the text, and what comes after them. -/
def tokens (depth : Nat) (cs : List Char) : Except Malformed (List Token × List Char) :=
  if depth = 0 ∨ cs.isEmpty then .ok ([], cs)
  else do
    let (token, rest) ← Reader.token.run cs
    if rest.length < cs.length then
      let (more, rest) ← tokens (token.depthAfter depth) rest
      return (token :: more, rest)
    else throw .unexpectedEnd
termination_by cs.length

end SchemaBinding.Xml
