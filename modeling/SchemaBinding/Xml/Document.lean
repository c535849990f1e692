import SchemaBinding.Xml.Tree
import SchemaBinding.Xml.Lexical

/-!
# From texts to document trees

Source: `SPEC_FULL.md`, 1 (the host library for documents), 10.4 (`allow_dtd`)
and 10.7, with the rules of the library that `xsd/import` (`parse`) and
`builtins/xml` (`from_xml`) use.

A document is an optional declaration, an optional document type, and one
element among comments, processing instructions and white space. Reading it
replaces references, joins character data, normalizes line ends and attribute
values, and resolves namespaces. Entities declared in the document type are
replaced by the content they stand for, up to a fixed depth and number. This
content need not be balanced: it may open elements that end later, end elements
after one of its own tags, and break off within a tag, whose attributes then
belong to the tag that follows.
-/

namespace SchemaBinding.Xml

/-- The namespace to which the prefix `xml` is bound. -/
def xmlNamespace : String := "http://www.w3.org/XML/1998/namespace"

/-- The namespace of namespace declarations. -/
def xmlnsNamespace : String := "http://www.w3.org/2000/xmlns/"

/-- The entities that a document type declares, in order; the first declaration of a name counts. -/
abbrev Entities := List (String × List Char)

/-! ## References -/

/-- A piece of raw character data: a character as written, a character given by a reference, or a
reference to an entity. -/
inductive Piece where
  | literal (c : Char)
  | character (c : Char)
  | entity (name : String)
  deriving DecidableEq, Repr

/-- The digits of a numeral in base sixteen. -/
def hexValue? (cs : List Char) : Option Nat :=
  if cs.isEmpty then none
  else
    cs.foldl (fun acc c => do
      let n ← acc
      let d ← if c.isDigit then some (c.toNat - 48)
        else if 'a' ≤ c ∧ c ≤ 'f' then some (c.toNat - 87)
        else if 'A' ≤ c ∧ c ≤ 'F' then some (c.toNat - 55)
        else none
      return 16 * n + d) (some 0)

/-- The digits of a numeral in base ten. -/
def decimalValue? (cs : List Char) : Option Nat :=
  if !cs.isEmpty && cs.all Char.isDigit then some (Nat.ofDigitChars 10 cs 0) else none

/-- The character that a numeric reference denotes. Numbers that are no characters denote the
replacement character, numbers beyond 32 bits and forbidden characters nothing. -/
def referencedCharacter? (number : Option Nat) : Option Char := do
  let n ← number
  if n < 0x100000000 then
    let c := if n.isValidChar then Char.ofNat n else '\uFFFD'
    if isAllowed c then some c else none
  else none

/-- What the text between an ampersand and a semicolon refers to. -/
def referencedPiece? : List Char → Option Piece
  | '#' :: 'x' :: ds => (referencedCharacter? (hexValue? ds)).map .character
  | '#' :: ds => (referencedCharacter? (decimalValue? ds)).map .character
  | [] => none
  | c :: cs =>
    if isNameStart c && cs.all isNameChar then
      some (match String.ofList (c :: cs) with
        | "quot" => .character '"'
        | "amp" => .character '&'
        | "apos" => .character '\''
        | "lt" => .character '<'
        | "gt" => .character '>'
        | name => .entity name)
    else none

/-- The pieces of raw character data. `open?` is the reference being read, backwards. -/
def piecesFrom (open? : Option (List Char)) : List Char → Except Malformed (List Piece)
  | [] => if open?.isSome then .error .malformedReference else .ok []
  | c :: rest =>
    match open? with
    | none =>
      if c = '&' then piecesFrom (some []) rest
      else do return .literal c :: (← piecesFrom none rest)
    | some read =>
      if c = ';' then
        match referencedPiece? read.reverse with
        | some piece => do return piece :: (← piecesFrom none rest)
        | none => .error .malformedReference
      else piecesFrom (some (c :: read)) rest

/-- The pieces of raw character data. -/
def pieces (raw : List Char) : Except Malformed (List Piece) := piecesFrom none raw

/-- How many entities may be open at once. -/
def maximalDepth : Nat := 10

/-- How many references may occur inside the replacement of one reference. -/
def maximalReferences : Nat := 255

/-- Counts a reference at a depth: those outside all entities are free. -/
def countReference (depth used : Nat) : Except Malformed Nat :=
  if depth = 0 then .ok 0
  else if depth ≥ maximalDepth ∨ used ≥ maximalReferences then .error .entityLoop
  else .ok (used + 1)

/-- The replacement text of an entity. -/
def entityText (entities : Entities) (name : String) : Except Malformed (List Char) :=
  match entities.lookup name with
  | some text => .ok text
  | none => .error (.unknownEntity name)

/-! ## Attribute values -/

/-- Adds the normalized pieces of an attribute value to `out`, which holds the value read so far
backwards: white space becomes a space, a carriage return before a line feed is dropped, and
characters given by references outside entities stay as they are. `fuel` is the number of entities
that may still be opened, and `replace` adds what an entity stands for. -/
def normalizePieces (fuel : Nat)
    (replace : String → List Char × Nat → Except Malformed (List Char × Nat))
    (used : Nat) (out : List Char) : List Piece → Except Malformed (List Char × Nat)
  | [] => .ok (out, used)
  | .literal c :: rest =>
    if c = '\r' ∧ rest.head? = some (.literal '\n') then
      normalizePieces fuel replace used out rest
    else normalizePieces fuel replace used ((if isSpace c then ' ' else c) :: out) rest
  | .character c :: rest =>
    if fuel = maximalDepth then normalizePieces fuel replace used (c :: out) rest
    else if c = '<' then .error .markupInAttribute
    else normalizePieces fuel replace used ((if isSpace c then ' ' else c) :: out) rest
  | .entity name :: rest => do
    let (out, used) ← replace name (out, used)
    normalizePieces fuel replace used out rest

/-- Adds what an entity stands for to the value of an attribute. `fuel` is the number of entities
that may still be opened, this one among them. -/
def replaceInValue (entities : Entities) :
    (fuel : Nat) → String → List Char × Nat → Except Malformed (List Char × Nat)
  | 0, _, _ => .error .entityLoop
  | fuel + 1, name, (out, used) => do
    let used ← countReference (maximalDepth - (fuel + 1)) used
    let inner ← pieces (← entityText entities name)
    normalizePieces fuel (replaceInValue entities fuel) used out inner

/-! ## Namespaces -/

/-- What the attributes of a start tag declare and carry: the namespace bindings in order, and the
other attributes with their normalized values. -/
structure Declared where
  bindings : Scope := []
  others : List (PrefixedName × String) := []

/-- Adds an attribute: a namespace declaration to the bindings, any other to the attributes. A
prefix is declared once only. Of several default namespaces the first one counts. -/
def Declared.add (declared : Declared) (name : PrefixedName) (value : String) :
    Except Malformed Declared :=
  let declare (boundPrefix : Option String) : Declared :=
    { declared with bindings := declared.bindings ++ [(boundPrefix, value)] }
  if name.qualifier = "xmlns" then
    if value = xmlnsNamespace then .error (.reservedNamespace value)
    else if name.localName = "xml" then
      if value = xmlNamespace then .ok declared else .error (.reservedPrefix "xml")
    else if value = xmlNamespace then .error (.reservedNamespace value)
    else if declared.bindings.any (·.1 = some name.localName) then
      .error (.repeatedNamespace name.localName)
    else .ok (declare (some name.localName))
  else if name.localName = "xmlns" then
    if value = xmlNamespace ∨ value = xmlnsNamespace then .error (.reservedNamespace value)
    else .ok (declare none)
  else .ok { declared with others := declared.others ++ [(name, value)] }

/-- The scope inside an element: its own bindings hide those of its parent. -/
def nestedScope (own parent : Scope) : Scope :=
  own ++ parent.filter fun binding => !own.any (·.1 = binding.1)

/-- The expanded name of an element. -/
def elementName (scope : Scope) (name : PrefixedName) : Except Malformed Name :=
  let boundPrefix := if name.qualifier.isEmpty then none else some name.qualifier
  match scope.find? (·.1 = boundPrefix), boundPrefix with
  | some binding, _ => .ok ⟨some binding.2, name.localName⟩
  | none, none => .ok ⟨none, name.localName⟩
  | none, some p => .error (.unknownPrefix p)

/-- The expanded name of an attribute: without a prefix it is in no namespace. -/
def attributeName (scope : Scope) (name : PrefixedName) : Except Malformed Name :=
  if name.qualifier.isEmpty then .ok ⟨none, name.localName⟩
  else if name.qualifier = "xml" then .ok ⟨some xmlNamespace, name.localName⟩
  else
    match scope.find? (·.1 = some name.qualifier) with
    | some binding => .ok ⟨some binding.2, name.localName⟩
    | none => .error (.unknownPrefix name.qualifier)

/-- The attributes with expanded names, no two of them the same. -/
def attributesOf (scope : Scope) : List (PrefixedName × String) → Except Malformed (List Attribute)
  | [] => .ok []
  | (name, value) :: rest => do
    let expanded ← attributeName scope name
    let others ← attributesOf scope rest
    if others.any (·.name = expanded) then .error (.repeatedAttribute expanded.localName)
    else .ok (⟨expanded, value⟩ :: others)

/-! ## Building the tree -/

/-- An element whose end tag has not been read; its content is kept backwards. -/
structure OpenElement where
  tag : PrefixedName
  name : Name
  attributes : List Attribute
  scope : Scope
  content : List Content

/-- What has been read: the open elements, innermost first, the closed roots backwards, the
attributes of a tag that broke off, whether more text belongs to the text read last, and the number
of references counted inside the entity being replaced. -/
structure Progress where
  stack : List OpenElement := []
  roots : List Element := []
  pending : Declared := {}
  inText : Bool := false
  used : Nat := 0

namespace Progress

/-- The namespaces in scope. -/
def scope (progress : Progress) : Scope := (progress.stack.head?.map (·.scope)).getD []

/-- Adds a piece of content to the innermost open element. Outside all elements only elements leave
a trace. -/
def add (progress : Progress) (piece : Content) : Progress :=
  let inText := piece.text?.isSome
  match progress.stack with
  | [] =>
    match piece with
    | .element e => { progress with roots := e :: progress.roots, inText }
    | _ => { progress with inText }
  | top :: below =>
    let content :=
      match progress.inText, piece, top.content with
      | true, .text new, .text old :: rest => .text (old ++ new) :: rest
      | _, piece, content => piece :: content
    { progress with stack := { top with content } :: below, inText }

/-- Opens an element, which takes the pending attributes, and closes it at once if its tag does. A
tag that breaks off leaves its attributes pending. -/
def openElement (progress : Progress) (tag : PrefixedName) (ending : TagEnd) :
    Except Malformed Progress := do
  let progress := { progress with inText := false }
  if tag.qualifier = "xmlns" then throw (.reservedPrefix "xmlns")
  if ending = .missing then return progress
  let scope := nestedScope progress.pending.bindings progress.scope
  let attributes ← attributesOf scope progress.pending.others
  let name ← elementName scope tag
  let progress := { progress with pending := {} }
  if ending = .closed then return progress.add (.element (.mk name attributes scope []))
  else return { progress with stack := ⟨tag, name, attributes, scope, []⟩ :: progress.stack }

/-- Closes the innermost element when `tag` is its name. Pending attributes end here. -/
def close (progress : Progress) (tag : PrefixedName) : Except Malformed Progress := do
  discard (attributesOf (nestedScope progress.pending.bindings progress.scope)
    progress.pending.others)
  match progress.stack with
  | top :: below =>
    if top.tag = tag then
      let element : Element := .mk top.name top.attributes top.scope top.content.reverse
      return { progress with stack := below, pending := {} }.add (.element element)
    else throw (.unexpectedCloseTag tag.localName)
  | [] => throw (.unexpectedCloseTag tag.localName)

end Progress

/-- Adds a character to text, kept backwards, so that line ends become line feeds. -/
def pushText (out : List Char) (c : Char) (last : Bool) : List Char :=
  match out with
  | '\r' :: out =>
    if last && c == '\r' then '\n' :: '\n' :: out else if c = '\n' then '\n' :: out else c ::
      '\n' :: out
  | _ => if last && c == '\r' then '\n' :: out else c :: out

/-- Text with its line ends normalized, added backwards to `out`. -/
def normalizeLines (out : List Char) : List Char → List Char
  | [] => out
  | c :: rest => normalizeLines (pushText out c rest.isEmpty) rest

/-- Adds text kept backwards to the content, if there is any. -/
def flush (progress : Progress) (out : List Char) : Progress :=
  if out.isEmpty then progress else progress.add (.text (String.ofList out.reverse))

/-- Normalizes the values of attributes and adds them to the pending ones. -/
def declare (entities : Entities) (fuel : Nat) (progress : Progress) :
    List RawAttribute → Except Malformed Progress
  | [] => .ok progress
  | raw :: rest => do
    let (value, used) ←
      normalizePieces fuel (replaceInValue entities fuel) progress.used [] (← pieces raw.value)
    let pending ← progress.pending.add raw.name (String.ofList value.reverse)
    declare entities fuel { progress with pending, used } rest

/-- Reads the pieces of character data. `out` holds the text read so far, backwards; `verbatim`
tells that the last character was given by a reference outside entities, after which one character
stays as it is. `fuel` is the number of entities that may still be opened, and `replace` reads what
an entity stands for. -/
def readPieces (fuel : Nat) (replace : String → Progress → Except Malformed Progress)
    (progress : Progress) (out : List Char) (verbatim : Bool) :
    List Piece → Except Malformed Progress
  | [] => .ok (flush progress out)
  | .literal c :: rest =>
    if verbatim then readPieces fuel replace progress (c :: out) false rest
    else readPieces fuel replace progress (pushText out c rest.isEmpty) false rest
  | .character c :: rest =>
    if fuel = maximalDepth then readPieces fuel replace progress (c :: out) true rest
    else readPieces fuel replace progress (pushText out c rest.isEmpty) verbatim rest
  | .entity name :: rest => do
    readPieces fuel replace (← replace name (flush progress out)) [] false rest

/-- Reads tokens into the tree. `fuel` and `replace` are as for pieces, and `tagSeen` tells that a
start tag came before among the tokens, without which there is no end tag. -/
def readTokens (entities : Entities) (fuel : Nat)
    (replace : String → Progress → Except Malformed Progress) (tagSeen : Bool)
    (progress : Progress) : List Token → Except Malformed Progress
  | [] => .ok progress
  | .startTag tag attributes ending :: rest => do
    let progress ← declare entities fuel progress attributes
    readTokens entities fuel replace true (← progress.openElement tag ending) rest
  | .endTag tag :: rest => do
    if !tagSeen then throw (.unexpectedCloseTag tag.localName)
    readTokens entities fuel replace tagSeen (← progress.close tag) rest
  | .text raw :: rest => do
    let progress ← readPieces fuel replace progress [] false (← pieces raw)
    readTokens entities fuel replace tagSeen progress rest
  | .cdata text :: rest =>
    readTokens entities fuel replace tagSeen
      (progress.add (.text (String.ofList (normalizeLines [] text).reverse))) rest
  | .comment text :: rest =>
    readTokens entities fuel replace tagSeen (progress.add (.comment (String.ofList text))) rest
  | .instruction target value :: rest =>
    readTokens entities fuel replace tagSeen (progress.add (.instruction target value)) rest

/-- Reads the content that an entity stands for into the tree. `fuel` is the number of entities that
may still be opened, this one among them. -/
def replaceInContent (entities : Entities) :
    (fuel : Nat) → String → Progress → Except Malformed Progress
  | 0, _, _ => .error .entityLoop
  | fuel + 1, name, progress => do
    let text ← entityText entities name
    let used ← countReference (maximalDepth - (fuel + 1)) progress.used
    let (inner, _) ← tokens 1 text
    readTokens entities fuel (replaceInContent entities fuel) false { progress with used } inner

/-! ## Declarations before the root -/

namespace Reader

/-- White space, comments and processing instructions. `count` bounds their number. -/
def miscellaneous : (count : Nat) → Reader Unit
  | 0 => return
  | count + 1 => do
    skipSpaces
    if ← startsWith "<!--" then
      discard comment
      miscellaneous count
    else if ← startsWith "<?" then
      discard instruction
      miscellaneous count

/-- Between the parts of an XML declaration: white space, unless the declaration ends. -/
def declarationGap : Reader Unit := do
  match ← get with
  | [] => return
  | c :: _ =>
    if isSpace c then skipSpaces
    else unless ← startsWith "?>" do throw (.unexpected c)

/-- The declaration with which a document may begin. -/
def xmlDeclaration : Reader Unit := do
  skip 5
  declarationGap
  unless ← startsWith "version" do throw .misplacedDeclaration
  discard rawAttribute
  declarationGap
  if ← startsWith "encoding" then
    discard rawAttribute
    declarationGap
  if ← startsWith "standalone" then discard rawAttribute
  skipSpaces
  string "?>"

/-- A literal between quotes whose characters have no meaning. -/
def quotedLiteral : Reader (List Char) := do
  let q ← quote
  let cs ← get
  set (cs.dropWhile (· ≠ q))
  char q
  return cs.takeWhile (· ≠ q)

/-- A reference to something outside the document; nothing is read from there. Tells whether there
was one. -/
def externalId : Reader Bool := do
  let isPublic ← startsWith "PUBLIC"
  if isPublic || (← startsWith "SYSTEM") then
    skip 6
    spaces
    discard quotedLiteral
    if isPublic then
      spaces
      discard quotedLiteral
    return true
  else return false

/-- The declaration of an entity. One whose text is outside the document declares nothing. -/
def entityDeclaration : Reader Entities := do
  skip 8
  spaces
  let parameter := (← peek) = '%'
  if parameter then
    skip 1
    spaces
  let declared ← name
  spaces
  let definition ←
    match ← peek with
    | '"' | '\'' => do pure [(declared, ← quotedLiteral)]
    | c =>
      if ← externalId then
        unless parameter do
          skipSpaces
          if ← startsWith "NDATA" then
            skip 5
            spaces
            discard name
        pure []
      else throw (.unexpected c)
  skipSpaces
  char '>'
  return definition

/-- The declarations between the brackets of a document type, to the end of the document type.
`count` bounds their number. -/
def internalSubset : (count : Nat) → Entities → Reader Entities
  | 0, entities => return entities
  | count + 1, entities => do
    if (← get).isEmpty then return entities
    skipSpaces
    if ← startsWith "<!ENTITY" then internalSubset count (entities ++ (← entityDeclaration))
    else if ← startsWith "<!--" then
      discard comment
      internalSubset count entities
    else if ← startsWith "<?" then
      discard instruction
      internalSubset count entities
    else if ← startsWith "]" then
      skip 1
      skipSpaces
      char '>'
      return entities
    else if (← startsWith "<!ELEMENT") || (← startsWith "<!ATTLIST") ||
      (← startsWith "<!NOTATION") then
      modify (·.dropWhile (· ≠ '>'))
      char '>'
      internalSubset count entities
    else throw .unsupportedDeclaration

/-- The document type, from its opening on. -/
def documentType : Reader Entities := do
  skip 9
  spaces
  discard name
  skipSpaces
  discard externalId
  skipSpaces
  match ← peek with
  | '>' =>
    skip 1
    return []
  | '[' =>
    skip 1
    internalSubset ((← get).length + 1) []
  | c => throw (.unexpected c)

/-- Everything before the root element. -/
def prolog (allowDocumentType : Bool) : Reader Entities := do
  if ← startsWith "\uFEFF" then skip 1
  if ← startsWith "<?xml " then xmlDeclaration
  let count := (← get).length + 1
  miscellaneous count
  skipSpaces
  if ← startsWith "<!DOCTYPE" then
    unless allowDocumentType do throw .documentType
    let entities ← documentType
    miscellaneous count
    skipSpaces
    return entities
  else return []

end Reader

/-- The tokens of the root element, and what comes after it. -/
def rootTokens (cs : List Char) : Except Malformed (List Token × List Char) := do
  unless cs.head? = some '<' do throw .missingRoot
  let (root, rest) ← Reader.startTag.run cs
  let (inner, rest) ← tokens (root.depthAfter 0) rest
  return (root :: inner, rest)

/-- The root element of a document. A document type is an error unless it is allowed. -/
def parseDocument (allowDocumentType : Bool) (text : String) : Except Malformed Element := do
  let (entities, rest) ← (Reader.prolog allowDocumentType).run text.toList
  let (tokens, rest) ← rootTokens rest
  let progress ← readTokens entities maximalDepth (replaceInContent entities maximalDepth) false {}
    tokens
  let ((), rest) ← (Reader.miscellaneous (rest.length + 1)).run rest
  unless rest.isEmpty do throw .contentAfterRoot
  unless progress.stack.isEmpty do throw .unclosedElement
  match progress.roots.getLast? with
  | some root => return root
  | none => throw .missingRoot

end SchemaBinding.Xml
