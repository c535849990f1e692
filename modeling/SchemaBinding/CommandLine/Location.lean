/-!
# Locations of documents

Source: `SPEC_FULL.md`, 6 (content retrieval) and 10.5; `xsd/import` (`fetch` of
the fetcher for locations), with the rules of the address library.

A location is an address on the network, the address of a file, or a path. It is
an address when it has a scheme and, where the scheme demands one, a host; what
is no address is a path.
-/

namespace SchemaBinding.CommandLine

/-- Where a document is looked for. -/
inductive Location where
  /-- An address on the network. -/
  | network
  /-- The absolute path of a file. -/
  | file (path : String)
  /-- A path, from the root or from the working folder, or anything else. -/
  | path (path : String)
  deriving DecidableEq, Repr

namespace Location

/-- What counts of an address: nothing around it, and no tabs or line ends. -/
def cleaned (cs : List Char) : List Char :=
  let trimmed := ((cs.dropWhile (·.toNat ≤ 0x20)).reverse.dropWhile (·.toNat ≤ 0x20)).reverse
  trimmed.filter fun c => c != '\t' && c != '\n' && c != '\r'

/-- Splits an address into its scheme, in small letters, and the rest. -/
def splitScheme? (cs : List Char) : Option (String × List Char) :=
  let isSchemeChar := fun c : Char => c.isAlphanum || c == '+' || c == '-' || c == '.'
  match cs.takeWhile isSchemeChar, cs.dropWhile isSchemeChar with
  | c :: scheme, ':' :: rest =>
    if c.isAlpha then some (String.ofList ((c :: scheme).map Char.toLower), rest) else none
  | _, _ => none

/-- Whether a character is a slash of either kind. -/
def isSlash (c : Char) : Bool := c == '/' || c == '\\'

/-- The host and port of an address, without the name of a user. -/
def authority (cs : List Char) : List Char :=
  let full := cs.takeWhile fun c => !isSlash c && c != '?' && c != '#'
  if full.contains '@' then (full.reverse.takeWhile (· ≠ '@')).reverse else full

/-- Whether a character may not stand in the name of a host. -/
def isForbidden (c : Char) : Bool :=
  c.toNat ≤ 0x20 || c.toNat == 0x7F || "#/:<>?@[\\]^|%".toList.contains c

/-- Whether the text after a host is nothing or a port. -/
def isPort (cs : List Char) : Bool :=
  match cs with
  | [] => true
  | ':' :: ds => ds.all Char.isDigit && (ds.foldl (fun n d => 10 * n + (d.toNat - 48)) 0) < 65536
  | _ => false

/-- A numeral in base sixteen, eight or ten, told apart by how it begins. -/
def addressNumber? (cs : List Char) : Option Nat :=
  let numeral (base : Nat) (ds : List Char) : Option Nat :=
    ds.foldl (fun n? c => do
      let d ← if c.isDigit then some (c.toNat - 48)
        else if 'a' ≤ c.toLower ∧ c.toLower ≤ 'f' then some (c.toLower.toNat - 87)
        else none
      if d < base then return base * (← n?) + d else none) (some 0)
  match cs with
  | [] => none
  | '0' :: 'x' :: ds | '0' :: 'X' :: ds => numeral 16 ds
  | '0' :: d :: ds => numeral 8 (d :: ds)
  | ds => numeral 10 ds

/-- The parts of a text between separators. -/
def splitOn (separator : Char) : List Char → List (List Char)
  | [] => [[]]
  | c :: rest =>
    match splitOn separator rest with
    | [] => [[c]]
    | part :: parts => if c = separator then [] :: part :: parts else (c :: part) :: parts

/-- Whether a host whose last part is a number is an address of four bytes, the last of which stands
for those that are missing. -/
def isNumeric (parts : List (List Char)) : Bool :=
  match (parts.mapM addressNumber?).map List.reverse with
  | some (last :: others) =>
    others.length ≤ 3 && others.all (· < 256) && last < Nat.pow 256 (4 - others.length)
  | _ => false

/-- How many groups of two bytes a part of a long address stands for. Its last group may be written
as four bytes. -/
def countGroups? (isLast : Bool) (cs : List Char) : Option Nat :=
  if cs.isEmpty then some 0
  else
    let groups := splitOn ':' cs
    let isHex := fun c : Char => c.isDigit || ('a' ≤ c.toLower && c.toLower ≤ 'f')
    let isGroup := fun g : List Char => 0 < g.length && g.length ≤ 4 && g.all isHex
    let isByte := fun b : List Char =>
      !b.isEmpty && b.length ≤ 3 && b.all Char.isDigit && (b.length == 1 || b.head? != some '0') &&
        (addressNumber? b).any (· < 256)
    match groups.reverse with
    | last :: others =>
      if !others.all isGroup then none
      else if isGroup last then some groups.length
      else
        let bytes := splitOn '.' last
        if isLast && bytes.length == 4 && bytes.all isByte then some (groups.length + 1) else none
    | [] => none

/-- Whether a host in square brackets is an address of eight groups, some of which may be left out
once. -/
def isBracketed (cs : List Char) : Bool :=
  match gap [] cs with
  | none => countGroups? true cs == some 8
  | some (left, right) =>
    match countGroups? false left, countGroups? true right with
    | some n, some m => n + m < 8
    | _, _ => false
where
  /-- The parts before and after the first two colons in a row. `before` is in reverse order. -/
  gap (before : List Char) : List Char → Option (List Char × List Char)
    | ':' :: ':' :: rest => some (before.reverse, rest)
    | c :: rest => gap (c :: before) rest
    | [] => none

/-- A host with the escapes of single bytes replaced by what they stand for. Bytes beyond ASCII
count as characters beyond ASCII. -/
def unescaped : List Char → List Char
  | '%' :: a :: b :: rest =>
    match addressNumber? ['0', 'x', a, b] with
    | some n => Char.ofNat n :: unescaped rest
    | none => '%' :: unescaped (a :: b :: rest)
  | c :: rest => c :: unescaped rest
  | [] => []

/-- Whether a host is a name or an address of four bytes. -/
def isName (cs : List Char) : Bool :=
  let parts := splitOn '.' cs
  let parts := if 1 < parts.length && parts.getLast? == some [] then parts.dropLast else parts
  let endsInNumber := parts.getLast?.any fun last =>
    (!last.isEmpty && last.all Char.isDigit) || (addressNumber? last).isSome
  !cs.isEmpty && !cs.any isForbidden && (!endsInNumber || isNumeric parts)

/-- Whether a text is a host with or without a port. -/
def isHost (cs : List Char) : Bool :=
  match cs with
  | '[' :: rest =>
    match rest.dropWhile (· ≠ ']') with
    | ']' :: port => isBracketed (rest.takeWhile (· ≠ ']')) && isPort port
    | _ => false
  | _ => isName (unescaped (cs.takeWhile (· ≠ ':'))) && isPort (cs.dropWhile (· ≠ ':'))

/-- The bytes of an address, with the escapes of single bytes replaced by what they stand for. -/
def unescapedBytes : List Char → List UInt8
  | '%' :: a :: b :: rest =>
    match addressNumber? ['0', 'x', a, b] with
    | some n => n.toUInt8 :: unescapedBytes rest
    | none => String.utf8EncodeChar '%' ++ unescapedBytes (a :: b :: rest)
  | c :: rest => String.utf8EncodeChar c ++ unescapedBytes rest
  | [] => []

/-- Takes out the names of a path that stand for the folder that has been reached, and those that
stand for the one above it with the name before. Such a name at the end leaves a folder. `before` is
in reverse order. -/
def withoutPoints (before : List String) : List String → List String
  | [] => before.reverse
  | name :: rest =>
    let after := if rest.isEmpty then [""] else []
    if name = "." then withoutPoints (after ++ before) rest
    else if name = ".." then withoutPoints (after ++ before.tail) rest
    else withoutPoints (name :: before) rest

/-- The file that the address of a file names, given from its path on: what is asked of the file
does not count. A path whose bytes are no text names no file. -/
def ofFilePath (cs : List Char) : Location :=
  let path := cs.takeWhile fun c => c != '?' && c != '#'
  let names := splitOn '/' ((path.dropWhile isSlash).map fun c => if isSlash c then '/' else c)
  match names.mapM fun name => String.fromUTF8? ⟨(unescapedBytes name).toArray⟩ with
  | some names => .file ("/" ++ "/".intercalate (withoutPoints [] names))
  | none => .file "/"

/-- The location that a text stands for. -/
def ofText (text : String) : Location :=
  match splitScheme? (cleaned text.toList) with
  | some ("http", rest) | some ("https", rest) =>
    if isHost (authority (rest.dropWhile isSlash)) then .network else .path text
  | some ("file", rest) =>
    match rest with
    | a :: b :: after =>
      if isSlash a && isSlash b then
        let host := after.takeWhile fun c => !isSlash c && c != '?' && c != '#'
        if host.isEmpty || (unescaped host).map Char.toLower == "localhost".toList then
          ofFilePath (after.drop host.length)
        else .path text
      else ofFilePath rest
    | _ => ofFilePath rest
  | _ => .path text

end Location

end SchemaBinding.CommandLine
