import SchemaBinding.Keyed
import SchemaBinding.Text.Numeral
import SchemaBinding.Xml.Markup

/-!
# Structured content

Source: `SPEC_FULL.md`, 3 (`max_occurs`) and 4.3; `builtins/wire` (`record`,
`from_node`, `get`), `builtins/xml` (`write_content`) and the bounds of
`builtins/complex`.

What a value looks like apart from its type: nothing, a text, a list or a record
of named fields. Content is captured from elements, and written as elements. In
a record a list stands for several elements with the name of the field, and an
absent field for none. How many there may be is bounded above, or not at all.
-/

namespace SchemaBinding

/-- Structured content. -/
inductive Wire where
  | null
  | text (text : String)
  | list (items : List Wire)
  | record (fields : List (String × Wire))
  deriving Inhabited

/-- The upper bound of a number of elements. -/
inductive MaxOccurs where
  | count (n : Nat)
  | unbounded
  deriving DecidableEq, Repr, Inhabited

namespace MaxOccurs

/-- Whether a number of elements keeps to the bound. -/
def allows : MaxOccurs → Nat → Bool
  | .count most, n => n ≤ most
  | .unbounded, _ => true

/-- The bound as text. -/
def print : MaxOccurs → String
  | .count n => String.ofList (Text.digits n)
  | .unbounded => "unbounded"

/-- Whether the bound is one, so that a value stands for itself and not in a list. -/
def isSingle (bound : MaxOccurs) : Bool := bound == .count 1

end MaxOccurs

/-- A field of a structured type: its name, how often it occurs, and what is declared besides. -/
structure Field where
  name : String
  min : Nat
  max : MaxOccurs
  nillable : Bool := false
  default : Option String := none
  deriving DecidableEq, Repr

namespace Wire

/-! ## Parts of content -/

/-- The text that content is, if it is one. -/
def text? : Wire → Option String
  | .text s => some s
  | _ => none

/-- The content of a field, if the content is a record that has it. -/
def get? (content : Wire) (name : String) : Option Wire :=
  match content with
  | .record fields => Keyed.get? fields name
  | _ => none

mutual

/-- Whether two contents are equal. The order of fields does not count. -/
def equal : Wire → Wire → Bool
  | .null, .null => true
  | .text a, .text b => a == b
  | .list a, .list b => equalItems a b
  | .record a, .record b => a.length == b.length && equalFields a b
  | _, _ => false

/-- Whether two lists have equal items in the same order. -/
def equalItems : List Wire → List Wire → Bool
  | [], [] => true
  | a :: as, b :: bs => a.equal b && equalItems as bs
  | _, _ => false

/-- Whether every field occurs with equal content among others. -/
def equalFields : List (String × Wire) → List (String × Wire) → Bool
  | [], _ => true
  | (name, a) :: rest, others =>
    (match Keyed.get? others name with
      | some b => a.equal b
      | none => false) && equalFields rest others

end

/-! ## Building records -/

/-- The content of a field with the given values: the last value, or nothing, if it occurs at most
once, and the list of all values otherwise. -/
def ofValues (field : Field) (values : List Wire) : Wire :=
  if field.max.isSingle then values.getLast?.getD .null else .list values

/-- The record of fields with their values. -/
def ofFields (fields : List Field) (values : List (List Wire)) : Wire :=
  .record (Keyed.ofList ((fields.zip values).map fun entry =>
    (entry.1.name, ofValues entry.1 entry.2)))

/-- The arguments of a message: the content of a single part, or the record of several. -/
def ofParts : List (String × Wire) → Wire
  | [(_, content)] => content
  | parts => .record (Keyed.ofList parts)

/-! ## Capturing elements -/

/-- Adds the content of a child to the fields of a record. A second child with a name makes a list
of the two, and further ones are added to it. -/
def addChild (fields : List (String × Wire)) (name : String) (content : Wire) :
    List (String × Wire) :=
  match Keyed.get? fields name with
  | none => Keyed.put fields name content
  | some (.list items) => Keyed.put fields name (.list (items ++ [content]))
  | some first => Keyed.put fields name (.list [first, content])

mutual

/-- The content of an element: its text if it has no child elements, or else the record of its
children. -/
def capture : Xml.Element → Wire
  | .mk name attributes scope content =>
    match captureAll content with
    | [] => .text (Xml.Element.textContent (.mk name attributes scope content))
    | children => .record (children.foldl (fun fields child => addChild fields child.1 child.2) [])

/-- The local names and contents of the elements among pieces of content. -/
def captureAll : List Xml.Content → List (String × Wire)
  | [] => []
  | .element e :: rest => (e.localName, capture e) :: captureAll rest
  | .text _ :: rest => captureAll rest
  | .comment _ :: rest => captureAll rest
  | .instruction _ _ :: rest => captureAll rest

end

/-! ## Writing elements -/

mutual

/-- The element with a name that is written for content. A list by itself becomes an element with an
`item` for each of its items. -/
def markup (name : String) (declared : Option String) : Wire → Xml.Markup
  | .null => .empty name declared
  | .text s => .element name declared [.text s]
  | .list items => .element name declared (itemMarkup "item" items)
  | .record fields => .element name declared (fieldMarkup fields)

/-- An element with the given name for each item. -/
def itemMarkup (name : String) : List Wire → List Xml.Markup
  | [] => []
  | item :: rest => item.markup name none :: itemMarkup name rest

/-- The elements for the fields of a record: none for an absent one, several for a list, and one for
any other. -/
def fieldMarkup : List (String × Wire) → List Xml.Markup
  | [] => []
  | (_, .null) :: rest => fieldMarkup rest
  | (name, .list items) :: rest => itemMarkup name items ++ fieldMarkup rest
  | (name, .text s) :: rest => Wire.markup name none (.text s) :: fieldMarkup rest
  | (name, .record fields) :: rest => Wire.markup name none (.record fields) :: fieldMarkup rest

end

end Wire

end SchemaBinding
