/-!
# Document trees

Source: `SPEC_FULL.md`, 6 (tree access); `xsd/xml` (`is`, `children`, `find`,
`find_path`, `findall`) and `builtins/xml` (`text_content`, `is_nil`).

An element has an expanded name, attributes, the namespaces in scope and its
content: elements, text, comments and processing instructions. Text that is
not interrupted by markup is one piece. The module also holds the questions
that readers of schemas and messages ask of a tree.
-/

namespace SchemaBinding.Xml

/-- An expanded name. An empty namespace name is a namespace name like any other. -/
structure Name where
  namespaceName? : Option String
  localName : String
  deriving DecidableEq, Repr, Inhabited

/-- An attribute with its normalized value. -/
structure Attribute where
  name : Name
  value : String
  deriving DecidableEq, Repr, Inhabited

/-- The namespaces in scope: prefixes, or none for the default namespace, with their namespace
names. The first entry of a prefix counts. -/
abbrev Scope := List (Option String × String)

mutual

/-- An element. -/
inductive Element where
  | mk (name : Name) (attributes : List Attribute) (scope : Scope) (content : List Content)

/-- A piece of the content of an element. -/
inductive Content where
  | element (element : Element)
  | text (text : String)
  | comment (text : String)
  | instruction (target : String) (value : Option String)

end

instance : Inhabited Element := ⟨.mk default [] [] []⟩

mutual

/-- Whether two elements are the same. -/
def Element.decEq : (e e' : Element) → Decidable (e = e')
  | .mk name attributes scope content, .mk name' attributes' scope' content' =>
    have := Content.decEqAll content content'
    decidable_of_decidable_of_iff (Iff.of_eq
      (Element.mk.injEq name attributes scope content name' attributes' scope' content').symm)

/-- Whether two pieces of content are the same. -/
def Content.decEq : (c c' : Content) → Decidable (c = c')
  | .element e, .element e' =>
    have := e.decEq e'
    decidable_of_decidable_of_iff (Iff.of_eq (Content.element.injEq e e').symm)
  | .text s, .text s' => decidable_of_decidable_of_iff (Iff.of_eq (Content.text.injEq s s').symm)
  | .comment s, .comment s' =>
    decidable_of_decidable_of_iff (Iff.of_eq (Content.comment.injEq s s').symm)
  | .instruction target value, .instruction target' value' =>
    decidable_of_decidable_of_iff
      (Iff.of_eq (Content.instruction.injEq target value target' value').symm)
  | .element _, .text _ | .element _, .comment _ | .element _, .instruction _ _
  | .text _, .element _ | .text _, .comment _ | .text _, .instruction _ _
  | .comment _, .element _ | .comment _, .text _ | .comment _, .instruction _ _
  | .instruction _ _, .element _ | .instruction _ _, .text _ | .instruction _ _, .comment _ =>
    isFalse nofun

/-- Whether two contents are the same. -/
def Content.decEqAll : (content content' : List Content) → Decidable (content = content')
  | [], [] => isTrue rfl
  | [], _ :: _ | _ :: _, [] => isFalse nofun
  | c :: rest, c' :: rest' =>
    have := c.decEq c'
    have := Content.decEqAll rest rest'
    decidable_of_decidable_of_iff (Iff.of_eq (List.cons.injEq c rest c' rest').symm)

end

instance : DecidableEq Element := Element.decEq

instance : DecidableEq Content := Content.decEq

namespace Content

/-- The element that a piece of content is, if it is one. -/
def element? : Content → Option Element
  | .element e => some e
  | _ => none

/-- The text that a piece of content is, if it is one. -/
def text? : Content → Option String
  | .text s => some s
  | _ => none

end Content

namespace Element

/-- The name of an element. -/
def name : Element → Name
  | .mk name _ _ _ => name

/-- The attributes of an element, in document order. -/
def attributes : Element → List Attribute
  | .mk _ attributes _ _ => attributes

/-- The namespaces in scope at an element. -/
def scope : Element → Scope
  | .mk _ _ scope _ => scope

/-- The content of an element. -/
def content : Element → List Content
  | .mk _ _ _ content => content

/-- The local part of the name of an element. -/
def localName (e : Element) : String := e.name.localName

/-- The element children, in document order. -/
def children (e : Element) : List Element := e.content.filterMap Content.element?

/-- The value of the attribute with an expanded name. -/
def valueNamed? (e : Element) (name : Name) : Option String :=
  (e.attributes.find? fun a => a.name = name).map (·.value)

/-- The value of an attribute that is in no namespace. -/
def valueOf? (e : Element) (localName : String) : Option String :=
  e.valueNamed? ⟨none, localName⟩

/-- Whether an element has the given namespace and local name. -/
def isNamed (e : Element) (namespaceName localName : String) : Bool :=
  e.localName == localName && e.name.namespaceName? == some namespaceName

theorem isNamed_iff {e : Element} {namespaceName localName : String} :
    e.isNamed namespaceName localName = true ↔
      e.name.namespaceName? = some namespaceName ∧ e.localName = localName := by
  rw [isNamed, Bool.and_eq_true, beq_iff_eq, beq_iff_eq, and_comm]

/-- The first child with a name. -/
def find? (e : Element) (namespaceName localName : String) : Option Element :=
  e.children.find? (·.isNamed namespaceName localName)

/-- The children with a name, in document order. -/
def findAll (e : Element) (namespaceName localName : String) : List Element :=
  e.children.filter (·.isNamed namespaceName localName)

/-- Follows names from child to child, taking the first match at each step. -/
def findPath? (e : Element) : List (String × String) → Option Element
  | [] => some e
  | (namespaceName, localName) :: path => (e.find? namespaceName localName).bind (·.findPath? path)

/-- The text with which the content of an element begins, if it begins with text. -/
def leadingText? (e : Element) : Option String :=
  e.content.head?.bind Content.text?

/-- The character data directly inside an element: comments, instructions and child elements are
passed over. -/
def textContent (e : Element) : String :=
  String.join (e.content.filterMap Content.text?)

/-- The namespace bound to a prefix, or with `none` the default namespace, at an element. -/
def lookupNamespace? (e : Element) (boundPrefix : Option String) : Option String :=
  (e.scope.find? fun binding => binding.1 = boundPrefix).map (·.2)

end Element

mutual

/-- An element and all elements below it, in document order. -/
def Element.descendants : Element → List Element
  | .mk name attributes scope content =>
    .mk name attributes scope content :: contentDescendants content

/-- The elements among pieces of content and below them, in document order. -/
def contentDescendants : List Content → List Element
  | [] => []
  | .element e :: rest => e.descendants ++ contentDescendants rest
  | .text _ :: rest => contentDescendants rest
  | .comment _ :: rest => contentDescendants rest
  | .instruction _ _ :: rest => contentDescendants rest

end

end SchemaBinding.Xml
