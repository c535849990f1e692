import SchemaBinding.Xml.Tree

/-!
# Written documents

Source: `SPEC_FULL.md`, 10.7; `builtins/xml` (`to_xml`, `write_content`), with
the rules of the library that writes documents.

What is written: elements with a name, possibly the declaration of a default
namespace, and content. Printing gives the text, `Markup.denoted` the element
that the text stands for.
-/

namespace SchemaBinding.Xml

/-- An element or text to be written. An element without content is one tag, an element with empty
content two. -/
inductive Markup where
  | empty (name : String) (declared : Option String)
  | element (name : String) (declared : Option String) (content : List Markup)
  | text (text : String)
  deriving Inhabited

/-- How a character is written in text and attribute values. -/
def escapedChar : Char → List Char
  | '<' => "&lt;".toList
  | '>' => "&gt;".toList
  | '&' => "&amp;".toList
  | '\'' => "&apos;".toList
  | '"' => "&quot;".toList
  | c => [c]

/-- Text with the characters of markup replaced by references. -/
def escaped (s : String) : String := String.ofList (s.toList.flatMap escapedChar)

namespace Markup

/-- The beginning of a start tag: the name and the declaration of the default namespace. -/
def opening (name : String) (declared : Option String) : String :=
  match declared with
  | none => "<" ++ name
  | some namespaceName => "<" ++ name ++ " xmlns=\"" ++ escaped namespaceName ++ "\""

mutual

/-- The text of an element or a text. -/
def print : Markup → String
  | .empty name declared => opening name declared ++ "/>"
  | .element name declared content =>
    opening name declared ++ ">" ++ printAll content ++ "</" ++ name ++ ">"
  | .text s => escaped s

/-- The text of a sequence of elements and texts. -/
def printAll : List Markup → String
  | [] => ""
  | m :: rest => m.print ++ printAll rest

end

/-- The scope inside an element that may declare a default namespace. -/
def innerScope (scope : Scope) : Option String → Scope
  | none => scope
  | some namespaceName => (none, namespaceName) :: scope.filter fun binding => binding.1 ≠ none

/-- The name that an unprefixed element has in a scope. -/
def unprefixed (scope : Scope) (name : String) : Name :=
  ⟨(scope.find? fun binding => binding.1 = none).map (·.2), name⟩

mutual

/-- The content that written markup stands for in a scope. -/
def denoted (scope : Scope) : Markup → Content
  | .empty name declared =>
    .element (.mk (unprefixed (innerScope scope declared) name) [] (innerScope scope declared) [])
  | .element name declared content =>
    .element (.mk (unprefixed (innerScope scope declared) name) [] (innerScope scope declared)
      (denotedAll (innerScope scope declared) content))
  | .text s => .text s

/-- The content that a sequence of markup stands for. Empty text leaves no trace. -/
def denotedAll (scope : Scope) : List Markup → List Content
  | [] => []
  | .text s :: rest => if s.isEmpty then denotedAll scope rest else .text s :: denotedAll scope rest
  | .empty name declared :: rest => denoted scope (.empty name declared) :: denotedAll scope rest
  | .element name declared content :: rest =>
    denoted scope (.element name declared content) :: denotedAll scope rest

end

end Markup

end SchemaBinding.Xml
