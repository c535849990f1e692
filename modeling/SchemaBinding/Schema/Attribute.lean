import SchemaBinding.Binding.Wire
import SchemaBinding.Schema.Error
import SchemaBinding.Text.Blank

/-!
# Values of attributes

Source: `SPEC_FULL.md`, 4.1 and 6 (tree access); `xsd/values` (`convert`,
`attribute_value`), `xsd/xml` (`required_attribute`) and `xsd/xstypes`
(`parse`).

Attributes of schemas hold names, truth values and numbers. Names are resolved
by the namespaces in scope. White space around a value does not count.
-/

namespace SchemaBinding

/-- A name as text: its namespace in braces, if it has one, and its local part. -/
def Xml.Name.print (name : Xml.Name) : String :=
  match name.namespaceName? with
  | none => name.localName
  | some namespaceName => "\x7b" ++ namespaceName ++ "\x7d" ++ name.localName

namespace Schema

/-- Splits a text at its last colon. -/
def splitLastColon? (cs : List Char) : Option (List Char × List Char) :=
  if cs.contains ':' then
    let after := cs.reverse.takeWhile (· ≠ ':')
    some (cs.take (cs.length - after.length - 1), after.reverse)
  else none

/-- The namespace of a prefix at an element. The prefix `xml` is bound everywhere. -/
def resolvePrefix (e : Xml.Element) (qualifier : String) : Except SchemaError String :=
  if qualifier = "xml" then .ok Xml.xmlNamespace
  else
    match e.lookupNamespace? (some qualifier) with
    | some namespaceName => .ok namespaceName
    | none => .error (.unresolvedPrefix qualifier)

/-- Resolves a name at an element. One without a prefix is in the default namespace, if there is
one. -/
def resolveName (e : Xml.Element) (source : String) : Except SchemaError Xml.Name :=
  match splitLastColon? source.toList with
  | none => .ok ⟨e.lookupNamespace? none, source⟩
  | some (qualifier, name) => do
    let namespaceName ← resolvePrefix e (String.ofList qualifier)
    return ⟨some namespaceName, String.ofList name⟩

/-- The value of an attribute that has to be there. -/
def requiredValue (e : Xml.Element) (name : String) : Except SchemaError String :=
  match e.valueOf? name with
  | some value => .ok value
  | none => .error (.missingAttribute e.localName name)

theorem valueOf?_of_requiredValue {e : Xml.Element} {name value : String}
    (h : requiredValue e name = .ok value) :
    e.valueOf? name = some value := by
  unfold requiredValue at h
  split at h
  · next found => rw [found, Except.ok.inj h]
  · cases h

/-- The name that is the value of an attribute, if it is there. -/
def nameValue? (e : Xml.Element) (name : String) : Except SchemaError (Option Xml.Name) :=
  match e.valueOf? name with
  | none => .ok none
  | some value => (resolveName e (Text.trim value)).map some

theorem valueOf?_of_nameValue? {e : Xml.Element} {name : String}
    (h : nameValue? e name = .ok none) :
    e.valueOf? name = none := by
  unfold nameValue? at h
  split at h
  · assumption
  · obtain ⟨_, _, h⟩ := map_eq_ok_iff.1 h
    cases h

/-- The truth value of an attribute, false if it is not there. -/
def truthValue (e : Xml.Element) (name : String) : Except SchemaError Bool :=
  match e.valueOf? name with
  | none => .ok false
  | some value =>
    let trimmed := Text.trim value
    if trimmed = "true" ∨ trimmed = "1" then .ok true
    else if trimmed = "false" ∨ trimmed = "0" then .ok false
    else .error (.invalidAttribute name value)

/-- Numbers of occurrences are at most this large. -/
def occursBound : Nat := 0xFFFFFFFF

/-- The number in an attribute, one if it is not there. -/
def countValue (e : Xml.Element) (name : String) : Except SchemaError Nat :=
  match e.valueOf? name with
  | none => .ok 1
  | some value =>
    match Text.naturalUpTo? occursBound (Text.trim value).toList with
    | some n => .ok n
    | none => .error (.invalidAttribute name value)

/-- The upper bound in an attribute, one if it is not there. -/
def boundValue (e : Xml.Element) (name : String) : Except SchemaError MaxOccurs :=
  match e.valueOf? name with
  | none => .ok (.count 1)
  | some value =>
    let trimmed := Text.trim value
    if trimmed = "unbounded" then .ok .unbounded
    else
      match Text.naturalUpTo? occursBound trimmed.toList with
      | some n => .ok (.count n)
      | none => .error (.invalidAttribute name trimmed)

end Schema

end SchemaBinding
