import SchemaBinding.Pattern.CharSet
import SchemaBinding.Text.Age
import SchemaBinding.Text.Break
import SchemaBinding.Text.Script

/-!
# Properties named in patterns

Source: The properties of the expression library that `builtins/restriction`
(`pattern_matches`) relies on; `SPEC_FULL.md`, 4.3.

A property is named by a general category, a script or a binary property, or by
a kind of property and a value of it. Case, blanks, hyphens, underscores and a
leading `is` do not count in names.
-/

namespace SchemaBinding.CharSet

/-- Whether a name begins with `is`, in any case. -/
def beginsWithIs : List Char → Bool
  | i :: s :: _ => i.toLower == 'i' && s.toLower == 's'
  | _ => false

/-- What counts of a name. The abbreviation `isc` keeps its beginning. -/
def looseName (name : List Char) : String :=
  let begins := beginsWithIs name
  let rest := if begins then name.drop 2 else name
  let kept := (rest.filter fun c => c != ' ' && c != '_' && c != '-' && c.toNat < 128).map
    Char.toLower
  if begins && kept == ['c'] then "isc" else String.ofList kept

/-- The set of characters in general categories with a name. Three names are no categories but
sets. -/
def categorySet? (name : String) : Option CharSet :=
  match name with
  | "any" => some all
  | "ascii" => some ⟨[(0, 0x7F)]⟩
  | "assigned" => some (ofCategories [.unassigned]).complement
  | _ => (Text.categoriesNamed? name).map ofCategories

/-- The set of the characters of a script. -/
def ofScript (script : Text.Script) : CharSet := ⟨Text.spans script.runs⟩

/-- The set of the characters that are used with a script. -/
def ofScriptExtensions (script : Text.Script) : CharSet :=
  (ofScript script).symmetricDifference ⟨Text.spans script.extensionChanges⟩

/-- The set that a single name stands for: a binary property, a general category or a script. Three
names that are also short for other properties are categories. -/
def named? (name : List Char) : Option CharSet :=
  let loose := looseName name
  let property :=
    if loose = "cf" ∨ loose = "sc" ∨ loose = "lc" then
      none else (Text.binaryProperty? loose).map ofMembership
  (property.or (categorySet? loose)).or ((Text.script? loose).map ofScript)

/-- The set that a value of a kind of property stands for. An age is that of the characters assigned
by then. -/
def namedValue? (kind value : List Char) : Option CharSet :=
  let value := looseName value
  match looseName kind with
  | "gc" | "generalcategory" => categorySet? value
  | "sc" | "script" => (Text.script? value).map ofScript
  | "scx" | "scriptextensions" => (Text.script? value).map ofScriptExtensions
  | "age" => (Text.agesUpTo? value).map fun ages => unionAll (ages.map fun runs =>
    ⟨Text.spans runs⟩)
  | "gcb" | "graphemeclusterbreak" => (Text.named? Text.graphemeBreaks value).map ofMembership
  | "wb" | "wordbreak" => (Text.named? Text.wordBreaks value).map ofMembership
  | "sb" | "sentencebreak" => (Text.named? Text.sentenceBreaks value).map ofMembership
  | _ => none

end SchemaBinding.CharSet
