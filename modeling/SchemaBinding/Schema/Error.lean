import SchemaBinding.Checked
import SchemaBinding.Text.Quoted
import SchemaBinding.Text.Numeral
import SchemaBinding.Xml.Document

/-!
# What can be wrong with documents

Source: `SPEC_FULL.md`, 7 and 10.2; `xsd/error` and the causes of `xsd/import`.

The causes for which a document cannot be fetched, an imported document cannot
be used, or a schema or a service description cannot be read.
-/

namespace SchemaBinding

/-- Why a document cannot be fetched. -/
inductive FetchError where
  | notFound (location : String)
  /-- The file cannot be read. -/
  | unreadable (location : String)
  /-- The request over the network fails. -/
  | request
  deriving DecidableEq, Repr

/-- The message that tells why a document cannot be fetched. -/
def FetchError.message : FetchError → String
  | .notFound location => location ++ " is neither a URL nor an existing file"
  | .unreadable location => "failed to read " ++ location
  | .request => "HTTP request failed"

/-- Why an imported or included document cannot be used. -/
inductive ImportError where
  | missingLocation (namespaceName? : Option String)
  | fetch (location : String) (cause : FetchError)
  | malformed (location : String)
  deriving DecidableEq, Repr

/-- The message that tells why an imported document cannot be used. -/
def ImportError.message : ImportError → String
  | .missingLocation namespaceName? =>
    "import of namespace " ++ optional namespaceName? ++ " has no schemaLocation"
  | .fetch location _ => "import of " ++ location ++ " failed"
  | .malformed location => "imported document " ++ location ++ " is not well-formed XML"
where
  /-- A quoted text that may be missing. -/
  optional : Option String → String
    | none => "None"
    | some s => "Some(" ++ Text.quoted s ++ ")"

/-- Why a schema or a service description cannot be read. -/
inductive SchemaError where
  | unresolvedPrefix (qualifier : String)
  | unsupportedNode (name : String)
  | missingAttribute (element attributeName : String)
  | missingChild (element child : String)
  | malformedRestriction (facet : String)
  | invalidAttribute (attributeName value : String)
  | invalidOccurs (element : String) (min max : Nat)
  | emptyMessage (name : String)
  | conflictingPart (name : String)
  | missingPartType (name : String)
  | unexpectedRoot (expected found : String)
  | importing (cause : ImportError)
  | fetching (cause : FetchError)
  | malformed (cause : Xml.Malformed)

/-- The message that tells why a schema or a service description cannot be read. -/
def SchemaError.message : SchemaError → String
  | .unresolvedPrefix qualifier =>
    "Failed to resolve prefix " ++ Text.quoted qualifier ++ " to a namespace URI"
  | .unsupportedNode name => "Unsupported node <" ++ name ++ ">"
  | .missingAttribute element name =>
    "<" ++ element ++ "> is missing the required attribute " ++ Text.quoted name
  | .missingChild element child => "<" ++ element ++ "> requires a <" ++ child ++ "> child"
  | .malformedRestriction facet => "Unsupported restriction: <" ++ facet ++ ">"
  | .invalidAttribute name value =>
    "Invalid value " ++ Text.quoted value ++ " for attribute " ++ Text.quoted name
  | .invalidOccurs element min max =>
    "Element " ++ Text.quoted element ++ " has maxOccurs " ++ toString max ++
      " lower than minOccurs " ++ toString min
  | .emptyMessage name => "Message " ++ Text.quoted name ++ " has no parts"
  | .conflictingPart name =>
    "Part " ++ Text.quoted name ++ ": attributes type and element are mutually exclusive"
  | .missingPartType name =>
    "Part " ++ Text.quoted name ++ " declares neither a type nor an element"
  | .unexpectedRoot expected found =>
    "Expected a <" ++ expected ++ "> document, found <" ++ found ++ ">"
  | .importing _ => "schema import failed"
  | .fetching _ => "failed to load document"
  | .malformed _ => "document is not well-formed XML"

end SchemaBinding
