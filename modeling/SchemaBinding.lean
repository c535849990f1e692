import SchemaBinding.Binding.Builtin
import SchemaBinding.Binding.Simple
import SchemaBinding.Binding.Type
import SchemaBinding.Binding.Wire
import SchemaBinding.CommandLine.Arguments
import SchemaBinding.CommandLine.Machine
import SchemaBinding.CommandLine.Location
import SchemaBinding.CommandLine.Run
import SchemaBinding.Generator.Client
import SchemaBinding.Generator.Definition
import SchemaBinding.Generator.Denotation
import SchemaBinding.Generator.Naming
import SchemaBinding.Generator.Registry
import SchemaBinding.Generator.Rendering
import SchemaBinding.Generator.Selection
import SchemaBinding.Generator.Source
import SchemaBinding.Keyed
import SchemaBinding.Main
import SchemaBinding.Pattern.Basic
import SchemaBinding.Pattern.CharSet
import SchemaBinding.Pattern.Encoding
import SchemaBinding.Pattern.Machine
import SchemaBinding.Pattern.Normal
import SchemaBinding.Pattern.Property
import SchemaBinding.Pattern.Syntax
import SchemaBinding.Proofs.Binding.Chain
import SchemaBinding.Proofs.Binding.Decoding
import SchemaBinding.Proofs.Binding.Denotation
import SchemaBinding.Proofs.Binding.Enumeration
import SchemaBinding.Proofs.Binding.Ladder
import SchemaBinding.Proofs.Binding.Literal
import SchemaBinding.Proofs.Binding.Marshalling
import SchemaBinding.Proofs.Binding.Native
import SchemaBinding.Proofs.Binding.Numeral
import SchemaBinding.Proofs.Binding.Strings
import SchemaBinding.Proofs.Calendar.Days
import SchemaBinding.Proofs.Calendar.Instant
import SchemaBinding.Proofs.Calendar.Reading
import SchemaBinding.Proofs.Calendar.Stamp
import SchemaBinding.Proofs.Calendar.Timezone
import SchemaBinding.Proofs.Calendar.Written
import SchemaBinding.Proofs.Client.Building
import SchemaBinding.Proofs.Client.Faithful
import SchemaBinding.Proofs.Client.Named
import SchemaBinding.Proofs.Client.Records
import SchemaBinding.Proofs.Client.Shadowing
import SchemaBinding.Proofs.CommandLine.Writing
import SchemaBinding.Proofs.Content.Captured
import SchemaBinding.Proofs.Content.Written
import SchemaBinding.Proofs.Duration.Carry
import SchemaBinding.Proofs.Duration.Components
import SchemaBinding.Proofs.Duration.Grammar
import SchemaBinding.Proofs.Duration.Normal
import SchemaBinding.Proofs.Duration.Order
import SchemaBinding.Proofs.Duration.Written
import SchemaBinding.Proofs.Loading.Adoption
import SchemaBinding.Proofs.Loading.Including
import SchemaBinding.Proofs.Loading.Inclusions
import SchemaBinding.Proofs.Loading.Inherited
import SchemaBinding.Proofs.Loading.Inline
import SchemaBinding.Proofs.Loading.Once
import SchemaBinding.Proofs.Loading.Result
import SchemaBinding.Proofs.Loading.Roots
import SchemaBinding.Proofs.Loading.Sites
import SchemaBinding.Proofs.Loading.Steps
import SchemaBinding.Proofs.Naming.Derived
import SchemaBinding.Proofs.Naming.Fresh
import SchemaBinding.Proofs.Pattern.Alike
import SchemaBinding.Proofs.Pattern.AlikeBody
import SchemaBinding.Proofs.Pattern.AlikeClass
import SchemaBinding.Proofs.Pattern.AlikeEscape
import SchemaBinding.Proofs.Pattern.CharSet
import SchemaBinding.Proofs.Pattern.Frame
import SchemaBinding.Proofs.Pattern.Name
import SchemaBinding.Proofs.Pattern.Spans
import SchemaBinding.Proofs.Pattern.WholeValue
import SchemaBinding.Proofs.Registry.Content
import SchemaBinding.Proofs.Registry.Counterpart
import SchemaBinding.Proofs.Registry.Cycles
import SchemaBinding.Proofs.Registry.Growth
import SchemaBinding.Proofs.Registry.Interruption
import SchemaBinding.Proofs.Registry.Invariant
import SchemaBinding.Proofs.Registry.Judgement
import SchemaBinding.Proofs.Registry.Origin
import SchemaBinding.Proofs.Registry.Recursion
import SchemaBinding.Proofs.Registry.Selection
import SchemaBinding.Proofs.Registry.Session
import SchemaBinding.Proofs.Registry.Success
import SchemaBinding.Proofs.Rendering.Declared
import SchemaBinding.Proofs.Rendering.Distinct
import SchemaBinding.Proofs.Rendering.Identifier
import SchemaBinding.Proofs.Rendering.Runtime
import SchemaBinding.Proofs.Text.Category
import SchemaBinding.Proofs.Value.Canonical
import SchemaBinding.Proofs.Value.Collapse
import SchemaBinding.Proofs.Value.Equality
import SchemaBinding.Proofs.Value.Number
import SchemaBinding.Proofs.Value.Quotient
import SchemaBinding.Proofs.Value.Rounding
import SchemaBinding.Proofs.Value.Whitespace
import SchemaBinding.Remaining
import SchemaBinding.Schema.Attribute
import SchemaBinding.Schema.Declaration
import SchemaBinding.Schema.Error
import SchemaBinding.Schema.Loading
import SchemaBinding.Schema.Reading
import SchemaBinding.Service.Description
import SchemaBinding.Service.Exchange
import SchemaBinding.Text.Age
import SchemaBinding.Text.Blank
import SchemaBinding.Text.Break
import SchemaBinding.Text.Bytes
import SchemaBinding.Text.Category
import SchemaBinding.Text.LetterCase
import SchemaBinding.Text.Numeral
import SchemaBinding.Text.Property
import SchemaBinding.Text.Quoted
import SchemaBinding.Text.Runs
import SchemaBinding.Text.Script
import SchemaBinding.Value.Binary
import SchemaBinding.Value.Calendar
import SchemaBinding.Value.Decimal
import SchemaBinding.Value.Duration
import SchemaBinding.Value.Facet
import SchemaBinding.Value.Reason
import SchemaBinding.Value.Space
import SchemaBinding.Value.Whitespace
import SchemaBinding.Xml.Document
import SchemaBinding.Xml.Lexical
import SchemaBinding.Xml.Markup
import SchemaBinding.Xml.Tree
