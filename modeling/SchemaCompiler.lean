import SchemaCompiler.Blake3
import SchemaCompiler.Code
import SchemaCompiler.CommandLine.Arguments
import SchemaCompiler.CommandLine.Host
import SchemaCompiler.CommandLine.Layout
import SchemaCompiler.CommandLine.Palette
import SchemaCompiler.CommandLine.Run
import SchemaCompiler.Compilation
import SchemaCompiler.Document.Basic
import SchemaCompiler.Document.Reader
import SchemaCompiler.Error
import SchemaCompiler.Format
import SchemaCompiler.Format.Address
import SchemaCompiler.Format.Calendar
import SchemaCompiler.Format.Check
import SchemaCompiler.Format.Domain
import SchemaCompiler.Format.Email
import SchemaCompiler.Format.Punycode
import SchemaCompiler.Format.Url
import SchemaCompiler.Format.Uuid
import SchemaCompiler.Json.Canonical
import SchemaCompiler.Json.Decoder
import SchemaCompiler.Json.Number
import SchemaCompiler.Json.Pointer
import SchemaCompiler.Json.Reader
import SchemaCompiler.Json.Source
import SchemaCompiler.Json.Value
import SchemaCompiler.Loading
import SchemaCompiler.Main
import SchemaCompiler.MediaType
import SchemaCompiler.Naming
import SchemaCompiler.Number.Double
import SchemaCompiler.Number.Shortest
import SchemaCompiler.Output.Generation
import SchemaCompiler.Output.Header
import SchemaCompiler.Output.Modules
import SchemaCompiler.PathTemplate
import SchemaCompiler.Pattern.Basic
import SchemaCompiler.Pattern.Brackets
import SchemaCompiler.Pattern.Escape
import SchemaCompiler.Pattern.Fault
import SchemaCompiler.Pattern.Modes
import SchemaCompiler.Pattern.Reader
import SchemaCompiler.Pattern.Scan
import SchemaCompiler.Pattern.Tree
import SchemaCompiler.Proofs.Except
import SchemaCompiler.Proofs.Json.NormalForm
import SchemaCompiler.Proofs.Json.Text
import SchemaCompiler.Proofs.List
import SchemaCompiler.Proofs.Naming
import SchemaCompiler.Proofs.Number.Layout
import SchemaCompiler.Proofs.Number.Readback
import SchemaCompiler.Proofs.Number.Render
import SchemaCompiler.Proofs.ReferenceGraph
import SchemaCompiler.Proofs.Resolution.Adding
import SchemaCompiler.Proofs.Resolution.Deduplication
import SchemaCompiler.Proofs.Resolution.Merging
import SchemaCompiler.Proofs.Resolution.Order
import SchemaCompiler.Proofs.Resolution.Success
import SchemaCompiler.Proofs.Schema.Canonical
import SchemaCompiler.Proofs.Schema.NormalForm
import SchemaCompiler.Proofs.Schema.Place
import SchemaCompiler.Proofs.Schema.Reference
import SchemaCompiler.Proofs.Schema.Renaming
import SchemaCompiler.Proofs.Schema.Twin
import SchemaCompiler.Proofs.Table
import SchemaCompiler.Proofs.Validator.Basic
import SchemaCompiler.Proofs.Validator.Checks
import SchemaCompiler.Proofs.Validator.Correspondence
import SchemaCompiler.Proofs.Validator.Deduplication
import SchemaCompiler.Proofs.Validator.Derivation
import SchemaCompiler.Proofs.Validator.Selection
import SchemaCompiler.Proofs.Validator.Tags
import SchemaCompiler.ReferenceGraph
import SchemaCompiler.Registry
import SchemaCompiler.Resolution
import SchemaCompiler.RoundTrip
import SchemaCompiler.Route.Basic
import SchemaCompiler.Route.Link
import SchemaCompiler.Route.Plan
import SchemaCompiler.Schema.Basic
import SchemaCompiler.Schema.Canonical
import SchemaCompiler.Schema.Fragment
import SchemaCompiler.Schema.Names
import SchemaCompiler.Schema.Parser
import SchemaCompiler.Schema.Reference
import SchemaCompiler.Shape
import SchemaCompiler.Table
import SchemaCompiler.Text.Affix
import SchemaCompiler.Text.Hex
import SchemaCompiler.Text.Identifier
import SchemaCompiler.Text.Percent
import SchemaCompiler.Text.Sorted
import SchemaCompiler.Text.Transliteration
import SchemaCompiler.Text.Units
import SchemaCompiler.Text.Visible
import SchemaCompiler.Text.Width
import SchemaCompiler.TypeExpr.Basic
import SchemaCompiler.TypeExpr.Render
import SchemaCompiler.Unicode.Category
import SchemaCompiler.Unicode.Folding
import SchemaCompiler.Unicode.PointSet
import SchemaCompiler.Unicode.Property
import SchemaCompiler.Unicode.Runs
import SchemaCompiler.Unicode.Script
import SchemaCompiler.Unicode.Uppercase
import SchemaCompiler.Validator.Basic
import SchemaCompiler.Validator.Checks
import SchemaCompiler.Validator.Evaluation
import SchemaCompiler.Validator.Issue
import SchemaCompiler.Validator.Render
import SchemaCompiler.Validator.Schema
import SchemaCompiler.Validator.Store
import SchemaCompiler.Validator.Tags
import SchemaCompiler.Warning
import SchemaCompiler.Proofs.Resolution.Order
import SchemaCompiler.Proofs.Schema.Parser
import SchemaCompiler.Proofs.Schema.WellFormed
import SchemaCompiler.Proofs.Validator.Interchange
import SchemaCompiler.Proofs.Resolution.Candidates
import SchemaCompiler.Proofs.Resolution.Anchors
import SchemaCompiler.Proofs.Route.Names
import SchemaCompiler.Proofs.Route.Outcomes
import SchemaCompiler.Proofs.Route.Plan
import SchemaCompiler.Proofs.Route.Overriding
import SchemaCompiler.Proofs.Route.Placeholders
import SchemaCompiler.Proofs.Compilation.Components
import SchemaCompiler.Proofs.Compilation.References
import SchemaCompiler.Proofs.Compilation.Declarations
import SchemaCompiler.Proofs.Compilation.Dropping
import SchemaCompiler.Proofs.Compilation.Placeholders
import SchemaCompiler.Proofs.Compilation.Writable
import SchemaCompiler.Proofs.Compilation.Sanitizing
import SchemaCompiler.Proofs.RoundTrip.Decompilation
import SchemaCompiler.Proofs.RoundTrip.Shape
import SchemaCompiler.Proofs.RoundTrip.Spelling
import SchemaCompiler.Proofs.RoundTrip.Normalization
import SchemaCompiler.Proofs.RoundTrip.Restoration
import SchemaCompiler.Proofs.RoundTrip.Component
import SchemaCompiler.Proofs.Emission
import SchemaCompiler.Proofs.Emission.Order
import SchemaCompiler.Proofs.Resolution.Idempotence
import SchemaCompiler.Proofs.RoundTrip.Sameness
import SchemaCompiler.Proofs.Recording
import SchemaCompiler.Proofs.Route.Sources
import SchemaCompiler.Proofs.Compilation.Slots
import SchemaCompiler.Proofs.Output.Bindings
import SchemaCompiler.Proofs.Schema.Respelling
import SchemaCompiler.Proofs.Resolution.Cycles
import SchemaCompiler.Proofs.Output.Laziness
import SchemaCompiler.Proofs.RoundTrip.Rereading
import SchemaCompiler.Proofs.Validator.PlainUnion
import SchemaCompiler.Proofs.Validator.Issues
import SchemaCompiler.Proofs.Json.Pointer
import SchemaCompiler.Proofs.Schema.Faults
import SchemaCompiler.Proofs.Schema.Following
import SchemaCompiler.Proofs.Schema.Annotations
import SchemaCompiler.Proofs.Resolution.Dangling
import SchemaCompiler.Proofs.PathTemplate
import SchemaCompiler.Proofs.Schema.Denotation
import SchemaCompiler.Proofs.Validator.Externals
import SchemaCompiler.Proofs.Compilation.Registry
import SchemaCompiler.Proofs.Output.Comment
import SchemaCompiler.Proofs.Registry
import SchemaCompiler.Proofs.Validator.Renaming
import SchemaCompiler.Proofs.Validator.TagSearch
import SchemaCompiler.Proofs.Route.Chains
