import ViewCompiler.Binding
import ViewCompiler.CommandLine.Arguments
import ViewCompiler.CommandLine.Basic
import ViewCompiler.Compilation.Check
import ViewCompiler.Compilation.Compiler
import ViewCompiler.Compilation.Event
import ViewCompiler.Compilation.Interruption
import ViewCompiler.Compilation.Payload
import ViewCompiler.Compilation.Result
import ViewCompiler.Compilation.Session
import ViewCompiler.Compilation.Source
import ViewCompiler.Component.Builtin
import ViewCompiler.Component.Documentation
import ViewCompiler.Component.Given
import ViewCompiler.Component.Registry
import ViewCompiler.Component.Report
import ViewCompiler.Component.Validator
import ViewCompiler.Entries
import ViewCompiler.Expression
import ViewCompiler.Files.Basic
import ViewCompiler.Files.Location
import ViewCompiler.Hook
import ViewCompiler.Json.Basic
import ViewCompiler.Json.Field
import ViewCompiler.Json.Quoted
import ViewCompiler.Json.Reader
import ViewCompiler.Json.Writer
import ViewCompiler.Log
import ViewCompiler.Main
import ViewCompiler.Name
import ViewCompiler.Number.Basic
import ViewCompiler.Number.Decimal
import ViewCompiler.Number.Double
import ViewCompiler.Number.Shortest
import ViewCompiler.Output.Artifact
import ViewCompiler.Output.Line
import ViewCompiler.Output.Markup
import ViewCompiler.Output.Module
import ViewCompiler.Output.PropType
import ViewCompiler.Output.Report
import ViewCompiler.Output.Tree
import ViewCompiler.Pattern.Basic
import ViewCompiler.Pattern.Reader
import ViewCompiler.Pattern.Search
import ViewCompiler.Program.Basic
import ViewCompiler.Program.LoadError
import ViewCompiler.Program.Loading
import ViewCompiler.Program.Serialized
import ViewCompiler.Proofs.Binding.ContentOrder
import ViewCompiler.Proofs.Binding.Extension
import ViewCompiler.Proofs.Binding.Partition
import ViewCompiler.Proofs.Binding.Scan
import ViewCompiler.Proofs.Binding.Scope
import ViewCompiler.Proofs.Binding.TargetGrammar
import ViewCompiler.Proofs.CommandLine
import ViewCompiler.Proofs.Compilation.Answer
import ViewCompiler.Proofs.Compilation.DeclaredSchemas
import ViewCompiler.Proofs.Compilation.GivenRegistry
import ViewCompiler.Proofs.Compilation.Independence
import ViewCompiler.Proofs.Compilation.Interfaces
import ViewCompiler.Proofs.Compilation.Lifecycle
import ViewCompiler.Proofs.Compilation.Refusals
import ViewCompiler.Proofs.Compilation.Repetition
import ViewCompiler.Proofs.Compilation.Session
import ViewCompiler.Proofs.Compilation.Strictness
import ViewCompiler.Proofs.Compilation.SuppliedParameters
import ViewCompiler.Proofs.Compilation.UnknownProps
import ViewCompiler.Proofs.Component.History
import ViewCompiler.Proofs.Component.ObjectCheck
import ViewCompiler.Proofs.Entries
import ViewCompiler.Proofs.Files
import ViewCompiler.Proofs.General
import ViewCompiler.Proofs.Hook
import ViewCompiler.Proofs.Json.Grammar
import ViewCompiler.Proofs.Json.Printable
import ViewCompiler.Proofs.Json.Quoted
import ViewCompiler.Proofs.Name
import ViewCompiler.Proofs.Output.Artifact
import ViewCompiler.Proofs.Output.ComponentTags
import ViewCompiler.Proofs.Output.LiteralText
import ViewCompiler.Proofs.Output.LoopScope
import ViewCompiler.Proofs.Output.Nesting
import ViewCompiler.Proofs.Output.Operands
import ViewCompiler.Proofs.Output.TreeView
import ViewCompiler.Proofs.Output.TypeErasure
import ViewCompiler.Proofs.Program.Forms
import ViewCompiler.Proofs.Program.NormalForm
import ViewCompiler.Proofs.Program.ParserOutput
import ViewCompiler.Proofs.Program.Places
import ViewCompiler.Proofs.Program.Serialization
import ViewCompiler.Proofs.Program.ShapeFaults
import ViewCompiler.Proofs.Schema.Acceptance
import ViewCompiler.Proofs.Schema.Conformance
import ViewCompiler.Proofs.Schema.Conforms
import ViewCompiler.Proofs.Schema.Deferral
import ViewCompiler.Proofs.Schema.DroppedEntries
import ViewCompiler.Proofs.Schema.EnumeratedFlags
import ViewCompiler.Proofs.Schema.FailurePlace
import ViewCompiler.Proofs.Schema.Idempotence
import ViewCompiler.Proofs.Schema.NumericBounds
import ViewCompiler.Proofs.Schema.PlainCheck
import ViewCompiler.Proofs.Schema.Relaxation
import ViewCompiler.Proofs.Schema.Relocation
import ViewCompiler.Proofs.Schema.Results
import ViewCompiler.Proofs.Schema.UnionLaws
import ViewCompiler.Proofs.Settings
import ViewCompiler.Proofs.Usage
import ViewCompiler.Proofs.Value
import ViewCompiler.Schema.Basic
import ViewCompiler.Schema.Comparison
import ViewCompiler.Schema.Failure
import ViewCompiler.Schema.Preset
import ViewCompiler.Schema.Validation
import ViewCompiler.Settings.Basic
import ViewCompiler.Settings.Environment
import ViewCompiler.Text.Blank
import ViewCompiler.Text.Identifier
import ViewCompiler.Text.Lines
import ViewCompiler.Text.Printable
import ViewCompiler.Text.Quoted
import ViewCompiler.Text.Runs
import ViewCompiler.Text.Upper
import ViewCompiler.Text.Utf8
import ViewCompiler.Text.Word
import ViewCompiler.Usage
import ViewCompiler.Value.Basic
import ViewCompiler.Value.Data
import ViewCompiler.Value.Display
