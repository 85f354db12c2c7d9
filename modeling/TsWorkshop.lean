import TsWorkshop.Action
import TsWorkshop.Assoc
import TsWorkshop.Build.Output
import TsWorkshop.Build.Plan
import TsWorkshop.Build.Run
import TsWorkshop.Bundle.Run
import TsWorkshop.Bundle.Wrapper
import TsWorkshop.CommandLine.Basic
import TsWorkshop.CommandLine.Grammar
import TsWorkshop.CommandLine.Help
import TsWorkshop.CommandLine.Parse
import TsWorkshop.CommandLine.Program
import TsWorkshop.CommandLine.Run
import TsWorkshop.Compiler.Diagnostic
import TsWorkshop.Compiler.Options
import TsWorkshop.Compiler.Run
import TsWorkshop.Config.Basic
import TsWorkshop.Config.Discovery
import TsWorkshop.Config.Environment
import TsWorkshop.Config.Inline
import TsWorkshop.Config.Loading
import TsWorkshop.Config.Reading
import TsWorkshop.Config.Setting
import TsWorkshop.Config.Shape
import TsWorkshop.Config.Validation
import TsWorkshop.Docs.Block
import TsWorkshop.Docs.Document
import TsWorkshop.Docs.Output
import TsWorkshop.Docs.Serializer
import TsWorkshop.Docs.Source
import TsWorkshop.Docs.Timestamp
import TsWorkshop.Docs.Walk
import TsWorkshop.Error
import TsWorkshop.Event
import TsWorkshop.FileSystem.Access
import TsWorkshop.FileSystem.Basic
import TsWorkshop.FileSystem.Change
import TsWorkshop.FileSystem.Path
import TsWorkshop.Json.Basic
import TsWorkshop.Json.Complaint
import TsWorkshop.Json.Printer
import TsWorkshop.Json.Shape
import TsWorkshop.Json.Source
import TsWorkshop.Lint.Report
import TsWorkshop.Lint.Run
import TsWorkshop.Log.Filter
import TsWorkshop.Main
import TsWorkshop.Number.Binary64
import TsWorkshop.Number.Literal
import TsWorkshop.Number.Word
import TsWorkshop.Process.Arguments
import TsWorkshop.Process.Invocation
import TsWorkshop.Process.Launch
import TsWorkshop.Reflection.Basic
import TsWorkshop.Reflection.Decode
import TsWorkshop.Reflection.Encode
import TsWorkshop.Reflection.Kind
import TsWorkshop.Reflection.Render
import TsWorkshop.Reflection.Shape
import TsWorkshop.Reflection.Tag
import TsWorkshop.Report.Frame
import TsWorkshop.Report.Measure
import TsWorkshop.Script.Arithmetic
import TsWorkshop.Script.Builtin
import TsWorkshop.Script.Condition
import TsWorkshop.Script.Field
import TsWorkshop.Script.Pattern
import TsWorkshop.Script.Printing
import TsWorkshop.Script.Reader
import TsWorkshop.Script.Run
import TsWorkshop.Script.State
import TsWorkshop.Script.Syntax
import TsWorkshop.Terminal
import TsWorkshop.Text.Basic
import TsWorkshop.Text.Quoted
import TsWorkshop.Text.Style
import TsWorkshop.Text.Unicode.Alphabetic
import TsWorkshop.Text.Unicode.Range
import TsWorkshop.Text.Unicode.Unprintable
import TsWorkshop.Text.Utf8
import TsWorkshop.Toml.Document
import TsWorkshop.Toml.Fault
import TsWorkshop.Toml.Moment
import TsWorkshop.Toml.Table
import TsWorkshop.Toml.Value
import TsWorkshop.Tool.Lookup
import TsWorkshop.Tool.Run
import TsWorkshop.Yaml.Cursor
import TsWorkshop.Yaml.Document
import TsWorkshop.Yaml.Scalar
import TsWorkshop.Proofs.Assoc
import TsWorkshop.Proofs.Json.Canonical
import TsWorkshop.Proofs.Reflection.Fields
import TsWorkshop.Proofs.Reflection.Reading
import TsWorkshop.Proofs.Reflection.Kept
import TsWorkshop.Proofs.Reflection.Written
import TsWorkshop.Proofs.Reflection.Comments
import TsWorkshop.Proofs.Reflection.Writing
import TsWorkshop.Proofs.Docs.Outline
import TsWorkshop.Proofs.Docs.Walk
import TsWorkshop.Proofs.Docs.Reports
import TsWorkshop.Proofs.Json.Path
import TsWorkshop.Proofs.Reflection.Canonical
import TsWorkshop.Proofs.Reflection.Containment
import TsWorkshop.Proofs.Reflection.Payload
import TsWorkshop.Proofs.Reflection.RoundTrip
import TsWorkshop.Proofs.Json.Standard
import TsWorkshop.Proofs.Reflection.Decoded
import TsWorkshop.Proofs.Docs.Fields
import TsWorkshop.Proofs.Docs.UniqueKeys
import TsWorkshop.Proofs.Docs.Consistency
import TsWorkshop.Proofs.Docs.Spelling
import TsWorkshop.Proofs.FileSystem.Access
import TsWorkshop.Proofs.Docs.Output
import TsWorkshop.Proofs.Action
import TsWorkshop.Proofs.Build.Output
import TsWorkshop.Proofs.Config.Layers
import TsWorkshop.Proofs.Reflection.Grouping
import TsWorkshop.Proofs.Build.Compile
import TsWorkshop.Proofs.Lint.Run
import TsWorkshop.Proofs.Build.Failure
import TsWorkshop.Proofs.Docs.Renumbering
import TsWorkshop.Proofs.Docs.Registering
import TsWorkshop.Proofs.Docs.Comments
import TsWorkshop.Proofs.Config.Override
import TsWorkshop.Proofs.Docs.MemberOrder
import TsWorkshop.Proofs.Text.Pieces
import TsWorkshop.Proofs.Compiler.Diagnostic
import TsWorkshop.Proofs.Text.ByteOrder
import TsWorkshop.Proofs.Json.Quoted
import TsWorkshop.Proofs.Bundle.Wrapper
import TsWorkshop.Proofs.Unicode.Ranges
import TsWorkshop.Proofs.Unicode.Identifier
import TsWorkshop.Proofs.Bundle.Names
import TsWorkshop.Proofs.Reflection.Alternatives
import TsWorkshop.Proofs.Compiler.Header
import TsWorkshop.Proofs.Compiler.Sections
import TsWorkshop.Proofs.Docs.Restated
import TsWorkshop.Proofs.Report.Frame
import TsWorkshop.Proofs.Reflection.InlineObject
import TsWorkshop.Proofs.Docs.KindLabel
import TsWorkshop.Proofs.Reflection.Tagged
import TsWorkshop.Proofs.Docs.Generics
import TsWorkshop.Proofs.Text.Style
import TsWorkshop.Proofs.Report.Colors
import TsWorkshop.Proofs.FileSystem.Components
import TsWorkshop.Proofs.Bundle.Artifacts
import TsWorkshop.Proofs.Bundle.Import
import TsWorkshop.Proofs.CommandLine.Reading
import TsWorkshop.Proofs.Config.Imposed
import TsWorkshop.Proofs.Tool.Started
import TsWorkshop.Proofs.Lint.Fixing
import TsWorkshop.Proofs.CommandLine.Sides
import TsWorkshop.Proofs.Config.Discovery
import TsWorkshop.Proofs.FileSystem.Making
import TsWorkshop.Proofs.Build.Cleaning
import TsWorkshop.Proofs.Json.Members
import TsWorkshop.Proofs.Config.Schema
import TsWorkshop.Proofs.Config.Defaults
import TsWorkshop.Proofs.CommandLine.Ahead
import TsWorkshop.Proofs.CommandLine.Globals
import TsWorkshop.Proofs.Lint.Totals
import TsWorkshop.Proofs.FileSystem.Ancestors
import TsWorkshop.Proofs.Compiler.Nearest
import TsWorkshop.Proofs.Number.Binary64
import TsWorkshop.Proofs.Report.Measure
import TsWorkshop.Proofs.Report.Size
import TsWorkshop.Proofs.Number.Rounding
import TsWorkshop.Proofs.Report.Elapsed
