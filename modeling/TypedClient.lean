import TypedClient.CommandLine.Request
import TypedClient.CommandLine.Run
import TypedClient.CommandLine.Usage
import TypedClient.Config
import TypedClient.Config.Reading
import TypedClient.Document.BlockString
import TypedClient.Document.Lexer
import TypedClient.Document.Place
import TypedClient.Document.Printer
import TypedClient.Document.Reader
import TypedClient.Document.Reader.Executable
import TypedClient.Document.Reader.TypeSystem
import TypedClient.Document.Syntax
import TypedClient.Document.Token
import TypedClient.Factory
import TypedClient.Files.Change
import TypedClient.Files.Glob
import TypedClient.Files.Path
import TypedClient.Files.Tree
import TypedClient.Fragment.Descriptor
import TypedClient.Fragment.Spread
import TypedClient.Generation.Bundle
import TypedClient.Generation.Generator
import TypedClient.Generation.Hook
import TypedClient.Generation.Index
import TypedClient.Generation.Session
import TypedClient.Generation.Trace
import TypedClient.Import
import TypedClient.Main
import TypedClient.Naming
import TypedClient.Notice
import TypedClient.Number.Double
import TypedClient.Operation.Spec
import TypedClient.Output
import TypedClient.Proofs.CommandLine.Arguments
import TypedClient.Proofs.CommandLine.Delivery
import TypedClient.Proofs.CommandLine.Outcome
import TypedClient.Proofs.CommandLine.Sources
import TypedClient.Proofs.Config.FieldByField
import TypedClient.Proofs.Config.Fields
import TypedClient.Proofs.Config.Restated
import TypedClient.Proofs.Config.Values
import TypedClient.Proofs.Document.BlockBody
import TypedClient.Proofs.Document.BlockCount
import TypedClient.Proofs.Document.Embedded
import TypedClient.Proofs.Document.EmbeddedBlock
import TypedClient.Proofs.Document.EmbeddedString
import TypedClient.Proofs.Document.Escape
import TypedClient.Proofs.Document.Lexeme
import TypedClient.Proofs.Document.Names
import TypedClient.Proofs.Document.Plain
import TypedClient.Proofs.Document.Print
import TypedClient.Proofs.Document.Printed
import TypedClient.Proofs.Document.Reading
import TypedClient.Proofs.Document.Scan
import TypedClient.Proofs.Document.Single
import TypedClient.Proofs.Document.StringBody
import TypedClient.Proofs.Document.Words
import TypedClient.Proofs.Files.Below
import TypedClient.Proofs.Files.Extension
import TypedClient.Proofs.Files.Listing
import TypedClient.Proofs.Files.Reordered
import TypedClient.Proofs.Files.Spelling
import TypedClient.Proofs.Files.Writing
import TypedClient.Proofs.Fragment.Expansion
import TypedClient.Proofs.Fragment.Lookup
import TypedClient.Proofs.Fragment.Reach
import TypedClient.Proofs.Fragment.Walk
import TypedClient.Proofs.Generation.Acceptance
import TypedClient.Proofs.Generation.Agreement
import TypedClient.Proofs.Generation.Collision
import TypedClient.Proofs.Generation.Constant
import TypedClient.Proofs.Generation.Declaration
import TypedClient.Proofs.Generation.Emission
import TypedClient.Proofs.Generation.Event
import TypedClient.Proofs.Generation.Export
import TypedClient.Proofs.Generation.Filtering
import TypedClient.Proofs.Generation.Frame
import TypedClient.Proofs.Generation.Linkage
import TypedClient.Proofs.Generation.Module
import TypedClient.Proofs.Generation.Preamble
import TypedClient.Proofs.Generation.Reference
import TypedClient.Proofs.Generation.Rendering
import TypedClient.Proofs.Generation.Signature
import TypedClient.Proofs.Generation.Subsequence
import TypedClient.Proofs.Generation.Success
import TypedClient.Proofs.Naming.FactoryKey
import TypedClient.Proofs.Naming.Underscores
import TypedClient.Proofs.Naming.VariableName
import TypedClient.Proofs.Result
import TypedClient.Proofs.Session.History
import TypedClient.Proofs.Session.Invariant
import TypedClient.Proofs.Session.Play
import TypedClient.Proofs.Session.Step
import TypedClient.Proofs.Source.Coverage
import TypedClient.Proofs.Source.Expansion
import TypedClient.Proofs.Source.Faults
import TypedClient.Proofs.Source.Loading
import TypedClient.Proofs.Source.Patterns
import TypedClient.Proofs.Template.Cooked
import TypedClient.Proofs.Template.DocComment
import TypedClient.Proofs.Template.FactoryReader
import TypedClient.Proofs.Template.Literal
import TypedClient.Proofs.Template.Raw
import TypedClient.Proofs.Template.Replacement
import TypedClient.Proofs.Template.Strict
import TypedClient.Proofs.Text.Casing
import TypedClient.Proofs.Text.Distinct
import TypedClient.Proofs.Text.Indent
import TypedClient.Proofs.Text.LineFeed
import TypedClient.Proofs.Text.Mark
import TypedClient.Proofs.Text.Pascal
import TypedClient.Proofs.Text.Pattern
import TypedClient.Proofs.Text.Pieces
import TypedClient.Proofs.Text.Settling
import TypedClient.Proofs.Text.Solid
import TypedClient.Schema.Build
import TypedClient.Schema.Check
import TypedClient.Schema.Fault
import TypedClient.Schema.Resolution
import TypedClient.Schema.Suggestion
import TypedClient.Setting
import TypedClient.Source
import TypedClient.Template.Custom
import TypedClient.Template.Expression
import TypedClient.Template.Folder
import TypedClient.Template.Packaged
import TypedClient.Template.Segment
import TypedClient.Template.Token
import TypedClient.Template.Value
import TypedClient.Text.Basic
import TypedClient.Text.Character
import TypedClient.Text.Identifier
import TypedClient.Text.Lines
import TypedClient.Text.Lowercase
import TypedClient.Text.Printable
import TypedClient.Text.Quoted
import TypedClient.Text.RawText
import TypedClient.Text.Similarity
import TypedClient.Text.Words
