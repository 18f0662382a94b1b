import Docsmith.Bench.Coverage
import Docsmith.Bench.Result
import Docsmith.Bench.Round
import Docsmith.Bench.SelfCheck
import Docsmith.Bench.Workload
import Docsmith.Build.Data
import Docsmith.Build.Output
import Docsmith.Catalog.Basic
import Docsmith.Catalog.Data
import Docsmith.Catalog.Directory
import Docsmith.Catalog.Scan
import Docsmith.Command.Options
import Docsmith.Command.Run
import Docsmith.Decimal.Read
import Docsmith.Decimal.Round
import Docsmith.Decimal.Shortest
import Docsmith.Decorator.Deprecation
import Docsmith.Decorator.Endpoint
import Docsmith.Decorator.Metadata
import Docsmith.Digest.Sha256
import Docsmith.Docstring.Basic
import Docsmith.Docstring.Data
import Docsmith.Docstring.Directive
import Docsmith.Docstring.Item
import Docsmith.Docstring.Overlay
import Docsmith.Docstring.Parse
import Docsmith.Docstring.Section
import Docsmith.Fault
import Docsmith.Json.Read
import Docsmith.Json.Write
import Docsmith.Main
import Docsmith.Markdown.Block
import Docsmith.Markdown.Inline
import Docsmith.Markdown.Render
import Docsmith.Markdown.Table
import Docsmith.Package
import Docsmith.Page.Scan
import Docsmith.Project.Discovery
import Docsmith.Project.FileTree
import Docsmith.Project.Glob
import Docsmith.Project.ModulePath
import Docsmith.Project.Path
import Docsmith.Release
import Docsmith.Release.Distribution
import Docsmith.Release.LongDescription
import Docsmith.Report.Breaking
import Docsmith.Report.CallMap
import Docsmith.Report.Changes
import Docsmith.Report.Chunk
import Docsmith.Report.Coverage
import Docsmith.Report.DeadCode
import Docsmith.Report.Embedding
import Docsmith.Settings.Basic
import Docsmith.Settings.Kinds
import Docsmith.Settings.Sample
import Docsmith.Signature.Printer
import Docsmith.Signature.Reader
import Docsmith.Site.App.CallMap
import Docsmith.Site.App.Insights
import Docsmith.Site.App.Navigation
import Docsmith.Site.App.Reference
import Docsmith.Site.App.Run
import Docsmith.Site.App.Sample
import Docsmith.Site.Color
import Docsmith.Site.Docstring
import Docsmith.Site.Event
import Docsmith.Site.Plan
import Docsmith.Site.Plugin
import Docsmith.Site.Program
import Docsmith.Site.Program.Blocks
import Docsmith.Site.Program.Chat
import Docsmith.Site.Program.Insights
import Docsmith.Site.Program.Opening
import Docsmith.Site.Program.Reference
import Docsmith.Site.Routine
import Docsmith.Site.Selection
import Docsmith.Site.Widget
import Docsmith.Source.Calls
import Docsmith.Source.Definitions
import Docsmith.Source.Denotation
import Docsmith.Source.Documentation
import Docsmith.Source.Dump
import Docsmith.Source.Fingerprint
import Docsmith.Source.Grammar.Expr
import Docsmith.Source.Grammar.Format
import Docsmith.Source.Grammar.Pattern
import Docsmith.Source.Grammar.Stmt
import Docsmith.Source.Lexer
import Docsmith.Source.Literal
import Docsmith.Source.Metrics
import Docsmith.Source.Naming
import Docsmith.Source.Numeral
import Docsmith.Source.Outline
import Docsmith.Source.Parse
import Docsmith.Source.Printer.Expr
import Docsmith.Source.Printer.Quote
import Docsmith.Source.Printer.Stmt
import Docsmith.Source.Rule
import Docsmith.Source.Token
import Docsmith.Source.Tree
import Docsmith.Text.AsciiParts
import Docsmith.Text.Blank
import Docsmith.Text.CaseTable
import Docsmith.Text.CharacterName
import Docsmith.Text.DecompositionTable
import Docsmith.Text.Digit
import Docsmith.Text.Identifier
import Docsmith.Text.Letter
import Docsmith.Text.Lines
import Docsmith.Text.NameTable
import Docsmith.Text.NormalForm
import Docsmith.Text.Order
import Docsmith.Text.Printable
import Docsmith.Text.Quoted
import Docsmith.Text.Range
import Docsmith.Text.Strip
import Docsmith.Text.Utf8
import Docsmith.Text.Word
import Docsmith.Todo
import Docsmith.Value.Access
import Docsmith.Value.Basic
import Docsmith.Value.Order
import Docsmith.Value.Text
import Docsmith.Value.Whole
import Docsmith.Proofs.Json.RoundTrip
import Docsmith.Proofs.Project.FileTree
import Docsmith.Proofs.Build.Run
import Docsmith.Proofs.Report.Index
import Docsmith.Proofs.Report.Changes
import Docsmith.Proofs.Build.Data
import Docsmith.Proofs.Build.History
import Docsmith.Proofs.Report.Breaking
import Docsmith.Proofs.Docstring.Directive
import Docsmith.Proofs.Docstring.Outline
import Docsmith.Proofs.Docstring.RoundTrip
import Docsmith.Proofs.Docstring.Roles
import Docsmith.Proofs.Report.SharedPath
import Docsmith.Proofs.Signature.Brackets
import Docsmith.Proofs.Signature.RoundTrip
import Docsmith.Proofs.Docstring.Arguments
import Docsmith.Proofs.Report.Coverage
import Docsmith.Proofs.Catalog.Scannable
import Docsmith.Proofs.Catalog.Endpoint
import Docsmith.Proofs.Site.Hidden
import Docsmith.Proofs.Site.Navigation
import Docsmith.Proofs.Report.CallMap
import Docsmith.Proofs.Report.DeadCode
import Docsmith.Proofs.Report.SelfCall
import Docsmith.Proofs.Docstring.Data
import Docsmith.Proofs.Docstring.Reordering
import Docsmith.Proofs.Docstring.Extension
import Docsmith.Proofs.Build.Failure
import Docsmith.Proofs.Value.Equality
import Docsmith.Proofs.Report.Difference
import Docsmith.Proofs.Report.Duality
import Docsmith.Proofs.Report.Agreement
import Docsmith.Proofs.Catalog.Enumeration
import Docsmith.Proofs.Source.Separator
import Docsmith.Proofs.Source.Fingerprint
import Docsmith.Proofs.Source.Quotation
import Docsmith.Proofs.Site.Literal
import Docsmith.Proofs.Docstring.Wrapping
import Docsmith.Proofs.Docstring.Settings
import Docsmith.Proofs.Report.Pages
import Docsmith.Proofs.Signature.Defaults
import Docsmith.Proofs.Source.Node
import Docsmith.Proofs.Project.Discovery
import Docsmith.Proofs.Project.ModulePath
import Docsmith.Proofs.Page.Order
import Docsmith.Proofs.Docstring.Readers
import Docsmith.Proofs.Source.Calls
import Docsmith.Proofs.Docstring.Margin
