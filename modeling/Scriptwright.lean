import Scriptwright.Batch.Depth
import Scriptwright.Batch.Named
import Scriptwright.Batch.Result
import Scriptwright.Batch.Tally
import Scriptwright.Batch.Workspace
import Scriptwright.Cli.Arguments
import Scriptwright.Cli.Help
import Scriptwright.Cli.Parser
import Scriptwright.Cli.Run
import Scriptwright.Console.Block
import Scriptwright.Console.Escape
import Scriptwright.Console.Plain
import Scriptwright.Console.View
import Scriptwright.Conversion.Diagnostic
import Scriptwright.Conversion.Literal
import Scriptwright.Conversion.Outcome
import Scriptwright.Conversion.Preamble
import Scriptwright.Dialect
import Scriptwright.Files.Disk
import Scriptwright.Files.Path
import Scriptwright.Files.Replacement
import Scriptwright.Files.Tree
import Scriptwright.Json.Reader
import Scriptwright.Json.Writer
import Scriptwright.Log
import Scriptwright.Main
import Scriptwright.Number.Binary64
import Scriptwright.Number.Decimal
import Scriptwright.Report.Basic
import Scriptwright.Report.Export
import Scriptwright.Report.Integrity
import Scriptwright.Script.Assignment
import Scriptwright.Script.Command
import Scriptwright.Script.Condition
import Scriptwright.Script.Construct
import Scriptwright.Script.Line
import Scriptwright.Settings.Basic
import Scriptwright.Settings.Load
import Scriptwright.Text.Basic
import Scriptwright.Text.Blank
import Scriptwright.Text.Case
import Scriptwright.Text.Case.Tables
import Scriptwright.Text.Digit
import Scriptwright.Text.Newline
import Scriptwright.Text.Printable
import Scriptwright.Text.Printable.Table
import Scriptwright.Text.Ranges
import Scriptwright.Text.Utf8
import Scriptwright.Text.Word
import Scriptwright.Text.Word.Table
import Scriptwright.Value.Basic
import Scriptwright.Value.Display
import Scriptwright.Value.Moment
import Scriptwright.Yaml.Cursor
import Scriptwright.Yaml.Node
import Scriptwright.Yaml.Reader
import Scriptwright.Yaml.Reader.Block
import Scriptwright.Yaml.Reader.BlockScalar
import Scriptwright.Yaml.Reader.Flow
import Scriptwright.Yaml.Reader.Plain
import Scriptwright.Yaml.Reader.Quoted
import Scriptwright.Yaml.Scalar
import Scriptwright.Yaml.Style
import Scriptwright.Yaml.Writer
import Scriptwright.Proofs.Search
import Scriptwright.Proofs.Runs
import Scriptwright.Proofs.Recognition
import Scriptwright.Proofs.Outcome
import Scriptwright.Proofs.Diagnostics
import Scriptwright.Proofs.Segments
import Scriptwright.Proofs.Integrity
import Scriptwright.Proofs.Layout
import Scriptwright.Proofs.Concatenation
import Scriptwright.Proofs.Dialects
import Scriptwright.Proofs.Stability
import Scriptwright.Proofs.Numeral
import Scriptwright.Proofs.Json
import Scriptwright.Proofs.Tree
import Scriptwright.Proofs.Name
import Scriptwright.Proofs.Replacement
import Scriptwright.Proofs.Programs
import Scriptwright.Proofs.Discovery
import Scriptwright.Proofs.Isolation
import Scriptwright.Proofs.Rerun
import Scriptwright.Proofs.Scalars
import Scriptwright.Proofs.Yaml
import Scriptwright.Proofs.Symbols
import Scriptwright.Proofs.Acceptance
import Scriptwright.Proofs.Utf8
import Scriptwright.Proofs.Reading
import Scriptwright.Proofs.Accounting
import Scriptwright.Proofs.Marks
import Scriptwright.Proofs.Openers
import Scriptwright.Proofs.Keywords
import Scriptwright.Proofs.Headers
import Scriptwright.Proofs.Literals
import Scriptwright.Proofs.Commands
import Scriptwright.Proofs.Hollow
import Scriptwright.Proofs.Links
import Scriptwright.Proofs.Failure
import Scriptwright.Proofs.Brackets
import Scriptwright.Proofs.Emptiness
import Scriptwright.Proofs.ApplicationName
import Scriptwright.Proofs.Settings
