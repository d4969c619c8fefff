import QbLint.Bytes
import QbLint.Cli.Args
import QbLint.Cli.Invocation
import QbLint.Cli.Run
import QbLint.Cli.Usage
import QbLint.Config.Basic
import QbLint.Config.Load
import QbLint.Document.Basic
import QbLint.Document.Display
import QbLint.Document.Json
import QbLint.Document.Merge
import QbLint.Files.Error
import QbLint.Files.Path
import QbLint.Files.Tree
import QbLint.Formats
import QbLint.Formats.EnvFile
import QbLint.Formats.Standard
import QbLint.Host
import QbLint.Lint.Escape
import QbLint.Lint.Load
import QbLint.Lint.Run
import QbLint.Lint.Script
import QbLint.Log
import QbLint.Machine
import QbLint.Number.Binary64
import QbLint.Number.Decimal
import QbLint.Number.Duration
import QbLint.Policy.Basic
import QbLint.Policy.Document
import QbLint.Policy.File
import QbLint.Policy.Preset
import QbLint.Proofs.Bytes
import QbLint.Proofs.Check
import QbLint.Proofs.Walk
import QbLint.Report.Basic
import QbLint.Report.Json
import QbLint.Report.Markdown
import QbLint.Report.Sarif
import QbLint.Report.Text
import QbLint.Script.Check
import QbLint.Script.Cursor
import QbLint.Script.Diagnostic
import QbLint.Script.Instruction
import QbLint.Script.Jump
import QbLint.Script.Nesting
import QbLint.Script.Opcode
import QbLint.Script.Rule
import QbLint.Script.Scan
import QbLint.Text.Blank
import QbLint.Text.Case
import QbLint.Text.CaseTable
import QbLint.Text.Hex
import QbLint.Text.Numeral
import QbLint.Text.Printable
import QbLint.Text.Quoted
import QbLint.Text.Spans
import QbLint.Text.Split
import QbLint.Text.Utf8
import QbLint.Yaml.Node
import QbLint.Yaml.Plain
import QbLint.Yaml.Token
import QbLint.Yaml.Write
import QbLint.Main
import QbLint.Proofs.Extent
import QbLint.Proofs.Progress
import QbLint.Proofs.Balance
import QbLint.Proofs.Jump
import QbLint.Proofs.Grammar
import QbLint.Proofs.Acceptance
import QbLint.Proofs.Agreement
import QbLint.Proofs.Outcome
import QbLint.Proofs.Replay
import QbLint.Proofs.Prefix
import QbLint.Proofs.Relocation
import QbLint.Proofs.Hex
import QbLint.Proofs.Stop
import QbLint.Proofs.Options
import QbLint.Proofs.Machine
import QbLint.Proofs.Policy
import QbLint.Proofs.Severity
import QbLint.Proofs.Report
import QbLint.Proofs.Lint
import QbLint.Proofs.Verdict
import QbLint.Proofs.Brackets
import QbLint.Proofs.Position
import QbLint.Proofs.Landing
import QbLint.Proofs.Ahead
import QbLint.Proofs.Header
import QbLint.Proofs.Atomicity
import QbLint.Proofs.Overlay
import QbLint.Proofs.Numbers
import QbLint.Proofs.Reading
import QbLint.Proofs.Shape
import QbLint.Proofs.Telling
import QbLint.Proofs.Utf8
import QbLint.Proofs.Files
import QbLint.Proofs.Reload
import QbLint.Proofs.Counters
import QbLint.Proofs.Weakening
import QbLint.Proofs.Discovery
import QbLint.Proofs.Messages
import QbLint.Proofs.ReadBack
import QbLint.Proofs.Args
import QbLint.Proofs.Precedence
import QbLint.Proofs.LogLevel
import QbLint.Proofs.Environment
import QbLint.Proofs.Ending
import QbLint.Proofs.Offset
import QbLint.Proofs.JsonTokens
import QbLint.Proofs.JsonRead
import QbLint.Proofs.Renderings
