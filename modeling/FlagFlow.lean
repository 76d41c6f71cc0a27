import FlagFlow.Analysis
import FlagFlow.Annotate
import FlagFlow.Cli
import FlagFlow.Code.Graph
import FlagFlow.Code.Instr
import FlagFlow.Code.Operand
import FlagFlow.Code.Reading
import FlagFlow.Code.Type
import FlagFlow.Command
import FlagFlow.Decimal
import FlagFlow.Decimal.Digits
import FlagFlow.Directive
import FlagFlow.Dot
import FlagFlow.Env
import FlagFlow.Expected
import FlagFlow.Files
import FlagFlow.Findings
import FlagFlow.FlagValue
import FlagFlow.Flags
import FlagFlow.Flow.Graph
import FlagFlow.Flow.IndexGraph
import FlagFlow.Flow.Journal
import FlagFlow.Flow.Sketch
import FlagFlow.Flow.Solver
import FlagFlow.Hint
import FlagFlow.Lint
import FlagFlow.Log
import FlagFlow.Main
import FlagFlow.Msgpack
import FlagFlow.Path
import FlagFlow.Pool
import FlagFlow.Position
import FlagFlow.Program
import FlagFlow.Proofs.Agreement
import FlagFlow.Proofs.Annotating
import FlagFlow.Proofs.AnnotationOrder
import FlagFlow.Proofs.BlockConditions
import FlagFlow.Proofs.Blocks
import FlagFlow.Proofs.BreadthFirst
import FlagFlow.Proofs.Budget
import FlagFlow.Proofs.CalleePatterns
import FlagFlow.Proofs.CallerPaths
import FlagFlow.Proofs.Copies
import FlagFlow.Proofs.DeadCode
import FlagFlow.Proofs.DrawingFiles
import FlagFlow.Proofs.Enclosing
import FlagFlow.Proofs.Env
import FlagFlow.Proofs.EnvText
import FlagFlow.Proofs.Equations
import FlagFlow.Proofs.FactSources
import FlagFlow.Proofs.FlagCalls
import FlagFlow.Proofs.Flattening
import FlagFlow.Proofs.Joins
import FlagFlow.Proofs.Least
import FlagFlow.Proofs.LintCallees
import FlagFlow.Proofs.LintRuns
import FlagFlow.Proofs.LoopFree
import FlagFlow.Proofs.Loops
import FlagFlow.Proofs.Matching
import FlagFlow.Proofs.Meaning
import FlagFlow.Proofs.Msgpack
import FlagFlow.Proofs.PathConditions
import FlagFlow.Proofs.Paths
import FlagFlow.Proofs.PredecessorOrder
import FlagFlow.Proofs.Predecessors
import FlagFlow.Proofs.Quoting
import FlagFlow.Proofs.ReportRoundTrip
import FlagFlow.Proofs.Rounds
import FlagFlow.Proofs.Scanning
import FlagFlow.Proofs.Schedules
import FlagFlow.Proofs.SearchOrder
import FlagFlow.Proofs.Sketches
import FlagFlow.Proofs.Soundness
import FlagFlow.Proofs.Splits
import FlagFlow.Proofs.Table
import FlagFlow.Proofs.Truncation
import FlagFlow.Proofs.Utf8
import FlagFlow.Proofs.Values
import FlagFlow.Proofs.Visits
import FlagFlow.Proofs.Worklist
import FlagFlow.Regex.Basic
import FlagFlow.Regex.CharSet
import FlagFlow.Regex.Parse
import FlagFlow.Regex.Reach
import FlagFlow.Regex.Shape
import FlagFlow.Report.Drawing
import FlagFlow.Report.Msgpack
import FlagFlow.Report.Output
import FlagFlow.Report.Summary
import FlagFlow.Report.Text
import FlagFlow.Report.Yaml
import FlagFlow.Search
import FlagFlow.Settings
import FlagFlow.Settings.Load
import FlagFlow.Source.Line
import FlagFlow.Source.Origin
import FlagFlow.Source.Token
import FlagFlow.Stmt
import FlagFlow.Style
import FlagFlow.Table
import FlagFlow.Text.Blank
import FlagFlow.Text.Bytes
import FlagFlow.Text.Category
import FlagFlow.Text.Fold
import FlagFlow.Text.Printable
import FlagFlow.Text.Quoted
import FlagFlow.Text.Script
import FlagFlow.Text.Span
import FlagFlow.Text.Template
import FlagFlow.Transfer
import FlagFlow.Word
import FlagFlow.Yaml.Cursor
import FlagFlow.Yaml.Decode
import FlagFlow.Yaml.Node
import FlagFlow.Yaml.Resolve
import FlagFlow.Yaml.Scalar
import FlagFlow.Yaml.Token
import FlagFlow.Yaml.Writer
