import SandboxPolicy.Bindings
import SandboxPolicy.Bytecode.Builder
import SandboxPolicy.Bytecode.Data
import SandboxPolicy.Bytecode.Dissection
import SandboxPolicy.Bytecode.Error
import SandboxPolicy.Bytecode.Header
import SandboxPolicy.Bytecode.Image
import SandboxPolicy.Bytecode.Interner
import SandboxPolicy.Bytecode.Node
import SandboxPolicy.Bytecode.Profile
import SandboxPolicy.Bytecode.Reader
import SandboxPolicy.Bytecode.Word
import SandboxPolicy.Catalogue
import SandboxPolicy.CommandLine.Arguments
import SandboxPolicy.CommandLine.Check
import SandboxPolicy.CommandLine.Failure
import SandboxPolicy.CommandLine.Report
import SandboxPolicy.CommandLine.Session
import SandboxPolicy.Compiler
import SandboxPolicy.Evaluator
import SandboxPolicy.HexDump
import SandboxPolicy.Json.Basic
import SandboxPolicy.Json.Cursor
import SandboxPolicy.Json.Number
import SandboxPolicy.Json.Printer
import SandboxPolicy.Json.Skip
import SandboxPolicy.Json.Text
import SandboxPolicy.Main
import SandboxPolicy.OperationTable
import SandboxPolicy.OperationTable.Builtin
import SandboxPolicy.Policy.Basic
import SandboxPolicy.Policy.Diagnostics
import SandboxPolicy.Policy.Error
import SandboxPolicy.Policy.Json
import SandboxPolicy.Policy.Parser
import SandboxPolicy.Proofs.BuilderRuns
import SandboxPolicy.Proofs.BuilderSteps
import SandboxPolicy.Proofs.Building
import SandboxPolicy.Proofs.Checking
import SandboxPolicy.Proofs.Collections
import SandboxPolicy.Proofs.Compiled
import SandboxPolicy.Proofs.Compiling
import SandboxPolicy.Proofs.Consistency
import SandboxPolicy.Proofs.Coverage
import SandboxPolicy.Proofs.Decoding
import SandboxPolicy.Proofs.Dissected
import SandboxPolicy.Proofs.Economy
import SandboxPolicy.Proofs.Evaluation
import SandboxPolicy.Proofs.FormReading
import SandboxPolicy.Proofs.Forms
import SandboxPolicy.Proofs.Graph
import SandboxPolicy.Proofs.Interning
import SandboxPolicy.Proofs.LastRule
import SandboxPolicy.Proofs.Layout
import SandboxPolicy.Proofs.Lexemes
import SandboxPolicy.Proofs.LiveRules
import SandboxPolicy.Proofs.Lowering
import SandboxPolicy.Proofs.Meaning
import SandboxPolicy.Proofs.Outcome
import SandboxPolicy.Proofs.Overflow
import SandboxPolicy.Proofs.Parsing
import SandboxPolicy.Proofs.PolicyText
import SandboxPolicy.Proofs.Printing
import SandboxPolicy.Proofs.Reaching
import SandboxPolicy.Proofs.Reading
import SandboxPolicy.Proofs.Repeating
import SandboxPolicy.Proofs.Rewriting
import SandboxPolicy.Proofs.RoundTrip
import SandboxPolicy.Proofs.Scanning
import SandboxPolicy.Proofs.Sections
import SandboxPolicy.Proofs.Sharing
import SandboxPolicy.Proofs.Shifting
import SandboxPolicy.Proofs.Sources
import SandboxPolicy.Proofs.Spelling
import SandboxPolicy.Proofs.Steps
import SandboxPolicy.Proofs.Tracing
import SandboxPolicy.Proofs.Walk
import SandboxPolicy.Proofs.WellFormed
import SandboxPolicy.Regex.Automaton
import SandboxPolicy.Regex.ByteRows
import SandboxPolicy.Regex.CharAutomaton
import SandboxPolicy.Regex.Class
import SandboxPolicy.Regex.Compile
import SandboxPolicy.Regex.Cursor
import SandboxPolicy.Regex.Escape
import SandboxPolicy.Regex.Expression
import SandboxPolicy.Regex.Fault
import SandboxPolicy.Regex.LiteralTrie
import SandboxPolicy.Regex.Matching
import SandboxPolicy.Regex.Meaning
import SandboxPolicy.Regex.Parser
import SandboxPolicy.Regex.Pattern
import SandboxPolicy.Regex.Property
import SandboxPolicy.Regex.PropertyNames
import SandboxPolicy.Regex.TextSearch
import SandboxPolicy.SExpr.Basic
import SandboxPolicy.SExpr.Reader
import SandboxPolicy.SExpr.Token
import SandboxPolicy.Settings
import SandboxPolicy.Text.Age
import SandboxPolicy.Text.CaseFolding
import SandboxPolicy.Text.Category
import SandboxPolicy.Text.CharSet
import SandboxPolicy.Text.Character
import SandboxPolicy.Text.Decimal
import SandboxPolicy.Text.EditDistance
import SandboxPolicy.Text.Numeral
import SandboxPolicy.Text.Position
import SandboxPolicy.Text.Property
import SandboxPolicy.Text.Quoted
import SandboxPolicy.Text.Repertoire
import SandboxPolicy.Text.Script
import SandboxPolicy.Text.Segmentation
import SandboxPolicy.Text.Split
import SandboxPolicy.Text.Utf8
import SandboxPolicy.Proofs.Splitting
import SandboxPolicy.Proofs.Positions
import SandboxPolicy.Proofs.Joining
import SandboxPolicy.Proofs.Spans
import SandboxPolicy.Proofs.Normalizing
import SandboxPolicy.Proofs.NodeBudget
import SandboxPolicy.Proofs.Capacity
import SandboxPolicy.Proofs.ItemPlaces
import SandboxPolicy.Proofs.Balance
import SandboxPolicy.Proofs.Descent
import SandboxPolicy.Proofs.Parentheses
import SandboxPolicy.Proofs.PolicyPlaces
import SandboxPolicy.Proofs.Spacing
import SandboxPolicy.Proofs.CoverageOrder
import SandboxPolicy.Proofs.SourceOrder
import SandboxPolicy.Proofs.Substituting
import SandboxPolicy.Proofs.References
import SandboxPolicy.Proofs.Inlining
import SandboxPolicy.Proofs.Replacing
import SandboxPolicy.Proofs.Trimming
import SandboxPolicy.Proofs.Duplicates
import SandboxPolicy.Proofs.Cleaning
import SandboxPolicy.Proofs.Ports
import SandboxPolicy.Proofs.PathComponents
import SandboxPolicy.Proofs.EditScripts
import SandboxPolicy.Proofs.Suggestions
import SandboxPolicy.Proofs.DumpLayout
import SandboxPolicy.Proofs.JsonForm
import SandboxPolicy.Proofs.ReaderSteps
