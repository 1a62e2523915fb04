import DataGrid.Clause
import DataGrid.Cli.Args
import DataGrid.Cli.Report
import DataGrid.Cli.Run
import DataGrid.Config
import DataGrid.Double.Basic
import DataGrid.Double.Bits
import DataGrid.Double.Layout
import DataGrid.Double.Numeral
import DataGrid.Double.Shortest
import DataGrid.Envelope
import DataGrid.Error
import DataGrid.Execution
import DataGrid.Filter.Compile
import DataGrid.Filter.Parser
import DataGrid.Filter.Tree
import DataGrid.Fixture
import DataGrid.Joiner
import DataGrid.Json.Basic
import DataGrid.Json.Decode
import DataGrid.Json.Fault
import DataGrid.Json.Node
import DataGrid.Json.Printer
import DataGrid.Json.Read
import DataGrid.Json.Record
import DataGrid.Json.Token
import DataGrid.Main
import DataGrid.Memory.Evaluate
import DataGrid.Memory.Order
import DataGrid.Memory.Table
import DataGrid.Operand
import DataGrid.Operator
import DataGrid.Pattern
import DataGrid.Query
import DataGrid.Query.Building
import DataGrid.Query.Program
import DataGrid.Reference
import DataGrid.Request
import DataGrid.SortKey
import DataGrid.Sql.Condition
import DataGrid.Sql.Dialect
import DataGrid.Sql.Junction
import DataGrid.Sql.Select
import DataGrid.Sql.Text
import DataGrid.Text.Alphanumeric
import DataGrid.Text.Basic
import DataGrid.Text.CaseFold
import DataGrid.Text.GraphemeExtend
import DataGrid.Text.Quoted
import DataGrid.Text.Unprintable
import DataGrid.Variables.File
import DataGrid.Variables.Line
import DataGrid.Variables.Value
import DataGrid.Window
import DataGrid.Proofs.Clause.Fold
import DataGrid.Proofs.Sql.Junction
import DataGrid.Proofs.Sql.Grammar
import DataGrid.Proofs.Sql.Truth
import DataGrid.Proofs.Sql.Where
import DataGrid.Proofs.Clause.Solid
import DataGrid.Proofs.Filter.Compile
import DataGrid.Proofs.Filter.Resolve
import DataGrid.Proofs.Query.Reachable
import DataGrid.Proofs.Filter.Meaning
import DataGrid.Proofs.Execution.Prepare
import DataGrid.Proofs.Sql.Template
import DataGrid.Proofs.Sql.Pieces
import DataGrid.Proofs.Sql.Placeholder
import DataGrid.Proofs.Sql.Carried
import DataGrid.Proofs.Sql.Alike
import DataGrid.Proofs.Sql.Statement
import DataGrid.Proofs.Sql.Operands
import DataGrid.Proofs.Execution.Cap
import DataGrid.Proofs.Execution.Rejection
import DataGrid.Proofs.Execution.Exchange
import DataGrid.Proofs.Memory.Order
import DataGrid.Proofs.Memory.Page
import DataGrid.Proofs.Json.Read
import DataGrid.Proofs.Reference.Shape
import DataGrid.Proofs.Reference.Agreement
import DataGrid.Proofs.Execution.Bounds
import DataGrid.Proofs.Memory.Walk
import DataGrid.Proofs.Query.Building
import DataGrid.Proofs.Query.Direct
import DataGrid.Proofs.Sql.Offset
import DataGrid.Proofs.Json.Faithful
import DataGrid.Proofs.Json.Parts
import DataGrid.Proofs.Json.FaithfulRecord
import DataGrid.Proofs.Request.Text
import DataGrid.Proofs.Double.Rounding
import DataGrid.Proofs.Double.Bits
import DataGrid.Proofs.Memory.Values
import DataGrid.Proofs.Memory.Stable
import DataGrid.Proofs.Memory.Sorting
import DataGrid.Proofs.Result
import DataGrid.Proofs.Operand
import DataGrid.Proofs.Filter.Parsing
import DataGrid.Proofs.Filter.Grammar
import DataGrid.Proofs.Filter.Runs
import DataGrid.Proofs.Filter.Path
import DataGrid.Proofs.Filter.Fault
import DataGrid.Proofs.Filter.Acceptance
import DataGrid.Proofs.Sql.Null
import DataGrid.Proofs.Pattern
import DataGrid.Proofs.Memory.Like
import DataGrid.Proofs.Double.Nearest
import DataGrid.Proofs.Memory.Compare
import DataGrid.Proofs.Memory.Integers
import DataGrid.Proofs.Double.Numeral
import DataGrid.Proofs.Double.Stepwise
import DataGrid.Proofs.Double.Exact
import DataGrid.Proofs.Execution.Truncation
import DataGrid.Proofs.Double.Layout
import DataGrid.Proofs.Memory.OwnText
import DataGrid.Proofs.Operand.Decoding
import DataGrid.Proofs.Sql.Membership
import DataGrid.Proofs.Sql.Like
import DataGrid.Proofs.Sql.Arranged
import DataGrid.Proofs.Sql.Lexing
import DataGrid.Proofs.Sql.Inline
import DataGrid.Proofs.Sql.NullOrder
import DataGrid.Proofs.Memory.Underscores
import DataGrid.Pattern.Automaton
