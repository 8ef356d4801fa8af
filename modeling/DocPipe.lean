import DocPipe.CommandLine.Arguments
import DocPipe.CommandLine.Batch
import DocPipe.CommandLine.Environment
import DocPipe.CommandLine.Invocation
import DocPipe.CommandLine.LogFilter
import DocPipe.CommandLine.Message
import DocPipe.CommandLine.Outcome
import DocPipe.CommandLine.Run
import DocPipe.Filter.Comparison
import DocPipe.Filter.Expr
import DocPipe.Filter.Literal
import DocPipe.Filter.Operator
import DocPipe.Filter.Parser
import DocPipe.Filter.Token
import DocPipe.Input
import DocPipe.Json.Fault
import DocPipe.Json.Numeral
import DocPipe.Json.Printer
import DocPipe.Json.Reader
import DocPipe.Main
import DocPipe.Number.Basic
import DocPipe.Number.Binary64
import DocPipe.Number.Decimal
import DocPipe.Number.Notation
import DocPipe.Number.Shortest
import DocPipe.Number.Word
import DocPipe.Path.Basic
import DocPipe.Path.Lookup
import DocPipe.Path.Parser
import DocPipe.Pipeline
import DocPipe.Session
import DocPipe.Shell.Run
import DocPipe.Shell.Script
import DocPipe.Template.Expansion
import DocPipe.Template.Parser
import DocPipe.Template.Placeholder
import DocPipe.Text.Blank
import DocPipe.Text.CaseMap
import DocPipe.Text.Cased
import DocPipe.Text.Cut
import DocPipe.Text.DecimalDigit
import DocPipe.Text.DefaultIgnorable
import DocPipe.Text.GraphemeExtend
import DocPipe.Text.HexDigit
import DocPipe.Text.Lowercase
import DocPipe.Text.Quoted
import DocPipe.Text.Ranges
import DocPipe.Text.Unprintable
import DocPipe.Text.Utf8
import DocPipe.Value.Basic
import DocPipe.Value.Text
import DocPipe.Yaml.Cursor
import DocPipe.Yaml.Error
import DocPipe.Yaml.Node
import DocPipe.Yaml.Node.Parser
import DocPipe.Yaml.Reader
import DocPipe.Yaml.Scalar
import DocPipe.Yaml.Tag
import DocPipe.Yaml.Token
import DocPipe.Yaml.Token.BlockScalar
import DocPipe.Yaml.Token.FlowScalar
import DocPipe.Yaml.Token.Lexer
import DocPipe.Yaml.Token.Tag
import DocPipe.Proofs.Filter.Grammar
import DocPipe.Proofs.Filter.Step
import DocPipe.Proofs.Filter.Reading
import DocPipe.Proofs.Path.Places
import DocPipe.Proofs.Template.Pair
import DocPipe.Proofs.Template.Scan
import DocPipe.Proofs.Template.Pieces
import DocPipe.Proofs.Text.Utf8
import DocPipe.Proofs.Value.Decoded
import DocPipe.Proofs.Json.Numeral
import DocPipe.Proofs.Json.Reread
import DocPipe.Proofs.CommandLine.Handover
import DocPipe.Proofs.Filter.Shape
import DocPipe.Proofs.Filter.Composition
import DocPipe.Proofs.Filter.Descent
import DocPipe.Proofs.Number.PlainText
import DocPipe.Proofs.Filter.Equality
import DocPipe.Proofs.Filter.Written
import DocPipe.Proofs.Path.Concatenation
import DocPipe.Proofs.CommandLine.Accounts
import DocPipe.Proofs.CommandLine.Check
import DocPipe.Proofs.CommandLine.Execution
import DocPipe.Proofs.Path.Canonical
import DocPipe.Proofs.Filter.Completion
import DocPipe.Proofs.Template.Resolvable
import DocPipe.Proofs.Template.Seam
import DocPipe.Proofs.Template.Normal
import DocPipe.Proofs.CommandLine.Locality
import DocPipe.Proofs.Pipeline.SharedKey
import DocPipe.Proofs.CommandLine.Agreement
import DocPipe.Proofs.Text.Lowercase
import DocPipe.Proofs.Filter.TextOperators
import DocPipe.Proofs.Number.Integers
import DocPipe.Proofs.Filter.WholeNumbers
import DocPipe.Proofs.Number.IntegerText
import DocPipe.Proofs.Filter.Membership
import DocPipe.Proofs.Filter.NumberWords
import DocPipe.Proofs.Path.Positions
