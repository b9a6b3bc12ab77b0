import FormulaSql.Bench.Control
import FormulaSql.Bench.Coverage
import FormulaSql.Bench.Round.Report
import FormulaSql.Bench.SelfCheck
import FormulaSql.Bench.TimeShare
import FormulaSql.Bench.Written
import FormulaSql.Conversion
import FormulaSql.Datum.Reader
import FormulaSql.Datum.Writer
import FormulaSql.Demo
import FormulaSql.Main
import FormulaSql.Proofs.Parser.Fuel
import FormulaSql.Proofs.Parser.Runs
import FormulaSql.Proofs.Parser.Grammar
import FormulaSql.Proofs.Parser.Arguments
import FormulaSql.Proofs.Decimal.Sign
import FormulaSql.Proofs.Sql.Scanner
import FormulaSql.Proofs.Text.Case
import FormulaSql.Proofs.Text.Runs
import FormulaSql.Proofs.Token.Shape
import FormulaSql.Proofs.Parser.Shape
import FormulaSql.Proofs.Sql.Quiet
import FormulaSql.Proofs.Sql.Layout
import FormulaSql.Proofs.Sql.Containment
import FormulaSql.Proofs.Quoting
import FormulaSql.Proofs.Sql.Literals
import FormulaSql.Proofs.Decimal.Reading
import FormulaSql.Proofs.Token.Cutting
import FormulaSql.Proofs.Token.Partition
import FormulaSql.Proofs.Faultless
import FormulaSql.Proofs.Sql.Fragment
import FormulaSql.Proofs.Sql.Operands
import FormulaSql.Proofs.Sql.Readability
import FormulaSql.Proofs.Datum.Numerals
import FormulaSql.Proofs.Datum.Roundtrip
import FormulaSql.Proofs.Bench.Checkpoint
import FormulaSql.Proofs.Bench.Outcomes
import FormulaSql.Proofs.Bench.Rows
import FormulaSql.Proofs.Bench.Stopping
import FormulaSql.Proofs.Bench.Streams
import FormulaSql.Proofs.Bench.Arrangement
import FormulaSql.Proofs.Bench.Scaling
import FormulaSql.Proofs.Bench.Separation
import FormulaSql.Proofs.Bench.Verdicts
import FormulaSql.Proofs.Token.CallNames
import FormulaSql.Proofs.Token.SheetNames
import FormulaSql.Proofs.Parser.Derivations
import FormulaSql.Proofs.Parser.Listing
import FormulaSql.Proofs.Parser.Tail
import FormulaSql.Proofs.Parser.Unclosed
import FormulaSql.Proofs.Token.Longest
import FormulaSql.Proofs.Token.Spacing
import FormulaSql.Proofs.Sql.TableColumns
import FormulaSql.Proofs.Sql.TableNames
import FormulaSql.Proofs.Trimming
import FormulaSql.Proofs.Token.Matching
import FormulaSql.Proofs.Bench.Chains
import FormulaSql.Proofs.Sql.Dependence
import FormulaSql.Proofs.Parser.Calls
