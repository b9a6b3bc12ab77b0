import FormulaSql.Expr.Parser
import FormulaSql.Sql.Converter
import FormulaSql.Token.Lexer

/-!
# From a formula to SQL

`convertFormula` puts the stages together and never fails: whatever goes wrong becomes a comment that names the formula
and the fault. A `Converter` keeps the tables of names and the current sheet between conversions.
-/

namespace FormulaSql

/-- The tree of a formula. -/
def parseFormula (formula : Datum) : Except Fault Expr := do
  let lexer ← Lexer.ofDatum formula
  match Parser.parse lexer.finish.2 with
  | .ok (e, _) => return e
  | .error failure => throw failure.fault

/-- The comment that stands for a formula that could not be converted. -/
def faultComment (formula : Datum) (fault : Fault) : String :=
  "/* ERROR converting formula: " ++ formula.spell ++ " - " ++ fault.message ++ " */"

/-- Converts a formula on a sheet to SQL. -/
def convertFormula (formula : Datum) (names : Sql.Names) (sheet : Datum) : Datum :=
  match parseFormula formula >>= Sql.convert names sheet with
  | .ok sql => sql
  | .error fault => faultComment formula fault

/-- Sets a name in a table of names, which has to be a dictionary. -/
def assignName (table : Datum) (key : String) (value : Datum) : Except Fault Datum :=
  match table with
  | .dict entries => .ok (.dict (Datum.put entries key value))
  | .list _ => .error .notIndex
  | d => .error (.notAssignable d.kind)

/-- Tables of names and a current sheet, which is null before the first conversion. -/
structure Converter where
  names : Sql.Names
  sheet : Datum
  deriving Repr, BEq

namespace Converter

/-- A converter that has converted nothing. -/
def ofNames (names : Sql.Names) : Converter :=
  ⟨names, .null⟩

/-- Writes a tree on the current sheet. -/
def node (c : Converter) (e : Expr) : Except Fault Datum :=
  Sql.convert c.names c.sheet e

/-- Moves to a sheet and writes a tree there. The converter stays on that sheet even if the tree cannot be written. -/
def convert (c : Converter) (e : Expr) (sheet : Datum) : Converter × Except Fault Datum :=
  let c := { c with sheet := sheet }
  (c, c.node e)

/-- Maps column letters to a name. -/
def setColumn (c : Converter) (key : String) (value : Datum) : Except Fault Converter := do
  return { c with names := { c.names with columns := ← assignName c.names.columns key value } }

/-- Maps a sheet to a name. -/
def setSheet (c : Converter) (key : String) (value : Datum) : Except Fault Converter := do
  return { c with names := { c.names with sheets := ← assignName c.names.sheets key value } }

end Converter

end FormulaSql
