import FormulaSql.Expr
import FormulaSql.Fault
import FormulaSql.Sql.Call
import FormulaSql.Sql.Column
import FormulaSql.Text

/-!
# SQL of expressions

A tree is written as an SQL expression. Column letters and sheet names are replaced through two tables of names; a name
that a table does not hold is put into lower case. A table may map a name to a value that is no text: the value is kept,
spelled out where it becomes part of a longer text, and refused only where texts have to be joined.
-/

namespace FormulaSql.Sql

/-- The tables of names. Each should be a dictionary of texts, but nothing promises it. -/
structure Names where
  columns : Datum
  sheets : Datum
  deriving Repr, BEq, Inhabited

/-- Looks a name up. The fallback is computed before the look-up, but after the table has been found to be one. -/
def lookup (table : Datum) (name : Datum) (fallback : Except Fault String) : Except Fault Datum :=
  match table with
  | .dict entries => do
    let d ← fallback
    match name with
    | .text s => return (entries.lookup s).getD d
    | _ => return d
  | t => .error (.unsupported t.kind .lookup)

/-- The lower case of a value that should be a text. -/
def lowerCase : Datum → Except Fault String
  | .text s => .ok (Text.lower s)
  | d => .error (.unsupported d.kind .lower)

/-- A text literal: quotes are doubled. -/
def literal (s : String) : String :=
  "'" ++ String.ofList (s.toList.flatMap fun c => if c = '\x27' then ['\x27', '\x27'] else [c]) ++ "'"

/-- The column letters of a cell: its name without dollar signs and digits. -/
def columnLetters (name : String) : String :=
  String.ofList (name.toList.filter fun c => !(c == '$' || Text.isDigit c))

/-- A cell is written as its column, qualified by its sheet unless that is the current one. -/
def cell (names : Names) (current : Datum) (name sheet : Datum) : Except Fault Datum :=
  match name with
  | .text s => do
    let letters := columnLetters s
    let column ← lookup names.columns letters (.ok (Text.lower letters))
    if sheet.isPresent && !sheet.agrees current then
      let table ← lookup names.sheets sheet (lowerCase sheet)
      return table.spell ++ "." ++ column.spell
    else return column
  | d => .error (.notText d.kind)

/-- A table reference is written as its column name, or as the table name where no column name is left. -/
def tableColumn (table column : Datum) : Except Fault Datum :=
  match column with
  | .text s =>
    match (thisRowTitle? s.toList).or (simpleTitle? s.toList) with
    | some title => .ok (columnName title)
    | none => do
      let name := columnName (looseTitle s.toList)
      if name.isEmpty then return Datum.text (← lowerCase table) else return name
  | d => .error (.notText d.kind)

/-- The SQL operator of a binary operator; others stay as they are. -/
def operator (symbol : String) : String :=
  match symbol with
  | "^" => "POWER"
  | "&" => "||"
  | "<>" => "!="
  | s => s

/-- A binary operation. A power is written as a call. -/
def binary (symbol left right : String) : String :=
  let op := operator symbol
  if op = "POWER" then "POWER(" ++ left ++ ", " ++ right ++ ")" else "(" ++ left ++ " " ++ op ++ " " ++ right ++ ")"

/-- A signed operand. A plus sign leaves the operand as it is. -/
def unary (symbol : String) (operand : Datum) : Datum :=
  if symbol = "-" then "(-" ++ operand.spell ++ ")" else operand

/-- The first argument from the index `i` on that is no text. -/
def firstNotText? (i : Nat) : List Datum → Option (Nat × Datum.Kind)
  | [] => none
  | .text _ :: ds => firstNotText? (i + 1) ds
  | d :: _ => some (i, d.kind)

/-- A call, by its upper-case name. -/
def call (name : String) (args : List Datum) : Except Fault Datum :=
  let style := style name args.length
  match if style.joins then firstNotText? 0 args else none with
  | some (i, kind) => .error (.notJoined i kind)
  | none => .ok (style.write (args.map Datum.spell))

/-- The upper case of a value that should be a text. -/
def upperCase : Datum → Except Fault String
  | .text s => .ok (Text.upper s)
  | d => .error (.unsupported d.kind .upper)

mutual

/-- Writes a tree. -/
def convert (names : Names) (current : Datum) : Expr → Except Fault Datum
  | .number value => .ok value.text
  | .text (.text s) => .ok (literal s)
  | .text d => .error (.unsupported d.kind .replace)
  | .cell name sheet => cell names current name sheet
  | .range name _ => .ok ("/* RANGE: " ++ name ++ " */")
  | .table table column _ => tableColumn table column
  | .binary symbol left right => do
    let left ← convert names current left
    let right ← convert names current right
    return binary symbol left.spell right.spell
  | .unary symbol operand => do
    let operand ← convert names current operand
    return unary symbol operand
  | .call name args => do
    let name ← upperCase name
    let args ← convertAll names current args
    call name args
  | .blank => .ok "NULL"

/-- Writes the arguments of a call from left to right. -/
def convertAll (names : Names) (current : Datum) : List Expr → Except Fault (List Datum)
  | [] => .ok []
  | e :: es => do
    let d ← convert names current e
    let ds ← convertAll names current es
    return d :: ds

end

end FormulaSql.Sql
