import FormulaSql.Datum

/-!
# Tokens

A token is a piece of a formula together with the position where it starts. A number written in a formula is a double;
the placeholder for a missing operand, and numbers of trees that were built by hand, may be whole numbers of any size. A
reference to a table column names the table, the bracketed column part and the whole reference.
-/

namespace FormulaSql

/-- A number of a formula. -/
inductive Number where
  | whole (n : Int)
  | real (x : Float)
  deriving Repr, DecidableEq, Inhabited

namespace Number

/-- The text of a number: a whole number has no point, a double is the shortest decimal that reads back as it. -/
def text : Number → String
  | whole n => toString n
  | real x => Decimal.text x

end Number

/-- The parts of a table reference. Tokens that were built by hand may lack some. -/
structure TableParts where
  table : Option String
  column : Option String
  whole : Option String
  deriving Repr, DecidableEq, Inhabited

/-- What a token says. Tokens that were built by hand may lack the sheet name or the parts of a table reference. -/
inductive Lexeme where
  | number (value : Number)
  | text (value : String)
  | cell (name : String)
  | range (name : String)
  | table (parts : Option TableParts)
  | function (name : String)
  | operator (symbol : String)
  | openParen
  | closeParen
  | comma
  | sheet (name : Option String)
  | percent
  | finish
  deriving Repr, DecidableEq, Inhabited

/-- A lexeme and where it starts, counted in characters. -/
structure Token where
  lexeme : Lexeme
  position : Nat
  deriving Repr, DecidableEq, Inhabited

namespace Lexeme

/-- The word for a kind of token. -/
def kindName : Lexeme → String
  | number _ => "NUMBER"
  | text _ => "STRING"
  | cell _ => "CELL_REF"
  | range _ => "RANGE_REF"
  | table _ => "TABLE_REF"
  | function _ => "FUNCTION"
  | operator _ => "OPERATOR"
  | openParen => "LPAREN"
  | closeParen => "RPAREN"
  | comma => "COMMA"
  | sheet _ => "SHEET_REF"
  | percent => "PERCENT"
  | finish => "EOF"

/-- The value that a token carries. -/
def value : Lexeme → Datum
  | number (.whole n) => .whole n
  | number (.real x) => .real x
  | text s => s
  | cell s => s
  | range s => s
  | table none => .null
  | table (some parts) =>
    .dict ([("table", parts.table), ("column", parts.column), ("full", parts.whole)].filterMap
      fun (k, v) => v.map fun s => (k, Datum.text s))
  | function s => s
  | operator s => s
  | openParen => "("
  | closeParen => ")"
  | comma => ","
  | sheet none => .null
  | sheet (some s) => s
  | percent => "%"
  | finish => .null

end Lexeme

end FormulaSql
