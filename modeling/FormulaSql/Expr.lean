import FormulaSql.Token

/-!
# Expressions

The tree of a formula. Trees can also be built by hand from loosely typed documents, so the fields that such documents
may fill with anything are data; a parser always fills them with texts, with null for a missing sheet.
-/

namespace FormulaSql

/-- The tree of a formula. -/
inductive Expr where
  | number (value : Number)
  | text (value : Datum)
  | cell (name sheet : Datum)
  | range (name : String) (sheet : Datum)
  | table (table column : Datum) (whole : Datum)
  | call (name : Datum) (args : List Expr)
  | binary (symbol : String) (left right : Expr)
  | unary (symbol : String) (operand : Expr)
  /-- A node that says nothing. -/
  | blank
  deriving Repr, BEq, Inhabited

namespace Expr

/-- The placeholder for a missing operand. -/
def missing : Expr :=
  number (.whole 0)

/-- The word for a kind of node. -/
def kindName : Expr → String
  | number _ => "NumberNode"
  | text _ => "StringNode"
  | cell _ _ => "CellRefNode"
  | range _ _ => "RangeRefNode"
  | table _ _ _ => "TableRefNode"
  | call _ _ => "FunctionNode"
  | binary _ _ _ => "BinaryOpNode"
  | unary _ _ => "UnaryOpNode"
  | blank => "ASTNode"

end Expr

end FormulaSql
