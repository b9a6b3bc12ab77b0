import FormulaSql.Datum
import FormulaSql.Expr
import FormulaSql.Token

/-!
# Values of workloads

What a workload can give back. Unlike the data of documents these values include tuples, sets, bytes, records and objects
of which only the type is known.
-/

namespace FormulaSql.Bench

/-- A value that a workload gives back. -/
inductive Value where
  | null
  | bool (b : Bool)
  | whole (n : Int)
  | real (x : Float)
  | text (s : String)
  | bytes (typeName : String) (data : List UInt8)
  | complex (re im : Float)
  | list (items : List Value)
  | tuple (items : List Value)
  | set (typeName : String) (items : List Value)
  | dict (entries : List (Value × Value))
  /-- A record with named fields. -/
  | record (typeName : String) (fields : List (String × Value))
  /-- A value that is known by how it is written. -/
  | written (typeName spelling : String)
  /-- An object of which only the type, with the module that holds it, is known. -/
  | object (home typeName : String)
  /-- A numeric array: the code of its items, its extents and its bytes. -/
  | array (code : String) (shape : List Nat) (data : List UInt8)
  deriving Repr, BEq, Inhabited

namespace Value

/-- The name of a value's type. -/
def typeName : Value → String
  | null => "NoneType"
  | bool _ => "bool"
  | whole _ => "int"
  | real _ => "float"
  | text _ => "str"
  | bytes name _ => name
  | complex _ _ => "complex"
  | list _ => "list"
  | tuple _ => "tuple"
  | set name _ => name
  | dict _ => "dict"
  | record name _ => name
  | written name _ => name
  | object _ name => name
  | array _ _ _ => "ndarray"

mutual

/-- A datum as a value. -/
def ofDatum : Datum → Value
  | .null => null
  | .bool b => bool b
  | .whole n => whole n
  | .real x => real x
  | .text s => text s
  | .list items => list (ofData items)
  | .dict entries => dict (ofEntries entries)

/-- A list of data as values. -/
def ofData : List Datum → List Value
  | [] => []
  | d :: ds => ofDatum d :: ofData ds

/-- The entries of a dictionary as values. -/
def ofEntries : List (String × Datum) → List (Value × Value)
  | [] => []
  | (k, d) :: es => (text k, ofDatum d) :: ofEntries es

end

/-- A number of a formula as a value. -/
def ofNumber : Number → Value
  | .whole n => whole n
  | .real x => real x

/-- The module that holds the types of formulas. -/
def formulaModule : String :=
  "ExcelToSQL.core.excel_formula_parser"

mutual

/-- A tree as a record. A node that says nothing is an object. -/
def ofExpr : Expr → Value
  | .number value => record "NumberNode" [("value", ofNumber value)]
  | .text value => record "StringNode" [("value", ofDatum value)]
  | .cell name sheet => record "CellRefNode" [("cell", ofDatum name), ("sheet", ofDatum sheet)]
  | .range name sheet => record "RangeRefNode" [("range", text name), ("sheet", ofDatum sheet)]
  | .table table column full =>
    record "TableRefNode" [("table", ofDatum table), ("column", ofDatum column), ("full_ref", ofDatum full)]
  | .call name args => record "FunctionNode" [("name", ofDatum name), ("args", list (ofExprs args))]
  | .binary symbol left right =>
    record "BinaryOpNode" [("operator", text symbol), ("left", ofExpr left), ("right", ofExpr right)]
  | .unary symbol operand => record "UnaryOpNode" [("operator", text symbol), ("operand", ofExpr operand)]
  | .blank => object formulaModule "ASTNode"

/-- Trees as records. -/
def ofExprs : List Expr → List Value
  | [] => []
  | e :: es => ofExpr e :: ofExprs es

end

/-- A token as a record. -/
def ofToken (t : Token) : Value :=
  record "Token" [("type", object formulaModule "TokenType"), ("value", ofDatum t.lexeme.value),
    ("position", whole t.position)]

/-- Whether two values count as the same key: numbers are compared by their value. -/
def sameKey : Value → Value → Bool
  | bool a, whole n => (if a then 1 else 0) == n
  | whole n, bool a => (if a then 1 else 0) == n
  | bool a, real x => (if a then 1.0 else 0.0) == x
  | real x, bool a => (if a then 1.0 else 0.0) == x
  | whole n, real x => Float.ofInt n == x
  | real x, whole n => Float.ofInt n == x
  | a, b => a == b

/-- Adds an item to a set unless it is there already. -/
def insertItem (items : List Value) (v : Value) : List Value :=
  if items.any (sameKey · v) then items else items ++ [v]

/-- Sets the value of a key: a known key keeps its place. -/
def putEntry (entries : List (Value × Value)) (k v : Value) : List (Value × Value) :=
  if entries.any (sameKey ·.1 k) then entries.map fun e => if sameKey e.1 k then (e.1, v) else e
  else entries ++ [(k, v)]

end Value

end FormulaSql.Bench
