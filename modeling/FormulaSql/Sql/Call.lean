/-!
# SQL of calls

Each function of formulas is written in one of a few styles. Functions that SQL does not have become comments, and so do
those with too few arguments.
-/

namespace FormulaSql.Sql

/-- How a call is written. -/
inductive Style where
  /-- The function under its own name with all arguments. -/
  | plain (name : String)
  /-- A choice between two values. -/
  | choice
  /-- A value with a fallback. -/
  | fallback
  /-- All arguments joined by a connective, in parentheses. -/
  | joined (connective : String)
  | negation
  /-- A note on what is left to be done by hand. -/
  | note (name goal : String)
  /-- A function of the first argument. -/
  | first (name : String)
  /-- A comment that keeps a call that is not known. -/
  | unknown (name : String)
  deriving Repr, DecidableEq

/-- The style of a call by its upper-case name and the number of its arguments. -/
def style (name : String) (count : Nat) : Style :=
  if ["SUM", "AVG", "COUNT", "MIN", "MAX", "ROUND", "ABS", "SQRT"].contains name then .plain name
  else if name = "IF" ∧ 2 ≤ count then .choice
  else if name = "IFERROR" ∧ 2 ≤ count then .fallback
  else if name = "AND" then .joined "AND"
  else if name = "OR" then .joined "OR"
  else if name = "NOT" then .negation
  else if ["INDEX", "MATCH", "VLOOKUP", "HLOOKUP", "XLOOKUP"].contains name then .note name "JOIN"
  else if ["COUNTIFS", "SUMIFS", "AVERAGEIFS", "COUNTIF", "SUMIF"].contains name then .note name "WHERE clause"
  else if name = "LEN" then .first "LENGTH"
  else if ["CONCAT", "CONCATENATE"].contains name then .plain "CONCAT"
  else if ["TRIM", "UPPER", "LOWER"].contains name then .first name
  else .unknown name

/-- Whether all arguments are joined to one text, for which each of them has to be a text. -/
def Style.joins : Style → Bool
  | plain _ | joined _ | note _ _ | unknown _ => true
  | choice | fallback | negation | first _ => false

/-- The argument with an index, or a default where there is none. -/
def argument (args : List String) (i : Nat) (default : String) : String :=
  args[i]?.getD default

/-- Writes a call. -/
def Style.write (style : Style) (args : List String) : String :=
  let all := ", ".intercalate args
  match style with
  | plain name => name ++ "(" ++ all ++ ")"
  | choice =>
    "CASE WHEN " ++ argument args 0 "" ++ " THEN " ++ argument args 1 "" ++ " ELSE " ++ argument args 2 "NULL" ++ " END"
  | fallback => "COALESCE(" ++ argument args 0 "" ++ ", " ++ argument args 1 "" ++ ")"
  | joined connective => "(" ++ (" " ++ connective ++ " ").intercalate args ++ ")"
  | negation => "NOT (" ++ argument args 0 "TRUE" ++ ")"
  | note name goal => "/* TODO: " ++ name ++ "(" ++ all ++ ") - Convert to " ++ goal ++ " */"
  | first name => name ++ "(" ++ argument args 0 "NULL" ++ ")"
  | unknown name => "/* " ++ name ++ "(" ++ all ++ ") */"

end FormulaSql.Sql
