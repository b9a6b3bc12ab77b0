import FormulaSql.Bench.Corpus
import FormulaSql.Bench.Raised
import FormulaSql.Bench.Value

/-!
# Workloads

Eight workloads exercise the stages of the conversion. Each has one whole-number parameter, a size; a size below zero
counts as zero. The sizes of their results follow simple laws, for instance `n` cells joined by operators give `2 * n`
tokens.
-/

namespace FormulaSql.Bench

/-- The workloads. -/
inductive Workload where
  | tokenize
  | parse
  | convertTrees
  | fullPipeline
  | deepExpression
  | nestedFunctions
  | stringConcat
  | tableRefs
  deriving Repr, DecidableEq

namespace Workload

/-- All workloads with their names and the names of their parameters. -/
def all : List (String × String × Workload) := [
  ("tokenize", "n_chunks", tokenize),
  ("parse", "n_formulas", parse),
  ("convert_ast", "n_formulas", convertTrees),
  ("full_pipeline", "n_formulas", fullPipeline),
  ("deep_expression", "n_terms", deepExpression),
  ("nested_functions", "depth", nestedFunctions),
  ("string_concat", "n_strings", stringConcat),
  ("table_refs", "n_refs", tableRefs)]

/-! ## Formulas of a given size -/

/-- A text followed by `n` equal chunks of ten tokens each. -/
def chunks (n : Nat) : String :=
  "=\"seed\"" ++ String.join (List.replicate n "&SUM(A1,B2:C3)*-2.5%")

/-- Pieces divided by operators from a cycle: before the `i`-th piece stands the `i`-th operator, counted from zero. The
first piece has none before it, so the first operator of the cycle comes in when the others have had their turn. -/
def chain (operators : List String) (pieces : List String) : String :=
  String.join (pieces.zipIdx.map fun (p, i) =>
    (if i = 0 then "" else operators[i % operators.length]?.getD "") ++ p)

/-- The cell with a number: letters in turn, and the rows from one to fifty in turn. -/
def cellName (i : Nat) : String :=
  (Char.ofNat (65 + i % 26)).toString ++ toString (i % 50 + 1)

/-- A chain of `n` cells. -/
def cellChain (n : Nat) : String :=
  "=" ++ chain ["+", "*", "-", "/"] ((List.range n).map cellName)

/-- A conditional nested `n` times. -/
def nestedIf : Nat → String
  | 0 => "0"
  | n + 1 => "IF(A1>0, " ++ nestedIf n ++ ", 0)"

/-- A chain of `n` texts. -/
def textChain (n : Nat) : String :=
  "=" ++ chain ["&"] ((List.range n).map fun i => "\"s" ++ toString i ++ "\"")

/-- References to the columns of a table, taken in turn. -/
def tableColumns : List String :=
  ["Data[[#This Row],[Unit Price]]", "Data[Quantity]", "Data[[#This Row],[Revenue]]", "Data[Amount]"]

/-- A chain of `n` table references. -/
def tableChain (n : Nat) : String :=
  "=" ++ chain ["+"] ((List.range n).map fun i => tableColumns[i % tableColumns.length]?.getD "")

/-! ## Results -/

/-- The SQL of a formula of the corpus. -/
def sql (formula : Datum) : String :=
  (convertFormula formula corpusNames corpusSheet).spell

/-- The number of places where two bars stand in a text, counted without overlap. -/
def barPairs : List Char → Nat
  | '|' :: '|' :: cs => barPairs cs + 1
  | _ :: cs => barPairs cs
  | [] => 0

/-- The tree of a formula; every text has one. -/
def tree (formula : String) : Expr :=
  match parseFormula formula with
  | .ok e => e
  | .error _ => .blank

/-- The SQL of a tree, with the names of the corpus. -/
def treeSql (e : Expr) : String :=
  match Sql.convert corpusNames corpusSheet e with
  | .ok d => d.spell
  | .error _ => ""

/-- The number of tokens of a formula. -/
def tokenCount (formula : String) : Int :=
  (tokens formula).length

/-- The kinds of the first and the last token of a formula. -/
def endKinds (formula : String) : String × String :=
  let ts := tokens formula
  let name (t : Option Token) : String := (t.map (·.lexeme.kindName)).getD ""
  (name ts.head?, name ts.getLast?)

/-- What a workload of a size gives back. -/
def run (w : Workload) (size : Int) : Except Raised Value :=
  let n := size.toNat
  match w with
  | tokenize =>
    let formula := chunks n
    let (first, last) := endKinds formula
    .ok (.tuple [.whole (tokenCount formula), .text first, .text last])
  | parse => .ok (.list ((corpusFront n).map fun f => .text (tree f).kindName))
  | convertTrees => .ok (.list (((corpusFront n).map tree ++ [Expr.blank]).map fun e => .text (treeSql e)))
  | fullPipeline =>
    match corpusFront n with
    | [] => .error ⟨"IndexError", "list assignment index out of range"⟩
    | _ :: rest => .ok (.list ((Datum.null :: rest.map Datum.text).map fun f => .text (sql f)))
  | deepExpression =>
    let formula := cellChain n
    .ok (.tuple [.whole (tokenCount formula), .whole (sql formula).length])
  | nestedFunctions =>
    let formula := "=" ++ nestedIf n
    .ok (.tuple [.whole (tokenCount formula), .whole (sql formula).length])
  | stringConcat =>
    let formula := textChain n
    .ok (.tuple [.whole (tokenCount formula), .whole (barPairs (sql formula).toList)])
  | tableRefs =>
    let formula := tableChain n
    .ok (.tuple [.whole (tokenCount formula), .whole (sql formula).length])

end Workload

end FormulaSql.Bench
