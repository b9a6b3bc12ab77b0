import FormulaSql.Bench.Round.Signal
import FormulaSql.Bench.Origin
import FormulaSql.Text.Word

/-!
# Coverage of a round

The totals of a coverage report and its table of files: the least covered files first, and of equally covered ones those
with the most statements first.
-/

namespace FormulaSql.Bench.Round

/-- What a round takes from a coverage report. -/
structure Totals where
  percent : Float
  covered : Int
  statements : Int
  /-- Errors of benches by name. -/
  errors : List (String × Datum)
  files : Datum
  deriving Repr

/-- Reads the totals of a report; parts that are absent count as empty. -/
def Totals.ofReport (report : Datum) : Except Raised Totals := do
  let totals ← Document.sectionOf report "totals"
  let percent ← Document.get totals "percent_covered" (.real 0.0) >>= Document.real
  let covered ← Document.get totals "covered_lines" (.whole 0) >>= Document.whole
  let statements ← Document.get totals "num_statements" (.whole 0) >>= Document.whole
  let errors ← Document.sectionOf (← Document.sectionOf report "meta") "_pti_bench_errors"
  let errors ← Document.entries errors "items"
  let files ← Document.sectionOf report "files"
  return ⟨percent, covered, statements, errors, files⟩

/-- Whether a text starts with the definition of a bench: a function of that family with a name of its own and an opening
parenthesis, before which blanks may stand. -/
def definesBench (text : List Char) : Bool :=
  let mark := "def bench_".toList
  let (name, rest) := (text.drop mark.length).span Text.isWord
  mark.isPrefixOf text && !name.isEmpty && (rest.dropWhile Text.isBlank).head? = some '('

/-- What follows each line break of a text. -/
def behindBreaks : List Char → List (List Char)
  | [] => []
  | c :: cs => if c = '\n' then cs :: behindBreaks cs else behindBreaks cs

/-- The number of benches that a suite's text defines at the starts of its lines. -/
def benchCount (suite : String) : Nat :=
  (suite.toList :: behindBreaks suite.toList).countP definesBench

/-- A file of the table. -/
structure FileRow where
  name : String
  statements : Int
  missing : Int
  percent : Float
  lines : List Datum
  deriving Repr

/-- Reads the row of a file. -/
def FileRow.ofReport (path : String) (d : Datum) : Except Raised FileRow := do
  let summary ← Document.sectionOf d "summary"
  let statements ← Document.get summary "num_statements" (.whole 0) >>= Document.whole
  let missing ← Document.get summary "missing_lines" (.whole 0) >>= Document.whole
  let percent ← Document.get summary "percent_covered" (.real 0.0) >>= Document.real
  let lines ← Document.get d "missing_lines" .null
  let lines ← if lines.isPresent then Document.items lines else pure []
  return ⟨Path.relative Origin.repository path, statements, missing, percent, lines⟩

/-- Whether a row may stand before another one. -/
def FileRow.before (a b : FileRow) : Bool :=
  a.percent < b.percent || (a.percent == b.percent && a.statements ≥ b.statements)

/-- The widest that a name is shown. -/
def widestName : Nat := 60

/-- The greatest number of rows that are shown. -/
def rowLimit : Nat := 120

/-- The shown part of a row's name. -/
def FileRow.shown (r : FileRow) : String :=
  String.ofList (r.name.toList.take widestName)

/-- The first missing lines; dots tell that there are more. -/
def FileRow.shownLines (r : FileRow) : String :=
  ",".intercalate ((r.lines.take 12).map Datum.spell) ++ if 12 < r.lines.length then "…" else ""

/-- The columns of counts and percentage. -/
def countColumns (statements missing : Int) (percent : Float) : String :=
  "  " ++ padLeft 5 (toString statements) ++ "  " ++ padLeft 4 (toString missing) ++ "  "
    ++ padLeft 4 (Decimal.fixed 0 percent) ++ "%"

/-- A line of the table. -/
def FileRow.line (width : Nat) (r : FileRow) : String :=
  padRight width r.shown ++ countColumns r.statements r.missing r.percent ++ "  " ++ r.shownLines ++ "\n"

/-- The rows of the table in their order. -/
def Totals.rows (t : Totals) : Except Raised (List FileRow) := do
  let rows ← (← Document.entries t.files "items").mapM fun (path, d) => FileRow.ofReport path d
  return rows.mergeSort FileRow.before

/-- The table of the files. -/
def Totals.table (t : Totals) : Except Raised String := do
  let rows ← t.rows
  let width := rows.foldl (fun w r => max w r.shown.length) 4
  let rule := String.ofList (List.replicate (width + 42) '-') ++ "\n"
  let head := padRight width "Name" ++ "  Stmts  Miss  Cover  Missing\n"
  let total := padRight width "TOTAL" ++ countColumns t.statements (t.statements - t.covered) t.percent ++ "\n"
  return head ++ rule ++ String.join ((rows.take rowLimit).map (FileRow.line width)) ++ rule ++ total

end FormulaSql.Bench.Round
