import FormulaSql.Bench.Document
import FormulaSql.Bench.Suite
import FormulaSql.Datum.Writer

/-!
# Coverage runs

All benches of a suite are called once while coverage is measured. The errors that benches raised and the number of
benches are added to the coverage report, and its totals are printed.
-/

namespace FormulaSql.Bench.Coverage

/-- What a run leaves behind: what was printed, the files that were written, and the error that stopped it. -/
structure Result where
  printed : String
  files : List (String × String)
  failure : Option Raised
  deriving Repr

/-- The errors of the benches of a suite by name, and the number of benches called. -/
def benchErrors (s : Suite) : List (String × Datum) × Nat :=
  match s.loadError with
  | some r => ([("<import>", r.line)], 0)
  | none =>
    let benches := s.inOrder
    (benches.filterMap fun b =>
      match b.call 0 [] with
      | .value _ => none
      | .raised r => some (b.name, Datum.text r.line)
      | .timeout => some (b.name, Datum.text "TimeoutError: "), benches.length)

/-- Adds what is known of the benches to a report. -/
def annotate (report : Datum) (errors : List (String × Datum)) (count : Nat) : Except Raised Datum :=
  match report with
  | .dict es => do
    let notes := (es.lookup "meta").getD (.dict [])
    let notes ← Document.assign notes "_pti_bench_errors" (.dict errors)
    let notes ← Document.assign notes "_pti_n_benches" (.whole count)
    return .dict (Datum.put es "meta" notes)
  | d => .error (.noMember d "setdefault")

/-- The line on the totals of a report. -/
def totalsLine (report : Datum) (errors benches : Nat) : Except Raised String := do
  let totals ← Document.item report "totals"
  let percent ← Document.fixed 1 (← Document.item totals "percent_covered")
  let covered ← Document.item totals "covered_lines"
  let statements ← Document.item totals "num_statements"
  return "coverage: " ++ percent ++ "% (" ++ covered.spell ++ "/" ++ statements.spell ++ " stmts, " ++ toString benches
    ++ " benches, " ++ toString errors ++ " errors)\n"

/-- Runs with the arguments of the command line: the program, the repository, the suite, the report file, and a list of
files to leave out. `report` is what the measurement writes to the report file. -/
def run (arguments : List String) (s : Suite) (report : String) : Result :=
  match arguments with
  | _ :: _ :: _ :: out :: exclusions :: _ =>
    match readDocument exclusions with
    | .error r => ⟨"", [], some r⟩
    | .ok _ =>
      let (errors, count) := benchErrors s
      match readDocument report >>= fun d => annotate d errors count with
      | .error r => ⟨"", [(out, report)], some r⟩
      | .ok d =>
        let files := [(out, d.json)]
        match totalsLine d errors.length count with
        | .ok line => ⟨line, files, none⟩
        | .error r => ⟨"", files, some r⟩
  | _ => ⟨"", [], some .listIndex⟩

end FormulaSql.Bench.Coverage
