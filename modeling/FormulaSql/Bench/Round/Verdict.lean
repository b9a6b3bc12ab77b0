import FormulaSql.Bench.Round.Signal

/-!
# Verdicts of a round

The self check reports a row per bench; a verdict says what is wrong with the bench, if anything. The first test that a
row fails decides. Rows are judged one by one: where one cannot be judged the rest is left, and the verdicts on the rows
before it stay.
-/

namespace FormulaSql.Bench.Round

/-- What is said of a bench. -/
inductive Verdict where
  | error
  | returnsNone
  | unstable
  | returnsInput
  | lowShare
  | tooFast
  | okUnparam
  | paramInvariant
  | repoModified
  | ok
  deriving Repr, DecidableEq

namespace Verdict

/-- The word for a verdict. -/
def name : Verdict → String
  | error => "error"
  | returnsNone => "returns-none"
  | unstable => "unstable"
  | returnsInput => "returns-input"
  | lowShare => "low-repo-time"
  | tooFast => "too-fast"
  | okUnparam => "ok-unparam"
  | paramInvariant => "param-invariant"
  | repoModified => "repo-modified"
  | ok => "ok"

/-- Whether nothing has to be mended. -/
def isGood : Verdict → Bool
  | ok | okUnparam => true
  | _ => false

end Verdict

/-- A judged bench: the verdict, the type of its result, the least share and the middle time of its runs. -/
structure Judged where
  verdict : Verdict
  resultType : String
  share : Float
  milliseconds : Float
  deriving Repr

/-- The doubles of a dictionary of numbers that may be absent. -/
def numbers (row : Datum) (key : String) : Except Raised (List Float) := do
  let d ← Document.sectionOf row key
  (← Document.entries d "values").mapM fun (_, v) => Document.real v

/-- The middle one of some doubles, or the mean of the two in the middle. -/
def median (xs : List Float) : Option Float :=
  let sorted := xs.mergeSort (· ≤ ·)
  let half := sorted.length / 2
  if sorted.length % 2 = 1 then sorted[half]?
  else
    match sorted[half - 1]?, sorted[half]? with
    | some a, some b => some ((a + b) / 2.0)
    | _, _ => none

/-- The least of some doubles. -/
def least (xs : List Float) : Option Float :=
  xs.foldl (fun m x => match m with
    | some y => some (if x < y then x else y)
    | none => some x) none

/-- The different ones of some values; values that hold others cannot be told apart. -/
def distinct (ds : List Datum) : Except Raised (List Datum) :=
  match ds.find? fun d => !Document.isKey d with
  | some d => .error (Document.noKey d)
  | none => .ok (ds.foldl (fun seen d => if seen.any (Datum.agrees · d) then seen else seen ++ [d]) [])

/-- The items of a list that may be absent. -/
def listOf (row : Datum) (key : String) : Except Raised (List Datum) := do
  let d ← Document.get row key .null
  if d.isPresent then Document.items d else return []

/-- The type of a result as text; a question mark where it is not known. -/
def typeText (d : Datum) : String :=
  if d.isPresent then d.spell else "?"

/-- Whether a type tells that the runs failed. -/
def isFailure (type : String) : Bool :=
  type.startsWith "<" || type == "?"

/-- The verdict on the results of a bench whose runs did not fail; `inputs` are the fingerprints of its parameters. -/
def judgeResults (row : Datum) (type : String) (share time : Option Float) (inputs : List Datum) :
    Except Raised Verdict := do
  if type = "NoneType" then return .returnsNone
  let stable ← listOf row "fp_stable"
  if (← distinct stable).length ≠ 1 then return .unstable
  if stable.head?.any fun d => inputs.any (Datum.agrees · d) then return .returnsInput
  if share.any (· < 0.5) then return .lowShare
  if time.any (· < 1.0) then return .tooFast
  let results := (← Document.entries (← Document.sectionOf row "fp_by_param") "values").map (·.2)
  if results.length < 2 then return .okUnparam
  if (← distinct results).length < 2 then return .paramInvariant
  return .ok

/-- The verdict on a row. Changes to the repository come first, then failures. -/
def verdictOn (modified : Bool) (row : Datum) (type : String) (share time : Option Float) (inputs : List Datum) :
    Except Raised Verdict :=
  if modified then .ok .repoModified
  else if isFailure type then .ok .error
  else judgeResults row type share time inputs

/-- Judges a row. The share of compiled code is read, but no verdict depends on it. -/
def judge (modified : Bool) (row : Datum) : Except Raised Judged := do
  let type := typeText (← Document.get row "ret_type" .null)
  let share := least (← numbers row "repo_frac")
  let time := median (← numbers row "repo_tt_ms")
  let _ ← numbers row "ext_frac"
  let inputs ← distinct (← listOf row "param_fps")
  let verdict ← verdictOn modified row type share time inputs
  return ⟨verdict, type, share.getD 0.0, time.getD 0.0⟩

/-- Judges rows until one cannot be judged, and tells what is wrong with that one. What is no row is passed over. -/
def judgeRows (modified : Bool) : List (String × Datum) → List (String × Judged) × Option Raised
  | [] => ([], none)
  | (name, row) :: rest =>
    if row.kind ≠ .dict then judgeRows modified rest
    else
      match judge modified row with
      | .error r => ([], some r)
      | .ok j =>
        let (judged, failure) := judgeRows modified rest
        ((name, j) :: judged, failure)

/-- The rows in a report. -/
def rowsOf (d : Datum) : Except Raised (List (String × Datum)) := do
  Document.entries (← Document.sectionOf d "semcheck") "items"

/-- The verdicts on the rows of a signal, and what is wrong with it. -/
def verdicts (modified : Bool) (signal : String) : List (String × Judged) × Option Raised :=
  match readDocument signal >>= rowsOf with
  | .error r => ([], some r)
  | .ok rows => judgeRows modified rows

/-- What to do about the verdicts. -/
def hints : List String := [
  "returns-none: run() has no return — collect and return the call results",
  "unstable: seed RNG in setup; avoid time/uuid/id in the return",
  "returns-input: return repo output, not the parameter value",
  "low-repo-time: <50% of run() time is in repo code — move glue to setup",
  "param-invariant: return something derived from run()'s work, not setup",
  "repo-modified: revert edits to repo files (git checkout -- <path>)"]

/-- The line of a judged bench. -/
def Judged.line (name : String) (j : Judged) : String :=
  let mark := if j.verdict.isGood then " " else "*"
  "  " ++ mark ++ " " ++ padRight 32 name ++ " " ++ padRight 16 j.verdict.name ++ " ("
    ++ j.resultType ++ ", repo "
    ++ Decimal.fixed 0 (j.share * 100.0) ++ "%) " ++ Decimal.fixed 1 j.milliseconds ++ "ms\n"

/-- The table of verdicts: first what has to be mended, then the rest. -/
def verdictTable (judged : List (String × Judged)) : String :=
  if judged.isEmpty then ""
  else
    let (good, bad) := judged.partition fun (_, j) => j.verdict.isGood
    "\nself-check (* = fix needed):\n" ++ String.join (hints.map fun h => "  " ++ h ++ "\n")
      ++ String.join ((bad ++ good).map fun (name, j) => j.line name)

end FormulaSql.Bench.Round
