import FormulaSql.Bench.Round.Checkpoint
import FormulaSql.Bench.Round.Shares
import FormulaSql.Bench.Round.Totals
import FormulaSql.Bench.Round.Verdict

/-!
# A measuring round

A round runs the coverage measurement and, where they are installed, the time and self-check programs; it records itself
in the checkpoint file, prints its tables and a closing line, and says when further rounds are of no use.
-/

namespace FormulaSql.Bench.Round

/-- What a round meets. -/
structure World where
  /-- Files by their absolute names. -/
  files : List (String × String)
  /-- Files that cannot be written. -/
  readOnly : List String
  /-- Clock values before and behind the coverage measurement. -/
  ticks : List Datum
  /-- The time of the day. -/
  time : Datum
  coverage : Ended
  timeShares : Ended
  selfCheck : Ended
  versionControl : Ended
  deriving Repr

/-- How a round ends. -/
inductive Ending where
  | complete
  | stopped (code : Int)
  | raised (r : Raised)
  deriving Repr

/-- What a round leaves behind. -/
structure Result where
  printed : String
  complaints : String
  checkpoint : Option String
  ending : Ending
  deriving Repr

namespace World

/-- The absolute name of a file of the repository. -/
def nameOf (name : String) : String :=
  Origin.repository ++ "/" ++ name

/-- The text of a file of the repository. -/
def text? (w : World) (name : String) : Option String :=
  w.files.lookup (nameOf name)

/-- Whether a file of the repository exists. -/
def holds (w : World) (name : String) : Bool :=
  (w.text? name).isSome

/-- The text of the checkpoint file. -/
def checkpoint (w : World) : Option String :=
  w.text? ".pti_checkpoint.jsonl"

/-- The time that the coverage measurement took. -/
def elapsed (w : World) : Except Raised Datum :=
  match w.ticks with
  | before :: after :: _ => Document.difference after before
  | _ => .ok (.real 0.0)

end World

/-- Prints until something goes wrong. -/
def printAll : List (Except Raised String) → String × Option Raised
  | [] => ("", none)
  | .error r :: _ => ("", some r)
  | .ok s :: rest =>
    let (t, r) := printAll rest
    (s ++ t, r)

/-- The line on a program whose signal could not be used. -/
def complaint (program : String) (r : Raised) : String :=
  "[" ++ program ++ " runner: " ++ r.line ++ "]\n"

/-- The signal of a program that is installed: what is read from its last line, and what goes to the complaints. What is
read before something turns out to be wrong is kept. -/
def signal {α : Type} (installed : Bool) (program : String) (ended : Ended) (default : α)
    (read : String → α × Option Raised) : α × String :=
  if !installed then (default, "")
  else
    match ended with
    | .raised r => (default, complaint program r)
    | .finished _ printed complaints =>
      let (a, failure) := read (signalText (printed.getD ""))
      (a, complaints ++ (failure.map (complaint program)).getD "")

/-- Whether the version control tells of changes: it has printed a line that is not blank. If it could not be run, nothing
counts as changed. -/
def isModified : Ended → Bool
  | .raised _ => false
  | .finished _ status _ => (status.getD "").toList.any fun c => !Text.isBlank c

/-- The percentages of a round. -/
def timeShared (w : World) : Shares × String :=
  signal (w.holds "_pti_repotime.py") "repotime" w.timeShares Shares.none Shares.ofSignal

/-- The verdicts of a round. -/
def selfChecked (w : World) : List (String × Judged) × String :=
  signal (w.holds "_pti_semcheck.py") "semcheck" w.selfCheck [] (verdicts (isModified w.versionControl))

/-- All that a round measures. -/
structure Measured where
  totals : Totals
  benches : Nat
  elapsed : Datum
  shares : Shares
  judged : List (String × Judged)
  deriving Repr

/-- The number of verdicts that call for mending. -/
def Measured.unfit (m : Measured) : Nat :=
  (m.judged.filter fun (_, j) => !j.verdict.isGood).length

/-- The record of a round. -/
def Measured.record (m : Measured) (number : Nat) (time since : Datum) : Datum :=
  .dict [("round", .whole number), ("ts", time), ("wall_since_prev_s", since), ("coverage_pct", .real m.totals.percent),
    ("covered_lines", .whole m.totals.covered), ("num_statements", .whole m.totals.statements),
    ("n_bench_fns", .whole m.benches), ("n_bench_errors", .whole m.totals.errors.length), ("cov_measure_s", Document.rounded 3 m.elapsed),
    ("repo_time_pct", .dict (m.shares.percents.map fun (k, p) => (k, .real p))),
    ("n_below_repo_time", (m.shares.below?.map fun (n : Nat) => Datum.whole n).getD .null),
    ("semcheck", .dict (m.judged.map fun (k, j) => (k, .text j.verdict.name))),
    ("n_not_self_checking", .whole m.unfit)]

/-- Records a round: its number, the counts of the rounds before it, and the checkpoint file behind it. -/
def Measured.recorded (m : Measured) (w : World) : Nat × List Int × Option String :=
  let lines := recordLines (w.checkpoint.getD "")
  let number := lines.length + 1
  let (history, sound) := History.ofLines lines
  let written := do
    let since ← sincePrevious w.time history.time
    return w.checkpoint.getD "" ++ (m.record number w.time since).json ++ "\n"
  let writable := !w.readOnly.contains (World.nameOf ".pti_checkpoint.jsonl")
  match written with
  | .ok text => (number, history.below, if sound && writable then some text else w.checkpoint)
  | .error _ => (number, history.below, w.checkpoint)

/-- The closing line of a round. -/
def Measured.closing (m : Measured) (number : Nat) : Except Raised String := do
  let shares := if m.shares.percents.isEmpty then ""
    else ", " ++ toString (m.shares.below?.getD 0) ++ "/" ++ toString m.shares.valid.length ++ " below repo_time "
      ++ toString shareLimit ++ "%"
  let checks := if m.judged.isEmpty then ""
    else ", " ++ toString m.unfit ++ "/" ++ toString m.judged.length ++ " not self-checking"
  return "\n[round " ++ toString number ++ ": " ++ toString m.benches ++ " benches, "
    ++ Decimal.fixed 1 m.totals.percent ++ "% covered" ++ shares ++ checks ++ ", measured in "
    ++ (← Document.fixed 1 m.elapsed) ++ "s]\n"

/-- The percentage of coverage from which on rounds may stop. -/
def coverageTarget : Float := 60.0

/-- The number of rounds without improvement after which rounds stop. -/
def patience : Nat := 3

/-- The reason to stop, by the counts of all rounds so far and the one of this round. -/
def stopReason? (history : List Int) (below : Nat) : Option String :=
  if below = 0 then some "0 below"
  else
    match plateau (history ++ [(below : Int)]) with
    | some (best, since) =>
      if since < patience then none
      else some ("no improvement in " ++ toString since ++ " rounds; best " ++ toString best ++ " below")
    | none => none

/-- The advice to stop, if there is a reason. -/
def Measured.advice (m : Measured) (history : List Int) : String :=
  match m.shares.below? with
  | some below =>
    if m.totals.percent ≥ coverageTarget then
      match stopReason? history below with
      | some reason => "\n>>> STOP: repo_time converged (" ++ reason ++ "). Finalize microbench.py now. <<<\n"
      | none => ""
    else ""
  | none => ""

/-- How a round words what nothing else depends on. -/
structure Wording where
  /-- The lines on benches that raised errors. -/
  errors : List (String × Datum) → List (Except Raised String)
  /-- What stands above the table of verdicts. -/
  notes : World → Measured → String

/-- The first errors by the names of their benches, and no notes. -/
def Wording.plain : Wording where
  errors es :=
    if es.isEmpty then []
    else .ok "\nbench errors:\n" :: (es.take 8).map fun (name, d) => .ok ("  " ++ name ++ ": " ++ d.spell ++ "\n")
  notes _ _ := ""

/-- Everything that a round prints after its measurements. -/
def Measured.print (m : Measured) (words : Wording) (w : World) (number : Nat) (history : List Int) :
    String × Option Raised :=
  printAll (m.totals.table :: words.errors m.totals.errors ++ m.shares.table
    ++ [.ok (words.notes w m), .ok (verdictTable m.judged), m.closing number, .ok (m.advice history)])

/-- Measures what a round needs, from a coverage report that has been found. -/
def measure (w : World) (report : String) : Except Raised (Measured × String) := do
  let elapsed ← w.elapsed
  let totals ← readDocument report >>= Totals.ofReport
  let benches := benchCount ((w.text? "microbench.py").getD "")
  let (shares, c₁) := timeShared w
  let (judged, c₂) := selfChecked w
  return (⟨totals, benches, elapsed, shares, judged⟩, c₁ ++ c₂)

/-- Runs a round. -/
def run (words : Wording) (w : World) : Result :=
  match w.coverage with
  | .raised r => ⟨"", "", w.checkpoint, .raised r⟩
  | .finished code printed complaints =>
    match if code = 0 then w.text? "_pti_coverage.json" else none with
    | none =>
      ⟨"coverage measurement failed (exit " ++ toString code ++ ")\n" ++ printed.getD "None" ++ "\n", complaints,
        w.checkpoint, .stopped (if code = 0 then 1 else code)⟩
    | some report =>
      match measure w report with
      | .error r => ⟨"", complaints, w.checkpoint, .raised r⟩
      | .ok (m, more) =>
        let (number, history, checkpoint) := m.recorded w
        let (text, failure) := m.print words w number history
        ⟨text, complaints ++ more, checkpoint, (failure.map .raised).getD .complete⟩

end FormulaSql.Bench.Round
