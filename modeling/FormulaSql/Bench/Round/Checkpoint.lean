import FormulaSql.Bench.Round.Signal
import FormulaSql.Datum.Writer

/-!
# Checkpoints

Every round appends a line to a file, and reads the lines of the rounds before it: their number gives the number of the
round, the last one the time since the round before, and all together the history of the benches below the limit. The
last line is read first. If anything is wrong with the file, the round is not recorded.
-/

namespace FormulaSql.Bench.Round

/-- The lines of a file that are not blank. -/
def recordLines (text : String) : List String :=
  (Text.split '\n' text).filter fun l => !l.toList.all Text.isBlank

/-- What the earlier rounds tell: counts below the limit, and the time of the last round. -/
structure History where
  below : List Int
  time : Datum
  deriving Repr

/-- A count, if a value is a whole number; truth values count as such. -/
def count? : Datum → Option Int
  | .whole n => some n
  | .bool b => some (if b then 1 else 0)
  | _ => none

/-- The time in a line. -/
def timeOf (line : String) : Except Raised Datum := do
  Document.get (← readDocument line) "ts" .null

/-- The count in a line, if it has one, and whether its coverage can be compared with a number. An absent coverage counts
as zero. -/
def countOf (line : String) : Except Raised (Option Int × Bool) := do
  let d ← readDocument line
  let below ← Document.get d "n_below_repo_time" .null
  let coverage ← Document.get d "coverage_pct" .null
  return (count? below, !coverage.isPresent || coverage.number?.isSome)

/-- The counts in lines up to the first one that is wrong; tells whether all were right. -/
def countsOf : List String → List Int × Bool
  | [] => ([], true)
  | line :: rest =>
    match countOf line with
    | .error _ => ([], false)
    | .ok (count, false) => (count.toList, false)
    | .ok (count, true) =>
      let (counts, sound) := countsOf rest
      (count.toList ++ counts, sound)

/-- The history of a file, and whether nothing is wrong with it. -/
def History.ofLines (lines : List String) : History × Bool :=
  match (lines.getLast?.map timeOf).getD (.ok .null) with
  | .error _ => (⟨[], .null⟩, false)
  | .ok time =>
    let (counts, sound) := countsOf lines
    (⟨counts, time⟩, sound)

/-- The time since the round before; no time if there was none. -/
def sincePrevious (now previous : Datum) : Except Raised Datum :=
  if previous.isPresent then (Document.difference now previous).map (Document.rounded 2) else .ok (.real 0.0)

/-- The best of some counts and the number of counts since it was first reached. -/
def plateau (counts : List Int) : Option (Int × Nat) :=
  counts.foldl (fun state n =>
    match state with
    | none => some (n, 0)
    | some (best, since) => some (if n < best then (n, 0) else (best, since + 1))) none

end FormulaSql.Bench.Round
