import FormulaSql.Bench.Round.Signal

/-!
# Time shares of a round

The percentages of time that benches spend in the library. A negative percentage marks a bench that failed. Benches below
the limit are starred, and the places where their time goes instead are shown.
-/

namespace FormulaSql.Bench.Round

/-- Percentages by bench, and the hot places by bench as they were reported. -/
structure Shares where
  percents : List (String × Float)
  hot : List (String × Datum)
  deriving Repr

/-- No percentages. -/
def Shares.none : Shares :=
  ⟨[], []⟩

/-- The percentages in a report. -/
def percentsOf (d : Datum) : Except Raised (List (String × Float)) := do
  let given ← Document.sectionOf d "repo_time_pct"
  (← Document.entries given "items").mapM fun (k, v) => do return (k, ← Document.real v)

/-- The hot places in a report. -/
def hotOf (d : Datum) : Except Raised (List (String × Datum)) := do
  Document.toEntries (← Document.sectionOf d "hot_ext")

/-- Reads a signal, and tells what is wrong with it. The percentages are kept if only the hot places are wrong. -/
def Shares.ofSignal (signal : String) : Shares × Option Raised :=
  match readDocument signal with
  | .error r => (none, some r)
  | .ok d =>
    match percentsOf d, hotOf d with
    | .error r, _ => (none, some r)
    | .ok percents, .error r => (⟨percents, []⟩, some r)
    | .ok percents, .ok hot => (⟨percents, hot⟩, Option.none)

/-- The percentage that is aimed at. -/
def shareTarget : Nat := 50

/-- The percentage below which a bench is starred. -/
def shareLimit : Nat := 45

/-- A percentage below the limit. -/
def isBelow (p : Float) : Bool :=
  p < Float.ofNat shareLimit

namespace Shares

/-- The percentages of the benches that did not fail. -/
def valid (s : Shares) : List Float :=
  (s.percents.map (·.2)).filter (· ≥ 0.0)

/-- The number of benches below the limit, if any bench did not fail. -/
def below? (s : Shares) : Option Nat :=
  if s.valid.isEmpty then Option.none else some (s.valid.filter isBelow).length

/-- One hot place: a percentage and a name. -/
def hotText (d : Datum) : Except Raised String := do
  match ← Document.items d with
  | [percent, name] => return name.spell ++ " " ++ (← Document.fixed 0 percent) ++ "%"
  | [] => throw ⟨"ValueError", "not enough values to unpack (expected 2, got 0)"⟩
  | [_] => throw ⟨"ValueError", "not enough values to unpack (expected 2, got 1)"⟩
  | _ => throw ⟨"ValueError", "too many values to unpack (expected 2)"⟩

/-- The hot places of a starred bench. -/
def hotPart (s : Shares) (name : String) : Except Raised String := do
  let hot := (s.hot.lookup name).getD .null
  if hot.isPresent then
    let texts ← (← Document.items hot).mapM hotText
    return " (hot: " ++ " ".intercalate texts ++ ")"
  else return ""

/-- The line of a bench. -/
def line (s : Shares) (name : String) (percent : Float) : Except Raised String := do
  let failed := percent < 0.0
  let starred := !failed && isBelow percent
  let shown := Decimal.fixed 1 (if failed then 0.0 else percent)
  let tail ← if failed then pure "  <error>" else if starred then s.hotPart name else pure ""
  let mark := if starred then "*" else " "
  return "  " ++ mark ++ " " ++ padRight 32 name ++ " " ++ padLeft 5 shown ++ "%" ++ tail ++ "\n"

/-- The table, one line after the other, the lowest percentages first. -/
def table (s : Shares) : List (Except Raised String) :=
  if s.percents.isEmpty then []
  else
    let rows := s.percents.mergeSort fun a b => a.2 ≤ b.2
    .ok ("\nrepo_time (target " ++ toString shareTarget ++ "%; * = below " ++ toString shareLimit ++ "%):\n")
      :: rows.map fun (name, percent) => s.line name percent

end Shares

end FormulaSql.Bench.Round
