import FormulaSql.Bench.Fingerprint
import FormulaSql.Bench.Origin
import FormulaSql.Bench.Suite
import FormulaSql.Datum.Writer

/-!
# Self check

Every bench of a suite is run twice as it is and once with each of its sets of parameters. A row keeps the type of the
result, the fingerprints, and the share of time that was spent in the library. Whatever fails, be it a run, a fingerprint
or the tag of a set of parameters, ends the checks of the bench: the row keeps what was known before, and the kind of
failure takes the place of the type.
-/

namespace FormulaSql.Bench.SelfCheck

/-- What is known of one bench. -/
structure Row where
  resultType : Datum := .null
  stable : List String := []
  byParams : List (String × Datum) := []
  libraryMs : List (String × Datum) := []
  libraryShare : List (String × Datum) := []
  compiledShare : List (String × Datum) := []
  paramPrints : List String := []
  deriving Repr

/-- A row as a datum. -/
def Row.datum (r : Row) : Datum :=
  let texts (ss : List String) : Datum := .list (ss.map Datum.text)
  .dict [("ret_type", r.resultType), ("fp_stable", texts r.stable), ("fp_by_param", .dict r.byParams),
    ("repo_tt_ms", .dict r.libraryMs), ("repo_frac", .dict r.libraryShare), ("ext_frac", .dict r.compiledShare),
    ("param_fps", texts r.paramPrints)]

/-- The time spent in the entries that pass a test. -/
def seconds (p : Profile) (test : String → Bool) : Float :=
  (p.entries.filter fun e => test e.file).foldl (fun t e => t + e.seconds) 0.0

/-- A share of the total, to three places; nothing is a share of no time. -/
def share (part total : Float) : Float :=
  if total > 0.0 then Decimal.roundPlaces 3 (part / total) else 0.0

/-- How a self check reads what it gets. Fingerprints and tags can fail, as values may be of any type; what fails is told
by the kind of failure. -/
structure Reading where
  /-- The fingerprint of a value. -/
  print : Value → Except String String
  /-- The tag of a set of parameters. -/
  tag : Params → Except String String
  /-- Whether a file belongs to the library, when the workloads are in another one. -/
  isLibrary : String → String → Bool
  /-- Whether a file is compiled code from outside the library. -/
  isCompiled : String → String → Bool

/-- Notes the times of a profile under a tag. -/
def Row.addProfile (r : Row) (rd : Reading) (workloads tag : String) (p : Profile) : Row :=
  let library := seconds p (rd.isLibrary workloads)
  let compiled := seconds p (rd.isCompiled workloads)
  { r with
    libraryMs := Datum.put r.libraryMs tag (.real (Decimal.roundPlaces 3 (library * 1000.0)))
    libraryShare := Datum.put r.libraryShare tag (.real (share library p.total))
    compiledShare := Datum.put r.compiledShare tag (.real (share compiled p.total)) }

/-- Ends the checks of a bench by a failure of some kind. -/
def Row.abandoned (r : Row) (kind : String) : Row :=
  { r with resultType := "<" ++ kind ++ ">" }

/-- The tag of a set of parameters: what is set, in the order of the names. -/
def sortedTag (params : Params) : String :=
  let sorted := params.mergeSort fun a b => a.1 ≤ b.1
  if params.isEmpty then "-" else ",".intercalate (sorted.map fun (k, v) => k ++ "=" ++ v.spell)

/-- The reading of the values that can be written down, none of which fails. -/
def Reading.plain : Reading where
  print v := .ok (Fingerprint.fingerprint v 0)
  tag params := .ok (sortedTag params)
  isLibrary := Origin.isFrame
  isCompiled := Origin.isCompiled

/-- The value that a call gave, or the kind of its failure. -/
def valueOf : Outcome → Except String Value
  | .value v => .ok v
  | .raised r => .error r.kind
  | .timeout => .error "timeout"

namespace Reading

/-- The tag of a set of parameters and the fingerprint of the result that the `k`-th call gives for it. -/
def runWith (rd : Reading) (b : Trial) (k : Nat) (params : Params) : Except String (String × String) := do
  let tag ← rd.tag params
  let v ← valueOf (b.call k params)
  return (tag, ← rd.print v)

/-- The fingerprints of the values of a set of parameters. -/
def inputs (rd : Reading) (params : Params) : Except String (List String) :=
  params.mapM fun (_, d) => rd.print (Value.ofDatum d)

end Reading

/-- The tag of a run as it is. -/
def defaultTag : String :=
  "<default>"

/-- Runs a bench with each set of parameters; `k` runs have been made, of which all but the first were profiled. -/
def runParams (rd : Reading) (workloads : String) (b : Trial) (k : Nat) (r : Row) : List Params → Row
  | [] => r
  | params :: rest =>
    match rd.runWith b k params with
    | .error kind => r.abandoned kind
    | .ok (tag, print) =>
      let r := { r with byParams := Datum.put r.byParams tag (.text print) }
      let r := r.addProfile rd workloads tag (b.profile (k - 1))
      match rd.inputs params with
      | .error kind => r.abandoned kind
      | .ok prints => runParams rd workloads b (k + 1) { r with paramPrints := r.paramPrints ++ prints } rest

/-- Checks one bench. In a control run a bench is run only once. -/
def check (rd : Reading) (workloads : String) (control : Bool) (b : Trial) : Row :=
  match valueOf (b.call 0 []) with
  | .error kind => Row.abandoned {} kind
  | .ok v =>
    let row : Row := { resultType := v.typeName }
    match rd.print v with
    | .error kind => row.abandoned kind
    | .ok first =>
      if control then { row with stable := [first] }
      else
        match valueOf (b.call 1 []) >>= rd.print with
        | .error kind => row.abandoned kind
        | .ok second =>
          let row := { row with stable := [first, second] }
          runParams rd workloads b 2 (row.addProfile rd workloads defaultTag (b.profile 0)) b.params

/-- The rows of all benches of a suite, in the order of their names. -/
def rows (rd : Reading) (s : Suite) (control : Bool) : List (String × Row) :=
  s.inOrder.map fun b => (b.name, check rd s.file control b)

/-- The report on a suite, and whether the suite could be loaded. -/
def report (rd : Reading) (s : Suite) (control : Bool) : String × Bool :=
  match s.loadError with
  | some r => ((Datum.dict [("_import_error", r.line)]).json ++ "\n", false)
  | none =>
    ((Datum.dict [("semcheck", .dict ((rows rd s control).map fun (n, r) => (n, r.datum)))]).json ++ "\n", true)

end FormulaSql.Bench.SelfCheck
