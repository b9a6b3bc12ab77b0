import FormulaSql.Bench.Origin
import FormulaSql.Bench.Suite
import FormulaSql.Datum.Writer
import FormulaSql.Decimal.Fixed

/-!
# Time shares

For every bench of a suite the percentage of time that is spent in the library, and where most of the other time goes. A
bench that fails has the percentage minus one.
-/

namespace FormulaSql.Bench.TimeShare

/-- A file name without the ending of source files. -/
def stem (name : String) : String :=
  if name.endsWith ".py" then String.ofList (name.toList.take (name.length - 3)) else name

/-- Whether a directory holds packages. -/
def holdsPackages (directory : String) : Bool :=
  directory = "site-packages" ∨ directory = "dist-packages" ∨ directory.startsWith "python3."

/-- The package that a file belongs to: what follows the last directory that holds packages, else the file itself. -/
def package (path : String) : String :=
  let steps := Path.normalSteps path
  match (steps.reverse.takeWhile fun s => !holdsPackages s).reverse with
  | first :: _ => if steps.any holdsPackages then stem first else stem (Path.base path)
  | [] => stem (Path.base path)

/-- The place that time outside the library is booked to: one name for built-in functions, else the package. -/
def place (e : Entry) : String :=
  if e.file = "~" then "builtins" else package e.file

/-- A percentage of the total with one place. -/
def percent (part total : Float) : Float :=
  if total > 0.0 then Decimal.roundPlaces 1 (100.0 * part / total) else 0.0

/-- Books time to a place. -/
def book (places : List (String × Float)) (e : Entry) : List (String × Float) :=
  let name := place e
  if places.any (·.1 == name) then places.map fun p => if p.1 == name then (p.1, p.2 + e.seconds) else p
  else places ++ [(name, e.seconds)]

/-- The share of the library in a profile. -/
def libraryShare (workloads : String) (p : Profile) : Float :=
  percent ((p.entries.filter fun e => Origin.isFrame workloads e.file).foldl (fun t e => t + e.seconds) 0.0) p.total

/-- The three places outside the library with the most time. -/
def hotPlaces (workloads : String) (p : Profile) : List Datum :=
  let outside := p.entries.filter fun e => !Origin.isFrame workloads e.file && Path.base e.file != Path.base workloads
  let places := (outside.foldl book []).mergeSort fun a b => a.2 ≥ b.2
  (places.take 3).map fun (name, seconds) => .list [.real (percent seconds p.total), .text name]

/-- The percentage and the hot places of a bench. -/
def measure (workloads : String) (b : Trial) : Float × List Datum :=
  match b.call 0 [] with
  | .value _ =>
    let p := b.profile 0
    (libraryShare workloads p, hotPlaces workloads p)
  | .raised r => (-1.0, [.list [.real 0.0, .text ("<" ++ r.kind ++ ">")]])
  | .timeout => (-1.0, [.list [.real 0.0, .text "<timeout>"]])

/-- The report on a suite, and whether the suite could be loaded. -/
def report (s : Suite) : String × Bool :=
  match s.loadError with
  | some r => ((Datum.dict [("_import_error", r.line)]).json ++ "\n", false)
  | none =>
    let results := s.inOrder.map fun b => (b.name, measure s.file b)
    ((Datum.dict [("repo_time_pct", .dict (results.map fun (n, p, _) => (n, .real p))),
      ("hot_ext", .dict (results.map fun (n, _, h) => (n, .list h)))]).json ++ "\n", true)

end FormulaSql.Bench.TimeShare
