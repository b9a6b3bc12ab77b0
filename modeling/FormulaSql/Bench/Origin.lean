import FormulaSql.Path

/-!
# Where code comes from

Which paths belong to the measured library. The repository directory is also the working directory. Directories with
foreign or generated code, and the files of the measuring tools themselves, do not count.
-/

namespace FormulaSql.Bench.Origin

/-- The repository and working directory. -/
def repository : String :=
  "/repo"

/-- The absolute, normalised form of a path. -/
def resolve (path : String) : String :=
  Path.normalize (Path.join repository path)

/-- Directories whose files do not count. -/
def foreignDirectories : List String :=
  ["vendor", "vendored", "third_party", "node_modules", "site-packages", "dist-packages", "dist", "build", ".venv",
    "venv", "env", ".git", ".tox", ".eggs", "__pycache__"]

/-- The steps below the repository of a path inside it. -/
def inside? (path : String) : Option (List String) :=
  let path := resolve path
  if path.startsWith (repository ++ "/") then some ((Path.normalSteps path).drop 1) else none

/-- Whether a path lies in the repository, not in a foreign directory, and is no file of the measuring tools. -/
def isOwn (path : String) : Bool :=
  match inside? path with
  | none => false
  | some steps =>
    !steps.dropLast.any foreignDirectories.contains && !(Path.base (resolve path)).startsWith "_pti_"

/-- Whether a path is source of the library: a file of its own that holds no workloads. -/
def isSource (path : String) : Bool :=
  !path.isEmpty && isOwn path && !(Path.base (resolve path)).startsWith "microbench"

/-- Whether a profiled function is the library's own, when the workloads are in the file `workloads`. -/
def isFrame (workloads path : String) : Bool :=
  !path.isEmpty && path != "~" && !path.startsWith "<" && isOwn path && resolve path != resolve workloads

/-- Whether a profiled function is compiled code from outside the library. -/
def isCompiled (workloads path : String) : Bool :=
  !isFrame workloads path && (path == "~" || path.endsWith ".so" || path.endsWith ".pyd")

end FormulaSql.Bench.Origin
