import FormulaSql.Text

/-!
# Paths

Paths are normalised by their text alone: empty steps and single dots vanish, and two dots take back the step before
them.
-/

namespace FormulaSql.Path

/-- The steps of a path. -/
def steps (path : String) : List String :=
  Text.split '/' path

/-- The number of slashes a normalised absolute path starts with: two exactly if the path starts with just two. -/
def leadingSlashes (path : String) : Nat :=
  let n := (path.toList.takeWhile (· == '/')).length
  if n = 0 then 0 else if n = 2 then 2 else 1

/-- Walks along steps; `done` holds those that remain so far, last first. -/
def walk (absolute : Bool) (done : List String) : List String → List String
  | [] => done.reverse
  | s :: rest =>
    if s = "" ∨ s = "." then walk absolute done rest
    else if s = ".." then
      match done with
      | [] => if absolute then walk absolute [] rest else walk absolute [".."] rest
      | d :: ds => if d = ".." then walk absolute (".." :: done) rest else walk absolute ds rest
    else walk absolute (s :: done) rest

/-- A path seen from a directory; an absolute path stays as it is. -/
def join (directory path : String) : String :=
  if path.startsWith "/" then path
  else if directory.endsWith "/" then directory ++ path
  else directory ++ "/" ++ path

/-- The remaining steps of a path. -/
def normalSteps (path : String) : List String :=
  walk (path.startsWith "/") [] (steps path)

/-- The normalised text of a path. -/
def normalize (path : String) : String :=
  let text := String.ofList (List.replicate (leadingSlashes path) '/') ++ "/".intercalate (normalSteps path)
  if text.isEmpty then "." else text

/-- What is left of two lists behind their common front. -/
def apart : List String → List String → List String × List String
  | a :: as, b :: bs => if a = b then apart as bs else (a :: as, b :: bs)
  | as, bs => (as, bs)

/-- The way from one absolute directory to a path. -/
def relative (directory path : String) : String :=
  let (up, down) := apart (normalSteps directory) (normalSteps (join directory path))
  let way := "/".intercalate (up.map (fun _ => "..") ++ down)
  if way.isEmpty then "." else way

/-- The last step of a path. -/
def base (path : String) : String :=
  (steps path).getLast?.getD ""

end FormulaSql.Path
