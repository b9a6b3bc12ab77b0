import FormulaSql.Bench.Workload

/-!
# Suites of workloads

A suite is a module of named benches. What a bench gives back may differ from call to call; how long its functions take
is told by profiles.
-/

namespace FormulaSql.Bench

/-- A profiled function: its file and the time spent in itself. -/
structure Entry where
  file : String
  seconds : Float
  function : String
  deriving Repr

/-- The profile of one run. -/
structure Profile where
  entries : List Entry
  total : Float
  deriving Repr

/-- The profile of a run that nothing is known of. -/
def Profile.empty : Profile :=
  ⟨[], 0.0⟩

/-- What one call leads to. -/
inductive Outcome where
  | value (v : Value)
  | raised (r : Raised)
  /-- The time allowed for a run is over. -/
  | timeout
  deriving Repr

/-- How a bench behaves. -/
inductive Behaviour where
  /-- The k-th call leads to the k-th outcome; the last one is repeated. -/
  | returns (outcomes : List Outcome)
  /-- Gives back a parameter, or zero where it is not given. -/
  | echo (parameter : String)
  /-- One of the workloads, with default parameters. -/
  | workload (name : String) (defaults : List (String × Datum))
  deriving Repr

/-- A set of parameters, in order. -/
abbrev Params := List (String × Datum)

/-- A bench: a named function of a suite, with the parameters it is tried with. -/
structure Trial where
  name : String
  behaviour : Behaviour
  params : List Params
  profiles : List Profile
  deriving Repr

/-- A suite: its file, its benches, or the error that keeps it from being loaded. -/
structure Suite where
  file : String
  benches : List Trial
  loadError : Option Raised
  deriving Repr

/-- The item of a list that stands for the k-th use: the k-th one, or the last where there are fewer. -/
def kth {α : Type} (items : List α) (k : Nat) : Option α :=
  items[min k (items.length - 1)]?

/-- Runs a workload with parameters. -/
def runWorkload (name : String) (params : Params) : Outcome :=
  match Workload.all.lookup name with
  | none => .raised ⟨"AttributeError", "module 'microbench' has no attribute " ++ Text.quoted ("bench_" ++ name)⟩
  | some (parameter, w) =>
    match params.find? (·.1 ≠ parameter) with
    | some (other, _) =>
      .raised ⟨"TypeError", "bench_" ++ name ++ "() got an unexpected keyword argument " ++ Text.quoted other⟩
    | none =>
      match params.lookup parameter with
      | some (.whole n) =>
        match w.run n with
        | .ok v => .value v
        | .error r => .raised r
      | some d => .raised ⟨"TypeError", "'" ++ d.kind.name ++ "' object cannot be interpreted as an integer"⟩
      | none => .raised ⟨"TypeError", "bench_" ++ name ++ "() missing its argument"⟩

namespace Trial

/-- What the k-th call of a bench with parameters leads to. -/
def call (b : Trial) (k : Nat) (params : Params) : Outcome :=
  match b.behaviour with
  | .returns outcomes => (kth outcomes k).getD (.value .null)
  | .echo parameter => .value (Value.ofDatum ((params.lookup parameter).getD (.whole 0)))
  | .workload name defaults => runWorkload name (params.foldl (fun ps (k, v) => Datum.put ps k v) defaults)

/-- The k-th profile of a bench. -/
def profile (b : Trial) (k : Nat) : Profile :=
  (kth b.profiles k).getD Profile.empty

end Trial

namespace Suite

/-- The benches of a suite in the order of their names. -/
def inOrder (s : Suite) : List Trial :=
  (s.benches.filter (·.name.startsWith "bench_")).mergeSort fun a b => a.name ≤ b.name

end Suite

end FormulaSql.Bench
