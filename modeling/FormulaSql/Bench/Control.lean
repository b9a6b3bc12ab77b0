import FormulaSql.Bench.Origin

/-!
# Control runs

In a control run every module of the library is replaced by a stand-in that accepts everything, so that a bench whose
result does not depend on the library gives itself away. This module tells which modules are replaced and how a stand-in
behaves.
-/

namespace FormulaSql.Bench.Control

/-- What is loaded for a file: the real module or a stand-in. -/
inductive Supply where
  | real
  | standIn
  deriving Repr, DecidableEq

/-- Files of the library are replaced. -/
def supply (path : Option String) : Supply :=
  match path with
  | some p => if Origin.isSource p then .standIn else .real
  | none => .real

/-- What is known about the place of a module. -/
inductive Place where
  | file (path : String)
  /-- A package without a file of its own. -/
  | namespacePackage
  /-- Looking for it fails. -/
  | broken
  deriving Repr, DecidableEq

/-- The file of a module that is replaced when it is looked for by name. -/
def replaced? (places : List (String × Place)) (name : String) : Option String :=
  match places.lookup name with
  | some (.file path) => if supply (some path) = .standIn then some path else none
  | _ => none

/-- The names in a list divided by commas; empty ones do not count. -/
def listedNames (s : String) : List String :=
  (Text.split ',' s).filter fun n => !n.isEmpty

/-- The loaded modules in the order of their names: those that were loaded before stay, the listed ones are replaced. -/
def modules (loaded : List String) (listed : String) : List (String × Supply) :=
  let fresh := (listedNames listed).eraseDups.filter fun n => !loaded.contains n
  (loaded.map (·, Supply.real) ++ fresh.map (·, Supply.standIn)).mergeSort fun a b => a.1 ≤ b.1

/-- What can be done with a stand-in. -/
inductive Use where
  | truth
  | length
  | toWhole
  | toReal
  /-- Using it as an index of a list with one item. -/
  | index
  | contains
  | iterate
  /-- Asking it for a member, calling it or taking an item of it. -/
  | derive
  deriving Repr, DecidableEq

/-- What a stand-in answers. -/
inductive Answer where
  | truth (b : Bool)
  | whole (n : Int)
  | real (x : Float)
  | nothing
  | standIn
  | pastEnd
  deriving Repr, DecidableEq

/-- How a stand-in behaves: it is true, has no items, counts as one, and whatever is taken from it is a stand-in. -/
def use : Use → Answer
  | .truth => .truth true
  | .length => .whole 0
  | .toWhole => .whole 1
  | .toReal => .real 1.0
  | .index => .pastEnd
  | .contains => .truth false
  | .iterate => .nothing
  | .derive => .standIn

end FormulaSql.Bench.Control
