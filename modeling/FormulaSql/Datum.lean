import FormulaSql.Decimal.Shortest
import FormulaSql.Text.Quoted

/-!
# Loosely typed values

Names, sheets and formulas come from documents that promise no types. A `Datum` is any value such a document can hold;
what is done with it decides whether its type matters.
-/

namespace FormulaSql

/-- A value of a loosely typed document. A dictionary keeps its keys in the order of their first appearance. -/
inductive Datum where
  | null
  | bool (b : Bool)
  | whole (n : Int)
  | real (x : Float)
  | text (s : String)
  | list (items : List Datum)
  | dict (entries : List (String × Datum))
  deriving Repr, Inhabited

namespace Datum

instance : Coe String Datum := ⟨text⟩

mutual

/-- Whether two values are of one kind and equal. -/
def same : Datum → Datum → Bool
  | null, null => true
  | bool a, bool b => a == b
  | whole m, whole n => m == n
  | real x, real y => x == y
  | text s, text t => s == t
  | list xs, list ys => sameItems xs ys
  | dict xs, dict ys => sameEntries xs ys
  | _, _ => false

/-- Whether two lists hold equal values in the same order. -/
def sameItems : List Datum → List Datum → Bool
  | [], [] => true
  | x :: xs, y :: ys => same x y && sameItems xs ys
  | _, _ => false

/-- Whether two dictionaries hold equal entries in the same order. -/
def sameEntries : List (String × Datum) → List (String × Datum) → Bool
  | [], [] => true
  | (k, x) :: xs, (l, y) :: ys => k == l && same x y && sameEntries xs ys
  | _, _ => false

end

instance : BEq Datum := ⟨same⟩

/-- The kinds of values. -/
inductive Kind where
  | null
  | bool
  | whole
  | real
  | text
  | list
  | dict
  deriving Repr, DecidableEq

/-- The word for a kind in messages. -/
def Kind.name : Kind → String
  | null => "NoneType"
  | bool => "bool"
  | whole => "int"
  | real => "float"
  | text => "str"
  | list => "list"
  | dict => "dict"

/-- The kind of a value. -/
def kind : Datum → Kind
  | null => .null
  | bool _ => .bool
  | whole _ => .whole
  | real _ => .real
  | text _ => .text
  | list _ => .list
  | dict _ => .dict

/-- Whether a value counts as present: nulls, zeros and empty values do not. -/
def isPresent : Datum → Bool
  | null => false
  | bool b => b
  | whole n => n != 0
  | real x => x != 0.0
  | text s => !s.isEmpty
  | list items => !items.isEmpty
  | dict entries => !entries.isEmpty

/-- The text of a truth value. -/
def boolText (b : Bool) : String :=
  if b then "True" else "False"

mutual

/-- A value as it is listed inside another one: texts are quoted. -/
def listed : Datum → String
  | null => "None"
  | bool b => boolText b
  | whole n => toString n
  | real x => Decimal.text x
  | text s => Text.quoted s
  | list items => "[" ++ listedItems items ++ "]"
  | dict entries => "\x7b" ++ listedEntries entries ++ "\x7d"

/-- The items of a list, divided by commas. -/
def listedItems : List Datum → String
  | [] => ""
  | [x] => listed x
  | x :: xs => listed x ++ ", " ++ listedItems xs

/-- The entries of a dictionary, divided by commas. -/
def listedEntries : List (String × Datum) → String
  | [] => ""
  | [(k, v)] => Text.quoted k ++ ": " ++ listed v
  | (k, v) :: es => Text.quoted k ++ ": " ++ listed v ++ ", " ++ listedEntries es

end

/-- A value as it is spelled inside a longer text: a text stands for itself. -/
def spell : Datum → String
  | text s => s
  | d => listed d

/-- The number a value stands for; truth values count as zero and one. -/
def number? : Datum → Option (Int ⊕ Float)
  | bool b => some (.inl (if b then 1 else 0))
  | whole n => some (.inl n)
  | real x => some (.inr x)
  | _ => none

/-- Whether two plain values are equal: numbers are compared by their value, whatever their kind. -/
def agrees (a b : Datum) : Bool :=
  match number? a, number? b with
  | some (.inl m), some (.inl n) => m == n
  | some (.inl m), some (.inr y) => Float.ofInt m == y
  | some (.inr x), some (.inl n) => x == Float.ofInt n
  | some (.inr x), some (.inr y) => x == y
  | none, none => a == b
  | _, _ => false

/-- Sets the value of a key: a known key keeps its place, a new one comes last. -/
def put (entries : List (String × Datum)) (key : String) (value : Datum) : List (String × Datum) :=
  match entries with
  | [] => [(key, value)]
  | (k, v) :: es => if k = key then (k, value) :: es else (k, v) :: put es key value

end Datum

end FormulaSql
