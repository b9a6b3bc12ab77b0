import FormulaSql.Bench.Raised
import FormulaSql.Decimal.Fixed

/-!
# Looking into documents

Reports of other tools are read without a promise about their shape. Each step into a document either finds something or
tells what is wrong with the document.
-/

namespace FormulaSql.Bench.Document

/-- The value of a key, or a default. Only a dictionary can be asked. -/
def get (d : Datum) (key : String) (default : Datum) : Except Raised Datum :=
  match d with
  | .dict entries => .ok ((entries.lookup key).getD default)
  | d => .error (.noMember d "get")

/-- The value of a key that should be a dictionary; what counts as absent is an empty one. -/
def sectionOf (d : Datum) (key : String) : Except Raised Datum := do
  let v ← get d key .null
  return if v.isPresent then v else .dict []

/-- The entries of a dictionary; `member` tells what was wanted of it. -/
def entries (d : Datum) (member : String) : Except Raised (List (String × Datum)) :=
  match d with
  | .dict es => .ok es
  | d => .error (.noMember d member)

/-- The value that a key must have. -/
def item (d : Datum) (key : String) : Except Raised Datum :=
  match d with
  | .dict es =>
    match es.lookup key with
    | some v => .ok v
    | none => .error (.missingKey key)
  | .list _ => .error ⟨"TypeError", "list indices must be integers or slices, not str"⟩
  | .text _ => .error ⟨"TypeError", "string indices must be integers, not 'str'"⟩
  | d => .error ⟨"TypeError", "'" ++ d.kind.name ++ "' object is not subscriptable"⟩

/-- Sets a key of a dictionary. -/
def assign (d : Datum) (key : String) (value : Datum) : Except Raised Datum :=
  match d with
  | .dict es => .ok (.dict (Datum.put es key value))
  | .list _ => .error ⟨"TypeError", "list indices must be integers or slices, not str"⟩
  | d => .error ⟨"TypeError", "'" ++ d.kind.name ++ "' object does not support item assignment"⟩

/-- The double nearest to a whole number, unless that is too large for one. -/
def double (n : Int) : Except Raised Float :=
  if (Float.ofInt n).isInf then .error ⟨"OverflowError", "int too large to convert to float"⟩ else .ok (Float.ofInt n)

/-- The double that a value stands for; a text is read. -/
def real (d : Datum) : Except Raised Float :=
  match d with
  | .bool b => .ok (if b then 1.0 else 0.0)
  | .whole n => double n
  | .real x => .ok x
  | .text s =>
    match Decimal.read? s with
    | some x => .ok x
    | none => .error ⟨"ValueError", "could not convert string to float: " ++ Text.quoted s⟩
  | d => .error ⟨"TypeError", "float() argument must be a string or a real number, not '" ++ d.kind.name ++ "'"⟩

/-- The whole number that a value stands for: a double loses what stands behind its point, a text is read. -/
def whole (d : Datum) : Except Raised Int :=
  match d with
  | .bool b => .ok (if b then 1 else 0)
  | .whole n => .ok n
  | .real x =>
    match Decimal.Exact.ofFloat x with
    | .finite negative mantissa exponent => .ok (Decimal.truncated negative mantissa exponent)
    | .infinite _ => .error ⟨"OverflowError", "cannot convert float infinity to integer"⟩
    | .notANumber => .error ⟨"ValueError", "cannot convert float NaN to integer"⟩
  | .text s =>
    match Decimal.readWhole? s with
    | some n => .ok n
    | none => .error ⟨"ValueError", "invalid literal for int() with base 10: " ++ Text.quoted s⟩
  | d =>
    .error ⟨"TypeError", "int() argument must be a string, a bytes-like object or a real number, not '" ++ d.kind.name
      ++ "'"⟩

/-- A number with a fixed number of places. -/
def fixed (places : Nat) (d : Datum) : Except Raised String :=
  match d.number?, d with
  | some (.inl n), _ => (double n).map (Decimal.fixed places)
  | some (.inr x), _ => .ok (Decimal.fixed places x)
  | none, .text _ => .error ⟨"ValueError", "Unknown format code 'f' for object of type 'str'"⟩
  | none, d => .error ⟨"TypeError", "unsupported format string passed to " ++ d.kind.name ++ ".__format__"⟩

/-- The items of a value that is gone through one by one. -/
def items (d : Datum) : Except Raised (List Datum) :=
  match d with
  | .list ds => .ok ds
  | .text s => .ok (s.toList.map fun c => .text c.toString)
  | .dict es => .ok (es.map fun (k, _) => .text k)
  | d => .error ⟨"TypeError", "'" ++ d.kind.name ++ "' object is not iterable"⟩

/-- The values that can be keys: those that hold no others. -/
def isKey (d : Datum) : Bool :=
  !(d.kind = .list ∨ d.kind = .dict)

/-- A value that cannot be a key. -/
def noKey (d : Datum) : Raised :=
  ⟨"TypeError", "unhashable type: '" ++ d.kind.name ++ "'"⟩

/-- The key and the value that an item with a place in a list gives for a dictionary. -/
def pair (place : Nat) (d : Datum) : Except Raised (Datum × Datum) :=
  match items d with
  | .error _ =>
    .error ⟨"TypeError", "cannot convert dictionary update sequence element #" ++ toString place ++ " to a sequence"⟩
  | .ok [key, value] => if isKey key then .ok (key, value) else .error (noKey key)
  | .ok ds =>
    .error ⟨"ValueError", "dictionary update sequence element #" ++ toString place ++ " has length "
      ++ toString ds.length ++ "; 2 is required"⟩

/-- The entries of the dictionary that is made of a value: a dictionary as it is, or a list of pairs. Entries whose key is
no text are left out, as nothing asks for them. -/
def toEntries (d : Datum) : Except Raised (List (String × Datum)) :=
  match d with
  | .dict es => .ok es
  | d => do
    let pairs ← (← items d).zipIdx.mapM fun (item, place) => pair place item
    return pairs.foldl (fun es (key, value) =>
      match key with
      | .text s => Datum.put es s value
      | _ => es) []

/-- The difference of two numbers; of two whole numbers it is whole. -/
def difference (a b : Datum) : Except Raised Datum :=
  match a.number?, b.number? with
  | some (.inl m), some (.inl n) => .ok (.whole (m - n))
  | some x, some y =>
    let toReal : Int ⊕ Float → Float
      | .inl n => Float.ofInt n
      | .inr x => x
    .ok (.real (toReal x - toReal y))
  | _, _ =>
    .error ⟨"TypeError", "unsupported operand type(s) for -: '" ++ a.kind.name ++ "' and '" ++ b.kind.name ++ "'"⟩

/-- A number rounded to some places; a whole number stays as it is. -/
def rounded (places : Nat) : Datum → Datum
  | .real x => .real (Decimal.roundPlaces places x)
  | d => d

end FormulaSql.Bench.Document
