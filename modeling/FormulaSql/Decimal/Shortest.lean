import FormulaSql.Decimal.Binary

/-!
# Shortest decimals

The decimal with the fewest digits that reads back as a given double; of several such decimals the nearest, and of two
equally near ones the even one. Positional notation is used for decimal exponents from `-4` to `15`, scientific
notation outside; a whole number keeps one zero behind the point.
-/

namespace FormulaSql.Decimal

/-- The decimal `0.d₁d₂… · 10 ^ point`, where `d₁d₂…` are the digits of `digits`. -/
structure Digits where
  digits : Nat
  point : Int
  deriving Repr, DecidableEq

/-- The decimal with `count` digits next to the double `mantissa · 2 ^ exponent` that reads back as it, if there is one.
The doubles that read back as it lie between `low` and `high` quarters of a unit of the mantissa. -/
def withDigits? (mantissa : Nat) (exponent : Int) (count : Nat) : Option Digits :=
  let quarter := exponent - 2
  let low := if mantissa = Nat.pow 2 52 ∧ -1074 < exponent then 4 * mantissa - 1 else 4 * mantissa - 2
  let high := 4 * mantissa + 2
  let (num, den) := ratio (4 * mantissa) quarter
  let point := magnitude num den
  let onGrid (m : Nat) : Nat × Nat :=
    let (n, d) := ratio m quarter
    scale n d (count - point)
  let (value, unit) := onGrid (4 * mantissa)
  let lower := (onGrid low).1
  let upper := (onGrid high).1
  let inside (n : Nat) : Bool :=
    if mantissa % 2 = 0 then lower ≤ n * unit && n * unit ≤ upper else lower < n * unit && n * unit < upper
  let below := value / unit
  let hit : Option Nat :=
    match inside below, inside (below + 1) with
    | true, true => some (roundDiv value unit)
    | true, false => some below
    | false, true => some (below + 1)
    | false, false => none
  hit.map fun n => if n = Nat.pow 10 count then ⟨1, point + 1⟩ else ⟨n, point⟩

/-- The shortest decimal of a positive double. Seventeen digits always suffice. -/
def shortest (mantissa : Nat) (exponent : Int) : Digits :=
  ((List.range 17).findSome? fun i => withDigits? mantissa exponent (i + 1)).getD ⟨0, 1⟩

/-- A row of zeros. -/
def zeros (n : Nat) : String :=
  String.ofList (List.replicate n '0')

/-- The exponent part of scientific notation: a sign and at least two digits. -/
def exponentText (e : Int) : String :=
  let ds := toString e.natAbs
  (if e < 0 then "e-" else "e+") ++ (if e.natAbs < 10 then "0" else "") ++ ds

/-- Writes a positive decimal. -/
def Digits.text (d : Digits) : String :=
  let ds := Nat.toDigits 10 d.digits
  let e := d.point - 1
  if -4 ≤ e ∧ e < 16 then
    if d.point ≤ 0 then "0." ++ zeros d.point.natAbs ++ String.ofList ds
    else
      let whole := d.point.toNat
      if ds.length ≤ whole then String.ofList ds ++ zeros (whole - ds.length) ++ ".0"
      else String.ofList (ds.take whole) ++ "." ++ String.ofList (ds.drop whole)
  else
    let rest := String.ofList (ds.drop 1)
    String.ofList (ds.take 1) ++ (if rest.isEmpty then "" else "." ++ rest) ++ exponentText e

/-- The text of an exact value. -/
def Exact.text : Exact → String
  | .notANumber => "nan"
  | .infinite negative => if negative then "-inf" else "inf"
  | .finite negative mantissa exponent =>
    (if negative then "-" else "") ++ if mantissa = 0 then "0.0" else (shortest mantissa exponent).text

/-- The text of a double. -/
def text (x : Float) : String :=
  (Exact.ofFloat x).text

end FormulaSql.Decimal
