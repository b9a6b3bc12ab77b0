import FormulaSql.Decimal.Shortest

/-!
# Rounding to given digits

Texts with a fixed number of places, and doubles rounded to places or to significant digits. The exact binary value is
rounded, and a half goes to the even neighbour.
-/

namespace FormulaSql.Decimal

/-- Writes `n / 10 ^ places` with all its places. -/
def placed (n places : Nat) : String :=
  if places = 0 then toString n
  else
    let ds := Nat.toDigits 10 n
    let ds := List.replicate (places + 1 - ds.length) '0' ++ ds
    String.ofList (ds.take (ds.length - places)) ++ "." ++ String.ofList (ds.drop (ds.length - places))

/-- The text of a double with a fixed number of places. -/
def fixed (places : Nat) (x : Float) : String :=
  match Exact.ofFloat x with
  | .notANumber => "nan"
  | .infinite negative => if negative then "-inf" else "inf"
  | .finite negative mantissa exponent =>
    let (num, den) := ratio mantissa exponent
    (if negative then "-" else "") ++ placed (roundDiv (num * Nat.pow 10 places) den) places

/-- Gives a sign to a double. -/
def signed (negative : Bool) (x : Float) : Float :=
  if negative then -x else x

/-- The double nearest to `n · 10 ^ e`. -/
def ofScaled (n : Nat) (e : Int) : Float :=
  match e with
  | .ofNat k => Float.ofScientific n false k
  | .negSucc k => Float.ofScientific n true (k + 1)

/-- The double rounded to a number of places. -/
def roundPlaces (places : Nat) (x : Float) : Float :=
  match Exact.ofFloat x with
  | .finite negative mantissa exponent =>
    let (num, den) := ratio mantissa exponent
    signed negative (ofScaled (roundDiv (num * Nat.pow 10 places) den) (-places))
  | _ => x

/-- The double rounded to a number of significant digits; both zeros become the positive one. -/
def roundSignificant (count : Nat) (x : Float) : Float :=
  match Exact.ofFloat x with
  | .finite negative mantissa exponent =>
    if mantissa = 0 then 0.0
    else
      let (num, den) := ratio mantissa exponent
      let places : Int := count - magnitude num den
      let (n, d) := scale num den places
      signed negative (ofScaled (roundDiv n d) (-places))
  | _ => x

end FormulaSql.Decimal
