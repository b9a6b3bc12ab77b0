/-!
# The exact value of a double

A finite double is `± mantissa · 2 ^ exponent`. Everything that is printed starts from this exact value, so that
rounding is a question about natural numbers.
-/

namespace FormulaSql.Decimal

/-- What a double stands for. -/
inductive Exact where
  /-- The number `± mantissa · 2 ^ exponent`. -/
  | finite (negative : Bool) (mantissa : Nat) (exponent : Int)
  | infinite (negative : Bool)
  | notANumber
  deriving Repr, DecidableEq

/-- Reads the fields of the binary format: one sign bit, eleven exponent bits, fifty-two fraction bits. -/
def Exact.ofBits (bits : Nat) : Exact :=
  let negative := bits / Nat.pow 2 63 % 2 == 1
  let biased : Nat := bits / Nat.pow 2 52 % Nat.pow 2 11
  let fraction : Nat := bits % Nat.pow 2 52
  if biased = 2047 then
    if fraction = 0 then .infinite negative else .notANumber
  else if biased = 0 then .finite negative fraction (-1074)
  else .finite negative (Nat.pow 2 52 + fraction) ((biased : Int) - 1075)

/-- The exact value of a double. -/
def Exact.ofFloat (x : Float) : Exact :=
  .ofBits x.toBits.toNat

/-- The fraction `num / den` equal to `mantissa · 2 ^ exponent`. -/
def ratio (mantissa : Nat) (exponent : Int) : Nat × Nat :=
  match exponent with
  | .ofNat k => (mantissa * Nat.pow 2 k, 1)
  | .negSucc k => (mantissa, Nat.pow 2 (k + 1))

/-- A number without what stands behind its point. -/
def truncated (negative : Bool) (mantissa : Nat) (exponent : Int) : Int :=
  let (num, den) := ratio mantissa exponent
  if negative then -((num / den : Nat) : Int) else (num / den : Nat)

/-- The fraction `num / den` scaled by `10 ^ places`. -/
def scale (num den : Nat) (places : Int) : Nat × Nat :=
  match places with
  | .ofNat k => (num * Nat.pow 10 k, den)
  | .negSucc k => (num, den * Nat.pow 10 (k + 1))

/-- The natural number nearest to `num / den`; a half goes to the even neighbour. -/
def roundDiv (num den : Nat) : Nat :=
  let q := num / den
  let r := num % den
  if 2 * r < den then q else if den < 2 * r then q + 1 else q + q % 2

/-- The number of decimal digits of `n`. -/
def digitCount (n : Nat) : Nat :=
  (Nat.toDigits 10 n).length

/-- The `k` with `10 ^ (k - 1) ≤ num / den < 10 ^ k`, for a positive fraction. -/
def magnitude (num den : Nat) : Int :=
  if den ≤ num then digitCount (num / den) else 1 - digitCount ((den + num - 1) / num - 1)

end FormulaSql.Decimal
