import FormulaSql.Decimal.Fixed
import FormulaSql.Text

/-!
# Reading decimals

A decimal is read with its digits in any script and rounded once to the nearest double. Too large decimals become
infinite and too small ones zero. A whole number is read with all its digits.
-/

namespace FormulaSql.Decimal

/-- The natural number that a row of digits spells; other characters do not count. -/
def digitsValue (cs : List Char) : Nat :=
  (cs.filterMap Text.digitValue?).foldl (fun n d => 10 * n + d) 0

/-- The double nearest to `n · 10 ^ e`, decided without large powers where it overflows or vanishes. -/
def nearest (n : Nat) (e : Int) : Float :=
  let top := e + digitCount n
  if n = 0 ∨ top < -330 then 0.0
  else if 320 < top then 1.0 / 0.0
  else ofScaled n e

/-- The double that `whole.fraction` spells, where both parts are rows of digits. -/
def ofParts (whole fraction : List Char) : Float :=
  nearest (digitsValue (whole ++ fraction)) (-fraction.length)

/-- Splits off a row of digits in which single underscores may stand between two digits. -/
def takeDigits : List Char → List Char × List Char
  | [] => ([], [])
  | c :: '_' :: d :: rest =>
    if Text.isDigit c then
      if Text.isDigit d then
        let (ds, r) := takeDigits (d :: rest)
        (c :: ds, r)
      else ([c], '_' :: d :: rest)
    else ([], c :: '_' :: d :: rest)
  | c :: rest =>
    if Text.isDigit c then
      let (ds, r) := takeDigits rest
      (c :: ds, r)
    else ([], c :: rest)

/-- Reads the sign of a number; `true` stands for minus. -/
def takeSign : List Char → Bool × List Char
  | '-' :: cs => (true, cs)
  | '+' :: cs => (false, cs)
  | cs => (false, cs)

/-- Reads an exponent part that reaches the end of the text; no text at all is the exponent zero. -/
def exponent? : List Char → Option Int
  | [] => some 0
  | c :: cs =>
    if c = 'e' ∨ c = 'E' then
      let (negative, r) := takeSign cs
      match takeDigits r with
      | ([], _) => none
      | (ds, []) => some (if negative then -(digitsValue ds : Int) else digitsValue ds)
      | _ => none
    else none

/-- Reads an unsigned number. -/
def unsigned? (cs : List Char) : Option Float :=
  let word := cs.map Char.toLower
  if word = "inf".toList ∨ word = "infinity".toList then some (1.0 / 0.0)
  else if word = "nan".toList then some (0.0 / 0.0)
  else
    let (whole, r) := takeDigits cs
    let (fraction, r) := match r with
      | '.' :: r => takeDigits r
      | r => ([], r)
    if whole.isEmpty && fraction.isEmpty then none
    else (exponent? r).map fun e => nearest (digitsValue (whole ++ fraction)) (e - fraction.length)

/-- Reads a number between blanks: an optional sign, then digits with an optional point and exponent, or one of the
words for infinity and for no number. -/
def read? (s : String) : Option Float :=
  let (negative, cs) := takeSign (Text.trim Text.isBlank s.toList)
  (unsigned? cs).map (signed negative)

/-- Reads a whole number between blanks: an optional sign, then digits. -/
def readWhole? (s : String) : Option Int :=
  let (negative, cs) := takeSign (Text.trim Text.isBlank s.toList)
  match takeDigits cs with
  | ([], _) => none
  | (ds, []) => some (if negative then -(digitsValue ds : Int) else digitsValue ds)
  | _ => none

end FormulaSql.Decimal
