import FormulaSql.Bench.Value
import FormulaSql.Text

/-!
# Values known by their spelling

Dates, times, exact numbers, paths and identifiers are told apart by how they are written as calls of their constructors.
-/

namespace FormulaSql.Bench.Value

/-- A call with whole-number arguments. -/
def spelledCall (name : String) (args : List Int) : String :=
  name ++ "(" ++ ", ".intercalate (args.map toString) ++ ")"

/-- Drops zeros at the end, but keeps the first `keep` numbers; missing ones are zeros. -/
def dropZeros (keep : Nat) (args : List Int) : List Int :=
  let rest := ((args.drop keep).reverse.dropWhile (· == 0)).reverse
  let first := args.take keep
  first ++ List.replicate (keep - first.length) 0 ++ rest

/-- A date: year, month, day. -/
def date (args : List Int) : Value :=
  written "date" (spelledCall "datetime.date" args)

/-- A moment: year, month, day, hour, minute, second, microsecond. Seconds are written only if they are not zero. -/
def moment (args : List Int) : Value :=
  written "datetime" (spelledCall "datetime.datetime" (dropZeros 5 args))

/-- A time of the day: hour, minute, second, microsecond. -/
def timeOfDay (args : List Int) : Value :=
  written "time" (spelledCall "datetime.time" (dropZeros 2 args))

/-- A duration: days, seconds, microseconds, milliseconds, minutes, hours, weeks. It is written in days, seconds and
microseconds, of which only the days can be negative; parts that are zero are left out. -/
def duration (args : List Int) : Value :=
  let arg (i : Nat) : Int := args[i]?.getD 0
  let seconds := (arg 0 + 7 * arg 6) * 86400 + arg 1 + 60 * arg 4 + 3600 * arg 5
  let micros := seconds * 1000000 + arg 2 + 1000 * arg 3
  let days := Int.fdiv micros 86400000000
  let rest := Int.fmod micros 86400000000
  let parts := [("days", days), ("seconds", rest / 1000000), ("microseconds", rest % 1000000)].filter fun p => p.2 != 0
  let body := if parts.isEmpty then "0" else ", ".intercalate (parts.map fun (k, n) => k ++ "=" ++ toString n)
  written "timedelta" ("datetime.timedelta(" ++ body ++ ")")

/-- An exact decimal, as it was written. -/
def exactDecimal (s : String) : Value :=
  written "Decimal" ("Decimal(" ++ Text.quoted s ++ ")")

/-- A fraction in lowest terms with a positive denominator. -/
def fraction (num den : Int) : Value :=
  let g : Int := Int.gcd num den
  let sign : Int := if den < 0 then -1 else 1
  written "Fraction" (spelledCall "Fraction" [sign * num / g, sign * den / g])

/-- A path without empty steps and single dots. -/
def purePath (s : String) : Value :=
  let slashes := (s.toList.takeWhile (· == '/')).length
  let root := if slashes = 0 then "" else if slashes = 2 then "//" else "/"
  let text := root ++ "/".intercalate ((Text.split '/' s).filter fun p => p != "" && p != ".")
  written "PurePosixPath" ("PurePosixPath(" ++ Text.quoted (if text.isEmpty then "." else text) ++ ")")

/-- A universal identifier: thirty-two hexadecimal digits in five groups. -/
def identifier (s : String) : Value :=
  let ds := (s.toList.filter Char.isAlphanum).map Char.toLower
  let group (start length : Nat) : String := String.ofList ((ds.drop start).take length)
  let text := "-".intercalate [group 0 8, group 8 4, group 12 4, group 16 4, group 20 12]
  written "UUID" ("UUID(" ++ Text.quoted text ++ ")")

/-- A value inside a number of lists of one item. -/
def nest : Nat → Value → Value
  | 0, v => v
  | n + 1, v => list [nest n v]

end FormulaSql.Bench.Value
