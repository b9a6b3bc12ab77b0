import FormulaSql.Datum

/-!
# Writing data

The writer of the JSON format: a blank behind every comma and colon, entries in their order, and every character beyond
ASCII as an escape.
-/

namespace FormulaSql.Datum

/-- The escape of a code unit. -/
def unitEscape (n : Nat) : String :=
  "\\u" ++ Text.hex 4 n

/-- One character of a text literal. -/
def escapeJson (c : Char) : String :=
  if c = '"' then "\\\""
  else if c = '\\' then "\\\\"
  else if c = '\n' then "\\n"
  else if c = '\r' then "\\r"
  else if c = '\t' then "\\t"
  else if c = '\x08' then "\\b"
  else if c = '\x0c' then "\\f"
  else if 0x20 ≤ c.toNat ∧ c.toNat < 0x7F then c.toString
  else if c.toNat < 0x10000 then unitEscape c.toNat
  else
    let n := c.toNat - 0x10000
    unitEscape (0xD800 + n / 0x400) ++ unitEscape (0xDC00 + n % 0x400)

/-- A text literal. -/
def jsonText (s : String) : String :=
  "\"" ++ String.join (s.toList.map escapeJson) ++ "\""

/-- A decimal; the format is extended by words for what is no finite number. -/
def jsonReal (x : Float) : String :=
  match Decimal.Exact.ofFloat x with
  | .notANumber => "NaN"
  | .infinite negative => if negative then "-Infinity" else "Infinity"
  | e => e.text

mutual

/-- Writes a value behind what has been written. -/
def writeBehind (out : String) : Datum → String
  | null => out ++ "null"
  | bool b => out ++ if b then "true" else "false"
  | whole n => out ++ toString n
  | real x => out ++ jsonReal x
  | text s => out ++ jsonText s
  | list items => writeItems (out ++ "[") items ++ "]"
  | dict entries => writeEntries (out ++ "\x7b") entries ++ "\x7d"

/-- Writes the items of a list. -/
def writeItems (out : String) : List Datum → String
  | [] => out
  | [x] => writeBehind out x
  | x :: xs => writeItems (writeBehind out x ++ ", ") xs

/-- Writes the entries of a dictionary. -/
def writeEntries (out : String) : List (String × Datum) → String
  | [] => out
  | [(k, v)] => writeBehind (out ++ jsonText k ++ ": ") v
  | (k, v) :: es => writeEntries (writeBehind (out ++ jsonText k ++ ": ") v ++ ", ") es

end

/-- Writes a value. -/
def json (d : Datum) : String :=
  writeBehind "" d

end FormulaSql.Datum
