import FormulaSql.Text.Printable

/-!
# Quoted texts

The quoted spelling of a text inside a message or a listing: single quotes, or double quotes if the text holds single
quotes only; what cannot be shown is written as an escape.
-/

namespace FormulaSql.Text

/-- The hexadecimal digits of `n`, filled with zeros to `width`. -/
def hex (width n : Nat) : String :=
  let ds := Nat.toDigits 16 n
  String.ofList (List.replicate (width - ds.length) '0' ++ ds)

/-- One character between quotes of the kind `quote`. -/
def escapeChar (quote c : Char) : String :=
  if c = quote ∨ c = '\\' then "\\" ++ c.toString
  else if c = '\n' then "\\n"
  else if c = '\r' then "\\r"
  else if c = '\t' then "\\t"
  else if isPrintable c then c.toString
  else if c.toNat < 0x100 then "\\x" ++ hex 2 c.toNat
  else if c.toNat < 0x10000 then "\\u" ++ hex 4 c.toNat
  else "\\U" ++ hex 8 c.toNat

/-- The quoted spelling of a text. -/
def quoted (s : String) : String :=
  let quote := if s.toList.contains '\x27' && !s.toList.contains '"' then '"' else '\x27'
  quote.toString ++ String.join (s.toList.map (escapeChar quote)) ++ quote.toString

end FormulaSql.Text
