/-!
# Texts

What is done with characters and texts everywhere: classes of characters beyond ASCII, which are given as lists of closed
intervals of code points, trimming, and dividing at marks.
-/

namespace FormulaSql.Text

/-! ## Intervals and blanks -/

/-- Whether one of the closed intervals holds `n`. -/
def covers (spans : List (Nat × Nat)) (n : Nat) : Bool :=
  spans.any fun s => s.1 ≤ n && n ≤ s.2

/-- The blanks, as closed intervals in ascending order. -/
def blankSpans : List (Nat × Nat) := [
  (0x09, 0x0D), (0x1C, 0x20), (0x85, 0x85), (0xA0, 0xA0), (0x1680, 0x1680), (0x2000, 0x200A), (0x2028, 0x2029),
  (0x202F, 0x202F), (0x205F, 0x205F), (0x3000, 0x3000)]

/-- White space, including the line and paragraph separators. -/
def isBlank (c : Char) : Bool :=
  covers blankSpans c.toNat

/-! ## Decimal digits

The decimal digits of every script stand in a row from zero to nine, so the zeros alone describe them. -/

/-- The zeros of Unicode 14 in ascending order. -/
def zeros : List Nat := [
  0x30, 0x660, 0x6F0, 0x7C0, 0x966, 0x9E6, 0xA66, 0xAE6, 0xB66, 0xBE6, 0xC66, 0xCE6, 0xD66, 0xDE6, 0xE50, 0xED0,
  0xF20, 0x1040, 0x1090, 0x17E0, 0x1810, 0x1946, 0x19D0, 0x1A80, 0x1A90, 0x1B50, 0x1BB0, 0x1C40, 0x1C50, 0xA620,
  0xA8D0, 0xA900, 0xA9D0, 0xA9F0, 0xAA50, 0xABF0, 0xFF10, 0x104A0, 0x10D30, 0x11066, 0x110F0, 0x11136, 0x111D0,
  0x112F0, 0x11450, 0x114D0, 0x11650, 0x116C0, 0x11730, 0x118E0, 0x11950, 0x11C50, 0x11D50, 0x11DA0, 0x16A60,
  0x16AC0, 0x16B50, 0x1D7CE, 0x1D7D8, 0x1D7E2, 0x1D7EC, 0x1D7F6, 0x1E140, 0x1E2F0, 0x1E950, 0x1FBF0]

/-- The value of a decimal digit of any script. -/
def digitValue? (c : Char) : Option Nat :=
  (zeros.find? fun z => z ≤ c.toNat && c.toNat ≤ z + 9).map (c.toNat - ·)

/-- A decimal digit of any script. -/
def isDigit (c : Char) : Bool :=
  zeros.any fun z => z ≤ c.toNat && c.toNat ≤ z + 9

/-! ## Trimming and dividing -/

/-- Drops the characters of the class from the end. -/
def trimEnd (p : Char → Bool) (cs : List Char) : List Char :=
  (cs.reverse.dropWhile p).reverse

/-- Drops the characters of the class from both ends. -/
def trim (p : Char → Bool) (cs : List Char) : List Char :=
  trimEnd p (cs.dropWhile p)

/-- The parts of a text that a mark divides. There is one more of them than marks; a part may be empty. -/
def split (mark : Char) (s : String) : List String :=
  (s.toList.splitOn mark).map String.ofList

end FormulaSql.Text
