import FormulaSql.Bench.Document
import FormulaSql.Text

/-!
# Signals of other programs

A measuring round runs other programs. The last line that one of them prints is its signal, a document; an empty line
stands for an empty document.
-/

namespace FormulaSql.Bench.Round

/-- How a program ended. -/
inductive Ended where
  | finished (code : Int) (printed : Option String) (complaints : String)
  /-- It could not be run. -/
  | raised (r : Raised)
  deriving Repr

/-- Characters that end a line. -/
def isLineEnd (c : Char) : Bool :=
  ['\n', '\r', '\x0b', '\x0c', '\x1c', '\x1d', '\x1e', '\x85', '\u2028', '\u2029'].contains c

/-- A reversed text without the line end it starts with, if it does. -/
def dropLineEnd : List Char → List Char
  | '\n' :: '\r' :: cs => cs
  | c :: cs => if isLineEnd c then cs else c :: cs
  | [] => []

/-- The last line of a text. A line end at the end of the text belongs to the line before it. -/
def lastLine (text : String) : String :=
  String.ofList ((dropLineEnd text.toList.reverse).takeWhile fun c => !isLineEnd c).reverse

/-- The document that the last line of a text is to hold. -/
def signalText (text : String) : String :=
  let line := lastLine text
  if line.isEmpty then "\x7b\x7d" else line

/-- Fills a text with blanks on the right. -/
def padRight (width : Nat) (s : String) : String :=
  s ++ String.ofList (List.replicate (width - s.length) ' ')

/-- Fills a text with blanks on the left. -/
def padLeft (width : Nat) (s : String) : String :=
  String.ofList (List.replicate (width - s.length) ' ') ++ s

end FormulaSql.Bench.Round
