import FormulaSql.Text.CaseTable

/-!
# Letter case

Full case mapping of texts. A character may become several. Every character is mapped on its own except the Greek
capital sigma, whose lower case at the end of a word differs from the one inside it.
-/

namespace FormulaSql.Text

/-- Maps a character beyond ASCII: first by the list of those that become several, then by the runs. -/
def mapCase (several : List (Nat × List Nat)) (shifts : List Shift) (c : Char) : List Char :=
  match several.lookup c.toNat with
  | some ns => ns.map Char.ofNat
  | none => [((shifts.findSome? (·.image? c.toNat)).map Char.ofNat).getD c]

/-- The upper case of one character. -/
def upperOne (c : Char) : List Char :=
  if c.toNat < 0x80 then [c.toUpper] else mapCase upperSeveral upperShifts c

/-- The lower case of one character out of context. -/
def lowerOne (c : Char) : List Char :=
  if c.toNat < 0x80 then [c.toLower] else mapCase lowerSeveral lowerShifts c

/-- A character of upper, lower or title case. -/
def isCased (c : Char) : Bool :=
  if c.toNat < 0x80 then c.isAlpha else covers casedSpans c.toNat

/-- A character that is passed over when the context of a letter is examined. -/
def isIgnorable (c : Char) : Bool :=
  if c.toNat < 0x80 then ['\x27', '.', ':', '^', '\x60'].contains c else covers ignorableSpans c.toNat

/-- Whether the text goes on with a cased character, ignorable ones apart. -/
def startsCased (cs : List Char) : Bool :=
  (cs.find? fun c => !isIgnorable c).any isCased

/-- The capital sigma, whose lower case depends on its place in the word. -/
def capitalSigma : Char := 'Σ'

/-- Lower case behind a context; `after` tells whether the last character there, ignorable ones apart, is cased. -/
def lowerAfter (after : Bool) : List Char → List Char
  | [] => []
  | c :: cs =>
    let out := if c = capitalSigma then [if after && !startsCased cs then 'ς' else 'σ'] else lowerOne c
    out ++ lowerAfter (if isIgnorable c then after else isCased c) cs

/-- The lower case of a text. -/
def lower (s : String) : String :=
  String.ofList (lowerAfter false s.toList)

/-- The upper case of a text. -/
def upper (s : String) : String :=
  String.ofList (s.toList.flatMap upperOne)

end FormulaSql.Text
