import FormulaSql.Fault
import FormulaSql.Text
import FormulaSql.Token.Matcher

/-!
# Cutting a formula into tokens

Blanks are skipped, at every other character the first successful matcher decides, and a character that no matcher knows
is skipped too. A final token marks the end. A `Lexer` is a formula with a current position; its steps can be taken one
by one.
-/

namespace FormulaSql

/-- The text of a formula that is cut into tokens: without leading equals signs and then without blanks at the ends. -/
def formulaText (s : String) : List Char :=
  Text.trim Text.isBlank (s.toList.dropWhile (· == '='))

/-- The tokens of a text whose first character has the position `pos`; `skip` characters belong to an earlier token. -/
def tokensFrom : List Char → (pos skip : Nat) → List Token
  | [], pos, _ => [⟨.finish, pos⟩]
  | _ :: cs, pos, skip + 1 => tokensFrom cs (pos + 1) skip
  | c :: cs, pos, 0 =>
    if Text.isBlank c then tokensFrom cs (pos + 1) 0
    else
      match firstFind (c :: cs) with
      | some f => ⟨f.lexeme, pos⟩ :: tokensFrom cs (pos + 1) (f.length - 1)
      | none => tokensFrom cs (pos + 1) 0

/-- The tokens of a formula. -/
def tokens (s : String) : List Token :=
  tokensFrom (formulaText s) 0 0

/-- A formula with a current position, which may lie behind its end. -/
structure Lexer where
  text : List Char
  pos : Nat
  deriving Repr, DecidableEq

namespace Lexer

/-- A lexer at the start of a formula. Only a text is a formula. -/
def ofDatum : Datum → Except Fault Lexer
  | .text s => .ok ⟨formulaText s, 0⟩
  | d => .error (.unsupported d.kind .trim)

/-- What is left of the formula. -/
def rest (l : Lexer) : List Char :=
  l.text.drop l.pos

/-- Applies one matcher at the current position and moves behind what it finds. -/
def apply (l : Lexer) (m : Matcher) : Lexer × Except Fault (Option Token) :=
  if l.rest.isEmpty && m.needsCharacter then (l, .error .pastEnd)
  else
    match m.find l.rest with
    | some f => ({ l with pos := l.pos + f.length }, .ok (some ⟨f.lexeme, l.pos⟩))
    | none => (l, .ok none)

/-- Cuts all that is left into tokens. -/
def finish (l : Lexer) : Lexer × List Token :=
  ({ l with pos := max l.pos l.text.length }, tokensFrom l.rest l.pos 0)

end Lexer

end FormulaSql
