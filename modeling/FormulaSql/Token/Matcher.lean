import FormulaSql.Decimal.Reader
import FormulaSql.Text.Case
import FormulaSql.Text.Word
import FormulaSql.Token

/-!
# Matchers

A matcher looks at the front of a text and finds one kind of token there, or nothing. What it finds is the lexeme and the
number of characters that the lexeme takes. All the matchers are listed in `Matcher.order`; the first that finds
something decides (`firstFind`).
-/

namespace FormulaSql

/-- A lexeme at the front of a text and the number of characters it takes. -/
structure Find where
  lexeme : Lexeme
  length : Nat
  deriving Repr, DecidableEq

/-! ## Texts -/

/-- The content of a quoted text behind its opening quote, and the number of characters up to and with the closing quote.
A doubled quote stands for one quote; a text that is not closed reaches to the end. -/
def textBody : List Char → List Char × Nat
  | [] => ([], 0)
  | '"' :: '"' :: r =>
    let (v, n) := textBody r
    ('"' :: v, n + 2)
  | '"' :: _ => ([], 1)
  | c :: r =>
    let (v, n) := textBody r
    (c :: v, n + 1)

/-- A text in double quotes. -/
def findText : List Char → Option Find
  | '"' :: r =>
    let (v, n) := textBody r
    some ⟨.text (String.ofList v), n + 1⟩
  | _ => none

/-! ## Names -/

/-- A character that starts a plain name: an ASCII letter or the underscore. -/
def isNameStart (c : Char) : Bool :=
  c.isAlpha || c == '_'

/-- Splits off a plain name: a name start and the word characters behind it. -/
def takeName? : List Char → Option (List Char × List Char)
  | [] => none
  | c :: cs => if isNameStart c then some (c :: cs.takeWhile Text.isWord, cs.dropWhile Text.isWord) else none

/-- The length of a bracketed part: up to the bracket that closes the first one, or to the end. -/
def bracketed (depth : Nat) : List Char → Nat
  | [] => 0
  | c :: cs =>
    if c = '[' then bracketed (depth + 1) cs + 1
    else if c = ']' then if depth = 1 then 1 else bracketed (depth - 1) cs + 1
    else bracketed depth cs + 1

/-- A reference to a table column: a name with a bracketed part directly behind it. -/
def findTable (cs : List Char) : Option Find :=
  match takeName? cs with
  | some (name, '[' :: r) =>
    let column := ('[' :: r).take (bracketed 0 ('[' :: r))
    some ⟨.table (some ⟨some (String.ofList name), some (String.ofList column), some (String.ofList (name ++ column))⟩),
      name.length + column.length⟩
  | _ => none

/-- A sheet name without quotes, which ends in an exclamation mark. `skipped` characters stand before it. -/
def findPlainSheet (skipped : Nat) (cs : List Char) : Option Find :=
  match takeName? cs with
  | some (name, '!' :: _) => some ⟨.sheet (some (String.ofList name)), skipped + name.length + 1⟩
  | _ => none

/-- A sheet name in single quotes or without. Where no exclamation mark follows the quotes, a name without quotes may
stand behind them; the quoted part is then skipped. -/
def findSheet : List Char → Option Find
  | '\x27' :: r =>
    let name := r.takeWhile (· != '\x27')
    match r.dropWhile (· != '\x27') with
    | '\x27' :: '!' :: _ => some ⟨.sheet (some (String.ofList name)), name.length + 3⟩
    | '\x27' :: rest => findPlainSheet (name.length + 2) rest
    | _ => none
  | cs => findPlainSheet 0 cs

/-! ## Cells and ranges -/

/-- Splits off a dollar sign, if there is one. -/
def takeDollar : List Char → List Char × List Char
  | '$' :: cs => (['$'], cs)
  | cs => ([], cs)

/-- Splits off a cell: upper-case ASCII letters and digits, each with an optional dollar sign before it. -/
def takeCell? (cs : List Char) : Option (List Char × List Char) :=
  let (d₁, r₁) := takeDollar cs
  let letters := r₁.takeWhile Char.isUpper
  let (d₂, r₂) := takeDollar (r₁.dropWhile Char.isUpper)
  let digits := r₂.takeWhile Text.isDigit
  if letters.isEmpty || digits.isEmpty then none
  else some (d₁ ++ letters ++ d₂ ++ digits, r₂.dropWhile Text.isDigit)

/-- Two cells with a colon between them. -/
def findRange (cs : List Char) : Option Find :=
  match takeCell? cs with
  | some (first, ':' :: r) =>
    (takeCell? r).map fun (last, _) =>
      ⟨.range (String.ofList (first ++ ':' :: last)), first.length + 1 + last.length⟩
  | _ => none

/-- A single cell. -/
def findCell (cs : List Char) : Option Find :=
  (takeCell? cs).map fun (name, _) => ⟨.cell (String.ofList name), name.length⟩

/-! ## Numbers -/

/-- Splits off a decimal: its digits before and behind the point, the number of characters, and the rest. -/
def takeDecimal? (cs : List Char) : Option (List Char × List Char × Nat × List Char) :=
  let whole := cs.takeWhile Text.isDigit
  match cs.dropWhile Text.isDigit with
  | '.' :: r =>
    let fraction := r.takeWhile Text.isDigit
    if whole.isEmpty && fraction.isEmpty then none
    else some (whole, fraction, whole.length + 1 + fraction.length, r.dropWhile Text.isDigit)
  | r => if whole.isEmpty then none else some (whole, [], whole.length, r)

/-- A decimal, with a percent sign behind it a hundredth of it. -/
def findNumber (cs : List Char) : Option Find :=
  (takeDecimal? cs).map fun (whole, fraction, n, r) =>
    let x := Decimal.ofParts whole fraction
    match r with
    | '%' :: _ => ⟨.number (.real (x / 100.0)), n + 1⟩
    | _ => ⟨.number (.real x), n⟩

/-! ## Functions, operators, punctuation -/

/-- A letter of function names: an ASCII letter, or one of the four letters beyond ASCII that share a case with one. -/
def isFunctionLetter (c : Char) : Bool :=
  c.isAlpha || ['İ', 'ı', 'ſ', 'K'].contains c

/-- A character that starts a function name. -/
def isFunctionStart (c : Char) : Bool :=
  isFunctionLetter c || c == '_'

/-- A character inside a function name. -/
def isFunctionPart (c : Char) : Bool :=
  isFunctionStart c || c.isDigit || c == '.'

/-- A function name, in upper case, directly before a parenthesis. -/
def findFunction : List Char → Option Find
  | [] => none
  | c :: cs =>
    if isFunctionStart c then
      match cs.dropWhile isFunctionPart with
      | '(' :: _ =>
        let name := (c :: cs.takeWhile isFunctionPart).flatMap Text.upperOne
        some ⟨.function (String.ofList name), name.length⟩
      | _ => none
    else none

/-- The operators; one that starts another one comes behind it. -/
def operators : List String :=
  ["<>", "<=", ">=", "<", ">", "=", "+", "-", "*", "/", "^", "&"]

/-- An operator. -/
def findOperator (cs : List Char) : Option Find :=
  (operators.find? fun op => op.toList.isPrefixOf cs).map fun op => ⟨.operator op, op.length⟩

/-- A parenthesis or a comma. -/
def findPunctuation : List Char → Option Find
  | '(' :: _ => some ⟨.openParen, 1⟩
  | ')' :: _ => some ⟨.closeParen, 1⟩
  | ',' :: _ => some ⟨.comma, 1⟩
  | _ => none

/-! ## All matchers -/

/-- The matchers. -/
inductive Matcher where
  | text
  | table
  | sheet
  | range
  | cell
  | number
  | function
  | operator
  | punctuation
  deriving Repr, DecidableEq

namespace Matcher

/-- What a matcher finds at the front of a text. -/
def find : Matcher → List Char → Option Find
  | text => findText
  | table => findTable
  | sheet => findSheet
  | range => findRange
  | cell => findCell
  | number => findNumber
  | function => findFunction
  | operator => findOperator
  | punctuation => findPunctuation

/-- Whether a matcher looks at the current character, so that it cannot be used behind the end. -/
def needsCharacter : Matcher → Bool
  | text | sheet | punctuation => true
  | _ => false

/-- The order in which the matchers are tried. -/
def order : List Matcher :=
  [text, table, sheet, range, cell, number, function, operator, punctuation]

end Matcher

/-- What the first successful matcher finds. -/
def firstFind (cs : List Char) : Option Find :=
  Matcher.order.findSome? (·.find cs)

end FormulaSql
