import FormulaSql.Datum
import FormulaSql.Decimal.Reader

/-!
# Reading data

The reader of the JSON format. It keeps the order of keys and the difference between whole numbers and decimals, lets the
last value of a repeated key win, and also knows `NaN`, `Infinity` and `-Infinity`. A text that is refused is refused
with the problem and the place where it was noticed.
-/

namespace FormulaSql.Datum

/-- What is wrong with a text. -/
inductive Problem where
  | noValue
  | noKey
  | noColon
  | noComma
  | openText
  | controlCharacter
  | badEscape
  | badCodePoint
  | trailing
  | byteOrderMark
  deriving Repr, DecidableEq

/-- The wording of a problem. -/
def Problem.message : Problem → String
  | noValue => "Expecting value"
  | noKey => "Expecting property name enclosed in double quotes"
  | noColon => "Expecting ':' delimiter"
  | noComma => "Expecting ',' delimiter"
  | openText => "Unterminated string starting at"
  | controlCharacter => "Invalid control character at"
  | badEscape => "Invalid \\escape"
  | badCodePoint => "Invalid \\uXXXX escape"
  | trailing => "Extra data"
  | byteOrderMark => "Unexpected UTF-8 BOM (decode using utf-8-sig)"

/-- A problem and the index of the character where it was noticed. -/
structure ReadError where
  problem : Problem
  index : Nat
  deriving Repr, DecidableEq

/-- The wording of an error: the problem, then line, column and index of its place in the text. -/
def ReadError.message (e : ReadError) (text : List Char) : String :=
  let before := text.take e.index
  let line := (before.filter (· == '\n')).length + 1
  let column := (before.reverse.takeWhile (· != '\n')).length + 1
  e.problem.message ++ ": line " ++ toString line ++ " column " ++ toString column
    ++ " (char " ++ toString e.index ++ ")"

namespace Reader

/-- What is left of the text, and the index of its first character. -/
structure Cursor where
  rest : List Char
  index : Nat
  deriving Repr, DecidableEq

/-- Moves a number of characters ahead. -/
def Cursor.skip (c : Cursor) (n : Nat) : Cursor :=
  ⟨c.rest.drop n, c.index + n⟩

/-- Stops at the cursor. -/
def Cursor.fail {α : Type} (c : Cursor) (p : Problem) : Except ReadError α :=
  .error ⟨p, c.index⟩

/-- White space of the format. -/
def isGap (c : Char) : Bool :=
  c == ' ' || c == '\t' || c == '\n' || c == '\r'

/-- Skips white space. -/
def Cursor.gap (c : Cursor) : Cursor :=
  c.skip (c.rest.takeWhile isGap).length

/-- The value of a hexadecimal digit. -/
def hexValue? (c : Char) : Option Nat :=
  if '0' ≤ c ∧ c ≤ '9' then some (c.toNat - 48)
  else if 'a' ≤ c ∧ c ≤ 'f' then some (c.toNat - 87)
  else if 'A' ≤ c ∧ c ≤ 'F' then some (c.toNat - 55)
  else none

/-- The number that four hexadecimal digits at the front spell; another character has to follow them. -/
def hex4? : List Char → Option Nat
  | a :: b :: c :: d :: _ :: _ => do
    let a ← hexValue? a
    let b ← hexValue? b
    let c ← hexValue? c
    let d ← hexValue? d
    return ((a * 16 + b) * 16 + c) * 16 + d
  | _ => none

/-- The characters that a backslash and a letter stand for. -/
def escaped? : Char → Option Char
  | '"' => some '"'
  | '\\' => some '\\'
  | '/' => some '/'
  | 'b' => some '\x08'
  | 'f' => some '\x0c'
  | 'n' => some '\n'
  | 'r' => some '\r'
  | 't' => some '\t'
  | _ => none

/-- The low half of a pair of code units at the front: a backslash, the letter `u` and its four digits. -/
def lowHalf? : List Char → Option Nat
  | '\\' :: 'u' :: cs => (hex4? cs).filter fun n => 0xDC00 ≤ n && n ≤ 0xDFFF
  | _ => none

/-- The character that stands for a half without its partner, which is no character itself: one of the last private ones,
another one for each half. -/
def loneHalf (n : Nat) : Char :=
  Char.ofNat (0x10F800 + (n - 0xD800))

/-- The character of a code unit and the number of further characters it takes: a high half joins the low half that
follows it. -/
def codeUnit (n : Nat) (rest : List Char) : Char × Nat :=
  if 0xD800 ≤ n ∧ n ≤ 0xDBFF then
    match lowHalf? rest with
    | some m => (Char.ofNat (0x10000 + (n - 0xD800) * 0x400 + (m - 0xDC00)), 6)
    | none => (loneHalf n, 0)
  else if 0xDC00 ≤ n ∧ n ≤ 0xDFFF then (loneHalf n, 0)
  else (Char.ofNat n, 0)

/-- The rest of a text literal whose opening quote has the index `start`. The next `skip` characters belong to an escape
that has been read. -/
def textBody (start : Nat) : List Char → (index skip : Nat) → Except ReadError (List Char × Cursor)
  | [], _, _ => .error ⟨.openText, start⟩
  | _ :: cs, i, skip + 1 => textBody start cs (i + 1) skip
  | '"' :: cs, i, 0 => .ok ([], ⟨cs, i + 1⟩)
  | '\\' :: cs, i, 0 =>
    match cs with
    | [] => .error ⟨.openText, start⟩
    | 'u' :: ds =>
      match hex4? ds with
      | none => .error ⟨.badCodePoint, i + 1⟩
      | some n => do
        let (c, more) := codeUnit n (ds.drop 4)
        let (v, r) ← textBody start cs (i + 1) (5 + more)
        return (c :: v, r)
    | e :: _ =>
      match escaped? e with
      | none => .error ⟨.badEscape, i⟩
      | some c => do
        let (v, r) ← textBody start cs (i + 1) 1
        return (c :: v, r)
  | c :: cs, i, 0 =>
    if c.toNat < 0x20 then .error ⟨.controlCharacter, i⟩
    else do
      let (v, r) ← textBody start cs (i + 1) 0
      return (c :: v, r)

/-- A text literal at the cursor, which stands behind the opening quote. -/
def textAt (c : Cursor) : Except ReadError (String × Cursor) := do
  let (v, r) ← textBody (c.index - 1) c.rest c.index 0
  return (String.ofList v, r)

/-- An exponent part at the front, with its length. -/
def exponent? : List Char → Option (Int × Nat)
  | e :: cs =>
    if e = 'e' ∨ e = 'E' then
      let (negative, r) := Decimal.takeSign cs
      let ds := r.takeWhile Char.isDigit
      let n : Int := Decimal.digitsValue ds
      if ds.isEmpty then none else some (if negative then -n else n, 1 + (cs.length - r.length) + ds.length)
    else none
  | [] => none

/-- A fraction part at the front. -/
def fraction? : List Char → Option (List Char)
  | '.' :: cs =>
    let ds := cs.takeWhile Char.isDigit
    if ds.isEmpty then none else some ds
  | _ => none

/-- Splits off a minus sign; `true` stands for it. -/
def takeMinus : List Char → Bool × List Char
  | '-' :: r => (true, r)
  | r => (false, r)

/-- The digits before the point; a zero in front stands alone. -/
def wholeDigits (r : List Char) : List Char :=
  let run := r.takeWhile Char.isDigit
  if run.head? = some '0' then ['0'] else run

/-- The number that is made of these parts. Without fraction and exponent it is a whole number. -/
def numberOf (negative : Bool) (whole : List Char) (fraction : Option (List Char)) (exponent : Option Int) : Datum :=
  if fraction.isNone && exponent.isNone then
    let n : Int := Decimal.digitsValue whole
    .whole (if negative then -n else n)
  else
    let ds := fraction.getD []
    .real (Decimal.signed negative (Decimal.nearest (Decimal.digitsValue (whole ++ ds)) (exponent.getD 0 - ds.length)))

/-- A number at the cursor. -/
def numberAt (c : Cursor) : Except ReadError (Datum × Cursor) :=
  let (negative, r) := takeMinus c.rest
  let whole := wholeDigits r
  if whole.isEmpty then c.fail .noValue
  else
    let r₁ := r.drop whole.length
    let fraction := fraction? r₁
    let fractionLength := (fraction.map (·.length + 1)).getD 0
    let exponent := exponent? (r₁.drop fractionLength)
    let length := (if negative then 1 else 0) + whole.length + fractionLength + (exponent.map (·.2)).getD 0
    .ok (numberOf negative whole fraction (exponent.map (·.1)), c.skip length)

/-- The words of the format and what they stand for. -/
def words : List (String × Datum) := [
  ("null", .null), ("true", .bool true), ("false", .bool false), ("NaN", .real (0.0 / 0.0)),
  ("Infinity", .real (1.0 / 0.0)), ("-Infinity", .real (-1.0 / 0.0))]

/-- A word or a number at the cursor. -/
def scalarAt (c : Cursor) : Except ReadError (Datum × Cursor) :=
  match words.find? fun w => w.1.toList.isPrefixOf c.rest with
  | some (w, d) => .ok (d, c.skip w.length)
  | none => numberAt c

mutual

/-- A value at the cursor. Each call uses up one unit of fuel, and no more than two are nested per character. -/
def valueAt (fuel : Nat) (c : Cursor) : Except ReadError (Datum × Cursor) :=
  match fuel with
  | 0 => c.fail .noValue
  | fuel + 1 =>
    match c.rest with
    | '"' :: _ => do
      let (s, c) ← textAt (c.skip 1)
      return (.text s, c)
    | '[' :: _ =>
      let c := (c.skip 1).gap
      match c.rest with
      | ']' :: _ => .ok (.list [], c.skip 1)
      | _ => do
        let (items, c) ← itemsAt fuel c
        return (.list items, c)
    | '\x7b' :: _ =>
      let c := (c.skip 1).gap
      match c.rest with
      | '\x7d' :: _ => .ok (.dict [], c.skip 1)
      | _ => do
        let (entries, c) ← entriesAt fuel c
        return (.dict (entries.foldl (fun es (k, v) => put es k v) []), c)
    | _ => scalarAt c

/-- The items of a list up to its closing bracket. -/
def itemsAt (fuel : Nat) (c : Cursor) : Except ReadError (List Datum × Cursor) :=
  match fuel with
  | 0 => c.fail .noValue
  | fuel + 1 => do
    let (d, c) ← valueAt fuel c
    let c := c.gap
    match c.rest with
    | ']' :: _ => return ([d], c.skip 1)
    | ',' :: _ =>
      let (ds, c) ← itemsAt fuel (c.skip 1).gap
      return (d :: ds, c)
    | _ => c.fail .noComma

/-- The entries of a dictionary up to its closing brace. -/
def entriesAt (fuel : Nat) (c : Cursor) : Except ReadError (List (String × Datum) × Cursor) :=
  match fuel with
  | 0 => c.fail .noValue
  | fuel + 1 =>
    match c.rest with
    | '"' :: _ => do
      let (k, c) ← textAt (c.skip 1)
      let c := c.gap
      match c.rest with
      | ':' :: _ =>
        let (v, c) ← valueAt fuel (c.skip 1).gap
        let c := c.gap
        match c.rest with
        | '\x7d' :: _ => return ([(k, v)], c.skip 1)
        | ',' :: _ =>
          let (es, c) ← entriesAt fuel (c.skip 1).gap
          return ((k, v) :: es, c)
        | _ => c.fail .noComma
      | _ => c.fail .noColon
    | _ => c.fail .noKey

end

end Reader

/-- Reads one value that takes the whole text, white space around it apart. -/
def read (text : String) : Except ReadError Datum := do
  let cs := text.toList
  if cs.head? = some '\ufeff' then throw ⟨.byteOrderMark, 0⟩
  let (d, c) ← Reader.valueAt (2 * cs.length + 2) (Reader.Cursor.gap ⟨cs, 0⟩)
  let c := c.gap
  if c.rest.isEmpty then return d else c.fail .trailing

end FormulaSql.Datum
