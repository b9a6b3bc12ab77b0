import FormulaSql.Text
import FormulaSql.Text.Case
import FormulaSql.Text.Word

/-!
# Column names of table references

The SQL name of the column that a bracketed part such as `[[#This Row],[Unit Price]]` or `[Unit Price]` refers to.
-/

namespace FormulaSql.Sql

/-- Makes a column title an SQL name: every character that is no word character becomes an underscore, underscores at the
ends are dropped, and the rest is put into lower case. -/
def columnName (title : List Char) : String :=
  Text.lower (String.ofList (Text.trim (· == '_') (title.map fun c => if Text.isWord c then c else '_')))

/-- The mark of a reference to the row of the formula. -/
def rowMark : List Char :=
  "[[#This Row],[".toList

/-- The column title directly behind the first place where the row mark starts a complete reference. -/
def thisRowTitle? : List Char → Option (List Char)
  | [] => none
  | c :: cs =>
    let body := (c :: cs).drop rowMark.length
    let title := body.takeWhile (· != ']')
    if rowMark.isPrefixOf (c :: cs) && !title.isEmpty && [']', ']'].isPrefixOf (body.drop title.length) then some title
    else thisRowTitle? cs

/-- The title of a part that is one pair of brackets; a line end may follow. -/
def simpleTitle? : List Char → Option (List Char)
  | '[' :: cs =>
    let title := cs.takeWhile (· != ']')
    match cs.drop title.length with
    | [']'] | [']', '\n'] => if title.isEmpty then none else some title
    | _ => none
  | _ => none

/-- The length of a row word at the front: a number sign, word characters, blanks and `Row`. -/
def rowWord? : List Char → Option Nat
  | '#' :: cs =>
    let word := cs.takeWhile Text.isWord
    let gap := (cs.drop word.length).takeWhile Text.isBlank
    if !word.isEmpty && !gap.isEmpty && "Row".toList.isPrefixOf (cs.drop (word.length + gap.length)) then
      some (1 + word.length + gap.length + 3)
    else none
  | _ => none

/-- Removes all row words; `skip` characters belong to one that has been found. -/
def dropRowWords : List Char → (skip : Nat) → List Char
  | [], _ => []
  | _ :: cs, skip + 1 => dropRowWords cs skip
  | c :: cs, 0 =>
    match rowWord? (c :: cs) with
    | some n => dropRowWords cs (n - 1)
    | none => c :: dropRowWords cs 0

/-- The title of any other part: brackets at the ends, row words, and then commas, brackets and spaces at the ends go. -/
def looseTitle (column : List Char) : List Char :=
  Text.trim [',', '[', ']', ' '].contains (dropRowWords (Text.trim ['[', ']'].contains column) 0)

end FormulaSql.Sql
