import FormulaSql.Proofs.Parser.Shape
import FormulaSql.Proofs.Sql.Scanner
import FormulaSql.Proofs.Token.Cutting

/-!
# Text literals survive

A text is written in a formula between double quotes, with every double quote in it doubled, and in SQL in the same way
with single quotes (`Sql.enclosed`). The tokenizer reads back what is written in a formula, wherever it stands
(`findText_enclosed`). A formula that is one such text keeps all its characters when it is trimmed
(`formulaText_enclosed`), has one token (`tokens_enclosed`), and its SQL is the text as a literal, which the scanner
reads back.
-/

namespace FormulaSql

open Sql (doubled enclosed)

/-! ## Reading a text -/

section Reading

variable {r : List Char}

/-- A quote without a second one closes the text. -/
theorem textBody_close (hr : r.head? ≠ some '"') : textBody ('"' :: r) = ([], 1) := by
  rw [textBody]
  exact fun _ h => hr (by rw [h]; rfl)

theorem textBody_other {c : Char} (hc : c ≠ '"') : textBody (c :: r) = (c :: (textBody r).1, (textBody r).2 + 1) := by
  rw [textBody]
  · exact fun _ h _ => hc h
  · exact hc

/-- The body of a text is read up to its closing quote. -/
theorem textBody_doubled (hr : r.head? ≠ some '"') : ∀ cs : List Char,
    textBody (doubled '"' cs ++ '"' :: r) = (cs, (doubled '"' cs).length + 1)
  | [] => textBody_close hr
  | c :: cs => by
    have ih := textBody_doubled hr cs
    have hcons : doubled '"' (c :: cs) = (if c = '"' then ['"', '"'] else [c]) ++ doubled '"' cs := rfl
    rw [hcons]
    by_cases hc : c = '"'
    · subst hc
      show textBody ('"' :: '"' :: (doubled '"' cs ++ '"' :: r)) = _
      rw [textBody, ih]; rfl
    · rw [if_neg hc, List.singleton_append, List.cons_append, textBody_other hc, ih]; rfl

/-- A text in quotes is found with all its characters. -/
theorem findText_enclosed (s : String) (hr : r.head? ≠ some '"') :
    findText (enclosed '"' s.toList ++ r) = some ⟨.text s, (enclosed '"' s.toList).length⟩ := by
  have hbody := textBody_doubled hr s.toList
  show findText ('"' :: (doubled '"' s.toList ++ ['"'] ++ r)) = _
  rw [List.append_assoc, List.singleton_append, findText, hbody]
  simp [enclosed]

end Reading

/-! ## A formula that is one text -/

theorem trim_enclosed {p : Char → Bool} {quote : Char} (hq : p quote = false) (cs : List Char) :
    Text.trim p (enclosed quote cs) = enclosed quote cs := by
  have hrev : (enclosed quote cs).reverse = quote :: ((doubled quote cs).reverse ++ [quote]) := by simp [enclosed]
  have hstart : (enclosed quote cs).dropWhile p = enclosed quote cs := by
    rw [enclosed, List.dropWhile_cons_of_neg (by simp [hq])]
  rw [Text.trim, hstart, Text.trimEnd, hrev, List.dropWhile_cons_of_neg (by simp [hq]), ← hrev, List.reverse_reverse]

section Formula

variable (s : String)

/-- There is nothing to trim off a text in quotes. -/
theorem formulaText_enclosed : formulaText ("=" ++ String.ofList (enclosed '"' s.toList)) = enclosed '"' s.toList := by
  have hdrop : ("=" ++ String.ofList (enclosed '"' s.toList)).toList.dropWhile (· == '=') = enclosed '"' s.toList := by
    simp only [String.toList_append, String.toList_ofList]; rfl
  rw [formulaText, hdrop, trim_enclosed (by decide)]

/-- The text is the only token. -/
theorem tokens_enclosed : tokens ("=" ++ String.ofList (enclosed '"' s.toList)) =
    [⟨.text s, 0⟩, ⟨.finish, (enclosed '"' s.toList).length⟩] := by
  have hfind : firstFind (enclosed '"' s.toList) = some ⟨.text s, (enclosed '"' s.toList).length⟩ := by
    have h := @findText_enclosed [] s (by simp)
    rw [List.append_nil] at h
    rw [firstFind, Matcher.order, List.findSome?_cons]
    simp only [Matcher.find, h]
  have hblank : ¬ Text.isBlank '"' := by decide
  rw [tokens, formulaText_enclosed]
  rw [enclosed] at hfind ⊢
  rw [tokensFrom_found hblank hfind, List.drop_length, tokensFrom_nil, Nat.zero_add]

/-- The tree of the formula is the text, and its SQL a literal, whatever the tables of names are. -/
theorem convertFormula_enclosed (names : Sql.Names) (sheet : Datum) :
    convertFormula (.text ("=" ++ String.ofList (enclosed '"' s.toList))) names sheet = .text (Sql.literal s) := by
  have hparse : Parser.parse (tokens ("=" ++ String.ofList (enclosed '"' s.toList))) = .ok (.text (.text s), 1) := by
    rw [tokens_enclosed]; rfl
  simp only [convertFormula, parseFormula_eq hparse, bind, Except.bind, Sql.convert]

/-- **Texts survive.** A text in double quotes is read back wherever it stands in a formula, unless one more double quote
follows; and as a formula of its own it becomes the same text in single quotes, which the scanner reads back. -/
theorem text_survives :
    (∀ before after : List Char, after.head? ≠ some '"' →
      (⟨before ++ enclosed '"' s.toList ++ after, before.length⟩ : Lexer).apply .text =
        (⟨before ++ enclosed '"' s.toList ++ after, before.length + (enclosed '"' s.toList).length⟩,
          .ok (some ⟨.text s, before.length⟩))) ∧
    (∀ (names : Sql.Names) (sheet : Datum),
      convertFormula (.text ("=" ++ String.ofList (enclosed '"' s.toList))) names sheet =
        .text (String.ofList (enclosed '\x27' s.toList))) ∧
    (Sql.scan (String.ofList (enclosed '\x27' s.toList))).decoded = [s] ∧
    (Sql.scan (String.ofList (enclosed '\x27' s.toList))).mode.outside := by
  have hliteral : String.ofList (enclosed '\x27' s.toList) = Sql.literal s := by
    rw [← Sql.toList_literal, String.ofList_toList]
  have hscan : Sql.scan (Sql.literal s) = ⟨.quote, [s.toList], false⟩ := Sql.scan_literal s rfl
  refine ⟨fun before after hafter => ?_, fun names sheet => ?_, ?_, ?_⟩
  · have hrest : (⟨before ++ enclosed '"' s.toList ++ after, before.length⟩ : Lexer).rest =
        enclosed '"' s.toList ++ after := by
      rw [Lexer.rest, List.append_assoc, List.drop_left]
    rw [Lexer.apply, hrest, Matcher.find, findText_enclosed s hafter]
    rfl
  · rw [hliteral, convertFormula_enclosed]
  · rw [hliteral, hscan]
    simp [Sql.Scan.decoded]
  · rw [hliteral, hscan]; rfl

end Formula

/-- A text with both kinds of quotes, as an argument of a call. -/
theorem text_survives_both_quotes :
    [')'].head? ≠ some '"' ∧
      (⟨"F(\"\"\"it's\")".toList, 2⟩ : Lexer).apply .text =
        (⟨"F(\"\"\"it's\")".toList, 10⟩, .ok (some ⟨.text "\"it's", 2⟩)) := by
  have hafter : [')'].head? ≠ some '"' := by decide
  exact ⟨hafter, (text_survives "\"it's").1 "F(".toList [')'] hafter⟩

end FormulaSql
