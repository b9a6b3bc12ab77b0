import FormulaSql.Proofs.Sql.Layout
import FormulaSql.Proofs.Token.Partition

/-!
# No formula fails

Each stage can fail on input that was built by hand: a matcher behind the end of a text, the reader of numbers on a text
that is no number, the parser on a table token without its parts, the converter on a tree whose names are no texts. On
the way from a formula none of this happens, because each stage gets what the one before promises: the lexer is used
before the end only (`Lexer.runs_tokensFrom`), the number matcher hands on a decimal (`takeDecimal_read`), the tokens have
their shape and end with the finishing one (`parse_tokens_shaped`), and the tree holds texts (`Expr.Shaped.typed`).
-/

namespace FormulaSql

/-- What the number matcher takes is accepted by the reader of numbers, and gives the number of the token. -/
theorem takeDecimal_read {cs whole fraction r : List Char} {n : Nat}
    (h : takeDecimal? cs = some (whole, fraction, n, r)) :
    Decimal.read? (String.ofList (cs.take n)) = some (Decimal.ofParts whole fraction) := by
  obtain ⟨decimal, rfl, hn, _, hread⟩ := takeDecimal_append h
  rw [List.take_left' hn, hread]

/-- **No formula fails**, whatever texts the tables of names map to and whatever the current sheet is. The lexer steps
through the text without a fault, every decimal is read, the tokens are parsed, the tree is written, and this is what the
conversion of the formula gives. -/
theorem convertFormula_faultless (formula : String) {names : Sql.Names} (hc : Sql.mapsToTexts names.columns)
    (hs : Sql.mapsToTexts names.sheets) (sheet : Datum) :
    (⟨formulaText formula, 0⟩ : Lexer).Runs (tokens formula) ∧
    (∀ cs whole fraction n r, takeDecimal? cs = some (whole, fraction, n, r) →
      Decimal.read? (String.ofList (cs.take n)) = some (Decimal.ofParts whole fraction)) ∧
    ∃ e pos sql, Parser.parse (tokens formula) = .ok (e, pos) ∧ Sql.convert names sheet e = .ok (.text sql) ∧
      convertFormula (.text formula) names sheet = .text sql := by
  have hruns := Lexer.runs_tokensFrom (formulaText formula) _ 0 rfl (Nat.zero_le _)
  obtain ⟨e, pos, hparse, hshaped⟩ := parse_tokens_shaped formula
  have hconvert := @Sql.convert_typed names sheet hc hs e hshaped.typed
  refine ⟨hruns, fun _ _ _ _ _ => takeDecimal_read, e, pos, _, hparse, hconvert, ?_⟩
  have hstages : parseFormula (.text formula) >>= Sql.convert names sheet =
      .ok (.text (Sql.sqlOf (Sql.pieces names sheet e))) := by
    rw [parseFormula_eq hparse]
    exact hconvert
  unfold convertFormula
  rw [hstages]

/-- A formula in which nothing is closed, with a table that maps to an empty text. -/
theorem convertFormula_faultless_unclosed :
    Sql.mapsToTexts (.dict [("A", .text "")]) ∧ Sql.mapsToTexts (.dict [("S", .text "it's")]) ∧
      ∃ e pos sql, Parser.parse (tokens "=)S!A1^(5.%,T[[x],SUM(\"") = .ok (e, pos) ∧
        Sql.convert ⟨.dict [("A", .text "")], .dict [("S", .text "it's")]⟩ .null e = .ok (.text sql) ∧
        convertFormula (.text "=)S!A1^(5.%,T[[x],SUM(\"") ⟨.dict [("A", .text "")], .dict [("S", .text "it's")]⟩ .null =
          .text sql := by
  have hc : Sql.mapsToTexts (.dict [("A", .text "")]) := by decide
  have hs : Sql.mapsToTexts (.dict [("S", .text "it's")]) := by decide
  exact ⟨hc, hs, (@convertFormula_faultless "=)S!A1^(5.%,T[[x],SUM(\""
    ⟨.dict [("A", .text "")], .dict [("S", .text "it's")]⟩ hc hs .null).2.2⟩

end FormulaSql
