import FormulaSql.Bench.Workload
import FormulaSql.Proofs.Parser.Grammar
import FormulaSql.Proofs.Token.Spacing
import FormulaSql.Proofs.Trimming

/-!
# Sizes of workloads

A formula that grows with the size of a workload is cut piece by piece (`CutsInto`): what a piece is cut into is said
together with the text that follows it, because the following character decides where a token ends. From the pieces come
the lexemes of the whole formula, and from a rendering of a tree by these lexemes the tree and the SQL of the formula
(`parseFormula_of_cutsInto`, `convertFormula_of_cutsInto`).

**A conditional nested `d` times has `9 * d + 2` tokens, and its SQL is nested `d` times and has `42 * d + 3` characters**
(`run_nestedFunctions`). The formula grows on both sides. So the induction over the depth speaks of the formula with any
argument end behind it (`cutsInto_nestedIf`), and the tree and the SQL grow around the inner ones in the same way.
-/

namespace FormulaSql

open Text (isBlank)

/-! ## Cutting piece by piece -/

/-- With `r` behind them, the characters `front` are cut into the lexemes `ls`, and the last token ends where they do. -/
def CutsInto (front r : List Char) (ls : List Lexeme) : Prop :=
  ∀ pos, ∃ ts : List Token, ts.map Token.lexeme = ls ∧
    tokensFrom (front ++ r) pos 0 = ts ++ tokensFrom r (pos + front.length) 0

section Pieces

variable {front a b r : List Char} {f : Find} {ls las lbs : List Lexeme}

/-- A token that is found at a character that is not blank. -/
theorem cutAs_cons {c : Char} {cs : List Char} (hfound : firstFind (c :: cs ++ r) = some f)
    (hlength : f.length = (c :: cs).length) (hc : ¬ isBlank c) : CutAs f (c :: cs) r :=
  ⟨hfound, hlength, by rintro _ ⟨⟩; exact hc⟩

theorem cutsInto_one (h : CutAs f front r) : CutsInto front r [f.lexeme] :=
  fun pos => ⟨[⟨f.lexeme, pos⟩], rfl, h.tokensFrom_eq pos⟩

/-- One piece after the other. -/
theorem CutsInto.append (ha : CutsInto a (b ++ r) las) (hb : CutsInto b r lbs) : CutsInto (a ++ b) r (las ++ lbs) := by
  intro pos
  obtain ⟨ts, hts, hcut⟩ := ha pos
  obtain ⟨us, hus, hcut'⟩ := hb (pos + a.length)
  refine ⟨ts ++ us, by rw [List.map_append, hts, hus], ?_⟩
  rw [List.append_assoc, hcut, hcut', List.append_assoc, List.length_append, Nat.add_assoc]

/-- A token before a piece. -/
theorem CutsInto.cons (h : CutAs f front (b ++ r)) (hb : CutsInto b r ls) : CutsInto (front ++ b) r (f.lexeme :: ls) :=
  (cutsInto_one h).append hb

/-- Blanks are cut into nothing. -/
theorem cutsInto_blanks {w : List Char} (hw : ∀ c ∈ w, isBlank c) (r : List Char) : CutsInto w r [] :=
  fun pos => ⟨[], rfl, tokensFrom_blanks pos hw⟩

/-- Only the equals sign goes from a formula without blanks at the ends of its text. -/
theorem formulaText_sign {s : String} (hfirst : ∀ c ∈ s.toList.head?, c ≠ '=' ∧ ¬ isBlank c)
    (hlast : ∀ c ∈ s.toList.getLast?, ¬ isBlank c) : formulaText ("=" ++ s) = s.toList := by
  have htext : ("=" ++ s).toList = '=' :: s.toList := by simp
  rw [formulaText, htext, List.dropWhile_cons, if_pos (by decide)]
  cases hs : s.toList with
  | nil => rfl
  | cons c cs =>
    rw [hs] at hfirst hlast
    obtain ⟨hsign, hblank⟩ := hfirst c rfl
    obtain ⟨front, d, hd⟩ := List.eq_nil_or_concat (c :: cs) |>.resolve_left (List.cons_ne_nil c cs)
    rw [List.dropWhile_cons, if_neg (by simpa using hsign), Text.trim, List.dropWhile_cons_of_neg hblank]
    rw [hd, List.concat_eq_append] at hlast ⊢
    exact Text.trimEnd_append_cons (hlast d (by simp))

/-- The lexemes of a formula. -/
theorem tokens_of_cutsInto {s : String} (h : CutsInto (formulaText s) [] ls) :
    ∃ ts p, tokens s = ts ++ [⟨.finish, p⟩] ∧ ts.map Token.lexeme = ls := by
  obtain ⟨ts, hts, hcut⟩ := h 0
  rw [List.append_nil] at hcut
  exact ⟨ts, _, hcut, hts⟩

theorem length_tokens_of_cutsInto {s : String} (h : CutsInto (formulaText s) [] ls) :
    (tokens s).length = ls.length + 1 := by
  obtain ⟨ts, p, htokens, rfl⟩ := tokens_of_cutsInto h
  rw [htokens, List.length_append, List.length_map, List.length_singleton]

/-- **The tree of a formula is the one that its lexemes render.** -/
theorem parseFormula_of_cutsInto {s : String} {e : Expr} (h : CutsInto (formulaText s) [] ls)
    (he : Parser.Renders .comparison e ls) : parseFormula (.text s) = .ok e := by
  obtain ⟨ts, p, htokens, rfl⟩ := tokens_of_cutsInto h
  let finish : Token := ⟨.finish, p⟩
  have hspells : Parser.Spells (ts ++ [finish]).toArray 0 (ts.map Token.lexeme) := Parser.spells_of_list [] ts [finish]
  have hfinish : Parser.Shows (ts ++ [finish]).toArray (0 + (ts.map Token.lexeme).length) finish.lexeme :=
    Parser.shows_of_getElem? (by simp)
  have hreads := Parser.reads_of_renders he hspells hfinish (Parser.follows_of_not_operator (by simp [finish]))
  have hparse := Parser.parse_of_yields (Parser.ends_append ts p) (hreads.expression hfinish (by simp [finish]))
  rw [← htokens] at hparse
  exact parseFormula_eq hparse

/-- Its SQL is that of the tree. -/
theorem convertFormula_of_cutsInto {s : String} {e : Expr} {names : Sql.Names} {sheet sql : Datum}
    (h : CutsInto (formulaText s) [] ls) (he : Parser.Renders .comparison e ls)
    (hsql : Sql.convert names sheet e = .ok sql) : convertFormula (.text s) names sheet = sql := by
  simp only [convertFormula, parseFormula_of_cutsInto h he, bind, Except.bind, hsql]

end Pieces

/-! ## Nested conditionals -/

namespace Bench.Workload

open FormulaSql.Parser (Renders RendersAll)

/-- The number that a digit stands for. -/
def digit (c : Char) : Number :=
  .real (Decimal.ofParts [c] [])

/-- The lexemes before the inner conditional. -/
def conditionLexemes : List Lexeme :=
  [.function "IF", .openParen, .cell "A1", .operator ">", .number (digit '0'), .comma]

/-- The lexemes behind the inner conditional. -/
def otherwiseLexemes : List Lexeme :=
  [.comma, .number (digit '0'), .closeParen]

/-- The lexemes of a conditional nested `n` times. -/
def nestedLexemes : Nat → List Lexeme
  | 0 => [.number (digit '0')]
  | n + 1 => conditionLexemes ++ (nestedLexemes n ++ otherwiseLexemes)

/-- The tree of a conditional nested `n` times. -/
def nestedTree : Nat → Expr
  | 0 => .number (digit '0')
  | n + 1 => .call "IF" [.binary ">" (.cell "A1" .null) (.number (digit '0')), nestedTree n, .number (digit '0')]

/-- A case distinction of SQL nested `n` times. -/
def nestedCase : Nat → String
  | 0 => "0.0"
  | n + 1 => "CASE WHEN (col_a > 0.0) THEN " ++ nestedCase n ++ " ELSE 0.0 END"

theorem nestedCase_succ (n : Nat) :
    nestedCase (n + 1) = "CASE WHEN (col_a > 0.0) THEN " ++ nestedCase n ++ " ELSE 0.0 END" := rfl

theorem length_nestedLexemes (n : Nat) : (nestedLexemes n).length = 9 * n + 1 := by
  induction n with
  | zero => rfl
  | succ n ih =>
    rw [nestedLexemes, List.length_append, List.length_append, ih]
    show 6 + (9 * n + 1 + 3) = _
    omega

theorem length_nestedCase (n : Nat) : (nestedCase n).length = 42 * n + 3 := by
  induction n with
  | zero => decide
  | succ n ih =>
    have hfront : "CASE WHEN (col_a > 0.0) THEN ".length = 29 := by decide
    have hback : " ELSE 0.0 END".length = 13 := by decide
    rw [nestedCase_succ, String.length_append, String.length_append, ih, hfront, hback]
    omega

theorem toList_nestedIf (n : Nat) :
    (nestedIf (n + 1)).toList = "IF(A1>0, ".toList ++ ((nestedIf n).toList ++ ", 0)".toList) := by
  rw [nestedIf, String.toList_append, String.toList_append, List.append_assoc]

example : nestedIf 2 = "IF(A1>0, IF(A1>0, 0, 0), 0)" := by decide

/-- A comma and the blank behind it. -/
theorem cutsInto_comma (r : List Char) : CutsInto ", ".toList r [.comma] := by
  have hcomma : CutAs ⟨.comma, 1⟩ [','] (" ".toList ++ r) := cutAs_cons rfl rfl (by decide)
  have hblank : ∀ c ∈ [' '], isBlank c := List.forall_mem_singleton.2 (by decide)
  exact .cons hcomma (cutsInto_blanks hblank r)

/-- Whatever stands behind its comma, the condition is cut in the same way. -/
theorem cutsInto_condition (r : List Char) : CutsInto "IF(A1>0, ".toList r conditionLexemes := by
  have hname : CutAs ⟨.function "IF", 2⟩ ['I', 'F'] ("(A1>0, ".toList ++ r) := cutAs_cons rfl rfl (by decide)
  have hopen : CutAs ⟨.openParen, 1⟩ ['('] ("A1>0, ".toList ++ r) := cutAs_cons rfl rfl (by decide)
  have hcell : CutAs ⟨.cell "A1", 2⟩ ['A', '1'] (">0, ".toList ++ r) := cutAs_cons rfl rfl (by decide)
  have hsign : CutAs ⟨.operator ">", 1⟩ ['>'] ("0, ".toList ++ r) := cutAs_cons rfl rfl (by decide)
  have hzero : CutAs ⟨.number (digit '0'), 1⟩ ['0'] (", ".toList ++ r) := cutAs_cons rfl rfl (by decide)
  exact .cons hname (.cons hopen (.cons hcell (.cons hsign (.cons hzero (cutsInto_comma r)))))

theorem cutsInto_otherwise (r : List Char) : CutsInto ", 0)".toList r otherwiseLexemes := by
  have hzero : CutAs ⟨.number (digit '0'), 1⟩ ['0'] (")".toList ++ r) := cutAs_cons rfl rfl (by decide)
  have hclose : CutAs ⟨.closeParen, 1⟩ [')'] r := cutAs_cons rfl rfl (by decide)
  exact (cutsInto_comma _).append (.cons hzero (cutsInto_one hclose))

/-- **Before the end of an argument a nested conditional is cut into its lexemes.** Inside another conditional a comma
follows it; without one the digit in the middle could go on. -/
theorem cutsInto_nestedIf (n : Nat) : ∀ r : List Char, (∀ c ∈ r.head?, c = ',') →
    CutsInto (nestedIf n).toList r (nestedLexemes n) := by
  induction n with
  | zero =>
    intro r hr
    have hzero : CutAs ⟨.number (digit '0'), 1⟩ ['0'] r := by
      refine cutAs_cons ?_ rfl (by decide)
      cases r with
      | nil => rfl
      | cons c r =>
        obtain rfl := hr c rfl
        rfl
    exact cutsInto_one hzero
  | succ n ih =>
    intro r _
    rw [toList_nestedIf, nestedLexemes]
    have hinner : CutsInto (nestedIf n).toList (", 0)".toList ++ r) (nestedLexemes n) := ih _ (by rintro _ ⟨⟩; rfl)
    exact (cutsInto_condition _).append (hinner.append (cutsInto_otherwise r))

theorem formulaText_nestedIf (n : Nat) : formulaText ("=" ++ nestedIf n) = (nestedIf n).toList := by
  cases n with
  | zero => decide
  | succ n =>
    apply formulaText_sign
    · rw [toList_nestedIf]
      rintro _ ⟨⟩
      decide
    · rw [toList_nestedIf, ← List.append_assoc, List.getLast?_append_of_ne_nil _ (by decide)]
      rintro _ ⟨⟩
      decide

/-- The lexemes render the tree: the inner conditional is the middle one of three arguments. -/
theorem renders_nested (n : Nat) : Renders .primary (nestedTree n) (nestedLexemes n) := by
  induction n with
  | zero => exact .number _
  | succ n ih =>
    have hleft : Renders .comparison (.cell "A1" .null) [.cell "A1"] := Parser.renders_of_primary _ (.cell "A1")
    have hzero (layer : Parser.Layer) : Renders layer (.number (digit '0')) [.number (digit '0')] :=
      Parser.renders_of_primary layer (.number _)
    have hcondition := Renders.join (s := ">") (by decide) hleft (hzero _)
    have hargs := RendersAll.more hcondition (.more (Parser.renders_of_primary _ ih) (.one (hzero _)))
    have hcall := @Renders.call "IF" _ _ hargs
    simpa [nestedLexemes, nestedTree, conditionLexemes, otherwiseLexemes] using hcall

/-- A choice whose middle argument is written as `sql`. -/
theorem call_condition (sql : String) :
    Sql.call "IF" [.text (Sql.binary ">" "col_a" "0.0"), .text sql, .text "0.0"] =
      .ok (.text ("CASE WHEN (col_a > 0.0) THEN " ++ sql ++ " ELSE 0.0 END")) := by
  have hstyle : Sql.style "IF" 3 = .choice := by decide
  have hfront : "CASE WHEN " ++ Sql.binary ">" "col_a" "0.0" ++ " THEN " = "CASE WHEN (col_a > 0.0) THEN " := by
    decide
  have hback : " ELSE " ++ ("0.0" ++ " END") = " ELSE 0.0 END" := by decide
  have hwrite : Sql.Style.choice.write [Sql.binary ">" "col_a" "0.0", sql, "0.0"] =
      "CASE WHEN " ++ Sql.binary ">" "col_a" "0.0" ++ " THEN " ++ sql ++ " ELSE " ++ "0.0" ++ " END" := rfl
  rw [hfront, String.append_assoc, String.append_assoc, hback] at hwrite
  rw [Sql.call, List.length_cons, List.length_cons, List.length_singleton, hstyle]
  exact congrArg (fun s => Except.ok (Datum.text s)) hwrite

/-- The SQL of the tree, by the same induction. -/
theorem convert_nested (n : Nat) : Sql.convert corpusNames corpusSheet (nestedTree n) = .ok (nestedCase n) := by
  have hzero : (digit '0').text = "0.0" := by decide
  induction n with
  | zero =>
    rw [nestedTree, Sql.convert, hzero]
    rfl
  | succ n ih =>
    have hcell : Sql.cell corpusNames corpusSheet "A1" .null = .ok "col_a" := rfl
    have hname : Sql.upperCase "IF" = .ok "IF" := rfl
    simp only [nestedTree, Sql.convert, Sql.convertAll, hname, hcell, hzero, ih, bind, Except.bind, pure, Except.pure]
    exact call_condition (nestedCase n)

/-- **The law of nested conditionals.** A workload of any depth counts `9 * d + 2` tokens and `42 * d + 3` characters, for
`d` the depth, or zero if that is negative: these are the tokens of the conditional nested `d` times, whose SQL is a case
distinction nested `d` times. -/
theorem run_nestedFunctions (depth : Int) :
    Workload.run .nestedFunctions depth =
      .ok (.tuple [.whole (9 * max depth 0 + 2), .whole (42 * max depth 0 + 3)]) ∧
    (tokens ("=" ++ nestedIf depth.toNat)).length = 9 * depth.toNat + 2 ∧
    convertFormula ("=" ++ nestedIf depth.toNat : String) corpusNames corpusSheet = nestedCase depth.toNat ∧
    (nestedCase depth.toNat).length = 42 * depth.toNat + 3 := by
  have hcut : CutsInto (formulaText ("=" ++ nestedIf depth.toNat)) [] (nestedLexemes depth.toNat) := by
    rw [formulaText_nestedIf]
    exact cutsInto_nestedIf _ [] (by rintro _ ⟨⟩)
  have htokens := length_tokens_of_cutsInto hcut
  rw [length_nestedLexemes] at htokens
  have hsql := convertFormula_of_cutsInto hcut (Parser.renders_of_primary _ (renders_nested _)) (convert_nested _)
  have hlength := length_nestedCase depth.toNat
  refine ⟨?_, htokens, hsql, hlength⟩
  have hdepth : (depth.toNat : Int) = max depth 0 := Int.ofNat_toNat depth
  simp only [Workload.run, tokenCount, sql, htokens, hsql, Datum.spell, hlength]
  rw [← hdepth]
  push_cast
  rfl

end Bench.Workload

end FormulaSql
