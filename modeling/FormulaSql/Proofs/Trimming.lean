import FormulaSql.Proofs.Faultless
import FormulaSql.Proofs.Parser.Arguments
import FormulaSql.Proofs.Parser.Derivations

/-!
# Blanks around a formula

Before a formula is cut into tokens, equals signs at its front are dropped and then blanks at both ends. Blanks behind a
formula are gone after that, and so are blanks before one that does not start with an equals sign. But blanks before an
equals sign protect it: when they are dropped, the signs have had their turn.

* The text of a formula does not depend on the blanks around it exactly if there are none before it or it does not start
  with an equals sign (`formulaText_surrounded_iff`).
* An equals sign that is left is an operator without an operand. The parser takes it for a missing operand, that is, for
  a zero (`parse_stray`).

**So blanks around a formula do not matter, unless they stand before its equals sign**; then the tree is the one for a
zero followed by the rest, and the rest is lost where it starts with no operator (`convertFormula_surrounded`).
-/

namespace FormulaSql

open Text (isBlank)

/-! ## Trimming -/

namespace Text

section Trim

variable {p : Char → Bool} {cs w : List Char}

theorem trimEnd_append (hw : ∀ c ∈ w, p c) : trimEnd p (cs ++ w) = trimEnd p cs := by
  have hrev : ∀ c ∈ w.reverse, p c := fun c hc => hw c (List.mem_reverse.1 hc)
  rw [trimEnd, trimEnd, List.reverse_append, List.dropWhile_append_of_pos hrev]

theorem trim_append_left (hw : ∀ c ∈ w, p c) : trim p (w ++ cs) = trim p cs := by
  rw [trim, trim, List.dropWhile_append_of_pos hw]

theorem trim_append_right (hw : ∀ c ∈ w, p c) : trim p (cs ++ w) = trim p cs := by
  rw [trim, trim, List.dropWhile_append]
  by_cases hcs : (cs.dropWhile p).isEmpty
  · have hnil := @List.dropWhile_append_of_pos _ p w [] hw
    rw [List.append_nil] at hnil
    rw [if_pos hcs, List.isEmpty_iff.1 hcs, hnil, List.dropWhile_nil]
  · rw [if_neg hcs, trimEnd_append hw]

/-- Nothing before a character that is kept at the end is dropped there. -/
theorem trimEnd_append_cons {c : Char} (hc : ¬ p c) : trimEnd p (cs ++ [c]) = cs ++ [c] := by
  rw [trimEnd, List.reverse_append, List.reverse_singleton, List.singleton_append, List.dropWhile_cons_of_neg hc,
    List.reverse_cons, List.reverse_reverse]

theorem trimEnd_cons {c : Char} (hc : ¬ p c) : trimEnd p (c :: cs) = c :: trimEnd p cs := by
  rw [trimEnd, trimEnd, List.reverse_cons, List.dropWhile_append]
  by_cases hcs : (cs.reverse.dropWhile p).isEmpty
  · rw [if_pos hcs, List.isEmpty_iff.1 hcs, List.dropWhile_cons_of_neg hc]
    rfl
  · rw [if_neg hcs, List.reverse_append]
    rfl

/-- Dropping characters at the front first leaves no more at the end. -/
theorem length_trimEnd_le {front : List Char} : (trimEnd p cs).length ≤ (trimEnd p (front ++ cs)).length := by
  rw [trimEnd, trimEnd, List.length_reverse, List.length_reverse, List.reverse_append, List.dropWhile_append]
  by_cases hcs : (cs.reverse.dropWhile p).isEmpty
  · rw [List.isEmpty_iff.1 hcs]
    exact Nat.zero_le _
  · rw [if_neg hcs, List.length_append]
    exact Nat.le_add_right _ _

end Trim

end Text

/-! ## The text of a formula -/

section Formulas

variable {f g w w₁ w₂ : String}

/-- Without an equals sign at the front, a formula is only trimmed. -/
theorem formulaText_of_ne (h : f.toList.head? ≠ some '=') : formulaText f = Text.trim isBlank f.toList := by
  rw [formulaText]
  cases hf : f.toList with
  | nil => rfl
  | cons c cs =>
    rw [hf] at h
    have hc : ¬ (c == '=') := fun hc => h (congrArg some (eq_of_beq hc))
    rw [List.dropWhile_cons, if_neg hc]

/-- Blanks behind a formula are dropped. -/
theorem formulaText_append (hw : ∀ c ∈ w.toList, isBlank c) : formulaText (f ++ w) = formulaText f := by
  rw [formulaText, formulaText, String.toList_append, List.dropWhile_append]
  by_cases hf : (f.toList.dropWhile (· == '=')).isEmpty
  · have hsub : ∀ c ∈ w.toList.dropWhile (· == '='), isBlank c :=
      fun c hc => hw c ((List.dropWhile_sublist _).subset hc)
    rw [if_pos hf, List.isEmpty_iff.1 hf, ← List.nil_append (List.dropWhile _ _), Text.trim_append_right hsub]
  · rw [if_neg hf, Text.trim_append_right hw]

/-- Blanks before a formula are dropped too, but they leave an equals sign behind them. -/
theorem formulaText_blank_append (hne : w ≠ "") (hw : ∀ c ∈ w.toList, isBlank c) :
    formulaText (w ++ f) = Text.trim isBlank f.toList := by
  have hhead : (w ++ f).toList.head? ≠ some '=' := by
    rw [String.toList_append]
    cases hws : w.toList with
    | nil => exact absurd (String.toList_eq_nil_iff.1 hws) hne
    | cons b bs =>
      rw [hws] at hw
      rintro ⟨⟩
      exact absurd (hw '=' List.mem_cons_self) (by decide)
  rw [formulaText_of_ne hhead, String.toList_append, Text.trim_append_left hw]

/-- An equals sign behind blanks is the first character of the text. -/
theorem formulaText_protected (hne : w₁ ≠ "") (h₁ : ∀ c ∈ w₁.toList, isBlank c) (h₂ : ∀ c ∈ w₂.toList, isBlank c) :
    formulaText (w₁ ++ ("=" ++ g) ++ w₂) = '=' :: Text.trimEnd isBlank g.toList := by
  have hsign : ¬ isBlank '=' := by decide
  rw [formulaText_append h₂, formulaText_blank_append hne h₁, String.toList_append]
  show Text.trimEnd isBlank (('=' :: g.toList).dropWhile isBlank) = _
  rw [List.dropWhile_cons_of_neg hsign, Text.trimEnd_cons hsign]

/-- A formula with an equals sign at its front has a text that is not longer than the rest. -/
theorem length_formulaText_le : (formulaText ("=" ++ g)).length ≤ (Text.trimEnd isBlank g.toList).length := by
  have htext : formulaText ("=" ++ g) = Text.trim isBlank (g.toList.dropWhile (· == '=')) := by
    rw [formulaText, String.toList_append]
    rfl
  have hsuffix : (g.toList.dropWhile (· == '=')).dropWhile isBlank <:+ g.toList :=
    (List.dropWhile_suffix _).trans (List.dropWhile_suffix _)
  obtain ⟨front, hfront⟩ := hsuffix
  calc (formulaText ("=" ++ g)).length
      = (Text.trimEnd isBlank ((g.toList.dropWhile (· == '=')).dropWhile isBlank)).length := by rw [htext, Text.trim]
    _ ≤ (Text.trimEnd isBlank (front ++ (g.toList.dropWhile (· == '=')).dropWhile isBlank)).length :=
        Text.length_trimEnd_le
    _ = (Text.trimEnd isBlank g.toList).length := by rw [hfront]

/-- **When blanks around a formula leave its text alone.** -/
theorem formulaText_surrounded_iff (h₁ : ∀ c ∈ w₁.toList, isBlank c) (h₂ : ∀ c ∈ w₂.toList, isBlank c) (f : String) :
    formulaText (w₁ ++ f ++ w₂) = formulaText f ↔ w₁ = "" ∨ f.toList.head? ≠ some '=' := by
  by_cases hempty : w₁ = ""
  · subst hempty
    rw [String.empty_append, formulaText_append h₂]
    exact ⟨fun _ => .inl rfl, fun _ => rfl⟩
  · by_cases hhead : f.toList.head? = some '='
    · obtain ⟨cs, hcs⟩ := List.head?_eq_some_iff.1 hhead
      obtain rfl : f = "=" ++ String.ofList cs := by
        rw [← String.toList_inj, hcs]
        simp
      constructor
      · intro h
        have hle := @length_formulaText_le (String.ofList cs)
        rw [← h, formulaText_protected hempty h₁ h₂, List.length_cons] at hle
        omega
      · rintro (h | h)
        · exact absurd h hempty
        · exact absurd hhead h
    · rw [formulaText_append h₂, formulaText_blank_append hempty h₁, formulaText_of_ne hhead]
      exact ⟨fun _ => .inr hhead, fun _ => rfl⟩

end Formulas

/-! ## A stray token at the front -/

namespace Parser

/-- What looks for an operand first. -/
def Task.WantsOperand : Task → Prop
  | level _ | operand _ | power | unary | primary => True
  | _ => False

/-- The lexeme can start no operand: no literal, no reference, no call, no group and no sign. -/
structure StartsNothing (l : Lexeme) : Prop where
  isReference : IsReference l
  isStray : IsStray l
  not_sign : ∀ s ∈ ["-", "+"], l ≠ .operator s

section Stray

variable {tokens tokens' : Array Token} {l : Lexeme}

/-- **At the front a token that starts no operand counts as a zero.** By induction over derivations: only what looks for
an operand is asked at the front, and everything else is asked behind it, where the tokens are the same. -/
theorem derives_of_stray (hl : Shows tokens 0 l) (hstray : StartsNothing l)
    (hzero : Shows tokens' 0 (.number (.whole 0))) (hbehind : ∀ i, 0 < i → ∀ l, Shows tokens i l → Shows tokens' i l)
    {task : Task} {es : List Expr} {pos stop : Nat} (h : Derives tokens task pos es stop)
    (hpos : pos = 0 → task.WantsOperand) : Derives tokens' task pos es stop := by
  have stops {symbols : List String} {i : Nat} (hi : 0 < i) (hs : StopsAt tokens symbols i) :
      StopsAt tokens' symbols i := by
    obtain ⟨l, hl, hne⟩ := hs
    exact ⟨l, hbehind i hi l hl, hne⟩
  induction h with
  | level hoperand _ operand chain =>
    have hmid := Nat.zero_lt_of_lt (advances_of_derives hoperand)
    exact .level (operand fun _ => trivial) (chain fun h => absurd h (Nat.ne_of_gt hmid))
  | operandLevel hrank _ ih => exact .operandLevel hrank (ih fun _ => trivial)
  | operandPower hrank _ ih => exact .operandPower hrank (ih fun _ => trivial)
  | chainStop hstop => exact .chainStop (stops (Nat.pos_of_ne_zero hpos) hstop)
  | chainNext hop hs hoperand _ operand chain =>
    have hmid := Nat.zero_lt_of_lt (advances_of_derives hoperand)
    exact .chainNext (hbehind _ (Nat.pos_of_ne_zero hpos) _ hop) hs (operand fun _ => trivial)
      (chain fun h => absurd h (Nat.ne_of_gt hmid))
  | powerStop hunary hstop ih =>
    exact .powerStop (ih fun _ => trivial) (stops (Nat.zero_lt_of_lt (advances_of_derives hunary)) hstop)
  | powerNext hunary hop _ unary power =>
    exact .powerNext (unary fun _ => trivial) (hbehind _ (Nat.zero_lt_of_lt (advances_of_derives hunary)) _ hop)
      (power fun _ => trivial)
  | @sign s _ pos _ hop hs _ ih =>
    rcases Nat.eq_zero_or_pos pos with rfl | hpos'
    · exact absurd (hl.unique hop) (hstray.not_sign s hs)
    · exact .sign (hbehind _ hpos' _ hop) hs (ih fun _ => trivial)
  | @unsigned _ pos _ hstop _ ih =>
    rcases Nat.eq_zero_or_pos pos with rfl | hpos'
    · exact .unsigned ⟨_, hzero, by simp⟩ (ih fun _ => trivial)
    · exact .unsigned (stops hpos' hstop) (ih fun _ => trivial)
  | @number _ pos hv =>
    rcases Nat.eq_zero_or_pos pos with rfl | hpos'
    · cases hl.unique hv
      exact hstray.isReference.elim
    · exact .number (hbehind _ hpos' _ hv)
  | @text _ pos hs =>
    rcases Nat.eq_zero_or_pos pos with rfl | hpos'
    · cases hl.unique hs
      exact hstray.isReference.elim
    · exact .text (hbehind _ hpos' _ hs)
  | @sheet _ _ pos _ hname _ ih =>
    rcases Nat.eq_zero_or_pos pos with rfl | hpos'
    · cases hl.unique hname
      exact hstray.isReference.elim
    · exact .sheet (hbehind _ hpos' _ hname) (ih fun h => absurd h (Nat.succ_ne_zero _))
  | @noSheet _ _ pos _ hl' href hreference ih =>
    rcases Nat.eq_zero_or_pos pos with rfl | hpos'
    · -- the reference is nothing but the stray token
      cases hreference with
      | missing => exact .number hzero
      | cell h | range h | table h _ | call h _ _ | name h _ _ | group h _ _ | openGroup h _ _ _ =>
        cases hl.unique h
        exact hstray.isStray.elim
    · exact .noSheet (hbehind _ hpos' _ hl') href (ih fun h => absurd h (Nat.ne_of_gt hpos'))
  | cell hname => exact .cell (hbehind _ (Nat.pos_of_ne_zero hpos) _ hname)
  | range hname => exact .range (hbehind _ (Nat.pos_of_ne_zero hpos) _ hname)
  | table hparts he => exact .table (hbehind _ (Nat.pos_of_ne_zero hpos) _ hparts) he
  | call hname hopen _ ih =>
    exact .call (hbehind _ (Nat.pos_of_ne_zero hpos) _ hname) (hbehind _ (Nat.succ_pos _) _ hopen)
      (ih fun h => absurd h (Nat.succ_ne_zero _))
  | name hname hl' hopen =>
    exact .name (hbehind _ (Nat.pos_of_ne_zero hpos) _ hname) (hbehind _ (Nat.succ_pos _) _ hl') hopen
  | group hopen hinside hclose ih =>
    exact .group (hbehind _ (Nat.pos_of_ne_zero hpos) _ hopen) (ih fun _ => trivial)
      (hbehind _ (Nat.zero_lt_of_lt (advances_of_derives hinside)) _ hclose)
  | openGroup hopen hinside hl' hclose ih =>
    exact .openGroup (hbehind _ (Nat.pos_of_ne_zero hpos) _ hopen) (ih fun _ => trivial)
      (hbehind _ (Nat.zero_lt_of_lt (advances_of_derives hinside)) _ hl') hclose
  | missing hl' hstray' => exact .missing (hbehind _ (Nat.pos_of_ne_zero hpos) _ hl') hstray'
  | argumentsClose hclose => exact .argumentsClose (hbehind _ (Nat.pos_of_ne_zero hpos) _ hclose)
  | argumentsFinish hfinish => exact .argumentsFinish (hbehind _ (Nat.pos_of_ne_zero hpos) _ hfinish)
  | argumentsNext hl' hclose hfinish hargument hl'' _ argument others =>
    have hmid := Nat.zero_lt_of_lt (advances_of_derives hargument)
    exact .argumentsNext (hbehind _ (Nat.pos_of_ne_zero hpos) _ hl') hclose hfinish (argument fun _ => trivial)
      (hbehind _ hmid _ hl'') (others fun h => absurd h (Nat.ne_of_gt (Nat.lt_of_lt_of_le hmid (le_behindComma _ _))))

theorem shows_front (t : Token) (ts : List Token) : Shows (t :: ts).toArray 0 t.lexeme :=
  shows_of_getElem? (by simp)

/-- The tokens behind the first one do not depend on it. -/
theorem shows_behind {t t' : Token} {ts : List Token} (hts : ts ≠ []) {i : Nat} (hi : 0 < i)
    (h : Shows (t :: ts).toArray i l) : Shows (t' :: ts).toArray i l := by
  obtain ⟨i, rfl⟩ := Nat.exists_eq_add_one.2 hi
  have hlast := List.getLast?_eq_some_getLast hts
  have htoken (t : Token) : tokenAt (t :: ts).toArray (i + 1) = .ok (ts[i]?.getD (ts.getLast hts)) := by
    simp only [tokenAt, List.getElem?_toArray, List.getElem?_cons_succ, List.back?_toArray, List.getLast?_cons, hlast]
    cases ts[i]? <;> rfl
  rw [Shows, lexemeAt, htoken] at h ⊢
  exact h

/-- **A stray token at the front is read as a zero.** -/
theorem parse_stray {ts : List Token} (hstray : StartsNothing l) (hends : ∃ before p, ts = before ++ [⟨.finish, p⟩])
    {p pos : Nat} {e : Expr} (h : parse (⟨l, p⟩ :: ts) = .ok (e, pos)) :
    parse (⟨.number (.whole 0), p⟩ :: ts) = .ok (e, pos) := by
  obtain ⟨before, q, rfl⟩ := hends
  have hl : Shows (⟨l, p⟩ :: (before ++ [⟨.finish, q⟩])).toArray 0 l := shows_front ⟨l, p⟩ _
  have hzero : Shows (⟨.number (.whole 0), p⟩ :: (before ++ [⟨.finish, q⟩])).toArray 0 (.number (.whole 0)) :=
    shows_front ⟨_, p⟩ _
  have hderives := derives_of_stray hl hstray hzero (fun i hi l => shows_behind (by simp) hi) (derives_of_parse h)
    fun _ => trivial
  exact parse_of_derives (ends_append (⟨.number (.whole 0), p⟩ :: before) q) hderives

/-- A zero in front of anything but an operator is the whole expression. -/
theorem parse_zero {t : Token} {ts : List Token} (ht : ∀ s, t.lexeme ≠ .operator s)
    (hends : ∃ before p, t :: ts = before ++ [⟨.finish, p⟩]) (p : Nat) :
    parse (⟨.number (.whole 0), p⟩ :: t :: ts) = .ok (.number (.whole 0), 1) := by
  have hzero : Shows (⟨.number (.whole 0), p⟩ :: t :: ts).toArray 0 (.number (.whole 0)) := shows_front ⟨_, p⟩ _
  have hnext : Shows (⟨.number (.whole 0), p⟩ :: t :: ts).toArray 1 t.lexeme := shows_of_getElem? (by simp)
  have hreads := reads_primary hzero (by simp) (yields_number hzero)
  obtain ⟨before, q, hts⟩ := hends
  have harray : Ends (⟨.number (.whole 0), p⟩ :: t :: ts).toArray := by
    rw [hts]
    exact ends_append (⟨.number (.whole 0), p⟩ :: before) q
  exact parse_of_yields harray ((reads_of_primary hreads hnext ht).expression hnext ht)

end Stray

end Parser

/-! ## The conversion -/

section Conversion

variable {names : Sql.Names}

/-- The conversion depends on the text of a formula alone, because there is no fault that would spell the formula. -/
theorem convertFormula_of_parse (hc : Sql.mapsToTexts names.columns) (hs : Sql.mapsToTexts names.sheets) (f : String)
    (sheet : Datum) : ∃ e pos sql, Parser.parse (tokens f) = .ok (e, pos) ∧ Sql.convert names sheet e = .ok sql ∧
      convertFormula (.text f) names sheet = sql := by
  obtain ⟨e, pos, hparse, hshaped⟩ := parse_tokens_shaped f
  have hconvert := @Sql.convert_typed names sheet hc hs e hshaped.typed
  refine ⟨e, pos, _, hparse, hconvert, ?_⟩
  simp only [convertFormula, parseFormula_eq hparse, bind, Except.bind, hconvert]

theorem convertFormula_congr (hc : Sql.mapsToTexts names.columns) (hs : Sql.mapsToTexts names.sheets) {f f' : String}
    (h : formulaText f = formulaText f') (sheet : Datum) :
    convertFormula (.text f) names sheet = convertFormula (.text f') names sheet := by
  obtain ⟨e, pos, sql, hparse, hconvert, hsql⟩ := convertFormula_of_parse hc hs f sheet
  obtain ⟨e', pos', sql', hparse', hconvert', hsql'⟩ := convertFormula_of_parse hc hs f' sheet
  have htokens : tokens f = tokens f' := by rw [tokens, tokens, h]
  rw [htokens] at hparse
  cases hparse.symm.trans hparse'
  cases hconvert.symm.trans hconvert'
  rw [hsql, hsql']

/-- The tokens of a formula whose equals sign is left. -/
theorem tokensFrom_sign (cs : List Char) : tokensFrom ('=' :: cs) 0 0 = ⟨.operator "=", 0⟩ :: tokensFrom cs 1 0 := by
  have hblank : ¬ isBlank '=' := by decide
  have hfind : firstFind ('=' :: cs) = some ⟨.operator "=", 1⟩ := rfl
  rw [tokensFrom_found hblank hfind]
  rfl

/-- **Blanks around a formula do not matter, unless they stand before its equals sign.** Then the sign is left and read
as a zero, so that the SQL is that of a zero followed by the rest of the formula, and `0` if the rest starts with no
operator. -/
theorem convertFormula_surrounded {w₁ w₂ : String} (h₁ : ∀ c ∈ w₁.toList, isBlank c) (h₂ : ∀ c ∈ w₂.toList, isBlank c)
    (f : String) (hc : Sql.mapsToTexts names.columns) (hs : Sql.mapsToTexts names.sheets) (sheet : Datum) :
    (formulaText (w₁ ++ f ++ w₂) = formulaText f ↔ w₁ = "" ∨ f.toList.head? ≠ some '=') ∧
    (w₁ = "" ∨ f.toList.head? ≠ some '=' →
      convertFormula (.text (w₁ ++ f ++ w₂)) names sheet = convertFormula (.text f) names sheet) ∧
    ∀ g, w₁ ≠ "" → f = "=" ++ g → ∃ e pos sql,
      Parser.parse (⟨.number (.whole 0), 0⟩ :: tokensFrom (Text.trimEnd isBlank g.toList) 1 0) = .ok (e, pos) ∧
      Sql.convert names sheet e = .ok sql ∧
      convertFormula (.text (w₁ ++ f ++ w₂)) names sheet = sql ∧
      ((∀ t ∈ (tokensFrom (Text.trimEnd isBlank g.toList) 1 0).head?, ∀ s, t.lexeme ≠ .operator s) →
        sql = .text "0") := by
  have hiff := formulaText_surrounded_iff h₁ h₂ f
  refine ⟨hiff, fun h => convertFormula_congr hc hs (hiff.2 h) sheet, ?_⟩
  rintro g hne rfl
  obtain ⟨e, pos, sql, hparse, hconvert, hsql⟩ := convertFormula_of_parse hc hs (w₁ ++ ("=" ++ g) ++ w₂) sheet
  have hends := tokensFrom_end (Text.trimEnd isBlank g.toList) 1 0
  have hsign : Parser.StartsNothing (.operator "=") := ⟨trivial, trivial, by decide⟩
  rw [tokens, formulaText_protected hne h₁ h₂, tokensFrom_sign] at hparse
  have hzero := Parser.parse_stray hsign hends hparse
  refine ⟨e, pos, sql, hzero, hconvert, hsql, fun hhead => ?_⟩
  obtain ⟨t, ts, hts⟩ : ∃ t ts, tokensFrom (Text.trimEnd isBlank g.toList) 1 0 = t :: ts := by
    obtain ⟨before, p, hend⟩ := hends
    rw [hend]
    cases before with
    | nil => exact ⟨_, _, rfl⟩
    | cons t before => exact ⟨_, _, rfl⟩
  rw [hts] at hzero hends hhead
  cases hzero.symm.trans (Parser.parse_zero (hhead t rfl) hends 0)
  exact (Except.ok.inj hconvert).symm

end Conversion

/-- With a blank before its equals sign `=A1` is lost. -/
theorem convertFormula_surrounded_lost :
    convertFormula (.text " =A1\n") ⟨.dict [], .dict []⟩ .null = .text "0" := by
  have hc : Sql.mapsToTexts (.dict []) := by decide
  have hfirst : (tokensFrom (Text.trimEnd isBlank "A1".toList) 1 0).head? = some ⟨.cell "A1", 1⟩ := by decide
  have h₁ : ∀ c ∈ " ".toList, isBlank c := List.all_eq_true.1 (by decide)
  have h₂ : ∀ c ∈ "\n".toList, isBlank c := List.all_eq_true.1 (by decide)
  obtain ⟨e, pos, sql, -, -, hsql, hzero⟩ :=
    (@convertFormula_surrounded ⟨.dict [], .dict []⟩ " " "\n" h₁ h₂ "=A1" hc hc .null).2.2 "A1" (by decide) rfl
  rw [hfirst] at hzero
  rw [← hzero (by rintro t ⟨⟩ s ⟨⟩)]
  exact hsql

end FormulaSql
