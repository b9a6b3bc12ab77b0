import FormulaSql.Conversion
import FormulaSql.Proofs.Parser.Runs
import FormulaSql.Proofs.Token.Shape

/-!
# What trees of a formula look like

A tree that was built by hand may hold anything; one that the parser builds holds what the tokens hold. The induction over
the parser is made once, for any property of trees that its building steps keep (`Built`, `parse_built`). It is then used
for the shape of trees (`Expr.Shaped`): every formula has a tree, and the tree has its shape (`parseFormula_shaped`).
-/

namespace FormulaSql.Parser

/-! ## Properties that the parser keeps -/

/-- A lexeme of the tokens. -/
def Has (tokens : Array Token) (l : Lexeme) : Prop :=
  ∃ t ∈ tokens, t.lexeme = l

/-- A sheet as the parser hands it on: none, or the value of a token. -/
def IsSheet (tokens : Array Token) (sheet : Datum) : Prop :=
  sheet = .null ∨ ∃ name, Has tokens (.sheet name) ∧ sheet = (Lexeme.sheet name).value

/-- A property that holds of every tree that the parser can build from the tokens, step by step. -/
structure Built (tokens : Array Token) (Q : Expr → Prop) : Prop where
  missing : Q .missing
  number : ∀ v, Has tokens (.number v) → Q (.number v)
  text : ∀ s, Has tokens (.text s) → Q (.text (.text s))
  cell : ∀ name sheet, Has tokens (.cell name) → IsSheet tokens sheet → Q (.cell (.text name) sheet)
  range : ∀ name sheet, Has tokens (.range name) → IsSheet tokens sheet → Q (.range name sheet)
  table : ∀ parts e, Has tokens (.table parts) → tableExpr parts = .ok e → Q e
  call : ∀ name args, Has tokens (.function name) → (∀ a ∈ args, Q a) → Q (.call (.text name) args)
  binary : ∀ s l r, s ∈ operators → Q l → Q r → Q (.binary s l r)
  unary : ∀ s e, s ∈ ["-", "+"] → Q e → Q (.unary s e)

/-- An answer whose tree has the property; faults do not matter. -/
abbrev Gives (Q : Expr → Prop) : Except Failure (Expr × Nat) → Prop :=
  Meets (fun r => Q r.1) fun _ => True

section Keeps

variable {tokens : Array Token} {Q : Expr → Prop} {n : Nat}

/-- With `n` units of fuel every function of the parser gives trees with the property. -/
structure Keeps (tokens : Array Token) (Q : Expr → Prop) (n : Nat) : Prop where
  level : ∀ rank pos, Gives Q (level tokens n rank pos)
  operand : ∀ rank pos, Gives Q (operand tokens n rank pos)
  chain : ∀ rank left pos, Q left → Gives Q (chain tokens n rank left pos)
  power : ∀ pos, Gives Q (power tokens n pos)
  unary : ∀ pos, Gives Q (unary tokens n pos)
  primary : ∀ pos, Gives Q (primary tokens n pos)
  reference : ∀ sheet pos, IsSheet tokens sheet → Gives Q (reference tokens n sheet pos)
  call : ∀ name pos, Shows tokens pos (.function name) → Gives Q (call tokens n pos)
  arguments : ∀ pos, Meets (fun r => ∀ a ∈ r.1, Q a) (fun _ => True) (arguments tokens n pos)

/-- Goes on with the lexeme that is seen at a position. -/
theorem meets_lexemeAt {α : Type} {P : α → Prop} (h : Ends tokens) {pos : Nat} {f : Lexeme → Except Failure α}
    (hf : ∀ l, Shows tokens pos l → Has tokens l → Meets P (fun _ => True) (f l)) :
    Meets P (fun _ => True) (lexemeAt tokens pos >>= f) := by
  have hseen := lexemeAt_seen h (fun _ => True) pos
  cases hl : lexemeAt tokens pos with
  | error => trivial
  | ok l =>
    rw [hl] at hseen
    exact hf l hl hseen.1

/-- Goes on with an operator that may stand at a position. -/
theorem meets_operatorAt {α : Type} {P : α → Prop} (h : Ends tokens) {symbols : List String} {pos : Nat}
    {f : Option String → Except Failure α} (hnone : Meets P (fun _ => True) (f none))
    (hsome : ∀ s ∈ symbols, Meets P (fun _ => True) (f (some s))) :
    Meets P (fun _ => True) (operatorAt tokens symbols pos >>= f) :=
  (operatorAt_before h (fun _ => True) symbols pos).bind fun o ho => match o, ho with
    | none, _ => hnone
    | some s, ho => hsome s (ho s rfl).2

theorem symbols_operators (rank : Rank) : ∀ s ∈ rank.symbols, s ∈ operators := by
  cases rank <;> decide

theorem keeps_succ (h : Ends tokens) (hQ : Built tokens Q) (ih : Keeps tokens Q n) : Keeps tokens Q (n + 1) where
  level rank pos := by
    rw [level_succ]
    exact (ih.operand rank pos).bind fun r hr => ih.chain rank r.1 r.2 hr
  operand rank pos := by
    rw [operand_succ]
    cases rank.tighter with
    | none => exact ih.power pos
    | some rank => exact ih.level rank pos
  chain rank left pos hleft := by
    rw [chain_succ]
    refine meets_operatorAt h hleft fun s hs => (ih.operand rank (pos + 1)).bind fun r hr => ?_
    exact ih.chain rank _ r.2 (hQ.binary s left r.1 (symbols_operators rank s hs) hleft hr)
  power pos := by
    rw [power_succ]
    refine (ih.unary pos).bind fun l hl => meets_operatorAt h hl fun s hs => (ih.power (l.2 + 1)).bind fun r hr => ?_
    exact hQ.binary s l.1 r.1 (by cases List.mem_singleton.1 hs; decide) hl hr
  unary pos := by
    rw [unary_succ]
    refine meets_operatorAt h (ih.primary pos) fun s hs => (ih.unary (pos + 1)).bind fun r hr => ?_
    exact hQ.unary s r.1 hs hr
  primary pos := by
    rw [primary_succ]
    refine meets_lexemeAt h fun l _ hl => ?_
    cases l with
    | number v => exact hQ.number v hl
    | text s => exact hQ.text s hl
    | sheet name => exact ih.reference _ (pos + 1) (.inr ⟨name, hl, rfl⟩)
    | _ => exact ih.reference .null pos (.inl rfl)
  reference sheet pos hsheet := by
    rw [reference_succ]
    refine meets_lexemeAt h fun l hshows hl => ?_
    cases l with
    | cell name => exact hQ.cell name sheet hl hsheet
    | range name => exact hQ.range name sheet hl hsheet
    | table parts =>
      dsimp only
      cases ht : tableExpr parts with
      | ok e => exact hQ.table parts e hl ht
      | error => trivial
    | function name => exact ih.call name pos hshows
    | openParen =>
      refine (ih.level .comparison (pos + 1)).bind fun r hr => meets_lexemeAt h fun l' _ _ => ?_
      cases l' <;> exact hr
    | _ => exact hQ.missing
  call name pos hname := by
    rw [call_succ]
    refine meets_lexemeAt h fun l hshows hl => meets_lexemeAt h fun l' _ _ => ?_
    cases Except.ok.inj (hname.symm.trans hshows)
    cases l' with
    | openParen => exact (ih.arguments (pos + 2)).bind fun r hr => hQ.call name r.1 hl hr
    | _ => exact hQ.call name [] hl (by simp)
  arguments pos := by
    rw [arguments_succ]
    refine meets_lexemeAt h fun l _ _ => ?_
    have next : Meets (fun r => ∀ a ∈ r.1, Q a) (fun _ => True)
        (level tokens n .comparison pos >>= fun a => lexemeAt tokens a.2 >>= fun l =>
          arguments tokens n (behindComma a.2 l) >>= fun r => .ok (a.1 :: r.1, r.2)) := by
      refine (ih.level .comparison pos).bind fun a ha => meets_lexemeAt h fun l' _ _ => ?_
      refine (ih.arguments _).bind fun r hr => ?_
      exact List.forall_mem_cons.2 ⟨ha, hr⟩
    cases l with
    | closeParen | finish => exact List.forall_mem_nil _
    | _ => exact next

theorem keeps_run (h : Ends tokens) (hQ : Built tokens Q) : ∀ n, Keeps tokens Q n
  | 0 => by constructor <;> (intros; trivial)
  | n + 1 => keeps_succ h hQ (keeps_run h hQ n)

end Keeps

/-- **Every tree that the parser returns has a property that its building steps keep.** -/
theorem parse_built {ts : List Token} {Q : Expr → Prop} (h : Ends ts.toArray) (hQ : Built ts.toArray Q) :
    Gives Q (parse ts) :=
  (keeps_run h hQ _).level .comparison 0

end FormulaSql.Parser

namespace FormulaSql

/-! ## The shape of trees -/

/-- What a tree looks like that is parsed from a formula. -/
inductive Expr.Shaped : Expr → Prop
  | missing : Shaped .missing
  | number {x : Float} : Decimal.Unsigned x → Shaped (.number (.real x))
  | text (s : String) : Shaped (.text (.text s))
  | cell {name : String} : Holds ['$'] name → Shaped (.cell (.text name) .null)
  | sheetCell {name sheet : String} : Holds ['$'] name → '\x27' ∉ sheet.toList → Shaped (.cell (.text name) (.text sheet))
  | range {name : String} (sheet : Datum) : Holds ['$'] name → Shaped (.range name sheet)
  | table {name : String} (column whole : String) : Holds [] name →
      Shaped (.table (.text name) (.text column) (.text whole))
  | call {name : String} {args : List Expr} : Holds ['.'] name → (∀ a ∈ args, Shaped a) → Shaped (.call (.text name) args)
  | binary {s : String} {l r : Expr} : s ∈ operators → Shaped l → Shaped r → Shaped (.binary s l r)
  | unary {s : String} {e : Expr} : s ∈ ["-", "+"] → Shaped e → Shaped (.unary s e)

/-- A tree whose names, texts and sheets are texts, with null for a missing sheet. -/
inductive Expr.Typed : Expr → Prop
  | number (v : Number) : Typed (.number v)
  | text (s : String) : Typed (.text (.text s))
  | cell (name : String) : Typed (.cell (.text name) .null)
  | sheetCell (name sheet : String) : Typed (.cell (.text name) (.text sheet))
  | range (name : String) (sheet : Datum) : Typed (.range name sheet)
  | table (name column : String) (whole : Datum) : Typed (.table (.text name) (.text column) whole)
  | call (name : String) {args : List Expr} : (∀ a ∈ args, Typed a) → Typed (.call (.text name) args)
  | binary (s : String) {l r : Expr} : Typed l → Typed r → Typed (.binary s l r)
  | unary (s : String) {e : Expr} : Typed e → Typed (.unary s e)
  | blank : Typed .blank

theorem Expr.Shaped.typed {e : Expr} (h : e.Shaped) : e.Typed := by
  induction h with
  | missing => exact .number _
  | number _ => exact .number _
  | text s => exact .text s
  | cell _ => exact .cell _
  | sheetCell _ _ => exact .sheetCell _ _
  | range sheet _ => exact .range _ sheet
  | table column whole _ => exact .table _ column _
  | call _ _ ih => exact .call _ ih
  | binary _ _ _ ihl ihr => exact .binary _ ihl ihr
  | unary _ _ ih => exact .unary _ ih

theorem tableExpr_shaped {parts : Option TableParts} (h : (Lexeme.table parts).Shaped) :
    ∃ e, Parser.tableExpr parts = .ok e ∧ e.Shaped := by
  obtain ⟨name, column, whole, rfl, hname⟩ := h
  exact ⟨_, rfl, .table column whole hname⟩

/-- The building steps keep the shape. -/
theorem built_shaped {tokens : Array Token} (h : ∀ t ∈ tokens, t.lexeme.Shaped) : Parser.Built tokens Expr.Shaped := by
  have has {l : Lexeme} : Parser.Has tokens l → l.Shaped := by
    rintro ⟨t, ht, rfl⟩
    exact h t ht
  refine
    { missing := .missing
      number := ?_
      text := fun s _ => .text s
      cell := ?_
      range := fun name sheet hname _ => .range sheet (has hname)
      table := ?_
      call := fun name args hname hargs => .call (has hname) hargs
      binary := fun s l r => .binary
      unary := fun s e => .unary }
  · intro v hv
    obtain ⟨x, rfl, hx⟩ := has hv
    exact .number hx
  · rintro name sheet hname (rfl | ⟨sheetName, hsheet, rfl⟩)
    · exact .cell (has hname)
    · obtain ⟨s, rfl, hs⟩ := has hsheet
      exact .sheetCell (has hname) hs
  · intro parts e hparts he
    obtain ⟨e', he', hshaped⟩ := tableExpr_shaped (has hparts)
    cases he.symm.trans he'
    exact hshaped

/-- The tokens of a formula end with the finishing one. -/
theorem ends_tokens (s : String) : Parser.Ends (tokens s).toArray := by
  obtain ⟨ts, p, hend⟩ := tokensFrom_end (formulaText s) 0 0
  rw [tokens, hend]
  exact Parser.ends_append ts p

/-- The tokens of a formula are parsed, and the tree has its shape. -/
theorem parse_tokens_shaped (s : String) : ∃ e pos, Parser.parse (tokens s) = .ok (e, pos) ∧ e.Shaped := by
  have hall : ∀ t ∈ (tokens s).toArray, t.lexeme.Shaped :=
    fun t ht => tokensFrom_shaped (formulaText s) 0 0 t (List.mem_toArray.1 ht)
  have hends := ends_tokens s
  have hok : Parser.Meets (Parser.Moved (tokens s).toArray 0) (fun _ => False) (Parser.parse (tokens s)) := by
    refine Parser.parse_meets hends fun parts fault hparts hfault => ?_
    obtain ⟨t, ht, hl⟩ := hparts
    obtain ⟨e, he, _⟩ := tableExpr_shaped (hl ▸ hall t ht)
    cases he.symm.trans hfault
  have hbuilt := Parser.parse_built hends (built_shaped hall)
  cases hp : Parser.parse (tokens s) with
  | error failure => rw [hp] at hok; exact hok.elim
  | ok r => rw [hp] at hbuilt; exact ⟨r.1, r.2, rfl, hbuilt⟩

theorem parseFormula_eq {s : String} {e : Expr} {pos : Nat} (h : Parser.parse (tokens s) = .ok (e, pos)) :
    parseFormula (.text s) = .ok e := by
  have htokens : (⟨formulaText s, 0⟩ : Lexer).finish.2 = tokens s := rfl
  unfold parseFormula Lexer.ofDatum
  dsimp only [bind, Except.bind]
  rw [htokens, h]
  rfl

/-- **Every formula has a tree, and the tree has its shape.** -/
theorem parseFormula_shaped (s : String) : ∃ e, parseFormula (.text s) = .ok e ∧ e.Shaped := by
  obtain ⟨e, pos, h, hshaped⟩ := parse_tokens_shaped s
  exact ⟨e, parseFormula_eq h, hshaped⟩

end FormulaSql
