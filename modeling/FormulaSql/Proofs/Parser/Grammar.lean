import FormulaSql.Proofs.Parser.Runs

/-!
# The grammar of formulas and its parser

`Renders layer e ls` says that the lexemes `ls` are a way to write the tree `e` at a layer of the grammar. The layers are
comparisons, concatenations, sums and products, whose operators associate to the left, then powers, which associate to
the right, signs and primary expressions.

**The parser inverts the grammar** (`parse_renders`): whatever way a tree is written, with any redundant parentheses, the
parser gives back the tree and stops at the finishing token.

The proof is an induction on the rendering. What follows a rendering decides where the parser stops, so the induction
speaks of the next lexeme: it must not go on with the last operand (`Layer.grabs`). A row of operands joined from left to
right is read by a loop that holds the tree so far, while the rendering splits off the last operand; the invariant
`LeftReads` therefore says that reading the row is going on with the loop behind it.
-/

namespace FormulaSql.Parser

/-! ## The grammar -/

/-- The layers of the grammar, loosest first. -/
inductive Layer where
  | comparison
  | concat
  | addition
  | multiplication
  | power
  | sign
  | primary
  deriving Repr, DecidableEq

namespace Layer

/-- The next tighter layer. -/
def inner : Layer → Layer
  | comparison => concat
  | concat => addition
  | addition => multiplication
  | multiplication => power
  | power => sign
  | sign => primary
  | primary => primary

/-- The operators that join operands of a layer from left to right. -/
def joins : Layer → List String
  | comparison => ["=", "<>", "<", ">", "<=", ">="]
  | concat => ["&"]
  | addition => ["+", "-"]
  | multiplication => ["*", "/"]
  | power | sign | primary => []

end Layer

mutual

/-- The ways to write a tree at a layer. -/
inductive Renders : Layer → Expr → List Lexeme → Prop
  /-- What is written at a layer may stand at each looser one. -/
  | inner {layer : Layer} {e : Expr} {ls : List Lexeme} : Renders layer.inner e ls → Renders layer e ls
  | join {layer : Layer} {s : String} {e₁ e₂ : Expr} {ls₁ ls₂ : List Lexeme} : s ∈ layer.joins →
      Renders layer e₁ ls₁ → Renders layer.inner e₂ ls₂ →
      Renders layer (.binary s e₁ e₂) (ls₁ ++ .operator s :: ls₂)
  | power {e₁ e₂ : Expr} {ls₁ ls₂ : List Lexeme} : Renders .sign e₁ ls₁ → Renders .power e₂ ls₂ →
      Renders .power (.binary "^" e₁ e₂) (ls₁ ++ .operator "^" :: ls₂)
  | sign {s : String} {e : Expr} {ls : List Lexeme} : s = "+" ∨ s = "-" → Renders .sign e ls →
      Renders .sign (.unary s e) (.operator s :: ls)
  | number (v : Number) : Renders .primary (.number v) [.number v]
  | text (s : String) : Renders .primary (.text s) [.text s]
  | cell (name : String) : Renders .primary (.cell name .null) [.cell name]
  | sheetCell (sheet : Option String) (name : String) :
      Renders .primary (.cell name (Lexeme.sheet sheet).value) [.sheet sheet, .cell name]
  | range (name : String) : Renders .primary (.range name .null) [.range name]
  | sheetRange (sheet : Option String) (name : String) :
      Renders .primary (.range name (Lexeme.sheet sheet).value) [.sheet sheet, .range name]
  | table (table column whole : String) :
      Renders .primary (.table table column whole) [.table (some ⟨some table, some column, some whole⟩)]
  | call {name : String} {args : List Expr} {ls : List Lexeme} : RendersAll args ls →
      Renders .primary (.call name args) (.function name :: .openParen :: (ls ++ [.closeParen]))
  /-- Any expression between parentheses. -/
  | group {e : Expr} {ls : List Lexeme} : Renders .comparison e ls →
      Renders .primary e (.openParen :: (ls ++ [.closeParen]))

/-- The ways to write the arguments of a call, with commas between them. -/
inductive RendersAll : List Expr → List Lexeme → Prop
  | none : RendersAll [] []
  | one {e : Expr} {ls : List Lexeme} : Renders .comparison e ls → RendersAll [e] ls
  | more {e e' : Expr} {es : List Expr} {ls ls' : List Lexeme} : Renders .comparison e ls →
      RendersAll (e' :: es) ls' → RendersAll (e :: e' :: es) (ls ++ .comma :: ls')

end

/-- A primary expression may stand at every layer. -/
theorem renders_of_primary (layer : Layer) {e : Expr} {ls : List Lexeme} (h : Renders .primary e ls) :
    Renders layer e ls := by
  have sign : Renders .sign e ls := .inner h
  have multiplication : Renders .multiplication e ls := .inner (.inner sign)
  have concat : Renders .concat e ls := .inner (.inner multiplication)
  cases layer with
  | primary => exact h
  | sign => exact sign
  | power => exact .inner sign
  | multiplication => exact multiplication
  | addition => exact .inner multiplication
  | concat => exact concat
  | comparison => exact .inner concat

/-! ## First lexemes -/

/-- A lexeme that neither ends an argument nor the formula. -/
def Begins (l : Lexeme) : Prop :=
  l ≠ .closeParen ∧ l ≠ .finish

/-- A rendering starts with a lexeme that is no end. -/
theorem renders_begins : ∀ {layer : Layer} {e : Expr} {ls : List Lexeme}, Renders layer e ls →
    ∃ l ls', ls = l :: ls' ∧ Begins l
  | _, _, _, .inner h => renders_begins h
  | _, _, _, .join _ h _ => by
    obtain ⟨l, ls', rfl, hl⟩ := renders_begins h
    exact ⟨l, _, rfl, hl⟩
  | _, _, _, .power h _ => by
    obtain ⟨l, ls', rfl, hl⟩ := renders_begins h
    exact ⟨l, _, rfl, hl⟩
  | _, _, _, .sign .. | _, _, _, .number _ | _, _, _, .text _ | _, _, _, .cell _ | _, _, _, .sheetCell ..
  | _, _, _, .range _ | _, _, _, .sheetRange .. | _, _, _, .table .. | _, _, _, .call _ | _, _, _, .group _ =>
    ⟨_, _, rfl, by simp [Begins]⟩

/-! ## Reading a rendering -/

section Reading

variable {tokens : Array Token} {pos mid stop : Nat} {e : Expr}

/-- Reading the operands up to `stop` is going on there with `e` at hand. -/
def LeftReads (tokens : Array Token) (rank : Rank) (e : Expr) (pos stop : Nat) : Prop :=
  ∀ r, Yields (chain tokens · rank e stop) r → Yields (level tokens · rank pos) r

/-- The first operand. -/
theorem leftReads_operand {rank : Rank} (h : Yields (operand tokens · rank pos) (e, stop)) :
    LeftReads tokens rank e pos stop :=
  fun _ hr => yields_level h hr

/-- One more operand. -/
theorem leftReads_join {rank : Rank} {s : String} {left : Expr} (h : LeftReads tokens rank left pos mid)
    (hs : Shows tokens mid (.operator s)) (hm : s ∈ rank.symbols)
    (ho : Yields (operand tokens · rank (mid + 1)) (e, stop)) :
    LeftReads tokens rank (.binary s left e) pos stop :=
  fun r hr => h r (yields_chain_next (operatorAt_some hs hm) ho hr)

/-- The whole row, where no further operator of the rank follows. -/
theorem LeftReads.level {rank : Rank} {l : Lexeme} (h : LeftReads tokens rank e pos stop) (hl : Shows tokens stop l)
    (hs : ∀ s ∈ rank.symbols, l ≠ .operator s) : Yields (level tokens · rank pos) (e, stop) :=
  h _ (yields_chain_stop (operatorAt_none hl hs))

/-- The function of the parser for a layer reads `e`; at a layer whose operators join from left to right, up to what its
loop does. A primary expression does not start with a sign. -/
def Reads (tokens : Array Token) (e : Expr) (pos stop : Nat) : Layer → Prop
  | .comparison => LeftReads tokens .comparison e pos stop
  | .concat => LeftReads tokens .concat e pos stop
  | .addition => LeftReads tokens .sum e pos stop
  | .multiplication => LeftReads tokens .product e pos stop
  | .power => Yields (power tokens · pos) (e, stop)
  | .sign => Yields (unary tokens · pos) (e, stop)
  | .primary => Yields (primary tokens · pos) (e, stop) ∧ operatorAt tokens ["-", "+"] pos = .ok none

/-- The operators that would go on with the last operand of a rendering. -/
def Layer.grabs : Layer → List String
  | comparison => ["&", "+", "-", "*", "/", "^"]
  | concat => ["+", "-", "*", "/", "^"]
  | addition => ["*", "/", "^"]
  | multiplication | power => ["^"]
  | sign | primary => []

/-- The lexeme does not go on with the last operand. -/
def Follows (layer : Layer) (l : Lexeme) : Prop :=
  ∀ s ∈ layer.grabs, l ≠ .operator s

/-- The layer of a rank. -/
def Layer.ofRank : Rank → Layer
  | .comparison => comparison
  | .concat => concat
  | .sum => addition
  | .product => multiplication

theorem joins_ofRank (rank : Rank) : (Layer.ofRank rank).joins = rank.symbols := by cases rank <;> rfl

theorem reads_ofRank (rank : Rank) : Reads tokens e pos stop (.ofRank rank) = LeftReads tokens rank e pos stop := by
  cases rank <;> rfl

theorem tighter_symbols_grabs {rank rank' : Rank} (h : rank.tighter = some rank') :
    rank'.symbols ⊆ (Layer.ofRank rank).grabs := by
  cases rank <;> cases h <;> decide

theorem inner_grabs (layer : Layer) : layer.inner.grabs ⊆ layer.grabs := by cases layer <;> decide

theorem Follows.inner {layer : Layer} {l : Lexeme} (h : Follows layer l) : Follows layer.inner l :=
  fun s hs => h s (inner_grabs layer hs)

theorem joins_not_grabbed (layer : Layer) : ∀ s ∈ layer.joins, s ∉ layer.grabs := by cases layer <;> decide

/-- An operator of a layer ends the operand before it. -/
theorem follows_joins {layer : Layer} {s : String} (h : s ∈ layer.joins) : Follows layer (.operator s) := by
  intro t ht he
  cases he
  exact joins_not_grabbed layer s h ht

/-- A lexeme that is no operator goes on with nothing. -/
theorem follows_of_not_operator {layer : Layer} {l : Lexeme} (h : ∀ s, l ≠ .operator s) : Follows layer l :=
  fun s _ => h s

/-- An operand of a rank is an expression of the next tighter layer. -/
theorem yields_operand (rank : Rank) {l : Lexeme} (h : Reads tokens e pos stop (Layer.ofRank rank).inner)
    (hl : Shows tokens stop l) (hf : Follows (.ofRank rank) l) : Yields (operand tokens · rank pos) (e, stop) := by
  cases rank with
  | product => exact yields_operand_power h
  | comparison | concat | sum =>
    exact yields_operand_level rfl (h.level hl fun s hs => hf s (tighter_symbols_grabs rfl hs))

/-- What is read at a layer is read at the next looser one. -/
theorem reads_inner {layer : Layer} {l : Lexeme} (h : Reads tokens e pos stop layer.inner) (hl : Shows tokens stop l)
    (hf : Follows layer l) : Reads tokens e pos stop layer := by
  cases layer with
  | primary => exact h
  | sign => exact yields_unary_primary h.2 h.1
  | power => exact yields_power_stop h (operatorAt_none hl hf)
  | multiplication => exact leftReads_operand (yields_operand .product h hl hf)
  | addition => exact leftReads_operand (yields_operand .sum h hl hf)
  | concat => exact leftReads_operand (yields_operand .concat h hl hf)
  | comparison => exact leftReads_operand (yields_operand .comparison h hl hf)

/-- One more operand at a layer whose operators join from left to right. -/
theorem reads_join {layer : Layer} {s : String} {left : Expr} {l : Lexeme} (hm : s ∈ layer.joins)
    (h : Reads tokens left pos mid layer) (hs : Shows tokens mid (.operator s))
    (he : Reads tokens e (mid + 1) stop layer.inner) (hl : Shows tokens stop l) (hf : Follows layer l) :
    Reads tokens (.binary s left e) pos stop layer := by
  obtain ⟨rank, rfl⟩ : ∃ rank, layer = .ofRank rank := by
    cases layer with
    | comparison => exact ⟨.comparison, rfl⟩
    | concat => exact ⟨.concat, rfl⟩
    | addition => exact ⟨.sum, rfl⟩
    | multiplication => exact ⟨.product, rfl⟩
    | power | sign | primary => cases hm
  rw [joins_ofRank] at hm
  rw [reads_ofRank] at h ⊢
  exact leftReads_join h hs hm (yields_operand rank he hl hf)

/-- A primary expression that starts with a lexeme of its own. -/
theorem reads_primary {l : Lexeme} (h : Shows tokens pos l) (hl : ∀ s, l ≠ .operator s)
    (hr : Yields (primary tokens · pos) (e, stop)) : Reads tokens e pos stop .primary :=
  ⟨hr, operatorAt_none h fun s _ => hl s⟩

end Reading

/-- A whole expression before a lexeme that is no operator. -/
theorem Reads.expression {tokens : Array Token} {e : Expr} {pos stop : Nat} {l : Lexeme}
    (h : Reads tokens e pos stop .comparison) (hl : Shows tokens stop l) (hn : ∀ s, l ≠ .operator s) :
    Yields (level tokens · .comparison pos) (e, stop) :=
  LeftReads.level h hl fun s _ => hn s

mutual

/-- A rendering is read where it stands, if what follows does not go on with its last operand. -/
theorem reads_of_renders {tokens : Array Token} : ∀ {layer : Layer} {e : Expr} {ls : List Lexeme} {pos : Nat}
    {l : Lexeme}, Renders layer e ls → Spells tokens pos ls → Shows tokens (pos + ls.length) l → Follows layer l →
      Reads tokens e pos (pos + ls.length) layer
  | _, _, _, _, _, .inner h, hs, hl, hf => reads_inner (reads_of_renders h hs hl hf.inner) hl hf
  | _, _, _, pos, _, @Renders.join _ s _ _ ls₁ ls₂ hm h₁ h₂, hs, hl, hf => by
    obtain ⟨hs₁, hop, hs₂⟩ := spells_append.1 hs
    rw [show pos + (ls₁ ++ .operator s :: ls₂).length = pos + ls₁.length + 1 + ls₂.length by simp; omega] at hl ⊢
    have left := reads_of_renders h₁ hs₁ hop (follows_joins hm)
    have right := reads_of_renders h₂ hs₂ hl hf.inner
    exact reads_join hm left hop right hl hf
  | _, _, _, pos, _, @Renders.power _ _ ls₁ ls₂ h₁ h₂, hs, hl, hf => by
    obtain ⟨hs₁, hop, hs₂⟩ := spells_append.1 hs
    rw [show pos + (ls₁ ++ .operator "^" :: ls₂).length = pos + ls₁.length + 1 + ls₂.length by simp; omega] at hl ⊢
    have left := reads_of_renders h₁ hs₁ hop (fun _ h => by cases h)
    have right := reads_of_renders h₂ hs₂ hl hf
    exact yields_power_next left (operatorAt_some hop (by simp)) right
  | _, _, _, pos, _, @Renders.sign s _ ls hsign h, hs, hl, hf => by
    rw [show pos + (Lexeme.operator s :: ls).length = pos + 1 + ls.length by simp; omega] at hl ⊢
    have operand := reads_of_renders h hs.2 hl hf
    exact yields_unary_sign (operatorAt_some hs.1 (by rcases hsign with rfl | rfl <;> simp)) operand
  | _, _, _, _, _, .number _, hs, _, _ => reads_primary hs.1 (by simp) (yields_number hs.1)
  | _, _, _, _, _, .text _, hs, _, _ => reads_primary hs.1 (by simp) (yields_text hs.1)
  | _, _, _, _, _, .cell _, hs, _, _ =>
    reads_primary hs.1 (by simp) (yields_primary_reference hs.1 trivial (yields_cell _ hs.1))
  | _, _, _, _, _, .sheetCell .., hs, _, _ => reads_primary hs.1 (by simp) (yields_sheet hs.1 (yields_cell _ hs.2.1))
  | _, _, _, _, _, .range _, hs, _, _ =>
    reads_primary hs.1 (by simp) (yields_primary_reference hs.1 trivial (yields_range _ hs.1))
  | _, _, _, _, _, .sheetRange .., hs, _, _ => reads_primary hs.1 (by simp) (yields_sheet hs.1 (yields_range _ hs.2.1))
  | _, _, _, _, _, .table .., hs, _, _ =>
    reads_primary hs.1 (by simp) (yields_primary_reference hs.1 trivial (yields_table _ hs.1))
  | _, _, _, pos, _, @Renders.call name _ ls h, hs, _, _ => by
    obtain ⟨hfun, hopen, hargs⟩ := hs
    obtain ⟨hargs, hclose, -⟩ := spells_append.1 hargs
    rw [show pos + (Lexeme.function name :: .openParen :: (ls ++ [.closeParen])).length =
      pos + 1 + 1 + ls.length + 1 by simp; omega]
    have args := arguments_of_renders h hargs hclose
    exact reads_primary hfun (by simp) (yields_primary_reference hfun trivial (yields_call _ hfun hopen args))
  | _, _, _, pos, _, @Renders.group _ ls h, hs, _, _ => by
    obtain ⟨hopen, hs⟩ := hs
    obtain ⟨hs, hclose, -⟩ := spells_append.1 hs
    rw [show pos + (Lexeme.openParen :: (ls ++ [.closeParen])).length = pos + 1 + ls.length + 1 by simp; omega]
    have inside := (reads_of_renders h hs hclose (follows_of_not_operator (by simp))).expression hclose (by simp)
    exact reads_primary hopen (by simp) (yields_primary_reference hopen trivial (yields_group _ hopen inside hclose))

/-- The arguments of a call are read up to and with the closing parenthesis. -/
theorem arguments_of_renders {tokens : Array Token} : ∀ {args : List Expr} {ls : List Lexeme} {pos : Nat},
    RendersAll args ls → Spells tokens pos ls → Shows tokens (pos + ls.length) .closeParen →
      Yields (arguments tokens · pos) (args, pos + ls.length + 1)
  | _, _, _, .none, _, hc => yields_arguments_close hc
  | _, _, _, .one h, hs, hc => by
    have arg := (reads_of_renders h hs hc (follows_of_not_operator (by simp))).expression hc (by simp)
    obtain ⟨l, ls', rfl, hl⟩ := renders_begins h
    exact yields_arguments_next hs.1 hl.1 hl.2 arg hc (yields_arguments_close hc)
  | _, _, pos, @RendersAll.more _ _ _ ls ls' h h', hs, hc => by
    obtain ⟨hs, hcomma, hs'⟩ := spells_append.1 hs
    rw [show pos + (ls ++ .comma :: ls').length = pos + ls.length + 1 + ls'.length by simp; omega] at hc ⊢
    have arg := (reads_of_renders h hs hcomma (follows_of_not_operator (by simp))).expression hcomma (by simp)
    have others := arguments_of_renders h' hs' hc
    obtain ⟨l, ls', rfl, hl⟩ := renders_begins h
    exact yields_arguments_next hs.1 hl.1 hl.2 arg hcomma others

end

/-- **The parser inverts the grammar**: tokens that render a tree, closed by the finishing token, are parsed to that tree,
and the parser stops at the finishing token. -/
theorem parse_renders {e : Expr} {ts : List Token} (h : Renders .comparison e (ts.map Token.lexeme)) (p : Nat) :
    parse (ts ++ [⟨.finish, p⟩]) = .ok (e, ts.length) := by
  let finish : Token := ⟨.finish, p⟩
  have hs : Spells (ts ++ [finish]).toArray 0 (ts.map Token.lexeme) := spells_of_list [] ts [finish]
  have hf : Shows (ts ++ [finish]).toArray (0 + (ts.map Token.lexeme).length) finish.lexeme :=
    shows_of_getElem? (by simp)
  have hr := (reads_of_renders h hs hf (follows_of_not_operator (by simp [finish]))).expression hf (by simp [finish])
  rw [List.length_map, Nat.zero_add] at hr
  exact parse_of_yields (ends_append ts p) hr

/-- In `-A1^-2*("x"&SUM(B2,S!C3))>=1` the power takes its left operand with the sign and the right one too. -/
theorem parse_renders_signed_power :
    let lexemes : List Lexeme := [.operator "-", .cell "A1", .operator "^", .operator "-", .number (.whole 2),
      .operator "*", .openParen, .text "x", .operator "&", .function "SUM", .openParen, .cell "B2", .comma,
      .sheet (some "S"), .cell "C3", .closeParen, .closeParen, .operator ">=", .number (.whole 1)]
    let tree : Expr := .binary ">="
      (.binary "*" (.binary "^" (.unary "-" (.cell "A1" .null)) (.unary "-" (.number (.whole 2))))
        (.binary "&" (.text "x") (.call "SUM" [.cell "B2" .null, .cell "C3" "S"])))
      (.number (.whole 1))
    Renders .comparison tree lexemes ∧
      parse (lexemes.map (⟨·, 0⟩) ++ [⟨.finish, 0⟩]) = .ok (tree, lexemes.length) := by
  intro lexemes tree
  have power : Renders .power _ _ :=
    .power (.sign (.inr rfl) (.inner (.cell "A1"))) (.inner (.sign (.inr rfl) (.inner (.number (.whole 2)))))
  have call : Renders .primary _ _ := @Renders.call "SUM" _ _
    (.more (renders_of_primary _ (.cell "B2")) (.one (renders_of_primary _ (.sheetCell (some "S") "C3"))))
  have group : Renders .primary _ _ := .group (.inner
    (@Renders.join .concat "&" _ _ _ _ (by decide) (renders_of_primary _ (.text "x")) (renders_of_primary _ call)))
  have product : Renders .multiplication _ _ :=
    @Renders.join .multiplication "*" _ _ _ _ (by decide) (.inner power) (renders_of_primary _ group)
  have whole : Renders .comparison tree lexemes := @Renders.join .comparison ">=" _ _ _ _ (by decide)
    (.inner (.inner (.inner product))) (renders_of_primary _ (.number (.whole 1)))
  exact ⟨whole, @parse_renders tree (lexemes.map (⟨·, 0⟩)) whole 0⟩

end FormulaSql.Parser
