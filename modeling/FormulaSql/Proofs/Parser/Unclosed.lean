import FormulaSql.Proofs.Parser.Derivations
import FormulaSql.Proofs.Parser.Grammar

/-!
# Parentheses that are not closed

A group goes on without its closing parenthesis where something else stands, and the arguments of a call end with the
finishing token as well as with a parenthesis. So the closing parentheses at the end of a formula may be left out.

**Leaving out closing parentheses at the end changes nothing** (`parse_unclosed`): whatever way a tree is written, what
is left of it without some of the parentheses that stand last is parsed to the same tree.

The proof is an induction on the rendering, as for the whole one, in which only the last part of each construct is cut
off. What stands before the last operand is complete, because an operator or a comma follows it (`split_behind`); of a
group or a call one parenthesis is gone, and the others are missing inside (`split_closed`).
-/

namespace FormulaSql.Parser

/-! ## Cutting off closing parentheses -/

/-- A row of closing parentheses. -/
abbrev closers (k : Nat) : List Lexeme :=
  List.replicate k .closeParen

section Split

variable {front ls : List Lexeme} {k : Nat}

/-- What is cut off stands behind every lexeme that is no closing parenthesis. -/
theorem split_behind {ls' : List Lexeme} {l : Lexeme} (h : ls ++ l :: ls' = front ++ closers k) (hl : l ≠ .closeParen) :
    ∃ front', front = ls ++ l :: front' ∧ ls' = front' ++ closers k := by
  rcases List.append_eq_append_iff.1 h with ⟨mid, rfl, hmid⟩ | ⟨mid, rfl, hmid⟩
  · cases mid with
    | nil =>
      have hmem : l ∈ closers k := by
        rw [List.nil_append] at hmid
        rw [← hmid]
        exact List.mem_cons_self
      exact absurd (List.eq_of_mem_replicate hmem) hl
    | cons l' front' =>
      obtain ⟨rfl, hls'⟩ := List.cons.inj hmid
      exact ⟨front', rfl, hls'⟩
  · have hmem : l ∈ closers k := by
      rw [hmid]
      exact List.mem_append_right mid List.mem_cons_self
    exact absurd (List.eq_of_mem_replicate hmem) hl

theorem split_first {ls' : List Lexeme} {l : Lexeme} (h : l :: ls' = front ++ closers k) (hl : l ≠ .closeParen) :
    ∃ front', front = l :: front' ∧ ls' = front' ++ closers k :=
  @split_behind front [] k ls' l h hl

/-- Either nothing is cut off, or the last parenthesis and what is cut off before it. -/
theorem split_closed (h : ls ++ [.closeParen] = front ++ closers k) :
    k = 0 ∨ ∃ k', ls = front ++ closers k' := by
  cases k with
  | zero => exact .inl rfl
  | succ k =>
    rw [closers, List.replicate_succ', ← List.append_assoc] at h
    exact .inr ⟨k, List.append_inj_left' h rfl⟩

/-- Nothing is cut off a row that ends with another lexeme. -/
theorem split_none {l : Lexeme} (h : ls ++ [l] = front ++ closers k) (hl : l ≠ .closeParen) : k = 0 := by
  obtain ⟨front', -, hnil⟩ := split_behind h hl
  cases k with
  | zero => rfl
  | succ k => simp [closers, List.replicate_succ] at hnil

end Split

/-! ## Reading what is left -/

section Reading

variable {tokens : Array Token}

/-- A rendering off which nothing is cut. -/
theorem reads_whole {layer : Layer} {e : Expr} {ls front : List Lexeme} {pos k : Nat} (h : Renders layer e ls)
    (hls : ls = front ++ closers k) (hk : k = 0) (hs : Spells tokens pos front)
    (hf : Shows tokens (pos + front.length) .finish) : Reads tokens e pos (pos + front.length) layer := by
  subst hk
  rw [closers, List.replicate_zero, List.append_nil] at hls
  subst hls
  exact reads_of_renders h hs hf (follows_of_not_operator (by simp))

end Reading

mutual

/-- A rendering without some of its last parentheses is read up to the finishing token. -/
theorem reads_of_unclosed {tokens : Array Token} : ∀ {layer : Layer} {e : Expr} {ls front : List Lexeme} {pos k : Nat},
    Renders layer e ls → ls = front ++ closers k → Spells tokens pos front →
      Shows tokens (pos + front.length) .finish → Reads tokens e pos (pos + front.length) layer
  | _, _, _, _, _, _, .inner h, hls, hs, hf =>
    reads_inner (reads_of_unclosed h hls hs hf) hf (follows_of_not_operator (by simp))
  | _, _, _, _, pos, _, @Renders.join _ s _ _ ls₁ _ hm h₁ h₂, hls, hs, hf => by
    obtain ⟨front, rfl, hls₂⟩ := split_behind hls (by simp)
    obtain ⟨hs₁, hop, hs₂⟩ := spells_append.1 hs
    rw [show pos + (ls₁ ++ .operator s :: front).length = pos + ls₁.length + 1 + front.length by simp; omega] at hf ⊢
    have left := reads_of_renders h₁ hs₁ hop (follows_joins hm)
    have right := reads_of_unclosed h₂ hls₂ hs₂ hf
    exact reads_join hm left hop right hf (follows_of_not_operator (by simp))
  | _, _, _, _, pos, _, @Renders.power _ _ ls₁ _ h₁ h₂, hls, hs, hf => by
    obtain ⟨front, rfl, hls₂⟩ := split_behind hls (by simp)
    obtain ⟨hs₁, hop, hs₂⟩ := spells_append.1 hs
    rw [show pos + (ls₁ ++ .operator "^" :: front).length = pos + ls₁.length + 1 + front.length by simp; omega] at hf ⊢
    have left := reads_of_renders h₁ hs₁ hop (fun _ h => by cases h)
    have right := reads_of_unclosed h₂ hls₂ hs₂ hf
    exact yields_power_next left (operatorAt_some hop (by simp)) right
  | _, _, _, _, pos, _, @Renders.sign s _ ls hsign h, hls, hs, hf => by
    obtain ⟨front, rfl, hls'⟩ := split_first hls (by simp)
    rw [show pos + (Lexeme.operator s :: front).length = pos + 1 + front.length by simp; omega] at hf ⊢
    have operand := reads_of_unclosed h hls' hs.2 hf
    exact yields_unary_sign (operatorAt_some hs.1 (by rcases hsign with rfl | rfl <;> simp)) operand
  | _, _, _, _, _, _, .number v, hls, hs, hf => reads_whole (.number v) hls (@split_none _ [] _ _ hls (by simp)) hs hf
  | _, _, _, _, _, _, .text s, hls, hs, hf => reads_whole (.text s) hls (@split_none _ [] _ _ hls (by simp)) hs hf
  | _, _, _, _, _, _, .cell name, hls, hs, hf => reads_whole (.cell name) hls (@split_none _ [] _ _ hls (by simp)) hs hf
  | _, _, _, _, _, _, .sheetCell sheet name, hls, hs, hf =>
    reads_whole (.sheetCell sheet name) hls (@split_none _ [.sheet sheet] _ _ hls (by simp)) hs hf
  | _, _, _, _, _, _, .range name, hls, hs, hf =>
    reads_whole (.range name) hls (@split_none _ [] _ _ hls (by simp)) hs hf
  | _, _, _, _, _, _, .sheetRange sheet name, hls, hs, hf =>
    reads_whole (.sheetRange sheet name) hls (@split_none _ [.sheet sheet] _ _ hls (by simp)) hs hf
  | _, _, _, _, _, _, .table table column whole, hls, hs, hf =>
    reads_whole (.table table column whole) hls (@split_none _ [] _ _ hls (by simp)) hs hf
  | _, _, _, _, pos, _, @Renders.call name _ ls h, hls, hs, hf => by
    obtain ⟨tail, rfl, htail⟩ := split_first hls (by simp)
    obtain ⟨front, rfl, hls'⟩ := split_first htail (by simp)
    rcases split_closed hls' with hk | ⟨k', hargs⟩
    · exact reads_whole (.call h) hls hk hs hf
    · obtain ⟨hfun, hopen, hs⟩ := hs
      rw [show pos + (Lexeme.function name :: .openParen :: front).length = pos + 2 + front.length by simp; omega]
        at hf ⊢
      have args := arguments_of_unclosed h hargs hs hf
      exact reads_primary hfun (by simp) (yields_primary_reference hfun trivial (yields_call _ hfun hopen args))
  | _, _, _, _, pos, _, @Renders.group _ ls h, hls, hs, hf => by
    obtain ⟨front, rfl, hls'⟩ := split_first hls (by simp)
    rcases split_closed hls' with hk | ⟨k', hinside⟩
    · exact reads_whole (.group h) hls hk hs hf
    · obtain ⟨hopen, hs⟩ := hs
      rw [show pos + (Lexeme.openParen :: front).length = pos + 1 + front.length by simp; omega] at hf ⊢
      have inside := (reads_of_unclosed h hinside hs hf).expression hf (by simp)
      exact reads_primary hopen (by simp)
        (yields_primary_reference hopen trivial (yields_openGroup _ hopen inside hf (by simp)))

/-- The arguments of a call that is not closed end with the finishing token. -/
theorem arguments_of_unclosed {tokens : Array Token} : ∀ {args : List Expr} {ls front : List Lexeme} {pos k : Nat},
    RendersAll args ls → ls = front ++ closers k → Spells tokens pos front →
      Shows tokens (pos + front.length) .finish → Yields (arguments tokens · pos) (args, pos + front.length)
  | _, _, _, _, _, .none, hls, _, hf => by
    obtain rfl := (List.append_eq_nil_iff.1 hls.symm).1
    exact yields_arguments_finish hf
  | _, _, _, _, _, .one h, hls, hs, hf => by
    have arg := (reads_of_unclosed h hls hs hf).expression hf (by simp)
    obtain ⟨l, ls', rfl, hl⟩ := renders_begins h
    obtain ⟨front, rfl, -⟩ := split_first hls hl.1
    exact yields_arguments_next hs.1 hl.1 hl.2 arg hf (yields_arguments_finish hf)
  | _, _, _, pos, _, @RendersAll.more _ _ _ ls _ h h', hls, hs, hf => by
    obtain ⟨front, rfl, hls'⟩ := split_behind hls (by simp)
    obtain ⟨hs, hcomma, hs'⟩ := spells_append.1 hs
    rw [show pos + (ls ++ .comma :: front).length = pos + ls.length + 1 + front.length by simp; omega] at hf ⊢
    have arg := (reads_of_renders h hs hcomma (follows_of_not_operator (by simp))).expression hcomma (by simp)
    have others := arguments_of_unclosed h' hls' hs' hf
    obtain ⟨l, ls', rfl, hl⟩ := renders_begins h
    exact yields_arguments_next hs.1 hl.1 hl.2 arg hcomma others

end

/-- **Leaving out closing parentheses at the end changes nothing.** Tokens that render a tree and end with closing
parentheses are parsed to that tree with these parentheses and without any number of the last of them, and the parser
stops at the finishing token either way. -/
theorem parse_unclosed {e : Expr} {kept cut : List Token} (h : Renders .comparison e ((kept ++ cut).map Token.lexeme))
    (hcut : ∀ t ∈ cut, t.lexeme = .closeParen) (p q : Nat) :
    parse (kept ++ [⟨.finish, p⟩]) = .ok (e, kept.length) ∧
      parse (kept ++ cut ++ [⟨.finish, q⟩]) = .ok (e, (kept ++ cut).length) := by
  have hclosers : cut.map Token.lexeme = closers cut.length :=
    List.eq_replicate_iff.2 ⟨List.length_map .., List.forall_mem_map.2 hcut⟩
  have answer {ts : List Token} {k p : Nat} (hls : (kept ++ cut).map Token.lexeme = ts.map Token.lexeme ++ closers k) :
      parse (ts ++ [⟨.finish, p⟩]) = .ok (e, ts.length) := by
    let finish : Token := ⟨.finish, p⟩
    have hs : Spells (ts ++ [finish]).toArray 0 (ts.map Token.lexeme) := spells_of_list [] ts [finish]
    have hf : Shows (ts ++ [finish]).toArray (0 + (ts.map Token.lexeme).length) finish.lexeme :=
      shows_of_getElem? (by simp)
    have hr := (reads_of_unclosed h hls hs hf).expression hf (by simp [finish])
    rw [List.length_map, Nat.zero_add] at hr
    exact parse_of_yields (ends_append ts p) hr
  exact ⟨answer (by rw [List.map_append, hclosers]), answer (k := 0) (by simp)⟩

/-- In `2*(SUM(A1,NOW()))` all three parentheses at the end may be left out: those of a call without arguments, of the
call around it and of the group. -/
theorem parse_unclosed_nested :
    let kept : List Lexeme := [.number (.whole 2), .operator "*", .openParen, .function "SUM", .openParen, .cell "A1",
      .comma, .function "NOW", .openParen]
    let tree : Expr := .binary "*" (.number (.whole 2)) (.call "SUM" [.cell "A1" .null, .call "NOW" []])
    Renders .comparison tree (kept ++ closers 3) ∧
      parse (kept.map (⟨·, 0⟩) ++ [⟨.finish, 0⟩]) = .ok (tree, kept.length) := by
  intro kept tree
  have now : Renders .primary (.call "NOW" []) _ := @Renders.call "NOW" _ _ .none
  have sum : Renders .primary (.call "SUM" [.cell "A1" .null, .call "NOW" []]) _ := @Renders.call "SUM" _ _
    (.more (renders_of_primary _ (.cell "A1")) (.one (renders_of_primary _ now)))
  have product : Renders .multiplication tree (kept ++ closers 3) := @Renders.join .multiplication "*" _ _ _ _
    (by decide) (renders_of_primary _ (.number (.whole 2)))
    (renders_of_primary _ (.group (renders_of_primary _ sum)))
  have whole : Renders .comparison tree (kept ++ closers 3) := .inner (.inner (.inner product))
  exact ⟨whole, (@parse_unclosed tree (kept.map (⟨·, 0⟩)) ((closers 3).map (⟨·, 0⟩)) whole (by simp) 0 0).1⟩

end FormulaSql.Parser
