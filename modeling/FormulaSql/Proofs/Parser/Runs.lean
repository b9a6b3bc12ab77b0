import FormulaSql.Proofs.Parser.Fuel

/-!
# Runs of the parser without fuel

`Yields f r` says that `f` gives the answer `r` with some amount of fuel, hence with every larger one. For each function
of the parser there are rules that build its runs from runs of the functions it calls, one rule for each way it can go;
what a rule asks about the tokens is the lexeme at one position (`Shows`) or at a row of positions (`Spells`).
-/

namespace FormulaSql.Parser

/-! ## Lexemes at positions -/

section Lexemes

variable {tokens : Array Token}

/-- The lexeme at a position. -/
def Shows (tokens : Array Token) (pos : Nat) (l : Lexeme) : Prop :=
  lexemeAt tokens pos = .ok l

theorem Shows.eq {pos : Nat} {l : Lexeme} (h : Shows tokens pos l) : lexemeAt tokens pos = .ok l := h

theorem Shows.unique {pos : Nat} {l l' : Lexeme} (h : Shows tokens pos l) (h' : Shows tokens pos l') : l = l' :=
  Except.ok.inj (h.symm.trans h')

/-- The lexemes from a position on. -/
def Spells (tokens : Array Token) : Nat → List Lexeme → Prop
  | _, [] => True
  | pos, l :: ls => Shows tokens pos l ∧ Spells tokens (pos + 1) ls

theorem spells_append : ∀ {pos : Nat} {ls ls' : List Lexeme},
    Spells tokens pos (ls ++ ls') ↔ Spells tokens pos ls ∧ Spells tokens (pos + ls.length) ls'
  | _, [], _ => by simp [Spells]
  | pos, l :: ls, ls' => by
    simp only [List.cons_append, Spells, spells_append, List.length_cons, and_assoc]
    rw [show pos + 1 + ls.length = pos + (ls.length + 1) by omega]

theorem shows_of_getElem? {pos : Nat} {t : Token} (h : tokens[pos]? = some t) : Shows tokens pos t.lexeme := by
  simp only [Shows, lexemeAt, tokenAt, h, Option.some_or]
  rfl

theorem Shows.lexeme_eq {pos : Nat} {l : Lexeme} {t : Token} (h : Shows tokens pos l) (ht : tokens[pos]? = some t) :
    t.lexeme = l :=
  (shows_of_getElem? ht).unique h

/-- A part of a list of tokens spells its lexemes where it stands. -/
theorem spells_of_list : ∀ (before ts after : List Token),
    Spells (before ++ ts ++ after).toArray before.length (ts.map Token.lexeme)
  | _, [], _ => trivial
  | before, t :: ts, after => by
    refine ⟨shows_of_getElem? (by simp), ?_⟩
    have h := spells_of_list (before ++ [t]) ts after
    simpa using h

/-- At an operator of the list. -/
theorem operatorAt_some {symbols : List String} {pos : Nat} {s : String} (h : Shows tokens pos (.operator s))
    (hs : s ∈ symbols) : operatorAt tokens symbols pos = .ok (some s) := by
  have hc : symbols.contains s = true := by simpa using hs
  unfold operatorAt
  rw [h.eq]
  show Except.ok (if symbols.contains s = true then some s else none) = _
  rw [if_pos hc]

/-- At any other lexeme. -/
theorem operatorAt_none {symbols : List String} {pos : Nat} {l : Lexeme} (h : Shows tokens pos l)
    (hl : ∀ s ∈ symbols, l ≠ .operator s) : operatorAt tokens symbols pos = .ok none := by
  unfold operatorAt
  rw [h.eq]
  cases l with
  | operator s =>
    have hc : ¬symbols.contains s = true := fun hc => hl s (by simpa using hc) rfl
    show Except.ok (if symbols.contains s = true then some s else none) = _
    rw [if_neg hc]
  | _ => rfl

end Lexemes

/-! ## Answers with some fuel -/

section Yields

variable {α β : Type}

/-- Some amount of fuel gives the answer `r`. -/
def Yields (f : Nat → Except Failure α) (r : α) : Prop :=
  ∃ n, f n = .ok r

theorem Yields.grow {f : Nat → Except Failure α} {r : α} (hf : ∀ n, Grows (f n) (f (n + 1))) {n m : Nat}
    (h : f n = .ok r) (hnm : n ≤ m) : f m = .ok r := by
  rcases grows_le hf hnm with ⟨p, hp⟩ | he
  · rw [h] at hp; cases hp
  · rw [he, h]

/-- Two runs with the fuel of the longer. -/
theorem Yields.both {f : Nat → Except Failure α} {g : Nat → Except Failure β} {a : α} {b : β}
    (hf : ∀ n, Grows (f n) (f (n + 1))) (hg : ∀ n, Grows (g n) (g (n + 1))) (ha : Yields f a) (hb : Yields g b) :
    ∃ n, f n = .ok a ∧ g n = .ok b := by
  obtain ⟨n, hn⟩ := ha
  obtain ⟨m, hm⟩ := hb
  exact ⟨max n m, grow hf hn (Nat.le_max_left n m), grow hg hm (Nat.le_max_right n m)⟩

end Yields

/-! ## The rules -/

section Rules

variable {tokens : Array Token} {pos stop : Nat} {e : Expr}

theorem yields_level {rank : Rank} {r : Expr × Nat} (h : Yields (operand tokens · rank pos) (e, stop))
    (hc : Yields (chain tokens · rank e stop) r) : Yields (level tokens · rank pos) r := by
  obtain ⟨n, h₁, h₂⟩ := h.both (fun k => (moreFuel tokens k).operand rank pos)
    (fun k => (moreFuel tokens k).chain rank e stop) hc
  refine ⟨n + 1, ?_⟩
  show level tokens (n + 1) rank pos = _
  rw [level_succ, show operand tokens n rank pos = _ from h₁]
  exact h₂

theorem yields_operand_level {rank rank' : Rank} {r : Expr × Nat} (hr : rank.tighter = some rank')
    (h : Yields (level tokens · rank' pos) r) : Yields (operand tokens · rank pos) r := by
  obtain ⟨n, hn⟩ := h
  refine ⟨n + 1, ?_⟩
  show operand tokens (n + 1) rank pos = _
  rw [operand_succ, hr]
  exact hn

theorem yields_operand_power {r : Expr × Nat} (h : Yields (power tokens · pos) r) :
    Yields (operand tokens · .product pos) r := by
  obtain ⟨n, hn⟩ := h
  exact ⟨n + 1, hn⟩

/-- A chain stops where no operator of its rank stands. -/
theorem yields_chain_stop {rank : Rank} (h : operatorAt tokens rank.symbols pos = .ok none) :
    Yields (chain tokens · rank e pos) (e, pos) := by
  refine ⟨1, ?_⟩
  show chain tokens 1 rank e pos = _
  rw [chain_succ, h]; rfl

/-- A chain takes an operator of its rank and the operand behind it. -/
theorem yields_chain_next {rank : Rank} {left : Expr} {s : String} {r : Expr × Nat}
    (h : operatorAt tokens rank.symbols pos = .ok (some s)) (ho : Yields (operand tokens · rank (pos + 1)) (e, stop))
    (hc : Yields (chain tokens · rank (.binary s left e) stop) r) : Yields (chain tokens · rank left pos) r := by
  obtain ⟨n, h₁, h₂⟩ := ho.both (fun k => (moreFuel tokens k).operand rank (pos + 1))
    (fun k => (moreFuel tokens k).chain rank (.binary s left e) stop) hc
  refine ⟨n + 1, ?_⟩
  show chain tokens (n + 1) rank left pos = _
  rw [chain_succ, h]
  show operand tokens n rank (pos + 1) >>= _ = _
  rw [show operand tokens n rank (pos + 1) = _ from h₁]
  exact h₂

theorem yields_power_stop (h : Yields (unary tokens · pos) (e, stop)) (ho : operatorAt tokens ["^"] stop = .ok none) :
    Yields (power tokens · pos) (e, stop) := by
  obtain ⟨n, hn⟩ := h
  refine ⟨n + 1, ?_⟩
  show power tokens (n + 1) pos = _
  rw [power_succ, show unary tokens n pos = _ from hn]
  show operatorAt tokens ["^"] stop >>= _ = _
  rw [ho]; rfl

theorem yields_power_next {mid : Nat} {left : Expr} {s : String} (h : Yields (unary tokens · pos) (left, mid))
    (ho : operatorAt tokens ["^"] mid = .ok (some s)) (hp : Yields (power tokens · (mid + 1)) (e, stop)) :
    Yields (power tokens · pos) (.binary s left e, stop) := by
  obtain ⟨n, h₁, h₂⟩ := h.both (fun k => (moreFuel tokens k).unary pos)
    (fun k => (moreFuel tokens k).power (mid + 1)) hp
  refine ⟨n + 1, ?_⟩
  show power tokens (n + 1) pos = _
  rw [power_succ, show unary tokens n pos = _ from h₁]
  show operatorAt tokens ["^"] mid >>= _ = _
  rw [ho]
  show power tokens n (mid + 1) >>= _ = _
  rw [show power tokens n (mid + 1) = _ from h₂]; rfl

theorem yields_unary_sign {s : String} (ho : operatorAt tokens ["-", "+"] pos = .ok (some s))
    (h : Yields (unary tokens · (pos + 1)) (e, stop)) : Yields (unary tokens · pos) (.unary s e, stop) := by
  obtain ⟨n, hn⟩ := h
  refine ⟨n + 1, ?_⟩
  show unary tokens (n + 1) pos = _
  rw [unary_succ, ho]
  show unary tokens n (pos + 1) >>= _ = _
  rw [show unary tokens n (pos + 1) = _ from hn]; rfl

theorem yields_unary_primary {r : Expr × Nat} (ho : operatorAt tokens ["-", "+"] pos = .ok none)
    (h : Yields (primary tokens · pos) r) : Yields (unary tokens · pos) r := by
  obtain ⟨n, hn⟩ := h
  refine ⟨n + 1, ?_⟩
  show unary tokens (n + 1) pos = _
  rw [unary_succ, ho]
  exact hn

theorem yields_number {v : Number} (h : Shows tokens pos (.number v)) :
    Yields (primary tokens · pos) (.number v, pos + 1) := by
  refine ⟨1, ?_⟩
  show primary tokens 1 pos = _
  rw [primary_succ, h.eq]; rfl

theorem yields_text {s : String} (h : Shows tokens pos (.text s)) :
    Yields (primary tokens · pos) (.text s, pos + 1) := by
  refine ⟨1, ?_⟩
  show primary tokens 1 pos = _
  rw [primary_succ, h.eq]; rfl

theorem yields_sheet {name : Option String} {r : Expr × Nat} (h : Shows tokens pos (.sheet name))
    (hr : Yields (reference tokens · (Lexeme.sheet name).value (pos + 1)) r) : Yields (primary tokens · pos) r := by
  obtain ⟨n, hn⟩ := hr
  refine ⟨n + 1, ?_⟩
  show primary tokens (n + 1) pos = _
  rw [primary_succ, h.eq]
  exact hn

/-- Whether a lexeme is left to `reference` by `primary`. -/
def IsReference : Lexeme → Prop
  | .number _ | .text _ | .sheet _ => False
  | _ => True

theorem yields_primary_reference {l : Lexeme} {r : Expr × Nat} (h : Shows tokens pos l) (hl : IsReference l)
    (hr : Yields (reference tokens · .null pos) r) : Yields (primary tokens · pos) r := by
  obtain ⟨n, hn⟩ := hr
  refine ⟨n + 1, ?_⟩
  show primary tokens (n + 1) pos = _
  rw [primary_succ, h.eq]
  cases l with
  | number | text | sheet => exact hl.elim
  | _ => exact hn

theorem yields_cell {name : String} (sheet : Datum) (h : Shows tokens pos (.cell name)) :
    Yields (reference tokens · sheet pos) (.cell name sheet, pos + 1) := by
  refine ⟨1, ?_⟩
  show reference tokens 1 sheet pos = _
  rw [reference_succ, h.eq]; rfl

theorem yields_range {name : String} (sheet : Datum) (h : Shows tokens pos (.range name)) :
    Yields (reference tokens · sheet pos) (.range name sheet, pos + 1) := by
  refine ⟨1, ?_⟩
  show reference tokens 1 sheet pos = _
  rw [reference_succ, h.eq]; rfl

theorem yields_table {table column whole : String} (sheet : Datum)
    (h : Shows tokens pos (.table (some ⟨some table, some column, some whole⟩))) :
    Yields (reference tokens · sheet pos) (.table table column whole, pos + 1) := by
  refine ⟨1, ?_⟩
  show reference tokens 1 sheet pos = _
  rw [reference_succ, h.eq]; rfl

theorem yields_group (sheet : Datum) (h : Shows tokens pos .openParen)
    (he : Yields (level tokens · .comparison (pos + 1)) (e, stop)) (hc : Shows tokens stop .closeParen) :
    Yields (reference tokens · sheet pos) (e, stop + 1) := by
  obtain ⟨n, hn⟩ := he
  refine ⟨n + 1, ?_⟩
  show reference tokens (n + 1) sheet pos = _
  rw [reference_succ, h.eq]
  show level tokens n .comparison (pos + 1) >>= _ = _
  rw [show level tokens n .comparison (pos + 1) = _ from hn]
  show lexemeAt tokens stop >>= _ = _
  rw [hc.eq]; rfl

theorem yields_call {name : String} {args : List Expr} (sheet : Datum) (h : Shows tokens pos (.function name))
    (ho : Shows tokens (pos + 1) .openParen) (ha : Yields (arguments tokens · (pos + 2)) (args, stop)) :
    Yields (reference tokens · sheet pos) (.call name args, stop) := by
  obtain ⟨n, hn⟩ := ha
  refine ⟨n + 2, ?_⟩
  show reference tokens (n + 1 + 1) sheet pos = _
  rw [reference_succ, h.eq]
  show call tokens (n + 1) pos = _
  rw [call_succ, h.eq]
  show lexemeAt tokens (pos + 1) >>= _ = _
  rw [ho.eq]
  show arguments tokens n (pos + 2) >>= _ = _
  rw [show arguments tokens n (pos + 2) = _ from hn]; rfl

theorem yields_arguments_close (h : Shows tokens pos .closeParen) :
    Yields (arguments tokens · pos) ([], pos + 1) := by
  refine ⟨1, ?_⟩
  show arguments tokens 1 pos = _
  rw [arguments_succ, h.eq]; rfl

/-- One argument and, behind the comma if there is one, the others. -/
theorem yields_arguments_next {l l' : Lexeme} {args : List Expr} {stop' : Nat} (h : Shows tokens pos l)
    (hl : l ≠ .closeParen) (hf : l ≠ .finish) (he : Yields (level tokens · .comparison pos) (e, stop))
    (hs : Shows tokens stop l') (ha : Yields (arguments tokens · (behindComma stop l')) (args, stop')) :
    Yields (arguments tokens · pos) (e :: args, stop') := by
  obtain ⟨n, h₁, h₂⟩ := he.both (fun k => (moreFuel tokens k).level .comparison pos)
    (fun k => (moreFuel tokens k).arguments (behindComma stop l')) ha
  have next : level tokens n .comparison pos >>= (fun a => lexemeAt tokens a.2 >>= fun l =>
      arguments tokens n (behindComma a.2 l) >>= fun r => .ok (a.1 :: r.1, r.2)) = .ok (e :: args, stop') := by
    rw [show level tokens n .comparison pos = _ from h₁]
    show lexemeAt tokens stop >>= _ = _
    rw [hs.eq]
    show arguments tokens n (behindComma stop l') >>= _ = _
    rw [show arguments tokens n (behindComma stop l') = _ from h₂]; rfl
  refine ⟨n + 1, ?_⟩
  show arguments tokens (n + 1) pos = _
  rw [arguments_succ, h.eq]
  cases l with
  | closeParen => exact absurd rfl hl
  | finish => exact absurd rfl hf
  | _ => exact next

/-- **The answer of `parse`** is the answer with some fuel. -/
theorem parse_of_yields {ts : List Token} {r : Expr × Nat} (h : Ends ts.toArray)
    (hr : Yields (level ts.toArray · .comparison 0) r) : parse ts = .ok r := by
  obtain ⟨n, hn⟩ := hr
  exact parse_eq_of_level h hn

end Rules

end FormulaSql.Parser
