import FormulaSql.Proofs.Parser.Runs

/-!
# Derivations of the parser

`Derives tokens task pos es stop` says that a function of the parser (`Task`), asked at `pos`, gives the trees `es` and
goes on at `stop`. There is one rule for each way a function can go, and fuel does not occur. Every answer of the parser
has a derivation (`derives_of_parse`), and every derivation is an answer (`parse_of_derives`); so a fact about all answers
is proved by one induction over derivations, however many functions there are.
-/

namespace FormulaSql.Parser

/-! ## The rules -/

/-- What a function of the parser is asked for. -/
inductive Task where
  | level (rank : Rank)
  | operand (rank : Rank)
  | chain (rank : Rank) (left : Expr)
  | power
  | unary
  | primary
  | reference (sheet : Datum)
  | arguments

/-- The lexeme at a position is none of the operators. -/
def StopsAt (tokens : Array Token) (symbols : List String) (pos : Nat) : Prop :=
  ∃ l, Shows tokens pos l ∧ ∀ s ∈ symbols, l ≠ .operator s

/-- A lexeme that starts no reference, call or group. A missing operand takes its place. -/
def IsStray : Lexeme → Prop
  | .cell _ | .range _ | .table _ | .function _ | .openParen => False
  | _ => True

/-- The runs of the parser. An expression is one tree, arguments are any number of them. -/
inductive Derives (tokens : Array Token) : Task → Nat → List Expr → Nat → Prop
  | level {rank : Rank} {e : Expr} {es : List Expr} {pos mid stop : Nat} : Derives tokens (.operand rank) pos [e] mid →
      Derives tokens (.chain rank e) mid es stop → Derives tokens (.level rank) pos es stop
  | operandLevel {rank rank' : Rank} {es : List Expr} {pos stop : Nat} : rank.tighter = some rank' →
      Derives tokens (.level rank') pos es stop → Derives tokens (.operand rank) pos es stop
  | operandPower {rank : Rank} {es : List Expr} {pos stop : Nat} : rank.tighter = none →
      Derives tokens .power pos es stop → Derives tokens (.operand rank) pos es stop
  | chainStop {rank : Rank} {e : Expr} {pos : Nat} : StopsAt tokens rank.symbols pos →
      Derives tokens (.chain rank e) pos [e] pos
  | chainNext {rank : Rank} {s : String} {left right : Expr} {es : List Expr} {pos mid stop : Nat} :
      Shows tokens pos (.operator s) → s ∈ rank.symbols → Derives tokens (.operand rank) (pos + 1) [right] mid →
      Derives tokens (.chain rank (.binary s left right)) mid es stop → Derives tokens (.chain rank left) pos es stop
  | powerStop {e : Expr} {pos stop : Nat} : Derives tokens .unary pos [e] stop → StopsAt tokens ["^"] stop →
      Derives tokens .power pos [e] stop
  | powerNext {left right : Expr} {pos mid stop : Nat} : Derives tokens .unary pos [left] mid →
      Shows tokens mid (.operator "^") → Derives tokens .power (mid + 1) [right] stop →
      Derives tokens .power pos [.binary "^" left right] stop
  | sign {s : String} {e : Expr} {pos stop : Nat} : Shows tokens pos (.operator s) → s ∈ ["-", "+"] →
      Derives tokens .unary (pos + 1) [e] stop → Derives tokens .unary pos [.unary s e] stop
  | unsigned {es : List Expr} {pos stop : Nat} : StopsAt tokens ["-", "+"] pos → Derives tokens .primary pos es stop →
      Derives tokens .unary pos es stop
  | number {v : Number} {pos : Nat} : Shows tokens pos (.number v) → Derives tokens .primary pos [.number v] (pos + 1)
  | text {s : String} {pos : Nat} : Shows tokens pos (.text s) → Derives tokens .primary pos [.text s] (pos + 1)
  | sheet {name : Option String} {es : List Expr} {pos stop : Nat} : Shows tokens pos (.sheet name) →
      Derives tokens (.reference (Lexeme.sheet name).value) (pos + 1) es stop → Derives tokens .primary pos es stop
  | noSheet {l : Lexeme} {es : List Expr} {pos stop : Nat} : Shows tokens pos l → IsReference l →
      Derives tokens (.reference .null) pos es stop → Derives tokens .primary pos es stop
  | cell {name : String} {sheet : Datum} {pos : Nat} : Shows tokens pos (.cell name) →
      Derives tokens (.reference sheet) pos [.cell name sheet] (pos + 1)
  | range {name : String} {sheet : Datum} {pos : Nat} : Shows tokens pos (.range name) →
      Derives tokens (.reference sheet) pos [.range name sheet] (pos + 1)
  | table {parts : Option TableParts} {e : Expr} {sheet : Datum} {pos : Nat} : Shows tokens pos (.table parts) →
      tableExpr parts = .ok e → Derives tokens (.reference sheet) pos [e] (pos + 1)
  | call {name : String} {sheet : Datum} {args : List Expr} {pos stop : Nat} : Shows tokens pos (.function name) →
      Shows tokens (pos + 1) .openParen → Derives tokens .arguments (pos + 2) args stop →
      Derives tokens (.reference sheet) pos [.call name args] stop
  /-- A function name with no parenthesis behind it. -/
  | name {name : String} {sheet : Datum} {l : Lexeme} {pos : Nat} : Shows tokens pos (.function name) →
      Shows tokens (pos + 1) l → l ≠ .openParen → Derives tokens (.reference sheet) pos [.call name []] (pos + 1)
  | group {sheet : Datum} {e : Expr} {pos stop : Nat} : Shows tokens pos .openParen →
      Derives tokens (.level .comparison) (pos + 1) [e] stop → Shows tokens stop .closeParen →
      Derives tokens (.reference sheet) pos [e] (stop + 1)
  /-- A group that is not closed. -/
  | openGroup {sheet : Datum} {e : Expr} {l : Lexeme} {pos stop : Nat} : Shows tokens pos .openParen →
      Derives tokens (.level .comparison) (pos + 1) [e] stop → Shows tokens stop l → l ≠ .closeParen →
      Derives tokens (.reference sheet) pos [e] stop
  | missing {l : Lexeme} {sheet : Datum} {pos : Nat} : Shows tokens pos l → IsStray l →
      Derives tokens (.reference sheet) pos [.missing] (pos + 1)
  | argumentsClose {pos : Nat} : Shows tokens pos .closeParen → Derives tokens .arguments pos [] (pos + 1)
  | argumentsFinish {pos : Nat} : Shows tokens pos .finish → Derives tokens .arguments pos [] pos
  | argumentsNext {l l' : Lexeme} {e : Expr} {es : List Expr} {pos mid stop : Nat} : Shows tokens pos l →
      l ≠ .closeParen → l ≠ .finish → Derives tokens (.level .comparison) pos [e] mid → Shows tokens mid l' →
      Derives tokens .arguments (behindComma mid l') es stop → Derives tokens .arguments pos (e :: es) stop

/-! ## Positions -/

/-- How far a task gets: a chain or arguments may take no token, everything else takes at least one. -/
def Task.Advances : Task → Nat → Nat → Prop
  | chain _ _, pos, stop | arguments, pos, stop => pos ≤ stop
  | _, pos, stop => pos < stop

theorem Task.Advances.le {task : Task} {pos stop : Nat} (h : task.Advances pos stop) : pos ≤ stop := by
  cases task with
  | chain | arguments => exact h
  | _ => exact Nat.le_of_lt h

/-- **The parser moves on.** -/
theorem advances_of_derives {tokens : Array Token} {task : Task} {es : List Expr} {pos stop : Nat}
    (h : Derives tokens task pos es stop) : task.Advances pos stop := by
  induction h with
  | level _ _ operand chain => exact Nat.lt_of_lt_of_le operand chain
  | operandLevel _ _ ih | operandPower _ _ ih | powerStop _ _ ih | unsigned _ _ ih | noSheet _ _ _ ih => exact ih
  | @chainStop _ _ pos _ | @argumentsFinish pos _ => exact Nat.le_refl pos
  | @argumentsClose pos _ => exact Nat.le_succ pos
  | chainNext _ _ _ _ operand chain => exact Nat.le_trans (Nat.le_of_succ_le (Nat.le_of_lt operand)) chain
  | powerNext _ _ _ unary power => exact Nat.lt_trans unary (Nat.lt_of_succ_lt power)
  | sign _ _ _ ih | sheet _ _ ih | openGroup _ _ _ _ ih => exact Nat.lt_of_succ_lt ih
  | group _ _ _ ih => exact Nat.lt_succ_of_lt (Nat.lt_of_succ_lt ih)
  | call _ _ _ ih => exact Nat.lt_of_succ_lt (Nat.lt_of_succ_le ih)
  | argumentsNext _ _ _ _ _ _ argument others =>
    exact Nat.le_trans (Nat.le_of_lt argument) (Nat.le_trans (le_behindComma _ _) others)
  | _ => exact Nat.lt_succ_self _

theorem Derives.le {tokens : Array Token} {task : Task} {es : List Expr} {pos stop : Nat}
    (h : Derives tokens task pos es stop) : pos ≤ stop :=
  (advances_of_derives h).le

/-! ## Every answer has a derivation -/

section Answers

variable {tokens : Array Token} {α : Type} {P : α → Prop} {pos : Nat}

/-- Goes on with the lexeme at a position. -/
theorem meets_shows {f : Lexeme → Except Failure α} (hf : ∀ l, Shows tokens pos l → Meets P (fun _ => True) (f l)) :
    Meets P (fun _ => True) (lexemeAt tokens pos >>= f) := by
  cases hl : lexemeAt tokens pos with
  | error => trivial
  | ok l => exact hf l hl

/-- Goes on with an operator that may stand at a position. -/
theorem meets_operator {symbols : List String} {f : Option String → Except Failure α}
    (hnone : StopsAt tokens symbols pos → Meets P (fun _ => True) (f none))
    (hsome : ∀ s ∈ symbols, Shows tokens pos (.operator s) → Meets P (fun _ => True) (f (some s))) :
    Meets P (fun _ => True) (operatorAt tokens symbols pos >>= f) := by
  cases hl : lexemeAt tokens pos with
  | error => rw [operatorAt, hl]; trivial
  | ok l =>
    by_cases h : ∃ s ∈ symbols, l = .operator s
    · obtain ⟨s, hs, rfl⟩ := h
      rw [operatorAt_some hl hs]
      exact hsome s hs hl
    · have hl' : ∀ s ∈ symbols, l ≠ .operator s := fun s hs he => h ⟨s, hs, he⟩
      rw [operatorAt_none hl hl']
      exact hnone ⟨l, hl, hl'⟩

/-- An answer that has a derivation; faults do not matter. -/
abbrev Derived (tokens : Array Token) (task : Task) (pos : Nat) : Except Failure (Expr × Nat) → Prop :=
  Meets (fun r => Derives tokens task pos [r.1] r.2) fun _ => True

/-- With `n` units of fuel every answer has a derivation. -/
structure Derivable (tokens : Array Token) (n : Nat) : Prop where
  level : ∀ rank pos, Derived tokens (.level rank) pos (level tokens n rank pos)
  operand : ∀ rank pos, Derived tokens (.operand rank) pos (operand tokens n rank pos)
  chain : ∀ rank left pos, Derived tokens (.chain rank left) pos (chain tokens n rank left pos)
  power : ∀ pos, Derived tokens .power pos (power tokens n pos)
  unary : ∀ pos, Derived tokens .unary pos (unary tokens n pos)
  primary : ∀ pos, Derived tokens .primary pos (primary tokens n pos)
  reference : ∀ sheet pos, Derived tokens (.reference sheet) pos (reference tokens n sheet pos)
  call : ∀ name sheet pos, Shows tokens pos (.function name) → Derived tokens (.reference sheet) pos (call tokens n pos)
  arguments : ∀ pos, Meets (fun r => Derives tokens .arguments pos r.1 r.2) (fun _ => True) (arguments tokens n pos)

theorem derivable_succ {n : Nat} (ih : Derivable tokens n) : Derivable tokens (n + 1) where
  level rank pos := by
    rw [level_succ]
    refine (ih.operand rank pos).bind fun r hr => ?_
    exact (ih.chain rank r.1 r.2).imp fun q hq => .level hr hq
  operand rank pos := by
    rw [operand_succ]
    cases hrank : rank.tighter with
    | none => exact (ih.power pos).imp fun r hr => .operandPower hrank hr
    | some rank' => exact (ih.level rank' pos).imp fun r hr => .operandLevel hrank hr
  chain rank left pos := by
    rw [chain_succ]
    refine meets_operator .chainStop fun s hs hshows => (ih.operand rank (pos + 1)).bind fun r hr => ?_
    exact (ih.chain rank _ r.2).imp fun q hq => .chainNext hshows hs hr hq
  power pos := by
    rw [power_succ]
    refine (ih.unary pos).bind fun l hl => meets_operator (fun hstop => .powerStop hl hstop) fun s hs hshows => ?_
    cases List.mem_singleton.1 hs
    exact (ih.power (l.2 + 1)).bind fun r hr => .powerNext hl hshows hr
  unary pos := by
    rw [unary_succ]
    refine meets_operator (fun hstop => (ih.primary pos).imp fun r hr => .unsigned hstop hr) fun s hs hshows => ?_
    exact (ih.unary (pos + 1)).bind fun r hr => .sign hshows hs hr
  primary pos := by
    rw [primary_succ]
    refine meets_shows fun l hl => ?_
    cases l with
    | number v => exact .number hl
    | text s => exact .text hl
    | sheet name => exact (ih.reference _ (pos + 1)).imp fun r hr => .sheet hl hr
    | _ => exact (ih.reference .null pos).imp fun r hr => .noSheet hl trivial hr
  reference sheet pos := by
    rw [reference_succ]
    refine meets_shows fun l hl => ?_
    cases l with
    | cell name => exact .cell hl
    | range name => exact .range hl
    | table parts =>
      dsimp only
      cases ht : tableExpr parts with
      | ok e => exact .table hl ht
      | error => trivial
    | function name => exact ih.call name sheet pos hl
    | openParen =>
      refine (ih.level .comparison (pos + 1)).bind fun r hr => meets_shows fun l' hl' => ?_
      cases l' with
      | closeParen => exact .group hl hr hl'
      | _ => exact .openGroup hl hr hl' (by simp)
    | _ => exact .missing hl trivial
  call name sheet pos hname := by
    rw [call_succ]
    refine meets_shows fun l hl => meets_shows fun l' hl' => ?_
    cases hname.unique hl
    cases l' with
    | openParen => exact (ih.arguments (pos + 2)).bind fun r hr => .call hl hl' hr
    | _ => exact .name hl hl' (by simp)
  arguments pos := by
    rw [arguments_succ]
    refine meets_shows fun l hl => ?_
    have next (hclose : l ≠ .closeParen) (hfinish : l ≠ .finish) :
        Meets (fun r => Derives tokens .arguments pos r.1 r.2) (fun _ => True)
          (level tokens n .comparison pos >>= fun a => lexemeAt tokens a.2 >>= fun l =>
            arguments tokens n (behindComma a.2 l) >>= fun r => .ok (a.1 :: r.1, r.2)) := by
      refine (ih.level .comparison pos).bind fun a ha => meets_shows fun l' hl' => ?_
      exact (ih.arguments _).bind fun r hr => .argumentsNext hl hclose hfinish ha hl' hr
    cases l with
    | closeParen => exact .argumentsClose hl
    | finish => exact .argumentsFinish hl
    | _ => exact next (by simp) (by simp)

theorem derivable_run (tokens : Array Token) : ∀ n, Derivable tokens n
  | 0 => by constructor <;> (intros; trivial)
  | n + 1 => derivable_succ (derivable_run tokens n)

end Answers

/-! ## Every derivation is an answer -/

section Runs

variable {tokens : Array Token} {pos stop : Nat}

/-- Some amount of fuel gives the trees. -/
def Task.Yielded (tokens : Array Token) : Task → Nat → List Expr → Nat → Prop
  | level rank, pos, es, stop => ∃ e, es = [e] ∧ Yields (Parser.level tokens · rank pos) (e, stop)
  | operand rank, pos, es, stop => ∃ e, es = [e] ∧ Yields (Parser.operand tokens · rank pos) (e, stop)
  | chain rank left, pos, es, stop => ∃ e, es = [e] ∧ Yields (Parser.chain tokens · rank left pos) (e, stop)
  | power, pos, es, stop => ∃ e, es = [e] ∧ Yields (Parser.power tokens · pos) (e, stop)
  | unary, pos, es, stop => ∃ e, es = [e] ∧ Yields (Parser.unary tokens · pos) (e, stop)
  | primary, pos, es, stop => ∃ e, es = [e] ∧ Yields (Parser.primary tokens · pos) (e, stop)
  | reference sheet, pos, es, stop => ∃ e, es = [e] ∧ Yields (Parser.reference tokens · sheet pos) (e, stop)
  | arguments, pos, es, stop => Yields (Parser.arguments tokens · pos) (es, stop)

theorem StopsAt.operatorAt {symbols : List String} (h : StopsAt tokens symbols pos) :
    operatorAt tokens symbols pos = .ok none := by
  obtain ⟨l, hl, hs⟩ := h
  exact operatorAt_none hl hs

theorem yields_stray {l : Lexeme} (sheet : Datum) (h : Shows tokens pos l) (hl : IsStray l) :
    Yields (reference tokens · sheet pos) (.missing, pos + 1) := by
  refine ⟨1, ?_⟩
  show reference tokens 1 sheet pos = _
  rw [reference_succ, h.eq]
  cases l with
  | cell | range | table | function | openParen => exact hl.elim
  | _ => rfl

theorem yields_table_expr {parts : Option TableParts} {e : Expr} (sheet : Datum) (h : Shows tokens pos (.table parts))
    (he : tableExpr parts = .ok e) : Yields (reference tokens · sheet pos) (e, pos + 1) := by
  rcases parts with _ | ⟨_ | table, _ | column, _ | whole⟩ <;> cases he
  exact yields_table sheet h

theorem yields_openGroup {e : Expr} {l : Lexeme} (sheet : Datum) (h : Shows tokens pos .openParen)
    (he : Yields (level tokens · .comparison (pos + 1)) (e, stop)) (hl : Shows tokens stop l) (hc : l ≠ .closeParen) :
    Yields (reference tokens · sheet pos) (e, stop) := by
  obtain ⟨n, hn⟩ := he
  refine ⟨n + 1, ?_⟩
  show reference tokens (n + 1) sheet pos = _
  rw [reference_succ, h.eq]
  show level tokens n .comparison (pos + 1) >>= _ = _
  rw [show level tokens n .comparison (pos + 1) = _ from hn]
  show lexemeAt tokens stop >>= _ = _
  rw [hl.eq]
  cases l with
  | closeParen => exact absurd rfl hc
  | _ => rfl

theorem yields_name {name : String} {l : Lexeme} (sheet : Datum) (h : Shows tokens pos (.function name))
    (hl : Shows tokens (pos + 1) l) (hopen : l ≠ .openParen) :
    Yields (reference tokens · sheet pos) (.call name [], pos + 1) := by
  refine ⟨2, ?_⟩
  show reference tokens (1 + 1) sheet pos = _
  rw [reference_succ, h.eq]
  show call tokens 1 pos = _
  rw [call_succ, h.eq]
  show lexemeAt tokens (pos + 1) >>= _ = _
  rw [hl.eq]
  cases l with
  | openParen => exact absurd rfl hopen
  | _ => rfl

theorem yields_arguments_finish (h : Shows tokens pos .finish) : Yields (arguments tokens · pos) ([], pos) := by
  refine ⟨1, ?_⟩
  show arguments tokens 1 pos = _
  rw [arguments_succ, h.eq]; rfl

/-- **Every derivation is an answer**, with some amount of fuel. -/
theorem yielded_of_derives {task : Task} {es : List Expr} (h : Derives tokens task pos es stop) :
    task.Yielded tokens pos es stop := by
  induction h with
  | level _ _ operand chain =>
    obtain ⟨e, he, hoperand⟩ := operand
    cases he
    obtain ⟨e', rfl, hchain⟩ := chain
    exact ⟨e', rfl, yields_level hoperand hchain⟩
  | operandLevel hrank _ ih =>
    obtain ⟨e, rfl, h⟩ := ih
    exact ⟨e, rfl, yields_operand_level hrank h⟩
  | @operandPower rank es pos stop hrank _ ih =>
    obtain ⟨e, rfl, h⟩ := ih
    cases rank with
    | product => exact ⟨e, rfl, yields_operand_power h⟩
    | comparison | concat | sum => cases hrank
  | chainStop hstop => exact ⟨_, rfl, yields_chain_stop hstop.operatorAt⟩
  | chainNext hop hs _ _ operand chain =>
    obtain ⟨e, he, hoperand⟩ := operand
    cases he
    obtain ⟨e', rfl, hchain⟩ := chain
    exact ⟨e', rfl, yields_chain_next (operatorAt_some hop hs) hoperand hchain⟩
  | powerStop _ hstop ih =>
    obtain ⟨e, he, h⟩ := ih
    cases he
    exact ⟨_, rfl, yields_power_stop h hstop.operatorAt⟩
  | powerNext _ hop _ unary power =>
    obtain ⟨l, hl, hunary⟩ := unary
    obtain ⟨r, hr, hpower⟩ := power
    cases hl
    cases hr
    exact ⟨_, rfl, yields_power_next hunary (operatorAt_some hop (by simp)) hpower⟩
  | sign hop hs _ ih =>
    obtain ⟨e, he, h⟩ := ih
    cases he
    exact ⟨_, rfl, yields_unary_sign (operatorAt_some hop hs) h⟩
  | unsigned hstop _ ih =>
    obtain ⟨e, rfl, h⟩ := ih
    exact ⟨e, rfl, yields_unary_primary hstop.operatorAt h⟩
  | number hl => exact ⟨_, rfl, yields_number hl⟩
  | text hl => exact ⟨_, rfl, yields_text hl⟩
  | sheet hl _ ih =>
    obtain ⟨e, rfl, h⟩ := ih
    exact ⟨e, rfl, yields_sheet hl h⟩
  | noSheet hl href _ ih =>
    obtain ⟨e, rfl, h⟩ := ih
    exact ⟨e, rfl, yields_primary_reference hl href h⟩
  | cell hl => exact ⟨_, rfl, yields_cell _ hl⟩
  | range hl => exact ⟨_, rfl, yields_range _ hl⟩
  | table hl he => exact ⟨_, rfl, yields_table_expr _ hl he⟩
  | call hl hopen _ ih => exact ⟨_, rfl, yields_call _ hl hopen ih⟩
  | name hl hl' hopen => exact ⟨_, rfl, yields_name _ hl hl' hopen⟩
  | group hl _ hclose ih =>
    obtain ⟨e, he, h⟩ := ih
    cases he
    exact ⟨_, rfl, yields_group _ hl h hclose⟩
  | openGroup hl _ hl' hclose ih =>
    obtain ⟨e, he, h⟩ := ih
    cases he
    exact ⟨_, rfl, yields_openGroup _ hl h hl' hclose⟩
  | missing hl hstray => exact ⟨_, rfl, yields_stray _ hl hstray⟩
  | argumentsClose hl => exact yields_arguments_close hl
  | argumentsFinish hl => exact yields_arguments_finish hl
  | argumentsNext hl hclose hfinish _ hl' _ argument others =>
    obtain ⟨e, he, h⟩ := argument
    cases he
    exact yields_arguments_next hl hclose hfinish h hl' others

end Runs

/-- **Every answer of the parser has a derivation.** -/
theorem derives_of_parse {ts : List Token} {e : Expr} {pos : Nat} (h : parse ts = .ok (e, pos)) :
    Derives ts.toArray (.level .comparison) 0 [e] pos := by
  have hlevel : level ts.toArray (enough ts.toArray) .comparison 0 = .ok (e, pos) := h
  have hmeets := (derivable_run ts.toArray (enough ts.toArray)).level .comparison 0
  rw [hlevel] at hmeets
  exact hmeets

/-- **Every derivation is the answer of the parser**, where the finishing token comes last. -/
theorem parse_of_derives {ts : List Token} (hends : Ends ts.toArray) {e : Expr} {pos : Nat}
    (h : Derives ts.toArray (.level .comparison) 0 [e] pos) : parse ts = .ok (e, pos) := by
  obtain ⟨e', he, hyields⟩ := yielded_of_derives h
  cases he
  exact parse_of_yields hends hyields

end FormulaSql.Parser
