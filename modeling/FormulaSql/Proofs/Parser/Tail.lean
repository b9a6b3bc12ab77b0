import FormulaSql.Proofs.Parser.Derivations
import FormulaSql.Proofs.Parser.Shape

/-!
# What the parser leaves behind

The parser reads one expression from the first token on, and nobody looks whether tokens follow. Where the expression ends
does not depend on the ranks of the operators: a reading (`Reading`) goes over the lexemes, remembers the open parentheses
and knows whether an operand or an operator comes next. It stops (`Reading.next`) behind an operand where neither an
operator nor an awaited parenthesis follows, unless it is inside a call: there whatever follows starts the next argument.

* The parser stops where the reading stops (`halts_of_derives`, by induction over derivations).
* What follows has no effect: the tokens before that place give the same tree (`derives_of_agree`).

**All tokens of a formula are taken exactly if the reading never stops before the finishing one** (`parse_tail`). So the
`2` of `1 2` is lost, and all that follows the parenthesis in `A1)+B1`, while `SUM(1 2)` keeps both numbers.
-/

namespace FormulaSql.Parser

/-! ## Readings -/

/-- What a parenthesis was opened for. -/
inductive Frame where
  | group
  | call
  deriving Repr, DecidableEq

/-- What comes next. -/
inductive Mode where
  | operand
  /-- Behind a sheet: an operand that takes a sign or a literal for a missing one. -/
  | reference
  /-- Behind a function name: its parenthesis. -/
  | opening
  | operator
  | argument
  deriving Repr, DecidableEq

/-- What comes next, and the parentheses that are open, the inner ones first. -/
structure Reading where
  mode : Mode
  frames : List Frame
  deriving Repr, DecidableEq

namespace Reading

section Steps

variable (frames : List Frame)

/-- One lexeme of a reference, a call or a group; any other stands for a missing operand. -/
def atReference : Lexeme → Reading
  | .function _ => ⟨.opening, frames⟩
  | .openParen => ⟨.operand, .group :: frames⟩
  | _ => ⟨.operator, frames⟩

/-- One lexeme of an operand. -/
def atOperand : Lexeme → Reading
  | .operator s => if s ∈ ["-", "+"] then ⟨.operand, frames⟩ else ⟨.operator, frames⟩
  | .number _ | .text _ => ⟨.operator, frames⟩
  | .sheet _ => ⟨.reference, frames⟩
  | l => atReference frames l

/-- One lexeme at the start of an argument. -/
def atArgument : Lexeme → Option Reading
  | .closeParen => some ⟨.operator, frames.tail⟩
  | .finish => none
  | l => some (atOperand frames l)

/-- A lexeme that goes on with no operand. It starts the next argument of the innermost call, whose groups it leaves open;
outside of calls the reading stops. -/
def atNext (l : Lexeme) : Option Reading :=
  match frames.dropWhile (· = .group) with
  | [] => none
  | frames => if l = .comma then some ⟨.argument, frames⟩ else atArgument frames l

/-- One lexeme behind an operand. -/
def atOperator : Lexeme → Option Reading
  | .closeParen => if frames = [] then none else some ⟨.operator, frames.tail⟩
  | .operator s => if s ∈ operators then some ⟨.operand, frames⟩ else atNext frames (.operator s)
  | l => atNext frames l

/-- One lexeme behind a function name. -/
def atOpening : Lexeme → Option Reading
  | .openParen => some ⟨.argument, .call :: frames⟩
  | l => atOperator frames l

end Steps

/-- Goes on with a lexeme, or stops before it. -/
def next (r : Reading) (l : Lexeme) : Option Reading :=
  match r.mode with
  | .operand => some (atOperand r.frames l)
  | .reference => some (atReference r.frames l)
  | .opening => atOpening r.frames l
  | .operator => atOperator r.frames l
  | .argument => atArgument r.frames l

/-- The reading at the start of a formula. -/
def start : Reading :=
  ⟨.operand, []⟩

end Reading

/-- Lexemes that are read to their end. -/
def unbroken (ls : List Lexeme) : Bool :=
  (ls.foldlM Reading.next .start).isSome

/-- A reading that starts at a position and stops at another. -/
inductive Halts (tokens : Array Token) : Reading → Nat → Nat → Prop
  | stop {r : Reading} {l : Lexeme} {pos : Nat} : Shows tokens pos l → r.next l = none → Halts tokens r pos pos
  | step {r r' : Reading} {l : Lexeme} {pos stop : Nat} : Shows tokens pos l → r.next l = some r' →
      Halts tokens r' (pos + 1) stop → Halts tokens r pos stop

/-! ## Operators behind an expression -/

section Exits

variable {tokens : Array Token} {pos stop : Nat}

/-- The operators that are tighter than those of a rank. -/
def inside : Rank → List String
  | .comparison => ["^", "*", "/", "+", "-", "&"]
  | .concat => ["^", "*", "/", "+", "-"]
  | .sum => ["^", "*", "/"]
  | .product => ["^"]

theorem inside_tighter {rank rank' : Rank} (h : rank.tighter = some rank') : inside rank ⊆ inside rank' ++ rank'.symbols := by
  cases rank <;> cases h <;> decide

theorem operators_comparison : operators ⊆ inside .comparison ++ Rank.comparison.symbols := by decide

theorem StopsAt.mono {symbols symbols' : List String} (h : StopsAt tokens symbols pos) (hs : symbols' ⊆ symbols) :
    StopsAt tokens symbols' pos := by
  obtain ⟨l, hl, hne⟩ := h
  exact ⟨l, hl, fun s hmem => hne s (hs hmem)⟩

theorem StopsAt.append {symbols symbols' : List String} (h : StopsAt tokens symbols pos)
    (h' : StopsAt tokens symbols' pos) : StopsAt tokens (symbols ++ symbols') pos := by
  obtain ⟨l, hl, hne⟩ := h
  obtain ⟨l', hl', hne'⟩ := h'
  cases hl.unique hl'
  refine ⟨l, hl, fun s hs => ?_⟩
  rcases List.mem_append.1 hs with hs | hs
  · exact hne s hs
  · exact hne' s hs

/-- The operators that do not follow what a task gives. -/
def Task.Exits (tokens : Array Token) : Task → Nat → Nat → Prop
  | level rank, _, stop => StopsAt tokens (inside rank ++ rank.symbols) stop
  | operand rank, _, stop => StopsAt tokens (inside rank) stop
  | chain rank _, pos, stop => StopsAt tokens (inside rank) pos → StopsAt tokens (inside rank ++ rank.symbols) stop
  | power, _, stop => StopsAt tokens ["^"] stop
  | unary, _, _ | primary, _, _ | reference _, _, _ | arguments, _, _ => True

/-- No operator of its rank or a tighter one follows an expression. -/
theorem exits_of_derives {task : Task} {es : List Expr} (h : Derives tokens task pos es stop) :
    task.Exits tokens pos stop := by
  induction h with
  | level _ _ operand chain => exact chain operand
  | operandLevel hrank _ ih => exact StopsAt.mono ih (inside_tighter hrank)
  | @operandPower rank _ _ _ hrank _ ih =>
    cases rank with
    | product => exact ih
    | comparison | concat | sum => cases hrank
  | chainStop hstop => exact fun hpos => hpos.append hstop
  | chainNext _ _ _ _ operand chain => exact fun _ => chain operand
  | powerStop _ hstop _ => exact hstop
  | powerNext _ _ _ _ power => exact power
  | _ => trivial

/-- No operator at all follows a whole expression. -/
theorem stopsAt_operators {es : List Expr} (h : Derives tokens (.level .comparison) pos es stop) :
    StopsAt tokens operators stop :=
  StopsAt.mono (exits_of_derives h) operators_comparison

end Exits

/-! ## The parser stops where the reading stops -/

namespace Reading

variable {frames : List Frame} {l : Lexeme}

theorem next_operator {s : String} (h : s ∈ operators) :
    next ⟨.operator, frames⟩ (.operator s) = some ⟨.operand, frames⟩ := by
  show (if s ∈ operators then _ else _) = _
  rw [if_pos h]

theorem next_sign {s : String} (h : s ∈ ["-", "+"]) :
    next ⟨.operand, frames⟩ (.operator s) = some ⟨.operand, frames⟩ := by
  show some (if s ∈ ["-", "+"] then _ else _) = _
  rw [if_pos h]

/-- A lexeme that is no operator of the listed ones and no parenthesis goes on with no operand. -/
theorem next_behind (hl : ∀ s ∈ operators, l ≠ .operator s) (hclose : l ≠ .closeParen) :
    next ⟨.operator, frames⟩ l = atNext frames l := by
  cases l with
  | operator s =>
    show (if s ∈ operators then _ else _) = _
    rw [if_neg fun hs => hl s hs rfl]
  | closeParen => exact absurd rfl hclose
  | _ => rfl

/-- Without signs and literals an operand is read like what follows a sheet. -/
theorem next_operand_reference (hl : ∀ s ∈ ["-", "+"], l ≠ .operator s) (href : IsReference l) :
    next ⟨.operand, frames⟩ l = next ⟨.reference, frames⟩ l := by
  cases l with
  | operator s =>
    show some (if s ∈ ["-", "+"] then _ else _) = _
    rw [if_neg fun hs => hl s hs rfl]
    rfl
  | number | text | sheet => exact href.elim
  | _ => rfl

theorem next_stray (h : IsStray l) : next ⟨.reference, frames⟩ l = some ⟨.operator, frames⟩ := by
  cases l with
  | function | openParen => exact h.elim
  | _ => rfl

theorem next_opening (h : l ≠ .openParen) : next ⟨.opening, frames⟩ l = next ⟨.operator, frames⟩ l := by
  cases l with
  | openParen => exact absurd rfl h
  | _ => rfl

/-- A group that is not closed is left. -/
theorem next_openGroup (hl : ∀ s ∈ operators, l ≠ .operator s) (hclose : l ≠ .closeParen) :
    next ⟨.operator, .group :: frames⟩ l = next ⟨.operator, frames⟩ l := by
  rw [next_behind hl hclose, next_behind hl hclose]
  rfl

theorem next_argument (hclose : l ≠ .closeParen) (hfinish : l ≠ .finish) :
    next ⟨.argument, frames⟩ l = next ⟨.operand, frames⟩ l := by
  cases l with
  | closeParen => exact absurd rfl hclose
  | finish => exact absurd rfl hfinish
  | _ => rfl

/-- Behind an argument the next one starts, without a comma too. -/
theorem next_noComma (hl : ∀ s ∈ operators, l ≠ .operator s) (hcomma : l ≠ .comma) :
    next ⟨.operator, .call :: frames⟩ l = next ⟨.argument, .call :: frames⟩ l := by
  by_cases hclose : l = .closeParen
  · subst hclose
    rfl
  · rw [next_behind hl hclose]
    show (if l = .comma then _ else _) = _
    rw [if_neg hcomma]
    rfl

theorem next_finish : next ⟨.operator, frames⟩ .finish = none := by
  show atNext frames .finish = none
  unfold atNext
  split <;> rfl

end Reading

section Stops

variable {tokens : Array Token} {pos stop : Nat}

/-- Two readings that agree on the next lexeme stop at the same place. -/
theorem Halts.congr {r r' : Reading} {l : Lexeme} (h : Halts tokens r pos stop) (hl : Shows tokens pos l)
    (he : r'.next l = r.next l) : Halts tokens r' pos stop := by
  cases h with
  | stop hl' hnext =>
    cases hl.unique hl'
    exact .stop hl (he.trans hnext)
  | step hl' hnext hrest =>
    cases hl.unique hl'
    exact .step hl (he.trans hnext) hrest

/-- The reading that a task continues stops at `q`. -/
def Task.Halting (tokens : Array Token) (frames : List Frame) (pos q : Nat) : Task → Prop
  | level _ | operand _ | power | unary => Halts tokens ⟨.operand, frames⟩ pos q
  | primary => StopsAt tokens ["-", "+"] pos → Halts tokens ⟨.operand, frames⟩ pos q
  | chain _ _ => Halts tokens ⟨.operator, frames⟩ pos q
  | reference _ => Halts tokens ⟨.reference, frames⟩ pos q
  | arguments => Halts tokens ⟨.argument, .call :: frames⟩ pos q

/-- **A reading goes over what a task takes**: it stops where it would stop if it went on behind, with an operand read. -/
theorem halts_of_derives {task : Task} {es : List Expr} (h : Derives tokens task pos es stop) :
    ∀ frames q, Halts tokens ⟨.operator, frames⟩ stop q → task.Halting tokens frames pos q := by
  induction h with
  | level _ _ operand chain => exact fun frames q hq => operand frames q (chain frames q hq)
  | operandLevel _ _ ih | operandPower _ _ ih | powerStop _ _ ih => exact ih
  | chainStop => exact fun _ _ hq => hq
  | @chainNext rank _ _ _ _ _ _ _ hop hs _ _ operand chain =>
    intro frames q hq
    exact .step hop (Reading.next_operator (symbols_operators rank _ hs)) (operand frames q (chain frames q hq))
  | powerNext _ hop _ unary power =>
    intro frames q hq
    exact unary frames q (.step hop (Reading.next_operator (by decide)) (power frames q hq))
  | sign hop hs _ ih => exact fun frames q hq => .step hop (Reading.next_sign hs) (ih frames q hq)
  | unsigned hstop _ ih => exact fun frames q hq => ih frames q hq hstop
  | number hl | text hl => exact fun frames q hq _ => .step hl rfl hq
  | sheet hl _ ih => exact fun frames q hq _ => .step hl rfl (ih frames q hq)
  | noSheet hl href _ ih =>
    rintro frames q hq ⟨l', hl', hsign⟩
    cases hl.unique hl'
    exact (ih frames q hq).congr hl (Reading.next_operand_reference hsign href)
  | cell hl | range hl | table hl => exact fun frames q hq => .step hl rfl hq
  | call hl hopen _ ih => exact fun frames q hq => .step hl rfl (.step hopen rfl (ih frames q hq))
  | name hl hl' hopen => exact fun frames q hq => .step hl rfl (hq.congr hl' (Reading.next_opening hopen))
  | group hl _ hclose ih => exact fun frames q hq => .step hl rfl (ih (.group :: frames) q (.step hclose rfl hq))
  | openGroup hl hinside hl' hclose ih =>
    intro frames q hq
    -- no operator follows the group, so leaving it open changes nothing
    obtain ⟨l, hl'', hop⟩ := stopsAt_operators hinside
    cases hl'.unique hl''
    exact .step hl rfl (ih (.group :: frames) q (hq.congr hl' (Reading.next_openGroup hop hclose)))
  | missing hl hstray => exact fun frames q hq => .step hl (Reading.next_stray hstray) hq
  | argumentsClose hl => exact fun frames q hq => .step hl rfl hq
  | argumentsFinish hl => exact fun frames q hq => hq.congr hl Reading.next_finish.symm
  | @argumentsNext l l' _ _ _ mid _ hl hclose hfinish hargument hl' _ argument others =>
    intro frames q hq
    have hothers : Halts tokens ⟨.argument, .call :: frames⟩ (behindComma mid l') q := others frames q hq
    have hbehind : Halts tokens ⟨.operator, .call :: frames⟩ mid q := by
      by_cases hcomma : l' = .comma
      · subst hcomma
        exact .step hl' rfl hothers
      · rw [behindComma_of_ne hcomma] at hothers
        obtain ⟨l'', hl'', hop⟩ := stopsAt_operators hargument
        cases hl'.unique hl''
        exact hothers.congr hl' (Reading.next_noComma hop hcomma)
    have harg : Halts tokens ⟨.operand, .call :: frames⟩ _ q := argument (.call :: frames) q hbehind
    exact harg.congr hl (Reading.next_argument hclose hfinish)

/-- The parser stops where the reading of its tokens stops. -/
theorem halts_of_parse {ts : List Token} {e : Expr} {pos : Nat} (h : parse ts = .ok (e, pos)) :
    Halts ts.toArray .start 0 pos := by
  have hderives := derives_of_parse h
  obtain ⟨l, hl, hop⟩ := stopsAt_operators hderives
  have hnext : Reading.next ⟨.operator, []⟩ l = none := by
    by_cases hclose : l = .closeParen
    · subst hclose
      rfl
    · rw [Reading.next_behind hop hclose]
      rfl
  exact halts_of_derives hderives [] pos (.stop hl hnext)

end Stops

/-! ## What follows has no effect -/

section Agreement

variable {tokens tokens' : Array Token} {pos mid stop : Nat}

/-- The same lexemes stand before `stop`, and there either the same one too or the finishing one. -/
structure Agree (tokens tokens' : Array Token) (stop : Nat) : Prop where
  before : ∀ i < stop, ∀ l, Shows tokens i l → Shows tokens' i l
  here : Shows tokens' stop .finish ∨ ∀ l, Shows tokens stop l → Shows tokens' stop l

theorem Agree.upTo (h : Agree tokens tokens' stop) (hle : mid ≤ stop) : Agree tokens tokens' mid := by
  refine ⟨fun i hi => h.before i (Nat.lt_of_lt_of_le hi hle), ?_⟩
  rcases Nat.lt_or_eq_of_le hle with hlt | rfl
  · exact .inr (h.before mid hlt)
  · exact h.here

theorem Agree.stopsAt {symbols : List String} (h : Agree tokens tokens' pos) (hs : StopsAt tokens symbols pos) :
    StopsAt tokens' symbols pos := by
  obtain ⟨l, hl, hne⟩ := hs
  rcases h.here with hfinish | hsame
  · exact ⟨.finish, hfinish, by simp⟩
  · exact ⟨l, hsame l hl, hne⟩

/-- A lexeme that stands where a derivation stops may give way to the finishing one, if only another is ruled out. -/
theorem Agree.shows_ne {l l' : Lexeme} (h : Agree tokens tokens' pos) (hl : Shows tokens pos l) (hne : l ≠ l')
    (hfinish : Lexeme.finish ≠ l') : ∃ l, Shows tokens' pos l ∧ l ≠ l' := by
  rcases h.here with hf | hsame
  · exact ⟨.finish, hf, hfinish⟩
  · exact ⟨l, hsame l hl, hne⟩

/-- **What follows a derivation has no effect on it.** -/
theorem derives_of_agree {task : Task} {es : List Expr} (h : Derives tokens task pos es stop)
    (hagree : Agree tokens tokens' stop) : Derives tokens' task pos es stop := by
  induction h with
  | level _ hchain operand chain => exact .level (operand (hagree.upTo hchain.le)) (chain hagree)
  | operandLevel hrank _ ih => exact .operandLevel hrank (ih hagree)
  | operandPower hrank _ ih => exact .operandPower hrank (ih hagree)
  | chainStop hstop => exact .chainStop (hagree.stopsAt hstop)
  | chainNext hop hs hoperand hchain operand chain =>
    have hlt := Nat.lt_of_lt_of_le (Nat.lt_of_succ_le hoperand.le) hchain.le
    exact .chainNext (hagree.before _ hlt _ hop) hs (operand (hagree.upTo hchain.le)) (chain hagree)
  | powerStop _ hstop ih => exact .powerStop (ih hagree) (hagree.stopsAt hstop)
  | powerNext _ hop hpower unary power =>
    exact .powerNext (unary (hagree.upTo (Nat.le_of_succ_le hpower.le))) (hagree.before _ hpower.le _ hop) (power hagree)
  | sign hop hs hunary ih => exact .sign (hagree.before _ hunary.le _ hop) hs (ih hagree)
  | unsigned hstop hprimary ih => exact .unsigned ((hagree.upTo hprimary.le).stopsAt hstop) (ih hagree)
  | number hl => exact .number (hagree.before _ (Nat.lt_succ_self _) _ hl)
  | text hl => exact .text (hagree.before _ (Nat.lt_succ_self _) _ hl)
  | sheet hl hreference ih => exact .sheet (hagree.before _ hreference.le _ hl) (ih hagree)
  | noSheet hl href hreference ih => exact .noSheet (hagree.before _ (advances_of_derives hreference) _ hl) href (ih hagree)
  | cell hl => exact .cell (hagree.before _ (Nat.lt_succ_self _) _ hl)
  | range hl => exact .range (hagree.before _ (Nat.lt_succ_self _) _ hl)
  | table hl he => exact .table (hagree.before _ (Nat.lt_succ_self _) _ hl) he
  | call hl hopen harguments ih =>
    exact .call (hagree.before _ (Nat.lt_of_succ_lt harguments.le) _ hl) (hagree.before _ harguments.le _ hopen) (ih hagree)
  | name hl hl' hopen =>
    obtain ⟨l, hl', hopen⟩ := hagree.shows_ne hl' hopen (by simp)
    exact .name (hagree.before _ (Nat.lt_succ_self _) _ hl) hl' hopen
  | group hl hinside hclose ih =>
    exact .group (hagree.before _ (Nat.lt_succ_of_lt hinside.le) _ hl) (ih (hagree.upTo (Nat.le_succ _)))
      (hagree.before _ (Nat.lt_succ_self _) _ hclose)
  | openGroup hl hinside hl' hclose ih =>
    obtain ⟨l, hl', hclose⟩ := hagree.shows_ne hl' hclose (by simp)
    exact .openGroup (hagree.before _ hinside.le _ hl) (ih hagree) hl' hclose
  | missing hl hstray => exact .missing (hagree.before _ (Nat.lt_succ_self _) _ hl) hstray
  | argumentsClose hl => exact .argumentsClose (hagree.before _ (Nat.lt_succ_self _) _ hl)
  | argumentsFinish hl =>
    rcases hagree.here with hfinish | hsame
    · exact .argumentsFinish hfinish
    · exact .argumentsFinish (hsame _ hl)
  | @argumentsNext l l' _ _ pos mid stop hl hclose hfinish hargument hl' hothers argument others =>
    have hle : mid ≤ stop := Nat.le_trans (le_behindComma mid l') hothers.le
    have hfirst := hagree.before _ (Nat.lt_of_lt_of_le (advances_of_derives hargument) hle) _ hl
    -- the finishing lexeme can only take the place of one that is no comma, because a comma is taken
    have hnext : ∃ l'', Shows tokens' mid l'' ∧ behindComma mid l'' = behindComma mid l' := by
      by_cases hcomma : l' = .comma
      · subst hcomma
        exact ⟨.comma, hagree.before mid hothers.le _ hl', rfl⟩
      · rcases (hagree.upTo hle).here with hend | hsame
        · exact ⟨.finish, hend, (behindComma_of_ne hcomma mid).symm⟩
        · exact ⟨l', hsame l' hl', rfl⟩
    obtain ⟨l'', hl'', hbehind⟩ := hnext
    exact .argumentsNext hfirst hclose hfinish (argument (hagree.upTo hle)) hl'' (hbehind ▸ others hagree)

/-- The tokens before the place where the parser stops give the same tree. -/
theorem parse_take {ts : List Token} {e : Expr} {pos : Nat} (h : parse ts = .ok (e, pos)) (hpos : pos ≤ ts.length)
    (finish : Token) (hfinish : finish.lexeme = .finish) : parse (ts.take pos ++ [finish]) = .ok (e, pos) := by
  have hlength : (ts.take pos).length = pos := List.length_take_of_le hpos
  have hagree : Agree ts.toArray (ts.take pos ++ [finish]).toArray pos := by
    refine ⟨fun i hi l hl => ?_, .inl ?_⟩
    · have hts : ts.toArray[i]? = some ts[i] := by simp
      have htake : (ts.take pos ++ [finish]).toArray[i]? = some ts[i] := by
        rw [List.getElem?_toArray, List.getElem?_append_left (by omega), List.getElem?_take_of_lt hi]
        exact List.getElem?_eq_getElem _
      cases hl.unique (shows_of_getElem? hts)
      exact shows_of_getElem? htake
    · have hlast : (ts.take pos ++ [finish]).toArray[pos]? = some finish := by simp [hlength]
      exact hfinish ▸ shows_of_getElem? hlast
  have hends : Ends (ts.take pos ++ [finish]).toArray := by
    cases finish
    cases hfinish
    exact ends_append _ _
  exact parse_of_derives hends (derives_of_agree (derives_of_parse h) hagree)

end Agreement

/-! ## The tokens that are read -/

section Unbroken

variable {ts : List Token} {pos stop : Nat}

/-- A reading goes over the lexemes up to the place where it stops. -/
theorem foldlM_of_halts {r : Reading} (h : Halts ts.toArray r pos stop) : stop ≤ ts.length →
    pos ≤ stop ∧ ∃ r' l, (((ts.drop pos).take (stop - pos)).map Token.lexeme).foldlM Reading.next r = some r' ∧
      Shows ts.toArray stop l ∧ r'.next l = none := by
  induction h with
  | @stop r l pos hl hnext =>
    intro _
    exact ⟨Nat.le_refl pos, r, l, by rw [Nat.sub_self]; rfl, hl, hnext⟩
  | @step r r' l pos stop hl hnext _ ih =>
    intro hstop
    obtain ⟨hle, r'', l', hfold, hl', hnext'⟩ := ih hstop
    have hlt : pos < ts.length := Nat.lt_of_lt_of_le hle hstop
    have hlexeme : ts[pos].lexeme = l := hl.lexeme_eq (by simp)
    refine ⟨Nat.le_of_succ_le hle, r'', l', ?_, hl', hnext'⟩
    rw [List.drop_eq_getElem_cons hlt, show stop - pos = (stop - (pos + 1)) + 1 by omega, List.take_succ_cons,
      List.map_cons, List.foldlM_cons, hlexeme, hnext]
    exact hfold

/-- The first lexemes of those that are read to their end are read to their end. -/
theorem unbroken_of_append {ls ls' : List Lexeme} (h : unbroken (ls ++ ls')) : unbroken ls := by
  unfold unbroken at h ⊢
  rw [List.foldlM_append] at h
  cases hls : ls.foldlM Reading.next .start with
  | none =>
    rw [hls] at h
    exact h
  | some r => rfl

theorem unbroken_take {m n : Nat} (hle : m ≤ n) (h : unbroken ((ts.take n).map Token.lexeme)) :
    unbroken ((ts.take m).map Token.lexeme) := by
  obtain ⟨rest, hrest⟩ : ts.take m <+: ts.take n := List.take_prefix_take_left hle
  rw [← hrest, List.map_append] at h
  exact unbroken_of_append h

/-- **The parser takes as many tokens as are read without a break.** -/
theorem unbroken_take_iff {e : Expr} (h : parse ts = .ok (e, pos)) (hpos : pos ≤ ts.length) {n : Nat}
    (hn : n ≤ ts.length) : unbroken ((ts.take n).map Token.lexeme) ↔ n ≤ pos := by
  obtain ⟨-, r, l, hfold, hl, hnext⟩ := foldlM_of_halts (halts_of_parse h) hpos
  rw [List.drop_zero, Nat.sub_zero] at hfold
  have htaken : unbroken ((ts.take pos).map Token.lexeme) := by
    unfold unbroken
    rw [hfold]
    rfl
  refine ⟨fun hread => Nat.le_of_not_lt fun hlt => ?_, fun hle => unbroken_take hle htaken⟩
  -- one token more would be read too, but there the reading stops
  have hlt' : pos < ts.length := Nat.lt_of_lt_of_le hlt hn
  have hlexeme : ts[pos].lexeme = l := hl.lexeme_eq (by simp)
  have hmore : unbroken ((ts.take (pos + 1)).map Token.lexeme) := unbroken_take hlt hread
  unfold unbroken at hmore
  rw [List.take_succ_eq_append_getElem hlt', List.map_append, List.foldlM_append, hfold, List.map_singleton,
    hlexeme, Option.bind_eq_bind, Option.bind_some, List.foldlM_cons, hnext] at hmore
  cases hmore

end Unbroken

/-- **All tokens of a formula are taken exactly if they are read without a break.** Every formula is parsed, and the parser
stops behind the longest row of tokens that is read without a break; so it comes to the finishing token or behind it
exactly if that row is the whole formula. Otherwise no operator stands where it stops, and what stands there and behind is
lost: without it the formula gives the same tree. -/
theorem parse_tail (s : String) : ∃ e pos, parse (tokens s) = .ok (e, pos) ∧ pos ≤ (tokens s).length ∧
    (pos + 1 = (tokens s).length ∨ pos = (tokens s).length ↔ unbroken ((tokens s).dropLast.map Token.lexeme)) ∧
    (∀ n ≤ (tokens s).length, unbroken (((tokens s).take n).map Token.lexeme) ↔ n ≤ pos) ∧
    (∀ t ∈ (tokens s)[pos]?, ∀ op ∈ operators, t.lexeme ≠ .operator op) ∧
    (∀ finish : Token, finish.lexeme = .finish → parse ((tokens s).take pos ++ [finish]) = .ok (e, pos)) := by
  obtain ⟨e, pos, hparse, -⟩ := parse_tokens_shaped s
  obtain ⟨ts, p, hend⟩ := tokensFrom_end (formulaText s) 0 0
  have htokens : tokens s = ts ++ [⟨.finish, p⟩] := hend
  have hpos : pos ≤ (tokens s).length := by
    have hmeets : Meets (Moved (tokens s).toArray 0) (fun _ => True) (parse (tokens s)) :=
      parse_meets (htokens ▸ ends_append ts p) fun _ _ _ _ => trivial
    rw [hparse] at hmeets
    exact hmeets.2
  have hlength : (tokens s).length = ts.length + 1 := by simp [htokens]
  refine ⟨e, pos, hparse, hpos, ?_, fun n => unbroken_take_iff hparse hpos, fun t ht op hop heq => ?_,
    parse_take hparse hpos⟩
  · rw [List.dropLast_eq_take, unbroken_take_iff hparse hpos (Nat.sub_le _ _)]
    omega
  · obtain ⟨l, hl, hne⟩ := stopsAt_operators (derives_of_parse hparse)
    have hlexeme : t.lexeme = l := hl.lexeme_eq (by simpa using ht)
    exact hne op hop (hlexeme ▸ heq)

-- the `2` of `1 2` and what follows the parenthesis of `A1)+B1` are lost; in a call both numbers are arguments
example : ¬ unbroken [.number (.whole 1), .number (.whole 2)] ∧
    ¬ unbroken [.cell "A1", .closeParen, .operator "+", .cell "B1"] ∧
    unbroken [.function "SUM", .openParen, .number (.whole 1), .number (.whole 2), .closeParen] := by
  decide

example : parse (tokens "=A1)+B1") = .ok (.cell "A1" .null, 1) ∧ (tokens "=A1)+B1").length = 5 :=
  ⟨rfl, rfl⟩

end FormulaSql.Parser
