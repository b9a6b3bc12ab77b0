import FormulaSql.Proofs.Parser.Shape
import FormulaSql.Proofs.Token.Longest

/-!
# Function names are calls

The matcher for functions takes a name only if a parenthesis follows, and it moves on by the length of the name in upper
case, which is the length of the name in the text (`drop_function`). So the lexer stands at the parenthesis next, where
only the matcher for punctuation finds something. Hence **every function name of a formula is followed by its
parenthesis** (`called_tokensFrom`, by induction from one token to the next).

The parser has a branch for a name without a parenthesis. To say that no formula gets there, the branch is made a
parameter: `Functions.next` gives what the functions of the parser do with one unit of fuel more, and `alone` is what a
call does in that branch. With the branch of the parser these are the functions of the parser
(`functionsWith_nameAlone`). Where every name is followed by a parenthesis, all branches lead to the same answers, also
one that fails (`agreeInUse_functionsWith`, by induction over the fuel). The invariant is that a call is looked for at a
function name only; elsewhere the two sides may differ.
-/

namespace FormulaSql

/-! ## Tokens -/

/-- Every function name is followed by a parenthesis that stands right behind its characters. -/
def Called (ts : List Token) : Prop :=
  ∀ i name p, ts[i]? = some ⟨.function name, p⟩ → ts[i + 1]? = some ⟨.openParen, p + name.length⟩

/-- Behind a function name the lexer stands at its parenthesis. -/
theorem drop_function {cs : List Char} {f : Find} {name : String} (h : firstFind cs = some f)
    (hname : f.lexeme = .function name) : f.length = name.length ∧ ∃ r, cs.drop f.length = '(' :: r := by
  have hfind : findFunction cs = some f := find_of_firstFind (m := .function) h (by rw [hname]; rfl)
  obtain ⟨run, r, hrun, rfl⟩ := findFunction_iff.1 hfind
  obtain ⟨rfl, hisRun, -⟩ := longest_function.iff.1 hrun
  cases hname
  refine ⟨String.length_ofList.symm, r, ?_⟩
  rw [length_functionFind hisRun, List.drop_left]

/-- One token more in front. -/
theorem called_cons {t : Token} {ts : List Token} (hts : Called ts)
    (ht : ∀ name, t.lexeme = .function name → ts.head? = some ⟨.openParen, t.position + name.length⟩) :
    Called (t :: ts) := by
  intro i name p hi
  cases i with
  | zero =>
    cases Option.some.inj hi
    rw [List.getElem?_cons_succ, ← List.head?_eq_getElem?]
    exact ht name rfl
  | succ i => exact hts i name p hi

/-- **Every function name is followed by its parenthesis.** -/
theorem called_tokensFrom : ∀ (cs : List Char) (pos : Nat), Called (tokensFrom cs pos 0) := by
  refine cutting_induction ?nil ?skipped ?found
  case nil =>
    intro pos
    refine called_cons (fun i name p hi => ?_) fun name hname => ?_
    · cases hi
    · cases hname
  case skipped =>
    intro c cs pos hs ih
    rw [tokensFrom_skipped hs]
    exact ih
  case found =>
    intro c cs pos f hc hf ih
    rw [tokensFrom_found hc hf]
    refine called_cons ih fun name hname => ?_
    obtain ⟨hlength, r, hr⟩ := drop_function hf hname
    rw [hr, tokensFrom_openParen, hlength]
    rfl

namespace Parser

/-! ## The branch for a name alone -/

/-- What a call does where no parenthesis follows, given the value of its name and the position. -/
abbrev Branch :=
  Datum → Nat → Except Failure (Expr × Nat)

/-- The branch of the parser: a call without arguments. -/
def nameAlone : Branch :=
  fun name pos => .ok (.call name [], pos + 1)

/-- The functions of the parser. -/
structure Functions where
  level : Rank → Nat → Except Failure (Expr × Nat)
  operand : Rank → Nat → Except Failure (Expr × Nat)
  chain : Rank → Expr → Nat → Except Failure (Expr × Nat)
  power : Nat → Except Failure (Expr × Nat)
  unary : Nat → Except Failure (Expr × Nat)
  primary : Nat → Except Failure (Expr × Nat)
  reference : Datum → Nat → Except Failure (Expr × Nat)
  call : Nat → Except Failure (Expr × Nat)
  arguments : Nat → Except Failure (List Expr × Nat)

section Branches

variable (tokens : Array Token) (alone : Branch)

/-- The functions of the parser with `n` units of fuel. -/
def functions (n : Nat) : Functions :=
  ⟨level tokens n, operand tokens n, chain tokens n, power tokens n, unary tokens n, primary tokens n,
    reference tokens n, call tokens n, arguments tokens n⟩

/-- The functions that use those in `f` as the functions of the parser use each other. -/
def Functions.next (f : Functions) : Functions where
  level rank pos := f.operand rank pos >>= fun r => f.chain rank r.1 r.2
  operand rank pos :=
    match rank.tighter with
    | some rank => f.level rank pos
    | none => f.power pos
  chain rank left pos := operatorAt tokens rank.symbols pos >>= fun
    | none => .ok (left, pos)
    | some s => f.operand rank (pos + 1) >>= fun r => f.chain rank (.binary s left r.1) r.2
  power pos := f.unary pos >>= fun l => operatorAt tokens ["^"] l.2 >>= fun
    | none => .ok (l.1, l.2)
    | some s => f.power (l.2 + 1) >>= fun r => .ok (.binary s l.1 r.1, r.2)
  unary pos := operatorAt tokens ["-", "+"] pos >>= fun
    | none => f.primary pos
    | some s => f.unary (pos + 1) >>= fun r => .ok (.unary s r.1, r.2)
  primary pos := lexemeAt tokens pos >>= fun
    | .number value => .ok (.number value, pos + 1)
    | .text value => .ok (.text value, pos + 1)
    | .sheet name => f.reference (Lexeme.sheet name).value (pos + 1)
    | _ => f.reference .null pos
  reference sheet pos := lexemeAt tokens pos >>= fun
    | .cell name => .ok (.cell name sheet, pos + 1)
    | .range name => .ok (.range name sheet, pos + 1)
    | .table parts => match tableExpr parts with
      | .ok e => .ok (e, pos + 1)
      | .error fault => .error ⟨fault, pos + 1⟩
    | .function _ => f.call pos
    | .openParen => f.level .comparison (pos + 1) >>= fun r => lexemeAt tokens r.2 >>= fun
      | .closeParen => .ok (r.1, r.2 + 1)
      | _ => .ok (r.1, r.2)
    | _ => .ok (.missing, pos + 1)
  call pos := lexemeAt tokens pos >>= fun l => lexemeAt tokens (pos + 1) >>= fun
    | .openParen => f.arguments (pos + 2) >>= fun r => .ok (.call l.value r.1, r.2)
    | _ => alone l.value pos
  arguments pos := lexemeAt tokens pos >>= fun
    | .closeParen => .ok ([], pos + 1)
    | .finish => .ok ([], pos)
    | _ => f.level .comparison pos >>= fun a => lexemeAt tokens a.2 >>= fun l =>
      f.arguments (behindComma a.2 l) >>= fun r => .ok (a.1 :: r.1, r.2)

/-- The functions of the parser with `n` units of fuel and another branch for a name alone. -/
def functionsWith : Nat → Functions
  | 0 => functions tokens 0
  | n + 1 => (functionsWith n).next tokens alone

/-- **With the branch of the parser these are the functions of the parser**, over any tokens. -/
theorem functionsWith_nameAlone : ∀ n, functionsWith tokens nameAlone n = functions tokens n
  | 0 => rfl
  | n + 1 => by
    rw [functionsWith, functionsWith_nameAlone n]
    rfl

end Branches

/-- Parses an expression as `parse` does, with another branch for a name alone. -/
def parseWith (alone : Branch) (ts : List Token) : Except Failure (Expr × Nat) :=
  (functionsWith ts.toArray alone (enough ts.toArray)).level .comparison 0

theorem parseWith_nameAlone (ts : List Token) : parseWith nameAlone ts = parse ts := by
  rw [parseWith, functionsWith_nameAlone]
  rfl

-- tokens that were built by hand may hold a name alone, and then the branch decides
example : parseWith (fun _ pos => .error ⟨.noToken, pos⟩) [⟨.operator "-", 0⟩, ⟨.function "F", 1⟩, ⟨.finish, 2⟩] =
    .error ⟨.noToken, 1⟩ := rfl

/-! ## Names that are called -/

section Agreement

variable {tokens : Array Token} {f g : Functions}

/-- Every function name that is seen stands before a parenthesis. -/
def CallsOnly (tokens : Array Token) : Prop :=
  ∀ pos name, Shows tokens pos (.function name) → Shows tokens (pos + 1) .openParen

/-- Names that are called in a list of tokens, the finishing one last, are called wherever the parser looks. -/
theorem callsOnly_of_called {ts : List Token} (hends : Ends ts.toArray) (h : Called ts) : CallsOnly ts.toArray := by
  intro pos name hname
  -- behind the tokens only the finishing lexeme is seen, so the name is the lexeme of a token
  have hseen := lexemeAt_seen hends (fun _ => True) pos
  rw [hname.eq] at hseen
  have hlt : pos + 1 < ts.length := by simpa using hseen.lt (by simp)
  have hget : ts[pos]? = some ts[pos] := List.getElem?_eq_getElem (Nat.lt_of_succ_lt hlt)
  have hlexeme : ts[pos].lexeme = .function name := hname.lexeme_eq (by simp)
  have hnext := h pos name ts[pos].position (by rw [hget, ← hlexeme])
  exact shows_of_getElem? (t := ⟨.openParen, _⟩) (by rw [List.getElem?_toArray, hnext])

/-- A call goes into its parenthesis, whatever the branch for a name alone is. -/
theorem next_call (h : CallsOnly tokens) (alone : Branch) {pos : Nat} {name : String}
    (hname : Shows tokens pos (.function name)) :
    (f.next tokens alone).call pos = f.arguments (pos + 2) >>= fun r => .ok (.call name r.1, r.2) := by
  show lexemeAt tokens pos >>= _ = _
  rw [hname.eq]
  show lexemeAt tokens (pos + 1) >>= _ = _
  rw [(h pos name hname).eq]
  rfl

/-- Functions that agree wherever the parser uses them: a call is looked for at a function name only. -/
structure AgreeInUse (tokens : Array Token) (f g : Functions) : Prop where
  level : f.level = g.level
  operand : f.operand = g.operand
  chain : f.chain = g.chain
  power : f.power = g.power
  unary : f.unary = g.unary
  primary : f.primary = g.primary
  reference : f.reference = g.reference
  call : ∀ pos name, Shows tokens pos (.function name) → f.call pos = g.call pos
  arguments : f.arguments = g.arguments

theorem AgreeInUse.refl (f : Functions) : AgreeInUse tokens f f := by
  constructor <;> (intros; rfl)

theorem agreeInUse_next (h : CallsOnly tokens) (alone alone' : Branch) (hfg : AgreeInUse tokens f g) :
    AgreeInUse tokens (f.next tokens alone) (g.next tokens alone') where
  level := by simp only [Functions.next, hfg.operand, hfg.chain]
  operand := by simp only [Functions.next, hfg.level, hfg.power]
  chain := by simp only [Functions.next, hfg.operand, hfg.chain]
  power := by simp only [Functions.next, hfg.unary, hfg.power]
  unary := by simp only [Functions.next, hfg.primary, hfg.unary]
  primary := by simp only [Functions.next, hfg.reference]
  reference := by
    funext sheet pos
    simp only [Functions.next, hfg.level]
    cases hl : lexemeAt tokens pos with
    | error => rfl
    | ok l =>
      cases l with
      | function name => exact hfg.call pos name hl
      | _ => rfl
  call pos name hname := by
    rw [next_call h alone hname, next_call h alone' hname, hfg.arguments]
  arguments := by simp only [Functions.next, hfg.level, hfg.arguments]

/-- **Where every name is called, the branch for a name alone does not matter.** -/
theorem agreeInUse_functionsWith (h : CallsOnly tokens) (alone alone' : Branch) :
    ∀ n, AgreeInUse tokens (functionsWith tokens alone n) (functionsWith tokens alone' n)
  | 0 => .refl _
  | n + 1 => agreeInUse_next h alone alone' (agreeInUse_functionsWith h alone alone' n)

theorem parseWith_eq_parse {ts : List Token} (h : CallsOnly ts.toArray) (alone : Branch) :
    parseWith alone ts = parse ts := by
  rw [← parseWith_nameAlone]
  exact congrFun (congrFun (agreeInUse_functionsWith h alone nameAlone _).level _) _

end Agreement

/-- **Every function name of a formula is a call.** The token behind it is the parenthesis that stands right behind its
characters. Where the parser sees a function name, a call goes into that parenthesis; and whatever the parser did with a
name alone, also if it failed there, every formula would give the tree that it gives. -/
theorem tokens_called (s : String) :
    (∀ i name p, (tokens s)[i]? = some ⟨.function name, p⟩ →
      (tokens s)[i + 1]? = some ⟨.openParen, p + name.length⟩) ∧
    (∀ n pos name, Shows (tokens s).toArray pos (.function name) → call (tokens s).toArray (n + 1) pos =
      arguments (tokens s).toArray n (pos + 2) >>= fun r => .ok (.call name r.1, r.2)) ∧
    ∃ e pos, parse (tokens s) = .ok (e, pos) ∧ ∀ alone, parseWith alone (tokens s) = .ok (e, pos) := by
  have hcalled : Called (tokens s) := called_tokensFrom (formulaText s) 0
  have honly : CallsOnly (tokens s).toArray := callsOnly_of_called (ends_tokens s) hcalled
  obtain ⟨e, pos, hparse, -⟩ := parse_tokens_shaped s
  refine ⟨hcalled, fun n pos name hname => ?_, e, pos, hparse, fun alone => ?_⟩
  · exact next_call (f := functions (tokens s).toArray n) honly nameAlone hname
  · rw [parseWith_eq_parse honly, hparse]

/-- A call inside another, both not closed, with letters beyond ASCII in their names. -/
theorem tokens_called_nested :
    (tokens "=-ſum(İf.2(A1")[3]? = some ⟨.function "İF.2", 5⟩ ∧
    (tokens "=-ſum(İf.2(A1")[4]? = some ⟨.openParen, 9⟩ ∧
    (∀ n, call (tokens "=-ſum(İf.2(A1").toArray (n + 1) 3 =
      arguments (tokens "=-ſum(İf.2(A1").toArray n 5 >>= fun r => .ok (.call "İF.2" r.1, r.2)) ∧
    ∃ e pos, ∀ alone, parseWith alone (tokens "=-ſum(İf.2(A1") = .ok (e, pos) := by
  have hname : (tokens "=-ſum(İf.2(A1")[3]? = some ⟨.function "İF.2", 5⟩ := by decide
  have hshows : Shows (tokens "=-ſum(İf.2(A1").toArray 3 (.function "İF.2") :=
    shows_of_getElem? (t := ⟨.function "İF.2", 5⟩) (by rw [List.getElem?_toArray, hname])
  obtain ⟨hcalled, hcall, e, pos, -, halone⟩ := tokens_called "=-ſum(İf.2(A1"
  exact ⟨hname, hcalled 3 "İF.2" 5 hname, fun n => hcall n 3 "İF.2" hshows, e, pos, halone⟩

end Parser

end FormulaSql
