import FormulaSql.Expr.Parser

/-!
# Fuel of the parser

Each call of the parser uses up one unit of fuel. Two facts make the fuel invisible.

* **More fuel keeps a finished answer** (`moreFuel`): a run that did not run out of fuel gives the same answer with more.
* **`enough` is enough** (`suffices_run`): over tokens that end with the finishing token, a run that starts before the end
  with sixteen units for each token that is left does not run out of fuel; it moves on, and at most one position behind
  the finishing token. Once that token is current, no loop goes on and no operand is looked for behind it.

Together they say that `parse` gives exactly what some amount of fuel gives (`parse_eq_of_level`), and that over tokens in
any order, the finishing one last, it ends with a tree inside the tokens (`parse_within`).
-/

namespace FormulaSql.Parser

/-! ## One call -/

section Steps

variable (tokens : Array Token) (n : Nat)

theorem level_succ (rank : Rank) (pos : Nat) :
    level tokens (n + 1) rank pos = operand tokens n rank pos >>= fun r => chain tokens n rank r.1 r.2 := rfl

theorem operand_succ (rank : Rank) (pos : Nat) :
    operand tokens (n + 1) rank pos =
      match rank.tighter with
      | some rank => level tokens n rank pos
      | none => power tokens n pos := rfl

theorem chain_succ (rank : Rank) (left : Expr) (pos : Nat) :
    chain tokens (n + 1) rank left pos = operatorAt tokens rank.symbols pos >>= fun
      | none => .ok (left, pos)
      | some s => operand tokens n rank (pos + 1) >>= fun r => chain tokens n rank (.binary s left r.1) r.2 := rfl

theorem power_succ (pos : Nat) :
    power tokens (n + 1) pos = unary tokens n pos >>= fun l => operatorAt tokens ["^"] l.2 >>= fun
      | none => .ok (l.1, l.2)
      | some s => power tokens n (l.2 + 1) >>= fun r => .ok (.binary s l.1 r.1, r.2) := rfl

theorem unary_succ (pos : Nat) :
    unary tokens (n + 1) pos = operatorAt tokens ["-", "+"] pos >>= fun
      | none => primary tokens n pos
      | some s => unary tokens n (pos + 1) >>= fun r => .ok (.unary s r.1, r.2) := rfl

theorem primary_succ (pos : Nat) :
    primary tokens (n + 1) pos = lexemeAt tokens pos >>= fun
      | .number value => .ok (.number value, pos + 1)
      | .text value => .ok (.text value, pos + 1)
      | .sheet name => reference tokens n (Lexeme.sheet name).value (pos + 1)
      | _ => reference tokens n .null pos := rfl

theorem reference_succ (sheet : Datum) (pos : Nat) :
    reference tokens (n + 1) sheet pos = lexemeAt tokens pos >>= fun
      | .cell name => .ok (.cell name sheet, pos + 1)
      | .range name => .ok (.range name sheet, pos + 1)
      | .table parts => match tableExpr parts with
        | .ok e => .ok (e, pos + 1)
        | .error fault => .error ⟨fault, pos + 1⟩
      | .function _ => call tokens n pos
      | .openParen => level tokens n .comparison (pos + 1) >>= fun r => lexemeAt tokens r.2 >>= fun
        | .closeParen => .ok (r.1, r.2 + 1)
        | _ => .ok (r.1, r.2)
      | _ => .ok (.missing, pos + 1) := rfl

theorem call_succ (pos : Nat) :
    call tokens (n + 1) pos = lexemeAt tokens pos >>= fun l => lexemeAt tokens (pos + 1) >>= fun
      | .openParen => arguments tokens n (pos + 2) >>= fun r => .ok (.call l.value r.1, r.2)
      | _ => .ok (.call l.value [], pos + 1) := rfl

/-- Where the next argument starts: behind a comma, if there is one. -/
def behindComma (pos : Nat) : Lexeme → Nat
  | .comma => pos + 1
  | _ => pos

theorem behindComma_of_ne {l : Lexeme} (h : l ≠ .comma) (pos : Nat) : behindComma pos l = pos := by
  cases l with
  | comma => exact absurd rfl h
  | _ => rfl

theorem le_behindComma (pos : Nat) (l : Lexeme) : pos ≤ behindComma pos l := by
  cases l with
  | comma => exact Nat.le_succ pos
  | _ => exact Nat.le_refl pos

theorem arguments_succ (pos : Nat) :
    arguments tokens (n + 1) pos = lexemeAt tokens pos >>= fun
      | .closeParen => .ok ([], pos + 1)
      | .finish => .ok ([], pos)
      | _ => level tokens n .comparison pos >>= fun a => lexemeAt tokens a.2 >>= fun l =>
        arguments tokens n (behindComma a.2 l) >>= fun r => .ok (a.1 :: r.1, r.2) := rfl

end Steps

/-! ## More fuel -/

section More

variable {α β : Type}

/-- `y` is the answer `x`, unless `x` ran out of fuel. -/
def Grows (x y : Except Failure α) : Prop :=
  (∃ p, x = .error ⟨.endless, p⟩) ∨ y = x

theorem Grows.refl (x : Except Failure α) : Grows x x := .inr rfl

theorem Grows.bind {x y : Except Failure α} {f g : α → Except Failure β} (h : Grows x y) (hf : ∀ a, Grows (f a) (g a)) :
    Grows (x >>= f) (y >>= g) := by
  rcases h with ⟨p, rfl⟩ | rfl
  · exact .inl ⟨p, rfl⟩
  · cases y with
    | error e => exact .refl _
    | ok a => exact hf a

theorem Grows.trans {x y z : Except Failure α} (h : Grows x y) (h' : Grows y z) : Grows x z := by
  rcases h with h | rfl
  · exact .inl h
  · exact h'

/-- With one more unit of fuel every function of the parser gives what it gave before. -/
structure MoreFuel (tokens : Array Token) (n : Nat) : Prop where
  level : ∀ rank pos, Grows (level tokens n rank pos) (level tokens (n + 1) rank pos)
  operand : ∀ rank pos, Grows (operand tokens n rank pos) (operand tokens (n + 1) rank pos)
  chain : ∀ rank left pos, Grows (chain tokens n rank left pos) (chain tokens (n + 1) rank left pos)
  power : ∀ pos, Grows (power tokens n pos) (power tokens (n + 1) pos)
  unary : ∀ pos, Grows (unary tokens n pos) (unary tokens (n + 1) pos)
  primary : ∀ pos, Grows (primary tokens n pos) (primary tokens (n + 1) pos)
  reference : ∀ sheet pos, Grows (reference tokens n sheet pos) (reference tokens (n + 1) sheet pos)
  call : ∀ pos, Grows (call tokens n pos) (call tokens (n + 1) pos)
  arguments : ∀ pos, Grows (arguments tokens n pos) (arguments tokens (n + 1) pos)

theorem moreFuel_succ {tokens : Array Token} {n : Nat} (ih : MoreFuel tokens n) : MoreFuel tokens (n + 1) where
  level rank pos := by
    rw [level_succ, level_succ]
    exact (ih.operand rank pos).bind fun r => ih.chain rank r.1 r.2
  operand rank pos := by
    rw [operand_succ, operand_succ]
    cases rank.tighter with
    | none => exact ih.power pos
    | some rank => exact ih.level rank pos
  chain rank left pos := by
    rw [chain_succ, chain_succ]
    refine (Grows.refl _).bind fun
      | none => .refl _
      | some s => ?_
    exact (ih.operand rank (pos + 1)).bind fun r => ih.chain rank (.binary s left r.1) r.2
  power pos := by
    rw [power_succ, power_succ]
    refine (ih.unary pos).bind fun l => (Grows.refl _).bind fun
      | none => .refl _
      | some s => ?_
    exact (ih.power (l.2 + 1)).bind fun r => .refl _
  unary pos := by
    rw [unary_succ, unary_succ]
    refine (Grows.refl _).bind fun
      | none => ih.primary pos
      | some s => ?_
    exact (ih.unary (pos + 1)).bind fun r => .refl _
  primary pos := by
    rw [primary_succ, primary_succ]
    refine (Grows.refl _).bind fun l => ?_
    cases l with
    | number | text => exact .refl _
    | sheet name => exact ih.reference _ (pos + 1)
    | _ => exact ih.reference .null pos
  reference sheet pos := by
    rw [reference_succ, reference_succ]
    refine (Grows.refl _).bind fun l => ?_
    cases l with
    | function => exact ih.call pos
    | openParen => exact (ih.level .comparison (pos + 1)).bind fun r => .refl _
    | _ => exact .refl _
  call pos := by
    rw [call_succ, call_succ]
    refine (Grows.refl _).bind fun l => (Grows.refl _).bind fun l' => ?_
    cases l' with
    | openParen => exact (ih.arguments (pos + 2)).bind fun r => .refl _
    | _ => exact .refl _
  arguments pos := by
    rw [arguments_succ, arguments_succ]
    refine (Grows.refl _).bind fun l => ?_
    have next : Grows
        (level tokens n .comparison pos >>= fun a => lexemeAt tokens a.2 >>= fun l =>
          arguments tokens n (behindComma a.2 l) >>= fun r => .ok (a.1 :: r.1, r.2))
        (level tokens (n + 1) .comparison pos >>= fun a => lexemeAt tokens a.2 >>= fun l =>
          arguments tokens (n + 1) (behindComma a.2 l) >>= fun r => .ok (a.1 :: r.1, r.2)) :=
      (ih.level .comparison pos).bind fun a => (Grows.refl _).bind fun l =>
        (ih.arguments (behindComma a.2 l)).bind fun r => .refl _
    cases l with
    | closeParen | finish => exact .refl _
    | _ => exact next

/-- **More fuel keeps a finished answer**, by one unit. -/
theorem moreFuel (tokens : Array Token) : ∀ n, MoreFuel tokens n
  | 0 => by constructor <;> (intros; exact .inl ⟨_, rfl⟩)
  | n + 1 => moreFuel_succ (moreFuel tokens n)

/-- From one unit to any number. -/
theorem grows_le {f : Nat → Except Failure α} (h : ∀ n, Grows (f n) (f (n + 1))) {n m : Nat} (hnm : n ≤ m) :
    Grows (f n) (f m) := by
  induction hnm with
  | refl => exact .refl _
  | step _ ih => exact ih.trans (h _)

end More

/-! ## Outcomes -/

section Outcomes

variable {α β : Type}

/-- Every answer satisfies `P` and every fault `E`. -/
def Meets (P : α → Prop) (E : Fault → Prop) : Except Failure α → Prop
  | .ok a => P a
  | .error e => E e.fault

theorem Meets.bind {P : α → Prop} {Q : β → Prop} {E : Fault → Prop} {x : Except Failure α} {f : α → Except Failure β}
    (h : Meets P E x) (hf : ∀ a, P a → Meets Q E (f a)) : Meets Q E (x >>= f) := by
  cases x with
  | error e => exact h
  | ok a => exact hf a h

theorem Meets.imp {P Q : α → Prop} {E : Fault → Prop} {x : Except Failure α} (h : Meets P E x) (hPQ : ∀ a, P a → Q a) :
    Meets Q E x := by
  cases x with
  | error e => exact h
  | ok a => exact hPQ a h

end Outcomes

/-! ## Tokens that end -/

section Ending

variable {tokens : Array Token}

/-- The last token is the finishing one. -/
def Ends (tokens : Array Token) : Prop :=
  ∃ p, tokens.back? = some ⟨.finish, p⟩

theorem ends_append (ts : List Token) (p : Nat) : Ends (ts ++ [(⟨.finish, p⟩ : Token)]).toArray :=
  ⟨p, by simp⟩

/-- A lexeme that is seen at a position: at the last token and behind it, the finishing one. -/
def Seen (tokens : Array Token) (pos : Nat) (l : Lexeme) : Prop :=
  (∃ t ∈ tokens, t.lexeme = l) ∧ (tokens.size ≤ pos + 1 → l = .finish)

/-- Any other lexeme stands before the finishing token. -/
theorem Seen.lt {pos : Nat} {l : Lexeme} (h : Seen tokens pos l) (hl : l ≠ .finish) : pos + 1 < tokens.size :=
  Nat.lt_of_not_le fun hle => hl (h.2 hle)

theorem lexemeAt_seen (h : Ends tokens) (E : Fault → Prop) (pos : Nat) :
    Meets (Seen tokens pos) E (lexemeAt tokens pos) := by
  obtain ⟨p, hp⟩ := h
  have hlast : (⟨.finish, p⟩ : Token) ∈ tokens := Array.mem_of_back? hp
  have hget : tokens[tokens.size - 1]? = some ⟨.finish, p⟩ := by rw [← Array.back?_eq_getElem?]; exact hp
  unfold lexemeAt tokenAt
  cases ht : tokens[pos]? with
  | none =>
    rw [Option.none_or, hp]
    exact ⟨⟨_, hlast, rfl⟩, fun _ => rfl⟩
  | some t =>
    refine ⟨⟨t, Array.mem_of_getElem? ht, rfl⟩, fun hpos => ?_⟩
    have hlt : pos < tokens.size := (Array.getElem?_eq_some_iff.1 ht).1
    rw [show tokens.size - 1 = pos by omega, ht] at hget
    cases hget; rfl

/-- An operator stands before the finishing token. -/
theorem operatorAt_before (h : Ends tokens) (E : Fault → Prop) (symbols : List String) (pos : Nat) :
    Meets (fun o => ∀ s, o = some s → pos + 1 < tokens.size ∧ s ∈ symbols) E (operatorAt tokens symbols pos) := by
  unfold operatorAt
  refine (lexemeAt_seen h E pos).bind fun l hl => ?_
  cases l with
  | operator s =>
    show ∀ s', (if symbols.contains s then some s else none) = some s' → _
    intro s' hs'
    split at hs'
    · rename_i hc
      cases hs'
      exact ⟨hl.lt (by simp), by simpa using hc⟩
    · cases hs'
  | _ => intro s hs; cases hs

/-- How far a run may get that takes a token: on, and at most one position behind the finishing token. -/
def Moved {α : Type} (tokens : Array Token) (pos : Nat) (r : α × Nat) : Prop :=
  pos < r.2 ∧ r.2 ≤ tokens.size

/-- The same for a run that may take no token. -/
def Kept {α : Type} (tokens : Array Token) (pos : Nat) (r : α × Nat) : Prop :=
  pos ≤ r.2 ∧ r.2 ≤ tokens.size

/-- The number of ranks that are tighter than a rank. -/
def height : Rank → Nat
  | .comparison => 3
  | .concat => 2
  | .sum => 1
  | .product => 0

/-- With `n` units of fuel every function of the parser keeps the bounds wherever the tokens that are left need no more.
The constants count the calls between a function and the next one that takes a token. -/
structure Suffices (tokens : Array Token) (E : Fault → Prop) (n : Nat) : Prop where
  level : ∀ rank pos, pos < tokens.size → 16 * (tokens.size - pos) + 2 * height rank ≤ n + 10 →
    Meets (Moved tokens pos) E (level tokens n rank pos)
  operand : ∀ rank pos, pos < tokens.size → 16 * (tokens.size - pos) + 2 * height rank ≤ n + 11 →
    Meets (Moved tokens pos) E (operand tokens n rank pos)
  chain : ∀ rank left pos, pos ≤ tokens.size → 16 * (tokens.size - pos) + 1 ≤ n →
    Meets (Kept tokens pos) E (chain tokens n rank left pos)
  power : ∀ pos, pos < tokens.size → 16 * (tokens.size - pos) ≤ n + 12 →
    Meets (Moved tokens pos) E (power tokens n pos)
  unary : ∀ pos, pos < tokens.size → 16 * (tokens.size - pos) ≤ n + 13 →
    Meets (Moved tokens pos) E (unary tokens n pos)
  primary : ∀ pos, pos < tokens.size → 16 * (tokens.size - pos) ≤ n + 14 →
    Meets (Moved tokens pos) E (primary tokens n pos)
  reference : ∀ sheet pos, pos < tokens.size → 16 * (tokens.size - pos) ≤ n + 15 →
    Meets (Moved tokens pos) E (reference tokens n sheet pos)
  call : ∀ pos, pos + 1 < tokens.size → 16 * (tokens.size - pos) ≤ n + 16 →
    Meets (Moved tokens pos) E (call tokens n pos)
  arguments : ∀ pos, pos ≤ tokens.size → 16 * (tokens.size - pos) + 1 ≤ n →
    Meets (Kept tokens pos) E (arguments tokens n pos)

variable {E : Fault → Prop} {n : Nat}

theorem suffices_level (ih : Suffices tokens E n) {rank : Rank} {pos : Nat} (hpos : pos < tokens.size)
    (hn : 16 * (tokens.size - pos) + 2 * height rank ≤ n + 11) :
    Meets (Moved tokens pos) E (level tokens (n + 1) rank pos) := by
  rw [level_succ]
  refine (ih.operand rank pos hpos hn).bind fun r hr => ?_
  exact (ih.chain rank r.1 r.2 hr.2 (by have := hr.1; omega)).imp fun q hq => ⟨by have := hr.1; have := hq.1; omega, hq.2⟩

theorem suffices_operand (ih : Suffices tokens E n) {rank : Rank} {pos : Nat} (hpos : pos < tokens.size)
    (hn : 16 * (tokens.size - pos) + 2 * height rank ≤ n + 12) :
    Meets (Moved tokens pos) E (operand tokens (n + 1) rank pos) := by
  rw [operand_succ]
  cases rank with
  | product => exact ih.power pos hpos (by simpa [height] using hn)
  | comparison | concat | sum => exact ih.level _ pos hpos (by simp [height] at hn ⊢; omega)

theorem suffices_chain (h : Ends tokens) (ih : Suffices tokens E n) {rank : Rank} {left : Expr} {pos : Nat}
    (hpos : pos ≤ tokens.size) (hn : 16 * (tokens.size - pos) + 1 ≤ n + 1) :
    Meets (Kept tokens pos) E (chain tokens (n + 1) rank left pos) := by
  rw [chain_succ]
  refine (operatorAt_before h E rank.symbols pos).bind fun o ho => ?_
  cases o with
  | none => exact ⟨Nat.le_refl pos, hpos⟩
  | some s =>
    have hs := (ho s rfl).1
    have hrank : height rank ≤ 3 := by cases rank <;> decide
    refine (ih.operand rank (pos + 1) hs (by omega)).bind fun r hr => ?_
    have hr1 := hr.1
    exact (ih.chain rank _ r.2 hr.2 (by omega)).imp fun q hq => ⟨by have := hq.1; omega, hq.2⟩

theorem suffices_power (h : Ends tokens) (ih : Suffices tokens E n) {pos : Nat} (hpos : pos < tokens.size)
    (hn : 16 * (tokens.size - pos) ≤ n + 13) : Meets (Moved tokens pos) E (power tokens (n + 1) pos) := by
  rw [power_succ]
  refine (ih.unary pos hpos hn).bind fun l hl => (operatorAt_before h E _ l.2).bind fun o ho => ?_
  cases o with
  | none => exact hl
  | some s =>
    have hs := (ho s rfl).1
    have hl1 := hl.1
    refine (ih.power (l.2 + 1) hs (by omega)).bind fun r hr => ?_
    exact ⟨by have := hr.1; show pos < r.2; omega, hr.2⟩

theorem suffices_unary (h : Ends tokens) (ih : Suffices tokens E n) {pos : Nat} (hpos : pos < tokens.size)
    (hn : 16 * (tokens.size - pos) ≤ n + 14) : Meets (Moved tokens pos) E (unary tokens (n + 1) pos) := by
  rw [unary_succ]
  refine (operatorAt_before h E _ pos).bind fun o ho => ?_
  cases o with
  | none => exact ih.primary pos hpos hn
  | some s =>
    have hs := (ho s rfl).1
    refine (ih.unary (pos + 1) hs (by omega)).bind fun r hr => ?_
    exact ⟨by have := hr.1; show pos < r.2; omega, hr.2⟩

theorem suffices_primary (h : Ends tokens) (ih : Suffices tokens E n) {pos : Nat} (hpos : pos < tokens.size)
    (hn : 16 * (tokens.size - pos) ≤ n + 15) : Meets (Moved tokens pos) E (primary tokens (n + 1) pos) := by
  rw [primary_succ]
  refine (lexemeAt_seen h E pos).bind fun l hl => ?_
  cases l with
  | number | text => exact ⟨Nat.lt_succ_self pos, hpos⟩
  | sheet name =>
    have hlt := hl.lt (by simp)
    exact (ih.reference _ (pos + 1) hlt (by omega)).imp fun r hr => ⟨by have := hr.1; omega, hr.2⟩
  | _ => exact ih.reference .null pos hpos hn

theorem suffices_reference (h : Ends tokens)
    (hE : ∀ parts fault, (∃ t ∈ tokens, t.lexeme = .table parts) → tableExpr parts = .error fault → E fault)
    (ih : Suffices tokens E n) {sheet : Datum} {pos : Nat} (hpos : pos < tokens.size)
    (hn : 16 * (tokens.size - pos) ≤ n + 16) : Meets (Moved tokens pos) E (reference tokens (n + 1) sheet pos) := by
  rw [reference_succ]
  refine (lexemeAt_seen h E pos).bind fun l hl => ?_
  cases l with
  | function => exact ih.call pos (hl.lt (by simp)) hn
  | openParen =>
    have hlt := hl.lt (by simp)
    refine (ih.level .comparison (pos + 1) hlt (by simp [height]; omega)).bind fun r hr => ?_
    have hr1 := hr.1
    refine (lexemeAt_seen h E r.2).bind fun l' hl' => ?_
    cases l' with
    | closeParen => exact ⟨by show pos < r.2 + 1; omega, Nat.le_of_lt (hl'.lt (by simp))⟩
    | _ => exact ⟨by show pos < r.2; omega, hr.2⟩
  | table parts =>
    dsimp only
    cases ht : tableExpr parts with
    | ok e => exact ⟨Nat.lt_succ_self pos, hpos⟩
    | error fault => exact hE parts fault hl.1 ht
  | _ => exact ⟨Nat.lt_succ_self pos, hpos⟩

theorem suffices_call (h : Ends tokens) (ih : Suffices tokens E n) {pos : Nat} (hpos : pos + 1 < tokens.size)
    (hn : 16 * (tokens.size - pos) ≤ n + 17) : Meets (Moved tokens pos) E (call tokens (n + 1) pos) := by
  rw [call_succ]
  refine (lexemeAt_seen h E pos).bind fun l _ => (lexemeAt_seen h E (pos + 1)).bind fun l' hl' => ?_
  cases l' with
  | openParen =>
    have hlt := hl'.lt (by simp)
    refine (ih.arguments (pos + 2) (by omega) (by omega)).bind fun r hr => ?_
    exact ⟨by have := hr.1; show pos < r.2; omega, hr.2⟩
  | _ => exact ⟨Nat.lt_succ_self pos, Nat.le_of_lt hpos⟩

theorem suffices_arguments (h : Ends tokens) (ih : Suffices tokens E n) {pos : Nat} (hpos : pos ≤ tokens.size)
    (hn : 16 * (tokens.size - pos) + 1 ≤ n + 1) : Meets (Kept tokens pos) E (arguments tokens (n + 1) pos) := by
  rw [arguments_succ]
  refine (lexemeAt_seen h E pos).bind fun l hl => ?_
  have next (hlt : pos + 1 < tokens.size) : Meets (Kept tokens pos) E
      (level tokens n .comparison pos >>= fun a => lexemeAt tokens a.2 >>= fun l =>
        arguments tokens n (behindComma a.2 l) >>= fun r => .ok (a.1 :: r.1, r.2)) := by
    refine (ih.level .comparison pos (by omega) (by simp [height]; omega)).bind fun a ha => ?_
    have ha1 := ha.1
    refine (lexemeAt_seen h E a.2).bind fun l hl => ?_
    have hc : a.2 ≤ behindComma a.2 l ∧ behindComma a.2 l ≤ tokens.size := by
      cases l with
      | comma => exact ⟨Nat.le_succ _, Nat.le_of_lt (hl.lt (by simp))⟩
      | _ => exact ⟨Nat.le_refl _, ha.2⟩
    refine (ih.arguments _ hc.2 (by omega)).bind fun r hr => ?_
    exact ⟨by have := hr.1; show pos ≤ r.2; omega, hr.2⟩
  cases l with
  | closeParen => exact ⟨Nat.le_succ pos, Nat.le_of_lt (hl.lt (by simp))⟩
  | finish => exact ⟨Nat.le_refl pos, hpos⟩
  | _ => exact next (hl.lt (by simp))

/-- **Enough fuel**: what every function needs by the tokens that are left. -/
theorem suffices_run (h : Ends tokens)
    (hE : ∀ parts fault, (∃ t ∈ tokens, t.lexeme = .table parts) → tableExpr parts = .error fault → E fault) :
    ∀ n, Suffices tokens E n
  | 0 => by constructor <;> (intros; omega)
  | n + 1 =>
    have ih := suffices_run h hE n
    { level := fun _ _ => suffices_level ih
      operand := fun _ _ => suffices_operand ih
      chain := fun _ _ _ => suffices_chain h ih
      power := fun _ => suffices_power h ih
      unary := fun _ => suffices_unary h ih
      primary := fun _ => suffices_primary h ih
      reference := fun _ _ => suffices_reference h hE ih
      call := fun _ => suffices_call h ih
      arguments := fun _ => suffices_arguments h ih }

/-- A whole parse stays in the bounds, and its faults are those of the table references. -/
theorem parse_meets {ts : List Token} (h : Ends ts.toArray)
    (hE : ∀ parts fault, (∃ t ∈ ts.toArray, t.lexeme = .table parts) → tableExpr parts = .error fault → E fault) :
    Meets (Moved ts.toArray 0) E (parse ts) := by
  have hpos : 0 < ts.toArray.size := by
    obtain ⟨p, hp⟩ := h
    exact Array.size_pos_of_mem (Array.mem_of_back? hp)
  exact (suffices_run h hE _).level .comparison 0 hpos (by simp [enough, height]; omega)

theorem tableExpr_ne_endless (parts : Option TableParts) : tableExpr parts ≠ .error .endless := by
  rcases parts with _ | ⟨_ | _, _ | _, _ | _⟩ <;> simp [tableExpr, part, bind, Except.bind, pure, Except.pure]

/-- **The fuel of `parse` does not show**: an answer that some amount of fuel gives is the answer of `parse`. -/
theorem parse_eq_of_level {ts : List Token} (h : Ends ts.toArray) {n : Nat} {r : Expr × Nat}
    (hr : level ts.toArray n .comparison 0 = .ok r) : parse ts = .ok r := by
  have hs : Meets (Moved ts.toArray 0) (· ≠ .endless) (parse ts) :=
    parse_meets h fun parts fault _ ht hf => tableExpr_ne_endless parts (hf ▸ ht)
  have hgrows {a b : Nat} (hab : a ≤ b) :
      Grows (level ts.toArray a .comparison 0) (level ts.toArray b .comparison 0) :=
    grows_le (fun k => (moreFuel ts.toArray k).level .comparison 0) hab
  have h₁ : level ts.toArray (max n (enough ts.toArray)) .comparison 0 = .ok r := by
    rcases hgrows (Nat.le_max_left n (enough ts.toArray)) with ⟨p, hp⟩ | he
    · rw [hp] at hr; cases hr
    · rw [he, hr]
  rcases hgrows (Nat.le_max_right n (enough ts.toArray)) with ⟨p, hp⟩ | he
  · rw [show parse ts = _ from hp] at hs
    exact absurd rfl hs
  · rw [← h₁, he]; rfl

/-- A table reference names its three parts; nothing is asked of other lexemes. -/
def HasParts : Lexeme → Prop
  | .table parts => ∃ table column whole, parts = some ⟨some table, some column, some whole⟩
  | _ => True

theorem tableExpr_of_hasParts {parts : Option TableParts} (h : HasParts (.table parts)) :
    ∃ e, tableExpr parts = .ok e := by
  obtain ⟨table, column, whole, rfl⟩ := h
  exact ⟨.table table column whole, rfl⟩

/-- **Parsing ends within the tokens.** Whatever stands before the finishing token, the parser returns a tree. It takes at
least one token, and the finishing one at most once. Any amount of fuel from `enough` on gives the same answer, so the
recursion ends by itself. -/
theorem parse_within {ts : List Token} (h : Ends ts.toArray) (ht : ∀ t ∈ ts, HasParts t.lexeme) :
    ∃ e pos, parse ts = .ok (e, pos) ∧ 1 ≤ pos ∧ pos ≤ ts.length ∧
      ∀ fuel, enough ts.toArray ≤ fuel → level ts.toArray fuel .comparison 0 = .ok (e, pos) := by
  have noFault : ∀ parts fault, (∃ t ∈ ts.toArray, t.lexeme = .table parts) → tableExpr parts = .error fault →
      False := by
    rintro parts fault ⟨t, hmem, hlex⟩ hfault
    have hparts := ht t (List.mem_toArray.1 hmem)
    rw [hlex] at hparts
    obtain ⟨e, he⟩ := tableExpr_of_hasParts hparts
    rw [he] at hfault
    cases hfault
  have hmeets := parse_meets h noFault
  cases hparse : parse ts with
  | error failure =>
    rw [hparse] at hmeets
    exact hmeets.elim
  | ok r =>
    rw [hparse] at hmeets
    obtain ⟨hfirst, hlast⟩ := hmeets
    refine ⟨r.1, r.2, rfl, hfirst, by simpa using hlast, fun fuel hfuel => ?_⟩
    have hlevel : level ts.toArray (enough ts.toArray) .comparison 0 = .ok r := hparse
    rcases grows_le (fun k => (moreFuel ts.toArray k).level .comparison 0) hfuel with ⟨p, hp⟩ | he
    · rw [hlevel] at hp
      cases hp
    · rw [he, hlevel]

/-- A call that is never closed, with a finishing token in its middle, behind a sheet without a name. -/
theorem parse_within_unclosed :
    let lexemes : List Lexeme := [.sheet none, .function "F", .openParen, .comma, .finish, .operator "^", .percent,
      .table (some ⟨some "T", some "[c]", some "T[c]"⟩), .openParen, .operator "-", .finish]
    let ts : List Token := lexemes.map (⟨·, 0⟩)
    Ends ts.toArray ∧ (∀ t ∈ ts, HasParts t.lexeme) ∧
      ∃ e pos, parse ts = .ok (e, pos) ∧ 1 ≤ pos ∧ pos ≤ ts.length := by
  intro lexemes ts
  have hends : Ends ts.toArray := ⟨0, rfl⟩
  have hparts : ∀ t ∈ ts, HasParts t.lexeme := by
    simp only [ts, lexemes, List.map_cons, List.map_nil, List.forall_mem_cons]
    simp [HasParts]
  obtain ⟨e, pos, hparse, hfirst, hlast, -⟩ := parse_within hends hparts
  exact ⟨hends, hparts, e, pos, hparse, hfirst, hlast⟩

end Ending

end FormulaSql.Parser
