import FormulaSql.Proofs.Parser.Derivations

/-!
# What a tree takes from its tokens

A token carries a kind and a value (`Payload`). The nodes of a tree carry payloads too; `Expr.payloads` lists them from
left to right, missing operands apart. **The payloads of a parsed tree are a sublist of those of the tokens it was parsed
from** (`parse_payloads`): whatever the tokens are, the parser invents nothing, takes nothing twice and keeps the order.

The induction is over derivations (`payloads_of_derives`). A chain of operators holds the tree so far, and a reference the
sheet before it (`Task.held`); both come from tokens that were taken before, so they stand in front of the tokens taken
since.
-/

namespace FormulaSql

/-! ## Payloads -/

/-- A kind of token and a value. -/
structure Payload where
  kind : String
  value : Datum

/-- What a lexeme carries. -/
def Lexeme.payload (l : Lexeme) : Payload :=
  ⟨l.kindName, l.value⟩

/-- The payload of a sheet, if there is one. -/
def sheetPayload : Datum → List Payload
  | .null => []
  | sheet => [⟨"SHEET_REF", sheet⟩]

mutual

/-- The payloads of a tree from left to right, without those of missing operands. -/
def Expr.payloads : Expr → List Payload
  | .number v => if v = .whole 0 then [] else [(Lexeme.number v).payload]
  | .text s => [⟨"STRING", s⟩]
  | .cell name sheet => sheetPayload sheet ++ [⟨"CELL_REF", name⟩]
  | .range name sheet => sheetPayload sheet ++ [⟨"RANGE_REF", name⟩]
  | .table name column whole => [⟨"TABLE_REF", .dict [("table", name), ("column", column), ("full", whole)]⟩]
  | .call name args => ⟨"FUNCTION", name⟩ :: Expr.payloadsAll args
  | .binary s l r => l.payloads ++ ⟨"OPERATOR", s⟩ :: r.payloads
  | .unary s e => ⟨"OPERATOR", s⟩ :: e.payloads
  | .blank => []

/-- The payloads of trees, one after the other. -/
def Expr.payloadsAll : List Expr → List Payload
  | [] => []
  | e :: es => e.payloads ++ Expr.payloadsAll es

end

theorem Expr.payloads_missing : Expr.missing.payloads = [] := rfl

theorem Expr.payloadsAll_singleton (e : Expr) : Expr.payloadsAll [e] = e.payloads := by
  rw [Expr.payloadsAll, Expr.payloadsAll, List.append_nil]

theorem payloads_number (v : Number) : (Expr.number v).payloads.Sublist [(Lexeme.number v).payload] := by
  rw [Expr.payloads]
  split
  · exact List.nil_sublist _
  · exact List.Sublist.refl _

theorem sheetPayload_value (name : Option String) :
    (sheetPayload (Lexeme.sheet name).value).Sublist [(Lexeme.sheet name).payload] := by
  cases name with
  | none => exact List.nil_sublist _
  | some s => exact List.Sublist.refl _

/-- A table reference has all its parts. -/
theorem payloads_table {parts : Option TableParts} {e : Expr} (h : Parser.tableExpr parts = .ok e) :
    e.payloads = [(Lexeme.table parts).payload] := by
  rcases parts with _ | ⟨_ | table, _ | column, _ | whole⟩ <;> cases h
  rfl

namespace Parser

/-! ## Taken tokens -/

section Taken

variable {tokens : Array Token} {pos mid stop : Nat} {l : Lexeme}

/-- The payloads of the tokens between two positions. -/
def taken (tokens : Array Token) (pos stop : Nat) : List Payload :=
  (tokens.extract pos stop).toList.map (·.lexeme.payload)

theorem taken_append (h : pos ≤ mid) (h' : mid ≤ stop) :
    taken tokens pos mid ++ taken tokens mid stop = taken tokens pos stop := by
  rw [taken, taken, ← List.map_append, ← Array.toList_append, Array.extract_append_extract, Nat.min_eq_left h,
    Nat.max_eq_right h']
  rfl

/-- A position that shows another lexeme than the finishing one holds it. -/
theorem taken_shows (hends : Ends tokens) (h : Shows tokens pos l) (hl : l ≠ .finish) :
    taken tokens pos (pos + 1) = [l.payload] := by
  have hlt : pos < tokens.size := by
    have hseen := lexemeAt_seen hends (fun _ => True) pos
    rw [h.eq] at hseen
    have := Seen.lt hseen hl
    omega
  have hshows := shows_of_getElem? (Array.getElem?_eq_getElem hlt)
  cases h.unique hshows
  rw [taken, Array.extract_succ_right (Nat.lt_succ_self pos) hlt, Array.toList_push, List.map_append]
  simp

theorem taken_cons (hends : Ends tokens) (h : Shows tokens pos l) (hl : l ≠ .finish) (hstop : pos + 1 ≤ stop) :
    taken tokens pos stop = l.payload :: taken tokens (pos + 1) stop := by
  rw [← taken_append (Nat.le_succ pos) hstop, taken_shows hends h hl]
  rfl

/-- Fewer tokens have fewer payloads. -/
theorem taken_sublist {pos' stop' : Nat} (h : pos' ≤ pos) (hmid : pos ≤ stop) (h' : stop ≤ stop') :
    (taken tokens pos stop).Sublist (taken tokens pos' stop') := by
  rw [← taken_append h (Nat.le_trans hmid h'), ← taken_append hmid h']
  exact (List.sublist_append_left _ _).trans (List.sublist_append_right _ _)

end Taken

/-! ## The invariant -/

/-- The payloads that a task holds before it takes a token: those of the tree so far, or of the sheet. -/
def Task.held : Task → List Payload
  | chain _ left => left.payloads
  | reference sheet => sheetPayload sheet
  | _ => []

/-- An operator between what is listed before it and its right operand. -/
theorem binary_sublist {tokens : Array Token} (hends : Ends tokens) {s : String} {left right : Expr} {mid stop : Nat}
    {before : List Payload} (hleft : left.payloads.Sublist before) (hop : Shows tokens mid (.operator s))
    (hle : mid + 1 ≤ stop) (hright : right.payloads.Sublist (taken tokens (mid + 1) stop)) :
    (Expr.binary s left right).payloads.Sublist (before ++ taken tokens mid stop) := by
  rw [Expr.payloads, taken_cons hends hop (by simp) hle]
  exact hleft.append (hright.cons_cons _)

/-- **Every derivation keeps the order**: the payloads of its trees are among those held before and those of the tokens
taken since. -/
theorem payloads_of_derives {tokens : Array Token} (hends : Ends tokens) {task : Task} {pos stop : Nat} {es : List Expr}
    (h : Derives tokens task pos es stop) : (Expr.payloadsAll es).Sublist (task.held ++ taken tokens pos stop) := by
  induction h with
  | @level rank e es pos mid stop hoperand hchain operand chain =>
    rw [Expr.payloadsAll_singleton] at operand
    refine chain.trans ?_
    show (e.payloads ++ taken tokens mid stop).Sublist (taken tokens pos stop)
    rw [← taken_append hoperand.le hchain.le]
    exact operand.append_right _
  | operandLevel _ _ ih | operandPower _ _ ih | powerStop _ _ ih | unsigned _ _ ih | noSheet _ _ _ ih => exact ih
  | @chainStop rank e pos _ =>
    rw [Expr.payloadsAll_singleton]
    exact List.sublist_append_left _ _
  | @chainNext rank s left right es pos mid stop hop _ hoperand hchain operand chain =>
    rw [Expr.payloadsAll_singleton] at operand
    have hbinary := binary_sublist hends (List.Sublist.refl left.payloads) hop hoperand.le operand
    refine chain.trans ?_
    show ((Expr.binary s left right).payloads ++ taken tokens mid stop).Sublist (left.payloads ++ taken tokens pos stop)
    rw [← taken_append (Nat.le_of_succ_le hoperand.le) hchain.le, ← List.append_assoc]
    exact hbinary.append_right _
  | @powerNext left right pos mid stop hunary hop hpower unary power =>
    rw [Expr.payloadsAll_singleton] at unary power ⊢
    show (Expr.binary "^" left right).payloads.Sublist (taken tokens pos stop)
    rw [← taken_append hunary.le (Nat.le_of_succ_le hpower.le)]
    exact binary_sublist hends unary hop hpower.le power
  | @sign s e pos stop hop _ hunary ih =>
    rw [Expr.payloadsAll_singleton] at ih ⊢
    show (⟨"OPERATOR", s⟩ :: e.payloads).Sublist (taken tokens pos stop)
    rw [taken_cons hends hop (by simp) hunary.le]
    exact ih.cons_cons _
  | @number v pos hl =>
    rw [Expr.payloadsAll_singleton, taken_shows hends hl (by simp)]
    exact payloads_number v
  | text hl | cell hl | range hl =>
    rw [Expr.payloadsAll_singleton, taken_shows hends hl (by simp)]
    exact List.Sublist.refl _
  | @sheet name es pos stop hl hreference ih =>
    refine ih.trans ?_
    show (sheetPayload (Lexeme.sheet name).value ++ taken tokens (pos + 1) stop).Sublist (taken tokens pos stop)
    rw [taken_cons hends hl (by simp) hreference.le]
    exact (sheetPayload_value name).append_right _
  | table hl he =>
    rw [Expr.payloadsAll_singleton, payloads_table he, taken_shows hends hl (by simp)]
    exact List.sublist_append_right _ _
  | @call name sheet args pos stop hl hopen harguments ih =>
    rw [Expr.payloadsAll_singleton, Expr.payloads, taken_cons hends hl (by simp) (Nat.le_of_succ_le harguments.le),
      taken_cons hends hopen (by simp) harguments.le]
    exact ((ih.cons _).cons_cons _).trans (List.sublist_append_right _ _)
  | name hl _ _ =>
    rw [Expr.payloadsAll_singleton, taken_shows hends hl (by simp)]
    exact List.sublist_append_right _ _
  | @group sheet e pos stop _ hinside _ ih =>
    have htaken := ih.trans (taken_sublist (Nat.le_succ pos) hinside.le (Nat.le_succ stop))
    exact htaken.trans (List.sublist_append_right _ _)
  | @openGroup sheet e l pos stop _ hinside _ _ ih =>
    have htaken := ih.trans (taken_sublist (Nat.le_succ pos) hinside.le (Nat.le_refl stop))
    exact htaken.trans (List.sublist_append_right _ _)
  | missing =>
    rw [Expr.payloadsAll_singleton, Expr.payloads_missing]
    exact List.nil_sublist _
  | argumentsClose | argumentsFinish => exact List.nil_sublist _
  | @argumentsNext l l' e es pos mid stop _ _ _ hargument _ hothers argument others =>
    rw [Expr.payloadsAll_singleton] at argument
    have hcomma := le_behindComma mid l'
    show (e.payloads ++ Expr.payloadsAll es).Sublist (taken tokens pos stop)
    rw [← taken_append hargument.le (Nat.le_trans hcomma hothers.le)]
    exact argument.append (others.trans (taken_sublist hcomma hothers.le (Nat.le_refl stop)))

end Parser

/-- **The parser invents nothing, takes nothing twice and keeps the order**: the payloads of a tree are a sublist of those
of the tokens that were taken for it. The tokens may be any, malformed or not, as long as the finishing one comes last. -/
theorem parse_payloads {ts : List Token} (h : Parser.Ends ts.toArray) {e : Expr} {pos : Nat}
    (hparse : Parser.parse ts = .ok (e, pos)) :
    e.payloads.Sublist ((ts.take pos).map (·.lexeme.payload)) := by
  have hpayloads := Parser.payloads_of_derives h (Parser.derives_of_parse hparse)
  rw [Expr.payloadsAll_singleton] at hpayloads
  have htaken : Parser.taken ts.toArray 0 pos = (ts.take pos).map (·.lexeme.payload) := by
    simp [Parser.taken]
  rw [← htaken]
  exact hpayloads

/-- In `-S!A1*)+F(7"x",,` missing operands take the place of the stray parenthesis and of the last comma. -/
theorem parse_payloads_malformed :
    let lexemes : List Lexeme := [.operator "-", .sheet (some "S"), .cell "A1", .operator "*", .closeParen,
      .operator "+", .function "F", .openParen, .number (.whole 7), .text "x", .comma, .comma, .finish]
    let ts : List Token := lexemes.map (⟨·, 0⟩)
    let tree : Expr := .binary "+" (.binary "*" (.unary "-" (.cell "A1" "S")) .missing)
      (.call "F" [.number (.whole 7), .text "x", .missing])
    Parser.Ends ts.toArray ∧ Parser.parse ts = .ok (tree, 12) ∧
      tree.payloads = [⟨"OPERATOR", "-"⟩, ⟨"SHEET_REF", "S"⟩, ⟨"CELL_REF", "A1"⟩, ⟨"OPERATOR", "*"⟩, ⟨"OPERATOR", "+"⟩,
        ⟨"FUNCTION", "F"⟩, ⟨"NUMBER", .whole 7⟩, ⟨"STRING", "x"⟩] ∧
      tree.payloads.Sublist ((ts.take 12).map (·.lexeme.payload)) := by
  intro lexemes ts tree
  have hends : Parser.Ends ts.toArray := ⟨0, rfl⟩
  have hparse : Parser.parse ts = .ok (tree, 12) := rfl
  exact ⟨hends, hparse, rfl, parse_payloads hends hparse⟩

end FormulaSql
