import FormulaSql.Proofs.Bench.Scaling
import FormulaSql.Proofs.Sql.Fragment

/-!
# Chains of cells

A chain is a cell and a row of links, each of them an operator of arithmetic and one more cell. It is followed link by
link through the three stages.

* A cell before an operator or the end is one token, and so is the operator (`cutsInto_chain`).
* Each link is grafted onto the tree so far: a product takes it into the last summand, a sum starts a new one
  (`graft`). The invariant is that the tree is a sum whose last summand is known (`SumOf`), because that is what the two
  loops of the parser hand over to each other. It gives a rendering of the whole chain (`renders_chain`).
* The SQL of a tree has the cells and operators of the tree in their order, with a pair of parentheses for each operator
  (`convert_inOrder`), and so its length is known (`Parenthesised.length_eq`).

**A chain of `n` cells has `2 * n` tokens, and its SQL has `10 * n - 5` characters** (`run_deepExpression`).
-/

namespace FormulaSql

open Text (isBlank isDigit isWord)

/-! ## Links -/

/-- The signs of arithmetic. -/
def signs : List Char :=
  ['+', '-', '*', '/']

/-- The operators of arithmetic, a sign each. -/
def arithmetic : List String :=
  ["+", "-", "*", "/"]

theorem toList_arithmetic {s : String} (hs : s ∈ arithmetic) : ∃ c ∈ signs, s.toList = [c] := by
  simp only [arithmetic, List.mem_cons, List.not_mem_nil, or_false] at hs
  rcases hs with rfl | rfl | rfl | rfl
  · exact ⟨'+', by decide, rfl⟩
  · exact ⟨'-', by decide, rfl⟩
  · exact ⟨'*', by decide, rfl⟩
  · exact ⟨'/', by decide, rfl⟩

theorem not_of_mem_signs {c : Char} (hc : c ∈ signs) : ¬ isWord c ∧ ¬ isDigit c ∧ ¬ isBlank c := by
  simp only [signs, List.mem_cons, List.not_mem_nil, or_false] at hc
  rcases hc with rfl | rfl | rfl | rfl <;> decide

/-- An operator and the cell behind it. -/
structure Link where
  symbol : String
  cell : String

namespace Link

/-- The operator is one of arithmetic, and the cell is spelled as one. -/
structure Sound (k : Link) : Prop where
  symbol : k.symbol ∈ arithmetic
  cell : IsCellText k.cell.toList

def chars (k : Link) : List Char :=
  k.symbol.toList ++ k.cell.toList

def lexemes (k : Link) : List Lexeme :=
  [.operator k.symbol, .cell k.cell]

end Link

/-- The lexemes of a chain. -/
def chainLexemes (first : String) (ks : List Link) : List Lexeme :=
  .cell first :: ks.flatMap Link.lexemes

theorem length_chainLexemes (first : String) (ks : List Link) : (chainLexemes first ks).length = 2 * ks.length + 1 := by
  induction ks with
  | nil => rfl
  | cons k ks ih =>
    simp only [chainLexemes, List.length_cons, List.flatMap_cons, List.length_append, Link.lexemes,
      List.length_nil] at ih ⊢
    omega

def Lexeme.cell? : Lexeme → Option String
  | .cell name => some name
  | _ => none

def Lexeme.operator? : Lexeme → Option String
  | .operator s => some s
  | _ => none

/-- The cells of a chain, in order. -/
theorem cells_chainLexemes (first : String) (ks : List Link) :
    (chainLexemes first ks).filterMap Lexeme.cell? = first :: ks.map Link.cell := by
  have hlinks : (ks.flatMap Link.lexemes).filterMap Lexeme.cell? = ks.map Link.cell := by
    induction ks with
    | nil => rfl
    | cons k ks ih => rw [List.flatMap_cons, List.filterMap_append, ih]; rfl
  rw [← hlinks]
  rfl

/-- The operators of a chain, in order. -/
theorem operators_chainLexemes (first : String) (ks : List Link) :
    (chainLexemes first ks).filterMap Lexeme.operator? = ks.map Link.symbol := by
  show (ks.flatMap Link.lexemes).filterMap Lexeme.operator? = _
  induction ks with
  | nil => rfl
  | cons k ks ih => rw [List.flatMap_cons, List.filterMap_append, ih]; rfl

/-! ## Cutting a chain -/

section Cutting

variable {cs r : List Char}

/-- What may follow a cell in a chain: an operator, or nothing. -/
def EndsCell (r : List Char) : Prop :=
  ∀ c ∈ r.head?, c ∈ signs

/-- A cell is made of dollar signs, capital letters and digits. -/
theorem IsCellText.mem (h : IsCellText cs) : ∀ c ∈ cs, c = '$' ∨ c.isUpper ∨ isDigit c := by
  obtain ⟨hd₁, -, hupper, hd₂, -, hdigit⟩ := h
  have hdollar {d : List Char} (hd : IsDollar d) : ∀ c ∈ d, c = '$' := by
    rcases hd with rfl | rfl
    · exact List.forall_mem_nil _
    · exact List.forall_mem_singleton.2 rfl
  intro c hc
  simp only [List.mem_append] at hc
  rcases hc with hc | hc | hc | hc
  · exact .inl (hdollar hd₁ c hc)
  · exact .inr (.inl (hupper c hc))
  · exact .inl (hdollar hd₂ c hc)
  · exact .inr (.inr (hdigit c hc))

theorem IsCellText.not_mem {m : Char} (h : IsCellText cs) (hm : m ≠ '$' ∧ ¬ m.isUpper ∧ ¬ isDigit m) : m ∉ cs := by
  intro hc
  rcases h.mem m hc with hd | hu | hn
  · exact hm.1 hd
  · exact hm.2.1 hu
  · exact hm.2.2 hn

theorem IsCellText.exists_cons (h : IsCellText cs) : ∃ c t, cs = c :: t := by
  obtain ⟨-, hletters, -⟩ := h
  exact List.exists_cons_of_ne_nil (by simp [hletters])

/-- No name in a chain stands before a mark that is neither in the cell nor behind it. -/
theorem takeName_cell_ne {m : Char} {name t : List Char} (h : IsCellText cs) (hr : EndsCell r)
    (hm : m ≠ '$' ∧ ¬ m.isUpper ∧ ¬ isDigit m) (hm' : m ∉ signs) :
    takeName? (cs ++ r) ≠ some (name, m :: t) := by
  intro htake
  obtain ⟨hsplit, -⟩ := takeName_append htake
  have hname := (isPlainName_of_takeName htake).forall_isWord
  rcases List.append_eq_append_iff.1 hsplit with ⟨x, rfl, rfl⟩ | ⟨x, rfl, hx⟩
  · cases x with
    | nil => exact hm' (hr m rfl)
    | cons c x => exact (not_of_mem_signs (hr c rfl)).1 (hname c (by simp))
  · cases x with
    | nil =>
      rw [List.nil_append] at hx
      exact hm' (hr m (by rw [← hx]; rfl))
    | cons c x =>
      obtain ⟨rfl, -⟩ := List.cons.inj hx
      exact h.not_mem hm (by simp)

/-- **A cell before an operator or the end is found whole.** -/
theorem firstFind_cellText (h : IsCellText cs) (hr : EndsCell r) :
    firstFind (cs ++ r) = some ⟨.cell (String.ofList cs), cs.length⟩ := by
  obtain ⟨c, t, hcs⟩ := h.exists_cons
  have hquote : c ≠ '"' := by
    rintro rfl
    exact h.not_mem (m := '"') (by decide) (by simp [hcs])
  have hsingle : c ≠ '\x27' := by
    rintro rfl
    exact h.not_mem (m := '\x27') (by decide) (by simp [hcs])
  have hdigit : ∀ d ∈ r.head?, ¬ isDigit d := fun d hd => (not_of_mem_signs (hr d hd)).2.1
  have htext : findText (cs ++ r) = none := by rw [hcs, List.cons_append, findText_other hquote]
  have htable : findTable (cs ++ r) = none := by
    rw [Option.eq_none_iff_forall_ne_some]
    intro f hf
    obtain ⟨name, u, hname, -⟩ := findTable_iff.1 hf
    exact takeName_cell_ne h hr (by decide) (by decide) hname
  have hsheet : findSheet (cs ++ r) = none := by
    rw [hcs, List.cons_append, findSheet_plain hsingle, ← List.cons_append, ← hcs, Option.eq_none_iff_forall_ne_some]
    intro f hf
    unfold findPlainSheet at hf
    split at hf
    · rename_i hname
      exact takeName_cell_ne h hr (by decide) (by decide) hname
    · cases hf
  have hcell : takeCell? (cs ++ r) = some (cs, r) := takeCell_iff.2 ⟨rfl, h, hdigit⟩
  have hrange : findRange (cs ++ r) = none := by
    rw [Option.eq_none_iff_forall_ne_some]
    intro f hf
    obtain ⟨first, u, last, rest, hfirst, -⟩ := findRange_iff.1 hf
    rw [hcell] at hfirst
    cases hfirst
    exact absurd (hr ':' rfl) (by decide)
  have hfound : findCell (cs ++ r) = some ⟨.cell (String.ofList cs), cs.length⟩ := by rw [findCell, hcell]; rfl
  simp only [firstFind, Matcher.order, List.findSome?_cons, Matcher.find, htext, htable, hsheet, hrange, hfound]

theorem cutAs_cell {name : String} (h : IsCellText name.toList) (hr : EndsCell r) :
    CutAs ⟨.cell name, name.toList.length⟩ name.toList r where
  found := by rw [firstFind_cellText h hr, String.ofList_toList]
  length_eq := rfl
  not_blank := fun c hc => longest_cell.not_isBlank h c (List.mem_of_mem_head? hc)

/-- An operator of arithmetic is cut in the same way whatever follows. -/
theorem cutAs_operator {s : String} (hs : s ∈ arithmetic) (r : List Char) : CutAs ⟨.operator s, 1⟩ s.toList r := by
  simp only [arithmetic, List.mem_cons, List.not_mem_nil, or_false] at hs
  rcases hs with rfl | rfl | rfl | rfl <;> exact cutAs_cons rfl rfl (by decide)

theorem endsCell_operator {s : String} (hs : s ∈ arithmetic) (r : List Char) : EndsCell (s.toList ++ r) := by
  obtain ⟨c, hc, hchars⟩ := toList_arithmetic hs
  rw [hchars]
  rintro _ ⟨⟩
  exact hc

/-- Where a cell ends, so does it before the links that follow. -/
theorem endsCell_links (hr : EndsCell r) {ks : List Link} (hks : ∀ k ∈ ks, k.Sound) :
    EndsCell (ks.flatMap Link.chars ++ r) := by
  cases ks with
  | nil => exact hr
  | cons k ks =>
    rw [List.flatMap_cons, Link.chars, List.append_assoc, List.append_assoc]
    exact endsCell_operator (hks k List.mem_cons_self).symbol _

theorem cutsInto_links (hr : EndsCell r) : ∀ {ks : List Link}, (∀ k ∈ ks, k.Sound) →
    CutsInto (ks.flatMap Link.chars) r (ks.flatMap Link.lexemes)
  | [], _ => fun pos => ⟨[], rfl, rfl⟩
  | k :: ks, hks => by
    obtain ⟨hk, hks⟩ := List.forall_mem_cons.1 hks
    have hoperator := cutAs_operator hk.symbol (k.cell.toList ++ (ks.flatMap Link.chars ++ r))
    have hcell := cutAs_cell hk.cell (endsCell_links hr hks)
    rw [List.flatMap_cons, List.flatMap_cons, Link.chars, List.append_assoc]
    show CutsInto _ r (.operator k.symbol :: .cell k.cell :: ks.flatMap Link.lexemes)
    refine .cons (f := ⟨.operator k.symbol, 1⟩) ?_ (.cons hcell (cutsInto_links hr hks))
    rwa [List.append_assoc]

/-- **A chain is cut into its cells and operators.** -/
theorem cutsInto_chain {first : String} (hfirst : IsCellText first.toList) {ks : List Link} (hks : ∀ k ∈ ks, k.Sound)
    (hr : EndsCell r) : CutsInto (first.toList ++ ks.flatMap Link.chars) r (chainLexemes first ks) :=
  .cons (cutAs_cell hfirst (endsCell_links hr hks)) (cutsInto_links hr hks)

/-- There is nothing to trim off a chain. -/
theorem formulaText_chain {s first : String} (hfirst : IsCellText first.toList) {ks : List Link}
    (hks : ∀ k ∈ ks, k.Sound) (hs : s.toList = first.toList ++ ks.flatMap Link.chars) :
    formulaText ("=" ++ s) = s.toList := by
  have hblank : ∀ c ∈ s.toList, ¬ isBlank c := by
    rw [hs]
    refine List.forall_mem_append.2 ⟨longest_cell.not_isBlank hfirst, fun c hc => ?_⟩
    obtain ⟨k, hk, hc⟩ := List.mem_flatMap.1 hc
    rcases List.mem_append.1 hc with hc | hc
    · obtain ⟨d, hd, hchars⟩ := toList_arithmetic (hks k hk).symbol
      rw [hchars, List.mem_singleton] at hc
      exact hc ▸ (not_of_mem_signs hd).2.2
    · exact longest_cell.not_isBlank (hks k hk).cell c hc
  refine formulaText_sign (fun c hc => ⟨?_, hblank c (List.mem_of_mem_head? hc)⟩) fun c hc =>
    hblank c (List.mem_of_mem_getLast? hc)
  rintro rfl
  obtain ⟨d, t, hd⟩ := hfirst.exists_cons
  rw [hs, hd] at hc
  obtain rfl : d = '=' := Option.some.inj hc
  exact hfirst.not_mem (m := '=') (by decide) (by simp [hd])

end Cutting

/-! ## Parsing a chain -/

section Parsing

open FormulaSql.Parser (Layer Renders)

/-- The tree with one more link. A factor goes to the last summand, everything else around the whole tree. -/
def graft (e : Expr) (k : Link) : Expr :=
  match e with
  | .binary s left right =>
    if k.symbol ∈ Layer.multiplication.joins ∧ s ∈ Layer.addition.joins then
      .binary s left (.binary k.symbol right (.cell k.cell .null))
    else .binary k.symbol e (.cell k.cell .null)
  | _ => .binary k.symbol e (.cell k.cell .null)

theorem graft_eq_binary {e : Expr} {k : Link}
    (h : ∀ s left right, e = .binary s left right →
      ¬ (k.symbol ∈ Layer.multiplication.joins ∧ s ∈ Layer.addition.joins)) :
    graft e k = .binary k.symbol e (.cell k.cell .null) := by
  unfold graft
  split
  · rw [if_neg (h _ _ _ rfl)]
  · rfl

/-- The tree of a chain. -/
def chainTree (first : String) (ks : List Link) : Expr :=
  ks.foldl graft (.cell first .null)

/-- What each link keeps of a tree and its lexemes is kept by all of them. -/
theorem foldl_graft {P : Expr → List Lexeme → Prop} : ∀ {ks : List Link} {e : Expr} {ls : List Lexeme},
    (∀ k ∈ ks, ∀ {e ls}, P e ls → P (graft e k) (ls ++ k.lexemes)) → P e ls →
      P (ks.foldl graft e) (ls ++ ks.flatMap Link.lexemes)
  | [], e, ls, _, h => by simpa using h
  | k :: ks, e, ls, hstep, h => by
    obtain ⟨hk, hks⟩ := List.forall_mem_cons.1 hstep
    rw [List.flatMap_cons, ← List.append_assoc]
    exact foldl_graft hks (hk h)

/-- The lexemes render a sum whose last summand is known, or a product that is no sum. -/
inductive SumOf : Expr → List Lexeme → Prop
  | product {e : Expr} {ls : List Lexeme} : Renders .multiplication e ls →
      (∀ s left right, e = .binary s left right → s ∉ Layer.addition.joins) → SumOf e ls
  | sum {s : String} {left right : Expr} {ls ls' : List Lexeme} : s ∈ Layer.addition.joins → Renders .addition left ls →
      Renders .multiplication right ls' → SumOf (.binary s left right) (ls ++ .operator s :: ls')

variable {e : Expr} {ls : List Lexeme}

theorem SumOf.renders (h : SumOf e ls) : Renders .addition e ls := by
  cases h with
  | product h _ => exact .inner h
  | sum hs hleft hright => exact .join hs hleft hright

/-- **One more link keeps the invariant.** -/
theorem SumOf.graft (h : SumOf e ls) {k : Link} (hk : k.Sound) : SumOf (graft e k) (ls ++ k.lexemes) := by
  have hcell (layer : Layer) : Renders layer (.cell k.cell .null) [.cell k.cell] :=
    Parser.renders_of_primary layer (.cell k.cell)
  by_cases hproduct : k.symbol ∈ Layer.multiplication.joins
  · have hsum : k.symbol ∉ Layer.addition.joins :=
      (by decide : ∀ s ∈ Layer.multiplication.joins, s ∉ Layer.addition.joins) _ hproduct
    cases h with
    | product h hno =>
      rw [graft_eq_binary fun s left right he hboth => hno s left right he hboth.2]
      refine .product (.join hproduct h (hcell _)) ?_
      rintro _ _ _ ⟨⟩
      exact hsum
    | sum hs hleft hright =>
      rw [FormulaSql.graft, if_pos ⟨hproduct, hs⟩, List.append_assoc]
      exact .sum hs hleft (.join hproduct hright (hcell _))
  · have hsum : k.symbol ∈ Layer.addition.joins :=
      (by decide : ∀ s ∈ arithmetic, s ∉ Layer.multiplication.joins → s ∈ Layer.addition.joins) _ hk.symbol hproduct
    rw [graft_eq_binary fun _ _ _ _ hboth => hproduct hboth.1]
    exact .sum hsum h.renders (hcell _)

/-- **The lexemes of a chain render its tree.** -/
theorem renders_chain (first : String) {ks : List Link} (hks : ∀ k ∈ ks, k.Sound) :
    Renders .addition (chainTree first ks) (chainLexemes first ks) := by
  have hfirst : SumOf (.cell first .null) [.cell first] := by
    refine .product (Parser.renders_of_primary _ (.cell first)) ?_
    rintro _ _ _ ⟨⟩
  exact (foldl_graft (P := SumOf) (fun k hk _ _ h => h.graft (hks k hk)) hfirst).renders

-- a factor goes into the last summand, and the next summand around the whole tree
example : chainTree "A1" [⟨"+", "B2"⟩, ⟨"*", "C3"⟩, ⟨"-", "D4"⟩] =
    .binary "-" (.binary "+" (.cell "A1" .null) (.binary "*" (.cell "B2" .null) (.cell "C3" .null)))
      (.cell "D4" .null) := by
  rfl

/-- A tree of cells and binary operators has these lexemes from left to right. -/
inductive InOrder : Expr → List Lexeme → Prop
  | cell (name : String) : InOrder (.cell name .null) [.cell name]
  | binary {s : String} {left right : Expr} {ls ls' : List Lexeme} : InOrder left ls → InOrder right ls' →
      InOrder (.binary s left right) (ls ++ .operator s :: ls')

/-- A link comes last, wherever it is grafted. -/
theorem InOrder.graft (h : InOrder e ls) (k : Link) : InOrder (graft e k) (ls ++ k.lexemes) := by
  cases h with
  | cell name => exact .binary (.cell name) (.cell k.cell)
  | binary hleft hright =>
    unfold FormulaSql.graft
    dsimp only
    split
    · rw [List.append_assoc]
      exact .binary hleft (.binary hright (.cell k.cell))
    · exact .binary (.binary hleft hright) (.cell k.cell)

/-- **The tree of a chain keeps every cell and every operator in its place.** -/
theorem inOrder_chain (first : String) (ks : List Link) : InOrder (chainTree first ks) (chainLexemes first ks) :=
  foldl_graft (P := InOrder) (fun k _ _ _ h => h.graft k) (.cell first)

end Parsing

/-! ## The SQL of a chain -/

section Writing

variable {column : String → String} {ls : List Lexeme} {sql : String}

/-- SQL that writes these cells as columns, and gives each of these operators a pair of parentheses of its own. -/
inductive Parenthesised (column : String → String) : List Lexeme → String → Prop
  | cell (name : String) : Parenthesised column [.cell name] (column name)
  | binary {s left right : String} {ls ls' : List Lexeme} : Parenthesised column ls left →
      Parenthesised column ls' right →
      Parenthesised column (ls ++ .operator s :: ls') ("(" ++ left ++ " " ++ s ++ " " ++ right ++ ")")

/-- With columns of five characters and operators of one, each lexeme counts five characters. -/
theorem Parenthesised.length_eq (h : Parenthesised column ls sql)
    (hcell : ∀ name, .cell name ∈ ls → (column name).length = 5)
    (hoperator : ∀ s, .operator s ∈ ls → s.length = 1) : sql.length = 5 * ls.length := by
  induction h with
  | cell name => exact hcell name List.mem_cons_self
  | binary hleft hright ihleft ihright =>
    rename_i s left right ls ls'
    have hs : s.length = 1 := hoperator s (by simp)
    have hl := ihleft (fun name hname => hcell name (by simp [hname])) fun s hs => hoperator s (by simp [hs])
    have hr := ihright (fun name hname => hcell name (by simp [hname])) fun s hs => hoperator s (by simp [hs])
    have hopen : "(".length = 1 := by decide
    have hclose : ")".length = 1 := by decide
    have hblank : " ".length = 1 := by decide
    simp only [String.length_append, hs, hl, hr, hopen, hclose, hblank, List.length_append, List.length_cons]
    omega

/-- Arithmetic is written as it stands, in parentheses. -/
theorem binary_arithmetic {s : String} (hs : s ∈ arithmetic) (left right : String) :
    Sql.binary s left right = "(" ++ left ++ " " ++ s ++ " " ++ right ++ ")" := by
  have hsame : Sql.operator s = s ∧ s ≠ "POWER" :=
    (by decide : ∀ s ∈ arithmetic, Sql.operator s = s ∧ s ≠ "POWER") s hs
  rw [Sql.binary, hsame.1, if_neg hsame.2]

/-- **The SQL of a tree of cells and arithmetic has each cell and each operator of the tree, in order.** -/
theorem convert_inOrder {names : Sql.Names} {current : Datum} {e : Expr} (h : InOrder e ls)
    (hoperator : ∀ s, .operator s ∈ ls → s ∈ arithmetic)
    (hcell : ∀ name, Sql.cell names current (.text name) .null = .ok (.text (column name))) :
    ∃ sql, Sql.convert names current e = .ok (.text sql) ∧ Parenthesised column ls sql := by
  induction h with
  | cell name => exact ⟨column name, by rw [Sql.convert]; exact hcell name, .cell name⟩
  | binary hleft hright ihleft ihright =>
    rename_i s left right ls ls'
    obtain ⟨a, ha, hpa⟩ := ihleft fun s hs => hoperator s (by simp [hs])
    obtain ⟨b, hb, hpb⟩ := ihright fun s hs => hoperator s (by simp [hs])
    refine ⟨_, ?_, .binary hpa hpb⟩
    rw [Sql.convert, ha, hb, ← binary_arithmetic (hoperator s (by simp))]
    rfl

end Writing

/-! ## The workload -/

namespace Bench.Workload

/-- The operator before the cell with a number. -/
def turn (i : Nat) : String :=
  ["+", "*", "-", "/"][i % 4]?.getD ""

/-- The links of a chain of `n + 1` cells. -/
def cellLinks (n : Nat) : List Link :=
  (List.range n).map fun i => ⟨turn (i + 1), cellName (i + 1)⟩

/-- The lexemes of a chain of `n + 1` cells. -/
def cellLexemes (n : Nat) : List Lexeme :=
  chainLexemes (cellName 0) (cellLinks n)

/-- The column of a cell in the corpus. -/
def cellColumn (name : String) : String :=
  (Sql.mapped corpusNames.columns (Sql.columnLetters name)).getD (Text.lower (Sql.columnLetters name))

theorem turn_mem (i : Nat) : turn i ∈ arithmetic := by
  have hall : ∀ k < 4, ["+", "*", "-", "/"][k]?.getD "" ∈ arithmetic := by decide
  exact hall (i % 4) (Nat.mod_lt i (by decide))

theorem toList_cellName (i : Nat) : (cellName i).toList = Char.ofNat (65 + i % 26) :: Nat.toDigits 10 (i % 50 + 1) := by
  rw [cellName, String.toList_append, toList_toString]
  simp

theorem isDigit_of_mem_toDigits {n : Nat} {c : Char} (hc : c ∈ Nat.toDigits 10 n) : isDigit c := by
  have hdigit := isDigit_toDigits n c hc
  exact Text.all_below (P := fun c => c.isDigit → isDigit c) (by decide) c (Text.ascii_of_isDigit hdigit) hdigit

/-- A letter and a row is a cell. -/
theorem isCellText_cellName (i : Nat) : IsCellText (cellName i).toList := by
  have hletter : (Char.ofNat (65 + i % 26)).isUpper :=
    (by decide : ∀ k < 26, (Char.ofNat (65 + k)).isUpper) _ (Nat.mod_lt i (by decide))
  rw [toList_cellName]
  exact .mk (.inl rfl) (List.cons_ne_nil _ []) (List.forall_mem_singleton.2 hletter) (.inl rfl)
    Nat.toDigits_ne_nil fun c => isDigit_of_mem_toDigits

theorem sound_cellLinks (n : Nat) : ∀ k ∈ cellLinks n, k.Sound := by
  intro k hk
  obtain ⟨i, -, rfl⟩ := List.mem_map.1 hk
  exact ⟨turn_mem (i + 1), isCellText_cellName (i + 1)⟩

/-- One more piece of a chain. -/
theorem chain_append (operators pieces : List String) (piece : String) :
    chain operators (pieces ++ [piece]) = chain operators pieces ++
      ((if pieces.length = 0 then "" else operators[pieces.length % operators.length]?.getD "") ++ piece) := by
  simp [chain, List.zipIdx_append]

/-- **The text of the workload is the chain of its links.** -/
theorem toList_cells (n : Nat) : (chain ["+", "*", "-", "/"] ((List.range (n + 1)).map cellName)).toList =
    (cellName 0).toList ++ (cellLinks n).flatMap Link.chars := by
  induction n with
  | zero => decide
  | succ n ih =>
    have hlinks : cellLinks (n + 1) = cellLinks n ++ [⟨turn (n + 1), cellName (n + 1)⟩] := by
      rw [cellLinks, List.range_succ, List.map_append]
      rfl
    rw [List.range_succ, List.map_append, List.map_singleton, chain_append, String.toList_append, ih, hlinks,
      List.flatMap_append, List.append_assoc]
    simp [Link.chars, turn]

example : cellChain 3 = "=A1*B2-C3" := by decide

theorem cutsInto_cellChain (n : Nat) : CutsInto (formulaText (cellChain (n + 1))) [] (cellLexemes n) := by
  rw [cellChain, formulaText_chain (isCellText_cellName 0) (sound_cellLinks n) (toList_cells n), toList_cells]
  exact cutsInto_chain (isCellText_cellName 0) (sound_cellLinks n) (by rintro _ ⟨⟩)

theorem cell_corpus (name : String) :
    Sql.cell corpusNames corpusSheet (.text name) .null = .ok (.text (cellColumn name)) := by
  show Sql.lookup corpusNames.columns (.text (Sql.columnLetters name)) _ >>= (fun column => Except.ok column) = _
  rw [Sql.lookup_text (by decide)]
  rfl

/-- The letters of the cells take turns, and so do their columns. -/
theorem cellColumn_cellName (i : Nat) : cellColumn (cellName i) = "col_" ++ (Char.ofNat (97 + i % 26)).toString := by
  have hlt : i % 26 < 26 := Nat.mod_lt i (by decide)
  have hkept : ∀ k < 26, !(Char.ofNat (65 + k) == '$' || isDigit (Char.ofNat (65 + k))) := by decide
  have hmapped : ∀ k < 26, Sql.mapped corpusNames.columns (Char.ofNat (65 + k)).toString =
      some ("col_" ++ (Char.ofNat (97 + k)).toString) := by decide
  have hdropped : (Nat.toDigits 10 (i % 50 + 1)).filter (fun c => !(c == '$' || isDigit c)) = [] :=
    List.filter_eq_nil_iff.2 fun c hc => by simp [isDigit_of_mem_toDigits hc]
  have hletters : Sql.columnLetters (cellName i) = (Char.ofNat (65 + i % 26)).toString := by
    rw [Sql.columnLetters, toList_cellName, List.filter_cons, if_pos (hkept _ hlt), hdropped]
    rfl
  rw [cellColumn, hletters, hmapped _ hlt]
  rfl

theorem cells_cellLexemes (n : Nat) : (cellLexemes n).filterMap Lexeme.cell? = (List.range (n + 1)).map cellName := by
  rw [cellLexemes, cells_chainLexemes, cellLinks, List.range_succ_eq_map, List.map_cons, List.map_map, List.map_map]
  rfl

theorem operators_cellLexemes (n : Nat) :
    (cellLexemes n).filterMap Lexeme.operator? = (List.range n).map fun i => turn (i + 1) := by
  rw [cellLexemes, operators_chainLexemes, cellLinks, List.map_map]
  rfl

theorem length_cellLexemes (n : Nat) : (cellLexemes n).length = 2 * n + 1 := by
  rw [cellLexemes, length_chainLexemes, cellLinks, List.length_map, List.length_range]

theorem exists_cellName {n : Nat} {name : String} (h : .cell name ∈ cellLexemes n) : ∃ i, name = cellName i := by
  have hname : name ∈ (cellLexemes n).filterMap Lexeme.cell? := List.mem_filterMap.2 ⟨_, h, rfl⟩
  rw [cells_cellLexemes] at hname
  obtain ⟨i, -, rfl⟩ := List.mem_map.1 hname
  exact ⟨i, rfl⟩

theorem arithmetic_of_mem {n : Nat} {s : String} (h : .operator s ∈ cellLexemes n) : s ∈ arithmetic := by
  have hs : s ∈ (cellLexemes n).filterMap Lexeme.operator? := List.mem_filterMap.2 ⟨_, h, rfl⟩
  rw [operators_cellLexemes] at hs
  obtain ⟨i, -, rfl⟩ := List.mem_map.1 hs
  exact turn_mem (i + 1)

theorem renders_cellChain (n : Nat) :
    Parser.Renders .addition (chainTree (cellName 0) (cellLinks n)) (cellLexemes n) :=
  renders_chain _ (sound_cellLinks n)

/-- The columns of the chain have five characters. -/
theorem length_cellColumn (i : Nat) : (cellColumn (cellName i)).length = 5 := by
  rw [cellColumn_cellName, String.length_append, (by decide : "col_".length = 4)]
  simp

/-- **The SQL of the workload.** -/
theorem convertFormula_cellChain (n : Nat) :
    ∃ sql, convertFormula (cellChain (n + 1) : String) corpusNames corpusSheet = .text sql ∧
      Parenthesised cellColumn (cellLexemes n) sql ∧ sql.length = 10 * n + 5 := by
  obtain ⟨sql, hsql, hshape⟩ :=
    convert_inOrder (inOrder_chain (cellName 0) (cellLinks n)) (fun s => arithmetic_of_mem) cell_corpus
  have hcell : ∀ name, .cell name ∈ cellLexemes n → (cellColumn name).length = 5 := by
    intro name hname
    obtain ⟨i, rfl⟩ := exists_cellName hname
    exact length_cellColumn i
  have hoperator : ∀ s, .operator s ∈ cellLexemes n → s.length = 1 := fun s hs =>
    (by decide : ∀ s ∈ arithmetic, s.length = 1) s (arithmetic_of_mem hs)
  have hlength : sql.length = 5 * (cellLexemes n).length := hshape.length_eq hcell hoperator
  rw [length_cellLexemes] at hlength
  refine ⟨sql, ?_, hshape, by omega⟩
  exact convertFormula_of_cutsInto (cutsInto_cellChain n) (.inner (.inner (renders_cellChain n))) hsql

/-- **The law of chains.** A workload of `n` cells counts `2 * n` tokens and `10 * n - 5` characters, and an empty one
counts one token and one character. The tokens are the cells and operators of the chain and the finishing one, the tree
holds each of them in its place, and the SQL has a column for each cell and a pair of parentheses for each operator. -/
theorem run_deepExpression (size : Int) :
    Workload.run .deepExpression size =
      .ok (.tuple (if 1 ≤ size then [.whole (2 * size), .whole (10 * size - 5)] else [.whole 1, .whole 1])) ∧
    ∀ n : Nat,
      (tokens (cellChain (n + 1))).map Token.lexeme = cellLexemes n ++ [.finish] ∧
      (cellLexemes n).filterMap Lexeme.cell? = (List.range (n + 1)).map cellName ∧
      (cellLexemes n).filterMap Lexeme.operator? = ((List.range n).map fun i => turn (i + 1)) ∧
      ∃ e sql, parseFormula (cellChain (n + 1) : String) = .ok e ∧ Parser.Renders .addition e (cellLexemes n) ∧
        InOrder e (cellLexemes n) ∧ convertFormula (cellChain (n + 1) : String) corpusNames corpusSheet = .text sql ∧
        Parenthesised cellColumn (cellLexemes n) sql := by
  constructor
  · cases hsize : size.toNat with
    | zero =>
      have hempty : ¬ 1 ≤ size := by omega
      have htokens : tokenCount (cellChain 0) = 1 := by decide
      have hlength : (sql (cellChain 0)).length = 1 := by decide
      simp only [Workload.run, hsize, htokens, hlength, if_neg hempty]
      rfl
    | succ n =>
      have hfull : 1 ≤ size := by omega
      obtain rfl : size = n + 1 := by omega
      obtain ⟨sql, hsql, -, hlength⟩ := convertFormula_cellChain n
      have htokens := length_tokens_of_cutsInto (cutsInto_cellChain n)
      rw [length_cellLexemes] at htokens
      have htwice : ((2 * n + 1 + 1 : Nat) : Int) = 2 * (n + 1) := by omega
      have hten : ((10 * n + 5 : Nat) : Int) = 10 * (n + 1) - 5 := by omega
      simp only [Workload.run, tokenCount, Workload.sql, hsize, htokens, hsql, Datum.spell, hlength, if_pos hfull,
        htwice, hten]
  · intro n
    obtain ⟨sql, hsql, hshape, -⟩ := convertFormula_cellChain n
    have hcut := cutsInto_cellChain n
    obtain ⟨ts, p, htokens, hts⟩ := tokens_of_cutsInto hcut
    have hlexemes : (tokens (cellChain (n + 1))).map Token.lexeme = cellLexemes n ++ [.finish] := by
      rw [htokens, List.map_append, hts]
      rfl
    have hparse := parseFormula_of_cutsInto hcut (.inner (.inner (renders_cellChain n)))
    exact ⟨hlexemes, cells_cellLexemes n, operators_cellLexemes n, _, sql, hparse, renders_cellChain n,
      inOrder_chain _ _, hsql, hshape⟩

end Bench.Workload

end FormulaSql
