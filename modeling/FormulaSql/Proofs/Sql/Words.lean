import FormulaSql.Proofs.Sql.Fragment

/-!
# Frames as words

An operation or a call is written as a frame around its operands, which is four words: what stands before the first
operand, before the second, before all later ones, and behind the last. For trees that show all their operands
(`readableTrees`) the frame depends on the root alone (`written_node`), there are finitely many of them (`heads`), and
their words form a prefix code (`heads_clear`, `heads_apart`): the opening tells the root, or else what follows the first
operand does. The one exception is a minus sign behind a parenthesis, which may also be the sign of a number.
-/

namespace FormulaSql.Sql

/-! ## Frames as words -/

/-- The words of a frame: what stands before the first operand, the second, all later ones, and behind the last. -/
structure Words where
  opening : List Char
  first : List Char
  later : List Char
  closing : List Char
  deriving DecidableEq

namespace Words

/-- Operands behind the first one, with `between` before the next. -/
def tail (w : Words) : (between : List Char) → List (List Char) → List Char
  | _, [] => w.closing
  | between, p :: ps => between ++ (p ++ tail w w.later ps)

/-- Operands in a frame. -/
def write (w : Words) : List (List Char) → List Char
  | [] => w.opening ++ w.closing
  | p :: ps => w.opening ++ (p ++ w.tail w.first ps)

end Words

/-- The words of a frame whose separators are the same from the second on. -/
def Frame.words (f : Frame) : Words :=
  ⟨chars f.opens, (f.between 0).toList, (f.between 1).toList, chars f.closes⟩

theorem chars_weave_tail {f : Frame} (hlater : ∀ i, f.between (i + 1) = f.between 1) :
    ∀ (i : Nat) (p : List Piece) (ps : List (List Piece)),
      chars (f.weave i (p :: ps)) ++ chars f.closes = chars p ++ f.words.tail (f.between i).toList (ps.map chars)
  | _, _, [] => rfl
  | i, p, q :: ps => by
    rw [Frame.weave, chars_append, chars_cons, List.append_assoc, List.append_assoc, chars_weave_tail hlater (i + 1) q ps,
      hlater]
    rfl

theorem chars_fill_words {f : Frame} (hlater : ∀ i, f.between (i + 1) = f.between 1) (ps : List (List Piece)) :
    chars (f.fill ps) = f.words.write (ps.map chars) := by
  rw [Frame.fill, chars_append, chars_append]
  cases ps with
  | nil => simp [Frame.weave, Words.write, Frame.words]
  | cons p ps => rw [List.append_assoc, chars_weave_tail hlater]; rfl

/-! ## Readable trees -/

/-- The calls that show all their arguments. -/
def readableCall (name : String) (count : Nat) : Bool :=
  callFits (fun _ => true) (· == 3) (2 ≤ ·) name count

/-- The trees that can be read back: finite numbers, the operators, the minus sign, and calls that show their
arguments. -/
def readableTrees : Fragment where
  number := Number.isFinite
  head
    | .binary symbol, _ => operators.contains symbol
    | .unary symbol, _ => symbol == "-"
    | .call name, count => readableCall name count

/-- The roots of readable trees. -/
def heads : List Head :=
  operators.map .binary ++ [.unary "-"] ++
    (plainFunctions ++ ["IF", "IFERROR", "AND", "OR"] ++ singleFunctions).map .call

/-- The frame of a root. The style of a call is the same for all numbers of arguments that are readable. -/
def frameOf : Head → Frame
  | .binary symbol => binaryFrame symbol
  | .unary _ => minusFrame
  | .call name => (style name 2).frame

/-- The words of a root. -/
def wordsOf (h : Head) : Words :=
  (frameOf h).words

theorem mem_heads {h : Head} {count : Nat} (hh : readableTrees.head h count) : h ∈ heads := by
  have hcall {name : String} (hn : name ∈ plainFunctions ++ ["IF", "IFERROR", "AND", "OR"] ++ singleFunctions) :
      Head.call name ∈ heads := List.mem_append_right _ (List.mem_map_of_mem hn)
  cases h with
  | binary symbol =>
    have hs : operators.contains symbol := hh
    exact List.mem_append_left _ (List.mem_append_left _ (List.mem_map_of_mem (List.contains_iff_mem.1 hs)))
  | unary symbol =>
    have hs : (symbol == "-") = true := hh
    rw [eq_of_beq hs]
    decide
  | call name =>
    have hfits : readableCall name count := hh
    refine hcall ?_
    rcases callFits_iff.1 hfits with ⟨hname, _⟩ | ⟨rfl, _⟩ | ⟨rfl, _⟩ | ⟨rfl | rfl, _⟩ | ⟨hname, _⟩
    · exact List.mem_append_left _ (List.mem_append_left _ hname)
    · decide
    · decide
    · decide
    · decide
    · exact List.mem_append_right _ hname

/-- All separators of a root but the first are the same. -/
theorem frameOf_later (h : Head) (i : Nat) : (frameOf h).between (i + 1) = (frameOf h).between 1 := by
  cases h with
  | binary symbol =>
    unfold frameOf binaryFrame
    dsimp only
    split <;> rfl
  | unary => rfl
  | call name =>
    unfold frameOf
    dsimp only
    cases style name 2 <;> rfl

/-- Whether a style shows so many arguments, all and nothing else. -/
def Style.showsAll (count : Nat) : Style → Bool
  | plain _ | joined _ | note _ _ | unknown _ => true
  | choice => count == 3
  | fallback => count == 2
  | negation | first _ => count == 1

theorem Style.parts_eq {style : Style} {args : List (List Piece)} (h : style.showsAll args.length) :
    style.parts args = args := by
  cases style with
  | plain | joined | note | unknown => rfl
  | choice =>
    match args, h with
    | [_, _, _], _ => rfl
  | fallback =>
    match args, h with
    | [_, _], _ => rfl
  | negation | first =>
    match args, h with
    | [_], _ => rfl

theorem executable_of_readableCall {name : String} {count : Nat} (h : readableCall name count) :
    executableCall name count :=
  executableCall_of_callFits (by simp) h

theorem style_showsAll {name : String} {count : Nat} (h : readableCall name count) :
    (style name 2).showsAll count := by
  rcases callFits_iff.1 h with ⟨hname, _⟩ | ⟨rfl, hcount⟩ | ⟨rfl, rfl⟩ | ⟨rfl | rfl, _⟩ | ⟨hname, rfl⟩
  · have hplain : ∀ n ∈ plainFunctions, style n 2 = .plain n := by decide
    rw [hplain name hname]; rfl
  · exact hcount
  · rfl
  · rfl
  · rfl
  · exact (show ∀ n ∈ singleFunctions, (style n 2).showsAll 1 by decide) name hname

section Written

variable (current : Datum)

/-- The SQL of a tree with empty tables. -/
def written (e : Expr) : List Char :=
  chars (pieces ⟨.dict [], .dict []⟩ current e)

theorem map_chars_piecesAll : ∀ es : List Expr,
    (piecesAll ⟨.dict [], .dict []⟩ current es).map chars = es.map (written current)
  | [] => by simp [piecesAll]
  | e :: es => by rw [piecesAll, List.map_cons, map_chars_piecesAll es, List.map_cons]; rfl

/-- **An operation or a call is its words around its operands.** -/
theorem written_node {e : Expr} {h : Head} {args : List Expr} (hn : e.node? = some (h, args))
    (hh : readableTrees.head h args.length) : written current e = (wordsOf h).write (args.map (written current)) := by
  obtain ⟨s, l, r, rfl, rfl, rfl⟩ | ⟨s, a, rfl, rfl, rfl⟩ | ⟨name, rfl, rfl⟩ := node_cases hn
  · rw [written, pieces]
    exact chars_fill_words (frameOf_later (.binary s)) _
  · have hs : (s == "-") = true := hh
    rw [written, pieces, if_pos (eq_of_beq hs)]
    exact chars_fill_words (frameOf_later (.unary s)) _
  · have hcall : readableCall name args.length := hh
    have hexec := executable_of_readableCall hcall
    have hshows := style_showsAll hcall
    rw [← @length_piecesAll ⟨.dict [], .dict []⟩ current args] at hshows
    rw [written, pieces, callPieces, length_piecesAll, upper_of_executableCall hexec, (style_executable hexec).2,
      Style.parts_eq hshows, ← map_chars_piecesAll]
    exact chars_fill_words (frameOf_later (.call name)) _

theorem written_cell (name : String) :
    written current (.cell (.text name) .null) = (Text.lower (columnLetters name)).toList := by
  rw [written, pieces]
  show chars [.plain (Text.lower (columnLetters name))] = _
  rw [chars_singleton, Piece.chars]

theorem written_letters {name : String} {letters : List Char} (hupper : ∀ c ∈ letters, c.isUpper)
    (h : columnLetters name = String.ofList letters) :
    written current (.cell (.text name) .null) = letters.map Char.toLower := by
  rw [written_cell, h, lower_letters hupper, String.toList_ofList]

theorem written_number (v : Number) : written current (.number v) = v.text.toList := by
  rw [written, pieces, chars_singleton, Piece.chars]

theorem written_text (s : String) : written current (.text (.text s)) = enclosed '\x27' s.toList := by
  rw [written, pieces, textPieces, chars_singleton, Piece.chars, toList_literal]

end Written

/-! ## A prefix code -/

/-- Two words neither of which starts with the other. -/
def Apart (s t : List Char) : Prop :=
  ¬ s <+: t ∧ ¬ t <+: s

instance (s t : List Char) : Decidable (Apart s t) := inferInstanceAs (Decidable (_ ∧ _))

theorem Apart.ne {s t : List Char} (h : Apart s t) (x y : List Char) : s ++ x ≠ t ++ y := by
  intro heq
  rcases List.prefix_or_prefix_of_prefix (List.prefix_append s x) (heq ▸ List.prefix_append t y) with hp | hp
  · exact h.1 hp
  · exact h.2 hp

/-- The characters that may follow an operand. -/
def isStop (c : Char) : Bool :=
  [' ', ',', ')'].contains c

/-- A text that starts with a character that may follow an operand. -/
def Stops (s : List Char) : Prop :=
  s.head?.any isStop

instance (s : List Char) : Decidable (Stops s) := inferInstanceAs (Decidable (_ = true))

/-- The words of a frame that can be told apart: operands are followed by stops, and it is seen whether another operand
follows. -/
structure Words.Clear (w : Words) : Prop where
  first : Stops w.first
  later : Stops w.later
  closing : Stops w.closing
  first_closing : Apart w.first w.closing
  later_closing : Apart w.later w.closing

instance (w : Words) : Decidable w.Clear :=
  decidable_of_iff (Stops w.first ∧ Stops w.later ∧ Stops w.closing ∧ Apart w.first w.closing ∧ Apart w.later w.closing)
    ⟨fun ⟨a, b, c, d, e⟩ => ⟨a, b, c, d, e⟩, fun ⟨a, b, c, d, e⟩ => ⟨a, b, c, d, e⟩⟩

/-- The words of an operation whose operator stands between the operands. -/
def isInfix (h : Head) : Bool :=
  (wordsOf h).opening == ['(']

/-- The operator of a minus sign. -/
def isMinus (h : Head) : Bool :=
  (wordsOf h).opening == ['(', '-']

theorem heads_clear : ∀ h ∈ heads, (wordsOf h).Clear := by
  decide +kernel

/-- Two different roots are told apart by their openings or by what stands between the first two operands, but for a
minus sign behind a parenthesis. -/
theorem heads_apart : ∀ h ∈ heads, ∀ h' ∈ heads, h = h' ∨ Apart (wordsOf h).opening (wordsOf h').opening ∨
    isInfix h ∧ isInfix h' ∧ Apart (wordsOf h).first (wordsOf h').first ∨ isMinus h ∧ isInfix h' ∨
    isInfix h ∧ isMinus h' := by
  decide +kernel

theorem heads_closing : ∀ h ∈ heads, isInfix h ∨ isMinus h → (wordsOf h).closing = [')'] := by
  decide +kernel

section Operands

variable {e : Expr} {h : Head} {args : List Expr}

/-- There are at least two operands around an operator. -/
theorem infix_operands (hn : e.node? = some (h, args)) (hh : readableTrees.head h args.length) (hi : isInfix h) :
    ∃ a b rest, args = a :: b :: rest := by
  obtain ⟨s, l, r, rfl, rfl, rfl⟩ | ⟨s, a, rfl, rfl, rfl⟩ | ⟨name, rfl, rfl⟩ := node_cases hn
  · exact ⟨l, r, [], rfl⟩
  · have hs : (s == "-") = true := hh
    rw [eq_of_beq hs] at hi
    exact absurd hi (by decide +kernel)
  · have hcall : readableCall name args.length := hh
    have hnames : ∀ n ∈ plainFunctions ++ ["IF", "IFERROR"] ++ singleFunctions, isInfix (.call n) = false := by
      decide +kernel
    have hcount : 2 ≤ args.length := by
      rcases callFits_iff.1 hcall with ⟨hname, _⟩ | ⟨rfl, _⟩ | ⟨rfl, _⟩ | ⟨_, hcount⟩ | ⟨hname, _⟩
      · rw [hnames name (List.mem_append_left _ (List.mem_append_left _ hname))] at hi; cases hi
      · cases hi
      · cases hi
      · exact of_decide_eq_true hcount
      · rw [hnames name (List.mem_append_right _ hname)] at hi; cases hi
    match args, hcount with
    | a :: b :: rest, _ => exact ⟨a, b, rest, rfl⟩

/-- There is one operand behind a minus sign. -/
theorem minus_operand (hn : e.node? = some (h, args)) (hh : h ∈ heads) (hm : isMinus h) : ∃ a, args = [a] := by
  have hunary : ∀ h ∈ heads, isMinus h → h = .unary "-" := by decide +kernel
  obtain ⟨s, l, r, rfl, rfl, rfl⟩ | ⟨s, a, rfl, rfl, rfl⟩ | ⟨name, rfl, rfl⟩ := node_cases hn
  · cases hunary _ hh hm
  · exact ⟨a, rfl⟩
  · cases hunary _ hh hm

end Operands

end FormulaSql.Sql
