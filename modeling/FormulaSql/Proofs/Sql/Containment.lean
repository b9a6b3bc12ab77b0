import FormulaSql.Proofs.Sql.Layout

/-!
# Where the SQL of a formula ends

The SQL of a formula should end outside every literal and comment, whatever texts the formula holds. Texts that stand
as literals keep to that. It fails where a text gets into a comment, which the text can close, and where a sheet name
that is not mapped is written as it is, so that it can open a comment.

* `skeleton`: of the SQL of a formula only text literals, raw sheet names, signs and the marks of comments count; all
  else may be blanked out without any effect on where the SQL ends.
* `contained`: a condition on the tree under which nothing goes wrong. No text inside a comment holds the closing mark,
  and no raw sheet name holds a mark or starts with a hyphen.
-/

namespace FormulaSql.Sql

/-! ## The skeleton -/

/-- What is left of a piece when plain text is blanked out. -/
def Piece.bare : Piece → List Char
  | plain s => blanked s.toList
  | literal s => (Sql.literal s).toList
  | raw s => s.toList

/-- What is left of the SQL of a tree. -/
def skeleton (names : Names) (current : Datum) (e : Expr) : List Char :=
  (pieces names current e).flatMap Piece.bare

/-- Blanking out plain text does not change where a scan ends. -/
theorem run_bare : ∀ {ps : List Piece}, (∀ p ∈ ps, p.IsQuiet) → ∀ m : Mode,
    m.run (chars ps) = m.run (ps.flatMap Piece.bare)
  | [], _, _ => rfl
  | p :: ps, h, m => by
    obtain ⟨hp, hps⟩ := List.forall_mem_cons.1 h
    have hstep : m.run p.chars = m.run p.bare := by
      cases p with
      | plain s => exact run_quiet hp m
      | literal | raw => rfl
    rw [chars_cons, Mode.run_append, hstep, run_bare hps, List.flatMap_cons, Mode.run_append]

/-! ## Marks of two characters -/

/-- Whether two characters stand side by side in a text. -/
def hasPair (a b : Char) : List Char → Bool
  | c :: d :: cs => (c == a && d == b) || hasPair a b (d :: cs)
  | _ => false

section Pairs

variable {a b c : Char} {cs : List Char}

theorem hasPair_tail (h : hasPair a b (c :: cs) = false) : hasPair a b cs = false := by
  cases cs with
  | nil => rfl
  | cons d ds => exact (Bool.or_eq_false_iff.1 h).2

theorem hasPair_head : hasPair a b (a :: cs) = (cs.head? == some b || hasPair a b cs) := by
  cases cs with
  | nil => rfl
  | cons d ds => simp [hasPair]

theorem hasPair_cons (hc : c ≠ a) : hasPair a b (c :: cs) = hasPair a b cs := by
  cases cs with
  | nil => rfl
  | cons d ds => simp [hasPair, hc]

theorem head_ne_of_hasPair (h : hasPair a b (a :: cs) = false) : cs.head? ≠ some b := by
  rw [hasPair_head] at h
  simpa using (Bool.or_eq_false_iff.1 h).1

/-- Doubling quotes makes and breaks no closing mark. -/
theorem hasPair_doubled : ∀ cs : List Char, hasPair '*' '/' (doubled '\x27' cs) = hasPair '*' '/' cs
  | [] => rfl
  | c :: cs => by
    have ih := hasPair_doubled cs
    show hasPair '*' '/' ((if c = '\x27' then ['\x27', '\x27'] else [c]) ++ doubled '\x27' cs) = _
    by_cases hq : c = '\x27'
    · subst hq
      simp [hasPair_cons, ← ih]
    · rw [if_neg hq, List.singleton_append]
      by_cases hc : c = '*'
      · subst hc
        rw [hasPair_head, hasPair_head, ih]
        cases cs with
        | nil => rfl
        | cons d ds => by_cases hd : d = '\x27' <;> simp [doubled, hd]
      · rw [hasPair_cons hc, hasPair_cons hc, ih]

end Pairs

/-- Inside a block comment. -/
def Mode.inBlock (m : Mode) : Prop :=
  m = block ∨ m = star

/-- A text without the closing mark stays inside a block comment. -/
theorem run_inBlock : ∀ {cs : List Char} {m : Mode}, hasPair '*' '/' cs = false → m.inBlock →
    (m = .star → cs.head? ≠ some '/') → (m.run cs).inBlock
  | [], _, _, hm, _ => hm
  | c :: cs, m, h, hm, hstar => by
    rw [Mode.run_cons]
    have hnext : m.next c = if c = '*' then .star else .block := by
      rcases hm with rfl | rfl
      · rfl
      · have hc : c ≠ '/' := fun hc => hstar rfl (by rw [hc]; rfl)
        show (if c = '/' then Mode.plain else if c = '*' then .star else .block) = _
        rw [if_neg hc]
    rw [hnext]
    by_cases hc : c = '*'
    · subst hc
      exact run_inBlock (hasPair_tail h) (.inr rfl) fun _ => head_ne_of_hasPair h
    · rw [if_neg hc]
      exact run_inBlock (hasPair_tail h) (.inl rfl) fun hb => by cases hb

/-- Plain text with nothing but a pending mark. -/
def Mode.inPlain (m : Mode) : Prop :=
  m = plain ∨ m = slash ∨ m = hyphen

/-- A text without quotes and opening marks stays plain. -/
theorem run_inPlain : ∀ {cs : List Char} {m : Mode}, '\x27' ∉ cs → hasPair '-' '-' cs = false →
    hasPair '/' '*' cs = false → m.inPlain → (m = .hyphen → cs.head? ≠ some '-') →
      (m = .slash → cs.head? ≠ some '*') → (m.run cs).inPlain
  | [], _, _, _, _, hm, _, _ => hm
  | c :: cs, m, hq, hh, hs, hm, hhyphen, hslash => by
    rw [Mode.run_cons]
    have hc : c ≠ '\x27' := fun hc => hq (hc ▸ List.mem_cons_self)
    have hnext : m.next c = Mode.opening c := by
      rcases hm with rfl | rfl | rfl
      · rfl
      · have : c ≠ '*' := fun hc => hslash rfl (by rw [hc]; rfl)
        show (if c = '*' then Mode.block else .opening c) = _
        rw [if_neg this]
      · have : c ≠ '-' := fun hc => hhyphen rfl (by rw [hc]; rfl)
        show (if c = '-' then Mode.line else .opening c) = _
        rw [if_neg this]
    rw [hnext]
    have hrest := @run_inPlain cs (Mode.opening c) (fun h => hq (List.mem_cons_of_mem c h)) (hasPair_tail hh)
      (hasPair_tail hs)
    by_cases h₁ : c = '/'
    · subst h₁
      exact hrest (.inr (.inl rfl)) (fun h => by cases h) fun _ => head_ne_of_hasPair hs
    · by_cases h₂ : c = '-'
      · subst h₂
        exact hrest (.inr (.inr rfl)) (fun _ => head_ne_of_hasPair hh) fun h => by cases h
      · have hplain : Mode.opening c = .plain := by simp [Mode.opening, hc, h₁, h₂]
        rw [hplain] at hrest ⊢
        exact hrest (.inl rfl) (fun h => by cases h) fun h => by cases h

/-! ## Before and behind an expression -/

/-- Where an expression may start, in plain text or inside a comment. -/
def Mode.starts (inside : Bool) (m : Mode) : Prop :=
  m = plain ∨ m = hyphen ∨ inside = true ∧ m = block

/-- Where an expression may stop. A comment may have been closed. -/
def Mode.stops (inside : Bool) (m : Mode) : Prop :=
  m.outside = true ∨ inside = true ∧ m = block

/-- Where a separating text stops. -/
def Mode.settled (inside : Bool) (m : Mode) : Prop :=
  m = plain ∨ inside = true ∧ m = block

/-- Pieces lead from some modes to others. -/
def Leads (P : Mode → Prop) (ps : List Piece) (Q : Mode → Prop) : Prop :=
  ∀ m, P m → Q (m.run (chars ps))

section Leading

variable {P Q R : Mode → Prop} {inside : Bool} {m : Mode}

theorem Leads.append {ps qs : List Piece} (h : Leads P ps Q) (h' : Leads Q qs R) : Leads P (ps ++ qs) R := by
  intro m hm
  rw [chars_append, Mode.run_append]
  exact h' _ (h m hm)

theorem Leads.cons {p : Piece} {ps : List Piece} (h : Leads P [p] Q) (h' : Leads Q ps R) : Leads P (p :: ps) R :=
  Leads.append h h'

theorem Leads.imp {ps : List Piece} {Q' : Mode → Prop} (h : Leads P ps Q) (hQ : ∀ m, Q m → Q' m) : Leads P ps Q' :=
  fun m hm => hQ _ (h m hm)

theorem starts_of_settled : ∀ m : Mode, m.settled inside → m.starts inside
  | _, .inl h => .inl h
  | _, .inr h => .inr (.inr h)

theorem stops_of_settled : ∀ m : Mode, m.settled inside → m.stops inside
  | _, .inl h => .inl (by rw [h]; rfl)
  | _, .inr h => .inr h

theorem stops_of_starts : ∀ m : Mode, m.starts inside → m.stops inside
  | _, .inl h => .inl (by rw [h]; rfl)
  | _, .inr (.inl h) => .inl (by rw [h]; rfl)
  | _, .inr (.inr h) => .inr h

theorem settled_next_blank (h : m.stops inside) : (m.next ' ').settled inside := by
  rcases h with h | ⟨hi, rfl⟩
  · cases m with
    | plain | slash | hyphen | quote => exact .inl rfl
    | literal | block | star | line => cases h
  · exact .inr ⟨hi, rfl⟩

theorem run_blanks : ∀ (cs : List Char) (m : Mode), (m.next ' ').run (blanked cs) = m.next ' '
  | [], _ => rfl
  | _ :: cs, m => (run_blanks cs (m.next ' ')).trans (next_blank_idem m)

/-- A separating text does what one blank does. -/
theorem run_separates {s : String} (h : Separates s) (m : Mode) : m.run s.toList = m.next ' ' := by
  rw [run_quiet h.1]
  obtain ⟨c, cs, hcs⟩ := List.exists_cons_of_ne_nil h.2
  rw [hcs]
  exact run_blanks cs m

theorem leads_separates {s : String} (h : Separates s) : Leads (Mode.stops inside) [.plain s] (Mode.settled inside) := by
  intro m hm
  rw [chars_cons, chars_nil, List.append_nil, Piece.chars, run_separates h]
  exact settled_next_blank hm

/-- A quiet text may be empty. -/
theorem leads_quiet {s : String} (h : Quiet s.toList) : Leads (Mode.starts inside) [.plain s] (Mode.stops inside) := by
  intro m hm
  by_cases hs : s.toList = []
  · rw [chars_cons, chars_nil, Piece.chars, hs]
    exact stops_of_starts m hm
  · exact stops_of_settled _ (leads_separates ⟨h, hs⟩ m (stops_of_starts m hm))

end Leading

/-! ## Frames -/

/-- Whether a frame makes a comment. -/
def Frame.isComment (f : Frame) : Bool :=
  match f.kind with
  | .comment => true
  | .inline | .signed => false

section Frames

variable {f : Frame} {inside : Bool}

theorem leads_opens (hf : f.Sound) : Leads (Mode.starts inside) f.opens (Mode.starts (inside || f.isComment)) := by
  unfold Frame.opens Frame.isComment
  cases f.kind with
  | inline =>
    rw [Bool.or_false]
    exact fun m hm => starts_of_settled _ (leads_separates hf.opening m (stops_of_starts m hm))
  | signed =>
    rw [Bool.or_false]
    refine Leads.cons (fun m hm => leads_separates hf.opening m (stops_of_starts m hm)) ?_
    rintro m (rfl | ⟨hi, rfl⟩)
    · exact .inr (.inl rfl)
    · exact .inr (.inr ⟨hi, rfl⟩)
  | comment =>
    -- behind the mark the scan is inside a comment, the outer one if there is one
    have hmark : Leads (Mode.starts inside) [.raw "/*"] Mode.inBlock := by
      rintro m (rfl | rfl | ⟨_, rfl⟩)
      · exact .inl rfl
      · exact .inl rfl
      · exact .inr rfl
    refine hmark.cons fun m hm => .inr (.inr ⟨Bool.or_true inside, ?_⟩)
    show m.run (f.opening.toList ++ []) = .block
    rw [List.append_nil, run_separates hf.opening]
    rcases hm with rfl | rfl <;> rfl

theorem leads_closes (hf : f.Sound) : Leads (Mode.stops (inside || f.isComment)) f.closes (Mode.stops inside) := by
  unfold Frame.closes Frame.isComment
  cases f.kind with
  | inline | signed =>
    rw [Bool.or_false]
    exact (leads_separates hf.closing).imp stops_of_settled
  | comment =>
    refine Leads.cons (leads_separates hf.closing) ?_
    rintro m (rfl | ⟨_, rfl⟩)
    · exact .inl rfl
    · exact .inl rfl

theorem leads_weave (hf : f.Sound) : ∀ (i : Nat) {parts : List (List Piece)},
    (∀ part ∈ parts, Leads (Mode.starts inside) part (Mode.stops inside)) →
      Leads (Mode.starts inside) (f.weave i parts) (Mode.stops inside)
  | _, [], _ => stops_of_starts
  | _, [part], h => h part List.mem_cons_self
  | i, part :: next :: parts, h => by
    obtain ⟨hpart, hrest⟩ := List.forall_mem_cons.1 h
    exact hpart.append (((leads_separates (hf.between i)).imp starts_of_settled).cons (leads_weave hf (i + 1) hrest))

/-- **What holds of the parts holds of the whole**, seen from outside the frame. -/
theorem leads_fill (hf : f.Sound) {parts : List (List Piece)}
    (h : ∀ part ∈ parts, Leads (Mode.starts (inside || f.isComment)) part (Mode.stops (inside || f.isComment))) :
    Leads (Mode.starts inside) (f.fill parts) (Mode.stops inside) :=
  ((leads_opens hf).append (leads_weave hf 0 h)).append (leads_closes hf)

theorem leads_fill_inline (hf : f.Sound) (hkind : f.isComment = false) {parts : List (List Piece)}
    (h : ∀ part ∈ parts, Leads (Mode.starts inside) part (Mode.stops inside)) :
    Leads (Mode.starts inside) (f.fill parts) (Mode.stops inside) :=
  leads_fill hf (by rwa [hkind, Bool.or_false])

theorem binaryFrame_isComment (symbol : String) : (binaryFrame symbol).isComment = false := by
  rw [Frame.isComment, binaryFrame_kind]

end Frames

/-! ## Trees in which nothing goes wrong -/

/-- A text that holds no mark of comments and starts with no hyphen, so that it makes none with a minus sign. -/
def markless (s : String) : Bool :=
  !hasPair '-' '-' s.toList && !hasPair '/' '*' s.toList && !hasPair '*' '/' s.toList && s.toList.head? != some '-'

/-- A text inside a comment does not hold the closing mark. -/
def textContained (inside : Bool) : Datum → Bool
  | .text s => !(inside && hasPair '*' '/' s.toList)
  | _ => true

/-- A sheet name that is written as it is holds no mark. -/
def sheetContained (names : Names) (current sheet : Datum) : Bool :=
  match qualifier? current sheet with
  | some s => (mapped names.sheets s).isSome || markless (Text.lower s)
  | none => true

/-- Whether a call is written as a comment. -/
def isCommentCall (name : Datum) (count : Nat) : Bool :=
  match name with
  | .text s => (style (Text.upper s) count).frame.isComment
  | _ => false

section Contained

variable (names : Names) (current : Datum)

mutual

/-- All texts and sheet names of a tree are kept from closing or opening comments; `inside` tells whether the tree stands
inside one. -/
def contained (inside : Bool) : Expr → Bool
  | .number _ | .range _ _ | .table _ _ _ | .blank => true
  | .text value => textContained inside value
  | .cell _ sheet => sheetContained names current sheet
  | .binary _ left right => contained inside left && contained inside right
  | .unary _ operand => contained inside operand
  | .call name args => containedAll (inside || isCommentCall name args.length) args

/-- The same for all arguments of a call. -/
def containedAll (inside : Bool) : List Expr → Bool
  | [] => true
  | e :: es => contained inside e && containedAll inside es

end

end Contained

section Atoms

variable {names : Names} {current : Datum} {inside : Bool}

theorem run_literal_block {s : String} (h : hasPair '*' '/' s.toList = false) :
    Mode.block.run (literal s).toList = .block := by
  have hpair : hasPair '*' '/' ('\x27' :: doubled '\x27' s.toList) = false := by
    rw [hasPair_cons (by decide), hasPair_doubled, h]
  have hblock := run_inBlock hpair (.inl rfl : Mode.block.inBlock) fun hm => by cases hm
  rw [toList_literal, enclosed, ← List.cons_append, Mode.run_append]
  rcases hblock with hb | hb
  · rw [hb]; rfl
  · rw [hb]; rfl

theorem leads_literal {s : String} (h : textContained inside (.text s)) :
    Leads (Mode.starts inside) [.literal s] (Mode.stops inside) := by
  intro m hm
  rw [chars_singleton, Piece.chars]
  rcases hm with rfl | rfl | ⟨hi, rfl⟩
  · rw [run_literal s rfl]; exact .inl rfl
  · rw [run_literal s rfl]; exact .inl rfl
  · have hpair : hasPair '*' '/' s.toList = false := by simpa [textContained, hi] using h
    exact .inr ⟨hi, run_literal_block hpair⟩

/-- A raw sheet name that holds no mark, and the point behind it. -/
theorem leads_raw {s : String} (hq : '\x27' ∉ s.toList) (h : markless s) :
    Leads (Mode.starts inside) [.raw s, .plain "."] (Mode.settled inside) := by
  simp only [markless, Bool.and_eq_true, Bool.not_eq_true', bne_iff_ne, ne_eq] at h
  obtain ⟨⟨⟨hh, hs⟩, hb⟩, hhead⟩ := h
  have plain {m : Mode} (hm : m = .plain ∨ m = .hyphen) : (m.run s.toList).next ' ' = .plain := by
    have hrun : (m.run s.toList).inPlain := by
      rcases hm with rfl | rfl
      · exact run_inPlain hq hh hs (.inl rfl) (fun h => by cases h) fun h => by cases h
      · exact run_inPlain hq hh hs (.inr (.inr rfl)) (fun _ => hhead) fun h => by cases h
    rcases hrun with hr | hr | hr <;> rw [hr] <;> rfl
  have block : (Mode.block.run s.toList).next ' ' = .block := by
    have hrun := run_inBlock hb (.inl rfl : Mode.block.inBlock) fun h => by cases h
    rcases hrun with hr | hr <;> rw [hr] <;> rfl
  intro m hm
  rw [chars_cons, Mode.run_append, chars_singleton, Piece.chars, Piece.chars,
    run_separates (separates_of_calm (by decide))]
  rcases hm with hm | hm | ⟨hi, rfl⟩
  · exact .inl (plain (.inl hm))
  · exact .inl (plain (.inr hm))
  · exact .inr ⟨hi, block⟩

theorem leads_sheet (hs : mapsToIdentifiers names.sheets) {sheet : String} (hq : '\x27' ∉ sheet.toList)
    (h : (mapped names.sheets sheet).isSome || markless (Text.lower sheet)) :
    Leads (Mode.starts inside) [sheetPiece names sheet, .plain "."] (Mode.settled inside) := by
  have hquiet := sheetPiece_isQuiet hs sheet
  unfold sheetPiece at hquiet ⊢
  cases hm : mapped names.sheets sheet with
  | some s =>
    rw [hm] at hquiet
    exact (leads_quiet hquiet).cons (leads_separates (separates_of_calm (by decide)))
  | none =>
    rw [hm] at h
    exact leads_raw (fun hmem => hq (Text.mem_lower_low hmem (by decide))) h

theorem leads_column (hc : mapsToIdentifiers names.columns) {name : String} (h : Holds ['$'] name) :
    Leads (Mode.starts inside) [columnPiece names name] (Mode.stops inside) :=
  leads_quiet (columnPiece_isQuiet hc h)

end Atoms

section Trees

variable {names : Names} {current : Datum}

theorem leads_cell (hc : mapsToIdentifiers names.columns) (hs : mapsToIdentifiers names.sheets) {inside : Bool}
    {name sheet : String} (hname : Holds ['$'] name) (hq : '\x27' ∉ sheet.toList)
    (h : sheetContained names current (.text sheet)) :
    Leads (Mode.starts inside) (cellPieces names current (.text name) (.text sheet)) (Mode.stops inside) := by
  have column : Leads (Mode.starts inside) [columnPiece names name] (Mode.stops inside) := leads_column hc hname
  unfold sheetContained at h
  unfold cellPieces
  cases hqualifier : qualifier? current (.text sheet) with
  | none => exact column
  | some s =>
    rw [hqualifier] at h
    cases eq_of_qualifier hqualifier
    exact ((leads_sheet hs hq h).imp starts_of_settled).append column

mutual

/-- **A contained tree stops where it should**, in plain text or inside a comment. -/
theorem leads_pieces (hc : mapsToIdentifiers names.columns) (hs : mapsToIdentifiers names.sheets) :
    ∀ {e : Expr} {inside : Bool}, e.Shaped → contained names current inside e →
      Leads (Mode.starts inside) (pieces names current e) (Mode.stops inside)
  | .number _, _, .missing, _ => by
    rw [pieces]; exact leads_quiet (.of_calm (by decide))
  | .number _, _, .number hx, _ => by
    rw [pieces]; exact leads_quiet (quiet_number hx)
  | .text _, _, .text s, h => by
    rw [contained] at h
    rw [pieces]; exact leads_literal h
  | .cell _ _, _, .cell hname, _ => by
    rw [pieces]; exact leads_column hc hname
  | .cell _ _, _, .sheetCell hname hq, h => by
    rw [contained] at h
    rw [pieces]; exact leads_cell hc hs hname hq h
  | .range _ _, _, .range _ hname, _ => by
    rw [pieces]; exact leads_fill (rangeFrame_sound hname) (List.forall_mem_nil _)
  | .table _ _ _, _, .table column _ hname, _ => by
    obtain ⟨s, hcolumn, hholds⟩ := tableColumn_holds column hname
    rw [pieces, tablePieces, hcolumn]; exact leads_quiet (quiet_of_holds hholds (by decide))
  | .binary symbol _ _, _, .binary hsymbol hl hr, h => by
    rw [contained, Bool.and_eq_true] at h
    rw [pieces]
    refine leads_fill_inline (binaryFrame_sound hsymbol) (binaryFrame_isComment symbol) ?_
    exact List.forall_mem_cons.2 ⟨leads_pieces hc hs hl h.1, List.forall_mem_singleton.2 (leads_pieces hc hs hr h.2)⟩
  | .unary _ _, _, .unary _ he, h => by
    rw [contained] at h
    rw [pieces]
    split
    · exact leads_fill_inline minusFrame_sound rfl (List.forall_mem_singleton.2 (leads_pieces hc hs he h))
    · exact leads_pieces hc hs he h
  | .call _ args, _, .call hname hargs, h => by
    rw [contained] at h
    rw [pieces, callPieces, length_piecesAll]
    exact leads_fill (frame_sound hname _) (Style.forall_parts leads_quiet _ (leads_piecesAll hc hs hargs h))

theorem leads_piecesAll (hc : mapsToIdentifiers names.columns) (hs : mapsToIdentifiers names.sheets) :
    ∀ {es : List Expr} {inside : Bool}, (∀ e ∈ es, e.Shaped) → containedAll names current inside es →
      ∀ part ∈ piecesAll names current es, Leads (Mode.starts inside) part (Mode.stops inside)
  | [], _, _, _ => by rw [piecesAll]; exact List.forall_mem_nil _
  | e :: es, _, h, hcontained => by
    rw [containedAll, Bool.and_eq_true] at hcontained
    obtain ⟨he, hes⟩ := List.forall_mem_cons.1 h
    rw [piecesAll]
    exact List.forall_mem_cons.2 ⟨leads_pieces hc hs he hcontained.1, leads_piecesAll hc hs hes hcontained.2⟩

end

end Trees

/-! ## Whole formulas -/

/-- The SQL of a formula is the text of the pieces of its tree. -/
theorem convertFormula_pieces {names : Names} (current : Datum) (hc : mapsToIdentifiers names.columns)
    (hs : mapsToIdentifiers names.sheets) {formula : String} {e : Expr} (he : parseFormula (.text formula) = .ok e)
    (hshaped : e.Shaped) :
    convertFormula (.text formula) names current = .text (sqlOf (pieces names current e)) := by
  have hsql : parseFormula (.text formula) >>= convert names current = .ok (.text (sqlOf (pieces names current e))) := by
    rw [he]
    exact convert_pieces hc hs hshaped
  unfold convertFormula
  rw [hsql]

theorem mode_scan (ps : List Piece) : (scan (sqlOf ps)).mode = Mode.plain.run (chars ps) := by
  rw [scan, Scan.mode_run, toList_sqlOf]; rfl

/-- **Where the SQL of a formula ends.** Every formula is converted. Its SQL ends outside every literal and comment
exactly if its skeleton does, and this is so whenever no text inside a comment holds the closing mark and no raw sheet
name holds a mark or starts with a hyphen. -/
theorem convertFormula_outside_iff (formula : String) {names : Names} (current : Datum)
    (hc : mapsToIdentifiers names.columns) (hs : mapsToIdentifiers names.sheets) :
    ∃ e sql, parseFormula (.text formula) = .ok e ∧ convertFormula (.text formula) names current = .text sql ∧
      ((scan sql).mode.outside ↔ (Mode.plain.run (skeleton names current e)).outside) ∧
      (contained names current false e → (scan sql).mode.outside) := by
  obtain ⟨e, he, hshaped⟩ := parseFormula_shaped formula
  refine ⟨e, _, he, convertFormula_pieces current hc hs he hshaped, ?_, ?_⟩
  · rw [mode_scan, run_bare (quiet_pieces hc hs hshaped)]; rfl
  · intro hcontained
    rw [mode_scan]
    rcases leads_pieces hc hs hshaped hcontained .plain (.inl rfl) with h | ⟨h, _⟩
    · exact h
    · cases h

/-- A minus sign before a raw sheet name, and a look-up of a text that holds a quote and an opening mark. -/
theorem convertFormula_outside_lookup :
    mapsToIdentifiers (.dict [("A", .text "amount")]) ∧ mapsToIdentifiers (.dict []) ∧
      ∃ e sql, parseFormula (.text "=-'net-2'!A1&VLOOKUP(\"it's /* 5\",B2:C3)") = .ok e ∧
        convertFormula (.text "=-'net-2'!A1&VLOOKUP(\"it's /* 5\",B2:C3)")
          ⟨.dict [("A", .text "amount")], .dict []⟩ (.text "Main") = .text sql ∧
        contained ⟨.dict [("A", .text "amount")], .dict []⟩ (.text "Main") false e ∧ (scan sql).mode.outside := by
  have hc : mapsToIdentifiers (.dict [("A", .text "amount")]) := by decide
  have hs : mapsToIdentifiers (.dict []) := by decide
  obtain ⟨e, sql, he, hsql, _, hout⟩ := @convertFormula_outside_iff "=-'net-2'!A1&VLOOKUP(\"it's /* 5\",B2:C3)"
    ⟨.dict [("A", .text "amount")], .dict []⟩ (.text "Main") hc hs
  have hcontained : (parseFormula (.text "=-'net-2'!A1&VLOOKUP(\"it's /* 5\",B2:C3)")).toOption.any
      (contained ⟨.dict [("A", .text "amount")], .dict []⟩ (.text "Main") false) = true := by
    decide +kernel
  rw [he] at hcontained
  exact ⟨hc, hs, e, sql, he, hsql, hcontained, hout hcontained⟩

-- the text closes the comment it stands in, and the SQL ends inside a literal
example : (scan (convertFormula (.text "=VLOOKUP(\"*/\")") ⟨.dict [], .dict []⟩ .null).spell).mode = .literal := by
  decide +kernel

-- the minus sign and the sheet name make the mark of a line comment
example : (scan (convertFormula (.text "=-'-x'!A1") ⟨.dict [], .dict []⟩ .null).spell).mode = .line := by
  decide +kernel

end FormulaSql.Sql
