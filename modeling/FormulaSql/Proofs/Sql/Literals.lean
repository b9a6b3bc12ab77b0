import FormulaSql.Proofs.Sql.Layout

/-!
# The literals of executable SQL

A tree without ranges, without raw sheet names and without calls that become comments is written as SQL that can be run.
A scan of it never enters a comment, ends outside every literal, and decodes exactly the texts of the tree from left
to right. The invariant is `Emits`: where a literal may open, the pieces of an expression add its texts to the scan and
leave it outside (`emits_pieces`). Texts that separate keep two literals from merging, and no operand starts with a
hyphen, so that a minus sign makes no mark with it.
-/

namespace FormulaSql.Sql

/-! ## Executable trees -/

/-- The functions that take any number of arguments. -/
def listFunctions : List String :=
  ["SUM", "AVG", "COUNT", "MIN", "MAX", "ROUND", "ABS", "SQRT", "AND", "OR", "CONCAT", "CONCATENATE"]

/-- The functions of at most one argument. -/
def singleFunctions : List String :=
  ["NOT", "LEN", "TRIM", "UPPER", "LOWER"]

/-- The calls that are written as SQL, by name and number of arguments. -/
def executableCall (name : String) (count : Nat) : Bool :=
  listFunctions.contains name || name == "IF" && (count == 2 || count == 3) || name == "IFERROR" && count == 2 ||
    singleFunctions.contains name && count ≤ 1

/-- The same for a name that should be a text. -/
def executableName (name : Datum) (count : Nat) : Bool :=
  match name with
  | .text s => executableCall s count
  | _ => false

/-- A cell on no sheet or on one that is mapped. -/
def executableSheet (names : Names) : Datum → Bool
  | .null => true
  | .text s => (mapped names.sheets s).isSome
  | _ => false

/-- The texts of a node that is one. -/
def textOf : Datum → List String
  | .text s => [s]
  | _ => []

section Executable

variable (names : Names)

mutual

/-- A tree whose SQL can be run. -/
def executable : Expr → Bool
  | .number _ | .text _ | .table _ _ _ | .blank => true
  | .cell _ sheet => executableSheet names sheet
  | .range _ _ => false
  | .binary _ left right => executable left && executable right
  | .unary _ operand => executable operand
  | .call name args => executableName name args.length && executableAll args

/-- Trees whose SQL can be run. -/
def executableAll : List Expr → Bool
  | [] => true
  | e :: es => executable e && executableAll es

end

end Executable

mutual

/-- The texts of a tree from left to right. -/
def texts : Expr → List String
  | .number _ | .cell _ _ | .range _ _ | .table _ _ _ | .blank => []
  | .text value => textOf value
  | .binary _ left right => texts left ++ texts right
  | .unary _ operand => texts operand
  | .call _ args => textsAll args

/-- The texts of the arguments of a call. -/
def textsAll : List Expr → List String
  | [] => []
  | e :: es => texts e ++ textsAll es

end

/-! ## Passing through pieces -/

/-- From a scan in some mode, pieces lead to another mode and add literals, but no comment. -/
def Passes (P : Mode → Prop) (ps : List Piece) (ls : List String) (Q : Mode → Prop) : Prop :=
  ∀ s : Scan, P s.mode → Q (s.run (chars ps)).mode ∧
    (s.run (chars ps)).literals = (ls.map String.toList).reverse ++ s.literals ∧
    (s.run (chars ps)).commented = s.commented

/-- The pieces of an expression, which starts where a literal may open and stops outside, hold the literals `ls`. -/
abbrev Emits (ps : List Piece) (ls : List String) : Prop :=
  Passes (·.fresh) ps ls (·.outside)

section Passing

variable {P Q R : Mode → Prop}

theorem Passes.append {ps qs : List Piece} {ls ls' : List String} (h : Passes P ps ls Q) (h' : Passes Q qs ls' R) :
    Passes P (ps ++ qs) (ls ++ ls') R := by
  intro s hs
  obtain ⟨hQ, hl, hc⟩ := h s hs
  obtain ⟨hR, hl', hc'⟩ := h' _ hQ
  rw [chars_append, Scan.run_append]
  refine ⟨hR, ?_, hc'.trans hc⟩
  rw [hl', hl, List.map_append, List.reverse_append, List.append_assoc]

theorem Passes.cons {p : Piece} {ps : List Piece} {ls : List String} (h : Passes P [p] [] Q) (h' : Passes Q ps ls R) :
    Passes P (p :: ps) ls R :=
  Passes.append h h'

theorem Passes.imp {ps : List Piece} {ls : List String} {Q' : Mode → Prop} (h : Passes P ps ls Q)
    (hQ : ∀ m, Q m → Q' m) : Passes P ps ls Q' := by
  intro s hs
  obtain ⟨hmode, hrest⟩ := h s hs
  exact ⟨hQ _ hmode, hrest⟩

theorem outside_of_fresh : ∀ m : Mode, m.fresh → m.outside
  | .plain, _ | .slash, _ | .hyphen, _ => rfl

theorem fresh_of_plain : ∀ m : Mode, m = .plain → m.fresh
  | _, rfl => rfl

theorem outside_of_plain : ∀ m : Mode, m = .plain → m.outside
  | _, rfl => rfl

theorem passes_separates {t : String} (h : Separates t) : Passes (·.outside) [.plain t] [] (· = .plain) := by
  intro s hs
  rw [chars_singleton, Piece.chars, scan_quiet h.1 hs h.2]
  exact ⟨rfl, rfl, rfl⟩

/-- A quiet text may be empty. -/
theorem emits_quiet {t : String} (h : Quiet t.toList) : Emits [.plain t] [] := by
  intro s hs
  by_cases ht : t.toList = []
  · rw [chars_singleton, Piece.chars, ht]
    exact ⟨outside_of_fresh _ hs, rfl, rfl⟩
  · exact (passes_separates ⟨h, ht⟩).imp outside_of_plain s (outside_of_fresh _ hs)

theorem emits_literal (t : String) : Emits [.literal t] [t] := by
  intro s hs
  rw [chars_singleton, Piece.chars, scan_literal t hs]
  exact ⟨rfl, rfl, rfl⟩

end Passing

/-! ## Frames -/

/-- The parts hold the literals, one after the other. -/
def EmitsAll : List (List Piece) → List String → Prop
  | [], ls => ls = []
  | p :: ps, ls => ∃ l l', ls = l ++ l' ∧ Emits p l ∧ EmitsAll ps l'

theorem EmitsAll.cons {p : List Piece} {ps : List (List Piece)} {l l' : List String} (h : Emits p l)
    (h' : EmitsAll ps l') : EmitsAll (p :: ps) (l ++ l') :=
  ⟨l, l', rfl, h, h'⟩

theorem EmitsAll.singleton {p : List Piece} {ls : List String} (h : Emits p ls) : EmitsAll [p] ls :=
  ⟨ls, [], (List.append_nil ls).symm, h, rfl⟩

section Frames

variable {f : Frame}

theorem passes_opens (hf : f.Sound) (hkind : f.kind ≠ .comment) : Passes (·.fresh) f.opens [] (·.fresh) := by
  have opening : Passes (·.fresh) [.plain f.opening] [] (· = .plain) :=
    fun s hs => passes_separates hf.opening s (outside_of_fresh _ hs)
  unfold Frame.opens
  cases hk : f.kind with
  | inline => exact opening.imp fresh_of_plain
  | signed =>
    refine opening.cons fun s hs => ?_
    obtain ⟨m, ls, b⟩ := s
    cases hs
    exact ⟨rfl, rfl, Bool.or_false b⟩
  | comment => exact absurd hk hkind

theorem passes_closes (hf : f.Sound) (hkind : f.kind ≠ .comment) : Passes (·.outside) f.closes [] (·.outside) := by
  unfold Frame.closes
  cases hk : f.kind with
  | inline | signed => exact (passes_separates hf.closing).imp outside_of_plain
  | comment => exact absurd hk hkind

theorem emits_weave (hf : f.Sound) : ∀ (i : Nat) {parts : List (List Piece)} {ls : List String}, EmitsAll parts ls →
    Emits (f.weave i parts) ls
  | _, [], _, h => by
    cases h
    exact fun s hs => ⟨outside_of_fresh _ hs, rfl, rfl⟩
  | _, [part], _, h => by
    obtain ⟨l, l', rfl, hpart, rfl⟩ := h
    rw [List.append_nil]
    exact hpart
  | i, part :: next :: parts, _, h => by
    obtain ⟨l, l', rfl, hpart, hrest⟩ := h
    have between : Passes (·.outside) [.plain (f.between i)] [] (·.fresh) :=
      (passes_separates (hf.between i)).imp fresh_of_plain
    exact hpart.append (between.cons (emits_weave hf (i + 1) hrest))

/-- **A frame that is no comment adds nothing to the literals of its parts.** -/
theorem emits_fill (hf : f.Sound) (hkind : f.kind ≠ .comment) {parts : List (List Piece)} {ls : List String}
    (h : EmitsAll parts ls) : Emits (f.fill parts) ls := by
  have hwhole := ((passes_opens hf hkind).append (emits_weave hf 0 h)).append (passes_closes hf hkind)
  rwa [List.nil_append, List.append_nil] at hwhole

end Frames

/-! ## Calls -/

/-- A style that is no comment and writes as many arguments as there are. -/
def Style.Fits (count : Nat) : Style → Prop
  | plain _ | joined _ => True
  | choice => count = 2 ∨ count = 3
  | fallback => count = 2
  | negation | first _ => count ≤ 1
  | note _ _ | unknown _ => False

theorem Style.Fits.kind {style : Style} {count : Nat} (h : style.Fits count) : style.frame.kind ≠ .comment := by
  cases style with
  | note | unknown => exact h.elim
  | plain | choice | fallback | joined | negation | first => intro hk; cases hk

theorem executableCall_iff {name : String} {count : Nat} : executableCall name count ↔
    name ∈ listFunctions ∨ name = "IF" ∧ (count = 2 ∨ count = 3) ∨ name = "IFERROR" ∧ count = 2 ∨
      name ∈ singleFunctions ∧ count ≤ 1 := by
  simp [executableCall, or_assoc]

/-- The names are in upper case already. -/
theorem upper_of_executableCall {name : String} {count : Nat} (h : executableCall name count) :
    Text.upper name = name := by
  rcases executableCall_iff.1 h with h | ⟨rfl, _⟩ | ⟨rfl, _⟩ | ⟨h, _⟩
  · exact (show ∀ n ∈ listFunctions, Text.upper n = n by decide) name h
  · decide
  · decide
  · exact (show ∀ n ∈ singleFunctions, Text.upper n = n by decide) name h

theorem style_fits {name : String} {count : Nat} (h : executableCall name count) : (style name count).Fits count := by
  rcases executableCall_iff.1 h with hname | ⟨rfl, hcount⟩ | ⟨rfl, rfl⟩ | ⟨hname, hcount⟩
  · simp only [listFunctions, List.mem_cons, List.not_mem_nil, or_false] at hname
    rcases hname with rfl | rfl | rfl | rfl | rfl | rfl | rfl | rfl | rfl | rfl | rfl | rfl <;> simp [style, Style.Fits]
  · rcases hcount with rfl | rfl <;> simp [style, Style.Fits]
  · simp [style, Style.Fits]
  · simp only [singleFunctions, List.mem_cons, List.not_mem_nil, or_false] at hname
    rcases hname with rfl | rfl | rfl | rfl | rfl <;> simpa [style, Style.Fits] using hcount

/-- The parts that such a style writes hold the literals of the arguments. -/
theorem emitsAll_parts {style : Style} {args : List (List Piece)} {ls : List String} (hfits : style.Fits args.length)
    (h : EmitsAll args ls) : EmitsAll (style.parts args) ls := by
  cases style with
  | plain | joined => exact h
  | note | unknown => exact hfits.elim
  | choice =>
    match args, hfits, h with
    | [a, b], _, h =>
      obtain ⟨l, _, rfl, ha, l', _, rfl, hb, rfl⟩ := h
      exact .cons ha (.cons hb (.singleton (emits_quiet (.of_calm (by decide)))))
    | [a, b, c], _, h => exact h
  | fallback =>
    match args, hfits, h with
    | [a, b], _, h => exact h
  | negation | first =>
    match args, hfits, h with
    | [], _, h => cases h; exact .singleton (emits_quiet (.of_calm (by decide)))
    | [a], _, h => exact h

section Trees

variable {names : Names} {current : Datum}

theorem emits_cell (hc : mapsToIdentifiers names.columns) (hs : mapsToIdentifiers names.sheets) {name sheet : String}
    (hname : Holds ['$'] name) (hsheet : (mapped names.sheets sheet).isSome) :
    Emits (cellPieces names current (.text name) (.text sheet)) [] := by
  have column : Emits [columnPiece names name] [] := emits_quiet (columnPiece_isQuiet hc hname)
  have hquiet := sheetPiece_isQuiet hs sheet
  unfold cellPieces
  cases hq : qualifier? current (.text sheet) with
  | none => exact column
  | some s =>
    cases eq_of_qualifier hq
    obtain ⟨t, ht⟩ := Option.isSome_iff_exists.1 hsheet
    have hpiece : sheetPiece names sheet = .plain t := by rw [sheetPiece, ht]
    have point : Passes (·.outside) [.plain "."] [] (·.fresh) :=
      (passes_separates (separates_of_calm (by decide))).imp fresh_of_plain
    show Emits [sheetPiece names sheet, .plain ".", columnPiece names name] []
    rw [hpiece] at hquiet ⊢
    exact (emits_quiet hquiet).cons (point.cons column)

mutual

/-- **The pieces of an executable tree hold exactly its texts.** -/
theorem emits_pieces (hc : mapsToIdentifiers names.columns) (hs : mapsToIdentifiers names.sheets) :
    ∀ {e : Expr}, e.Shaped → executable names e → Emits (pieces names current e) (texts e)
  | .number _, .missing, _ => by
    rw [pieces, texts]; exact emits_quiet (.of_calm (by decide))
  | .number _, .number hx, _ => by
    rw [pieces, texts]; exact emits_quiet (quiet_number hx)
  | .text _, .text s, _ => by
    rw [pieces, texts]; exact emits_literal s
  | .cell _ _, .cell hname, _ => by
    rw [pieces, texts]; exact emits_quiet (columnPiece_isQuiet hc hname)
  | .cell _ _, .sheetCell hname _, h => by
    rw [executable] at h
    rw [pieces, texts]; exact emits_cell hc hs hname h
  | .range _ _, .range _ _, h => by
    rw [executable] at h; cases h
  | .table _ _ _, .table column _ hname, _ => by
    obtain ⟨s, hcolumn, hholds⟩ := tableColumn_holds column hname
    rw [pieces, tablePieces, hcolumn, texts]; exact emits_quiet (quiet_of_holds hholds (by decide))
  | .binary symbol _ _, .binary hsymbol hl hr, h => by
    rw [executable, Bool.and_eq_true] at h
    rw [pieces, texts]
    refine emits_fill (binaryFrame_sound hsymbol) (by rw [binaryFrame_kind]; exact Frame.Kind.noConfusion) ?_
    exact .cons (emits_pieces hc hs hl h.1) (.singleton (emits_pieces hc hs hr h.2))
  | .unary _ _, .unary _ he, h => by
    rw [executable] at h
    rw [pieces, texts]
    split
    · exact emits_fill minusFrame_sound (fun hk => by cases hk) (.singleton (emits_pieces hc hs he h))
    · exact emits_pieces hc hs he h
  | .call (.text name) args, .call hname hargs, h => by
    rw [executable, Bool.and_eq_true] at h
    have hcall : executableCall name (piecesAll names current args).length := by
      rw [length_piecesAll]; exact h.1
    have hsound := frame_sound hname (piecesAll names current args).length
    rw [upper_of_executableCall hcall] at hsound
    rw [pieces, callPieces, upper_of_executableCall hcall, texts]
    exact emits_fill hsound (style_fits hcall).kind (emitsAll_parts (style_fits hcall) (emits_piecesAll hc hs hargs h.2))

theorem emits_piecesAll (hc : mapsToIdentifiers names.columns) (hs : mapsToIdentifiers names.sheets) :
    ∀ {es : List Expr}, (∀ e ∈ es, e.Shaped) → executableAll names es →
      EmitsAll (piecesAll names current es) (textsAll es)
  | [], _, _ => by rw [piecesAll, textsAll]; rfl
  | e :: es, h, hexec => by
    rw [executableAll, Bool.and_eq_true] at hexec
    obtain ⟨he, hes⟩ := List.forall_mem_cons.1 h
    rw [piecesAll, textsAll]
    exact .cons (emits_pieces hc hs he hexec.1) (emits_piecesAll hc hs hes hexec.2)

end

end Trees

/-- **Executable SQL holds exactly the texts of its formula.** A tree that is parsed from a formula and executable is
written as SQL in which a scan enters no comment, ends outside every literal, and decodes the texts of the tree in their
order. -/
theorem convert_executable_decoded {formula : String} {e : Expr} {pos : Nat}
    (hparse : Parser.parse (tokens formula) = .ok (e, pos)) {names : Names} (current : Datum)
    (hc : mapsToIdentifiers names.columns) (hs : mapsToIdentifiers names.sheets) (hexec : executable names e) :
    ∃ sql, convert names current e = .ok (.text sql) ∧ (scan sql).commented = false ∧ (scan sql).mode.outside ∧
      (scan sql).decoded = texts e := by
  obtain ⟨e', pos', hparse', hshaped⟩ := parse_tokens_shaped formula
  cases hparse.symm.trans hparse'
  obtain ⟨hmode, hliterals, hcommented⟩ := @emits_pieces names current hc hs e hshaped hexec Scan.start rfl
  refine ⟨_, convert_pieces hc hs hshaped, ?_⟩
  rw [scan, toList_sqlOf]
  refine ⟨hcommented, hmode, ?_⟩
  rw [Scan.decoded, hliterals]
  simp [Scan.start]

/-- Neighbouring texts, one of them empty, with a quote and with marks of comments, a minus sign and a mapped sheet. -/
theorem convert_executable_decoded_marks :
    ∃ e pos sql, Parser.parse (tokens "=IF('S'!A1>-B2,\"it's\",CONCAT(\"/*\",\"--\"))&TRIM(\"\")") = .ok (e, pos) ∧
      mapsToIdentifiers (.dict []) ∧ mapsToIdentifiers (.dict [("S", .text "sales")]) ∧
      executable ⟨.dict [], .dict [("S", .text "sales")]⟩ e ∧
      convert ⟨.dict [], .dict [("S", .text "sales")]⟩ .null e = .ok (.text sql) ∧
      (scan sql).commented = false ∧ (scan sql).mode.outside ∧ (scan sql).decoded = ["it's", "/*", "--", ""] := by
  have hc : mapsToIdentifiers (.dict []) := by decide
  have hs : mapsToIdentifiers (.dict [("S", .text "sales")]) := by decide
  obtain ⟨e, pos, hparse, _⟩ := parse_tokens_shaped "=IF('S'!A1>-B2,\"it's\",CONCAT(\"/*\",\"--\"))&TRIM(\"\")"
  have htree : (Parser.parse (tokens "=IF('S'!A1>-B2,\"it's\",CONCAT(\"/*\",\"--\"))&TRIM(\"\")")).toOption.any
      (fun r => executable ⟨.dict [], .dict [("S", .text "sales")]⟩ r.1 &&
        texts r.1 == ["it's", "/*", "--", ""]) = true := by
    decide +kernel
  rw [hparse] at htree
  obtain ⟨hexec, htexts⟩ := Bool.and_eq_true_iff.1 htree
  obtain ⟨sql, hsql, hcommented, hmode, hdecoded⟩ :=
    @convert_executable_decoded _ e pos hparse ⟨.dict [], .dict [("S", .text "sales")]⟩ .null hc hs hexec
  exact ⟨e, pos, sql, hparse, hc, hs, hexec, hsql, hcommented, hmode, hdecoded.trans (eq_of_beq htexts)⟩

end FormulaSql.Sql
