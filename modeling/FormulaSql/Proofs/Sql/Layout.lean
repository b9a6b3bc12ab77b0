import FormulaSql.Proofs.Sql.Quiet

/-!
# The layout of SQL

The SQL of a tree is a row of pieces (`pieces`): quiet texts, text literals, and raw texts that the scanner may react
to, which are signs, the marks of comments, and the names of sheets that are not mapped. An operation or a call is a
frame with the pieces of its operands in it (`Frame.fill`). For a tree of texts, and tables that map to texts, the pieces
are exactly what the converter writes (`convert_typed`). For a tree of a formula, and tables that map to identifiers,
their plain texts are quiet (`quiet_pieces`).
-/

namespace FormulaSql.Sql

/-! ## Pieces and frames -/

/-- A part of SQL. -/
inductive Piece where
  /-- A text in which the scanner finds nothing. -/
  | plain (s : String)
  | literal (s : String)
  /-- A text that the scanner may react to. -/
  | raw (s : String)

/-- The characters of a part. -/
def Piece.chars : Piece → List Char
  | plain s | raw s => s.toList
  | literal s => (Sql.literal s).toList

/-- The characters of a row of parts. -/
def chars (ps : List Piece) : List Char :=
  ps.flatMap Piece.chars

@[simp] theorem chars_nil : chars [] = [] := rfl

@[simp] theorem chars_cons (p : Piece) (ps : List Piece) : chars (p :: ps) = p.chars ++ chars ps := rfl

@[simp] theorem chars_append (ps qs : List Piece) : chars (ps ++ qs) = chars ps ++ chars qs :=
  List.flatMap_append

theorem chars_singleton (p : Piece) : chars [p] = p.chars := by
  rw [chars_cons, chars_nil, List.append_nil]

/-- The text of a row of parts. -/
def sqlOf (ps : List Piece) : String :=
  String.ofList (chars ps)

@[simp] theorem toList_sqlOf (ps : List Piece) : (sqlOf ps).toList = chars ps :=
  String.toList_ofList

/-- What is special about a frame. -/
inductive Frame.Kind where
  | inline
  /-- A minus sign stands before the first part. -/
  | signed
  /-- The whole is a comment. -/
  | comment

/-- What stands around parts and between them; the separators are counted. -/
structure Frame where
  kind : Frame.Kind
  opening : String
  between : Nat → String
  closing : String

namespace Frame

/-- The pieces before the parts. -/
def opens (f : Frame) : List Piece :=
  match f.kind with
  | .inline => [.plain f.opening]
  | .signed => [.plain f.opening, .raw "-"]
  | .comment => [.raw "/*", .plain f.opening]

/-- The pieces behind the parts. -/
def closes (f : Frame) : List Piece :=
  match f.kind with
  | .inline | .signed => [.plain f.closing]
  | .comment => [.plain f.closing, .raw "*/"]

/-- Puts separators from the number `i` on between parts. -/
def weave (f : Frame) (i : Nat) : List (List Piece) → List Piece
  | [] => []
  | [p] => p
  | p :: q :: ps => p ++ .plain (f.between i) :: f.weave (i + 1) (q :: ps)

/-- Puts parts into a frame. -/
def fill (f : Frame) (parts : List (List Piece)) : List Piece :=
  f.opens ++ f.weave 0 parts ++ f.closes

/-- The same separator everywhere. -/
def uniform (kind : Kind) (opening separator closing : String) : Frame :=
  ⟨kind, opening, fun _ => separator, closing⟩

theorem chars_weave (kind : Kind) (opening separator closing : String) : ∀ (i : Nat) (ps : List (List Piece)),
    chars ((uniform kind opening separator closing).weave i ps) = (separator.intercalate (ps.map sqlOf)).toList
  | _, [] => rfl
  | _, [p] => by simp [weave]
  | i, p :: q :: ps => by
    have ih := chars_weave kind opening separator closing (i + 1) (q :: ps)
    rw [List.map_cons] at ih
    rw [weave, chars_append, chars_cons, ih, List.map_cons, List.map_cons, String.intercalate_cons_cons]
    simp [Piece.chars, uniform]

theorem chars_fill_uniform (kind : Kind) (opening separator closing : String) (ps : List (List Piece)) :
    chars ((uniform kind opening separator closing).fill ps) =
      chars (uniform kind opening separator closing).opens ++ (separator.intercalate (ps.map sqlOf)).toList ++
        chars (uniform kind opening separator closing).closes := by
  rw [fill, chars_append, chars_append, chars_weave]

end Frame

/-- The frame of a binary operation. -/
def binaryFrame (symbol : String) : Frame :=
  if operator symbol = "POWER" then .uniform .inline "POWER(" ", " ")"
  else .uniform .inline "(" (" " ++ operator symbol ++ " ") ")"

theorem binaryFrame_kind (symbol : String) : (binaryFrame symbol).kind = .inline := by
  unfold binaryFrame
  split <;> rfl

/-- The frame of a minus sign; there is only one part. -/
def minusFrame : Frame :=
  .uniform .signed "(" ", " ")"

/-- The frame of a range, which has no parts. -/
def rangeFrame (name : String) : Frame :=
  .uniform .comment (" RANGE: " ++ name) ", " " "

namespace Style

/-- The frame of a call. -/
def frame : Style → Frame
  | plain name => .uniform .inline (name ++ "(") ", " ")"
  | choice => ⟨.inline, "CASE WHEN ", fun i => if i = 0 then " THEN " else " ELSE ", " END"⟩
  | fallback => .uniform .inline "COALESCE(" ", " ")"
  | joined connective => .uniform .inline "(" (" " ++ connective ++ " ") ")"
  | negation => .uniform .inline "NOT (" ", " ")"
  | note name goal => .uniform .comment (" TODO: " ++ name ++ "(") ", " (") - Convert to " ++ goal ++ " ")
  | first name => .uniform .inline (name ++ "(") ", " ")"
  | unknown name => .uniform .comment (" " ++ name ++ "(") ", " ") "

/-- The pieces of an argument, or a default. -/
def part (args : List (List Piece)) (i : Nat) (default : String) : List Piece :=
  args[i]?.getD [.plain default]

/-- The arguments that are written, with defaults for those that are missing. -/
def parts (style : Style) (args : List (List Piece)) : List (List Piece) :=
  match style with
  | plain _ | joined _ | note _ _ | unknown _ => args
  | choice => [part args 0 "", part args 1 "", part args 2 "NULL"]
  | fallback => [part args 0 "", part args 1 ""]
  | negation => [part args 0 "TRUE"]
  | first _ => [part args 0 "NULL"]

theorem sqlOf_part (args : List (List Piece)) (i : Nat) (default : String) :
    sqlOf (part args i default) = argument (args.map sqlOf) i default := by
  unfold part argument
  rw [List.getElem?_map]
  cases args[i]? <;> simp [sqlOf, Piece.chars]

theorem chars_part (args : List (List Piece)) (i : Nat) (default : String) :
    chars (part args i default) = (argument (args.map sqlOf) i default).toList := by
  rw [← sqlOf_part, toList_sqlOf]

/-- Frame and arguments are what the style writes. -/
theorem sqlOf_fill (style : Style) (args : List (List Piece)) :
    sqlOf (style.frame.fill (style.parts args)) = style.write (args.map sqlOf) := by
  rw [← String.toList_inj, toList_sqlOf]
  unfold Style.write
  cases style with
  | choice => simp [frame, parts, Frame.fill, Frame.opens, Frame.closes, Frame.weave, chars_part, Piece.chars]
  | fallback | negation | first =>
    simp only [frame, parts, Frame.chars_fill_uniform]
    simp [Frame.uniform, Frame.opens, Frame.closes, sqlOf_part, Piece.chars, -String.toList_intercalate]
  | plain | joined | note | unknown =>
    simp only [frame, parts, Frame.chars_fill_uniform]
    simp [Frame.uniform, Frame.opens, Frame.closes, Piece.chars]

end Style

/-! ## Tables of names -/

/-- A nonempty text of letters, digits and underscores. -/
def isIdentifier (s : String) : Bool :=
  !s.isEmpty && s.toList.all Text.isWord

/-- A table all of whose values are identifiers. -/
def mapsToIdentifiers : Datum → Bool
  | .dict entries => entries.all fun entry => match entry.2 with
    | .text s => isIdentifier s
    | _ => false
  | _ => false

/-- A table all of whose values are texts. -/
def mapsToTexts : Datum → Bool
  | .dict entries => entries.all fun entry => entry.2.kind == .text
  | _ => false

/-- The text that a table maps a name to. -/
def mapped (table : Datum) (name : String) : Option String :=
  match table with
  | .dict entries => match entries.lookup name with
    | some (.text s) => some s
    | _ => none
  | _ => none

section Tables

variable {table : Datum}

theorem isIdentifier_of_mapped (h : mapsToIdentifiers table) {name s : String} (hs : mapped table name = some s) :
    isIdentifier s := by
  unfold mapped at hs
  split at hs
  · rename_i entries
    split at hs
    · rename_i t ht
      cases hs
      obtain ⟨l₁, l₂, rfl, _⟩ := List.lookup_eq_some_iff.1 ht
      exact List.all_eq_true.1 h (name, .text s) (by simp)
    · cases hs
  · cases hs

theorem holds_of_isIdentifier {s : String} (h : isIdentifier s) : Holds [] s := by
  simp only [isIdentifier, Bool.and_eq_true] at h
  exact holds_of_isWord (List.all_eq_true.1 h.2)

theorem mapsToTexts_of_identifiers (h : mapsToIdentifiers table) : mapsToTexts table := by
  cases table with
  | dict entries =>
    refine List.all_eq_true.2 fun entry hentry => ?_
    have hvalue := List.all_eq_true.1 h entry hentry
    obtain ⟨key, value⟩ := entry
    cases value with
    | text s => rfl
    | _ => cases hvalue
  | _ => cases h

/-- A look-up gives the mapped text or the fallback. -/
theorem lookup_text (h : mapsToTexts table) (name fallback : String) :
    lookup table (.text name) (.ok fallback) = .ok (.text ((mapped table name).getD fallback)) := by
  cases table with
  | dict entries =>
    show Except.ok ((entries.lookup name).getD (.text fallback)) = _
    cases he : entries.lookup name with
    | none => simp [mapped, he]
    | some v =>
      obtain ⟨l₁, l₂, rfl, _⟩ := List.lookup_eq_some_iff.1 he
      have hv := List.all_eq_true.1 h (name, v) (by simp)
      cases v with
      | text s => simp [mapped, he]
      | _ => cases hv
  | _ => cases h

end Tables

/-! ## The pieces of a tree -/

section Pieces

variable (names : Names) (current : Datum)

/-- The sheet that qualifies a cell: the one of the cell, if it is present and not the current one. -/
def qualifier? (sheet : Datum) : Option String :=
  match sheet with
  | .text s => if sheet.isPresent && !sheet.agrees current then some s else none
  | _ => none

variable {current} in
theorem eq_of_qualifier {sheet s : String} (h : qualifier? current (.text sheet) = some s) : s = sheet := by
  unfold qualifier? at h
  dsimp only at h
  split at h
  · exact (Option.some.inj h).symm
  · cases h

/-- A sheet name is raw unless it is mapped. -/
def sheetPiece (sheet : String) : Piece :=
  match mapped names.sheets sheet with
  | some s => .plain s
  | none => .raw (Text.lower sheet)

/-- The column of a cell. -/
def columnPiece (name : String) : Piece :=
  .plain ((mapped names.columns (columnLetters name)).getD (Text.lower (columnLetters name)))

/-- The pieces of a cell. -/
def cellPieces (name sheet : Datum) : List Piece :=
  match name, qualifier? current sheet with
  | .text name, some s => [sheetPiece names s, .plain ".", columnPiece names name]
  | .text name, none => [columnPiece names name]
  | _, _ => []

/-- The pieces of a text. -/
def textPieces : Datum → List Piece
  | .text s => [.literal s]
  | _ => []

/-- The pieces of a table reference. -/
def tablePieces (table column : Datum) : List Piece :=
  match tableColumn table column with
  | .ok (.text s) => [.plain s]
  | _ => []

/-- The pieces of a call. -/
def callPieces (name : Datum) (args : List (List Piece)) : List Piece :=
  match name with
  | .text name => (style (Text.upper name) args.length).frame.fill ((style (Text.upper name) args.length).parts args)
  | _ => []

mutual

/-- The pieces of a tree. Trees that no formula has may have none. -/
def pieces : Expr → List Piece
  | .number value => [.plain value.text]
  | .text value => textPieces value
  | .cell name sheet => cellPieces names current name sheet
  | .range name _ => (rangeFrame name).fill []
  | .table table column _ => tablePieces table column
  | .binary symbol left right => (binaryFrame symbol).fill [pieces left, pieces right]
  | .unary symbol operand => if symbol = "-" then minusFrame.fill [pieces operand] else pieces operand
  | .call name args => callPieces name (piecesAll args)
  | .blank => [.plain "NULL"]

/-- The pieces of each argument. -/
def piecesAll : List Expr → List (List Piece)
  | [] => []
  | e :: es => pieces e :: piecesAll es

end

end Pieces

/-! ## What the converter writes -/

section Writes

variable {names : Names} {current : Datum}

theorem cell_pieces (hc : mapsToTexts names.columns) (name : String) :
    cell names current (.text name) .null = .ok (.text (sqlOf (cellPieces names current (.text name) .null))) := by
  show lookup names.columns (.text (columnLetters name)) _ >>= (fun column => Except.ok column) = _
  rw [lookup_text hc]
  simp [cellPieces, qualifier?, columnPiece, sqlOf, Piece.chars, bind, Except.bind]

theorem sheetCell_pieces (hc : mapsToTexts names.columns) (hs : mapsToTexts names.sheets)
    (name sheet : String) :
    cell names current (.text name) (.text sheet) =
      .ok (.text (sqlOf (cellPieces names current (.text name) (.text sheet)))) := by
  have hsheet : ((mapped names.sheets sheet).getD (Text.lower sheet)).toList = (sheetPiece names sheet).chars := by
    unfold sheetPiece
    cases mapped names.sheets sheet <;> rfl
  unfold cell cellPieces qualifier?
  dsimp only
  rw [lookup_text hc]
  by_cases hq : ((Datum.text sheet).isPresent && !(Datum.text sheet).agrees current) = true
  · simp only [hq, if_true, lowerCase, lookup_text hs, bind, Except.bind]
    show Except.ok (Datum.text (_ ++ "." ++ _)) = _
    congr 2
    rw [← String.toList_inj]
    simp [Datum.spell, hsheet, columnPiece, Piece.chars]
  · simp [hq, columnPiece, sqlOf, Piece.chars, bind, Except.bind, pure, Except.pure]

theorem sqlOf_range (name : String) : sqlOf ((rangeFrame name).fill []) = "/* RANGE: " ++ name ++ " */" := by
  rw [← String.toList_inj, toList_sqlOf, rangeFrame, Frame.chars_fill_uniform]
  simp [Frame.uniform, Frame.opens, Frame.closes, Piece.chars]

theorem sqlOf_binary (symbol : String) (l r : List Piece) :
    sqlOf ((binaryFrame symbol).fill [l, r]) = binary symbol (sqlOf l) (sqlOf r) := by
  rw [← String.toList_inj, toList_sqlOf]
  unfold binaryFrame binary
  by_cases hp : operator symbol = "POWER"
  · rw [if_pos hp, if_pos hp, Frame.chars_fill_uniform]
    simp [Frame.uniform, Frame.opens, Frame.closes, Piece.chars]
  · rw [if_neg hp, if_neg hp, Frame.chars_fill_uniform]
    simp [Frame.uniform, Frame.opens, Frame.closes, Piece.chars]

theorem sqlOf_minus (p : List Piece) : sqlOf (minusFrame.fill [p]) = "(-" ++ sqlOf p ++ ")" := by
  rw [← String.toList_inj, toList_sqlOf, minusFrame, Frame.chars_fill_uniform]
  simp [Frame.uniform, Frame.opens, Frame.closes, Piece.chars]

theorem firstNotText_map (ss : List String) : ∀ i, firstNotText? i (ss.map Datum.text) = none := by
  induction ss with
  | nil => exact fun _ => rfl
  | cons _ _ ih => exact fun i => ih (i + 1)

theorem call_text (name : String) (ss : List String) :
    call name (ss.map Datum.text) = .ok (.text ((style name ss.length).write ss)) := by
  have hnone : (if (style name (ss.map Datum.text).length).joins then firstNotText? 0 (ss.map Datum.text) else none) =
      none := by
    rw [firstNotText_map, ite_self]
  unfold call
  dsimp only
  rw [hnone, List.length_map, List.map_map]
  have hspell : (Datum.spell ∘ Datum.text : String → String) = id := rfl
  rw [hspell, List.map_id]

theorem length_piecesAll : ∀ es : List Expr, (piecesAll names current es).length = es.length
  | [] => by simp [piecesAll]
  | e :: es => by simp [piecesAll, length_piecesAll es]

theorem tableColumn_text (table column : String) : ∃ s, tableColumn (.text table) (.text column) = .ok (.text s) := by
  unfold tableColumn
  dsimp only
  split
  · exact ⟨_, rfl⟩
  · split
    · exact ⟨_, rfl⟩
    · exact ⟨_, rfl⟩

mutual

/-- **The pieces of a tree of texts are what the converter writes**, whatever texts the tables map to. -/
theorem convert_typed (hc : mapsToTexts names.columns) (hs : mapsToTexts names.sheets) :
    ∀ {e : Expr}, e.Typed → convert names current e = .ok (.text (sqlOf (pieces names current e)))
  | .number v, _ => by simp [convert, pieces, sqlOf, Piece.chars]
  | .text _, .text s => by simp [convert, pieces, textPieces, sqlOf, Piece.chars]
  | .cell _ _, .cell _ => cell_pieces hc _
  | .cell _ _, .sheetCell _ _ => sheetCell_pieces hc hs _ _
  | .range name _, .range _ _ => by rw [convert, pieces, sqlOf_range]
  | .table _ _ _, .table name column _ => by
    obtain ⟨s, hcol⟩ := tableColumn_text name column
    simp [convert, pieces, tablePieces, hcol, sqlOf, Piece.chars]
  | .binary s _ _, .binary _ hl hr => by
    rw [convert, convert_typed hc hs hl, convert_typed hc hs hr, pieces, sqlOf_binary]; rfl
  | .unary s _, .unary _ he => by
    rw [convert, convert_typed hc hs he, pieces]
    show Except.ok (unary s (.text _)) = _
    unfold unary
    split
    · rw [sqlOf_minus]; rfl
    · rfl
  | .call _ args, .call _ hargs => by
    rw [convert, convertAll_typed hc hs hargs, pieces, callPieces, Style.sqlOf_fill, ← List.length_map sqlOf,
      ← call_text]
    simp only [upperCase, bind, Except.bind]
  | .blank, _ => by simp [convert, pieces, sqlOf, Piece.chars]

/-- So they are for the arguments of a call. -/
theorem convertAll_typed (hc : mapsToTexts names.columns) (hs : mapsToTexts names.sheets) :
    ∀ {es : List Expr}, (∀ e ∈ es, e.Typed) →
      convertAll names current es = .ok (((piecesAll names current es).map sqlOf).map Datum.text)
  | [], _ => by simp [convertAll, piecesAll]
  | e :: es, h => by
    rw [convertAll, convert_typed hc hs (h e List.mem_cons_self),
      convertAll_typed hc hs fun a ha => h a (List.mem_cons_of_mem e ha), piecesAll]
    rfl

end

/-- The pieces of a tree of a formula are what the converter writes. -/
theorem convert_pieces (hc : mapsToIdentifiers names.columns) (hs : mapsToIdentifiers names.sheets) {e : Expr}
    (h : e.Shaped) : convert names current e = .ok (.text (sqlOf (pieces names current e))) :=
  convert_typed (mapsToTexts_of_identifiers hc) (mapsToTexts_of_identifiers hs) h.typed

end Writes

/-! ## Plain pieces are quiet -/

/-- A plain piece is a quiet text. -/
def Piece.IsQuiet : Piece → Prop
  | plain s => Quiet s.toList
  | literal _ | raw _ => True

/-- A quiet text that keeps its neighbours apart. -/
def Separates (s : String) : Prop :=
  Quiet s.toList ∧ s.toList ≠ []

theorem separates_of_calm {s : String} (h : s.toList ≠ [] ∧ ∀ c ∈ s.toList, Calm c) : Separates s :=
  ⟨.of_calm h.2, h.1⟩

/-- Text on the left and a separating text on the right. -/
theorem Separates.append {s t : String} (hs : Quiet s.toList) (ht : Separates t) : Separates (s ++ t) := by
  unfold Separates
  rw [String.toList_append]
  exact ⟨hs.append ht.1, List.append_ne_nil_of_right_ne_nil _ ht.2⟩

/-- A frame whose texts separate. -/
structure Frame.Sound (f : Frame) : Prop where
  opening : Separates f.opening
  between : ∀ i, Separates (f.between i)
  closing : Separates f.closing

namespace Frame.Sound

variable {f : Frame}

theorem uniform {kind : Kind} {opening separator closing : String} (ho : Separates opening) (hs : Separates separator)
    (hc : Separates closing) : (Frame.uniform kind opening separator closing).Sound :=
  ⟨ho, fun _ => hs, hc⟩

theorem isQuiet_opens (hf : f.Sound) : ∀ p ∈ f.opens, p.IsQuiet := by
  unfold opens
  cases f.kind with
  | inline => exact List.forall_mem_singleton.2 hf.opening.1
  | signed => exact List.forall_mem_cons.2 ⟨hf.opening.1, List.forall_mem_singleton.2 trivial⟩
  | comment => exact List.forall_mem_cons.2 ⟨trivial, List.forall_mem_singleton.2 hf.opening.1⟩

theorem isQuiet_closes (hf : f.Sound) : ∀ p ∈ f.closes, p.IsQuiet := by
  unfold closes
  cases f.kind with
  | inline | signed => exact List.forall_mem_singleton.2 hf.closing.1
  | comment => exact List.forall_mem_cons.2 ⟨hf.closing.1, List.forall_mem_singleton.2 trivial⟩

theorem isQuiet_weave (hf : f.Sound) : ∀ (i : Nat) {parts : List (List Piece)},
    (∀ part ∈ parts, ∀ p ∈ part, p.IsQuiet) → ∀ p ∈ f.weave i parts, p.IsQuiet
  | _, [], _ => List.forall_mem_nil _
  | _, [part], h => h part List.mem_cons_self
  | i, part :: next :: parts, h => by
    obtain ⟨hpart, hrest⟩ := List.forall_mem_cons.1 h
    exact List.forall_mem_append.2 ⟨hpart, List.forall_mem_cons.2 ⟨(hf.between i).1, hf.isQuiet_weave (i + 1) hrest⟩⟩

theorem isQuiet_fill (hf : f.Sound) {parts : List (List Piece)} (h : ∀ part ∈ parts, ∀ p ∈ part, p.IsQuiet) :
    ∀ p ∈ f.fill parts, p.IsQuiet :=
  List.forall_mem_append.2 ⟨List.forall_mem_append.2 ⟨hf.isQuiet_opens, hf.isQuiet_weave 0 h⟩, hf.isQuiet_closes⟩

end Frame.Sound

/-- The names that a style writes are calm. -/
def Style.Named : Style → Prop
  | plain name | first name | unknown name | joined name => ∀ c ∈ name.toList, Calm c
  | note name goal => (∀ c ∈ name.toList, Calm c) ∧ ∀ c ∈ goal.toList, Calm c
  | choice | fallback | negation => True

theorem style_named {name : String} (h : ∀ c ∈ name.toList, Calm c) (count : Nat) : (style name count).Named := by
  have step {c : Prop} [Decidable c] {s t : Style} (hs : s.Named) (ht : t.Named) : (if c then s else t).Named :=
    iteInduction (fun _ => hs) fun _ => ht
  have word {s : String} (hs : ∀ c ∈ s.toList, Calm c) :
      (Style.joined s).Named ∧ (Style.first s).Named ∧ (Style.plain s).Named := ⟨hs, hs, hs⟩
  unfold style
  refine step h (step trivial (step trivial (step (word (by decide)).1 (step (word (by decide)).1 (step trivial ?_)))))
  refine step ⟨h, by decide⟩ (step ⟨h, by decide⟩ (step (word (by decide)).2.1 (step (word (by decide)).2.2 (step h h))))

theorem Style.Named.frame {style : Style} (h : style.Named) : style.frame.Sound := by
  have comma : Separates ", " := separates_of_calm (by decide)
  have paren : Separates ")" := separates_of_calm (by decide)
  have blank : Separates " " := separates_of_calm (by decide)
  have named {name : String} (hn : ∀ c ∈ name.toList, Calm c) : Separates (name ++ "(") :=
    .append (.of_calm hn) (separates_of_calm (by decide))
  cases style with
  | plain name | first name => exact .uniform (named h) comma paren
  | choice =>
    refine ⟨separates_of_calm (by decide), fun i => ?_, separates_of_calm (by decide)⟩
    show Separates (if i = 0 then " THEN " else " ELSE ")
    split <;> exact separates_of_calm (by decide)
  | fallback | negation => exact .uniform (separates_of_calm (by decide)) comma paren
  | joined connective =>
    refine .uniform (separates_of_calm (by decide)) ?_ paren
    rw [String.append_assoc]
    exact .append (.of_calm (by decide)) (.append (.of_calm h) blank)
  | note name goal =>
    -- the hyphen stands alone between two blanks
    have hyphen : Quiet ") - Convert to ".toList :=
      .calm (by decide) (.lone (by decide) (by decide) (by decide) (by decide) (.of_calm (by decide)))
    refine .uniform ?_ comma ?_
    · rw [String.append_assoc]
      exact .append (.of_calm (by decide)) (named h.1)
    · rw [String.append_assoc]
      exact .append hyphen (.append (.of_calm h.2) blank)
  | unknown name =>
    refine .uniform ?_ comma (separates_of_calm (by decide))
    rw [String.append_assoc]
    exact .append (.of_calm (by decide)) (named h)

/-- What holds of the arguments and of quiet texts holds of all parts that a style writes. -/
theorem Style.forall_parts {P : List Piece → Prop} (hquiet : ∀ {s : String}, Quiet s.toList → P [.plain s])
    (style : Style) {args : List (List Piece)} (h : ∀ a ∈ args, P a) : ∀ part ∈ style.parts args, P part := by
  have hpart (i : Nat) {default : String} (hd : Quiet default.toList) : P (part args i default) := by
    unfold part
    cases ha : args[i]? with
    | none => exact hquiet hd
    | some a => exact h a (List.mem_of_getElem? ha)
  cases style with
  | plain | joined | note | unknown => exact h
  | choice =>
    refine List.forall_mem_cons.2 ⟨hpart 0 .nil, List.forall_mem_cons.2 ⟨hpart 1 .nil, ?_⟩⟩
    exact List.forall_mem_singleton.2 (hpart 2 (.of_calm (by decide)))
  | fallback => exact List.forall_mem_cons.2 ⟨hpart 0 .nil, List.forall_mem_singleton.2 (hpart 1 .nil)⟩
  | negation | first => exact List.forall_mem_singleton.2 (hpart 0 (.of_calm (by decide)))

/-- An operator stands between blanks. -/
theorem separates_operator {s : String} (hs : s ∈ operators) : Separates (" " ++ operator s ++ " ") := by
  have h : ∀ s ∈ operators, (operator s).toList ∈ [['-'], ['*'], ['/']] ∨ ∀ c ∈ (operator s).toList, Calm c := by decide
  have lone {c : Char} (hq : c ≠ '\x27') (hn : c ≠ '\n') : Quiet ([' '] ++ [c] ++ [' ']) :=
    .lone (by decide) hq hn (by decide) .nil
  refine ⟨?_, by simp⟩
  rw [String.toList_append, String.toList_append]
  rcases h s hs with h | h
  · simp only [List.mem_cons, List.not_mem_nil, or_false] at h
    rcases h with h | h | h <;> rw [h] <;> exact lone (by decide) (by decide)
  · exact (Quiet.append (.of_calm (by decide)) (.of_calm h)).append (.of_calm (by decide))

theorem binaryFrame_sound {s : String} (hs : s ∈ operators) : (binaryFrame s).Sound := by
  have paren : Separates ")" := separates_of_calm (by decide)
  unfold binaryFrame
  split
  · exact .uniform (separates_of_calm (by decide)) (separates_of_calm (by decide)) paren
  · exact .uniform (separates_of_calm (by decide)) (separates_operator hs) paren

theorem minusFrame_sound : minusFrame.Sound :=
  .uniform (separates_of_calm (by decide)) (separates_of_calm (by decide)) (separates_of_calm (by decide))

theorem rangeFrame_sound {name : String} (h : Holds ['$'] name) : (rangeFrame name).Sound := by
  have blank : Separates " " := separates_of_calm (by decide)
  refine .uniform ⟨?_, by simp⟩ (separates_of_calm (by decide)) blank
  rw [String.toList_append]
  exact .append (.of_calm (by decide)) (quiet_of_holds h (by decide))

/-- The name of a function in a formula makes a sound frame. -/
theorem frame_sound {name : String} (h : Holds ['.'] name) (count : Nat) :
    (style (Text.upper name) count).frame.Sound :=
  (style_named (calm_of_holds (holds_upper h) (by decide)) count).frame

section Trees

variable {names : Names} {current : Datum}

theorem columnPiece_isQuiet (hc : mapsToIdentifiers names.columns) {name : String} (h : Holds ['$'] name) :
    (columnPiece names name).IsQuiet := by
  show Quiet ((mapped names.columns (columnLetters name)).getD _).toList
  cases hm : mapped names.columns (columnLetters name) with
  | none => exact quiet_of_holds (holds_lower (holds_columnLetters h)) (by decide)
  | some s => exact quiet_of_holds (holds_of_isIdentifier (isIdentifier_of_mapped hc hm)) (by decide)

theorem sheetPiece_isQuiet (hs : mapsToIdentifiers names.sheets) (sheet : String) : (sheetPiece names sheet).IsQuiet := by
  unfold sheetPiece
  cases hm : mapped names.sheets sheet with
  | none => trivial
  | some s => exact quiet_of_holds (holds_of_isIdentifier (isIdentifier_of_mapped hs hm)) (by decide)

theorem cellPieces_isQuiet (hc : mapsToIdentifiers names.columns) (hs : mapsToIdentifiers names.sheets) {name : String}
    (h : Holds ['$'] name) (sheet : Datum) : ∀ p ∈ cellPieces names current (.text name) sheet, p.IsQuiet := by
  have column := List.forall_mem_singleton.2 (columnPiece_isQuiet hc h)
  unfold cellPieces
  cases qualifier? current sheet with
  | none => exact column
  | some s =>
    exact List.forall_mem_cons.2 ⟨sheetPiece_isQuiet hs s, List.forall_mem_cons.2 ⟨.of_calm (by decide), column⟩⟩

mutual

/-- **The plain pieces of a tree are quiet.** -/
theorem quiet_pieces (hc : mapsToIdentifiers names.columns) (hs : mapsToIdentifiers names.sheets) :
    ∀ {e : Expr}, e.Shaped → ∀ p ∈ pieces names current e, p.IsQuiet
  | .number _, .missing => by
    rw [pieces]; exact List.forall_mem_singleton.2 (.of_calm (by decide))
  | .number _, .number hx => by
    rw [pieces]; exact List.forall_mem_singleton.2 (quiet_number hx)
  | .text _, .text _ => by
    rw [pieces]; exact List.forall_mem_singleton.2 trivial
  | .cell _ _, .cell h | .cell _ _, .sheetCell h _ => by
    rw [pieces]; exact cellPieces_isQuiet hc hs h _
  | .range _ _, .range _ h => by
    rw [pieces]
    exact (rangeFrame_sound h).isQuiet_fill (List.forall_mem_nil _)
  | .table _ _ _, .table column _ h => by
    obtain ⟨s, hcol, hs⟩ := tableColumn_holds column h
    rw [pieces, tablePieces, hcol]
    exact List.forall_mem_singleton.2 (quiet_of_holds hs (by decide))
  | .binary _ _ _, .binary h hl hr => by
    rw [pieces]
    refine (binaryFrame_sound h).isQuiet_fill (List.forall_mem_cons.2 ⟨quiet_pieces hc hs hl, ?_⟩)
    exact List.forall_mem_singleton.2 (quiet_pieces hc hs hr)
  | .unary s _, .unary _ he => by
    rw [pieces]
    split
    · exact minusFrame_sound.isQuiet_fill (List.forall_mem_singleton.2 (quiet_pieces hc hs he))
    · exact quiet_pieces hc hs he
  | .call _ _, .call h hargs => by
    rw [pieces, callPieces]
    refine (frame_sound h _).isQuiet_fill (Style.forall_parts ?_ _ (quiet_piecesAll hc hs hargs))
    exact fun hquiet => List.forall_mem_singleton.2 hquiet

theorem quiet_piecesAll (hc : mapsToIdentifiers names.columns) (hs : mapsToIdentifiers names.sheets) :
    ∀ {es : List Expr}, (∀ e ∈ es, e.Shaped) → ∀ part ∈ piecesAll names current es, ∀ p ∈ part, p.IsQuiet
  | [], _ => by rw [piecesAll]; exact List.forall_mem_nil _
  | e :: es, h => by
    rw [piecesAll]
    obtain ⟨he, hes⟩ := List.forall_mem_cons.1 h
    exact List.forall_mem_cons.2 ⟨quiet_pieces hc hs he, quiet_piecesAll hc hs hes⟩

end

end Trees

end FormulaSql.Sql
