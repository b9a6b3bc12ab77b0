import FormulaSql.Proofs.Sql.Fragment

/-!
# Operands of SQL

An operation writes its operands as they are and puts parentheses only around itself. So it depends on each operand that
no operator next to it can take it apart. `Operand` says what the operands look like: numbers, literals, identifiers,
texts in one pair of parentheses, calls and choices delimit themselves; a negation does not, since `NOT` binds looser than
comparison and arithmetic. The converter writes nothing else (`operand_pieces`), and exactly the trees that are negations,
up to signs that leave no trace, are not delimited (`convert_operand`).
-/

namespace FormulaSql.Sql

/-! ## Matching parentheses -/

/-- A text whose parentheses match, those in literals apart. -/
inductive Nested : List Char → Prop
  | nil : Nested []
  | other {c : Char} {cs : List Char} : c ∉ ['(', ')', '\x27'] → Nested cs → Nested (c :: cs)
  | literal (s : List Char) {cs : List Char} : Nested cs → Nested (enclosed '\x27' s ++ cs)
  | pair {body cs : List Char} : Nested body → Nested cs → Nested ('(' :: (body ++ ')' :: cs))

namespace Nested

variable {cs ds : List Char}

theorem append (h : Nested cs) (h' : Nested ds) : Nested (cs ++ ds) := by
  induction h with
  | nil => exact h'
  | other hc _ ih => exact .other hc ih
  | literal s _ ih => rw [List.append_assoc]; exact .literal s ih
  | pair hbody _ _ ih =>
    rw [List.cons_append, List.append_assoc, List.cons_append]
    exact .pair hbody ih

theorem of_others (h : ∀ c ∈ cs, c ∉ ['(', ')', '\x27']) : Nested cs := by
  induction cs with
  | nil => exact .nil
  | cons c cs ih =>
    obtain ⟨hc, hcs⟩ := List.forall_mem_cons.1 h
    exact .other hc (ih hcs)

theorem enclosed (s : List Char) : Nested (Sql.enclosed '\x27' s) := by
  rw [← List.append_nil (Sql.enclosed _ _)]
  exact .literal s .nil

theorem parenthesized (h : Nested cs) : Nested ('(' :: (cs ++ [')'])) :=
  .pair h .nil

theorem of_upper (h : ∀ c ∈ cs, c.isUpper) : Nested cs :=
  of_others fun c hc => upper_all (P := (· ∉ ['(', ')', '\x27'])) (by decide) (h c hc)

/-- A text without characters before the digits. -/
theorem of_holds {s : String} (h : Holds [] s) : Nested s.toList :=
  of_others fun c hc hmark => by
    have hlow : Text.Low c := by
      simp only [List.mem_cons, List.not_mem_nil, or_false] at hmark
      rcases hmark with rfl | rfl | rfl <;> decide
    exact absurd (h c hc hlow) List.not_mem_nil

/-- Nested parts between nested separators. -/
theorem weave {f : Frame} (hf : ∀ i, Nested (f.between i).toList) : ∀ (i : Nat) {parts : List (List Piece)},
    (∀ p ∈ parts, Nested (chars p)) → Nested (chars (f.weave i parts))
  | _, [], _ => .nil
  | _, [p], h => h p List.mem_cons_self
  | i, p :: q :: ps, h => by
    obtain ⟨hp, hrest⟩ := List.forall_mem_cons.1 h
    rw [Frame.weave, chars_append, chars_cons]
    exact hp.append ((hf i).append (weave hf (i + 1) hrest))

end Nested

/-! ## The forms of operands -/

/-- The text of a number. -/
def IsNumber (cs : List Char) : Prop :=
  Numeral cs ∨ cs ∈ ["inf".toList, "-inf".toList, "nan".toList]

/-- The texts that stand as operands, and whether they are negations. All others delimit themselves. -/
inductive Operand : (negation : Bool) → List Char → Prop
  | number {cs : List Char} : IsNumber cs → Operand false cs
  | literal (s : List Char) : Operand false (enclosed '\x27' s)
  | identifier {s : String} : isIdentifier s → Operand false s.toList
  | group {body : List Char} : Nested body → Operand false ('(' :: (body ++ [')']))
  | call {name body : List Char} : name ≠ [] → (∀ c ∈ name, c.isUpper) → Nested body →
      Operand false (name ++ '(' :: (body ++ [')']))
  | choice {i j k : Bool} {a b c : List Char} : Operand i a → Operand j b → Operand k c →
      Operand false ("CASE WHEN ".toList ++ a ++ " THEN ".toList ++ b ++ " ELSE ".toList ++ c ++ " END".toList)
  | negation {body : List Char} : Nested body → Operand true ("NOT ".toList ++ '(' :: (body ++ [')']))

/-- A primary expression: no operator beside it takes it apart. -/
abbrev Primary (cs : List Char) : Prop :=
  Operand false cs

section Forms

theorem isNumber_text (v : Number) : IsNumber v.text.toList := by
  by_cases h : v.isFinite
  · exact .inl (numeral_text h)
  · cases v with
    | whole n => exact absurd rfl h
    | real x =>
      refine .inr ?_
      show (Decimal.Exact.ofFloat x).text.toList ∈ _
      simp only [Number.isFinite] at h
      cases hx : Decimal.Exact.ofFloat x with
      | finite => rw [hx] at h; exact absurd rfl h
      | infinite negative => cases negative <;> decide
      | notANumber => decide

theorem not_mem_of_isNumeralChar {c : Char} (h : isNumeralChar c) : c ∉ ['(', ')', '\x27'] := by
  intro hc
  simp only [List.mem_cons, List.not_mem_nil, or_false] at hc
  rcases hc with rfl | rfl | rfl <;> exact absurd h (by decide)

theorem IsNumber.nested {cs : List Char} (h : IsNumber cs) : Nested cs := by
  rcases h with h | h
  · exact .of_others fun c hc => not_mem_of_isNumeralChar (h.chars c hc)
  · simp only [List.mem_cons, List.not_mem_nil, or_false] at h
    rcases h with rfl | rfl | rfl <;> exact .of_others (by simp)

/-- Parentheses match in every operand. -/
theorem Operand.nested {negation : Bool} {cs : List Char} (h : Operand negation cs) : Nested cs := by
  induction h with
  | number h => exact h.nested
  | literal s => exact .enclosed s
  | identifier h => exact .of_holds (holds_of_isIdentifier h)
  | group h => exact h.parenthesized
  | call _ hname h => exact .append (.of_upper hname) h.parenthesized
  | choice _ _ _ iha ihb ihc =>
    have word {s : String} (hs : ∀ c ∈ s.toList, c ∉ ['(', ')', '\x27']) : Nested s.toList := .of_others hs
    refine .append (.append (.append (.append (.append (.append (word ?_) iha) (word ?_)) ihb) (word ?_)) ihc) (word ?_)
    all_goals simp
  | negation h => exact .append (.of_others (by simp)) h.parenthesized

/-- No negation is a primary expression: no name reaches its parenthesis, and no other form starts as it does. -/
theorem not_primary_negation {body : List Char} : ¬ Primary ("NOT ".toList ++ '(' :: body) := by
  intro h
  generalize hcs : "NOT ".toList ++ '(' :: body = cs at h
  cases h with
  | number h =>
    rcases h with (h | ⟨t, rfl, h⟩) | h
    · obtain ⟨c, t, rfl, hc⟩ := h.digit
      cases hcs
      exact absurd hc (by decide)
    · cases hcs
    · simp only [List.mem_cons, List.not_mem_nil, or_false] at h
      rcases h with rfl | rfl | rfl <;> cases hcs
  | literal s => cases hcs
  | @identifier s h =>
    simp only [isIdentifier, Bool.and_eq_true] at h
    have hblank := List.all_eq_true.1 h.2 ' ' (by rw [← hcs]; simp)
    exact absurd hblank (by decide)
  | group h => cases hcs
  | call _ hname _ =>
    have hrun := run_inj (p := Char.isUpper) (a := ['N', 'O', 'T']) (r := ' ' :: '(' :: body) (List.all_eq_true.1 rfl)
      hname (by simp) (by simp) hcs
    cases hrun.2
  | choice => cases hcs

theorem Operand.primary_iff {negation : Bool} {cs : List Char} (h : Operand negation cs) :
    Primary cs ↔ negation = false := by
  cases negation with
  | false => exact ⟨fun _ => rfl, fun _ => h⟩
  | true =>
    refine ⟨fun hprimary => ?_, fun hfalse => by cases hfalse⟩
    cases h with
    | negation _ => exact absurd hprimary not_primary_negation

end Forms

/-! ## Frames -/

/-- An operand of either kind. -/
def IsOperand (p : List Piece) : Prop :=
  ∃ negation, Operand negation (chars p)

/-- A nonempty text of capital letters. -/
def isCapitals (s : String) : Bool :=
  !s.toList.isEmpty && s.toList.all Char.isUpper

/-- The names that a style writes consist of capital letters. -/
def Style.inCapitals : Style → Bool
  | plain name | first name | joined name => isCapitals name
  | choice | fallback | negation | note _ _ | unknown _ => true

theorem style_inCapitals {name : String} {count : Nat} (h : executableCall name count) :
    (style name count).inCapitals := by
  obtain ⟨hname, hstyle⟩ := style_executable h
  rw [hstyle]
  exact (show ∀ n ∈ executableFunctions, (style n 2).inCapitals by decide) name hname

/-- Of the executable calls only `NOT` is a negation. -/
theorem style_negation {name : String} {count : Nat} (h : executableCall name count) :
    (style name count == .negation) = (name == "NOT") := by
  obtain ⟨hname, hstyle⟩ := style_executable h
  rw [hstyle]
  exact (show ∀ n ∈ executableFunctions, (style n 2 == .negation) = (n == "NOT") by decide) name hname

section Frames

theorem nested_comma : Nested ", ".toList :=
  .of_others (by simp)

theorem chars_fill_inline {f : Frame} (hkind : f.kind = .inline) (parts : List (List Piece)) :
    chars (f.fill parts) = f.opening.toList ++ chars (f.weave 0 parts) ++ f.closing.toList := by
  simp [Frame.fill, Frame.opens, Frame.closes, hkind, Piece.chars]

/-- Parts between parentheses. -/
theorem operand_group {separator : String} (hs : Nested separator.toList) {parts : List (List Piece)}
    (h : ∀ p ∈ parts, IsOperand p) : Primary (chars ((Frame.uniform .inline "(" separator ")").fill parts)) := by
  have hbody : Nested (chars ((Frame.uniform .inline "(" separator ")").weave 0 parts)) :=
    .weave (fun _ => hs) 0 fun p hp => (h p hp).choose_spec.nested
  rw [chars_fill_inline rfl]
  simpa [Frame.uniform] using Operand.group hbody

/-- Parts in the parentheses of a call. -/
theorem operand_call {name : String} (hname : isCapitals name) {parts : List (List Piece)}
    (h : ∀ p ∈ parts, IsOperand p) :
    Primary (chars ((Frame.uniform .inline (name ++ "(") ", " ")").fill parts)) := by
  have hbody : Nested (chars ((Frame.uniform .inline (name ++ "(") ", " ")").weave 0 parts)) :=
    .weave (fun _ => nested_comma) 0 fun p hp => (h p hp).choose_spec.nested
  simp only [isCapitals, Bool.and_eq_true, Bool.not_eq_true', List.isEmpty_eq_false_iff] at hname
  have hop := Operand.call hname.1 (List.all_eq_true.1 hname.2) hbody
  rw [chars_fill_inline rfl]
  simpa [Frame.uniform] using hop

theorem isOperand_word {s : String} (h : isIdentifier s) : IsOperand [.plain s] :=
  ⟨false, by rw [chars_singleton]; exact .identifier h⟩

/-- An argument that is present, or a default that is an identifier. -/
theorem isOperand_part {args : List (List Piece)} (h : ∀ a ∈ args, IsOperand a) {i : Nat} {default : String}
    (hi : i < args.length ∨ isIdentifier default) : IsOperand (Style.part args i default) := by
  unfold Style.part
  cases ha : args[i]? with
  | some a => exact h a (List.mem_of_getElem? ha)
  | none =>
    rcases hi with hi | hd
    · rw [List.getElem?_eq_getElem hi] at ha; cases ha
    · exact isOperand_word hd

/-- **A call of operands is an operand**, and a negation if its style is. -/
theorem operand_style {style : Style} {args : List (List Piece)} (hfits : style.Fits args.length) (hcapitals : style.inCapitals)
    (h : ∀ a ∈ args, IsOperand a) : Operand (style == .negation) (chars (style.frame.fill (style.parts args))) := by
  have one {d : String} (hd : isIdentifier d) : ∀ p ∈ [Style.part args 0 d], IsOperand p :=
    List.forall_mem_singleton.2 (isOperand_part h (.inr hd))
  cases style with
  | plain name => exact operand_call hcapitals h
  | first name => exact operand_call hcapitals (one (by decide))
  | joined connective =>
    have blank : Nested " ".toList := .of_others (by simp)
    have hletters : isCapitals connective := hcapitals
    simp only [isCapitals, Bool.and_eq_true] at hletters
    refine operand_group ?_ h
    rw [String.toList_append, String.toList_append]
    exact .append (.append blank (.of_upper (List.all_eq_true.1 hletters.2))) blank
  | fallback =>
    have hcount : args.length = 2 := hfits
    refine @operand_call "COALESCE" (by decide) _ (List.forall_mem_cons.2 ⟨?_, List.forall_mem_singleton.2 ?_⟩)
    · exact isOperand_part h (.inl (by omega))
    · exact isOperand_part h (.inl (by omega))
  | choice =>
    have hcount : args.length = 2 ∨ args.length = 3 := hfits
    obtain ⟨i, ha⟩ := @isOperand_part args h 0 "" (.inl (by omega))
    obtain ⟨j, hb⟩ := @isOperand_part args h 1 "" (.inl (by omega))
    obtain ⟨k, hc⟩ := @isOperand_part args h 2 "NULL" (.inr (by decide))
    have hop := Operand.choice ha hb hc
    show Primary _
    rw [chars_fill_inline rfl]
    simpa [Style.frame, Style.parts, Frame.weave, Piece.chars] using hop
  | negation =>
    have hbody := (isOperand_part h (.inr (show isIdentifier "TRUE" by decide)) : IsOperand (Style.part args 0 "TRUE"))
    rw [chars_fill_inline rfl]
    exact .negation hbody.choose_spec.nested
  | note | unknown => exact hfits.elim

end Frames

/-! ## Trees -/

/-- The executable calls with at least one argument. -/
def operandCall (name : String) (count : Nat) : Bool :=
  callFits (1 ≤ ·) (fun n => n == 2 || n == 3) (1 ≤ ·) name count

/-- The trees that are written as operands: all numbers, the operators, all signs, and executable calls. -/
def operandTrees : Fragment where
  number _ := true
  head
    | .binary symbol, _ => operators.contains symbol
    | .unary _, _ => true
    | .call name, count => operandCall name count

/-- A negation, perhaps behind signs other than a minus, which are not written. -/
def negated : Expr → Bool
  | .call (.text name) _ => name == "NOT"
  | .unary symbol operand => symbol != "-" && negated operand
  | _ => false

section Trees

variable {names : Names} {current : Datum}

theorem isIdentifier_lower {letters : List Char} (hne : letters ≠ []) (h : ∀ c ∈ letters, c.isUpper) :
    isIdentifier (Text.lower (String.ofList letters)) := by
  rw [lower_letters h]
  simp only [isIdentifier, Bool.and_eq_true, String.toList_ofList, List.all_map, List.all_eq_true]
  refine ⟨?_, fun c hc => upper_all (P := fun c => Text.isWord c.toLower) (by decide) (h c hc)⟩
  simp [hne]

/-- A cell is written as an identifier. -/
theorem operand_cell (hc : mapsToIdentifiers names.columns) {name : String} (h : IsCellName name) :
    Primary (columnPiece names name).chars := by
  obtain ⟨letters, hne, hupper, hletters⟩ := exists_letters h
  refine Operand.identifier (s := (mapped names.columns (columnLetters name)).getD _) ?_
  cases hm : mapped names.columns (columnLetters name) with
  | none => rw [hletters]; exact isIdentifier_lower hne hupper
  | some s => exact isIdentifier_of_mapped hc hm

theorem operand_binary {symbol : String} (h : operators.contains symbol) {l r : List Piece} (hl : IsOperand l)
    (hr : IsOperand r) : Primary (chars ((binaryFrame symbol).fill [l, r])) := by
  have hparts : ∀ p ∈ [l, r], IsOperand p := List.forall_mem_cons.2 ⟨hl, List.forall_mem_singleton.2 hr⟩
  have hseparator : ∀ s ∈ operators, (" " ++ operator s ++ " ").toList.all fun c => c ∉ ['(', ')', '\x27'] := by decide
  unfold binaryFrame
  split
  · exact @operand_call "POWER" (by decide) _ hparts
  · refine operand_group (.of_others fun c hc => ?_) hparts
    exact of_decide_eq_true (List.all_eq_true.1 (hseparator symbol (List.contains_iff_mem.1 h)) c hc)

theorem operand_minus {p : List Piece} (h : IsOperand p) : Primary (chars (minusFrame.fill [p])) := by
  obtain ⟨_, hp⟩ := h
  have hgroup := Operand.group (Nested.other (c := '-') (by decide) hp.nested)
  rw [← toList_sqlOf, sqlOf_minus]
  simpa using hgroup

theorem isOperand_piecesAll : ∀ {es : List Expr}, (∀ e ∈ es, IsOperand (pieces names current e)) →
    ∀ p ∈ piecesAll names current es, IsOperand p
  | [], _ => by rw [piecesAll]; exact List.forall_mem_nil _
  | e :: es, h => by
    obtain ⟨he, hes⟩ := List.forall_mem_cons.1 h
    rw [piecesAll]
    exact List.forall_mem_cons.2 ⟨he, isOperand_piecesAll hes⟩

/-- **The converter writes operands**, and negations for negations only. -/
theorem operand_pieces (hc : mapsToIdentifiers names.columns) {e : Expr} (h : Within operandTrees e) :
    Operand (negated e) (chars (pieces names current e)) := by
  induction h with
  | @number v _ =>
    rw [pieces, chars_singleton]
    exact .number (isNumber_text v)
  | text s =>
    rw [pieces, textPieces, chars_singleton, Piece.chars, toList_literal]
    exact .literal s.toList
  | cell hname =>
    rw [pieces]
    show Primary (chars [columnPiece names _])
    rw [chars_singleton]
    exact operand_cell hc hname
  | @node e head args hn hhead _ ih =>
    obtain ⟨s, l, r, rfl, rfl, rfl⟩ | ⟨s, a, rfl, rfl, rfl⟩ | ⟨name, rfl, rfl⟩ := node_cases hn
    · rw [pieces]
      exact operand_binary hhead ⟨_, ih l (by simp)⟩ ⟨_, ih r (by simp)⟩
    · have ha := ih a (by simp)
      rw [pieces]
      by_cases hs : s = "-"
      · subst hs
        rw [if_pos rfl]
        exact operand_minus ⟨_, ha⟩
      · rw [if_neg hs, negated, bne_iff_ne.2 hs, Bool.true_and]
        exact ha
    · have hcall : executableCall name (piecesAll names current args).length := by
        have hfits : operandCall name args.length := hhead
        rw [length_piecesAll]
        exact executableCall_of_callFits (by simp) hfits
      have hargs := isOperand_piecesAll fun e he => ⟨_, ih e he⟩
      rw [pieces, callPieces, upper_of_executableCall hcall, negated, ← style_negation hcall]
      exact operand_style (style_fits hcall) (style_inCapitals hcall) hargs

end Trees

/-- **Operands delimit themselves unless they are negations.** A tree of numbers, texts, cells without a sheet, operations
and executable calls is written as an operand, with tables that map to identifiers. It is a primary expression, which no
operator beside it takes apart, exactly if it is no negation. -/
theorem convert_operand {e : Expr} (h : Within operandTrees e) {names : Names} (current : Datum)
    (hc : mapsToIdentifiers names.columns) (hs : mapsToIdentifiers names.sheets) :
    ∃ sql, convert names current e = .ok (.text sql) ∧ Operand (negated e) sql.toList ∧
      (Primary sql.toList ↔ negated e = false) := by
  have hoperand := @operand_pieces names current hc e h
  refine ⟨_, convert_typed (mapsToTexts_of_identifiers hc) (mapsToTexts_of_identifiers hs) h.typed, ?_⟩
  rw [toList_sqlOf]
  exact ⟨hoperand, hoperand.primary_iff⟩

/-- A negation behind a plus sign is no primary expression, and a comparison writes it as it is. -/
theorem convert_operand_compared :
    ∃ negation comparison : Expr, comparison = .binary "=" negation (.cell (.text "B1") .null) ∧
      Within operandTrees negation ∧ Within operandTrees comparison ∧ mapsToIdentifiers (.dict [("A", .text "paid")]) ∧
      convert ⟨.dict [("A", .text "paid")], .dict []⟩ .null negation = .ok (.text "NOT (paid)") ∧
      ¬ Primary "NOT (paid)".toList ∧
      convert ⟨.dict [("A", .text "paid")], .dict []⟩ .null comparison = .ok (.text "(NOT (paid) = b)") ∧
      Primary "(NOT (paid) = b)".toList := by
  have cellName {s : String} {c d : Char} (hs : s.toList = [c, d]) (hc : c.isUpper) (hd : Text.isDigit d) :
      IsCellName s := ⟨[c], [d], [], by simp, [], by simp, by simp [hs], by simp, by simp [hc], by simp, by simp [hd]⟩
  let negation : Expr := .unary "+" (.call (.text "NOT") [.cell (.text "A1") .null])
  have hnegation : Within operandTrees negation := by
    refine .node rfl rfl (List.forall_mem_singleton.2 (.node rfl (by decide) (List.forall_mem_singleton.2 (.cell ?_))))
    exact cellName rfl (by decide) (by decide)
  have hcomparison : Within operandTrees (.binary "=" negation (.cell (.text "B1") .null)) := by
    refine .node rfl (by decide) (List.forall_mem_cons.2 ⟨hnegation, List.forall_mem_singleton.2 (.cell ?_)⟩)
    exact cellName rfl (by decide) (by decide)
  have hc : mapsToIdentifiers (.dict [("A", .text "paid")]) := by decide
  obtain ⟨_, hsql, _, hiff⟩ := @convert_operand _ hnegation ⟨.dict [("A", .text "paid")], .dict []⟩ .null hc (by decide)
  obtain ⟨_, hsql', _, hiff'⟩ :=
    @convert_operand _ hcomparison ⟨.dict [("A", .text "paid")], .dict []⟩ .null hc (by decide)
  cases hsql.symm.trans (rfl : convert _ _ negation = .ok (.text "NOT (paid)"))
  cases hsql'.symm.trans (rfl : convert _ _ (.binary _ negation _) = .ok (.text "(NOT (paid) = b)"))
  exact ⟨negation, _, rfl, hnegation, hcomparison, hc, hsql, (fun h => by cases hiff.1 h), hsql', hiff'.2 rfl⟩

end FormulaSql.Sql
