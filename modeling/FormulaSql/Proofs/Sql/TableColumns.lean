import FormulaSql.Proofs.Token.Longest
import FormulaSql.Proofs.Trimming

/-!
# Columns of tables

A formula can be one reference to a column of a table. Its bracketed part is read by counting brackets, whatever else
stands between them (`bracketed_append`), so that the reference is one token, and its SQL is the name of the column that
the bracketed part refers to (`convertFormula_reference`).

**A column in the row of the formula and the column itself have the same SQL** (`convertFormula_column`). In
`T[[#This Row],[c]]` as in `T[c]` the title `c` is found, although the two parts are searched in different ways: a title
without brackets holds neither a row mark nor the start of one.
-/

namespace FormulaSql

open Text (isBlank)

/-! ## Bracketed parts -/

/-- A bracketed part: its last character closes the bracket that it starts with. -/
structure IsBracketed (column : List Char) : Prop where
  starts : ∃ r, column = '[' :: r
  ends : ∃ r, column = r ++ [']']
  whole : bracketed 0 column = column.length

/-- A column title: some characters, none of them a bracket. -/
structure IsTitle (title : List Char) : Prop where
  ne_nil : title ≠ []
  not_open : '[' ∉ title
  not_close : ']' ∉ title

section Brackets

variable {title : List Char}

/-- What holds no bracket is passed over at every depth. -/
theorem bracketed_append (depth : Nat) (r : List Char) : ∀ {title : List Char}, '[' ∉ title → ']' ∉ title →
    bracketed depth (title ++ r) = title.length + bracketed depth r
  | [], _, _ => (Nat.zero_add _).symm
  | c :: title, hopen, hclose => by
    rw [List.mem_cons, not_or] at hopen hclose
    have ih := bracketed_append depth r hopen.2 hclose.2
    rw [List.cons_append, bracketed, if_neg (Ne.symm hopen.1), if_neg (Ne.symm hclose.1), ih, List.length_cons]
    omega

/-- A title in brackets. -/
theorem isBracketed_plain (h : IsTitle title) : IsBracketed ('[' :: (title ++ [']'])) where
  starts := ⟨_, rfl⟩
  ends := ⟨'[' :: title, rfl⟩
  whole := by
    have htitle := bracketed_append 1 [']'] h.not_open h.not_close
    show bracketed 1 (title ++ [']']) + 1 = _
    rw [htitle, List.length_cons, List.length_append]
    rfl

/-- A title behind the row mark, where two brackets are open. -/
theorem isBracketed_row (h : IsTitle title) : IsBracketed (Sql.rowMark ++ (title ++ [']', ']'])) where
  starts := ⟨_, rfl⟩
  ends := ⟨Sql.rowMark ++ (title ++ [']']), by simp⟩
  whole := by
    have htitle := bracketed_append 2 [']', ']'] h.not_open h.not_close
    show bracketed 2 (title ++ [']', ']']) + 14 = _
    rw [htitle, List.length_append, List.length_append]
    show title.length + 2 + 14 = 14 + (title.length + 2)
    omega

end Brackets

/-! ## A formula that is one reference -/

section References

variable {table : String} {column : List Char}

theorem IsPlainName.exists_cons {name : List Char} (h : IsPlainName name) : ∃ c cs, name = c :: cs ∧ isNameStart c := by
  obtain ⟨c, cs, rfl⟩ := List.exists_cons_of_ne_nil h.ne_nil
  exact ⟨c, cs, rfl, h.1⟩

/-- There is nothing to trim off a reference. -/
theorem formulaText_reference (htable : IsPlainName table.toList) (hcolumn : IsBracketed column) :
    formulaText ("=" ++ (table ++ String.ofList column)) = table.toList ++ column := by
  obtain ⟨c, cs, hcs, hstart⟩ := htable.exists_cons
  obtain ⟨r, rfl⟩ := hcolumn.ends
  have hsign : ¬ (c == '=') := by
    intro hc
    rw [eq_of_beq hc] at hstart
    exact absurd hstart (by decide)
  have htext : ("=" ++ (table ++ String.ofList (r ++ [']']))).toList = '=' :: c :: (cs ++ (r ++ [']'])) := by simp [hcs]
  have hblank : ¬ isBlank ']' := by decide
  rw [formulaText, htext, List.dropWhile_cons, if_pos (by decide), List.dropWhile_cons, if_neg hsign, Text.trim,
    List.dropWhile_cons_of_neg (not_isBlank_of_isNameStart hstart), hcs, ← List.cons_append, ← List.append_assoc,
    Text.trimEnd_append_cons hblank]

/-- A reference is found whole. -/
theorem firstFind_reference (htable : IsPlainName table.toList) (hcolumn : IsBracketed column) :
    firstFind (table.toList ++ column) =
      some ⟨.table (some ⟨some table, some (String.ofList column), some (table ++ String.ofList column)⟩),
        (table.toList ++ column).length⟩ := by
  have htext : findText (table.toList ++ column) = none := by
    obtain ⟨c, cs, hcs, hstart⟩ := htable.exists_cons
    have hquote : c ≠ '"' := by
      rintro rfl
      exact absurd hstart (by decide)
    rw [hcs, List.cons_append, findText_other hquote]
  obtain ⟨r, rfl⟩ := hcolumn.starts
  have hname : takeName? (table.toList ++ '[' :: r) = some (table.toList, '[' :: r) :=
    takeName_append_of_isPlainName htable (by decide)
  have hwhole : tableFind table.toList r =
      ⟨.table (some ⟨some table, some (String.ofList ('[' :: r)), some (table ++ String.ofList ('[' :: r))⟩),
        (table.toList ++ '[' :: r).length⟩ := by
    rw [tableFind, hcolumn.whole, List.take_length]
    simp only [String.ofList_toList, String.ofList_append, List.length_append]
  have htable' := findTable_iff.2 ⟨table.toList, r, hname, hwhole.symm⟩
  simp only [firstFind, Matcher.order, List.findSome?_cons, Matcher.find, htext, htable']

/-- The reference is the only token. -/
theorem tokens_reference (htable : IsPlainName table.toList) (hcolumn : IsBracketed column) :
    tokens ("=" ++ (table ++ String.ofList column)) =
      [⟨.table (some ⟨some table, some (String.ofList column), some (table ++ String.ofList column)⟩), 0⟩,
        ⟨.finish, (table.toList ++ column).length⟩] := by
  have hfirst := firstFind_reference htable hcolumn
  rw [tokens, formulaText_reference htable hcolumn]
  obtain ⟨c, cs, hcs, hstart⟩ := htable.exists_cons
  rw [hcs, List.cons_append] at hfirst ⊢
  rw [tokensFrom_found (not_isBlank_of_isNameStart hstart) hfirst, List.drop_length, tokensFrom_nil, Nat.zero_add]

/-- The SQL of the formula is the column name, whatever the tables of names are. -/
theorem convertFormula_reference (htable : IsPlainName table.toList) (hcolumn : IsBracketed column) {d : Datum}
    (hd : Sql.tableColumn (.text table) (.text (String.ofList column)) = .ok d) (names : Sql.Names) (sheet : Datum) :
    convertFormula (.text ("=" ++ (table ++ String.ofList column))) names sheet = d := by
  have hparse : Parser.parse (tokens ("=" ++ (table ++ String.ofList column))) =
      .ok (.table table (String.ofList column) (table ++ String.ofList column), 1) := by
    rw [tokens_reference htable hcolumn]
    rfl
  simp only [convertFormula, parseFormula_eq hparse, bind, Except.bind, Sql.convert, hd]

end References

/-! ## The title of a bracketed part -/

namespace Sql

section Titles

variable {title : List Char}

/-- A reference to a column in the row of the formula stands at the front: the row mark, a title, two brackets. -/
structure RowReference (title cs : List Char) : Prop where
  ne_nil : title ≠ []
  not_close : ']' ∉ title
  written : rowMark ++ (title ++ [']', ']']) <+: cs

theorem rowMark_eq : rowMark = '[' :: '[' :: "#This Row],[".toList := by
  decide

/-- What starts with a reference to the row starts with two opening brackets. -/
theorem RowReference.starts {cs : List Char} (h : RowReference title cs) : ∃ r, cs = '[' :: '[' :: r := by
  obtain ⟨r, rfl⟩ := h.written
  rw [rowMark_eq]
  exact ⟨_, rfl⟩

/-- Where a reference to the row stands its title is found. -/
theorem RowReference.found {cs : List Char} (h : RowReference title cs) : thisRowTitle? cs = some title := by
  obtain ⟨r, rfl⟩ := h.written
  have hbody : (rowMark ++ (title ++ [']', ']']) ++ r).drop rowMark.length = title ++ ']' :: ']' :: r := by simp
  have hempty : title.isEmpty = false := List.isEmpty_eq_false_iff.2 h.ne_nil
  have hmark : rowMark.isPrefixOf (rowMark ++ (title ++ [']', ']']) ++ r) = true :=
    List.isPrefixOf_iff_prefix.2 (by simp)
  obtain ⟨c, cs, hcs⟩ : ∃ c cs, rowMark ++ (title ++ [']', ']']) ++ r = c :: cs := ⟨_, _, rfl⟩
  rw [hcs] at hbody hmark ⊢
  rw [thisRowTitle?, hbody, (span_mark h.not_close _).1, hmark, hempty, List.drop_left]
  rfl

/-- Where none stands the search goes on behind the first character. -/
theorem thisRowTitle_skip {c : Char} {cs : List Char} (h : ∀ title, ¬ RowReference title (c :: cs)) :
    thisRowTitle? (c :: cs) = thisRowTitle? cs := by
  rw [thisRowTitle?]
  refine if_neg fun htest => h (((c :: cs).drop rowMark.length).takeWhile (· != ']')) ?_
  simp only [Bool.and_eq_true, Bool.not_eq_true', List.isEmpty_eq_false_iff, List.isPrefixOf_iff_prefix] at htest
  obtain ⟨⟨⟨body, hbody⟩, hne⟩, r, hr⟩ := htest
  rw [← hbody, List.drop_left] at hne hr ⊢
  refine ⟨hne, fun hmem => absurd (List.mem_takeWhile_imp hmem) (by decide), r, ?_⟩
  rw [List.append_assoc, List.append_assoc, hr, List.prefix_iff_eq_append.1 (List.takeWhile_prefix _)]

/-- Behind the row mark the title is found at once. -/
theorem thisRowTitle_row (h : IsTitle title) : thisRowTitle? (rowMark ++ (title ++ [']', ']'])) = some title :=
  RowReference.found ⟨h.ne_nil, h.not_close, List.prefix_refl _⟩

/-- Without an opening bracket there is no row mark. -/
theorem thisRowTitle_none : ∀ {cs : List Char}, '[' ∉ cs → thisRowTitle? cs = none
  | [], _ => rfl
  | c :: cs, h => by
    rw [List.mem_cons, not_or] at h
    rw [thisRowTitle_skip, thisRowTitle_none h.2]
    intro title hrow
    obtain ⟨r, hr⟩ := hrow.starts
    exact h.1 (List.cons.inj hr).1.symm

/-- In a title in brackets there is no row mark: what follows the only opening bracket is none. -/
theorem thisRowTitle_plain (h : IsTitle title) : thisRowTitle? ('[' :: (title ++ [']'])) = none := by
  have hopen : '[' ∉ title ++ [']'] := by
    rw [List.mem_append, not_or]
    exact ⟨h.not_open, by decide⟩
  rw [thisRowTitle_skip, thisRowTitle_none hopen]
  intro t hrow
  obtain ⟨r, hr⟩ := hrow.starts
  rw [(List.cons.inj hr).2] at hopen
  exact hopen List.mem_cons_self

/-- One pair of brackets names a column; a line end may stand behind it. -/
theorem simpleTitle_eq_some_iff {column : List Char} : simpleTitle? column = some title ↔
    title ≠ [] ∧ ']' ∉ title ∧ (column = '[' :: (title ++ [']']) ∨ column = '[' :: (title ++ [']', '\n'])) := by
  constructor
  · intro h
    unfold simpleTitle? at h
    split at h
    · rename_i cs
      have hclose : ']' ∉ cs.takeWhile (· != ']') := fun hmem => absurd (List.mem_takeWhile_imp hmem) (by decide)
      have hsplit := List.prefix_iff_eq_append.1 (List.takeWhile_prefix (l := cs) (· != ']'))
      have hkept {t : List Char} (ht : (if t.isEmpty then none else some t) = some title) : t = title ∧ t ≠ [] := by
        cases t with
        | nil => cases ht
        | cons c t => exact ⟨Option.some.inj ht, List.cons_ne_nil c t⟩
      dsimp only at h
      split at h
      · rename_i hrest
        obtain ⟨rfl, hne⟩ := hkept h
        rw [hrest] at hsplit
        exact ⟨hne, hclose, .inl (congrArg _ hsplit.symm)⟩
      · rename_i hrest
        obtain ⟨rfl, hne⟩ := hkept h
        rw [hrest] at hsplit
        exact ⟨hne, hclose, .inr (congrArg _ hsplit.symm)⟩
      · cases h
    · cases h
  · rintro ⟨hne, hclose, rfl | rfl⟩
    · rw [simpleTitle?, (span_mark hclose _).1, List.drop_left]
      simpa using hne
    · rw [simpleTitle?, (span_mark hclose _).1, List.drop_left]
      simpa using hne

theorem simpleTitle_plain (h : IsTitle title) : simpleTitle? ('[' :: (title ++ [']'])) = some title :=
  simpleTitle_eq_some_iff.2 ⟨h.ne_nil, h.not_close, .inl rfl⟩

theorem tableColumn_plain (table : String) (h : IsTitle title) :
    tableColumn (.text table) (.text (String.ofList ('[' :: (title ++ [']'])))) = .ok (.text (columnName title)) := by
  rw [tableColumn, String.toList_ofList, thisRowTitle_plain h, simpleTitle_plain h]
  rfl

theorem tableColumn_row (table : String) (h : IsTitle title) :
    tableColumn (.text table) (.text (String.ofList (rowMark ++ (title ++ [']', ']'])))) =
      .ok (.text (columnName title)) := by
  rw [tableColumn, String.toList_ofList, thisRowTitle_row h]
  rfl

end Titles

end Sql

/-- **A column in the row of the formula and the column itself have the same SQL**, whatever the tables of names and the
current sheet are: the title with underscores for the characters of no word, without underscores at its ends and in
lower case. -/
theorem convertFormula_column {table title : String} (htable : IsPlainName table.toList) (htitle : IsTitle title.toList)
    (names : Sql.Names) (sheet : Datum) :
    convertFormula (.text ("=" ++ table ++ "[[#This Row],[" ++ title ++ "]]")) names sheet =
        convertFormula (.text ("=" ++ table ++ "[" ++ title ++ "]")) names sheet ∧
      convertFormula (.text ("=" ++ table ++ "[" ++ title ++ "]")) names sheet =
        .text (Text.lower (String.ofList (Text.trim (· == '_')
          (title.toList.map fun c => if Text.isWord c then c else '_')))) := by
  have hmark : String.ofList Sql.rowMark = "[[#This Row],[" := String.ofList_toList
  have hclosers : String.ofList [']', ']'] = "]]" := rfl
  have hrow : "=" ++ table ++ "[[#This Row],[" ++ title ++ "]]" =
      "=" ++ (table ++ String.ofList (Sql.rowMark ++ (title.toList ++ [']', ']']))) := by
    rw [String.ofList_append, String.ofList_append, String.ofList_toList, hmark, hclosers]
    simp only [String.append_assoc]
  have hplain : "=" ++ table ++ "[" ++ title ++ "]" =
      "=" ++ (table ++ String.ofList ('[' :: (title.toList ++ [']']))) := by
    rw [← String.toList_inj]
    simp
  rw [hplain, hrow, convertFormula_reference htable (isBracketed_plain htitle) (Sql.tableColumn_plain table htitle),
    convertFormula_reference htable (isBracketed_row htitle) (Sql.tableColumn_row table htitle)]
  exact ⟨rfl, rfl⟩

/-- A title that looks like a row mark itself and holds a quote and a line end. -/
theorem convertFormula_column_marks :
    IsPlainName "_T1".toList ∧ IsTitle "#This Row,\"\n Net".toList ∧
      convertFormula (.text "=_T1[[#This Row],[#This Row,\"\n Net]]") ⟨.null, .null⟩ .null = .text "this_row____net" ∧
      convertFormula (.text "=_T1[#This Row,\"\n Net]") ⟨.null, .null⟩ .null = .text "this_row____net" := by
  have htable : IsPlainName "_T1".toList := ⟨by decide, List.all_eq_true.1 (by decide)⟩
  have htitle : IsTitle "#This Row,\"\n Net".toList := ⟨by decide, by decide, by decide⟩
  have hname : Sql.columnName "#This Row,\"\n Net".toList = "this_row____net" := by decide
  obtain ⟨hrow, hplain⟩ := convertFormula_column htable htitle ⟨.null, .null⟩ .null
  rw [← hname]
  exact ⟨htable, htitle, hrow.trans hplain, hplain⟩

end FormulaSql
