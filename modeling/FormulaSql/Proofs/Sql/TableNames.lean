import FormulaSql.Proofs.Sql.TableColumns
import FormulaSql.Proofs.Text.Case

/-!
# Names of table references

Whatever stands between the brackets of a table reference, its SQL is a name: of ASCII it holds only lower-case letters,
digits and underscores (`convert_table_tame`). All three ways to a title end in `columnName`, and the table name that
stands in where a title leaves nothing is made of word characters.

That name may be empty, though. The table name stands in only where the title is found in the loose way; a title that
is found behind a row mark or in one pair of brackets (`Titled`) is taken as it is. So the SQL of a reference is empty
exactly if it has such a title and no character of it, underscores apart, belongs to a word (`convert_table_empty_iff`).

A bracketed part that is cut from a formula does not end in a line end, which the search for one pair of brackets would
overlook: it ends with a closing bracket or with the text of the formula, and that is trimmed (`table_of_mem`).
-/

namespace FormulaSql

open Text (isBlank isWord)

/-! ## Column names -/

namespace Sql

/-- A title without a name: no character of it, underscores apart, belongs to a word. -/
def Unnamed (title : List Char) : Prop :=
  ∀ c ∈ title, isWord c → c = '_'

section Names

variable {title : List Char}

theorem mem_sanitised {c : Char} (h : c ∈ title.map fun c => if isWord c then c else '_') : isWord c := by
  obtain ⟨d, -, rfl⟩ := List.mem_map.1 h
  split
  · assumption
  · decide

/-- Column names are tame, whatever the title is. -/
theorem columnName_tame : ∀ c ∈ (columnName title).toList, Text.Tame c := by
  intro c hc
  refine Text.mem_lower_word (fun d hd => ?_) hc
  rw [String.toList_ofList] at hd
  exact mem_sanitised (Text.mem_of_mem_trim hd)

/-- A column name is empty exactly if its title has none. -/
theorem columnName_eq_empty_iff : columnName title = "" ↔ Unnamed title := by
  rw [columnName, Text.lower_eq_empty_iff, ← String.toList_eq_nil_iff, String.toList_ofList, Text.trim_eq_nil_iff,
    List.forall_mem_map]
  refine forall₂_congr fun c _ => ?_
  by_cases hc : isWord c <;> simp [hc]

end Names

/-! ## Titles -/

/-- The title by which a bracketed part names its column: that of the first reference to the row of the formula, or, if
there is none, what stands in the one pair of brackets that the part is. -/
inductive Titled (column : List Char) : List Char → Prop
  | row {title : List Char} {k : Nat} : RowReference title (column.drop k) →
      (∀ j < k, ∀ t, ¬ RowReference t (column.drop j)) → Titled column title
  | plain {title : List Char} : (∀ j t, ¬ RowReference t (column.drop j)) → title ≠ [] → ']' ∉ title →
      column = '[' :: (title ++ [']']) → Titled column title

section Titles

variable {column title : List Char}

theorem not_rowReference_nil : ¬ RowReference title [] := by
  intro h
  obtain ⟨r, hr⟩ := h.starts
  cases hr

/-- The search for a reference to the row finds the first one. -/
theorem thisRowTitle_eq_some_iff : thisRowTitle? column = some title ↔
    ∃ k, RowReference title (column.drop k) ∧ ∀ j < k, ∀ t, ¬ RowReference t (column.drop j) := by
  induction column with
  | nil =>
    constructor
    · intro h
      cases h
    · rintro ⟨k, h, -⟩
      rw [List.drop_nil] at h
      exact absurd h not_rowReference_nil
  | cons c cs ih =>
    by_cases hhere : ∃ t, RowReference t (c :: cs)
    · obtain ⟨t, ht⟩ := hhere
      rw [ht.found]
      constructor
      · rintro ⟨⟩
        exact ⟨0, ht, fun j hj => absurd hj (Nat.not_lt_zero j)⟩
      · rintro ⟨k, hk, hbefore⟩
        cases k with
        | zero => exact ht.found.symm.trans hk.found
        | succ k => exact absurd ht (hbefore 0 (Nat.succ_pos k) t)
    · have hnot : ∀ t, ¬ RowReference t (c :: cs) := not_exists.1 hhere
      rw [thisRowTitle_skip hnot, ih]
      constructor
      · rintro ⟨k, hk, hbefore⟩
        refine ⟨k + 1, hk, fun j hj t => ?_⟩
        cases j with
        | zero => exact hnot t
        | succ j => exact hbefore j (by omega) t
      · rintro ⟨k, hk, hbefore⟩
        cases k with
        | zero => exact absurd hk (hnot title)
        | succ k => exact ⟨k, hk, fun j hj t => hbefore (j + 1) (by omega) t⟩

/-- It finds none exactly if there is none. -/
theorem thisRowTitle_eq_none_iff : thisRowTitle? column = none ↔ ∀ j t, ¬ RowReference t (column.drop j) := by
  constructor
  · -- what stands somewhere is found, if not something before it
    intro h j t ht
    induction column generalizing j with
    | nil =>
      rw [List.drop_nil] at ht
      exact not_rowReference_nil ht
    | cons c cs ih =>
      have hnot : ∀ t, ¬ RowReference t (c :: cs) := fun t ht => by cases h.symm.trans ht.found
      rw [thisRowTitle_skip hnot] at h
      cases j with
      | zero => exact hnot t ht
      | succ j => exact ih h j ht
  · intro h
    rw [Option.eq_none_iff_forall_ne_some]
    intro title htitle
    obtain ⟨k, hk, -⟩ := thisRowTitle_eq_some_iff.1 htitle
    exact h k title hk

/-- The two searches together find the title of a part. -/
theorem Titled.found (h : Titled column title) : (thisRowTitle? column).or (simpleTitle? column) = some title := by
  rw [Option.or_eq_some_iff, thisRowTitle_eq_some_iff, thisRowTitle_eq_none_iff, simpleTitle_eq_some_iff]
  cases h with
  | row hk hbefore => exact .inl ⟨_, hk, hbefore⟩
  | plain hnone hne hclose heq => exact .inr ⟨hnone, hne, hclose, .inl heq⟩

theorem Titled.unique {title' : List Char} (h : Titled column title) (h' : Titled column title') : title = title' :=
  Option.some.inj (h.found.symm.trans h'.found)

/-- They find nothing else if the part does not end in a line end. -/
theorem titled_of_found (hend : column.getLast? ≠ some '\n')
    (h : (thisRowTitle? column).or (simpleTitle? column) = some title) : Titled column title := by
  rw [Option.or_eq_some_iff, thisRowTitle_eq_some_iff, thisRowTitle_eq_none_iff, simpleTitle_eq_some_iff] at h
  rcases h with ⟨k, hk, hbefore⟩ | ⟨hnone, hne, hclose, heq | rfl⟩
  · exact .row hk hbefore
  · exact .plain hnone hne hclose heq
  · exact absurd (by simp [List.getLast?_cons, List.getLast?_append]) hend

/-- The name of a reference without a title: what the loose search leaves of its bracketed part, or the name of the
table if that is nothing. -/
def looseName (table : String) (column : List Char) : String :=
  if columnName (looseTitle column) = "" then Text.lower table else columnName (looseTitle column)

/-- **The SQL of a table reference.** -/
theorem tableColumn_cases (table : String) (hend : column.getLast? ≠ some '\n') :
    ∃ name, tableColumn (.text table) (.text (String.ofList column)) = .ok (.text name) ∧
      ((∃ title, Titled column title ∧ name = columnName title) ∨
        (∀ title, ¬ Titled column title) ∧ name = looseName table column) := by
  unfold tableColumn
  dsimp only
  rw [String.toList_ofList]
  cases hsearch : (thisRowTitle? column).or (simpleTitle? column) with
  | some title => exact ⟨columnName title, rfl, .inl ⟨title, titled_of_found hend hsearch, rfl⟩⟩
  | none =>
    have hnone : ∀ title, ¬ Titled column title := fun title htitle => by
      cases hsearch.symm.trans htitle.found
    refine ⟨looseName table column, ?_, .inr ⟨hnone, rfl⟩⟩
    unfold looseName
    dsimp only
    by_cases hempty : columnName (looseTitle column) = ""
    · rw [if_pos hempty, if_pos (by simp [hempty])]
      rfl
    · rw [if_neg hempty, if_neg (by simpa using hempty)]
      rfl

end Titles

end Sql

/-! ## References in formulas -/

/-- A bracketed part reaches to the end of the text or ends with a closing bracket. -/
theorem bracketed_ends (depth : Nat) (cs : List Char) :
    cs.take (bracketed depth cs) = cs ∨ (cs.take (bracketed depth cs)).getLast? = some ']' := by
  have hlonger (c : Char) {n : Nat} {cs : List Char} (h : cs.take n = cs ∨ (cs.take n).getLast? = some ']') :
      (c :: cs).take (n + 1) = c :: cs ∨ ((c :: cs).take (n + 1)).getLast? = some ']' := by
    rw [List.take_succ_cons]
    rcases h with h | h
    · exact .inl (by rw [h])
    · exact .inr (by rw [List.getLast?_cons, h]; rfl)
  fun_induction bracketed depth cs with
  | case1 => exact .inl rfl
  | case2 _ _ ih => exact hlonger _ ih
  | case3 => exact .inr rfl
  | case4 _ _ _ _ ih => exact hlonger _ ih
  | case5 _ _ _ _ _ ih => exact hlonger _ ih

section References

variable {s : String} {i pos : Nat} {parts : Option TableParts}

/-- The parts of a table reference that is cut from a formula: a plain name, and a bracketed part that does not end in a
line end. -/
theorem table_of_mem (h : ⟨.table parts, pos⟩ ∈ tokens s) : ∃ table column : List Char, IsPlainName table ∧
    column.getLast? ≠ some '\n' ∧
      parts = some ⟨some (String.ofList table), some (String.ofList column), some (String.ofList (table ++ column))⟩ := by
  have hfinish : Lexeme.table parts ≠ .finish := Lexeme.noConfusion
  obtain ⟨f, hfind, hlexeme, -⟩ := @Lexer.step_of_mem (formulaText s) ⟨.table parts, pos⟩ hfinish _ 0 rfl h
  have htable := find_of_firstFind (m := .table) hfind (by rw [hlexeme]; rfl)
  obtain ⟨name, r, hname, rfl⟩ := findTable_iff.1 htable
  refine ⟨name, ('[' :: r).take (bracketed 0 ('[' :: r)), isPlainName_of_takeName hname, ?_, ?_⟩
  · rcases bracketed_ends 0 ('[' :: r) with hall | hclosed
    · -- an open bracketed part ends with the text, which has been trimmed
      have htext : (formulaText s).getLast? = ('[' :: r).getLast? := by
        rw [← List.take_append_drop pos (formulaText s), (takeName_append hname).1]
        simp [List.getLast?_append, List.getLast?_cons]
      rw [hall, ← htext]
      intro hend
      exact Text.getLast_trim '\n' hend (by decide)
    · rw [hclosed]
      decide
  · exact (Lexeme.table.inj hlexeme).symm

/-- The parser makes one node of a table reference, wherever it stands. -/
theorem parseAt_table {ts : Array Token} {table column whole : String}
    (h : Parser.Shows ts i (.table (some ⟨some table, some column, some whole⟩))) :
    Parser.parseAt ts .primary i = .ok (.table table column whole, i + 1) := by
  obtain ⟨n, hn⟩ : ∃ n, Parser.enough ts = n + 2 := ⟨16 * ts.size + 30, by unfold Parser.enough; omega⟩
  show Parser.primary ts (Parser.enough ts) i = _
  rw [hn, Parser.primary_succ, h.eq]
  show Parser.reference ts (n + 1) .null i = _
  rw [Parser.reference_succ, h.eq]
  rfl

/-- **The node of a table reference and its SQL**, which depends neither on the tables of names nor on the sheet. -/
theorem convert_table (h : (tokens s)[i]? = some ⟨.table parts, pos⟩) :
    ∃ table column whole name : String, parts = some ⟨some table, some column, some whole⟩ ∧
      Parser.parseAt (tokens s).toArray .primary i = .ok (.table table column whole, i + 1) ∧
      (∀ names sheet, Sql.convert names sheet (.table table column whole) = .ok (.text name)) ∧
      IsPlainName table.toList ∧
      ((∃ title, Sql.Titled column.toList title ∧ name = Sql.columnName title) ∨
        (∀ title, ¬ Sql.Titled column.toList title) ∧ name = Sql.looseName table column.toList) := by
  obtain ⟨table, column, hname, hend, rfl⟩ := table_of_mem (List.mem_of_getElem? h)
  have hshows : Parser.Shows (tokens s).toArray i _ := Parser.shows_of_getElem? (by rw [List.getElem?_toArray]; exact h)
  obtain ⟨name, hsql, hcases⟩ := Sql.tableColumn_cases (String.ofList table) hend
  refine ⟨_, _, _, name, rfl, parseAt_table hshows, fun _ _ => hsql, ?_, ?_⟩
  · rwa [String.toList_ofList]
  · rwa [String.toList_ofList]

/-- Where a title leaves nothing, the name of the table is left. -/
theorem looseName_ne_empty {table : String} (htable : IsPlainName table.toList) (column : List Char) :
    Sql.looseName table column ≠ "" := by
  unfold Sql.looseName
  split
  · intro hlower
    have hempty : table.toList = [] := String.toList_eq_nil_iff.2 (Text.lower_eq_empty_iff.1 hlower)
    exact htable.ne_nil hempty
  · assumption

theorem looseName_tame {table : String} (htable : IsPlainName table.toList) (column : List Char) :
    ∀ c ∈ (Sql.looseName table column).toList, Text.Tame c := by
  unfold Sql.looseName
  split
  · exact fun c hc => Text.mem_lower_word htable.forall_isWord hc
  · exact Sql.columnName_tame

/-- **When the SQL of a table reference is empty.** The reference at index `i` of the tokens becomes one node, whose SQL
is the name of its title, and only without a title the name of the table stands in. So it is empty exactly if the title
has no name. -/
theorem convert_table_empty_iff (h : (tokens s)[i]? = some ⟨.table parts, pos⟩) :
    ∃ table column whole name : String, parts = some ⟨some table, some column, some whole⟩ ∧
      Parser.parseAt (tokens s).toArray .primary i = .ok (.table table column whole, i + 1) ∧
      (∀ names sheet, Sql.convert names sheet (.table table column whole) = .ok (.text name)) ∧
      (name = "" ↔ ∃ title, Sql.Titled column.toList title ∧ Sql.Unnamed title) ∧
      ((∃ title, Sql.Titled column.toList title ∧ name = Sql.columnName title) ∨
        (∀ title, ¬ Sql.Titled column.toList title) ∧ name = Sql.looseName table column.toList) := by
  obtain ⟨table, column, whole, name, hparts, hparse, hsql, htable, hcases⟩ := convert_table h
  refine ⟨table, column, whole, name, hparts, hparse, hsql, ?_, hcases⟩
  rcases hcases with ⟨title, htitle, hname⟩ | ⟨hnone, hname⟩
  · rw [hname, Sql.columnName_eq_empty_iff]
    constructor
    · exact fun hunnamed => ⟨title, htitle, hunnamed⟩
    · rintro ⟨title', htitle', hunnamed⟩
      rwa [htitle.unique htitle']
  · have hne := looseName_ne_empty htable column.toList
    rw [hname]
    exact ⟨fun hempty => absurd hempty hne, fun ⟨title, htitle, _⟩ => absurd htitle (hnone title)⟩

/-- The reference in `A1+T[_!]` has a title without a name, so that its SQL is empty. -/
theorem convert_table_empty_iff_unnamed :
    (tokens "=A1+T[_!]")[2]? = some ⟨.table (some ⟨some "T", some "[_!]", some "T[_!]"⟩), 3⟩ ∧
      Sql.Titled "[_!]".toList "_!".toList ∧ Sql.Unnamed "_!".toList ∧
      Parser.parseAt (tokens "=A1+T[_!]").toArray .primary 2 = .ok (.table "T" "[_!]" "T[_!]", 3) ∧
      ∀ names sheet, Sql.convert names sheet (.table "T" "[_!]" "T[_!]") = .ok (.text "") := by
  have htoken : (tokens "=A1+T[_!]")[2]? = some ⟨.table (some ⟨some "T", some "[_!]", some "T[_!]"⟩), 3⟩ := by
    decide +kernel
  have htitle : Sql.Titled "[_!]".toList "_!".toList := Sql.titled_of_found (by decide) (by decide)
  have hunnamed : Sql.Unnamed "_!".toList := Sql.columnName_eq_empty_iff.1 (by decide)
  obtain ⟨table, column, whole, name, hparts, hparse, hsql, hempty, -⟩ := convert_table_empty_iff htoken
  simp only [Option.some.injEq, TableParts.mk.injEq] at hparts
  obtain ⟨rfl, rfl, rfl⟩ := hparts
  refine ⟨htoken, htitle, hunnamed, hparse, fun names sheet => ?_⟩
  rw [hsql names sheet, hempty.2 ⟨_, htitle, hunnamed⟩]

/-- **The SQL of a table reference is tame**: whatever stands in the brackets, of ASCII it holds only lower-case letters,
digits and underscores. -/
theorem convert_table_tame (h : (tokens s)[i]? = some ⟨.table parts, pos⟩) :
    ∃ (e : Expr) (name : String), Parser.parseAt (tokens s).toArray .primary i = .ok (e, i + 1) ∧
      (∀ names sheet, Sql.convert names sheet e = .ok (.text name)) ∧
      ∀ c ∈ name.toList, c.toNat < 0x80 → c.isLower ∨ c.isDigit ∨ c = '_' := by
  obtain ⟨table, column, whole, name, -, hparse, hsql, htable, hcases⟩ := convert_table h
  have htame : ∀ c ∈ name.toList, Text.Tame c := by
    rcases hcases with ⟨title, -, hname⟩ | ⟨-, hname⟩
    · rw [hname]
      exact Sql.columnName_tame
    · rw [hname]
      exact looseName_tame htable column.toList
  refine ⟨_, name, hparse, hsql, fun c hc hascii => ?_⟩
  simpa [Text.isLowerWord, or_assoc] using htame c hc hascii

/-- A part that is not closed, with marks and with two letters beyond ASCII whose lower case starts in it. -/
theorem convert_table_tame_open :
    (tokens "=T[[K-İ;*/ \x27X")[0]? =
        some ⟨.table (some ⟨some "T", some "[[K-İ;*/ \x27X", some "T[[K-İ;*/ \x27X"⟩), 0⟩ ∧
      (∀ names sheet, Sql.convert names sheet (.table "T" "[[K-İ;*/ \x27X" "T[[K-İ;*/ \x27X") =
        .ok (.text "k_i̇_____x")) ∧
      ∀ c ∈ "k_i̇_____x".toList, c.toNat < 0x80 → c.isLower ∨ c.isDigit ∨ c = '_' := by
  have htoken : (tokens "=T[[K-İ;*/ \x27X")[0]? =
      some ⟨.table (some ⟨some "T", some "[[K-İ;*/ \x27X", some "T[[K-İ;*/ \x27X"⟩), 0⟩ := by decide +kernel
  have hsql : ∀ names sheet, Sql.convert names sheet (.table "T" "[[K-İ;*/ \x27X" "T[[K-İ;*/ \x27X") =
      .ok (.text "k_i̇_____x") := fun _ _ => rfl
  have hnode := parseAt_table (Parser.shows_of_getElem? (by rw [List.getElem?_toArray]; exact htoken))
  obtain ⟨e, name, hparse, hname, htame⟩ := convert_table_tame htoken
  obtain ⟨rfl, -⟩ := Prod.mk.inj (Except.ok.inj (hparse.symm.trans hnode))
  have heq := Datum.text.inj (Except.ok.inj ((hname ⟨.null, .null⟩ .null).symm.trans (hsql ⟨.null, .null⟩ .null)))
  rw [heq] at htame
  exact ⟨htoken, hsql, htame⟩

end References

end FormulaSql
