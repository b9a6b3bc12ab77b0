import FormulaSql.Proofs.Quoting
import FormulaSql.Proofs.Token.Longest

/-!
# Blanks between tokens

Blanks that are put between the front `a` and the rest `r` of a text may be seen by matchers that stand far before them,
because some look far ahead before they give up. Still no matcher is misled.

* What a matcher finds before the blanks it finds as before (`find_kept`), a function name directly before them apart,
  because it has to be followed by its parenthesis.
* Where a matcher finds something in the text with the blanks it finds something without them (`find_found`): the blanks
  belong to no name, cell or decimal, they are no quote and no bracket, and a text in quotes stays one.

**Blanks behind a token that is no function name change nothing but positions** (`tokens_spaced`). The proof goes from
one token to the next up to the place of the blanks (`TokenEnds`, `tokensFrom_gap`).
-/

namespace FormulaSql

open Text (isBlank)

/-- Blanks, at least one. -/
structure Gap (w : List Char) : Prop where
  ne_nil : w ≠ []
  isBlank : ∀ c ∈ w, isBlank c

/-- A gap starts with a blank, whatever follows. -/
theorem Gap.exists_cons {w : List Char} (hw : Gap w) (r : List Char) : ∃ b r', w ++ r = b :: r' ∧ Text.isBlank b := by
  obtain ⟨b, w, rfl⟩ := List.exists_cons_of_ne_nil hw.ne_nil
  exact ⟨b, w ++ r, rfl, hw.isBlank b List.mem_cons_self⟩

/-- A gap holds no character that is no blank. -/
theorem Gap.not_mem {w : List Char} (hw : Gap w) {c : Char} (hc : ¬ Text.isBlank c) : c ∉ w :=
  fun h => hc (hw.isBlank c h)

theorem Gap.head_ne {w : List Char} (hw : Gap w) {c : Char} (hc : ¬ Text.isBlank c) (r : List Char) :
    (w ++ r).head? ≠ some c := by
  obtain ⟨b, r', hgap, hb⟩ := hw.exists_cons r
  rw [hgap]
  rintro ⟨⟩
  exact hc hb

section Matchers

variable {a r w : List Char} {f : Find}

/-! ## Texts -/

theorem textBody_pos {cs : List Char} (h : cs ≠ []) : 0 < (textBody cs).2 := by
  fun_induction textBody cs with
  | case1 => exact absurd rfl h
  | case2 | case3 | case4 => exact Nat.succ_pos _

/-- A text that is closed before some place is read in the same way if no quote stands there. -/
theorem textBody_kept {r' : List Char} (hr : r ≠ []) (hr' : r'.head? ≠ some '"') : ∀ {a : List Char},
    (textBody (a ++ r)).2 ≤ a.length → textBody (a ++ r') = textBody (a ++ r)
  | [], h => absurd (textBody_pos hr) (Nat.not_lt.2 h)
  | c :: a, h => by
    by_cases hc : c = '"'
    · subst hc
      cases a with
      | nil =>
        have hhead : r.head? ≠ some '"' := by
          intro hhead
          obtain ⟨t, rfl⟩ := List.head?_eq_some_iff.1 hhead
          simp [textBody] at h
        rw [List.singleton_append, List.singleton_append, textBody_close hr', textBody_close hhead]
      | cons d a =>
        by_cases hd : d = '"'
        · subst hd
          simp only [List.cons_append, textBody, List.length_cons] at h ⊢
          rw [textBody_kept hr hr' (by omega)]
        · have hhead (t : List Char) : (d :: a ++ t).head? ≠ some '"' := fun h => hd (Option.some.inj h)
          exact (textBody_close (hhead r')).trans (textBody_close (hhead r)).symm
    · rw [List.cons_append, textBody_other hc] at h
      rw [List.cons_append, List.cons_append, textBody_other hc, textBody_other hc,
        textBody_kept hr hr' (Nat.le_of_succ_le_succ h)]

theorem findText_kept (hw : Gap w) (hr : r ≠ []) (h : findText (a ++ r) = some f) (hle : f.length ≤ a.length) :
    findText (a ++ (w ++ r)) = some f := by
  have hquote : (w ++ r).head? ≠ some '"' := hw.head_ne (by decide) r
  cases a with
  | nil => exact absurd (findText_cuts h).pos (Nat.not_lt.2 hle)
  | cons c a =>
    by_cases hc : c = '"'
    · subst hc
      cases h
      rw [List.cons_append, findText, textBody_kept hr hquote (Nat.le_of_succ_le_succ hle)]
      rfl
    · rw [List.cons_append, findText_other hc] at h
      cases h

/-- Only the first character decides whether there is a text. -/
theorem findText_found {r' : List Char} (ha : a ≠ []) (h : findText (a ++ r') = some f) :
    ∃ f', findText (a ++ r) = some f' := by
  obtain ⟨c, a, rfl⟩ := List.exists_cons_of_ne_nil ha
  by_cases hc : c = '"'
  · subst hc
    exact ⟨_, rfl⟩
  · rw [List.cons_append, findText_other hc] at h
    cases h

/-! ## Tables -/

theorem bracketed_le (depth : Nat) (cs : List Char) : bracketed depth cs ≤ cs.length := by
  fun_induction bracketed depth cs with
  | case1 => exact Nat.le_refl 0
  | case3 => simp
  | case2 | case4 | case5 => simp only [List.length_cons]; omega

theorem bracketed_pos {cs : List Char} (depth : Nat) (h : cs ≠ []) : 0 < bracketed depth cs := by
  fun_induction bracketed depth cs with
  | case1 => exact absurd rfl h
  | case2 | case3 | case4 | case5 => exact Nat.succ_pos _

/-- Brackets that are closed before some place are closed there whatever follows. -/
theorem bracketed_kept (hr : r ≠ []) (r' : List Char) : ∀ {a : List Char} {depth : Nat},
    bracketed depth (a ++ r) ≤ a.length → bracketed depth (a ++ r') = bracketed depth (a ++ r)
  | [], depth, h => absurd (bracketed_pos depth hr) (Nat.not_lt.2 h)
  | c :: a, depth, h => by
    simp only [List.cons_append, bracketed, List.length_cons] at h ⊢
    by_cases hopen : c = '['
    · rw [if_pos hopen] at h ⊢
      rw [if_pos hopen, bracketed_kept hr r' (Nat.le_of_succ_le_succ h)]
    · rw [if_neg hopen] at h ⊢
      rw [if_neg hopen]
      by_cases hclose : c = ']'
      · rw [if_pos hclose] at h ⊢
        rw [if_pos hclose]
        by_cases hdepth : depth = 1
        · rw [if_pos hdepth, if_pos hdepth]
        · rw [if_neg hdepth] at h ⊢
          rw [if_neg hdepth, bracketed_kept hr r' (Nat.le_of_succ_le_succ h)]
      · rw [if_neg hclose] at h ⊢
        rw [if_neg hclose, bracketed_kept hr r' (Nat.le_of_succ_le_succ h)]

theorem length_tableFind (name r : List Char) :
    (tableFind name r).length = name.length + bracketed 0 ('[' :: r) := by
  have hle := bracketed_le 0 ('[' :: r)
  simp only [tableFind, List.length_take]
  omega

theorem findTable_kept (hw : Gap w) (hr : r ≠ []) (h : findTable (a ++ r) = some f) (hle : f.length ≤ a.length) :
    findTable (a ++ (w ++ r)) = some f := by
  obtain ⟨b, r', hgap, hb⟩ := hw.exists_cons r
  obtain ⟨name, t, hname, rfl⟩ := findTable_iff.1 h
  have hpos := bracketed_pos 0 (List.cons_ne_nil '[' t)
  rw [length_tableFind] at hle
  obtain ⟨x, rfl, rfl, hname'⟩ := longest_name.kept_marked hb hname (by omega) r'
  rw [← hgap] at hname'
  have hclosed : bracketed 0 (('[' :: x) ++ r) ≤ ('[' :: x).length := by
    rw [List.length_append] at hle
    exact Nat.le_of_add_le_add_left hle
  have hsame := bracketed_kept hr (w ++ r) hclosed
  refine findTable_iff.2 ⟨name, x ++ (w ++ r), hname', ?_⟩
  simp only [tableFind, ← List.cons_append, hsame, List.take_append_of_le_length hclosed]

theorem findTable_found (hw : Gap w) (h : findTable (a ++ (w ++ r)) = some f) : ∃ f', findTable (a ++ r) = some f' := by
  obtain ⟨b, r', hgap, hb⟩ := hw.exists_cons r
  rw [hgap] at h
  obtain ⟨name, t, hname, -⟩ := findTable_iff.1 h
  obtain ⟨x, -, hname'⟩ := longest_name.found_marked hb (by decide) hname r
  exact ⟨_, findTable_iff.2 ⟨name, x ++ r, hname', rfl⟩⟩

/-! ## Sheets -/

theorem findSheet_kept (h : findSheet (a ++ r) = some f) (hle : f.length ≤ a.length) (r' : List Char) :
    findSheet (a ++ r') = some f := by
  obtain ⟨name, front, rest, hcs, hspelling, rfl⟩ := spelling_of_findSheet h
  obtain ⟨x, rfl, -⟩ := split_of_le hcs hle
  rw [List.append_assoc]
  exact findSheet_of_spelling hspelling (x ++ r')

/-- A plain name and its exclamation mark stand before the blanks. -/
theorem findPlainSheet_found {skipped : Nat} (hw : Gap w) (h : findPlainSheet skipped (a ++ (w ++ r)) = some f)
    (skipped' : Nat) : ∃ f', findPlainSheet skipped' (a ++ r) = some f' := by
  obtain ⟨b, r', hgap, hb⟩ := hw.exists_cons r
  rw [hgap] at h
  obtain ⟨name, rest, hcs, hname, -⟩ := findPlainSheet_iff.1 h
  have hnot : ∀ c ∈ name ++ ['!'], ¬ isBlank c := by
    refine List.forall_mem_append.2 ⟨?_, List.forall_mem_singleton.2 (by decide)⟩
    cases name with
    | nil => exact List.forall_mem_nil _
    | cons c cs =>
      exact List.forall_mem_cons.2
        ⟨not_isBlank_of_isNameStart hname.1, fun d hd => not_isBlank_of_isWord (hname.2 d hd)⟩
  have hcs' : a ++ b :: r' = (name ++ ['!']) ++ rest := by rw [hcs]; simp
  obtain ⟨x, rfl, -⟩ := split_of_not_blank hcs' hb hnot
  exact ⟨_, findPlainSheet_iff.2 ⟨name, x ++ r, by simp, hname, rfl⟩⟩

/-- Behind closed quotes a sheet is found unless neither an exclamation mark nor a plain name follows. -/
theorem exists_findSheet_behind {q r : List Char} (hq : '\x27' ∉ q)
    (hr : r.head? ≠ some '!' → ∃ f, findPlainSheet (q.length + 2) r = some f) :
    ∃ f, findSheet ('\x27' :: (q ++ '\x27' :: r)) = some f := by
  by_cases hhead : r.head? = some '!'
  · obtain ⟨t, rfl⟩ := List.head?_eq_some_iff.1 hhead
    exact ⟨_, findSheet_quoted hq⟩
  · rw [findSheet_behind hq hhead]
    exact hr hhead

theorem findSheet_found (hw : Gap w) (ha : a ≠ []) (h : findSheet (a ++ (w ++ r)) = some f) :
    ∃ f', findSheet (a ++ r) = some f' := by
  obtain ⟨c, a, rfl⟩ := List.exists_cons_of_ne_nil ha
  by_cases hc : c = '\x27'
  · subst hc
    by_cases hclosed : '\x27' ∈ a
    · -- the quotes are closed before the blanks
      obtain ⟨q, x, rfl, hq⟩ := List.eq_append_cons_of_mem hclosed
      simp only [List.cons_append, List.append_assoc] at h ⊢
      refine exists_findSheet_behind hq fun hhead => ?_
      have hhead' : (x ++ (w ++ r)).head? ≠ some '!' := by
        cases x with
        | nil => exact hw.head_ne (by decide) r
        | cons d x => exact hhead
      rw [findSheet_behind hq hhead'] at h
      exact findPlainSheet_found hw h _
    · by_cases hlater : '\x27' ∈ r
      · -- the blanks stand inside the quotes
        obtain ⟨q, t, rfl, hq⟩ := List.eq_append_cons_of_mem hlater
        have hquote : '\x27' ∉ w := hw.not_mem (by decide)
        have hinside : '\x27' ∉ a ++ (w ++ q) := by simp [hclosed, hquote, hq]
        have hinside' : '\x27' ∉ a ++ q := by simp [hclosed, hq]
        have htext : '\x27' :: a ++ (w ++ (q ++ '\x27' :: t)) = '\x27' :: ((a ++ (w ++ q)) ++ '\x27' :: t) := by simp
        have htext' : '\x27' :: a ++ (q ++ '\x27' :: t) = '\x27' :: ((a ++ q) ++ '\x27' :: t) := by simp
        rw [htext] at h
        rw [htext']
        refine exists_findSheet_behind hinside' fun hhead => ?_
        rw [findSheet_behind hinside hhead] at h
        obtain ⟨name, rest, rfl, hname, -⟩ := findPlainSheet_iff.1 h
        exact ⟨_, findPlainSheet_iff.2 ⟨name, rest, rfl, hname, rfl⟩⟩
      · have hquote : '\x27' ∉ a ++ (w ++ r) := by
          simp [hclosed, hlater, hw.not_mem (show ¬ Text.isBlank '\x27' by decide)]
        rw [List.cons_append, findSheet_open hquote] at h
        cases h
  · rw [List.cons_append, findSheet_plain hc, ← List.cons_append] at h ⊢
    exact findPlainSheet_found hw h 0

/-! ## Cells and ranges -/

theorem findCell_kept (hw : Gap w) (h : findCell (a ++ r) = some f) (hle : f.length ≤ a.length) :
    findCell (a ++ (w ++ r)) = some f := by
  obtain ⟨b, r', hgap, hb⟩ := hw.exists_cons r
  obtain ⟨⟨name, rest⟩, hname, rfl⟩ := Option.map_eq_some_iff.1 h
  obtain ⟨x, -, -, hname'⟩ := longest_cell.kept hb hname hle r'
  rw [findCell, hgap, hname', Option.map_some]

theorem findCell_found (hw : Gap w) (h : findCell (a ++ (w ++ r)) = some f) : ∃ f', findCell (a ++ r) = some f' := by
  obtain ⟨b, r', hgap, hb⟩ := hw.exists_cons r
  rw [hgap] at h
  obtain ⟨⟨name, rest⟩, hname, -⟩ := Option.map_eq_some_iff.1 h
  obtain ⟨-, -, ⟨t, ht⟩, -⟩ := longest_cell.found hb hname r
  exact ⟨_, by rw [findCell, ht, Option.map_some]⟩

theorem findRange_kept (hw : Gap w) (h : findRange (a ++ r) = some f) (hle : f.length ≤ a.length) :
    findRange (a ++ (w ++ r)) = some f := by
  obtain ⟨b, r', hgap, hb⟩ := hw.exists_cons r
  obtain ⟨first, t, last, rest, hfirst, hlast, rfl⟩ := findRange_iff.1 h
  have hlength : first.length + 1 + last.length ≤ a.length := hle
  obtain ⟨x, rfl, rfl, hfirst'⟩ := longest_cell.kept_marked hb hfirst (by omega) r'
  rw [List.length_append, List.length_cons] at hlength
  obtain ⟨y, -, -, hlast'⟩ := longest_cell.kept hb hlast (by omega) r'
  rw [hgap]
  exact findRange_iff.2 ⟨first, _, last, _, hfirst', hlast', rfl⟩

theorem findRange_found (hw : Gap w) (h : findRange (a ++ (w ++ r)) = some f) : ∃ f', findRange (a ++ r) = some f' := by
  obtain ⟨b, r', hgap, hb⟩ := hw.exists_cons r
  rw [hgap] at h
  obtain ⟨first, t, last, rest, hfirst, hlast, -⟩ := findRange_iff.1 h
  obtain ⟨x, rfl, hfirst'⟩ := longest_cell.found_marked hb (by decide) hfirst r
  obtain ⟨-, -, ⟨⟨last', rest'⟩, hlast'⟩, -⟩ := longest_cell.found hb hlast r
  exact ⟨_, findRange_iff.2 ⟨first, x ++ r, last', rest', hfirst', hlast', rfl⟩⟩

/-! ## Numbers -/

theorem findNumber_kept (hw : Gap w) (h : findNumber (a ++ r) = some f) (hle : f.length ≤ a.length) :
    findNumber (a ++ (w ++ r)) = some f := by
  obtain ⟨b, r', hgap, hb⟩ := hw.exists_cons r
  obtain ⟨decimal, rest, x, hd, hread, rfl⟩ := findNumber_iff.1 h
  have hlength : decimal.length ≤ (numberFind decimal rest x).length := by
    unfold numberFind
    split
    · exact Nat.le_succ _
    · exact Nat.le_refl _
  obtain ⟨y, rfl, rfl, hd'⟩ := longest_decimal.kept hb hd (Nat.le_trans hlength hle) r'
  rw [hgap]
  refine findNumber_iff.2 ⟨decimal, _, x, hd', hread, ?_⟩
  cases y with
  | cons c y => rfl
  | nil =>
    -- nothing is left of the front, so a percent sign behind it would be too far
    have hpercent : ([] ++ r).head? ≠ some '%' := by
      intro hhead
      rw [numberFind, if_pos hhead, List.append_nil] at hle
      exact Nat.not_succ_le_self _ hle
    have hblank : ([] ++ b :: r').head? ≠ some '%' := hgap ▸ hw.head_ne (by decide) r
    rw [numberFind, numberFind, if_neg hpercent, if_neg hblank]

theorem findNumber_found (hw : Gap w) (h : findNumber (a ++ (w ++ r)) = some f) :
    ∃ f', findNumber (a ++ r) = some f' := by
  obtain ⟨b, r', hgap, hb⟩ := hw.exists_cons r
  rw [hgap] at h
  obtain ⟨decimal, rest, x, hd, -⟩ := findNumber_iff.1 h
  obtain ⟨-, -, ⟨⟨decimal', rest'⟩, hd'⟩, -⟩ := longest_decimal.found hb hd r
  obtain ⟨⟨whole, fraction, n, t⟩, ht, -⟩ := Option.map_eq_some_iff.1 hd'
  exact ⟨_, by rw [findNumber, ht, Option.map_some]⟩

/-! ## Functions -/

/-- The parenthesis has to stand before the blanks too. -/
theorem findFunction_kept (hw : Gap w) (h : findFunction (a ++ r) = some f) (hlt : f.length < a.length) :
    findFunction (a ++ (w ++ r)) = some f := by
  obtain ⟨b, r', hgap, hb⟩ := hw.exists_cons r
  obtain ⟨name, t, hname, rfl⟩ := findFunction_iff.1 h
  rw [length_functionFind (longest_function.iff.1 hname).2.1] at hlt
  obtain ⟨x, -, -, hname'⟩ := longest_function.kept_marked hb hname hlt r'
  rw [hgap]
  exact findFunction_iff.2 ⟨name, _, hname', rfl⟩

theorem findFunction_found (hw : Gap w) (h : findFunction (a ++ (w ++ r)) = some f) :
    ∃ f', findFunction (a ++ r) = some f' := by
  obtain ⟨b, r', hgap, hb⟩ := hw.exists_cons r
  rw [hgap] at h
  obtain ⟨name, t, hname, -⟩ := findFunction_iff.1 h
  obtain ⟨x, -, hname'⟩ := longest_function.found_marked hb (by decide) hname r
  exact ⟨_, findFunction_iff.2 ⟨name, x ++ r, hname', rfl⟩⟩

/-! ## Operators and punctuation -/

theorem not_isBlank_operator : ∀ op ∈ operators, ∀ c ∈ op.toList, ¬ isBlank c := by
  have h : operators.all fun op => op.toList.all fun c => !isBlank c := by decide
  intro op hop c hc
  simpa using List.all_eq_true.1 (List.all_eq_true.1 h op hop) c hc

/-- An operator before blanks stands there without them. -/
theorem isPrefixOf_found (hw : Gap w) {op : String} (hop : op ∈ operators) (h : op.toList.isPrefixOf (a ++ (w ++ r))) :
    op.toList.isPrefixOf (a ++ r) := by
  obtain ⟨b, r', hgap, hb⟩ := hw.exists_cons r
  rw [hgap] at h
  obtain ⟨t, ht⟩ := List.isPrefixOf_iff_prefix.1 h
  obtain ⟨x, rfl, -⟩ := split_of_not_blank ht.symm hb (not_isBlank_operator op hop)
  rw [List.append_assoc]
  exact List.isPrefixOf_iff_prefix.2 (List.prefix_append _ _)

theorem findOperator_kept (hw : Gap w) (h : findOperator (a ++ r) = some f) (hle : f.length ≤ a.length) :
    findOperator (a ++ (w ++ r)) = some f := by
  obtain ⟨op, hop, rfl⟩ := Option.map_eq_some_iff.1 h
  obtain ⟨hstarts, before, after, hsplit, hbefore⟩ := List.find?_eq_some_iff_append.1 hop
  have hfind : (operators.find? fun op => op.toList.isPrefixOf (a ++ (w ++ r))) = some op := by
    refine List.find?_eq_some_iff_append.2 ⟨?_, before, after, hsplit, fun op' hop' => ?_⟩
    · obtain ⟨t, ht⟩ := List.isPrefixOf_iff_prefix.1 hstarts
      obtain ⟨x, rfl, -⟩ := split_of_le ht.symm (by rw [String.length_toList]; exact hle)
      rw [List.append_assoc]
      exact List.isPrefixOf_iff_prefix.2 (List.prefix_append _ _)
    · have hnot := hbefore op' hop'
      rw [Bool.not_eq_true', ← Bool.not_eq_true] at hnot ⊢
      exact fun h => hnot (isPrefixOf_found hw (by rw [hsplit]; exact List.mem_append_left _ hop') h)
  rw [findOperator, hfind, Option.map_some]

theorem findOperator_found (hw : Gap w) (h : findOperator (a ++ (w ++ r)) = some f) :
    ∃ f', findOperator (a ++ r) = some f' := by
  obtain ⟨op, hop, -⟩ := Option.map_eq_some_iff.1 h
  have hmem := List.mem_of_find?_eq_some hop
  have hspaced := List.find?_some hop
  have hstarts := isPrefixOf_found hw hmem hspaced
  obtain ⟨op', hop'⟩ : ∃ op', (operators.find? fun op => op.toList.isPrefixOf (a ++ r)) = some op' :=
    Option.isSome_iff_exists.1 (List.find?_isSome.2 ⟨op, hmem, hstarts⟩)
  exact ⟨_, by rw [findOperator, hop', Option.map_some]⟩

/-- Only the first character decides what punctuation there is. -/
theorem findPunctuation_append (ha : a ≠ []) (r' : List Char) :
    findPunctuation (a ++ r') = findPunctuation (a ++ r) := by
  obtain ⟨c, a, rfl⟩ := List.exists_cons_of_ne_nil ha
  by_cases hopen : c = '('
  · rw [hopen]; rfl
  · by_cases hclose : c = ')'
    · rw [hclose]; rfl
    · by_cases hcomma : c = ','
      · rw [hcomma]; rfl
      · simp [findPunctuation, hopen, hclose, hcomma]

/-! ## All matchers -/

/-- **What a matcher finds before blanks it finds as without them.** A function name has to be followed by its
parenthesis, so that it must not end where the blanks are. -/
theorem find_kept {m : Matcher} (hw : Gap w) (hr : r ≠ []) (h : m.find (a ++ r) = some f) (hle : f.length ≤ a.length)
    (hfunction : ∀ name, f.lexeme = .function name → f.length < a.length) : m.find (a ++ (w ++ r)) = some f := by
  cases m with
  | text => exact findText_kept hw hr h hle
  | table => exact findTable_kept hw hr h hle
  | sheet => exact findSheet_kept h hle _
  | range => exact findRange_kept hw h hle
  | cell => exact findCell_kept hw h hle
  | number => exact findNumber_kept hw h hle
  | function =>
    obtain ⟨name, t, -, rfl⟩ := findFunction_iff.1 h
    exact findFunction_kept hw h (hfunction _ rfl)
  | operator => exact findOperator_kept hw h hle
  | punctuation =>
    have ha : a ≠ [] := List.length_pos_iff.1 (Nat.lt_of_lt_of_le (find_cuts h).pos hle)
    exact (findPunctuation_append ha _).trans h

/-- **Blanks that are put in make no matcher succeed that fails without them.** -/
theorem find_found {m : Matcher} (hw : Gap w) (ha : a ≠ []) (h : m.find (a ++ (w ++ r)) = some f) :
    ∃ f', m.find (a ++ r) = some f' := by
  cases m with
  | text => exact findText_found ha h
  | table => exact findTable_found hw h
  | sheet => exact findSheet_found hw ha h
  | range => exact findRange_found hw h
  | cell => exact findCell_found hw h
  | number => exact findNumber_found hw h
  | function => exact findFunction_found hw h
  | operator => exact findOperator_found hw h
  | punctuation => exact ⟨f, (findPunctuation_append ha _).symm.trans h⟩

theorem find_none {m : Matcher} (hw : Gap w) (ha : a ≠ []) (h : m.find (a ++ r) = none) :
    m.find (a ++ (w ++ r)) = none := by
  cases hfind : m.find (a ++ (w ++ r)) with
  | none => rfl
  | some f =>
    obtain ⟨f', hf'⟩ := find_found hw ha hfind
    cases h.symm.trans hf'

/-- The first successful matcher stays the first. -/
theorem firstFind_kept (hw : Gap w) (hr : r ≠ []) (h : firstFind (a ++ r) = some f) (hle : f.length ≤ a.length)
    (hfunction : ∀ name, f.lexeme = .function name → f.length < a.length) : firstFind (a ++ (w ++ r)) = some f := by
  have ha : a ≠ [] := List.length_pos_iff.1 (Nat.lt_of_lt_of_le (firstFind_cuts h).pos hle)
  obtain ⟨before, m, after, horder, hm, hbefore⟩ := List.findSome?_eq_some_iff.1 h
  exact List.findSome?_eq_some_iff.2
    ⟨before, m, after, horder, find_kept hw hr hm hle hfunction, fun m' hm' => find_none hw ha (hbefore m' hm')⟩

theorem skipped_kept {c : Char} (hw : Gap w) (h : Skipped (c :: (a ++ r))) : Skipped (c :: (a ++ (w ++ r))) := by
  rcases h with ⟨d, hd, hblank⟩ | hnone
  · cases hd
    exact .inl ⟨c, rfl, hblank⟩
  · exact .inr fun m => find_none hw (List.cons_ne_nil c a) (hnone m)

end Matchers

/-! ## From one token to the next -/

/-- The token with its position moved by `n` if it starts at `p` or behind. -/
def Token.shifted (p n : Nat) (t : Token) : Token :=
  if p ≤ t.position then { t with position := t.position + n } else t

theorem Token.shifted_of_le {p n : Nat} {t : Token} (h : p ≤ t.position) :
    t.shifted p n = ⟨t.lexeme, t.position + n⟩ :=
  if_pos h

theorem Token.shifted_of_lt {p n : Nat} {t : Token} (h : t.position < p) : t.shifted p n = t :=
  if_neg (Nat.not_le.2 h)

/-- A text that starts later has its tokens later. -/
theorem tokensFrom_add {p n : Nat} : ∀ (cs : List Char) (pos : Nat), p ≤ pos →
    tokensFrom cs (pos + n) 0 = (tokensFrom cs pos 0).map (Token.shifted p n) := by
  refine cutting_induction ?nil ?skipped ?found
  case nil =>
    intro pos hp
    rw [tokensFrom_nil, tokensFrom_nil, List.map_singleton, Token.shifted_of_le hp]
  case skipped =>
    intro c cs pos hs ih hp
    rw [tokensFrom_skipped hs, tokensFrom_skipped hs, ← ih (Nat.le_succ_of_le hp), Nat.add_right_comm]
  case found =>
    intro c cs pos f hc hf ih hp
    rw [tokensFrom_found hc hf, tokensFrom_found hc hf, List.map_cons, Token.shifted_of_le hp,
      ← ih (Nat.le_add_right_of_le hp), Nat.add_right_comm]

theorem tokensFrom_blanks {r : List Char} : ∀ {w : List Char} (pos : Nat), (∀ c ∈ w, isBlank c) →
    tokensFrom (w ++ r) pos 0 = tokensFrom r (pos + w.length) 0
  | [], _, _ => rfl
  | c :: w, pos, h => by
    obtain ⟨hc, hw⟩ := List.forall_mem_cons.1 h
    rw [List.cons_append, tokensFrom_skipped (.inl ⟨c, rfl, hc⟩), tokensFrom_blanks (pos + 1) hw, List.length_cons,
      Nat.add_right_comm, Nat.add_assoc]

/-- The characters `front` are cut as what is found in `front ++ r`. -/
structure CutAs (f : Find) (front r : List Char) : Prop where
  found : firstFind (front ++ r) = some f
  length_eq : f.length = front.length
  not_blank : ∀ c ∈ front.head?, ¬ isBlank c

theorem CutAs.length_pos {f : Find} {front r : List Char} (h : CutAs f front r) : 0 < front.length :=
  h.length_eq ▸ (firstFind_cuts h.found).pos

theorem CutAs.tokensFrom_eq {f : Find} {front r : List Char} (h : CutAs f front r) (pos : Nat) :
    tokensFrom (front ++ r) pos 0 = ⟨f.lexeme, pos⟩ :: tokensFrom r (pos + front.length) 0 := by
  obtain ⟨c, front, rfl⟩ := List.exists_cons_of_length_pos h.length_pos
  have hfound := @tokensFrom_found c (front ++ r) f (h.not_blank c rfl) h.found pos
  rw [h.length_eq, ← List.cons_append, List.drop_left] at hfound
  exact hfound

/-- From one token to the next over the text `a ++ r`: the last token of `a` ends where `a` does, and it is no function
name. -/
inductive TokenEnds (r : List Char) : List Char → Prop
  | here {f : Find} {front : List Char} : CutAs f front r → (∀ name, f.lexeme ≠ .function name) → TokenEnds r front
  | skipped {c : Char} {a : List Char} : Skipped (c :: (a ++ r)) → TokenEnds r a → TokenEnds r (c :: a)
  | found {f : Find} {front a : List Char} : CutAs f front (a ++ r) → TokenEnds r a → TokenEnds r (front ++ a)

theorem TokenEnds.length_pos {a r : List Char} (h : TokenEnds r a) : 0 < a.length := by
  induction h with
  | here hcut _ => exact hcut.length_pos
  | skipped _ _ _ => exact Nat.succ_pos _
  | found _ _ ih => rw [List.length_append]; omega

/-- **Blanks between tokens shift what stands behind them.** By induction over the tokens before them. -/
theorem tokensFrom_gap {a r w : List Char} (hw : Gap w) (hr : r ≠ []) (h : TokenEnds r a) (pos : Nat) :
    tokensFrom (a ++ (w ++ r)) pos 0 = (tokensFrom (a ++ r) pos 0).map (Token.shifted (pos + a.length) w.length) := by
  induction h generalizing pos with
  | @here f front hcut hfunction =>
    have hkept := firstFind_kept hw hr hcut.found (Nat.le_of_eq hcut.length_eq) fun name h => absurd h (hfunction name)
    have hcut' : CutAs f front (w ++ r) := ⟨hkept, hcut.length_eq, hcut.not_blank⟩
    have hstart : pos < pos + front.length := Nat.lt_add_of_pos_right hcut.length_pos
    rw [hcut'.tokensFrom_eq, hcut.tokensFrom_eq, List.map_cons, Token.shifted_of_lt hstart,
      tokensFrom_blanks _ hw.isBlank, tokensFrom_add r _ (Nat.le_refl _)]
  | @skipped c a hs _ ih =>
    rw [List.cons_append, List.cons_append, tokensFrom_skipped hs, tokensFrom_skipped (skipped_kept hw hs), ih,
      List.length_cons, Nat.add_right_comm pos, Nat.add_assoc]
  | @found f front a hcut hends ih =>
    have hpos := hends.length_pos
    have hlt : f.length < (front ++ a).length := by rw [hcut.length_eq, List.length_append]; omega
    have hfound : firstFind ((front ++ a) ++ r) = some f := by rw [List.append_assoc]; exact hcut.found
    have hkept := firstFind_kept hw hr hfound (Nat.le_of_lt hlt) fun _ _ => hlt
    rw [List.append_assoc] at hkept
    have hcut' : CutAs f front (a ++ (w ++ r)) := ⟨hkept, hcut.length_eq, hcut.not_blank⟩
    have hstart : pos < pos + (front ++ a).length := by omega
    rw [List.append_assoc, List.append_assoc, hcut'.tokensFrom_eq, hcut.tokensFrom_eq, List.map_cons,
      Token.shifted_of_lt hstart, ih, List.length_append, Nat.add_assoc]

/-- Where a step of the lexer gives a token of the text that is no function name, that token ends. -/
theorem tokenEnds_of_mem {text : List Char} {t : Token} {p : Nat} (hfunction : ∀ name, t.lexeme ≠ .function name)
    (hstep : (⟨text, t.position⟩ : Lexer).step = .ok (⟨text, p⟩, some t)) : ∀ (cs : List Char) (pos : Nat),
    text.drop pos = cs → t ∈ tokensFrom cs pos 0 → ∃ a r, cs = a ++ r ∧ TokenEnds r a ∧ pos + a.length = p := by
  refine cutting_induction ?nil ?skipped ?found
  case nil =>
    intro pos h ht
    cases List.mem_singleton.1 ht
    rw [Lexer.step, show (⟨text, pos⟩ : Lexer).rest = [] from h] at hstep
    cases hstep
  case skipped =>
    intro c cs pos hs ih h ht
    rw [tokensFrom_skipped hs] at ht
    obtain ⟨a, r, rfl, hends, rfl⟩ := ih (Lexer.rest_advance (l := ⟨text, pos⟩) h) ht
    exact ⟨c :: a, r, rfl, .skipped hs hends, by rw [List.length_cons, Nat.add_right_comm, Nat.add_assoc]⟩
  case found =>
    intro c cs pos f hc hf ih h ht
    have hcuts := firstFind_cuts hf
    obtain ⟨n, hn⟩ := Nat.exists_eq_add_one.2 hcuts.pos
    have hlength : ((c :: cs).take f.length).length = f.length := List.length_take_of_le hcuts.le
    have hhead : ∀ d ∈ ((c :: cs).take f.length).head?, ¬ isBlank d := by
      rw [hn, List.take_succ_cons]
      rintro d ⟨⟩
      exact hc
    have hsplit := List.take_append_drop f.length (c :: cs)
    rw [tokensFrom_found hc hf] at ht
    rcases List.mem_cons.1 ht with rfl | ht
    · cases hstep.symm.trans (Lexer.step_found (l := ⟨text, pos⟩) h hc hf)
      exact ⟨_, _, hsplit.symm, .here ⟨by rw [hsplit, hf], hlength.symm, hhead⟩ hfunction, by rw [hlength]⟩
    · obtain ⟨a, r, hrest, hends, rfl⟩ := ih (by rw [← h, List.drop_drop]) ht
      refine ⟨(c :: cs).take f.length ++ a, r, ?_, .found ⟨?_, hlength.symm, hhead⟩ hends, ?_⟩
      · rw [List.append_assoc, ← hrest, hsplit]
      · rw [← hrest, hsplit, hf]
      · rw [List.length_append, hlength, Nat.add_assoc]

/-- **Blanks between tokens do not matter.** Where a token that is no function name ends inside a text, blanks can be
put in: the tokens stay the same, and those behind the place start later by the number of blanks. -/
theorem tokens_spaced {text w : List Char} {t : Token} {p : Nat} (ht : t ∈ (⟨text, 0⟩ : Lexer).finish.2)
    (hstep : (⟨text, t.position⟩ : Lexer).step = .ok (⟨text, p⟩, some t))
    (hfunction : ∀ name, t.lexeme ≠ .function name) (hp : p < text.length) (hw : Gap w) :
    (⟨text.take p ++ w ++ text.drop p, 0⟩ : Lexer).finish.2 =
      (⟨text, 0⟩ : Lexer).finish.2.map (Token.shifted p w.length) := by
  obtain ⟨a, r, rfl, hends, hlength⟩ := tokenEnds_of_mem hfunction hstep text 0 rfl ht
  rw [Nat.zero_add] at hlength
  subst hlength
  have hr : r ≠ [] := by
    rintro rfl
    rw [List.append_nil] at hp
    exact Nat.lt_irrefl _ hp
  have hgap := tokensFrom_gap hw hr hends 0
  rw [Nat.zero_add] at hgap
  rw [List.take_left, List.drop_left, List.append_assoc]
  exact hgap

/-- A blank behind the parenthesis of a call, before a quoted sheet name that holds a blank itself. -/
theorem tokens_spaced_call :
    (⟨"SUM( 'a b'!C1)".toList, 0⟩ : Lexer).finish.2 =
      (⟨"SUM('a b'!C1)".toList, 0⟩ : Lexer).finish.2.map (Token.shifted 4 1) :=
  @tokens_spaced "SUM('a b'!C1)".toList [' '] ⟨.openParen, 3⟩ 4 (by decide) (by decide) (by rintro _ ⟨⟩) (by decide)
    ⟨List.cons_ne_nil _ _, List.forall_mem_singleton.2 (by decide)⟩

/-- Behind a function name the blank parts it from its parenthesis, and the name is lost. -/
example : (⟨"SUM (A1)".toList, 0⟩ : Lexer).finish.2.map Token.lexeme =
    [.openParen, .cell "A1", .closeParen, .finish] := by
  decide

end FormulaSql
