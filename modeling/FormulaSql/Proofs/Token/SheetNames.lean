import FormulaSql.Proofs.Token.Partition
import FormulaSql.Proofs.Text.Runs

/-!
# Names of sheets

A sheet is written before an exclamation mark, in single quotes or as a plain name. The matcher for sheets first looks for
a name in quotes. Where no exclamation mark follows the closing quote it goes on from there and takes a plain name, with
the quotes before it. So there are three spellings of a sheet (`SheetSpelling`), and the matcher finds exactly those
(`spelling_of_findSheet`, `findSheet_of_spelling`).

**A sheet token is spelled by its name and an exclamation mark, with quotes around the name or without, exactly if no
closed quotes without an exclamation mark stand where the token starts** (`tokens_sheet`). In `'a'b!A1` the token is the
sheet `b`, and `'a'` is part of it.
-/

namespace FormulaSql

/-! ## Plain names -/

/-- A plain name: a letter or an underscore, then word characters. -/
abbrev IsPlainName : List Char → Prop :=
  IsRun isNameStart Text.isWord

section PlainNames

variable {cs name r : List Char}

theorem IsPlainName.ne_nil (h : IsPlainName name) : name ≠ [] := by
  rintro rfl
  exact h

theorem IsPlainName.forall_isWord (h : IsPlainName name) : ∀ c ∈ name, Text.isWord c := by
  cases name with
  | nil => exact h.elim
  | cons c cs =>
    have hstart : ∀ c : Char, c.toNat < 0x80 → isNameStart c → Text.isWord c := Text.all_below (by decide)
    exact List.forall_mem_cons.2 ⟨hstart c (ascii_of_isNameStart h.1) h.1, h.2⟩

/-- A plain name holds none of the marks before the digits. -/
theorem IsPlainName.not_low (h : IsPlainName name) : ∀ c ∈ name, ¬ Text.Low c := by
  cases name with
  | nil => exact h.elim
  | cons c cs => exact List.forall_mem_cons.2 ⟨not_low_of_isNameStart h.1, fun d hd => not_low_of_isWord (h.2 d hd)⟩

theorem IsPlainName.head_ne_mark (h : IsPlainName name) (r : List Char) : (name ++ r).head? ≠ some '!' := by
  obtain ⟨c, cs, rfl⟩ := List.exists_cons_of_ne_nil h.ne_nil
  rintro ⟨⟩
  exact h.not_low '!' List.mem_cons_self (by decide)

theorem isPlainName_of_takeName (h : takeName? cs = some (name, r)) : IsPlainName name := by
  cases cs with
  | nil => cases h
  | cons c cs =>
    simp only [takeName?] at h
    split at h
    · rename_i hc
      cases h
      exact ⟨hc, fun d => List.mem_takeWhile_imp⟩
    · cases h

/-- A plain name is taken up to what is no word character. -/
theorem takeName_append_of_isPlainName {c : Char} (h : IsPlainName name) (hc : ¬ Text.isWord c) :
    takeName? (name ++ c :: r) = some (name, c :: r) := by
  cases name with
  | nil => exact h.elim
  | cons d ds =>
    rw [List.cons_append, takeName?, if_pos h.1, List.takeWhile_append_of_pos h.2, List.dropWhile_append_of_pos h.2,
      List.takeWhile_cons_of_neg hc, List.dropWhile_cons_of_neg hc, List.append_nil]

end PlainNames

/-! ## Spellings -/

/-- How a sheet is spelled. -/
inductive SheetSpelling (name : List Char) : List Char → Prop
  | plain : IsPlainName name → SheetSpelling name (name ++ ['!'])
  | quoted : '\x27' ∉ name → SheetSpelling name ('\x27' :: (name ++ ['\x27', '!']))
  /-- A plain name behind quotes that have nothing to do with it. -/
  | behind {quoted : List Char} : '\x27' ∉ quoted → IsPlainName name →
      SheetSpelling name ('\x27' :: (quoted ++ '\x27' :: (name ++ ['!'])))

section Spellings

variable {cs name : List Char} {f : Find}

theorem findPlainSheet_iff {skipped : Nat} : findPlainSheet skipped cs = some f ↔
    ∃ name rest, cs = name ++ '!' :: rest ∧ IsPlainName name ∧
      f = ⟨.sheet (some (String.ofList name)), skipped + name.length + 1⟩ := by
  constructor
  · intro h
    unfold findPlainSheet at h
    split at h
    · rename_i name rest hname
      cases h
      exact ⟨name, rest, (takeName_append hname).1, isPlainName_of_takeName hname, rfl⟩
    · cases h
  · rintro ⟨name, rest, rfl, hname, rfl⟩
    have hmark : ¬ Text.isWord '!' := by decide
    rw [findPlainSheet, takeName_append_of_isPlainName hname hmark]
    rfl

theorem findSheet_quoted {r : List Char} (hq : '\x27' ∉ name) :
    findSheet ('\x27' :: (name ++ '\x27' :: '!' :: r)) = some ⟨.sheet (some (String.ofList name)), name.length + 3⟩ := by
  obtain ⟨htake, hdrop⟩ := span_mark hq ('!' :: r)
  simp only [findSheet, htake, hdrop]

/-- Where no exclamation mark follows the quotes, a plain name is looked for. -/
theorem findSheet_behind {quoted r : List Char} (hq : '\x27' ∉ quoted) (hr : r.head? ≠ some '!') :
    findSheet ('\x27' :: (quoted ++ '\x27' :: r)) = findPlainSheet (quoted.length + 2) r := by
  obtain ⟨htake, hdrop⟩ := span_mark hq r
  simp only [findSheet, htake, hdrop]
  cases r with
  | nil => rfl
  | cons c r =>
    have hc : c ≠ '!' := fun h => hr (h ▸ rfl)
    split
    · rename_i h
      exact absurd (List.cons.inj (List.cons.inj h).2).1 hc
    · rename_i h
      cases h
      rfl
    · rename_i h
      exact absurd rfl (h _)

/-- Quotes that are not closed hold no sheet. -/
theorem findSheet_open {r : List Char} (hr : '\x27' ∉ r) : findSheet ('\x27' :: r) = none := by
  have hall : ∀ c ∈ r, (c != '\x27') = true := fun c hc => bne_iff_ne.2 fun h => hr (h ▸ hc)
  have hdrop : r.dropWhile (· != '\x27') = [] := List.dropWhile_eq_nil_iff.2 hall
  simp only [findSheet, hdrop]

theorem findSheet_plain {c : Char} (hc : c ≠ '\x27') : findSheet (c :: cs) = findPlainSheet 0 (c :: cs) := by
  rw [findSheet]
  exact fun _ h => hc (List.cons.inj h).1

theorem spelling_of_findSheet (h : findSheet cs = some f) : ∃ name front rest, cs = front ++ rest ∧
    SheetSpelling name front ∧ f = ⟨.sheet (some (String.ofList name)), front.length⟩ := by
  cases cs with
  | nil => cases h
  | cons c cs =>
    by_cases hc : c = '\x27'
    · subst hc
      by_cases hclosed : '\x27' ∈ cs
      · obtain ⟨quoted, r, rfl, hq⟩ := List.eq_append_cons_of_mem hclosed
        by_cases hr : r.head? = some '!'
        · obtain ⟨rest, rfl⟩ := List.head?_eq_some_iff.1 hr
          rw [findSheet_quoted hq] at h
          cases h
          exact ⟨quoted, _, rest, by simp, .quoted hq, by simp⟩
        · rw [findSheet_behind hq hr] at h
          obtain ⟨name, rest, rfl, hname, rfl⟩ := findPlainSheet_iff.1 h
          exact ⟨name, _, rest, by simp, .behind hq hname, by simp; omega⟩
      · rw [findSheet_open hclosed] at h
        cases h
    · rw [findSheet_plain hc] at h
      obtain ⟨name, rest, hcs, hname, rfl⟩ := findPlainSheet_iff.1 h
      exact ⟨name, _, rest, by simp [hcs], .plain hname, by simp⟩

/-- What follows a spelling does not matter. -/
theorem findSheet_of_spelling {front : List Char} (h : SheetSpelling name front) (rest : List Char) :
    findSheet (front ++ rest) = some ⟨.sheet (some (String.ofList name)), front.length⟩ := by
  cases h with
  | plain hname =>
    obtain ⟨c, cs, rfl⟩ := List.exists_cons_of_ne_nil hname.ne_nil
    have hc : c ≠ '\x27' := fun h => hname.not_low c List.mem_cons_self (h ▸ by decide)
    rw [List.cons_append, List.cons_append, findSheet_plain hc]
    exact findPlainSheet_iff.2 ⟨c :: cs, rest, by simp, hname, by simp⟩
  | quoted hq =>
    have h := @findSheet_quoted name rest hq
    simpa using h
  | @behind quoted hq hname =>
    have hplain : findPlainSheet (quoted.length + 2) (name ++ '!' :: rest) =
        some ⟨.sheet (some (String.ofList name)), quoted.length + 2 + name.length + 1⟩ :=
      findPlainSheet_iff.2 ⟨name, rest, rfl, hname, rfl⟩
    have h := (findSheet_behind hq (hname.head_ne_mark _)).trans hplain
    have hlength : ('\x27' :: (quoted ++ '\x27' :: (name ++ ['!']))).length = quoted.length + 2 + name.length + 1 := by
      simp
      omega
    rw [hlength, ← h]
    simp

end Spellings

/-! ## Before the other matchers -/

section First

variable {name front : List Char}

/-- A spelling starts with a quote or a plain name. -/
theorem spelling_head (h : SheetSpelling name front) :
    ∃ c cs, front = c :: cs ∧ (c = '\x27' ∨ isNameStart c ∧ IsPlainName name ∧ front = name ++ ['!']) := by
  cases h with
  | plain hname =>
    obtain ⟨c, cs, rfl⟩ := List.exists_cons_of_ne_nil hname.ne_nil
    exact ⟨c, cs ++ ['!'], rfl, .inr ⟨hname.1, hname, rfl⟩⟩
  | quoted | behind => exact ⟨_, _, rfl, .inl rfl⟩

/-- No text and no table starts like a sheet. -/
theorem firstFind_of_spelling (h : SheetSpelling name front) (rest : List Char) :
    firstFind (front ++ rest) = some ⟨.sheet (some (String.ofList name)), front.length⟩ := by
  obtain ⟨c, cs, hfront, hhead⟩ := spelling_head h
  have htext : findText (front ++ rest) = none := by
    have hc : c ≠ '"' := by
      rintro rfl
      rcases hhead with hq | ⟨hstart, -⟩
      · exact absurd hq (by decide)
      · exact absurd hstart (by decide)
    rw [hfront, List.cons_append, findText]
    exact fun _ h => hc (List.cons.inj h).1
  have htable : findTable (front ++ rest) = none := by
    rcases hhead with rfl | ⟨-, hname, hmark⟩
    · rw [hfront]
      rfl
    · have hword : ¬ Text.isWord '!' := by decide
      rw [hmark, List.append_assoc, List.singleton_append, findTable, takeName_append_of_isPlainName hname hword]
      rfl
  simp only [firstFind, Matcher.order, List.findSome?_cons, Matcher.find, htext, htable, findSheet_of_spelling h]

end First

/-! ## Sheets of a formula -/

/-- A sheet written as it should be: its name and an exclamation mark, with quotes around the name or without. -/
def SheetWritten (name spelling : List Char) : Prop :=
  spelling = name ++ ['!'] ∨ spelling = '\x27' :: (name ++ ['\x27', '!'])

/-- Closed quotes with no exclamation mark behind them. -/
def StrayQuotes (cs : List Char) : Prop :=
  ∃ quoted r, '\x27' ∉ quoted ∧ cs = '\x27' :: (quoted ++ '\x27' :: r) ∧ r.head? ≠ some '!'

section Written

variable {name front : List Char}

/-- Quotes are closed in one way only. -/
theorem quoted_inj {q q' r r' : List Char} (hq : '\x27' ∉ q) (hq' : '\x27' ∉ q')
    (h : '\x27' :: (q ++ '\x27' :: r) = '\x27' :: (q' ++ '\x27' :: r')) : q = q' ∧ r = r' := by
  have hbody := (List.cons.inj h).2
  obtain ⟨htake, hdrop⟩ := span_mark hq r
  obtain ⟨htake', hdrop'⟩ := span_mark hq' r'
  rw [hbody, htake'] at htake
  rw [hbody, hdrop'] at hdrop
  exact ⟨htake.symm, (List.cons.inj hdrop).2.symm⟩

/-- The spelling is as it should be unless stray quotes stand at its front. -/
theorem written_iff (h : SheetSpelling name front) (rest : List Char) :
    SheetWritten name front ↔ ¬ StrayQuotes (front ++ rest) := by
  cases h with
  | plain hname =>
    refine iff_of_true (.inl rfl) ?_
    rintro ⟨quoted, r, -, hcs, -⟩
    obtain ⟨c, cs, rfl⟩ := List.exists_cons_of_ne_nil hname.ne_nil
    cases (List.cons.inj hcs).1
    exact hname.not_low _ List.mem_cons_self (by decide)
  | quoted hq =>
    refine iff_of_true (.inr rfl) ?_
    rintro ⟨quoted, r, hq', hcs, hr⟩
    have hcs' : '\x27' :: (name ++ '\x27' :: '!' :: rest) = '\x27' :: (quoted ++ '\x27' :: r) := by simpa using hcs
    obtain ⟨-, rfl⟩ := quoted_inj hq hq' hcs'
    exact hr rfl
  | @behind quoted hq hname =>
    refine iff_of_false ?_ (not_not_intro ⟨quoted, name ++ '!' :: rest, hq, by simp, hname.head_ne_mark _⟩)
    obtain ⟨c, cs, hcs⟩ := List.exists_cons_of_ne_nil hname.ne_nil
    have hc : ¬ Text.Low c := hname.not_low c (by rw [hcs]; exact List.mem_cons_self)
    rintro (h | h)
    · rw [hcs] at h
      exact hc ((List.cons.inj h).1 ▸ by decide)
    · obtain ⟨-, hnil⟩ := quoted_inj hq (not_quote_of_not_low hname.not_low) h
      exact hname.head_ne_mark ['!'] (by rw [hnil]; rfl)

end Written

section Places

variable {text name front rest : List Char} {start : Nat}

theorem extract_front (h : text.drop start = front ++ rest) : text.extract start (start + front.length) = front := by
  rw [List.extract_eq_take_drop, h, Nat.add_sub_cancel_left, List.take_left]

/-- The characters between two positions and those behind them. -/
theorem drop_eq_extract {stop : Nat} :
    text.drop start = text.extract start stop ++ (text.drop start).drop (stop - start) :=
  (List.take_append_drop _ _).symm

theorem length_extract {stop : Nat} (h : stop ≤ text.length) : (text.extract start stop).length = stop - start := by
  rw [List.extract_eq_take_drop, List.length_take, List.length_drop]
  omega

/-- A sheet token found at the front of a text is spelled there. -/
theorem spelling_of_firstFind {cs : List Char} {f : Find} {v : Option String} (h : firstFind cs = some f)
    (hv : f.lexeme = .sheet v) : ∃ (name : String) (front rest : List Char), cs = front ++ rest ∧
      SheetSpelling name.toList front ∧ v = some name ∧ f.length = front.length := by
  have hfind : findSheet cs = some f := find_of_firstFind (m := .sheet) h (by rw [hv]; rfl)
  obtain ⟨name, front, rest, hcs, hspelling, rfl⟩ := spelling_of_findSheet hfind
  cases hv
  exact ⟨String.ofList name, front, rest, hcs, by rwa [String.toList_ofList], rfl, rfl⟩

/-- A lexer that stands before a spelling takes it. -/
theorem step_of_spelling (h : text.drop start = front ++ rest) (hs : SheetSpelling name front) :
    (⟨text, start⟩ : Lexer).step =
      .ok (⟨text, start + front.length⟩, some ⟨.sheet (some (String.ofList name)), start⟩) := by
  have hfind := firstFind_of_spelling hs rest
  obtain ⟨c, cs, rfl, hhead⟩ := spelling_head hs
  have hblank : ¬ Text.isBlank c := by
    rcases hhead with rfl | ⟨hc, -⟩
    · decide
    · exact not_isBlank_of_isNameStart hc
  exact Lexer.step_found (l := ⟨text, start⟩) h hblank hfind

end Places

/-- **A sheet token is what is written, stray quotes apart.** Every sheet token of a formula is spelled by the characters
from its position to the place where the lexer goes on, in one of three ways: by its name and an exclamation mark, by its
name in quotes and an exclamation mark, or by a plain name and an exclamation mark with quotes before it that have nothing
to do with it. The last way is taken exactly if closed quotes with no exclamation mark behind them stand where the token
starts. And wherever a sheet is spelled in one of these ways the lexer finds it. -/
theorem tokens_sheet (s : String) :
    (∀ t ∈ tokens s, ∀ v, t.lexeme = .sheet v → ∃ name stop, v = some name ∧ stop ≤ (formulaText s).length ∧
      (⟨formulaText s, t.position⟩ : Lexer).step = .ok (⟨formulaText s, stop⟩, some t) ∧
      SheetSpelling name.toList ((formulaText s).extract t.position stop) ∧
      (SheetWritten name.toList ((formulaText s).extract t.position stop) ↔
        ¬ StrayQuotes ((formulaText s).drop t.position))) ∧
    (∀ (name : String) (start stop : Nat), stop ≤ (formulaText s).length →
      SheetSpelling name.toList ((formulaText s).extract start stop) →
      (⟨formulaText s, start⟩ : Lexer).step = .ok (⟨formulaText s, stop⟩, some ⟨.sheet (some name), start⟩)) := by
  refine ⟨fun t ht v hv => ?_, fun name start stop hstop hspelling => ?_⟩
  · have hfinish : t.lexeme ≠ .finish := by
      rw [hv]
      exact Lexeme.noConfusion
    obtain ⟨f, hfind, hlexeme, hstep⟩ := @Lexer.step_of_mem (formulaText s) t hfinish _ 0 rfl ht
    obtain ⟨name, front, rest, hrest, hspelling, hname, hlength⟩ := spelling_of_firstFind hfind (hlexeme.trans hv)
    have hle := (firstFind_cuts hfind).le
    have hlt := (firstFind_cuts hfind).pos
    rw [List.length_drop] at hle
    have hextract : (formulaText s).extract t.position (t.position + f.length) = front := by
      rw [hlength]
      exact extract_front hrest
    refine ⟨name, t.position + f.length, hname, by omega, hstep, ?_, ?_⟩
    · rw [hextract]
      exact hspelling
    · rw [hextract, hrest]
      exact written_iff hspelling rest
  · have hstep := step_of_spelling drop_eq_extract hspelling
    have hne : 0 < ((formulaText s).extract start stop).length := by
      obtain ⟨c, cs, hfront, -⟩ := spelling_head hspelling
      rw [hfront]
      exact Nat.succ_pos _
    have hlength := @length_extract (formulaText s) start stop hstop
    have hend : start + ((formulaText s).extract start stop).length = stop := by omega
    rw [hend, String.ofList_toList] at hstep
    exact hstep

/-- In `S!A1+'a'b!B2` the second sheet takes the quotes before it, and the first is what is written. -/
theorem tokens_sheet_stray :
    let s := "=S!A1+\x27a\x27b!B2"
    (⟨.sheet (some "b"), 5⟩ ∈ tokens s ∧ ∃ stop, (⟨formulaText s, 5⟩ : Lexer).step =
        .ok (⟨formulaText s, stop⟩, some ⟨.sheet (some "b"), 5⟩) ∧
      SheetSpelling ['b'] ((formulaText s).extract 5 stop) ∧ ¬ SheetWritten ['b'] ((formulaText s).extract 5 stop)) ∧
    (SheetSpelling ['S'] ((formulaText s).extract 0 2) ∧
      (⟨formulaText s, 0⟩ : Lexer).step = .ok (⟨formulaText s, 2⟩, some ⟨.sheet (some "S"), 0⟩)) := by
  intro s
  have htext : formulaText s = "S!A1+\x27a\x27b!B2".toList := by decide +kernel
  have hmem : ⟨.sheet (some "b"), 5⟩ ∈ tokens s := by decide +kernel
  have hplain : SheetSpelling ['S'] ((formulaText s).extract 0 2) := by
    rw [htext]
    exact .plain ⟨by decide, List.forall_mem_nil _⟩
  have hstray : StrayQuotes ((formulaText s).drop 5) := by
    rw [htext]
    exact ⟨['a'], ['b', '!', 'B', '2'], by decide, rfl, by decide⟩
  have hlength : 2 ≤ (formulaText s).length := by
    rw [htext]
    decide
  obtain ⟨hall, hback⟩ := tokens_sheet s
  refine ⟨⟨hmem, ?_⟩, hplain, hback "S" 0 2 hlength hplain⟩
  obtain ⟨name, stop, hname, -, hstep, hspelling, hwritten⟩ := hall _ hmem (some "b") rfl
  cases hname
  exact ⟨stop, hstep, hspelling, fun h => hwritten.1 h hstray⟩

end FormulaSql
