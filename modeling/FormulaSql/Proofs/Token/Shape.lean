import FormulaSql.Proofs.Decimal.Sign
import FormulaSql.Proofs.Text.Case
import FormulaSql.Token.Lexer
import Mathlib.Data.List.TakeWhile

/-!
# What tokens of a formula look like

Tokens that were built by hand may hold anything; those that are cut from a formula may not (`Lexeme.Shaped`). Numbers
have no sign, names hold no punctuation but the one of their kind, sheet names hold no single quote, operators are the
listed ones, and a table reference has all its parts. One lemma for each matcher says so; `tokensFrom_shaped` and
`tokensFrom_end` are what later modules use.
-/

namespace FormulaSql

/-! ## Classes of characters -/

section Classes

open Text

theorem not_low_of_isWord {c : Char} (h : isWord c) : ¬ Low c :=
  fun hl => low_all (P := fun c => ¬ isWord c) (by decide) c hl h

theorem not_low_of_isNameStart {c : Char} (h : isNameStart c) : ¬ Low c :=
  fun hl => low_all (P := fun c => ¬ isNameStart c) (by decide) c hl h

theorem ascii_of_isNameStart {c : Char} (h : isNameStart c) : c.toNat < 0x80 := by
  simp only [isNameStart, Bool.or_eq_true, beq_iff_eq] at h
  rcases h with h | rfl
  · exact ascii_of_isAlpha h
  · decide

theorem not_isBlank_of_isNameStart {c : Char} (h : isNameStart c) : ¬ isBlank c :=
  all_below (P := fun c => isNameStart c → ¬ isBlank c) (by decide) c (ascii_of_isNameStart h) h

theorem not_low_of_isUpper {c : Char} (h : c.isUpper) : ¬ Low c :=
  fun hl => low_all (P := fun c => ¬ c.isUpper) (by decide) c hl h

theorem not_low_of_isDigit {c : Char} (h : isDigit c) : ¬ Low c :=
  fun hl => low_all (P := fun c => ¬ isDigit c) (by decide) c hl h

theorem low_of_isFunctionPart {c : Char} (h : isFunctionPart c) (hl : Low c) : c = '.' :=
  low_all (P := fun c => isFunctionPart c → c = '.') (by decide) c hl h

end Classes

/-! ## Shapes -/

/-- Of the characters before the digits, a text holds none but the given ones. -/
def Holds (marks : List Char) (s : String) : Prop :=
  ∀ c ∈ s.toList, Text.Low c → c ∈ marks

/-- What a lexeme that is cut from a formula looks like. -/
def Lexeme.Shaped : Lexeme → Prop
  | number value => ∃ x, value = .real x ∧ Decimal.Unsigned x
  | cell name => Holds ['$'] name
  | range name => Holds ['$'] name
  | table parts => ∃ name column whole, parts = some ⟨some name, some column, some whole⟩ ∧ Holds [] name
  | function name => Holds ['.'] name
  | operator symbol => symbol ∈ operators
  | sheet name => ∃ s, name = some s ∧ '\x27' ∉ s.toList
  | text _ | openParen | closeParen | comma | percent | finish => True

theorem holds_of_not_low {cs : List Char} (h : ∀ c ∈ cs, ¬ Text.Low c) : Holds [] (String.ofList cs) :=
  fun c hc hl => absurd hl (h c (by simpa using hc))

theorem not_quote_of_not_low {cs : List Char} (h : ∀ c ∈ cs, ¬ Text.Low c) : '\x27' ∉ cs :=
  fun hq => h _ hq (by decide)

/-! ## Texts and names -/

theorem findText_shaped {cs : List Char} {f : Find} (h : findText cs = some f) : f.lexeme.Shaped := by
  unfold findText at h
  split at h
  · cases h; trivial
  · cases h

theorem takeName_not_low {cs name r : List Char} (h : takeName? cs = some (name, r)) : ∀ c ∈ name, ¬ Text.Low c := by
  cases cs with
  | nil => cases h
  | cons d ds =>
    simp only [takeName?] at h
    split at h
    · rename_i hd
      cases h
      intro c hc
      rcases List.mem_cons.1 hc with rfl | hc
      · exact not_low_of_isNameStart hd
      · exact not_low_of_isWord (List.mem_takeWhile_imp hc)
    · cases h

theorem findTable_shaped {cs : List Char} {f : Find} (h : findTable cs = some f) : f.lexeme.Shaped := by
  unfold findTable at h
  split at h
  · rename_i name r hn
    cases h
    exact ⟨_, _, _, rfl, holds_of_not_low (takeName_not_low hn)⟩
  · cases h

theorem findPlainSheet_shaped {skipped : Nat} {cs : List Char} {f : Find} (h : findPlainSheet skipped cs = some f) :
    f.lexeme.Shaped := by
  unfold findPlainSheet at h
  split at h
  · rename_i name _ hn
    cases h
    exact ⟨_, rfl, by simpa using not_quote_of_not_low (takeName_not_low hn)⟩
  · cases h

theorem findSheet_shaped {cs : List Char} {f : Find} (h : findSheet cs = some f) : f.lexeme.Shaped := by
  unfold findSheet at h
  split at h
  · dsimp only at h
    split at h
    · cases h
      refine ⟨_, rfl, fun hq => ?_⟩
      rw [String.toList_ofList] at hq
      exact absurd (List.mem_takeWhile_imp hq) (by decide)
    · exact findPlainSheet_shaped h
    · cases h
  · exact findPlainSheet_shaped h

/-! ## Cells, ranges, numbers -/

theorem mem_takeDollar {cs : List Char} {c : Char} (h : c ∈ (takeDollar cs).1) : c = '$' := by
  unfold takeDollar at h
  split at h
  · exact List.mem_singleton.1 h
  · cases h

theorem takeCell_low {cs name r : List Char} (h : takeCell? cs = some (name, r)) : ∀ c ∈ name, Text.Low c → c = '$' := by
  unfold takeCell? at h
  dsimp only at h
  split at h
  · cases h
  · cases h
    intro c hc hl
    simp only [List.mem_append] at hc
    rcases hc with ((hc | hc) | hc) | hc
    · exact mem_takeDollar hc
    · exact absurd hl (not_low_of_isUpper (List.mem_takeWhile_imp hc))
    · exact mem_takeDollar hc
    · exact absurd hl (not_low_of_isDigit (List.mem_takeWhile_imp hc))

theorem findCell_shaped {cs : List Char} {f : Find} (h : findCell cs = some f) : f.lexeme.Shaped := by
  obtain ⟨⟨name, r⟩, hn, rfl⟩ := Option.map_eq_some_iff.1 h
  intro c hc hl
  simpa using takeCell_low hn c (by simpa using hc) hl

theorem findRange_shaped {cs : List Char} {f : Find} (h : findRange cs = some f) : f.lexeme.Shaped := by
  unfold findRange at h
  split at h
  · rename_i first r hfirst
    obtain ⟨⟨last, _⟩, hlast, rfl⟩ := Option.map_eq_some_iff.1 h
    intro c hc hl
    simp only [String.toList_ofList, List.mem_append, List.mem_cons] at hc
    rcases hc with hc | rfl | hc
    · simpa using takeCell_low hfirst c hc hl
    · exact absurd hl (by decide)
    · simpa using takeCell_low hlast c hc hl
  · cases h

theorem findNumber_shaped {cs : List Char} {f : Find} (h : findNumber cs = some f) : f.lexeme.Shaped := by
  obtain ⟨⟨whole, fraction, n, r⟩, _, rfl⟩ := Option.map_eq_some_iff.1 h
  dsimp only
  split
  · exact ⟨_, rfl, Decimal.unsigned_percent whole fraction⟩
  · exact ⟨_, rfl, Decimal.unsigned_ofParts whole fraction⟩

/-! ## Functions, operators -/

theorem findFunction_shaped {cs : List Char} {f : Find} (h : findFunction cs = some f) : f.lexeme.Shaped := by
  unfold findFunction at h
  split at h
  · cases h
  · rename_i c cs
    split at h
    · rename_i hc
      split at h
      · cases h
        intro x hx hl
        rw [String.toList_ofList] at hx
        have hpart : isFunctionPart x := by
          rcases List.mem_cons.1 (Text.mem_upper_low hx hl) with rfl | hx
          · simp [isFunctionPart, hc]
          · exact List.mem_takeWhile_imp hx
        simpa using low_of_isFunctionPart hpart hl
      · cases h
    · cases h

theorem findOperator_shaped {cs : List Char} {f : Find} (h : findOperator cs = some f) : f.lexeme.Shaped := by
  obtain ⟨symbol, hs, rfl⟩ := Option.map_eq_some_iff.1 h
  exact List.mem_of_find?_eq_some hs

theorem findPunctuation_shaped {cs : List Char} {f : Find} (h : findPunctuation cs = some f) : f.lexeme.Shaped := by
  unfold findPunctuation at h
  split at h <;> cases h <;> trivial

/-! ## All tokens -/

/-- Whatever a matcher finds has its shape. -/
theorem find_shaped {m : Matcher} {cs : List Char} {f : Find} (h : m.find cs = some f) : f.lexeme.Shaped := by
  cases m with
  | text => exact findText_shaped h
  | table => exact findTable_shaped h
  | sheet => exact findSheet_shaped h
  | range => exact findRange_shaped h
  | cell => exact findCell_shaped h
  | number => exact findNumber_shaped h
  | function => exact findFunction_shaped h
  | operator => exact findOperator_shaped h
  | punctuation => exact findPunctuation_shaped h

theorem firstFind_shaped {cs : List Char} {f : Find} (h : firstFind cs = some f) : f.lexeme.Shaped := by
  obtain ⟨m, _, hm⟩ := List.exists_of_findSome?_eq_some h
  exact find_shaped hm

/-- **Every token of a formula has its shape.** -/
theorem tokensFrom_shaped (cs : List Char) (pos skip : Nat) : ∀ t ∈ tokensFrom cs pos skip, t.lexeme.Shaped := by
  fun_induction tokensFrom cs pos skip with
  | case1 => intro t ht; cases List.mem_singleton.1 ht; trivial
  | case2 _ _ _ _ ih | case3 _ _ _ _ ih | case5 _ _ _ _ _ ih => exact ih
  | case4 c cs pos _ f hf ih =>
    intro t ht
    rcases List.mem_cons.1 ht with rfl | ht
    · exact firstFind_shaped hf
    · exact ih t ht

/-- The tokens end with the finishing one. -/
theorem tokensFrom_end (cs : List Char) (pos skip : Nat) : ∃ ts p, tokensFrom cs pos skip = ts ++ [⟨.finish, p⟩] := by
  fun_induction tokensFrom cs pos skip with
  | case1 => exact ⟨[], _, rfl⟩
  | case2 _ _ _ _ ih | case3 _ _ _ _ ih | case5 _ _ _ _ _ ih => exact ih
  | case4 c cs pos _ f hf ih =>
    obtain ⟨ts, p, h⟩ := ih
    exact ⟨_ :: ts, p, by rw [h]; rfl⟩

end FormulaSql
