import FormulaSql.Proofs.Decimal.Reading
import FormulaSql.Proofs.Token.Shape

/-!
# What a matcher takes

Whatever a matcher finds stands at the front of the text: it takes at least one character and no more than there are
(`Cuts`), and the lexeme is spelled by the characters it takes (`Lexeme.Spelled`). There is one lemma for each matcher,
and `find_cuts` for all of them. With them the tokens of a text are described by what happens at its front
(`tokensFrom_nil`, `tokensFrom_skipped`, `tokensFrom_found`), and a proof about all the tokens goes from one such place to
the next (`cutting_induction`).
-/

namespace FormulaSql

/-! ## Lexemes and their characters -/

/-- A decimal that the reader of numbers accepts, or one before a percent sign that counts as a hundredth. -/
def Number.Spelled (v : Number) (cs : List Char) : Prop :=
  ∃ decimal x, Decimal.read? (String.ofList decimal) = some x ∧
    (cs = decimal ∧ v = .real x ∨ cs = decimal ++ ['%'] ∧ v = .real (x / 100.0))

/-- How a lexeme is spelled. The finishing lexeme has no characters, and no matcher finds a percent sign alone. -/
def Lexeme.Spelled : Lexeme → List Char → Prop
  | number v, cs => v.Spelled cs
  | table parts, cs => ∃ name column whole, parts = some ⟨some name, some column, some whole⟩ ∧
      whole = String.ofList cs ∧ whole = name ++ column
  | function name, cs => name = Text.upper (String.ofList cs) ∧ name.length = cs.length
  | l@(cell _), cs | l@(range _), cs | l@(operator _), cs | l@openParen, cs | l@closeParen, cs | l@comma, cs =>
      l.value = .text (String.ofList cs)
  | text _, cs => cs.head? = some '"'
  | sheet _, cs => cs.getLast? = some '!'
  | percent, _ | finish, _ => False

/-- What is found takes characters at the front of a text, and they spell the lexeme. -/
structure Cuts (cs : List Char) (f : Find) : Prop where
  pos : 0 < f.length
  le : f.length ≤ cs.length
  spelled : f.lexeme.Spelled (cs.take f.length)

/-- The front may be given apart. -/
theorem cuts_append {front rest : List Char} {l : Lexeme} {n : Nat} (hn : front.length = n) (hne : front ≠ [])
    (hl : l.Spelled front) : Cuts (front ++ rest) ⟨l, n⟩ where
  pos := hn ▸ List.length_pos_iff.2 hne
  le := by rw [List.length_append]; show n ≤ _; omega
  spelled := by rw [List.take_left' hn]; exact hl

/-! ## Texts and names -/

theorem textBody_le (cs : List Char) : (textBody cs).2 ≤ cs.length := by
  fun_induction textBody cs with
  | case1 => exact Nat.le_refl 0
  | case2 r v n hr ih => simp only [hr, List.length_cons] at ih ⊢; omega
  | case3 => simp
  | case4 c r _ _ v n hr ih => simp only [hr, List.length_cons] at ih ⊢; omega

theorem findText_cuts {cs : List Char} {f : Find} (h : findText cs = some f) : Cuts cs f := by
  unfold findText at h
  split at h
  · rename_i r
    cases h
    have hle := textBody_le r
    exact ⟨Nat.succ_pos _, Nat.succ_le_succ hle, rfl⟩
  · cases h

theorem takeName_append {cs name r : List Char} (h : takeName? cs = some (name, r)) : cs = name ++ r ∧ name ≠ [] := by
  cases cs with
  | nil => cases h
  | cons d ds =>
    simp only [takeName?] at h
    split at h
    · cases h
      exact ⟨by rw [List.cons_append, List.takeWhile_append_dropWhile], List.cons_ne_nil _ _⟩
    · cases h

theorem findTable_cuts {cs : List Char} {f : Find} (h : findTable cs = some f) : Cuts cs f := by
  unfold findTable at h
  split at h
  · rename_i name r hn
    cases h
    obtain ⟨rfl, hne⟩ := takeName_append hn
    generalize bracketed 0 ('[' :: r) = n
    have hcs : name ++ '[' :: r = (name ++ ('[' :: r).take n) ++ ('[' :: r).drop n := by
      rw [List.append_assoc, List.take_append_drop]
    rw [hcs]
    refine cuts_append List.length_append (List.append_ne_nil_of_left_ne_nil hne _) ?_
    exact ⟨_, _, _, rfl, rfl, String.ofList_append⟩
  · cases h

/-- A sheet name without quotes, behind what is skipped. -/
theorem findPlainSheet_cuts {before cs : List Char} {f : Find} (h : findPlainSheet before.length cs = some f) :
    Cuts (before ++ cs) f := by
  unfold findPlainSheet at h
  split at h
  · rename_i name r hn
    cases h
    obtain ⟨rfl, _⟩ := takeName_append hn
    have hcs : before ++ (name ++ '!' :: r) = (before ++ name ++ ['!']) ++ r := by simp
    rw [hcs]
    exact cuts_append (by simp; omega) (by simp) List.getLast?_concat
  · cases h

/-- The part of a text up to a quote, and what follows. -/
theorem quoted_append {r rest : List Char} (h : r.dropWhile (· != '\x27') = rest) :
    r = r.takeWhile (· != '\x27') ++ rest := by
  rw [← h, List.takeWhile_append_dropWhile]

theorem findSheet_cuts {cs : List Char} {f : Find} (h : findSheet cs = some f) : Cuts cs f := by
  unfold findSheet at h
  split at h
  · rename_i r
    dsimp only at h
    split at h
    · rename_i t ht
      cases h
      have hcs : '\x27' :: r = ('\x27' :: r.takeWhile (· != '\x27') ++ ['\x27', '!']) ++ t := by
        conv => lhs; rw [quoted_append ht]
        simp
      rw [hcs]
      refine cuts_append (by simp) (by simp) ?_
      show ('\x27' :: r.takeWhile (· != '\x27') ++ ['\x27', '!']).getLast? = some '!'
      rw [List.getLast?_append]; rfl
    · rename_i rest _ ht
      have hcs : '\x27' :: r = ('\x27' :: r.takeWhile (· != '\x27') ++ ['\x27']) ++ rest := by
        conv => lhs; rw [quoted_append ht]
        simp
      rw [hcs]
      exact findPlainSheet_cuts (by simpa using h)
    · cases h
  · exact @findPlainSheet_cuts [] _ _ h

/-! ## Cells, ranges, numbers -/

theorem takeDollar_append (cs : List Char) : cs = (takeDollar cs).1 ++ (takeDollar cs).2 := by
  unfold takeDollar
  split <;> rfl

theorem takeCell_append {cs name r : List Char} (h : takeCell? cs = some (name, r)) : cs = name ++ r ∧ name ≠ [] := by
  unfold takeCell? at h
  dsimp only at h
  split at h
  · cases h
  · rename_i hne
    cases h
    simp only [Bool.or_eq_true, List.isEmpty_iff, not_or] at hne
    refine ⟨?_, by simp [hne.1]⟩
    have hletters : (takeDollar cs).2 = (takeDollar cs).2.takeWhile Char.isUpper ++
        (takeDollar cs).2.dropWhile Char.isUpper := List.takeWhile_append_dropWhile.symm
    generalize (takeDollar cs).2.dropWhile Char.isUpper = r at hletters ⊢
    have hdigits : (takeDollar r).2 = (takeDollar r).2.takeWhile Text.isDigit ++
        (takeDollar r).2.dropWhile Text.isDigit := List.takeWhile_append_dropWhile.symm
    calc cs = (takeDollar cs).1 ++ (takeDollar cs).2 := takeDollar_append cs
      _ = (takeDollar cs).1 ++ ((takeDollar cs).2.takeWhile Char.isUpper ++ r) := by rw [← hletters]
      _ = (takeDollar cs).1 ++ ((takeDollar cs).2.takeWhile Char.isUpper ++ ((takeDollar r).1 ++ (takeDollar r).2)) := by
        rw [← takeDollar_append r]
      _ = _ := by rw [hdigits]; simp

theorem findCell_cuts {cs : List Char} {f : Find} (h : findCell cs = some f) : Cuts cs f := by
  obtain ⟨⟨name, r⟩, hn, rfl⟩ := Option.map_eq_some_iff.1 h
  obtain ⟨rfl, hne⟩ := takeCell_append hn
  exact cuts_append rfl hne rfl

theorem findRange_cuts {cs : List Char} {f : Find} (h : findRange cs = some f) : Cuts cs f := by
  unfold findRange at h
  split at h
  · rename_i first r hfirst
    obtain ⟨⟨last, rest⟩, hlast, rfl⟩ := Option.map_eq_some_iff.1 h
    obtain ⟨rfl, _⟩ := takeCell_append hfirst
    obtain ⟨rfl, _⟩ := takeCell_append hlast
    have hcs : first ++ ':' :: (last ++ rest) = (first ++ ':' :: last) ++ rest := by simp
    rw [hcs]
    exact cuts_append (by simp; omega) (by simp) rfl
  · cases h

/-- A decimal is a front of the text that the reader of numbers accepts. -/
theorem takeDecimal_append {cs whole fraction r : List Char} {n : Nat}
    (h : takeDecimal? cs = some (whole, fraction, n, r)) :
    ∃ decimal, cs = decimal ++ r ∧ decimal.length = n ∧ decimal ≠ [] ∧
      Decimal.read? (String.ofList decimal) = some (Decimal.ofParts whole fraction) := by
  have hwhole : ∀ c ∈ cs.takeWhile Text.isDigit, Text.isDigit c := fun c => List.mem_takeWhile_imp
  unfold takeDecimal? at h
  dsimp only at h
  split at h
  · rename_i t ht
    split at h
    · cases h
    · rename_i hne
      cases h
      simp only [Bool.and_eq_true, List.isEmpty_iff, Decidable.not_and_iff_not_or_not] at hne
      refine ⟨cs.takeWhile Text.isDigit ++ '.' :: t.takeWhile Text.isDigit, ?_, by simp; omega, by simp,
        Decimal.read_pointed hwhole (fun c => List.mem_takeWhile_imp) hne⟩
      rw [List.append_assoc, List.cons_append, List.takeWhile_append_dropWhile, ← ht, List.takeWhile_append_dropWhile]
  · split at h
    · cases h
    · rename_i hne
      cases h
      rw [List.isEmpty_iff] at hne
      exact ⟨cs.takeWhile Text.isDigit, List.takeWhile_append_dropWhile.symm, rfl, hne, Decimal.read_whole hwhole hne⟩

theorem findNumber_cuts {cs : List Char} {f : Find} (h : findNumber cs = some f) : Cuts cs f := by
  obtain ⟨⟨whole, fraction, n, r⟩, hn, rfl⟩ := Option.map_eq_some_iff.1 h
  obtain ⟨decimal, rfl, rfl, hne, hread⟩ := takeDecimal_append hn
  dsimp only
  split
  · rename_i t
    have hcs : decimal ++ '%' :: t = (decimal ++ ['%']) ++ t := by simp
    rw [hcs]
    exact cuts_append (by simp) (by simp) ⟨decimal, _, hread, .inr ⟨rfl, rfl⟩⟩
  · exact cuts_append rfl hne ⟨decimal, _, hread, .inl ⟨rfl, rfl⟩⟩

/-! ## Functions, operators, punctuation -/

/-- The characters of function names are ASCII, four letters apart. -/
theorem ascii_of_isFunctionPart {c : Char} (h : isFunctionPart c) :
    c.toNat < 0x80 ∨ c ∈ ['İ', 'ı', 'ſ', '\u212A'] := by
  simp only [isFunctionPart, isFunctionStart, isFunctionLetter, Bool.or_eq_true, beq_iff_eq, List.contains_iff_mem] at h
  rcases h with (((h | h) | rfl) | h) | rfl
  · exact .inl (Text.ascii_of_isAlpha h)
  · exact .inr h
  · exact .inl (by decide)
  · exact .inl (Text.ascii_of_isDigit h)
  · exact .inl (by decide)

/-- No character of a function name becomes several in upper case. -/
theorem length_upperOne {c : Char} (h : isFunctionPart c) : (Text.upperOne c).length = 1 := by
  have beyond : ['İ', 'ı', 'ſ', '\u212A'].all fun c => (Text.upperOne c).length == 1 := by decide
  rcases ascii_of_isFunctionPart h with hc | hc
  · rw [Text.upperOne, if_pos hc]; rfl
  · exact eq_of_beq (List.all_eq_true.1 beyond c hc)

theorem length_flatMap_upperOne : ∀ {cs : List Char}, (∀ c ∈ cs, isFunctionPart c) →
    (cs.flatMap Text.upperOne).length = cs.length
  | [], _ => rfl
  | c :: cs, h => by
    obtain ⟨hc, hcs⟩ := List.forall_mem_cons.1 h
    rw [List.flatMap_cons, List.length_append, length_upperOne hc, length_flatMap_upperOne hcs, List.length_cons,
      Nat.add_comm]

theorem findFunction_cuts {cs : List Char} {f : Find} (h : findFunction cs = some f) : Cuts cs f := by
  unfold findFunction at h
  split at h
  · cases h
  · rename_i c cs
    split at h
    · rename_i hc
      split at h
      · cases h
        have hpart : ∀ d ∈ c :: cs.takeWhile isFunctionPart, isFunctionPart d :=
          List.forall_mem_cons.2 ⟨by simp [isFunctionPart, hc], fun d => List.mem_takeWhile_imp⟩
        have hlength := length_flatMap_upperOne hpart
        have hcs : c :: cs = (c :: cs.takeWhile isFunctionPart) ++ cs.dropWhile isFunctionPart := by
          rw [List.cons_append, List.takeWhile_append_dropWhile]
        conv => arg 1; rw [hcs]
        refine cuts_append hlength.symm (List.cons_ne_nil _ _) ⟨?_, ?_⟩
        · rw [Text.upper, String.toList_ofList]
        · rw [String.length_ofList, hlength]
      · cases h
    · cases h

theorem findOperator_cuts {cs : List Char} {f : Find} (h : findOperator cs = some f) : Cuts cs f := by
  obtain ⟨symbol, hs, rfl⟩ := Option.map_eq_some_iff.1 h
  have hmem := List.mem_of_find?_eq_some hs
  have hprefix := List.find?_some hs
  obtain ⟨rest, rfl⟩ := List.isPrefixOf_iff_prefix.1 hprefix
  have hne : ∀ s ∈ operators, s.toList ≠ [] := by decide
  refine cuts_append String.length_toList (hne symbol hmem) ?_
  show Datum.text symbol = _
  rw [String.ofList_toList]

theorem findPunctuation_cuts {cs : List Char} {f : Find} (h : findPunctuation cs = some f) : Cuts cs f := by
  unfold findPunctuation at h
  split at h
  · cases h; exact ⟨Nat.one_pos, Nat.succ_pos _, rfl⟩
  · cases h; exact ⟨Nat.one_pos, Nat.succ_pos _, rfl⟩
  · cases h; exact ⟨Nat.one_pos, Nat.succ_pos _, rfl⟩
  · cases h

/-! ## All matchers -/

/-- **Whatever a matcher finds stands at the front of the text.** -/
theorem find_cuts {m : Matcher} {cs : List Char} {f : Find} (h : m.find cs = some f) : Cuts cs f := by
  cases m with
  | text => exact findText_cuts h
  | table => exact findTable_cuts h
  | sheet => exact findSheet_cuts h
  | range => exact findRange_cuts h
  | cell => exact findCell_cuts h
  | number => exact findNumber_cuts h
  | function => exact findFunction_cuts h
  | operator => exact findOperator_cuts h
  | punctuation => exact findPunctuation_cuts h

theorem firstFind_cuts {cs : List Char} {f : Find} (h : firstFind cs = some f) : Cuts cs f := by
  obtain ⟨m, _, hm⟩ := List.exists_of_findSome?_eq_some h
  exact find_cuts hm

/-- The matcher for a lexeme. None finds the finishing lexeme or a percent sign alone. -/
def Lexeme.matcher? : Lexeme → Option Matcher
  | number _ => some .number
  | text _ => some .text
  | cell _ => some .cell
  | range _ => some .range
  | table _ => some .table
  | function _ => some .function
  | operator _ => some .operator
  | openParen | closeParen | comma => some .punctuation
  | sheet _ => some .sheet
  | percent | finish => none

theorem findPlainSheet_matcher {skipped : Nat} {cs : List Char} {f : Find} (h : findPlainSheet skipped cs = some f) :
    f.lexeme.matcher? = some .sheet := by
  unfold findPlainSheet at h
  split at h <;> cases h
  rfl

/-- Every matcher finds lexemes of its own. -/
theorem find_matcher {m : Matcher} {cs : List Char} {f : Find} (h : m.find cs = some f) : f.lexeme.matcher? = some m := by
  cases m with
  | text =>
    change findText cs = some f at h
    unfold findText at h
    split at h <;> cases h
    rfl
  | table =>
    change findTable cs = some f at h
    unfold findTable at h
    split at h <;> cases h
    rfl
  | sheet =>
    change findSheet cs = some f at h
    unfold findSheet at h
    split at h
    · dsimp only at h
      split at h
      · cases h
        rfl
      · exact findPlainSheet_matcher h
      · cases h
    · exact findPlainSheet_matcher h
  | range =>
    change findRange cs = some f at h
    unfold findRange at h
    split at h
    · obtain ⟨_, _, rfl⟩ := Option.map_eq_some_iff.1 h
      rfl
    · cases h
  | cell =>
    obtain ⟨_, _, rfl⟩ := Option.map_eq_some_iff.1 h
    rfl
  | number =>
    obtain ⟨⟨_, _, _, r⟩, _, rfl⟩ := Option.map_eq_some_iff.1 h
    dsimp only
    split <;> rfl
  | function =>
    change findFunction cs = some f at h
    unfold findFunction at h
    split at h
    · cases h
    · split at h
      · split at h <;> cases h
        rfl
      · cases h
  | operator =>
    obtain ⟨_, _, rfl⟩ := Option.map_eq_some_iff.1 h
    rfl
  | punctuation =>
    change findPunctuation cs = some f at h
    unfold findPunctuation at h
    split at h <;> cases h <;> rfl

/-- What is found is found by the matcher for it. -/
theorem find_of_firstFind {m : Matcher} {cs : List Char} {f : Find} (h : firstFind cs = some f)
    (hm : f.lexeme.matcher? = some m) : m.find cs = some f := by
  obtain ⟨m', _, hfind⟩ := List.exists_of_findSome?_eq_some h
  cases Option.some.inj (hm.symm.trans (find_matcher hfind))
  exact hfind

/-- Nothing is found exactly if no matcher finds anything. -/
theorem firstFind_eq_none_iff {cs : List Char} : firstFind cs = none ↔ ∀ m : Matcher, m.find cs = none := by
  have hall (m : Matcher) : m ∈ Matcher.order := by cases m <;> decide
  rw [firstFind, List.findSome?_eq_none_iff]
  exact ⟨fun h m => h m (hall m), fun h m _ => h m⟩

/-! ## From one token to the next -/

/-- The first character is skipped: it is a blank, or no matcher knows it. -/
def Skipped (cs : List Char) : Prop :=
  (∃ c ∈ cs.head?, Text.isBlank c) ∨ ∀ m : Matcher, m.find cs = none

theorem tokensFrom_nil (pos : Nat) : tokensFrom [] pos 0 = [⟨.finish, pos⟩] := rfl

/-- The characters of a token are passed over. -/
theorem tokensFrom_drop : ∀ {cs : List Char} {skip : Nat} (pos : Nat), skip ≤ cs.length →
    tokensFrom cs pos skip = tokensFrom (cs.drop skip) (pos + skip) 0
  | _, 0, _, _ => rfl
  | c :: cs, skip + 1, pos, h => by
    rw [tokensFrom, tokensFrom_drop (pos + 1) (Nat.le_of_succ_le_succ h), List.drop_succ_cons, Nat.add_right_comm]
    rfl

theorem tokensFrom_skipped {c : Char} {cs : List Char} (h : Skipped (c :: cs)) (pos : Nat) :
    tokensFrom (c :: cs) pos 0 = tokensFrom cs (pos + 1) 0 := by
  rw [tokensFrom]
  by_cases hc : Text.isBlank c
  · rw [if_pos hc]
  · rw [if_neg hc]
    rcases h with ⟨d, hd, hblank⟩ | h
    · cases hd
      exact absurd hblank hc
    · rw [firstFind_eq_none_iff.2 h]

theorem tokensFrom_found {c : Char} {cs : List Char} {f : Find} (hc : ¬ Text.isBlank c)
    (h : firstFind (c :: cs) = some f) (pos : Nat) :
    tokensFrom (c :: cs) pos 0 = ⟨f.lexeme, pos⟩ :: tokensFrom ((c :: cs).drop f.length) (pos + f.length) 0 := by
  have hcuts := firstFind_cuts h
  obtain ⟨n, hn⟩ := Nat.exists_eq_add_one.2 hcuts.pos
  have hle : n ≤ cs.length := by
    have := hcuts.le
    rw [hn, List.length_cons] at this
    omega
  rw [tokensFrom, if_neg hc, h]
  dsimp only
  rw [hn, Nat.add_sub_cancel, tokensFrom_drop _ hle, List.drop_succ_cons, Nat.add_assoc, Nat.add_comm 1 n]

/-- **From one token to the next.** What holds at the end of a text, and at a skipped character or a token if it holds
behind, holds of all texts. -/
theorem cutting_induction {P : List Char → Nat → Prop} (nil : ∀ pos, P [] pos)
    (skipped : ∀ c cs pos, Skipped (c :: cs) → P cs (pos + 1) → P (c :: cs) pos)
    (found : ∀ c cs pos f, ¬ Text.isBlank c → firstFind (c :: cs) = some f →
      P ((c :: cs).drop f.length) (pos + f.length) → P (c :: cs) pos) :
    ∀ (cs : List Char) (pos : Nat), P cs pos
  | [], pos => nil pos
  | c :: cs, pos => by
    by_cases hc : Text.isBlank c
    · exact skipped c cs pos (.inl ⟨c, rfl, hc⟩) (cutting_induction nil skipped found cs (pos + 1))
    · cases hf : firstFind (c :: cs) with
      | none =>
        exact skipped c cs pos (.inr (firstFind_eq_none_iff.1 hf)) (cutting_induction nil skipped found cs (pos + 1))
      | some f =>
        have hlt := (firstFind_cuts hf).pos
        exact found c cs pos f hc hf (cutting_induction nil skipped found _ _)
termination_by cs => cs.length
decreasing_by
  · simp
  · simp
  · rw [List.length_drop, List.length_cons]; omega

end FormulaSql
