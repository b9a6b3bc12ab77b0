import FormulaSql.Proofs.Token.Cutting

/-!
# Names of calls

A name directly before a parenthesis is the name of a call. The names here are those of ASCII characters (`CallName`): a
letter or an underscore, then letters, digits, underscores and dots. Six matchers are tried before the one for functions.
Those for texts, tables, sheets and numbers find nothing at such a name, because none of the characters that they look for
comes next. Cells are different: capital letters with a digit behind them are a cell, wherever the name goes on
(`takeCell_call`); it is never the first cell of a range.

**A name is the first token as a whole exactly if it does not start like a cell** (`tokens_call`). So `LOG10(` is a cell
and the call is lost, while `log10(` is a call, because the letters of a cell are capitals.
-/

namespace FormulaSql

/-! ## Names -/

/-- A character inside a function name of ASCII characters. -/
def isCallPart (c : Char) : Bool :=
  isNameStart c || c.isDigit || c == '.'

/-- A function name of ASCII characters. -/
structure CallName where
  first : Char
  rest : List Char
  first_isNameStart : isNameStart first
  rest_isCallPart : ∀ c ∈ rest, isCallPart c

/-- What holds of the callable ASCII characters by trial holds of all. -/
theorem isCallPart_all {P : Char → Prop} (h : ∀ n < 0x80, isCallPart (Char.ofNat n) → P (Char.ofNat n)) {c : Char}
    (hc : isCallPart c) : P c := by
  have ascii : c.toNat < 0x80 := by
    simp only [isCallPart, Bool.or_eq_true, beq_iff_eq] at hc
    rcases hc with (hc | hc) | rfl
    · exact ascii_of_isNameStart hc
    · exact Text.ascii_of_isDigit hc
    · decide
  exact Text.all_below (P := fun c => isCallPart c → P c) h c ascii hc

theorem isCallPart_of_isNameStart {c : Char} (h : isNameStart c) : isCallPart c := by
  simp [isCallPart, h]

/-- The same for the first character of a name. -/
theorem isNameStart_all {P : Char → Prop} (h : ∀ n < 0x80, isNameStart (Char.ofNat n) → P (Char.ofNat n)) {c : Char}
    (hc : isNameStart c) : P c :=
  Text.all_below (P := fun c => isNameStart c → P c) h c (ascii_of_isNameStart hc) hc

namespace CallName

/-- The characters of a name. -/
def chars (n : CallName) : List Char :=
  n.first :: n.rest

/-- The name as a text. -/
def text (n : CallName) : String :=
  String.ofList n.chars

/-- The name starts like a cell: with capital letters and a digit behind them. -/
def StartsCell (n : CallName) : Prop :=
  ∃ letters digit rest, n.chars = letters ++ digit :: rest ∧ letters ≠ [] ∧ (∀ c ∈ letters, c.isUpper) ∧ digit.isDigit

theorem mem_isCallPart (n : CallName) : ∀ c ∈ n.chars, isCallPart c :=
  List.forall_mem_cons.2 ⟨isCallPart_of_isNameStart n.first_isNameStart, n.rest_isCallPart⟩

theorem not_low_first (n : CallName) : ¬ Text.Low n.first :=
  not_low_of_isNameStart n.first_isNameStart

/-- The first character is none of the marks before the digits. -/
theorem first_ne (n : CallName) {c : Char} (hc : Text.Low c) : n.first ≠ c :=
  fun h => n.not_low_first (h ▸ hc)

end CallName

/-! ## What stands behind a part of a name -/

section Behind

variable {p : Char → Bool} {stop : Char} {r : List Char}

theorem takeWhile_before (hp : ¬ p stop) : ∀ cs : List Char, (cs ++ stop :: r).takeWhile p = cs.takeWhile p
  | [] => List.takeWhile_cons_of_neg hp
  | c :: cs => by
    rw [List.cons_append, List.takeWhile_cons, List.takeWhile_cons, takeWhile_before hp cs]

theorem dropWhile_before (hp : ¬ p stop) : ∀ cs : List Char,
    (cs ++ stop :: r).dropWhile p = cs.dropWhile p ++ stop :: r
  | [] => List.dropWhile_cons_of_neg hp
  | c :: cs => by
    rw [List.cons_append, List.dropWhile_cons, List.dropWhile_cons, dropWhile_before hp cs]
    split <;> rfl

/-- Behind a part of a name comes one of its characters or what follows the name. -/
theorem head_before {cs : List Char} {c : Char} (hp : ¬ p stop)
    (h : ((cs ++ stop :: r).dropWhile p).head? = some c) : c ∈ cs ∨ c = stop := by
  rw [dropWhile_before hp] at h
  cases hd : cs.dropWhile p with
  | nil =>
    rw [hd] at h
    exact .inr (Option.some.inj h).symm
  | cons d ds =>
    rw [hd] at h
    cases Option.some.inj h
    exact .inl ((List.dropWhile_sublist p).subset (hd ▸ List.mem_cons_self))

end Behind

/-! ## Matchers that find nothing -/

section Before

variable (n : CallName) (r : List Char)

/-- Behind the word characters of a name comes a dot or the parenthesis. -/
theorem takeName_call {name rest : List Char} {c : Char} (h : takeName? (n.chars ++ '(' :: r) = some (name, c :: rest)) :
    c ≠ '[' ∧ c ≠ '!' := by
  simp only [CallName.chars, List.cons_append, takeName?, n.first_isNameStart, if_true, Option.some.injEq,
    Prod.mk.injEq] at h
  have hword : ¬ Text.isWord '(' := by decide
  have hc : c ∈ n.rest ∨ c = '(' := head_before hword (by rw [h.2]; rfl)
  rcases hc with hc | rfl
  · exact isCallPart_all (P := fun c => c ≠ '[' ∧ c ≠ '!') (by decide) (n.rest_isCallPart c hc)
  · decide

theorem findTable_call : findTable (n.chars ++ '(' :: r) = none := by
  unfold findTable
  split
  · rename_i h
    exact absurd rfl (takeName_call n r h).1
  · rfl

theorem findSheet_call : findSheet (n.chars ++ '(' :: r) = none := by
  have hquote : n.first ≠ '\x27' := n.first_ne (by decide)
  have hplain : findPlainSheet 0 (n.chars ++ '(' :: r) = none := by
    unfold findPlainSheet
    split
    · rename_i h
      exact absurd rfl (takeName_call n r h).2
    · rfl
  rw [findSheet]
  · exact hplain
  · exact fun _ h => hquote (List.cons.inj h).1

/-- A name starts no decimal. -/
theorem findNumber_call : findNumber (n.chars ++ '(' :: r) = none := by
  have hdigit : ¬ Text.isDigit n.first :=
    isNameStart_all (P := fun c => ¬ Text.isDigit c) (by decide) n.first_isNameStart
  have hpoint : n.first ≠ '.' := n.first_ne (by decide)
  have hdrop : (n.chars ++ '(' :: r).dropWhile Text.isDigit = n.first :: (n.rest ++ '(' :: r) :=
    List.dropWhile_cons_of_neg hdigit
  have htake : (n.chars ++ '(' :: r).takeWhile Text.isDigit = [] := List.takeWhile_cons_of_neg hdigit
  have hdecimal : takeDecimal? (n.chars ++ '(' :: r) = none := by
    simp only [takeDecimal?, hdrop, htake]
    split
    · rename_i h
      exact absurd (List.cons.inj h).1 hpoint
    · rfl
  rw [findNumber, hdecimal]
  rfl

theorem findText_call : findText (n.chars ++ '(' :: r) = none := by
  have hquote : n.first ≠ '"' := n.first_ne (by decide)
  rw [findText]
  exact fun _ h => hquote (List.cons.inj h).1

end Before

/-! ## Cells at the front of a name -/

section Cells

variable (n : CallName) (r : List Char)

theorem takeDollar_of_ne {c : Char} {cs : List Char} (hc : c ≠ '$') : takeDollar (c :: cs) = ([], c :: cs) := by
  rw [takeDollar]
  exact fun _ h => hc (List.cons.inj h).1

/-- No dollar sign stands behind a part of a name. -/
theorem takeDollar_before {cs : List Char} (hcs : ∀ c ∈ cs, isCallPart c) :
    takeDollar (cs ++ '(' :: r) = ([], cs ++ '(' :: r) := by
  cases cs with
  | nil => exact takeDollar_of_ne (by decide)
  | cons c cs => exact takeDollar_of_ne (isCallPart_all (P := (· ≠ '$')) (by decide) (hcs c List.mem_cons_self))

/-- The capital letters at the front of a name and what stands behind them decide whether there is a cell. -/
theorem takeCell_call : takeCell? (n.chars ++ '(' :: r) =
    if (n.chars.takeWhile Char.isUpper).isEmpty || ((n.chars.dropWhile Char.isUpper).takeWhile Text.isDigit).isEmpty then
      none
    else
      some (n.chars.takeWhile Char.isUpper ++ (n.chars.dropWhile Char.isUpper).takeWhile Text.isDigit,
        (n.chars.dropWhile Char.isUpper).dropWhile Text.isDigit ++ '(' :: r) := by
  have hupper : ¬ '('.isUpper := by decide
  have hdigit : ¬ Text.isDigit '(' := by decide
  have hbehind : ∀ c ∈ n.chars.dropWhile Char.isUpper, isCallPart c :=
    fun c hc => n.mem_isCallPart c ((List.dropWhile_sublist _).subset hc)
  simp only [takeCell?, takeDollar_before r n.mem_isCallPart, takeWhile_before hupper, dropWhile_before hupper,
    takeDollar_before r hbehind, takeWhile_before hdigit, dropWhile_before hdigit, List.nil_append, List.append_nil]

/-- A name that starts like a cell, cut behind the cell. -/
structure CallName.CutCell (letters digits rest : List Char) : Prop where
  chars : n.chars = letters ++ digits ++ rest
  letters_ne_nil : letters ≠ []
  digits_ne_nil : digits ≠ []
  letters_isUpper : ∀ c ∈ letters, c.isUpper
  digits_isDigit : ∀ c ∈ digits, c.isDigit
  rest_not_isDigit : ∀ c ∈ rest.head?, ¬ c.isDigit

theorem CallName.CutCell.startsCell {letters digits rest : List Char} (h : n.CutCell letters digits rest) :
    n.StartsCell := by
  obtain ⟨digit, digits', hd⟩ := List.exists_cons_of_ne_nil h.digits_ne_nil
  refine ⟨letters, digit, digits' ++ rest, ?_, h.letters_ne_nil, h.letters_isUpper, h.digits_isDigit digit ?_⟩
  · rw [h.chars, hd]
    simp
  · rw [hd]
    exact List.mem_cons_self

theorem isDigit_of_isCallPart {c : Char} (hc : isCallPart c) : Text.isDigit c = c.isDigit :=
  isCallPart_all (P := fun c => Text.isDigit c = c.isDigit) (by decide) hc

/-- Letters and digits that are found make up such a cut. -/
theorem cutCell_of_ne_nil (hl : n.chars.takeWhile Char.isUpper ≠ [])
    (hd : (n.chars.dropWhile Char.isUpper).takeWhile Text.isDigit ≠ []) :
    n.CutCell (n.chars.takeWhile Char.isUpper) ((n.chars.dropWhile Char.isUpper).takeWhile Text.isDigit)
      ((n.chars.dropWhile Char.isUpper).dropWhile Text.isDigit) := by
  have hpart : ∀ c ∈ n.chars.dropWhile Char.isUpper, isCallPart c :=
    fun c hc => n.mem_isCallPart c ((List.dropWhile_sublist _).subset hc)
  refine ⟨?_, hl, hd, fun c => List.mem_takeWhile_imp, fun c hc => ?_, fun c hc => ?_⟩
  · rw [List.append_assoc, List.takeWhile_append_dropWhile, List.takeWhile_append_dropWhile]
  · rw [← isDigit_of_isCallPart (hpart c ((List.takeWhile_sublist _).subset hc))]
    exact List.mem_takeWhile_imp hc
  · have hmem := List.mem_of_mem_head? hc
    rw [← isDigit_of_isCallPart (hpart c ((List.dropWhile_sublist _).subset hmem))]
    have hhead := List.head?_dropWhile_not Text.isDigit (n.chars.dropWhile Char.isUpper)
    rw [hc] at hhead
    simpa using hhead

/-- A name that starts like a cell has such letters and digits. -/
theorem ne_nil_of_startsCell {n : CallName} (h : n.StartsCell) : n.chars.takeWhile Char.isUpper ≠ [] ∧
    (n.chars.dropWhile Char.isUpper).takeWhile Text.isDigit ≠ [] := by
  obtain ⟨letters, digit, rest, hchars, hne, hupper, hdigit⟩ := h
  have hpart : isCallPart digit := n.mem_isCallPart digit (by rw [hchars]; simp)
  have hlower : ¬ digit.isUpper :=
    isCallPart_all (P := fun c => c.isDigit → ¬ c.isUpper) (by decide) hpart hdigit
  have htake : n.chars.takeWhile Char.isUpper = letters := by
    rw [hchars, List.takeWhile_append_of_pos hupper, List.takeWhile_cons_of_neg hlower, List.append_nil]
  have hdrop : n.chars.dropWhile Char.isUpper = digit :: rest := by
    rw [hchars, List.dropWhile_append_of_pos hupper, List.dropWhile_cons_of_neg hlower]
  refine ⟨htake ▸ hne, ?_⟩
  rw [hdrop, List.takeWhile_cons_of_pos (by rw [isDigit_of_isCallPart hpart]; exact hdigit)]
  exact List.cons_ne_nil _ _

theorem takeCell_call_some (h : n.StartsCell) : ∃ letters digits rest, n.CutCell letters digits rest ∧
    takeCell? (n.chars ++ '(' :: r) = some (letters ++ digits, rest ++ '(' :: r) := by
  obtain ⟨hl, hd⟩ := ne_nil_of_startsCell h
  refine ⟨_, _, _, cutCell_of_ne_nil n hl hd, ?_⟩
  rw [takeCell_call, if_neg (by simp only [Bool.or_eq_true, List.isEmpty_iff]; exact not_or.2 ⟨hl, hd⟩)]

theorem takeCell_call_none (h : ¬ n.StartsCell) : takeCell? (n.chars ++ '(' :: r) = none := by
  rw [takeCell_call]
  by_cases hl : n.chars.takeWhile Char.isUpper = []
  · simp [hl]
  by_cases hd : (n.chars.dropWhile Char.isUpper).takeWhile Text.isDigit = []
  · simp [hd]
  · exact absurd (cutCell_of_ne_nil n hl hd).startsCell h

end Cells

/-! ## The first token -/

section First

variable (n : CallName) (r : List Char)

theorem isFunctionPart_of_isCallPart {c : Char} (h : isCallPart c) : isFunctionPart c :=
  isCallPart_all (P := fun c => isFunctionPart c) (by decide) h

/-- The matcher for functions takes the whole name. -/
theorem findFunction_call :
    findFunction (n.chars ++ '(' :: r) = some ⟨.function (Text.upper n.text), n.chars.length⟩ := by
  have hstart : isFunctionStart n.first :=
    isNameStart_all (P := fun c => isFunctionStart c) (by decide) n.first_isNameStart
  have hpart : ∀ c ∈ n.rest, isFunctionPart c := fun c hc => isFunctionPart_of_isCallPart (n.rest_isCallPart c hc)
  have hstop : ¬ isFunctionPart '(' := by decide
  have htake : (n.rest ++ '(' :: r).takeWhile isFunctionPart = n.rest := by
    rw [List.takeWhile_append_of_pos hpart, List.takeWhile_cons_of_neg hstop, List.append_nil]
  have hdrop : (n.rest ++ '(' :: r).dropWhile isFunctionPart = '(' :: r := by
    rw [List.dropWhile_append_of_pos hpart, List.dropWhile_cons_of_neg hstop]
  have hlength : (n.chars.flatMap Text.upperOne).length = n.chars.length :=
    length_flatMap_upperOne fun c hc => isFunctionPart_of_isCallPart (n.mem_isCallPart c hc)
  have hupper : Text.upper n.text = String.ofList (n.chars.flatMap Text.upperOne) := by
    rw [Text.upper, CallName.text, String.toList_ofList]
  rw [hupper, ← hlength, CallName.chars, List.cons_append, findFunction, if_pos hstart, hdrop, htake]
  rfl

theorem firstFind_call (h : ¬ n.StartsCell) :
    firstFind (n.chars ++ '(' :: r) = some ⟨.function (Text.upper n.text), n.chars.length⟩ := by
  have hcell := takeCell_call_none n r h
  have hfindCell : findCell (n.chars ++ '(' :: r) = none := by rw [findCell, hcell]; rfl
  have hfindRange : findRange (n.chars ++ '(' :: r) = none := by rw [findRange, hcell]
  simp only [firstFind, Matcher.order, List.findSome?_cons, Matcher.find, findText_call, findTable_call, findSheet_call,
    hfindRange, hfindCell, findNumber_call, findFunction_call]

/-- Where a name starts like a cell, the cell is found: no colon follows, which would make it a range. -/
theorem firstFind_cell {letters digits rest : List Char} (h : n.CutCell letters digits rest)
    (hcell : takeCell? (n.chars ++ '(' :: r) = some (letters ++ digits, rest ++ '(' :: r)) :
    firstFind (n.chars ++ '(' :: r) = some ⟨.cell (String.ofList (letters ++ digits)), (letters ++ digits).length⟩ := by
  have hfindCell : findCell (n.chars ++ '(' :: r) =
      some ⟨.cell (String.ofList (letters ++ digits)), (letters ++ digits).length⟩ := by rw [findCell, hcell]; rfl
  have hfindRange : findRange (n.chars ++ '(' :: r) = none := by
    rw [findRange, hcell]
    cases hrest : rest with
    | nil => rfl
    | cons c cs =>
      have hc : isCallPart c := n.mem_isCallPart c (by rw [h.chars, hrest]; simp)
      have hcolon : c ≠ ':' := isCallPart_all (P := (· ≠ ':')) (by decide) hc
      dsimp only [List.cons_append]
      split
      · rename_i heq
        exact absurd (List.cons.inj (Prod.mk.inj (Option.some.inj heq)).2).1 hcolon
      · rfl
  simp only [firstFind, Matcher.order, List.findSome?_cons, Matcher.find, findText_call, findTable_call, findSheet_call,
    hfindRange, hfindCell]

/-- At a parenthesis only the matcher for punctuation finds something. -/
theorem tokensFrom_openParen (pos : Nat) :
    tokensFrom ('(' :: r) pos 0 = ⟨.openParen, pos⟩ :: tokensFrom r (pos + 1) 0 := rfl

/-- The tokens of a name and a parenthesis. -/
theorem tokensFrom_call (h : ¬ n.StartsCell) (pos : Nat) : tokensFrom (n.chars ++ '(' :: r) pos 0 =
    ⟨.function (Text.upper n.text), pos⟩ :: ⟨.openParen, pos + n.chars.length⟩ ::
      tokensFrom r (pos + n.chars.length + 1) 0 := by
  have hfind : firstFind (n.first :: (n.rest ++ '(' :: r)) = some ⟨.function (Text.upper n.text), n.chars.length⟩ :=
    firstFind_call n r h
  have hdrop : (n.first :: (n.rest ++ '(' :: r)).drop n.chars.length = '(' :: r := by
    show (n.chars ++ '(' :: r).drop _ = _
    rw [List.drop_left]
  rw [CallName.chars, List.cons_append, tokensFrom_found (not_isBlank_of_isNameStart n.first_isNameStart) hfind]
  dsimp only
  rw [hdrop, tokensFrom_openParen]
  rfl

theorem tokensFrom_cell (h : n.StartsCell) (pos : Nat) : ∃ letters digits rest, n.CutCell letters digits rest ∧
    tokensFrom (n.chars ++ '(' :: r) pos 0 = ⟨.cell (String.ofList (letters ++ digits)), pos⟩ ::
      tokensFrom (rest ++ '(' :: r) (pos + (letters ++ digits).length) 0 := by
  obtain ⟨letters, digits, rest, hcut, hcell⟩ := takeCell_call_some n r h
  have hfind : firstFind (n.first :: (n.rest ++ '(' :: r)) =
      some ⟨.cell (String.ofList (letters ++ digits)), (letters ++ digits).length⟩ := firstFind_cell n r hcut hcell
  have hdrop : (n.first :: (n.rest ++ '(' :: r)).drop (letters ++ digits).length = rest ++ '(' :: r := by
    show (n.chars ++ '(' :: r).drop _ = _
    rw [hcut.chars, List.append_assoc, List.drop_left]
  refine ⟨letters, digits, rest, hcut, ?_⟩
  rw [CallName.chars, List.cons_append, tokensFrom_found (not_isBlank_of_isNameStart n.first_isNameStart) hfind]
  dsimp only
  rw [hdrop]

end First

/-! ## Spellings -/

section Spellings

variable (n : CallName)

/-- The name with every character spelled in another way. -/
def CallName.respell (f : Char → Char) (hstart : ∀ {c}, isNameStart c → isNameStart (f c))
    (hpart : ∀ {c}, isCallPart c → isCallPart (f c)) : CallName where
  first := f n.first
  rest := n.rest.map f
  first_isNameStart := hstart n.first_isNameStart
  rest_isCallPart := List.forall_mem_map.2 fun c hc => hpart (n.rest_isCallPart c hc)

/-- The name in lower case. -/
def CallName.lower : CallName :=
  n.respell Char.toLower (isNameStart_all (P := fun c => isNameStart c.toLower) (by decide))
    (isCallPart_all (P := fun c => isCallPart c.toLower) (by decide))

/-- The name in upper case. -/
def CallName.upper : CallName :=
  n.respell Char.toUpper (isNameStart_all (P := fun c => isNameStart c.toUpper) (by decide))
    (isCallPart_all (P := fun c => isCallPart c.toUpper) (by decide))

/-- A spelling that keeps the upper case of every character keeps that of the name. -/
theorem upper_of_chars {m : CallName} {f : Char → Char} (hm : m.chars = n.chars.map f)
    (hf : ∀ {c}, isCallPart c → Text.upperOne (f c) = Text.upperOne c) : Text.upper m.text = Text.upper n.text := by
  have hflat : (n.chars.map f).flatMap Text.upperOne = n.chars.flatMap Text.upperOne := by
    rw [List.flatMap_map, List.flatMap_def, List.flatMap_def, List.map_congr_left]
    exact fun c hc => hf (n.mem_isCallPart c hc)
  simp only [Text.upper, CallName.text, hm, String.toList_ofList, hflat]

theorem upper_lower : Text.upper n.lower.text = Text.upper n.text :=
  upper_of_chars n rfl (isCallPart_all (P := fun c => Text.upperOne c.toLower = Text.upperOne c) (by decide))

theorem upper_upper : Text.upper n.upper.text = Text.upper n.text :=
  upper_of_chars n rfl (isCallPart_all (P := fun c => Text.upperOne c.toUpper = Text.upperOne c) (by decide))

/-- In lower case no name starts like a cell. -/
theorem not_startsCell_lower : ¬ n.lower.StartsCell := by
  rintro ⟨letters, digit, rest, hchars, hne, hupper, -⟩
  obtain ⟨c, letters', rfl⟩ := List.exists_cons_of_ne_nil hne
  have hfirst : n.first.toLower = c := (List.cons.inj hchars).1
  have hlower : ¬ n.first.toLower.isUpper :=
    isNameStart_all (P := fun c => ¬ c.toLower.isUpper) (by decide) n.first_isNameStart
  exact hlower (hfirst ▸ hupper c List.mem_cons_self)

end Spellings

/-- The first token of a text. -/
def firstToken (cs : List Char) : Option Token :=
  (tokensFrom cs 0 0).head?

theorem firstToken_call_iff (n : CallName) (r : List Char) :
    firstToken (n.chars ++ '(' :: r) = some ⟨.function (Text.upper n.text), 0⟩ ↔ ¬ n.StartsCell := by
  refine ⟨fun h hcell => ?_, fun h => ?_⟩
  · obtain ⟨letters, digits, rest, -, htokens⟩ := tokensFrom_cell n r hcell 0
    rw [firstToken, htokens] at h
    cases h
  · rw [firstToken, tokensFrom_call n r h]
    rfl

/-- **A name before a parenthesis is lexed as a whole exactly if it does not start like a cell.** Then its upper case is
the first token and the parenthesis the second. Otherwise the first token is the cell, and the rest of the name is cut
from then on. In lower case the name is always lexed as a whole; so both spellings give the same token exactly if the name
in upper case does not start like a cell. -/
theorem tokens_call (n : CallName) (r : List Char) :
    (firstToken (n.chars ++ '(' :: r) = some ⟨.function (Text.upper n.text), 0⟩ ↔ ¬ n.StartsCell) ∧
    (¬ n.StartsCell → tokensFrom (n.chars ++ '(' :: r) 0 0 =
      ⟨.function (Text.upper n.text), 0⟩ :: ⟨.openParen, n.chars.length⟩ :: tokensFrom r (n.chars.length + 1) 0) ∧
    (n.StartsCell → ∃ letters digits rest, n.CutCell letters digits rest ∧ tokensFrom (n.chars ++ '(' :: r) 0 0 =
      ⟨.cell (String.ofList (letters ++ digits)), 0⟩ :: tokensFrom (rest ++ '(' :: r) (letters ++ digits).length 0) ∧
    firstToken (n.lower.chars ++ '(' :: r) = some ⟨.function (Text.upper n.text), 0⟩ ∧
    (firstToken (n.upper.chars ++ '(' :: r) = firstToken (n.lower.chars ++ '(' :: r) ↔ ¬ n.upper.StartsCell) := by
  have hlower : firstToken (n.lower.chars ++ '(' :: r) = some ⟨.function (Text.upper n.text), 0⟩ := by
    rw [← upper_lower]
    exact (firstToken_call_iff n.lower r).2 (not_startsCell_lower n)
  refine ⟨firstToken_call_iff n r, fun h => ?_, fun h => ?_, hlower, ?_⟩
  · have htokens := tokensFrom_call n r h 0
    rwa [Nat.zero_add] at htokens
  · have htokens := tokensFrom_cell n r h 0
    simpa only [Nat.zero_add] using htokens
  · rw [hlower, ← upper_upper]
    exact firstToken_call_iff n.upper r

-- the digits of `LOG10` make it a cell, in lower case it is a call
example : (tokens "=LOG10(1)").map Token.lexeme =
      [.cell "LOG10", .openParen, .number (.real (Decimal.ofParts ['1'] [])), .closeParen, .finish] ∧
    (tokens "=log10(1)").map Token.lexeme =
      [.function "LOG10", .openParen, .number (.real (Decimal.ofParts ['1'] [])), .closeParen, .finish] :=
  ⟨rfl, rfl⟩

end FormulaSql
