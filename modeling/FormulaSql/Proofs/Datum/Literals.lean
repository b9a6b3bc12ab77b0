import FormulaSql.Proofs.Datum.Numerals

/-!
# Text literals in written data

A text is written between quotes, and reading the literal gives the text back (`textAt_literal`). Each character is
written in one of four ways (`Escape`): as it is, by a letter behind a backslash, by its code unit in four hexadecimal
digits, or, beyond the basic plane, by two code units. The reader takes each of them off the front and gives the character
(`textBody_escape`).
-/

namespace FormulaSql.Datum

open Reader

/-! ## What is written -/

/-- The characters of a text between its quotes. -/
def escapedChars (s : String) : List Char :=
  s.toList.flatMap fun c => (escapeJson c).toList

/-- A text literal, character by character. -/
def literal (s : String) : List Char :=
  '"' :: (escapedChars s ++ ['"'])

theorem toList_jsonText (s : String) : (jsonText s).toList = literal s := by
  rw [jsonText, String.toList_append, String.toList_append, String.toList_join, List.flatMap_map]
  rfl

/-! ## Code units -/

/-- A hexadecimal digit is read as its value. -/
theorem hexValue_digitChar : ∀ d < 16, hexValue? (Nat.digitChar d) = some d := by
  decide

/-- Four hexadecimal digits, the leading zeros included. -/
theorem toList_hex {n : Nat} (h : n < 0x10000) :
    (Text.hex 4 n).toList =
      [Nat.digitChar (n / 4096), Nat.digitChar (n / 256 % 16), Nat.digitChar (n / 16 % 16), Nat.digitChar (n % 16)] := by
  have step {m : Nat} (hm : ¬ m < 16) : Nat.toDigits 16 m = Nat.toDigits 16 (m / 16) ++ [Nat.digitChar (m % 16)] := by
    rw [Nat.toDigits_eq_if (by decide), if_neg hm]
  have single {m : Nat} (hm : m < 16) : Nat.toDigits 16 m = [Nat.digitChar m] := Nat.toDigits_of_lt_base hm
  rw [Text.hex, String.toList_ofList]
  by_cases h₁ : n < 16
  · rw [single h₁, show n / 4096 = 0 by omega, show n / 256 % 16 = 0 by omega, show n / 16 % 16 = 0 by omega,
      show n % 16 = n by omega]
    rfl
  by_cases h₂ : n < 256
  · rw [step h₁, single (by omega), show n / 4096 = 0 by omega, show n / 256 % 16 = 0 by omega,
      show n / 16 % 16 = n / 16 by omega]
    rfl
  by_cases h₃ : n < 4096
  · rw [step h₁, step (by omega), single (by omega), show n / 4096 = 0 by omega,
      show n / 256 % 16 = n / 16 / 16 by omega]
    rfl
  · rw [step h₁, step (by omega), step (by omega), single (by omega), show n / 4096 = n / 16 / 16 / 16 by omega,
      show n / 256 % 16 = n / 16 / 16 % 16 by omega]
    rfl

/-- **A code unit is read back** from its four digits. -/
theorem hex4_hex {n : Nat} (h : n < 0x10000) {rest : List Char} (hr : rest ≠ []) :
    hex4? ((Text.hex 4 n).toList ++ rest) = some n := by
  obtain ⟨c, cs, rfl⟩ := List.exists_cons_of_ne_nil hr
  rw [toList_hex h]
  simp only [List.cons_append, List.nil_append, hex4?, hexValue_digitChar _ (show n / 4096 < 16 by omega),
    hexValue_digitChar _ (show n / 256 % 16 < 16 by omega), hexValue_digitChar _ (show n / 16 % 16 < 16 by omega),
    hexValue_digitChar _ (show n % 16 < 16 by omega), Option.bind_eq_bind, Option.bind_some, Option.pure_def]
  refine congrArg some ?_
  omega

theorem length_hex {n : Nat} (h : n < 0x10000) : (Text.hex 4 n).toList.length = 4 := by
  rw [toList_hex h]
  rfl

/-! ## Reading a literal -/

/-- Characters that belong to an escape are passed over. -/
theorem textBody_skip (start : Nat) (rest : List Char) : ∀ (cs : List Char) (i : Nat),
    textBody start (cs ++ rest) i cs.length = textBody start rest (i + cs.length) 0
  | [], i => rfl
  | c :: cs, i => by
    rw [List.cons_append, List.length_cons, textBody, textBody_skip start rest cs (i + 1)]
    congr 1
    omega

/-- Puts a character in front of a text that has been read. -/
def prepend (c : Char) (r : Except ReadError (List Char × Cursor)) : Except ReadError (List Char × Cursor) :=
  r.map fun p => (c :: p.1, p.2)

theorem toList_unitEscape (n : Nat) : (unitEscape n).toList = '\\' :: 'u' :: (Text.hex 4 n).toList := by
  rw [unitEscape, String.toList_append]
  rfl

theorem length_unitEscape {n : Nat} (h : n < 0x10000) : (unitEscape n).toList.length = 6 := by
  rw [toList_unitEscape, List.length_cons, List.length_cons, length_hex h]

/-- A code unit, and what belongs to it, are passed over and give one character. -/
theorem textBody_unit (start : Nat) {n : Nat} (h : n < 0x10000) {c : Char} (more rest : List Char) (i : Nat)
    (hne : more ++ rest ≠ []) (hc : codeUnit n (more ++ rest) = (c, more.length)) :
    textBody start ((unitEscape n).toList ++ (more ++ rest)) i 0 =
      prepend c (textBody start rest (i + (6 + more.length)) 0) := by
  have hdrop : ((Text.hex 4 n).toList ++ (more ++ rest)).drop 4 = more ++ rest := List.drop_left' (length_hex h)
  have hskip := textBody_skip start rest ('u' :: (Text.hex 4 n).toList ++ more) (i + 1)
  have hlen : ('u' :: (Text.hex 4 n).toList ++ more).length = 5 + more.length := by
    rw [List.length_append, List.length_cons, length_hex h]
  rw [hlen, List.append_assoc] at hskip
  rw [toList_unitEscape, List.cons_append, List.cons_append, textBody, hex4_hex h hne]
  dsimp only
  rw [hdrop, hc]
  dsimp only
  rw [List.cons_append] at hskip
  rw [hskip, show i + 1 + (5 + more.length) = i + (6 + more.length) by omega]
  cases textBody start rest (i + (6 + more.length)) 0 <;> rfl

/-- A character of the basic plane is its own code unit. -/
theorem codeUnit_toNat {c : Char} (rest : List Char) (h : c.toNat < 0x10000) : codeUnit c.toNat rest = (c, 0) := by
  have hvalid : c.toNat < 0xD800 ∨ 0xDFFF < c.toNat ∧ c.toNat < 0x110000 := c.valid
  rw [codeUnit, if_neg (by omega), if_neg (by omega), Char.ofNat_toNat]

/-- A character beyond the basic plane is written as two code units, which the reader joins. -/
theorem codeUnit_pair {c : Char} {rest : List Char} (h : ¬ c.toNat < 0x10000) (hr : rest ≠ []) :
    codeUnit (0xD800 + (c.toNat - 0x10000) / 0x400)
      ((unitEscape (0xDC00 + (c.toNat - 0x10000) % 0x400)).toList ++ rest) = (c, 6) := by
  have hvalid : c.toNat < 0xD800 ∨ 0xDFFF < c.toNat ∧ c.toNat < 0x110000 := c.valid
  have hlow : lowHalf? ((unitEscape (0xDC00 + (c.toNat - 0x10000) % 0x400)).toList ++ rest) =
      some (0xDC00 + (c.toNat - 0x10000) % 0x400) := by
    rw [toList_unitEscape, List.cons_append, List.cons_append, lowHalf?, hex4_hex (by omega) hr, Option.filter_some,
      if_pos]
    simp only [Bool.and_eq_true, decide_eq_true_eq]
    omega
  rw [codeUnit, if_pos (by omega), hlow]
  dsimp only
  rw [show 0x10000 + (0xD800 + (c.toNat - 0x10000) / 0x400 - 0xD800) * 0x400 +
    (0xDC00 + (c.toNat - 0x10000) % 0x400 - 0xDC00) = c.toNat by omega, Char.ofNat_toNat]

/-- The ways in which a character is written in a text literal. -/
inductive Escape (c : Char) : List Char → Prop
  | short {e : Char} : escaped? e = some c → 0x20 ≤ e.toNat ∧ e.toNat < 0x7F → Escape c ['\\', e]
  | plain : c ≠ '"' → c ≠ '\\' → 0x20 ≤ c.toNat ∧ c.toNat < 0x7F → Escape c [c]
  | unit : c.toNat < 0x10000 → Escape c (unitEscape c.toNat).toList
  | pair : ¬ c.toNat < 0x10000 → Escape c ((unitEscape (0xD800 + (c.toNat - 0x10000) / 0x400)).toList ++
      (unitEscape (0xDC00 + (c.toNat - 0x10000) % 0x400)).toList)

theorem escape_escapeJson (c : Char) : Escape c (escapeJson c).toList := by
  unfold escapeJson
  split
  · rename_i h
    exact h ▸ .short rfl (by decide)
  split
  · rename_i h
    exact h ▸ .short rfl (by decide)
  split
  · rename_i h
    exact h ▸ .short rfl (by decide)
  split
  · rename_i h
    exact h ▸ .short rfl (by decide)
  split
  · rename_i h
    exact h ▸ .short rfl (by decide)
  split
  · rename_i h
    exact h ▸ .short rfl (by decide)
  split
  · rename_i h
    exact h ▸ .short rfl (by decide)
  split
  · rename_i h₁ h₂ _ _ _ _ _ h
    rw [Char.toString_eq_singleton, String.toList_singleton]
    exact .plain h₁ h₂ h
  split
  · rename_i h
    exact .unit h
  · rename_i h
    rw [String.toList_append]
    exact .pair h

/-- **A character is read back** from what is written for it in a text literal. -/
theorem textBody_escape (start : Nat) {c : Char} {cs rest : List Char} (h : Escape c cs) (hr : rest ≠ []) (i : Nat) :
    textBody start (cs ++ rest) i 0 = prepend c (textBody start rest (i + cs.length) 0) := by
  cases h with
  | @short e he hp =>
    have hu : e ≠ 'u' := by
      rintro rfl
      cases he
    show textBody start ('\\' :: e :: rest) i 0 = prepend c (textBody start rest (i + 1 + 1) 0)
    rw [textBody, he]
    · dsimp only
      rw [textBody]
      cases textBody start rest (i + 1 + 1) 0 <;> rfl
    · exact hu
  | plain hq hb hp =>
    show textBody start (c :: rest) i 0 = prepend c (textBody start rest (i + 1) 0)
    rw [textBody, if_neg (by omega)]
    · cases textBody start rest (i + 1) 0 <;> rfl
    · exact hq
    · exact hb
  | unit hc =>
    rw [length_unitEscape hc]
    exact textBody_unit start hc [] rest i hr (codeUnit_toNat rest hc)
  | pair hc =>
    have hvalid : c.toNat < 0xD800 ∨ 0xDFFF < c.toNat ∧ c.toNat < 0x110000 := c.valid
    have hhigh : 0xD800 + (c.toNat - 0x10000) / 0x400 < 0x10000 := by omega
    have hlow : 0xDC00 + (c.toNat - 0x10000) % 0x400 < 0x10000 := by omega
    have hpair := codeUnit_pair hc hr
    rw [← length_unitEscape hlow] at hpair
    rw [List.append_assoc, List.length_append, length_unitEscape hhigh]
    exact textBody_unit start hhigh _ rest i (by simp [hr]) hpair

/-- **A text is read back** from its literal; the cursor stands behind the opening quote. -/
theorem textAt_literal (s : String) (rest : List Char) : Takes textAt (escapedChars s ++ ['"']) rest s := by
  have body (start : Nat) : ∀ (cs : List Char) (i : Nat), ∃ j,
      textBody start (cs.flatMap (fun c => (escapeJson c).toList) ++ '"' :: rest) i 0 = .ok (cs, ⟨rest, j⟩) := by
    intro cs
    induction cs with
    | nil =>
      intro i
      exact ⟨i + 1, rfl⟩
    | cons c cs ih =>
      intro i
      obtain ⟨j, hj⟩ := ih (i + (escapeJson c).toList.length)
      refine ⟨j, ?_⟩
      rw [List.flatMap_cons, List.append_assoc, textBody_escape start (escape_escapeJson c) (by simp), hj]
      rfl
  intro i
  obtain ⟨j, hj⟩ := body (i - 1) s.toList i
  refine ⟨j, ?_⟩
  rw [List.append_assoc, List.singleton_append, textAt, escapedChars]
  dsimp only
  rw [hj]
  exact congrArg (fun t => Except.ok (t, Cursor.mk rest j)) String.ofList_toList

end FormulaSql.Datum
