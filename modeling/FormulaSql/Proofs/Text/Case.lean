import FormulaSql.Text.Case
import FormulaSql.Text.Word

/-!
# Case mapping and punctuation

Case mapping makes no punctuation: a character before the digits (`Low`) that stands in the upper or lower case of a text
stood in the text. Beyond ASCII this is a fact about the tables, all of whose images lie behind the digit zero.

Nor does it make anything else that has no place in a name: the lower case of word characters holds of ASCII only
lower-case letters, digits and underscores (`mem_lower_word`), although some letters beyond ASCII have a lower case in
it. And it loses no text: only the empty one has an empty lower case (`lower_eq_empty_iff`).
-/

namespace FormulaSql.Text

/-- The characters before the digits, null apart. -/
def Low (c : Char) : Prop :=
  0 < c.toNat ∧ c.toNat ≤ 47

instance : DecidablePred Low := fun _ => inferInstanceAs (Decidable (_ ∧ _))

theorem toNat_ofNat (n : Nat) : (Char.ofNat n).toNat = n ∨ (Char.ofNat n).toNat = 0 := by
  unfold Char.ofNat
  by_cases h : n.isValidChar
  · rw [dif_pos h]
    exact .inl rfl
  · rw [dif_neg h]
    exact .inr rfl

theorem not_low_ofNat {n : Nat} (h : 47 < n) : ¬ Low (Char.ofNat n) := by
  rintro ⟨h₀, h₁⟩
  rcases toNat_ofNat n with hn | hn <;> omega

/-- What holds of the first code points holds of every character among them. -/
theorem all_below {P : Char → Prop} {k : Nat} (h : ∀ n < k, P (Char.ofNat n)) (c : Char) (hc : c.toNat < k) : P c := by
  have := h c.toNat hc
  rwa [Char.ofNat_toNat] at this

theorem low_all {P : Char → Prop} (h : ∀ n < 48, P (Char.ofNat n)) (c : Char) (hc : Low c) : P c :=
  all_below h c (Nat.lt_succ_of_le hc.2)

/-! ## Letters and digits of ASCII -/

section Ascii

variable {c : Char}

theorem ascii_of_isUpper (h : c.isUpper) : c.toNat < 0x80 :=
  Nat.lt_of_le_of_lt (UInt32.le_iff_toNat_le.1 (of_decide_eq_true h).2) (by decide)

theorem ascii_of_isLower (h : c.isLower) : c.toNat < 0x80 :=
  Nat.lt_of_le_of_lt (UInt32.le_iff_toNat_le.1 (of_decide_eq_true (Bool.and_eq_true_iff.1 h).2)) (by decide)

theorem ascii_of_isAlpha (h : c.isAlpha) : c.toNat < 0x80 := by
  have hcase : (c.isUpper || c.isLower) = true := h
  rcases Bool.or_eq_true_iff.1 hcase with h | h
  · exact ascii_of_isUpper h
  · exact ascii_of_isLower h

theorem ascii_of_isDigit (h : c.isDigit) : c.toNat < 0x80 :=
  Nat.lt_of_le_of_lt (UInt32.le_iff_toNat_le.1 (of_decide_eq_true (Bool.and_eq_true_iff.1 h).2)) (by decide)

end Ascii

/-! ## One character -/

section Tables

variable {several : List (Nat × List Nat)} {shifts : List Shift}

/-- What the images of a table of characters that become several have to satisfy, and those of the runs. -/
structure BehindDigits (several : List (Nat × List Nat)) (shifts : List Shift) : Prop where
  several : ∀ p ∈ several, ∀ n ∈ p.2, 47 < n
  shifts : ∀ t ∈ shifts, 47 < t.lo + t.offset

/-- Where a run sends the code points that belong to it. -/
theorem image_eq {t : Shift} {n k : Nat} (h : t.image? n = some k) :
    t.lo ≤ n ∧ n ≤ t.hi ∧ k = Int.toNat (n + t.offset) := by
  unfold Shift.image? at h
  split at h
  · rename_i hn
    simp only [Bool.and_eq_true, decide_eq_true_eq] at hn
    cases h
    exact ⟨hn.1.1, hn.1.2, rfl⟩
  · cases h

/-- A character that a table makes of another is listed, lies in a run, or is that character. -/
theorem mem_mapCase {c x : Char} (hx : x ∈ mapCase several shifts c) :
    (∃ p ∈ several, ∃ n ∈ p.2, x = Char.ofNat n) ∨ (∃ t ∈ shifts, ∃ k, t.image? c.toNat = some k ∧ x = Char.ofNat k) ∨
      x = c := by
  unfold mapCase at hx
  cases hs : several.lookup c.toNat with
  | some ns =>
    simp only [hs] at hx
    obtain ⟨n, hn, rfl⟩ := List.mem_map.1 hx
    obtain ⟨_, _, rfl, _⟩ := List.lookup_eq_some_iff.1 hs
    exact .inl ⟨(c.toNat, ns), by simp, n, hn, rfl⟩
  | none =>
    simp only [hs, List.mem_singleton] at hx
    cases hk : shifts.findSome? (·.image? c.toNat) with
    | none => rw [hk] at hx; exact .inr (.inr hx)
    | some k =>
      obtain ⟨t, ht, htk⟩ := List.exists_of_findSome?_eq_some hk
      rw [hk] at hx
      exact .inr (.inl ⟨t, ht, k, htk, hx⟩)

theorem mem_mapCase_low (h : BehindDigits several shifts) {c x : Char} (hx : x ∈ mapCase several shifts c) (hl : Low x) :
    x = c := by
  rcases mem_mapCase hx with ⟨p, hp, n, hn, rfl⟩ | ⟨t, ht, k, htk, rfl⟩ | hxc
  · exact absurd hl (not_low_ofNat (h.several p hp n hn))
  · have hlt := h.shifts t ht
    obtain ⟨hlo, -, hk⟩ := image_eq htk
    exact absurd hl (not_low_ofNat (by omega))
  · exact hxc

end Tables

theorem behindDigits_lower : BehindDigits lowerSeveral lowerShifts := ⟨by decide, by decide +kernel⟩

theorem behindDigits_upper : BehindDigits upperSeveral upperShifts := ⟨by decide +kernel, by decide +kernel⟩

theorem toLower_low : ∀ c : Char, c.toNat < 0x80 → Low c.toLower → c.toLower = c :=
  all_below (by decide)

theorem toUpper_low : ∀ c : Char, c.toNat < 0x80 → Low c.toUpper → c.toUpper = c :=
  all_below (by decide)

theorem mem_lowerOne_low {c x : Char} (hx : x ∈ lowerOne c) (hl : Low x) : x = c := by
  unfold lowerOne at hx
  split at hx
  · rename_i hc
    cases List.mem_singleton.1 hx
    exact toLower_low c hc hl
  · exact mem_mapCase_low behindDigits_lower hx hl

theorem mem_upperOne_low {c x : Char} (hx : x ∈ upperOne c) (hl : Low x) : x = c := by
  unfold upperOne at hx
  split at hx
  · rename_i hc
    cases List.mem_singleton.1 hx
    exact toUpper_low c hc hl
  · exact mem_mapCase_low behindDigits_upper hx hl

/-! ## Texts -/

theorem mem_lowerAfter_low : ∀ {after : Bool} {cs : List Char} {x : Char}, x ∈ lowerAfter after cs → Low x → x ∈ cs
  | _, [], _, h, _ => h
  | after, c :: cs, x, h, hl => by
    simp only [lowerAfter, List.mem_append] at h
    rcases h with h | h
    · split at h
      · have : x = 'ς' ∨ x = 'σ' := by
          rw [List.mem_singleton] at h
          split at h
          · exact .inl h
          · exact .inr h
        rcases this with rfl | rfl <;> exact absurd hl (by decide)
      · exact mem_lowerOne_low h hl ▸ List.mem_cons_self
    · exact List.mem_cons_of_mem c (mem_lowerAfter_low h hl)

/-- **Punctuation in the lower case of a text stood in the text.** -/
theorem mem_lower_low {s : String} {x : Char} (h : x ∈ (lower s).toList) (hl : Low x) : x ∈ s.toList :=
  mem_lowerAfter_low (by simpa [lower] using h) hl

/-- **So it is with the upper case.** -/
theorem mem_upper_low {cs : List Char} {x : Char} (h : x ∈ cs.flatMap upperOne) (hl : Low x) : x ∈ cs := by
  obtain ⟨c, hc, hx⟩ := List.mem_flatMap.1 h
  exact mem_upperOne_low hx hl ▸ hc

/-! ## Lower case of words -/

/-- The lower-case letters, the digits and the underscore of ASCII. -/
def isLowerWord (c : Char) : Bool :=
  c.isLower || c.isDigit || c == '_'

/-- What is no character of ASCII, or one of the lower-case word characters. -/
def Tame (c : Char) : Prop :=
  c.toNat < 0x80 → isLowerWord c

theorem toNat_ofNat_of_valid {n : Nat} (h : n.isValidChar) : (Char.ofNat n).toNat = n := by
  unfold Char.ofNat
  rw [dif_pos h]
  rfl

/-- What the images of the tables have to satisfy: those of a run lie beyond ASCII and are code points, but a run of a
single character may lead back into ASCII. -/
structure TameTables (several : List (Nat × List Nat)) (shifts : List Shift) : Prop where
  nonempty : ∀ p ∈ several, p.2 ≠ []
  several : ∀ p ∈ several, ∀ n ∈ p.2, 0x80 ≤ (Char.ofNat n).toNat ∨ isLowerWord (Char.ofNat n)
  shifts : ∀ t ∈ shifts, (t.lo = t.hi ∧ isLowerWord (Char.ofNat (Int.toNat (t.lo + t.offset)))) ∨
    (0x80 ≤ t.lo + t.offset ∧ t.hi + t.offset < 0xD800) ∨ (0xDFFF < t.lo + t.offset ∧ t.hi + t.offset < 0x110000)

theorem tameTables_lower : TameTables lowerSeveral lowerShifts :=
  ⟨by decide, by decide, by decide +kernel⟩

section Words

variable {c x : Char} {several : List (Nat × List Nat)} {shifts : List Shift}

theorem mem_mapCase_tame (h : TameTables several shifts) (hc : ¬ c.toNat < 0x80) (hx : x ∈ mapCase several shifts c) :
    Tame x := by
  intro hx'
  rcases mem_mapCase hx with ⟨p, hp, n, hn, rfl⟩ | ⟨t, ht, k, htk, rfl⟩ | rfl
  · rcases h.several p hp n hn with hfar | hword
    · omega
    · exact hword
  · obtain ⟨hlo, hhi, hk⟩ := image_eq htk
    rcases h.shifts t ht with ⟨hone, hword⟩ | hfar
    · have hn : c.toNat = t.lo := by omega
      rw [hk, hn]
      exact hword
    · have hvalid : k.isValidChar := by
        rcases hfar with hfar | hfar
        · exact .inl (by omega)
        · exact .inr ⟨by omega, by omega⟩
      rw [toNat_ofNat_of_valid hvalid] at hx'
      omega
  · exact absurd hx' hc

/-- A word character has a lower case that is tame. -/
theorem mem_lowerOne_tame (hc : isWord c) (hx : x ∈ lowerOne c) : Tame x := by
  unfold lowerOne at hx
  split at hx
  · rename_i hascii
    cases List.mem_singleton.1 hx
    exact fun _ => all_below (P := fun c => isWord c → isLowerWord c.toLower) (by decide) c hascii hc
  · rename_i hfar
    exact mem_mapCase_tame tameTables_lower hfar hx

theorem mapCase_ne_nil (h : ∀ p ∈ several, p.2 ≠ []) : mapCase several shifts c ≠ [] := by
  unfold mapCase
  cases hs : several.lookup c.toNat with
  | some ns =>
    obtain ⟨_, _, rfl, _⟩ := List.lookup_eq_some_iff.1 hs
    simpa using h (c.toNat, ns) (by simp)
  | none => simp

theorem lowerOne_ne_nil : lowerOne c ≠ [] := by
  unfold lowerOne
  split
  · simp
  · exact mapCase_ne_nil tameTables_lower.nonempty

end Words

theorem mem_lowerAfter_tame : ∀ {after : Bool} {cs : List Char} {x : Char}, (∀ c ∈ cs, isWord c) →
    x ∈ lowerAfter after cs → Tame x
  | _, [], _, _, hx => absurd hx List.not_mem_nil
  | after, c :: cs, x, hcs, hx => by
    simp only [lowerAfter, List.mem_append] at hx
    rcases hx with hx | hx
    · split at hx
      · -- both lower cases of the sigma are Greek letters
        intro hascii
        rw [List.mem_singleton] at hx
        subst hx
        split at hascii <;> exact absurd hascii (by decide)
      · exact mem_lowerOne_tame (hcs c List.mem_cons_self) hx
    · exact mem_lowerAfter_tame (fun d hd => hcs d (List.mem_cons_of_mem c hd)) hx

/-- **The lower case of a word is a word in lower case**, as far as it is written in ASCII. -/
theorem mem_lower_word {s : String} {x : Char} (hs : ∀ c ∈ s.toList, isWord c) (hx : x ∈ (lower s).toList) : Tame x :=
  mem_lowerAfter_tame hs (by simpa [lower] using hx)

theorem lowerAfter_eq_nil_iff {after : Bool} {cs : List Char} : lowerAfter after cs = [] ↔ cs = [] := by
  cases cs with
  | nil => simp [lowerAfter]
  | cons c cs =>
    simp only [lowerAfter, List.append_eq_nil_iff, reduceCtorEq, iff_false, not_and]
    intro hout
    split at hout
    · simp at hout
    · exact absurd hout lowerOne_ne_nil

theorem lower_eq_empty_iff {s : String} : lower s = "" ↔ s = "" := by
  rw [← String.toList_eq_nil_iff, ← String.toList_eq_nil_iff, lower, String.toList_ofList, lowerAfter_eq_nil_iff]

end FormulaSql.Text
