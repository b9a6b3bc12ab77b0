import FormulaSql.Decimal.Reader
import FormulaSql.Proofs.Text.Case

/-!
# Decimals that are read

The reader of numbers (`read?`) refuses most texts. It accepts every row of digits with at most one point and at least
one digit, in any script, and then gives what the parts of the decimal spell (`read_whole`, `read_pointed`). The digits
are no blanks, no signs and no letters, so that neither trimming nor the words for infinity interfere
(`read_of_unsigned`).
-/

namespace FormulaSql.Decimal

open Text

/-! ## Digits -/

/-- No digit is a blank: the intervals are apart. -/
theorem not_isBlank_of_isDigit {c : Char} (h : isDigit c) : isBlank c = false := by
  obtain ⟨z, hz, hle⟩ := List.any_eq_true.1 h
  simp only [Bool.and_eq_true, decide_eq_true_eq] at hle
  have apart : ∀ z ∈ Text.zeros, ∀ s ∈ blankSpans, z + 9 < s.1 ∨ s.2 < z := by decide +kernel
  refine List.any_eq_false.2 fun s hs => ?_
  have := apart z hz s hs
  simp only [Bool.and_eq_true, decide_eq_true_eq]
  omega

/-- A character that stands in a decimal. -/
def IsDecimal (c : Char) : Prop :=
  isDigit c ∨ c = '.'

section Characters

variable {c : Char} (h : IsDecimal c)

include h

theorem IsDecimal.not_isBlank : isBlank c = false := by
  rcases h with h | rfl
  · exact not_isBlank_of_isDigit h
  · decide

theorem IsDecimal.ne_of_not {d : Char} (hd : isDigit d = false) (hp : d ≠ '.') : c ≠ d := by
  rintro rfl
  rcases h with h | h
  · rw [hd] at h; cases h
  · exact hp h

/-- Lower case makes no letter of the words for infinity out of such a character. -/
theorem IsDecimal.toLower_ne {d : Char} (hd : d = 'i' ∨ d = 'n') : c.toLower ≠ d := by
  have low : ∀ c : Char, c.toNat < 0x80 → c.toLower = 'i' ∨ c.toLower = 'n' → isDigit c = false ∧ c ≠ '.' :=
    all_below (by decide)
  have high (hc : ¬ c.toNat < 0x80) : c.toLower = c := by
    refine dif_neg fun hle => hc ?_
    have hz : c.val.toNat ≤ 'Z'.val.toNat := UInt32.le_iff_toNat_le.1 hle.2
    exact Nat.lt_of_le_of_lt hz (by decide)
  intro hlow
  by_cases hc : c.toNat < 0x80
  · obtain ⟨h₁, h₂⟩ := low c hc (hlow ▸ hd)
    exact h.ne_of_not h₁ h₂ rfl
  · rw [high hc] at hlow
    rcases hd with rfl | rfl
    · exact h.ne_of_not (by decide) (by decide) hlow
    · exact h.ne_of_not (by decide) (by decide) hlow

end Characters

/-! ## Rows of digits -/

/-- A row of digits ends before anything but a digit or an underscore. -/
theorem takeDigits_append {r : List Char} (hr : ∀ c ∈ r.head?, isDigit c = false ∧ c ≠ '_') : ∀ {ds : List Char},
    (∀ c ∈ ds, isDigit c) → takeDigits (ds ++ r) = (ds, r)
  | [], _ => by
    cases r with
    | nil => rfl
    | cons c r =>
      have hc := (hr c rfl).1
      show takeDigits (c :: r) = _
      unfold takeDigits
      split <;> simp_all
  | c :: ds, h => by
    obtain ⟨hc, hds⟩ := List.forall_mem_cons.1 h
    have ih := takeDigits_append hr hds
    have hnext : ∀ d rest, ds ++ r = '_' :: d :: rest → False := by
      intro d rest heq
      cases ds with
      | nil =>
        rw [List.nil_append] at heq
        exact (hr '_' (by rw [heq]; rfl)).2 rfl
      | cons b bs =>
        obtain ⟨rfl, _⟩ := List.cons.inj heq
        exact absurd (hds '_' List.mem_cons_self) (by decide)
    rw [List.cons_append, takeDigits]
    · simp [hc, ih]
    · exact hnext

theorem takeDigits_all {ds : List Char} (h : ∀ c ∈ ds, isDigit c) : takeDigits ds = (ds, []) := by
  have hnil : ∀ c ∈ ([] : List Char).head?, isDigit c = false ∧ c ≠ '_' := fun c hc => by cases hc
  simpa using takeDigits_append hnil h

/-! ## Whole decimals -/

/-- There is nothing to trim off a decimal. -/
theorem trim_decimal {cs : List Char} (h : ∀ c ∈ cs, IsDecimal c) : trim isBlank cs = cs := by
  have keep {ds : List Char} (hds : ∀ c ∈ ds, IsDecimal c) : ds.dropWhile isBlank = ds := by
    cases ds with
    | nil => rfl
    | cons d ds =>
      have := (hds d List.mem_cons_self).not_isBlank
      rw [List.dropWhile_cons_of_neg (by simp [this])]
  rw [trim, keep h, trimEnd, keep (fun c hc => h c (List.mem_reverse.1 hc)), List.reverse_reverse]

/-- A decimal has no sign. -/
theorem takeSign_decimal {cs : List Char} (h : ∀ c ∈ cs, IsDecimal c) : takeSign cs = (false, cs) := by
  unfold takeSign
  split
  · exact absurd rfl ((h '-' List.mem_cons_self).ne_of_not (d := '-') (by decide) (by decide))
  · exact absurd rfl ((h '+' List.mem_cons_self).ne_of_not (d := '+') (by decide) (by decide))
  · rfl

/-- A decimal is none of the words that are read as numbers. -/
theorem map_toLower_ne {cs : List Char} (h : ∀ c ∈ cs, IsDecimal c) {d : Char} (hd : d = 'i' ∨ d = 'n')
    (word : List Char) : cs.map Char.toLower ≠ d :: word := by
  intro heq
  obtain ⟨c, _, rfl, hc, _⟩ := List.map_eq_cons_iff.1 heq
  exact (h c List.mem_cons_self).toLower_ne hd hc

theorem not_infinite {cs : List Char} (h : ∀ c ∈ cs, IsDecimal c) :
    ¬ (cs.map Char.toLower = "inf".toList ∨ cs.map Char.toLower = "infinity".toList) :=
  not_or.2 ⟨map_toLower_ne h (.inl rfl) _, map_toLower_ne h (.inl rfl) _⟩

theorem not_nan {cs : List Char} (h : ∀ c ∈ cs, IsDecimal c) : ¬ cs.map Char.toLower = "nan".toList :=
  map_toLower_ne h (.inr rfl) _

/-- Reading a decimal is reading its digits. -/
theorem read_of_unsigned {cs : List Char} (h : ∀ c ∈ cs, IsDecimal c) :
    read? (String.ofList cs) = unsigned? cs := by
  unfold read?
  rw [String.toList_ofList, trim_decimal h, takeSign_decimal h]
  have hsigned : signed false = id := rfl
  simp only [hsigned, Option.map_id, id_eq]

/-- **A row of digits is read.** -/
theorem read_whole {whole : List Char} (h : ∀ c ∈ whole, isDigit c) (hne : whole ≠ []) :
    read? (String.ofList whole) = some (ofParts whole []) := by
  have hall : ∀ c ∈ whole, IsDecimal c := fun c hc => .inl (h c hc)
  rw [read_of_unsigned hall, unsigned?, if_neg (not_infinite hall), if_neg (not_nan hall), takeDigits_all h]
  simp [exponent?, ofParts, hne]

/-- **So are two rows with a point between them**, one of which may be empty. -/
theorem read_pointed {whole fraction : List Char} (h : ∀ c ∈ whole, isDigit c) (h' : ∀ c ∈ fraction, isDigit c)
    (hne : whole ≠ [] ∨ fraction ≠ []) :
    read? (String.ofList (whole ++ '.' :: fraction)) = some (ofParts whole fraction) := by
  have hall : ∀ c ∈ whole ++ '.' :: fraction, IsDecimal c := by
    refine List.forall_mem_append.2 ⟨fun c hc => .inl (h c hc), List.forall_mem_cons.2 ⟨.inr rfl, ?_⟩⟩
    exact fun c hc => .inl (h' c hc)
  have hpoint : ∀ c ∈ ('.' :: fraction).head?, isDigit c = false ∧ c ≠ '_' := by
    rintro c ⟨⟩
    decide
  have hempty : (whole.isEmpty && fraction.isEmpty) = false := by
    rcases hne with hne | hne <;> simp [hne]
  rw [read_of_unsigned hall, unsigned?, if_neg (not_infinite hall), if_neg (not_nan hall), takeDigits_append hpoint h]
  simp only [takeDigits_all h', hempty]
  simp [exponent?, ofParts]

end FormulaSql.Decimal
