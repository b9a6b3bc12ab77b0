import FormulaSql.Proofs.Text.Runs
import FormulaSql.Proofs.Token.CallNames
import FormulaSql.Proofs.Token.SheetNames

/-!
# Longest words

Names, names of functions, cells and decimals are read in one way: the longest word of the kind at the front of a text
is taken. `TakesLongest` says so of a reader; it names the words, and the characters that go on with a word.

Blanks belong to no word and go on with none. So a blank ends a word and changes nothing before it: a word that is taken
before some place is taken if a blank is put there (`TakesLongest.kept`), and what is taken before a blank was there, or
the front of a longer word was, when there was no blank (`TakesLongest.found`). A word that has to be followed by a mark
keeps it (`kept_marked`, `found_marked`).

What the matchers for tables, ranges, numbers and functions find is said by the words that stand there (`findTable_iff`,
`findRange_iff`, `findNumber_iff`, `findFunction_iff`).
-/

namespace FormulaSql

open Text (isBlank isDigit isWord)

/-! ## Readers of words -/

/-- The reader takes the longest word at the front of a text. Whatever goes on with a word makes a longer one, and words
hold no blanks. -/
structure TakesLongest (take : List Char → Option (List Char × List Char)) (word : List Char → Prop)
    (more : List Char → Char → Prop) : Prop where
  iff : ∀ {cs front rest : List Char}, take cs = some (front, rest) ↔
    cs = front ++ rest ∧ word front ∧ ∀ c ∈ rest.head?, ¬ more front c
  longer : ∀ {front : List Char} {c : Char}, word front → more front c → word (front ++ [c])
  not_isBlank : ∀ {front : List Char}, word front → ∀ c ∈ front, ¬ isBlank c

/-- A front that is no longer than another one is the front of it. -/
theorem split_of_le {a r front rest : List Char} (h : a ++ r = front ++ rest) (hle : front.length ≤ a.length) :
    ∃ x, a = front ++ x ∧ rest = x ++ r := by
  rcases List.append_eq_append_iff.1 h with ⟨x, rfl, hr⟩ | hx
  · rw [List.length_append] at hle
    obtain rfl : x = [] := List.length_eq_zero_iff.1 (by omega)
    exact ⟨[], by simp, hr.symm⟩
  · exact hx

/-- A front without blanks stands before a blank that follows. -/
theorem split_of_not_blank {a r front rest : List Char} {b : Char} (h : a ++ b :: r = front ++ rest) (hb : isBlank b)
    (hfront : ∀ c ∈ front, ¬ isBlank c) : ∃ x, a = front ++ x ∧ rest = x ++ b :: r := by
  refine split_of_le h ?_
  rcases List.append_eq_append_iff.1 h with ⟨x, rfl, hx⟩ | ⟨x, rfl, -⟩
  · cases x with
    | nil => simp
    | cons d x =>
      obtain ⟨rfl, -⟩ := List.cons.inj hx
      exact absurd hb (hfront _ (by simp))
  · simp

namespace TakesLongest

variable {take : List Char → Option (List Char × List Char)} {word : List Char → Prop}
  {more : List Char → Char → Prop} (h : TakesLongest take word more) {a r r' front rest : List Char} {b : Char}

include h

theorem blank_ends (hw : word front) (hb : isBlank b) : ¬ more front b :=
  fun hm => h.not_isBlank (h.longer hw hm) b (by simp) hb

/-- Where a word stands, a word is taken. -/
theorem exists_take : ∀ {front : List Char} (rest : List Char), word front → ∃ t, take (front ++ rest) = some t
  | front, [], hw => ⟨(front, []), h.iff.2 ⟨rfl, hw, by simp⟩⟩
  | front, c :: rest, hw => by
    by_cases hm : more front c
    · have hlonger := exists_take rest (h.longer hw hm)
      rwa [List.append_assoc] at hlonger
    · refine ⟨(front, c :: rest), h.iff.2 ⟨rfl, hw, ?_⟩⟩
      rintro d ⟨⟩
      exact hm

/-- A word that ends before some place is taken if a blank is put there. -/
theorem kept (hb : isBlank b) (ht : take (a ++ r) = some (front, rest)) (hle : front.length ≤ a.length)
    (r' : List Char) : ∃ x, a = front ++ x ∧ rest = x ++ r ∧ take (a ++ b :: r') = some (front, x ++ b :: r') := by
  obtain ⟨hcs, hw, hends⟩ := h.iff.1 ht
  obtain ⟨x, rfl, rfl⟩ := split_of_le hcs hle
  refine ⟨x, rfl, rfl, h.iff.2 ⟨List.append_assoc .., hw, ?_⟩⟩
  cases x with
  | nil =>
    rintro c ⟨⟩
    exact h.blank_ends hw hb
  | cons d x =>
    rintro c ⟨⟩
    exact hends _ rfl

/-- A word that is taken before a blank is taken without the blank, unless a longer one is. -/
theorem found (hb : isBlank b) (ht : take (a ++ b :: r') = some (front, rest)) (r : List Char) :
    ∃ x, rest = x ++ b :: r' ∧ (∃ t, take (a ++ r) = some t) ∧ (x ≠ [] → take (a ++ r) = some (front, x ++ r)) := by
  obtain ⟨hcs, hw, hends⟩ := h.iff.1 ht
  obtain ⟨x, rfl, rfl⟩ := split_of_not_blank hcs hb (h.not_isBlank hw)
  rw [List.append_assoc]
  refine ⟨x, rfl, h.exists_take (x ++ r) hw, fun hx => h.iff.2 ⟨rfl, hw, ?_⟩⟩
  obtain ⟨d, x, rfl⟩ := List.exists_cons_of_ne_nil hx
  rintro c ⟨⟩
  exact hends _ rfl

/-- A word whose mark stands before some place is taken with it if a blank is put there. -/
theorem kept_marked {m : Char} {t : List Char} (hb : isBlank b) (ht : take (a ++ r) = some (front, m :: t))
    (hlt : front.length < a.length) (r' : List Char) :
    ∃ x, a = front ++ m :: x ∧ t = x ++ r ∧ take (a ++ b :: r') = some (front, m :: (x ++ b :: r')) := by
  obtain ⟨x, rfl, hx, htake⟩ := h.kept hb ht (Nat.le_of_lt hlt) r'
  rw [List.length_append] at hlt
  obtain ⟨d, x, rfl⟩ := List.exists_cons_of_length_pos (show 0 < x.length by omega)
  rw [List.cons_append] at hx
  obtain ⟨rfl, rfl⟩ := List.cons.inj hx
  exact ⟨x, rfl, rfl, htake⟩

/-- A word that is taken with a mark behind it stands before a blank together with its mark. -/
theorem found_marked {m : Char} {t : List Char} (hb : isBlank b) (hm : ¬ isBlank m)
    (ht : take (a ++ b :: r') = some (front, m :: t)) (r : List Char) :
    ∃ x, t = x ++ b :: r' ∧ take (a ++ r) = some (front, m :: (x ++ r)) := by
  obtain ⟨x, hx, -, hshort⟩ := h.found hb ht r
  cases x with
  | nil =>
    rw [List.nil_append] at hx
    exact absurd ((List.cons.inj hx).1 ▸ hb) hm
  | cons d x =>
    rw [List.cons_append] at hx
    obtain ⟨rfl, rfl⟩ := List.cons.inj hx
    exact ⟨x, rfl, hshort (List.cons_ne_nil _ _)⟩

end TakesLongest

/-! ## Blanks apart from words -/

/-- No word character is a blank: the intervals are apart. -/
theorem not_isBlank_of_isWord {c : Char} (h : isWord c) : ¬ isBlank c := by
  by_cases hc : c.toNat < 0x80
  · exact Text.all_below (P := fun c => isWord c → ¬ isBlank c) (by decide) c hc h
  · have apart : ∀ t ∈ Text.wordSpans, ∀ s ∈ Text.blankSpans, t.2 < s.1 ∨ s.2 < t.1 := by decide +kernel
    rw [isWord, if_neg hc] at h
    intro hb
    obtain ⟨t, ht, hword⟩ := List.any_eq_true.1 h
    obtain ⟨s, hs, hblank⟩ := List.any_eq_true.1 hb
    simp only [Bool.and_eq_true, decide_eq_true_eq] at hword hblank
    have := apart t ht s hs
    omega

theorem not_isBlank_of_isFunctionPart {c : Char} (h : isFunctionPart c) : ¬ isBlank c := by
  have beyond : ['İ', 'ı', 'ſ', '\u212A'].all fun c => !isBlank c := by decide
  rcases ascii_of_isFunctionPart h with hc | hc
  · exact Text.all_below (P := fun c => isFunctionPart c → ¬ isBlank c) (by decide) c hc h
  · simpa using List.all_eq_true.1 beyond c hc

/-! ## Names -/

/-- Splits off a character of one class and the characters of another behind it. -/
def takeRun (start part : Char → Bool) : List Char → Option (List Char × List Char)
  | [] => none
  | c :: cs => if start c then some (c :: cs.takeWhile part, cs.dropWhile part) else none

theorem longest_run {start part : Char → Bool} (hstart : ∀ c, start c → ¬ isBlank c)
    (hpart : ∀ c, part c → ¬ isBlank c) :
    TakesLongest (takeRun start part) (IsRun start part) fun _ c => part c where
  iff := by
    intro cs front rest
    constructor
    · intro h
      cases cs with
      | nil => cases h
      | cons c cs =>
        rw [takeRun] at h
        split at h
        · rename_i hc
          cases h
          exact ⟨by simp, ⟨hc, fun d => List.mem_takeWhile_imp⟩, head_dropWhile_not⟩
        · cases h
    · rintro ⟨rfl, hw, hends⟩
      cases front with
      | nil => exact hw.elim
      | cons c cs =>
        obtain ⟨htake, hdrop⟩ := span_stop hw.2 hends
        rw [List.cons_append, takeRun, if_pos hw.1, htake, hdrop]
  longer := by
    intro front c hw hc
    cases front with
    | nil => exact hw.elim
    | cons d ds => exact ⟨hw.1, List.forall_mem_append.2 ⟨hw.2, List.forall_mem_singleton.2 hc⟩⟩
  not_isBlank := by
    intro front hw
    cases front with
    | nil => exact hw.elim
    | cons c cs => exact List.forall_mem_cons.2 ⟨hstart c hw.1, fun d hd => hpart d (hw.2 d hd)⟩

theorem takeName_eq_takeRun : takeName? = takeRun isNameStart isWord := by
  funext cs
  cases cs <;> rfl

/-- Plain names. -/
theorem longest_name : TakesLongest takeName? IsPlainName fun _ c => isWord c := by
  rw [takeName_eq_takeRun]
  exact longest_run (fun _ => not_isBlank_of_isNameStart) fun _ => not_isBlank_of_isWord

/-- Names of functions. -/
theorem longest_function :
    TakesLongest (takeRun isFunctionStart isFunctionPart) (IsRun isFunctionStart isFunctionPart)
      fun _ c => isFunctionPart c :=
  longest_run (fun c hc => not_isBlank_of_isFunctionPart (by simp [isFunctionPart, hc]))
    fun _ => not_isBlank_of_isFunctionPart

/-! ## Cells -/

/-- At most one dollar sign. -/
def IsDollar (cs : List Char) : Prop :=
  cs = [] ∨ cs = ['$']

/-- How a cell is spelled: capital letters and digits, each with an optional dollar sign before it. -/
inductive IsCellText : List Char → Prop
  | mk {d₁ letters d₂ digits : List Char} : IsDollar d₁ → letters ≠ [] → (∀ c ∈ letters, c.isUpper) → IsDollar d₂ →
      digits ≠ [] → (∀ c ∈ digits, isDigit c) → IsCellText (d₁ ++ (letters ++ (d₂ ++ digits)))

theorem isDollar_takeDollar (cs : List Char) : IsDollar (takeDollar cs).1 := by
  unfold takeDollar
  split
  · exact .inr rfl
  · exact .inl rfl

/-- A dollar sign is split off what does not start with one. -/
theorem takeDollar_of_isDollar {d cs : List Char} (hd : IsDollar d) (hcs : ∀ c ∈ cs.head?, c ≠ '$') :
    takeDollar (d ++ cs) = (d, cs) := by
  rcases hd with rfl | rfl
  · cases cs with
    | nil => rfl
    | cons c cs => exact takeDollar_of_ne (hcs c rfl)
  · rfl

theorem not_isUpper_of_isDigit {c : Char} (h : isDigit c) : ¬ c.isUpper :=
  fun hu => Text.all_below (P := fun c => c.isUpper → ¬ isDigit c) (by decide) c (Text.ascii_of_isUpper hu) hu h

/-- The first character of a row that is not empty. -/
theorem head_append {P : Char → Prop} {cs r : List Char} (hne : cs ≠ []) (h : ∀ c ∈ cs, P c) :
    ∀ c ∈ (cs ++ r).head?, P c := by
  obtain ⟨d, ds, rfl⟩ := List.exists_cons_of_ne_nil hne
  rintro c ⟨⟩
  exact h _ List.mem_cons_self

theorem takeCell_iff {cs name rest : List Char} : takeCell? cs = some (name, rest) ↔
    cs = name ++ rest ∧ IsCellText name ∧ ∀ c ∈ rest.head?, ¬ isDigit c := by
  constructor
  · intro h
    refine ⟨(takeCell_append h).1, ?_⟩
    unfold takeCell? at h
    dsimp only at h
    split at h
    · cases h
    · rename_i hne
      cases h
      simp only [Bool.or_eq_true, List.isEmpty_iff, not_or] at hne
      simp only [List.append_assoc]
      exact ⟨.mk (isDollar_takeDollar _) hne.1 (fun c => List.mem_takeWhile_imp) (isDollar_takeDollar _) hne.2
        fun c => List.mem_takeWhile_imp, head_dropWhile_not⟩
  · rintro ⟨rfl, ⟨hd₁, hletters, hupper, hd₂, hdigits, hdigit⟩, hends⟩
    rename_i d₁ letters d₂ digits
    have hdollar : ∀ c ∈ (digits ++ rest).head?, c ≠ '$' :=
      head_append hdigits fun c hc h => absurd (hdigit c hc) (h ▸ by decide)
    have hbehind : ∀ c ∈ (d₂ ++ (digits ++ rest)).head?, ¬ c.isUpper := by
      rcases hd₂ with rfl | rfl
      · rw [List.nil_append]
        exact head_append hdigits fun c hc => not_isUpper_of_isDigit (hdigit c hc)
      · rintro c ⟨⟩
        decide
    have hfirst : ∀ c ∈ (letters ++ (d₂ ++ (digits ++ rest))).head?, c ≠ '$' :=
      head_append hletters fun c hc h => absurd (hupper c hc) (h ▸ by decide)
    obtain ⟨htakeUpper, hdropUpper⟩ := span_stop hupper hbehind
    obtain ⟨htakeDigit, hdropDigit⟩ := span_stop hdigit hends
    have hcond : (letters.isEmpty || digits.isEmpty) = false := by simp [hletters, hdigits]
    simp only [List.append_assoc, takeCell?, takeDollar_of_isDollar hd₁ hfirst, htakeUpper, hdropUpper,
      takeDollar_of_isDollar hd₂ hdollar, htakeDigit, hdropDigit, hcond]
    rfl

/-- Cells. -/
theorem longest_cell : TakesLongest takeCell? IsCellText fun _ c => isDigit c where
  iff := takeCell_iff
  longer := by
    rintro _ c ⟨hd₁, hletters, hupper, hd₂, hdigits, hdigit⟩ hc
    rename_i d₁ letters d₂ digits
    have hmore : IsCellText (d₁ ++ (letters ++ (d₂ ++ (digits ++ [c])))) :=
      .mk hd₁ hletters hupper hd₂ (by simp) (List.forall_mem_append.2 ⟨hdigit, List.forall_mem_singleton.2 hc⟩)
    simpa using hmore
  not_isBlank := by
    have hdollar {d : List Char} (hd : IsDollar d) : ∀ c ∈ d, ¬ isBlank c := by
      rcases hd with rfl | rfl
      · exact List.forall_mem_nil _
      · exact List.forall_mem_singleton.2 (by decide)
    rintro _ ⟨hd₁, -, hupper, hd₂, -, hdigit⟩
    have hletter : ∀ c : Char, c.isUpper → ¬ isBlank c := fun c hu =>
      Text.all_below (P := fun c => c.isUpper → ¬ isBlank c) (by decide) c (Text.ascii_of_isUpper hu) hu
    refine List.forall_mem_append.2 ⟨hdollar hd₁, List.forall_mem_append.2 ⟨fun c hc => hletter c (hupper c hc), ?_⟩⟩
    exact List.forall_mem_append.2 ⟨hdollar hd₂, fun c hc =>
      Bool.eq_false_iff.1 (Decimal.not_isBlank_of_isDigit (hdigit c hc))⟩

/-! ## Decimals -/

/-- How a decimal is spelled. -/
inductive IsDecimalText : List Char → Prop
  | whole {ds : List Char} : (∀ c ∈ ds, isDigit c) → ds ≠ [] → IsDecimalText ds
  | pointed {ds fs : List Char} : (∀ c ∈ ds, isDigit c) → (∀ c ∈ fs, isDigit c) → ds ≠ [] ∨ fs ≠ [] →
      IsDecimalText (ds ++ '.' :: fs)

/-- Splits off the characters of a decimal. -/
def takeDecimalText? (cs : List Char) : Option (List Char × List Char) :=
  (takeDecimal? cs).map fun d => (cs.take d.2.2.1, d.2.2.2)

/-- A digit goes on with a decimal, and so does a point if there is none yet. -/
def MoreDecimal (front : List Char) (c : Char) : Prop :=
  isDigit c ∨ c = '.' ∧ '.' ∉ front

theorem not_point_of_isDigit {ds : List Char} (h : ∀ c ∈ ds, isDigit c) : '.' ∉ ds :=
  fun hp => absurd (h _ hp) (by decide)

theorem takeDecimal_whole {ds rest : List Char} (hds : ∀ c ∈ ds, isDigit c) (hne : ds ≠ [])
    (hends : ∀ c ∈ rest.head?, ¬ MoreDecimal ds c) : takeDecimal? (ds ++ rest) = some (ds, [], ds.length, rest) := by
  obtain ⟨htake, hdrop⟩ := span_stop hds fun c hc hd => hends c hc (.inl hd)
  simp only [takeDecimal?, htake, hdrop]
  split
  · exact absurd (.inr ⟨rfl, not_point_of_isDigit hds⟩) (hends '.' rfl)
  · simp [hne]

theorem takeDecimal_pointed {ds fs rest : List Char} (hds : ∀ c ∈ ds, isDigit c) (hfs : ∀ c ∈ fs, isDigit c)
    (hne : ds ≠ [] ∨ fs ≠ []) (hends : ∀ c ∈ rest.head?, ¬ isDigit c) :
    takeDecimal? (ds ++ '.' :: (fs ++ rest)) = some (ds, fs, ds.length + 1 + fs.length, rest) := by
  have hpoint : ∀ c ∈ ('.' :: (fs ++ rest)).head?, ¬ isDigit c := by
    rintro c ⟨⟩
    decide
  obtain ⟨htake, hdrop⟩ := span_stop hds hpoint
  obtain ⟨htake', hdrop'⟩ := span_stop hfs hends
  have hcond : (ds.isEmpty && fs.isEmpty) = false := by rcases hne with hne | hne <;> simp [hne]
  simp only [takeDecimal?, htake, hdrop, htake', hdrop', hcond]
  rfl

/-- What is taken as a decimal is one, and the rest does not go on with it. -/
theorem isDecimalText_of_takeDecimal {cs whole fraction r : List Char} {n : Nat}
    (h : takeDecimal? cs = some (whole, fraction, n, r)) :
    ∃ front, cs = front ++ r ∧ front.length = n ∧ IsDecimalText front ∧ ∀ c ∈ r.head?, ¬ MoreDecimal front c := by
  have hwhole : ∀ c ∈ cs.takeWhile isDigit, isDigit c := fun c => List.mem_takeWhile_imp
  unfold takeDecimal? at h
  dsimp only at h
  split at h
  · rename_i t ht
    split at h
    · cases h
    · rename_i hne
      cases h
      simp only [Bool.and_eq_true, List.isEmpty_iff, Decidable.not_and_iff_not_or_not] at hne
      refine ⟨cs.takeWhile isDigit ++ '.' :: t.takeWhile isDigit, ?_, by simp; omega,
        .pointed hwhole (fun c => List.mem_takeWhile_imp) hne, fun c hc hmore => ?_⟩
      · rw [List.append_assoc, List.cons_append, List.takeWhile_append_dropWhile, ← ht, List.takeWhile_append_dropWhile]
      · rcases hmore with hd | ⟨-, hpoint⟩
        · exact head_dropWhile_not c hc hd
        · exact hpoint (by simp)
  · rename_i hpoint
    split at h
    · cases h
    · rename_i hne
      cases h
      rw [List.isEmpty_iff] at hne
      refine ⟨cs.takeWhile isDigit, List.takeWhile_append_dropWhile.symm, rfl, .whole hwhole hne, fun c hc hmore => ?_⟩
      rcases hmore with hd | ⟨rfl, -⟩
      · exact head_dropWhile_not c hc hd
      · obtain ⟨t, ht⟩ := List.head?_eq_some_iff.1 hc
        exact hpoint t ht

theorem takeDecimalText_iff {cs front rest : List Char} : takeDecimalText? cs = some (front, rest) ↔
    cs = front ++ rest ∧ IsDecimalText front ∧ ∀ c ∈ rest.head?, ¬ MoreDecimal front c := by
  constructor
  · intro h
    obtain ⟨⟨whole, fraction, n, r⟩, hd, heq⟩ := Option.map_eq_some_iff.1 h
    obtain ⟨decimal, rfl, hlength, hw, hends⟩ := isDecimalText_of_takeDecimal hd
    cases heq
    rw [List.take_left' hlength]
    exact ⟨rfl, hw, hends⟩
  · rintro ⟨rfl, hw, hends⟩
    cases hw with
    | whole hds hne => simp [takeDecimalText?, takeDecimal_whole hds hne hends]
    | @pointed ds fs hds hfs hne =>
      have htake := takeDecimal_pointed hds hfs hne fun c hc hd => hends c hc (.inl hd)
      have hlength : (ds ++ '.' :: fs).length = ds.length + 1 + fs.length := by simp; omega
      have htext : ds ++ '.' :: (fs ++ rest) = (ds ++ '.' :: fs) ++ rest := by simp
      rw [htext] at htake
      rw [takeDecimalText?, htake, Option.map_some, ← hlength, List.take_left]

/-- Decimals. -/
theorem longest_decimal : TakesLongest takeDecimalText? IsDecimalText MoreDecimal where
  iff := takeDecimalText_iff
  longer := by
    intro front c hw hmore
    cases hw with
    | whole hds hne =>
      rcases hmore with hd | ⟨rfl, -⟩
      · exact .whole (List.forall_mem_append.2 ⟨hds, List.forall_mem_singleton.2 hd⟩) (by simp)
      · exact .pointed hds (List.forall_mem_nil _) (.inl hne)
    | @pointed ds fs hds hfs hne =>
      rcases hmore with hd | ⟨-, hpoint⟩
      · have hfs' : ∀ d ∈ fs ++ [c], isDigit d := List.forall_mem_append.2 ⟨hfs, List.forall_mem_singleton.2 hd⟩
        have hmore : IsDecimalText (ds ++ '.' :: (fs ++ [c])) := .pointed hds hfs' (.inr (by simp))
        simpa using hmore
      · exact absurd (by simp) hpoint
  not_isBlank := by
    intro front hw
    cases hw with
    | whole hds _ => exact fun c hc => Bool.eq_false_iff.1 (Decimal.not_isBlank_of_isDigit (hds c hc))
    | pointed hds hfs _ =>
      refine List.forall_mem_append.2 ⟨fun c hc => ?_, List.forall_mem_cons.2 ⟨?_, ?_⟩⟩
      · exact Bool.eq_false_iff.1 (Decimal.not_isBlank_of_isDigit (hds c hc))
      · decide
      · exact fun c hc => Bool.eq_false_iff.1 (Decimal.not_isBlank_of_isDigit (hfs c hc))

/-! ## What is found where words stand -/

section Finds

variable {cs : List Char} {f : Find}

theorem findText_other {c : Char} (hc : c ≠ '"') (cs : List Char) : findText (c :: cs) = none := by
  rw [findText]
  exact fun _ heq => hc (List.cons.inj heq).1

/-- What is found where a name stands before a bracket. -/
def tableFind (name r : List Char) : Find :=
  let column := ('[' :: r).take (bracketed 0 ('[' :: r))
  ⟨.table (some ⟨some (String.ofList name), some (String.ofList column), some (String.ofList (name ++ column))⟩),
    name.length + column.length⟩

theorem findTable_iff :
    findTable cs = some f ↔ ∃ name t, takeName? cs = some (name, '[' :: t) ∧ f = tableFind name t := by
  constructor
  · intro h
    unfold findTable at h
    split at h
    · rename_i name t hname
      cases h
      exact ⟨name, t, hname, rfl⟩
    · cases h
  · rintro ⟨name, t, hname, rfl⟩
    rw [findTable, hname]
    rfl

/-- What is found where two cells stand with a colon between them. -/
def rangeFind (first last : List Char) : Find :=
  ⟨.range (String.ofList (first ++ ':' :: last)), first.length + 1 + last.length⟩

theorem findRange_iff : findRange cs = some f ↔ ∃ first t last rest,
    takeCell? cs = some (first, ':' :: t) ∧ takeCell? t = some (last, rest) ∧ f = rangeFind first last := by
  constructor
  · intro h
    unfold findRange at h
    split at h
    · rename_i first t hfirst
      obtain ⟨⟨last, rest⟩, hlast, rfl⟩ := Option.map_eq_some_iff.1 h
      exact ⟨first, t, last, rest, hfirst, hlast, rfl⟩
    · cases h
  · rintro ⟨first, t, last, rest, hfirst, hlast, rfl⟩
    simp only [findRange, hfirst, hlast, Option.map_some, rangeFind]

/-- What is found where a decimal stands: a percent sign behind it belongs to it. -/
def numberFind (decimal rest : List Char) (x : Float) : Find :=
  if rest.head? = some '%' then ⟨.number (.real (x / 100.0)), decimal.length + 1⟩
  else ⟨.number (.real x), decimal.length⟩

theorem findNumber_of_takeDecimal {whole fraction r decimal : List Char} {n : Nat}
    (h : takeDecimal? cs = some (whole, fraction, n, r)) (hn : decimal.length = n) :
    findNumber cs = some (numberFind decimal r (Decimal.ofParts whole fraction)) := by
  rw [findNumber, h, Option.map_some]
  subst hn
  cases r with
  | nil => rfl
  | cons c r =>
    by_cases hc : c = '%'
    · subst hc
      rfl
    · have hhead : (c :: r).head? ≠ some '%' := fun h => hc (Option.some.inj h)
      rw [numberFind, if_neg hhead]
      dsimp only
      split
      · rename_i heq
        exact absurd (List.cons.inj heq).1 hc
      · rfl

theorem findNumber_iff : findNumber cs = some f ↔ ∃ decimal rest x,
    takeDecimalText? cs = some (decimal, rest) ∧ Decimal.read? (String.ofList decimal) = some x ∧
      f = numberFind decimal rest x := by
  constructor
  · intro h
    obtain ⟨⟨whole, fraction, n, r⟩, hd, -⟩ := Option.map_eq_some_iff.1 h
    obtain ⟨decimal, hcs, hn, -, hread⟩ := takeDecimal_append hd
    refine ⟨decimal, r, _, ?_, hread, Option.some.inj (h.symm.trans (findNumber_of_takeDecimal hd hn))⟩
    rw [takeDecimalText?, hd, Option.map_some, hcs, List.take_left' hn]
  · rintro ⟨decimal, rest, x, hd, hread, rfl⟩
    obtain ⟨⟨whole, fraction, n, r⟩, hd', heq⟩ := Option.map_eq_some_iff.1 hd
    obtain ⟨decimal', hcs, hn, -, hread'⟩ := takeDecimal_append hd'
    cases heq
    rw [hcs, List.take_left' hn, hread'] at hread
    cases hread
    have hlength : (cs.take n).length = n := by rw [hcs, List.take_left' hn, hn]
    exact findNumber_of_takeDecimal hd' hlength

/-- What is found where a name stands before a parenthesis. -/
def functionFind (name : List Char) : Find :=
  ⟨.function (String.ofList (name.flatMap Text.upperOne)), (name.flatMap Text.upperOne).length⟩

theorem findFunction_iff : findFunction cs = some f ↔
    ∃ name t, takeRun isFunctionStart isFunctionPart cs = some (name, '(' :: t) ∧ f = functionFind name := by
  constructor
  · intro h
    cases cs with
    | nil => cases h
    | cons c cs =>
      rw [findFunction] at h
      by_cases hc : isFunctionStart c
      · rw [if_pos hc] at h
        split at h
        · rename_i t ht
          cases h
          exact ⟨_, t, by rw [takeRun, if_pos hc, ht], rfl⟩
        · cases h
      · rw [if_neg hc] at h
        cases h
  · rintro ⟨name, t, hname, rfl⟩
    cases cs with
    | nil => cases hname
    | cons c cs =>
      rw [takeRun] at hname
      by_cases hc : isFunctionStart c
      · rw [if_pos hc, Option.some.injEq, Prod.mk.injEq] at hname
        obtain ⟨rfl, ht⟩ := hname
        rw [findFunction, if_pos hc, ht]
        rfl
      · rw [if_neg hc] at hname
        cases hname

theorem length_functionFind {name : List Char} (h : IsRun isFunctionStart isFunctionPart name) :
    (functionFind name).length = name.length := by
  refine length_flatMap_upperOne ?_
  cases name with
  | nil => exact h.elim
  | cons c cs => exact List.forall_mem_cons.2 ⟨by simp [isFunctionPart, h.1], h.2⟩

end Finds

end FormulaSql
