import FormulaSql.Text
import Mathlib.Data.List.TakeWhile

/-!
# Runs of characters

A run of characters of a class ends at the first character that is not of the class. Where it ends is seen from the text
alone (`span_stop`), so two texts that start with such runs and are equal start with the same run (`run_inj`). Trimming
takes the runs off both ends: what is left ends with no character of the class (`Text.getLast_trim`), and nothing is left
exactly if the text is one run (`Text.trim_eq_nil_iff`).
-/

namespace FormulaSql

/-- Characters of a class up to one that is not of the class. -/
theorem span_stop {p : Char → Bool} {ds r : List Char} (hds : ∀ c ∈ ds, p c) (hr : ∀ c ∈ r.head?, ¬ p c) :
    (ds ++ r).takeWhile p = ds ∧ (ds ++ r).dropWhile p = r := by
  rw [List.takeWhile_append_of_pos hds, List.dropWhile_append_of_pos hds]
  cases r with
  | nil => simp
  | cons c r =>
    have hc := hr c rfl
    rw [List.takeWhile_cons_of_neg hc, List.dropWhile_cons_of_neg hc, List.append_nil]
    exact ⟨rfl, rfl⟩

theorem head_dropWhile_not {p : Char → Bool} {cs : List Char} : ∀ c ∈ (cs.dropWhile p).head?, ¬ p c := by
  intro c hc
  have hhead := List.head?_dropWhile_not p cs
  rw [hc] at hhead
  simpa using hhead

/-- Two rows of characters with `p`, each of which ends where the text goes on without `p`, are the same row. -/
theorem run_inj {p : Char → Bool} {a b r r' : List Char} (ha : ∀ c ∈ a, p c) (hb : ∀ c ∈ b, p c)
    (hr : ∀ c ∈ r.head?, ¬ p c) (hr' : ∀ c ∈ r'.head?, ¬ p c) (h : a ++ r = b ++ r') : a = b ∧ r = r' := by
  obtain ⟨htake, hdrop⟩ := span_stop ha hr
  obtain ⟨htake', hdrop'⟩ := span_stop hb hr'
  rw [h] at htake hdrop
  exact ⟨htake.symm.trans htake', hdrop.symm.trans hdrop'⟩

/-- Everything up to a mark. -/
theorem span_mark {m : Char} {ds : List Char} (h : m ∉ ds) (r : List Char) :
    (ds ++ m :: r).takeWhile (· != m) = ds ∧ (ds ++ m :: r).dropWhile (· != m) = m :: r :=
  span_stop (fun _ hc => bne_iff_ne.2 fun heq => h (heq ▸ hc)) (by simp)

/-- A character of one class and characters of another behind it. -/
def IsRun (start part : Char → Bool) : List Char → Prop
  | [] => False
  | c :: cs => start c ∧ ∀ d ∈ cs, part d

/-- A number is written as the run of its digits. -/
theorem toList_toString (n : Nat) : (toString n).toList = Nat.toDigits 10 n :=
  Nat.toList_repr

/-! ## Trimmed texts -/

namespace Text

section Trimmed

variable {p : Char → Bool} {cs : List Char}

theorem mem_of_mem_trim {c : Char} (h : c ∈ trim p cs) : c ∈ cs := by
  rw [trim, trimEnd, List.mem_reverse] at h
  have hdropped : c ∈ (cs.dropWhile p).reverse := (List.dropWhile_sublist p).subset h
  exact (List.dropWhile_sublist p).subset (List.mem_reverse.1 hdropped)

/-- A trimmed text does not end with a character that is trimmed off. -/
theorem getLast_trim : ∀ c ∈ (trim p cs).getLast?, ¬ p c := by
  intro c hc
  rw [trim, trimEnd, List.getLast?_reverse] at hc
  exact head_dropWhile_not c hc

/-- Everything is trimmed off exactly if every character is. -/
theorem trim_eq_nil_iff : trim p cs = [] ↔ ∀ c ∈ cs, p c := by
  rw [trim, trimEnd, List.reverse_eq_nil_iff, List.dropWhile_eq_nil_iff]
  constructor
  · intro h
    rw [← List.dropWhile_eq_nil_iff]
    cases hrest : cs.dropWhile p with
    | nil => rfl
    | cons c rest =>
      have hstop : ¬ p c := head_dropWhile_not c (by rw [hrest]; rfl)
      exact absurd (h c (by simp [hrest])) hstop
  · intro h c hc
    exact h c ((List.dropWhile_sublist p).subset (List.mem_reverse.1 hc))

end Trimmed

end Text

end FormulaSql
