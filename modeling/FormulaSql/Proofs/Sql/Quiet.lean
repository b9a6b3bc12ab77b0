import FormulaSql.Proofs.Parser.Shape
import FormulaSql.Proofs.Sql.Scanner
import FormulaSql.Proofs.Text.Runs

/-!
# Quiet parts of SQL

The parts that a tree of a formula contributes to SQL are quiet, text literals and sheet names apart. A number is quiet
because it has no sign (`quiet_number`); only its exponent may have one. A name is calm because the tokenizer lets no
punctuation into it and case mapping makes none (`Holds.calm`), and a column title is made of word characters and
underscores (`tableColumn_holds`).
-/

namespace FormulaSql.Sql

/-! ## Numbers -/

section Numbers

open Decimal

theorem calm_toDigits (n : Nat) : ∀ c ∈ Nat.toDigits 10 n, Calm c := by
  intro c hc
  have hd := Nat.isDigit_of_mem_toDigits (by decide) (by decide) hc
  refine calm_of_lt ?_
  simp only [Char.isDigit, Bool.and_eq_true, decide_eq_true_eq] at hd
  exact hd.1

theorem calm_zeros (n : Nat) : ∀ c ∈ (Decimal.zeros n).toList, Calm c := by
  intro c hc
  rw [Decimal.zeros, String.toList_ofList] at hc
  rw [List.eq_of_mem_replicate hc]
  decide

/-- The digits of an exponent. -/
theorem calm_exponentDigits (n : Nat) : ∀ c ∈ (if n < 10 then "0" else "").toList ++ (toString n).toList, Calm c := by
  intro c hc
  rcases List.mem_append.1 hc with hc | hc
  · split at hc
    · exact (show ∀ c ∈ "0".toList, Calm c by decide) c hc
    · cases hc
  · exact calm_toDigits n c (by rwa [toList_toString] at hc)

theorem quiet_exponentText (e : Int) : Quiet (exponentText e).toList := by
  have hcalm := calm_exponentDigits e.natAbs
  have hne : (if e.natAbs < 10 then "0" else "").toList ++ (toString e.natAbs).toList ≠ [] := by
    rw [toList_toString]
    exact List.append_ne_nil_of_right_ne_nil _ Nat.toDigits_ne_nil
  unfold exponentText
  rw [String.append_assoc, String.toList_append, String.toList_append]
  split
  · -- the only sign of a number: a digit stands behind it
    obtain ⟨d, ds, hds⟩ := List.exists_cons_of_ne_nil hne
    rw [hds] at hcalm ⊢
    exact .lone (by decide) (by decide) (by decide) (hcalm d List.mem_cons_self)
      (.of_calm fun c hc => hcalm c (List.mem_cons_of_mem d hc))
  · exact Quiet.append (.of_calm (by decide)) (.of_calm hcalm)

theorem quiet_digits (d : Digits) : Quiet d.text.toList := by
  have hds := calm_toDigits d.digits
  have take (n : Nat) : Quiet ((Nat.toDigits 10 d.digits).take n) := .of_calm fun c hc => hds c (List.mem_of_mem_take hc)
  have drop (n : Nat) : Quiet ((Nat.toDigits 10 d.digits).drop n) := .of_calm fun c hc => hds c (List.mem_of_mem_drop hc)
  have point : Quiet ".".toList := .of_calm (by decide)
  unfold Digits.text
  dsimp only
  split
  · split
    · simp only [String.toList_append, String.toList_ofList]
      exact (Quiet.append (.of_calm (by decide)) (.of_calm (calm_zeros _))).append (.of_calm hds)
    · split
      · simp only [String.toList_append, String.toList_ofList]
        exact (Quiet.append (.of_calm hds) (.of_calm (calm_zeros _))).append (.of_calm (by decide))
      · simp only [String.toList_append, String.toList_ofList]
        exact ((take _).append point).append (drop _)
  · rw [String.toList_append, String.toList_append, String.toList_ofList]
    refine ((take 1).append ?_).append (quiet_exponentText _)
    split
    · exact .nil
    · simp only [String.toList_append, String.toList_ofList]
      exact point.append (drop 1)

/-- **The text of an unsigned double is quiet.** -/
theorem quiet_number {x : Float} (h : Unsigned x) : Quiet (Decimal.text x).toList := by
  have hlt : x.toBits.toNat < Nat.pow 2 63 := h
  have hsign : (x.toBits.toNat / Nat.pow 2 63 % 2 == 1) = false := by
    rw [Nat.div_eq_of_lt hlt]; rfl
  unfold Decimal.text Exact.ofFloat Exact.ofBits
  simp only [hsign]
  have finite (m : Nat) (e : Int) : Quiet (Exact.finite false m e).text.toList := by
    show Quiet ("" ++ if m = 0 then "0.0" else (shortest m e).text).toList
    rw [String.toList_append]
    refine Quiet.append .nil ?_
    split
    · exact .of_calm (by decide)
    · exact quiet_digits _
  split
  · split <;> exact .of_calm (by decide)
  · split <;> exact finite _ _

end Numbers

/-! ## Names -/

section Names

/-- The characters that the scanner reacts to stand before the digits. -/
theorem low_of_not_calm {c : Char} (h : ¬ Calm c) : Text.Low c := by
  have hc := Decidable.not_not.1 h
  simp only [List.mem_cons, List.not_mem_nil, or_false] at hc
  rcases hc with rfl | rfl | rfl | rfl | rfl <;> decide

/-- A text is calm if the punctuation that it holds is. -/
theorem calm_of_holds {marks : List Char} {s : String} (h : Holds marks s) (hm : ∀ c ∈ marks, Calm c) :
    ∀ c ∈ s.toList, Calm c := by
  intro c hc
  by_cases hcalm : Calm c
  · exact hcalm
  · exact hm c (h c hc (low_of_not_calm hcalm))

theorem quiet_of_holds {marks : List Char} {s : String} (h : Holds marks s) (hm : ∀ c ∈ marks, Calm c) :
    Quiet s.toList :=
  .of_calm (calm_of_holds h hm)

theorem holds_lower {marks : List Char} {s : String} (h : Holds marks s) : Holds marks (Text.lower s) :=
  fun c hc hl => h c (Text.mem_lower_low hc hl) hl

theorem holds_upper {marks : List Char} {s : String} (h : Holds marks s) : Holds marks (Text.upper s) :=
  fun c hc hl => h c (Text.mem_upper_low (by simpa [Text.upper] using hc) hl) hl

theorem holds_columnLetters {marks : List Char} {s : String} (h : Holds marks s) : Holds marks (columnLetters s) := by
  intro c hc hl
  rw [columnLetters, String.toList_ofList] at hc
  exact h c (List.mem_filter.1 hc).1 hl

theorem holds_of_isWord {s : String} (h : ∀ c ∈ s.toList, Text.isWord c) : Holds [] s :=
  fun c hc hl => absurd hl (not_low_of_isWord (h c hc))

/-! ## Columns of tables -/

/-- Whatever stands in a title, no punctuation is left in the column name. -/
theorem holds_columnName (title : List Char) : Holds [] (columnName title) := by
  refine holds_lower fun c hc hl => ?_
  rw [String.toList_ofList] at hc
  obtain ⟨d, _, rfl⟩ := List.mem_map.1 (Text.mem_of_mem_trim hc)
  split at hl
  · rename_i hd
    exact absurd hl (not_low_of_isWord hd)
  · exact absurd hl (by decide)

theorem tableColumn_holds {table : String} (column : String) (h : Holds [] table) :
    ∃ s, tableColumn (.text table) (.text column) = .ok (.text s) ∧ Holds [] s := by
  unfold tableColumn
  dsimp only
  split
  · exact ⟨_, rfl, holds_columnName _⟩
  · split
    · exact ⟨_, rfl, holds_lower h⟩
    · exact ⟨_, rfl, holds_columnName _⟩

end Names

end FormulaSql.Sql
