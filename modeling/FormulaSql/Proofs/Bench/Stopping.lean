import Mathlib.Data.List.Basic
import FormulaSql.Proofs.Bench.Checkpoint

/-!
# When rounds stop

A round goes over the counts of the rounds before it and its own one, and keeps the best count and the number of counts
since then. **That is the least count and the number of rounds since it was first reached** (`plateau_exact`): a count that
only equals the best one does not start anew. One step is `plateau_concat`; the invariant of the run is that the best count
is the least one so far, so that a smaller one is new and stands at the end, and any other one leaves the first place of
the best where it is.

What a round prints before its advice does not depend on the counts of earlier rounds (`print_eq`). **With enough coverage
and a valid share the advice adds one line exactly if no bench is below the limit, or if the least count was first reached
three rounds ago or earlier** (`stops_exactly`).
-/

namespace FormulaSql.Bench.Round

/-! ## The best count -/

section Plateau

variable {counts : List Int} {best : Int} {since : Nat}

/-- The number of counts behind the first place of the best one. -/
def roundsSince (best : Int) (counts : List Int) : Nat :=
  counts.length - 1 - counts.idxOf best

/-- One more count. -/
theorem plateau_concat (h : plateau counts = some (best, since)) (n : Int) :
    plateau (counts ++ [n]) = some (if n < best then (n, 0) else (best, since + 1)) := by
  unfold plateau at h ⊢
  rw [List.foldl_append, h]
  rfl

/-- A count below the best one is new. -/
theorem roundsSince_concat_of_lt (h : ∀ c ∈ counts, best ≤ c) {n : Int} (hn : n < best) :
    roundsSince n (counts ++ [n]) = 0 := by
  have hnew : n ∉ counts := fun hmem => absurd (h n hmem) (Int.not_le.2 hn)
  rw [roundsSince, List.idxOf_append_of_notMem hnew, List.idxOf_cons_self, List.length_append, List.length_singleton]
  omega

/-- Any other count leaves the first place of the best one where it is. -/
theorem roundsSince_concat_of_mem (h : best ∈ counts) (n : Int) :
    roundsSince best (counts ++ [n]) = roundsSince best counts + 1 := by
  have hplace : counts.idxOf best < counts.length := List.idxOf_lt_length_of_mem h
  rw [roundsSince, roundsSince, List.idxOf_append_of_mem h, List.length_append, List.length_singleton]
  omega

/-- **The plateau is exact**: the least count and the number of counts since its first place. -/
theorem plateau_exact (history : List Int) : ∀ n : Int, ∃ best, (history ++ [n]).min? = some best ∧
    plateau (history ++ [n]) = some (best, roundsSince best (history ++ [n])) := by
  induction history using List.reverseRecOn with
  | nil =>
    intro n
    have hnow : roundsSince n [n] = 0 := roundsSince_concat_of_lt (List.forall_mem_nil _) (Int.lt_succ n)
    exact ⟨n, rfl, congrArg (fun since => some (n, since)) hnow.symm⟩
  | append_singleton history k ih =>
    intro n
    obtain ⟨best, hmin, hplateau⟩ := ih k
    obtain ⟨hmem, hle⟩ := List.min?_eq_some_iff.1 hmin
    have hstep := plateau_concat hplateau n
    by_cases hn : n < best
    · rw [if_pos hn] at hstep
      refine ⟨n, List.min?_eq_some_iff.2 ⟨by simp, fun c hc => ?_⟩, ?_⟩
      · rcases List.mem_append.1 hc with hc | hc
        · exact Int.le_trans (Int.le_of_lt hn) (hle c hc)
        · exact Int.le_of_eq (List.mem_singleton.1 hc).symm
      · rw [hstep, roundsSince_concat_of_lt hle hn]
    · rw [if_neg hn] at hstep
      refine ⟨best, List.min?_eq_some_iff.2 ⟨List.mem_append_left _ hmem, fun c hc => ?_⟩, ?_⟩
      · rcases List.mem_append.1 hc with hc | hc
        · exact hle c hc
        · rw [List.mem_singleton.1 hc]
          exact Int.not_lt.1 hn
      · rw [hstep, roundsSince_concat_of_mem hmem]

end Plateau

/-! ## What is printed -/

/-- A last text is printed unless something went wrong before it. -/
theorem printAll_concat (parts : List (Except Raised String)) (s : String) :
    printAll (parts ++ [.ok s]) =
      ((printAll parts).1 ++ (if (printAll parts).2.isNone then s else ""), (printAll parts).2) := by
  induction parts with
  | nil => simp [printAll]
  | cons part parts ih =>
    cases part with
    | error r => simp [printAll]
    | ok t => simp [printAll, ih, String.append_assoc]

/-- Everything that a round prints before its advice. -/
def Measured.body (m : Measured) (words : Wording) (w : World) (number : Nat) : List (Except Raised String) :=
  m.totals.table :: words.errors m.totals.errors ++ m.shares.table
    ++ [.ok (words.notes w m), .ok (verdictTable m.judged), m.closing number]

/-- The advice stands behind all the rest, on which the counts of earlier rounds have no influence. -/
theorem print_eq (m : Measured) (words : Wording) (w : World) (number : Nat) (history : List Int) :
    m.print words w number history = ((printAll (m.body words w number)).1 ++
      (if (printAll (m.body words w number)).2.isNone then m.advice history else ""),
        (printAll (m.body words w number)).2) := by
  rw [← printAll_concat, Measured.print, Measured.body]
  simp

/-! ## A round that gets past the coverage measurement -/

section Rounds

variable {words : Wording} {w : World} {m : Measured} {printed : Option String} {complaints report more : String}

/-- What such a round leaves behind. -/
theorem run_of_measure (hcoverage : w.coverage = .finished 0 printed complaints)
    (hreport : w.text? "_pti_coverage.json" = some report) (hm : measure w report = .ok (m, more)) :
    run words w = ⟨(m.print words w (m.recorded w).1 (m.recorded w).2.1).1, complaints ++ more, (m.recorded w).2.2,
      ((m.print words w (m.recorded w).1 (m.recorded w).2.1).2.map .raised).getD .complete⟩ := by
  rw [run, hcoverage]
  simp only [if_true, hreport, hm]

theorem recorded_number (m : Measured) (w : World) :
    (m.recorded w).1 = (recordLines (w.checkpoint.getD "")).length + 1 := by
  unfold Measured.recorded
  dsimp only
  split <;> rfl

/-- The counts of the rounds before are those of the checkpoint file. -/
theorem recorded_history (m : Measured) (w : World) :
    (m.recorded w).2.1 = (History.ofLines (recordLines (w.checkpoint.getD ""))).1.below := by
  unfold Measured.recorded
  dsimp only
  split <;> rfl

end Rounds

/-! ## The advice -/

section Advice

variable {m : Measured} {below : Nat} {history : List Int}

/-- The lines of a text that advise to stop. -/
def stopLines (text : String) : List String :=
  (Text.split '\n' text).filter (·.startsWith ">>> STOP:")

/-- The line that advises to stop for a reason. -/
def stopLine (reason : String) : String :=
  ">>> STOP: repo_time converged (" ++ reason ++ "). Finalize microbench.py now. <<<"

theorem advice_eq (hbelow : m.shares.below? = some below) (hcovered : m.totals.percent ≥ coverageTarget) :
    m.advice history = ((stopReason? history below).map fun reason => "\n" ++ stopLine reason ++ "\n").getD "" := by
  rw [Measured.advice, hbelow]
  dsimp only
  rw [if_pos hcovered]
  cases stopReason? history below with
  | none => rfl
  | some reason =>
    have hfront : "\n>>> STOP: repo_time converged (" = "\n" ++ ">>> STOP: repo_time converged (" := by decide
    have hback : "). Finalize microbench.py now. <<<\n" = "). Finalize microbench.py now. <<<" ++ "\n" := by
      decide
    dsimp only [Option.map_some, Option.getD_some]
    unfold stopLine
    rw [hfront, hback]
    simp only [String.append_assoc]

/-- There is a reason to stop exactly if no bench is below the limit or the best count is at least three rounds old. -/
theorem stopReason_isSome {best : Int} (hbest : (history ++ [(below : Int)]).min? = some best) :
    (stopReason? history below).isSome ↔ below = 0 ∨ 3 ≤ roundsSince best (history ++ [(below : Int)]) := by
  obtain ⟨best', hmin, hplateau⟩ := plateau_exact history below
  obtain rfl : best = best' := Option.some.inj (hbest.symm.trans hmin)
  rw [stopReason?]
  by_cases hzero : below = 0
  · simp [hzero]
  · rw [if_neg hzero, hplateau]
    dsimp only
    by_cases hnew : roundsSince best (history ++ [(below : Int)]) < patience
    · have hage : ¬ 3 ≤ roundsSince best (history ++ [(below : Int)]) := Nat.not_le.2 hnew
      simp [hnew, hzero, hage]
    · have hage : 3 ≤ roundsSince best (history ++ [(below : Int)]) := Nat.not_lt.1 hnew
      simp [hnew, hage]

theorem not_mem_toString_nat (n : Nat) : '\n' ∉ (toString n).toList := by
  rw [toList_toString]
  intro h
  exact absurd ((Decimal.row_toDigits n).2 _ h) (by decide)

theorem not_mem_toString_int (n : Int) : '\n' ∉ (toString n).toList := by
  rw [Datum.Reader.toString_int, List.mem_append]
  rintro (h | h)
  · split at h
    · exact absurd (List.mem_singleton.1 h) (by decide)
    · cases h
  · exact absurd ((Decimal.row_toDigits n.natAbs).2 _ h) (by decide)

/-- A reason fits into a line. -/
theorem not_mem_of_stopReason {reason : String} (h : stopReason? history below = some reason) :
    '\n' ∉ reason.toList := by
  rw [stopReason?] at h
  split at h
  · cases h
    decide
  · split at h
    · split at h
      · cases h
      · cases h
        simp only [String.toList_append, List.mem_append, not_or]
        exact ⟨⟨⟨⟨by decide, not_mem_toString_nat _⟩, by decide⟩, not_mem_toString_int _⟩,
          by decide⟩
    · cases h

/-- One more line behind a text. -/
theorem stopLines_line (text : String) {reason : String} (h : '\n' ∉ reason.toList) :
    stopLines (text ++ ("\n" ++ stopLine reason ++ "\n")) = stopLines text ++ [stopLine reason] := by
  have hline : '\n' ∉ (stopLine reason).toList := by
    unfold stopLine
    simp only [String.toList_append, List.mem_append, not_or]
    exact ⟨⟨by decide, h⟩, by decide⟩
  have htext : (text ++ ("\n" ++ stopLine reason ++ "\n")).toList =
      text.toList ++ '\n' :: ((stopLine reason).toList ++ '\n' :: []) := by simp
  have hstart : (stopLine reason).startsWith ">>> STOP:" = true := by
    unfold stopLine
    rw [String.startsWith_string_iff, String.toList_append, String.toList_append, List.append_assoc]
    exact List.IsPrefix.trans (by decide) (List.prefix_append _ _)
  have hempty : "".startsWith ">>> STOP:" = false := by decide
  rw [stopLines, Text.split, htext, List.splitOn_append_cons_self, List.splitOn_append_cons_self_of_not_mem hline,
    List.map_append, List.filter_append]
  simp [stopLines, Text.split, hstart, hempty]

end Advice

/-- **Rounds stop exactly at a plateau.** The best count and its age are the least count and the number of rounds since
it was first reached. Where a share is valid and the coverage is large enough, a round that has printed its tables and its
closing line adds one line that advises to stop if no bench is below the limit or the least count is at least three rounds
old, and nothing otherwise; a round that fails before adds nothing. The counts are those of the checkpoint file. -/
theorem stops_exactly (words : Wording) :
    (∀ (history : List Int) (n : Int), ∃ best, (history ++ [n]).min? = some best ∧
      plateau (history ++ [n]) = some (best, (history ++ [n]).length - 1 - (history ++ [n]).idxOf best)) ∧
    (∀ (w : World) (m : Measured) (number below : Nat) (history : List Int) (best : Int),
      m.shares.below? = some below → m.totals.percent ≥ coverageTarget →
      (history ++ [(below : Int)]).min? = some best →
      let before := printAll (m.body words w number)
      let stop := below = 0 ∨ 3 ≤ (history ++ [(below : Int)]).length - 1 - (history ++ [(below : Int)]).idxOf best
      (before.2 = none ∧ stop → ∃ line, m.print words w number history = (before.1 ++ ("\n" ++ line ++ "\n"), none) ∧
        stopLines (m.print words w number history).1 = stopLines before.1 ++ [line]) ∧
      (¬ (before.2 = none ∧ stop) → m.print words w number history = before)) ∧
    ∀ (w : World) (m : Measured) (printed : Option String) (complaints : String),
      w.coverage = .finished 0 printed complaints → w.Measures m →
      (run words w).printed = (m.print words w ((recordLines (w.checkpoint.getD "")).length + 1)
        (History.ofLines (recordLines (w.checkpoint.getD ""))).1.below).1 := by
  refine ⟨plateau_exact, ?_, ?_⟩
  · intro w m number below history best hbelow hcovered hbest before stop
    have hreason : (stopReason? history below).isSome ↔ stop := stopReason_isSome hbest
    have hprint : m.print words w number history =
        (before.1 ++ (if before.2.isNone then m.advice history else ""), before.2) := print_eq m words w number history
    rw [advice_eq hbelow hcovered] at hprint
    refine ⟨fun ⟨hbefore, hstop⟩ => ?_, fun hgo => ?_⟩
    · obtain ⟨reason, hr⟩ := Option.isSome_iff_exists.1 (hreason.2 hstop)
      have hadded : m.print words w number history = (before.1 ++ ("\n" ++ stopLine reason ++ "\n"), none) := by
        rw [hprint, hbefore, hr]
        rfl
      refine ⟨stopLine reason, hadded, ?_⟩
      rw [hadded]
      exact stopLines_line before.1 (not_mem_of_stopReason hr)
    · have hnothing : (if before.2.isNone then
          ((stopReason? history below).map fun reason => "\n" ++ stopLine reason ++ "\n").getD "" else "") = "" := by
        by_cases hbefore : before.2 = none
        · have hnone : stopReason? history below = none :=
            Option.not_isSome_iff_eq_none.1 fun h => hgo ⟨hbefore, hreason.1 h⟩
          rw [hnone]
          exact ite_self _
        · rw [if_neg (by simpa using hbefore)]
      rw [hprint, hnothing, String.append_empty]
  · intro w m printed complaints hcoverage hm
    obtain ⟨report, more, hreport, hmeasure⟩ := hm
    rw [run_of_measure hcoverage hreport hmeasure, recorded_number, recorded_history]

/-- A round with one bench below the limit and good coverage. -/
def lowShareRound : Measured where
  totals := ⟨96.5, 4, 4, [], .dict []⟩
  benches := 1
  elapsed := .real 0.75
  shares := ⟨[("bench_a", 10.0)], []⟩
  judged := []

/-- The fourth round with the same count stops, although the third one was no worse. -/
theorem stops_exactly_fourth :
    let w := plainRound (.whole 400) none
    ∃ line, lowShareRound.print .plain w 4 [1, 1, 1] =
        ((printAll (lowShareRound.body .plain w 4)).1 ++ ("\n" ++ line ++ "\n"), none) ∧
      stopLines (lowShareRound.print .plain w 4 [1, 1, 1]).1 =
        stopLines (printAll (lowShareRound.body .plain w 4)).1 ++ [line] :=
  ((stops_exactly .plain).2.1 (plainRound (.whole 400) none) lowShareRound 4 1 [1, 1, 1] 1 (by decide) (by decide)
    (by decide)).1 ⟨by decide +kernel, .inr (by decide)⟩

end FormulaSql.Bench.Round
