import Mathlib.Data.List.Induction
import FormulaSql.Bench.Round.Report
import FormulaSql.Proofs.Datum.Roundtrip

/-!
# The checkpoint file over many rounds

The checkpoint file is both the state and the log of the rounds: each one reads all lines of the rounds before it, takes
its number, the last time and the history of counts from them, and appends a line. Main statement: a file that starts
empty holds one line per round, the line of the `i`-th round has the number `i`, and the history that a round goes by is
the list of the counts in the lines before it (`checkpoint_history`).

A round whose file could not be read would silently leave it as it is. That this never happens rests on one invariant:
every line is the record of a round (`IsRecord`). Such a line can be read again, its time is a number, its count is a
whole number or absent, and its coverage is a number that stands a comparison. So the last line gives a time
(`timeOf_record`), every line gives its count (`countOf_record`), and the round appends another record (`recorded_lines`).
-/

namespace FormulaSql.Bench.Round

open Datum

/-! ## Lines -/

/-- The text of a file with these lines. -/
def joinLines (lines : List String) : String :=
  String.join (lines.map (· ++ "\n"))

theorem joinLines_concat (lines : List String) (l : String) :
    joinLines (lines ++ [l]) = joinLines lines ++ l ++ "\n" := by
  apply String.toList_inj.1
  simp [joinLines]

/-- A line has no line break and is not blank. -/
def IsLine (l : String) : Prop :=
  '\n' ∉ l.toList ∧ l.toList.all Text.isBlank = false

theorem isLine_json (d : Datum) : IsLine d.json := by
  have hclean := clean_chars d
  obtain ⟨c, r, hcs, hg, _⟩ := chars_head d
  have hc : Text.isBlank c = false := (hclean c (by rw [hcs]; exact List.mem_cons_self)).not_isBlank hg
  rw [IsLine, toList_json]
  refine ⟨fun h => absurd (hclean _ h) (by decide), ?_⟩
  rw [hcs, List.all_cons, hc, Bool.false_and]

theorem recordLines_joinLines {lines : List String} (h : ∀ l ∈ lines, IsLine l) :
    recordLines (joinLines lines) = lines := by
  induction lines with
  | nil => decide
  | cons l lines ih =>
    have hl := h l List.mem_cons_self
    have hrest := ih fun l' hl' => h l' (List.mem_cons_of_mem l hl')
    have htext : (joinLines (l :: lines)).toList = l.toList ++ '\n' :: (joinLines lines).toList := by
      simp [joinLines]
    unfold recordLines Text.split at hrest ⊢
    rw [htext, List.splitOn_append_cons_self_of_not_mem hl.1, List.map_cons, String.ofList_toList,
      List.filter_cons_of_pos (by simp [hl.2]), hrest]

/-! ## Records -/

/-- The whole number that a key has in a line. -/
def wholeIn (key line : String) : Option Int :=
  match Datum.read line with
  | .ok (.dict es) =>
    match es.lookup key with
    | some (.whole n) => some n
    | _ => none
  | _ => none

/-- The count below the limit in a line, if there is one. -/
def belowIn (line : String) : Option Int :=
  wholeIn "n_below_repo_time" line

/-- Whether a value is a number. -/
def IsNumber (d : Datum) : Prop :=
  d.number?.isSome

/-- A line that a round has written at a time that is a number. -/
def IsRecord (line : String) : Prop :=
  ∃ (m : Measured) (number : Nat) (time since : Datum), IsNumber time ∧ line = (m.record number time since).json

theorem IsNumber.reread {d : Datum} (h : IsNumber d) : IsNumber d.reread := by
  cases d with
  | bool b => exact h
  | whole n => exact h
  | real x => rfl
  | _ => cases h

/-- A record is read back with its number, its time, its coverage and its count. -/
theorem reread_record (m : Measured) (number : Nat) (time since : Datum) :
    ∃ es, (m.record number time since).reread = .dict es ∧ es.lookup "round" = some (.whole number) ∧
      es.lookup "ts" = some time.reread ∧ es.lookup "coverage_pct" = some (reread (.real m.totals.percent)) ∧
      es.lookup "n_below_repo_time" = some ((m.shares.below?.map fun (n : Nat) => Datum.whole n).getD .null) := by
  refine ⟨_, reread_dict (by simp), ?_, ?_, ?_, ?_⟩
  · simp [reread]
  · simp [List.lookup_cons]
  · simp [List.lookup_cons]
  · cases m.shares.below? <;> simp [List.lookup_cons, reread]

theorem wholeIn_round (m : Measured) (number : Nat) (time since : Datum) :
    wholeIn "round" (m.record number time since).json = some (number : Int) := by
  obtain ⟨es, hes, hround, _⟩ := reread_record m number time since
  rw [wholeIn, read_json, hes]
  dsimp only
  rw [hround]

/-- The time of a record is a number. -/
theorem timeOf_record {line : String} (hline : IsRecord line) : ∃ time, IsNumber time ∧ timeOf line = .ok time := by
  obtain ⟨m, number, time, since, htime, rfl⟩ := hline
  obtain ⟨es, hes, _, hts, _⟩ := reread_record m number time since
  refine ⟨time.reread, htime.reread, ?_⟩
  rw [timeOf, readDocument_json, hes]
  simp only [bind, Except.bind, Document.get, hts, Option.getD_some]

/-- **A record gives its count**, and its coverage can be compared. -/
theorem countOf_record {line : String} (hline : IsRecord line) : countOf line = .ok (belowIn line, true) := by
  obtain ⟨m, number, time, since, _, rfl⟩ := hline
  obtain ⟨es, hes, _, _, hcoverage, hbelow⟩ := reread_record m number time since
  have hcount : count? ((m.shares.below?.map fun (n : Nat) => Datum.whole n).getD .null) =
      belowIn (m.record number time since).json := by
    rw [belowIn, wholeIn, read_json, hes]
    dsimp only
    rw [hbelow]
    cases m.shares.below? <;> rfl
  have hnumber : (reread (.real m.totals.percent)).number?.isSome = true := IsNumber.reread rfl
  rw [countOf, readDocument_json, hes]
  simp only [bind, Except.bind, pure, Except.pure, Document.get, hcoverage, hbelow, Option.getD_some, hcount, hnumber,
    Bool.or_true]

/-- All lines of a file of records give their counts. -/
theorem countsOf_records : ∀ {lines : List String}, (∀ l ∈ lines, IsRecord l) →
    countsOf lines = (lines.filterMap belowIn, true)
  | [], _ => rfl
  | l :: lines, hl => by
    have hrest := countsOf_records fun l' hl' => hl l' (List.mem_cons_of_mem l hl')
    rw [countsOf, countOf_record (hl l List.mem_cons_self), hrest]
    cases hb : belowIn l <;> simp [hb]

/-- Nothing is wrong with a file of records. -/
theorem ofLines_records {lines : List String} (hl : ∀ l ∈ lines, IsRecord l) :
    ∃ time, (time = .null ∨ IsNumber time) ∧ History.ofLines lines = (⟨lines.filterMap belowIn, time⟩, true) := by
  have hlast : ∃ time, (time = .null ∨ IsNumber time) ∧ (lines.getLast?.map timeOf).getD (.ok .null) = .ok time := by
    cases hlines : lines.getLast? with
    | none => exact ⟨.null, .inl rfl, rfl⟩
    | some l =>
      obtain ⟨time, htime, hok⟩ := timeOf_record (hl l (List.mem_of_getLast? hlines))
      exact ⟨time, .inr htime, hok⟩
  obtain ⟨time, htime, hok⟩ := hlast
  refine ⟨time, htime, ?_⟩
  rw [History.ofLines, hok, countsOf_records hl]

theorem difference_numbers {a b : Datum} (ha : IsNumber a) (hb : IsNumber b) :
    ∃ d, Document.difference a b = .ok d := by
  obtain ⟨x, hx⟩ := Option.isSome_iff_exists.1 ha
  obtain ⟨y, hy⟩ := Option.isSome_iff_exists.1 hb
  rw [Document.difference, hx, hy]
  cases x <;> cases y <;> exact ⟨_, rfl⟩

theorem sincePrevious_ok {now previous : Datum} (hnow : IsNumber now) (hprev : previous = .null ∨ IsNumber previous) :
    ∃ since, sincePrevious now previous = .ok since := by
  rw [sincePrevious]
  split
  · rename_i hpresent
    rcases hprev with rfl | hprev
    · cases hpresent
    · obtain ⟨d, hd⟩ := difference_numbers hnow hprev
      exact ⟨_, by rw [hd]; rfl⟩
  · exact ⟨_, rfl⟩

/-- **A round behind a file of records appends a record.** Its number is one more than the number of lines, and the
history it goes by is the list of the counts in them. -/
theorem recorded_lines (m : Measured) {w : World} {lines : List String} (hlines : ∀ l ∈ lines, IsRecord l)
    (htext : w.checkpoint.getD "" = joinLines lines) (htime : IsNumber w.time)
    (hwritable : World.nameOf ".pti_checkpoint.jsonl" ∉ w.readOnly) :
    ∃ since, m.recorded w = (lines.length + 1, lines.filterMap belowIn,
      some (joinLines (lines ++ [(m.record (lines.length + 1) w.time since).json]))) := by
  have hline : ∀ l ∈ lines, IsLine l := by
    intro l hl
    obtain ⟨m', number, time, since, _, rfl⟩ := hlines l hl
    exact isLine_json _
  obtain ⟨previous, hprevious, hall⟩ := ofLines_records hlines
  obtain ⟨since, hsince⟩ := sincePrevious_ok htime hprevious
  have hfree : w.readOnly.contains (World.nameOf ".pti_checkpoint.jsonl") = false := by simpa using hwritable
  refine ⟨since, ?_⟩
  rw [Measured.recorded, htext, recordLines_joinLines hline, hall, hfree]
  simp only [hsince, bind, Except.bind, pure, Except.pure, joinLines_concat, Bool.not_false, Bool.and_self, if_true]

/-! ## Rounds -/

section Rounds

variable {words : Wording}

/-- What a round needs to get past the coverage stage: a measurement that ended well, a report that can be loaded, clocks
that show numbers, and a checkpoint file that can be written. -/
structure World.Fit (w : World) : Prop where
  covered : ∃ printed complaints, w.coverage = .finished 0 printed complaints
  loads : ∃ report d totals, w.text? "_pti_coverage.json" = some report ∧ readDocument report = .ok d ∧
    Totals.ofReport d = .ok totals
  clocked : ∀ t ∈ w.time :: w.ticks, IsNumber t
  writable : World.nameOf ".pti_checkpoint.jsonl" ∉ w.readOnly

/-- What a round measures, if it gets that far. -/
def World.Measures (w : World) (m : Measured) : Prop :=
  ∃ report complaints, w.text? "_pti_coverage.json" = some report ∧ measure w report = .ok (m, complaints)

theorem elapsed_ok {w : World} (h : ∀ t ∈ w.ticks, IsNumber t) : ∃ d, w.elapsed = .ok d := by
  unfold World.elapsed
  split
  · rename_i before after rest heq
    rw [heq] at h
    exact difference_numbers (h after (by simp)) (h before (by simp))
  · exact ⟨_, rfl⟩

/-- **A round that is fit appends a line** to a file of records, and goes by the history of the file. -/
def Appends (words : Wording) (w : World) (before : List String) (line : String) : Prop :=
  ∃ (m : Measured) (since : Datum), w.Measures m ∧
    line = (m.record (before.length + 1) w.time since).json ∧
    m.recorded w = (before.length + 1, before.filterMap belowIn, some (joinLines (before ++ [line]))) ∧
    (run words w).printed = (m.print words w (before.length + 1) (before.filterMap belowIn)).1 ∧
    (run words w).checkpoint = some (joinLines (before ++ [line]))

theorem appends_of_fit (words : Wording) {w : World} (hw : w.Fit) {lines : List String}
    (hlines : ∀ l ∈ lines, IsRecord l) (htext : w.checkpoint.getD "" = joinLines lines) :
    ∃ line, IsRecord line ∧ Appends words w lines line := by
  obtain ⟨printed, complaints, hcovered⟩ := hw.covered
  obtain ⟨report, d, totals, hreport, hread, htotals⟩ := hw.loads
  obtain ⟨elapsed, helapsed⟩ := elapsed_ok fun t ht => hw.clocked t (List.mem_cons_of_mem _ ht)
  have htime : IsNumber w.time := hw.clocked w.time List.mem_cons_self
  have hmeasured : ∃ m more, measure w report = .ok (m, more) := by
    unfold measure
    rw [helapsed, hread]
    simp only [bind, Except.bind, htotals, pure, Except.pure]
    exact ⟨_, _, rfl⟩
  obtain ⟨m, more, hm⟩ := hmeasured
  obtain ⟨since, hsince⟩ := recorded_lines m hlines htext htime hw.writable
  refine ⟨_, ⟨m, _, w.time, since, htime, rfl⟩, m, since, ⟨report, more, hreport, hm⟩, rfl, hsince, ?_, ?_⟩
  · rw [run, hcovered]
    simp only [if_true, hreport, hm, hsince]
  · rw [run, hcovered]
    simp only [if_true, hreport, hm, hsince]

/-- A world with another checkpoint file. -/
def World.withCheckpoint (w : World) (text : Option String) : World :=
  let name := World.nameOf ".pti_checkpoint.jsonl"
  { w with files := (text.map fun t => (name, t)).toList ++ w.files.filter (·.1 != name) }

theorem lookup_filter_self (name : String) (files : List (String × String)) :
    (files.filter (·.1 != name)).lookup name = none := by
  rw [List.lookup_eq_none_iff]
  intro e he
  simpa using Ne.symm (bne_iff_ne.1 (List.mem_filter.1 he).2)

theorem checkpoint_withCheckpoint (w : World) (text : Option String) : (w.withCheckpoint text).checkpoint = text := by
  rw [World.checkpoint, World.text?, World.withCheckpoint, List.lookup_append, lookup_filter_self]
  cases text <;> simp

theorem lookup_filter_other {name other : String} (h : other ≠ name) : ∀ files : List (String × String),
    (files.filter (·.1 != name)).lookup other = files.lookup other
  | [] => rfl
  | (n, t) :: files => by
    by_cases hn : n = name
    · have hother : (other == n) = false := by simpa [hn] using h
      rw [List.filter_cons_of_neg (by simp [hn]), lookup_filter_other h files, List.lookup_cons, hother]
    · rw [List.filter_cons_of_pos (by simp [hn]), List.lookup_cons, List.lookup_cons, lookup_filter_other h files]

theorem text_withCheckpoint (w : World) (text : Option String) {name : String}
    (h : World.nameOf name ≠ World.nameOf ".pti_checkpoint.jsonl") :
    (w.withCheckpoint text).text? name = w.text? name := by
  have hname : (World.nameOf name == World.nameOf ".pti_checkpoint.jsonl") = false := by simpa using h
  rw [World.text?, World.withCheckpoint, List.lookup_append, lookup_filter_other h]
  cases text <;> simp [World.text?, hname]

/-- Whether a round is fit does not depend on its checkpoint file. -/
theorem World.Fit.withCheckpoint {w : World} (h : w.Fit) (text : Option String) : (w.withCheckpoint text).Fit where
  covered := h.covered
  loads := by
    rw [text_withCheckpoint w text (by decide)]
    exact h.loads
  clocked := h.clocked
  writable := h.writable

/-- The checkpoint file behind some rounds, each of which starts with the file of the round before it. -/
def afterRounds (words : Wording) (start : Option String) (ws : List World) : Option String :=
  ws.foldl (fun text w => (run words (w.withCheckpoint text)).checkpoint) start

theorem afterRounds_concat (start : Option String) (ws : List World) (w : World) :
    afterRounds words start (ws ++ [w]) = (run words (w.withCheckpoint (afterRounds words start ws))).checkpoint := by
  rw [afterRounds, List.foldl_append]
  rfl

/-- What has been reached behind some rounds: the file holds a line per round, and each round has appended its line. -/
structure Logged (words : Wording) (start : Option String) (ws : List World) (lines : List String) : Prop where
  length : lines.length = ws.length
  records : ∀ l ∈ lines, IsRecord l
  text : (afterRounds words start ws).getD "" = joinLines lines
  rounds : ∀ (i : Nat) (w : World) (line : String), ws[i]? = some w → lines[i]? = some line →
    Appends words (w.withCheckpoint (afterRounds words start (ws.take i))) (lines.take i) line

theorem logged_nil {start : Option String} (h : start = none ∨ start = some "") : Logged words start [] [] where
  length := rfl
  records := by simp
  text := by rcases h with rfl | rfl <;> rfl
  rounds := by simp

/-- One more round. -/
theorem Logged.concat {start : Option String} {ws : List World} {lines : List String}
    (h : Logged words start ws lines) {w : World} (hw : w.Fit) :
    ∃ line, Logged words start (ws ++ [w]) (lines ++ [line]) := by
  have htext : (w.withCheckpoint (afterRounds words start ws)).checkpoint.getD "" = joinLines lines := by
    rw [checkpoint_withCheckpoint]
    exact h.text
  obtain ⟨line, hrecord, happends⟩ :=
    appends_of_fit words (hw.withCheckpoint (afterRounds words start ws)) h.records htext
  refine ⟨line, ⟨by simp [h.length], ?_, ?_, ?_⟩⟩
  · intro l hl
    rcases List.mem_append.1 hl with hl | hl
    · exact h.records l hl
    · rwa [List.mem_singleton.1 hl]
  · obtain ⟨_, _, _, _, _, _, hcheckpoint⟩ := happends
    rw [afterRounds_concat, hcheckpoint]
    rfl
  · intro i v l hv hl
    by_cases hi : i < ws.length
    · -- an earlier round: neither its world nor the lines before it have changed
      have hi' : i < lines.length := by rw [h.length]; exact hi
      rw [List.getElem?_append_left hi] at hv
      rw [List.getElem?_append_left hi'] at hl
      rw [List.take_append_of_le_length (Nat.le_of_lt hi), List.take_append_of_le_length (Nat.le_of_lt hi')]
      exact h.rounds i v l hv hl
    · have hlast : i = ws.length := by
        have hlt := (List.getElem?_eq_some_iff.1 hv).1
        rw [List.length_append, List.length_singleton] at hlt
        omega
      have hlast' : i = lines.length := by rw [h.length, hlast]
      have hvw : v = w := by simpa [hlast] using hv.symm
      have hll : l = line := by simpa [hlast'] using hl.symm
      rw [hvw, hll, List.take_left' hlast.symm, List.take_left' hlast'.symm]
      exact happends

/-- Rounds that are fit, of any number. -/
theorem exists_logged (words : Wording) {start : Option String} (h : start = none ∨ start = some "") (ws : List World)
    (hws : ∀ w ∈ ws, w.Fit) : ∃ lines, Logged words start ws lines := by
  induction ws using List.reverseRecOn with
  | nil => exact ⟨[], logged_nil h⟩
  | append_singleton ws w ih =>
    obtain ⟨lines, hlines⟩ := ih fun v hv => hws v (by simp [hv])
    obtain ⟨line, hline⟩ := hlines.concat (hws w (by simp))
    exact ⟨lines ++ [line], hline⟩

end Rounds

/-- **The checkpoint file over rounds of any number.** Where the file starts absent or empty and every round gets past the
coverage stage, the file holds exactly one line per round. The line of each round has its number, and the history that
the round goes by is the list of the counts in the lines before it, those without a count left out. -/
theorem checkpoint_history (words : Wording) (start : Option String) (hstart : start = none ∨ start = some "")
    (ws : List World) (hws : ∀ w ∈ ws, w.Fit) :
    ∃ lines : List String, lines.length = ws.length ∧ (∀ l ∈ lines, '\n' ∉ l.toList) ∧
      (afterRounds words start ws).getD "" = joinLines lines ∧
      ∀ (i : Nat) (w : World) (line : String), ws[i]? = some w → lines[i]? = some line →
        wholeIn "round" line = some (i + 1 : Int) ∧
        Appends words (w.withCheckpoint (afterRounds words start (ws.take i))) (lines.take i) line := by
  obtain ⟨lines, h⟩ := exists_logged words hstart ws hws
  refine ⟨lines, h.length, fun l hl => ?_, h.text, fun i w line hw hline => ?_⟩
  · obtain ⟨m, number, time, since, _, rfl⟩ := h.records l hl
    exact (isLine_json _).1
  · have hi : i < lines.length := (List.getElem?_eq_some_iff.1 hline).1
    have happends := h.rounds i w line hw hline
    obtain ⟨m, since, _, hrecord, _⟩ := happends
    refine ⟨?_, h.rounds i w line hw hline⟩
    rw [hrecord, wholeIn_round, List.length_take, Nat.min_eq_left (Nat.le_of_lt hi)]
    rfl

/-- A round with an empty coverage report, at a time and with what the time program printed. -/
def plainRound (time : Datum) (printed : Option String) : World where
  files := [("/repo/_pti_coverage.json", (Datum.dict []).json), ("/repo/_pti_repotime.py", "")]
  readOnly := []
  ticks := [.whole 1, .real 2.5]
  time := time
  coverage := .finished 0 none ""
  timeShares := .finished 0 printed ""
  selfCheck := .finished 0 none ""
  versionControl := .finished 0 none ""

theorem fit_plainRound {time : Datum} (h : IsNumber time) (printed : Option String) :
    (plainRound time printed).Fit where
  covered := ⟨none, "", rfl⟩
  loads := ⟨(Datum.dict []).json, _, _, rfl, readDocument_json _, rfl⟩
  clocked := by
    intro t ht
    simp only [plainRound, List.mem_cons, List.not_mem_nil, or_false] at ht
    rcases ht with rfl | rfl | rfl
    · exact h
    · rfl
    · rfl
  writable := List.not_mem_nil

/-- Three rounds: one with a bench below the limit, one whose time program failed, and one with none below the limit. -/
def threeRounds : List World :=
  [plainRound (.whole 100) (some "\x7b\"repo_time_pct\": \x7b\"bench_a\": 20\x7d\x7d"), plainRound (.real 160.5) none,
    plainRound (.whole 230) (some "\x7b\"repo_time_pct\": \x7b\"bench_a\": 60\x7d\x7d")]

theorem checkpoint_history_threeRounds :
    (∀ w ∈ threeRounds, w.Fit) ∧ ∃ lines : List String, lines.length = 3 ∧ (∀ l ∈ lines, '\n' ∉ l.toList) ∧
      (afterRounds .plain none threeRounds).getD "" = joinLines lines ∧
      ∀ (i : Nat) (w : World) (line : String), threeRounds[i]? = some w → lines[i]? = some line →
        wholeIn "round" line = some (i + 1 : Int) ∧
        Appends .plain (w.withCheckpoint (afterRounds .plain none (threeRounds.take i))) (lines.take i) line := by
  have hfit : ∀ w ∈ threeRounds, w.Fit := by
    intro w hw
    simp only [threeRounds, List.mem_cons, List.not_mem_nil, or_false] at hw
    rcases hw with rfl | rfl | rfl
    · exact fit_plainRound (by rfl) _
    · exact fit_plainRound (by rfl) _
    · exact fit_plainRound (by rfl) _
  exact ⟨hfit, checkpoint_history .plain none (.inl rfl) threeRounds hfit⟩

end FormulaSql.Bench.Round
