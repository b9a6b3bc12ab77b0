import Mathlib.Data.List.Nodup
import Mathlib.Data.List.TakeWhile
import FormulaSql.Bench.Round.Report
import FormulaSql.Proofs.Bench.Rows

/-!
# Good verdicts are earned

The self check prints a report on a suite, and a measuring round reads the last line of it and judges the rows. Main
statement: a bench of the suite gets a good verdict only if every run of it gave a value, its result is something, the two
runs without parameters have one fingerprint and no parameter value has it; the best verdict takes two sets of parameters
with different tags and different results besides (`verdict_earned`). This holds however values, sets of parameters and
profiles are read, and whatever fails on the way.

The proof goes backwards from the verdict: a good verdict is the verdict on a row of the signal (`row_of_verdict`), the
row is what was written for a bench (`bench_of_row`), what passes each test of the judgement shows in the row
(`judge_good`, `judgeResults_good`), and an abandoned row has a type that is tested before any of them
(`sound_of_judge`).
-/

namespace FormulaSql.Bench.Round

open Datum

/-! ## Rows that pass -/

/-- What a row has to show for a good verdict on its results, and what more for the best one. -/
theorem judgeResults_good {row : Datum} {type : String} {share time : Option Float} {inputs : List Datum} {v : Verdict}
    (h : judgeResults row type share time inputs = .ok v) (hv : v.isGood) :
    type ≠ "NoneType" ∧
    (∃ stable ds, listOf row "fp_stable" = .ok stable ∧ distinct stable = .ok ds ∧ ds.length = 1 ∧
      (stable.head?.any fun d => inputs.any (Datum.agrees · d)) = false) ∧
    (v = .ok → ∃ results es ds, Document.sectionOf row "fp_by_param" = .ok results ∧
      Document.entries results "values" = .ok es ∧ distinct (es.map (·.2)) = .ok ds ∧ 2 ≤ ds.length) := by
  have bad {u : Verdict} (hu : u.isGood = false) (heq : (pure u : Except Raised Verdict) = .ok v) : False := by
    cases heq
    rw [hu] at hv
    cases hv
  unfold judgeResults at h
  split at h
  · exact (bad rfl h).elim
  rename_i htype
  obtain ⟨stable, hstable, h⟩ := bind_ok h
  obtain ⟨ds, hds, h⟩ := bind_ok h
  split at h
  · exact (bad rfl h).elim
  rename_i hlen
  split at h
  · exact (bad rfl h).elim
  rename_i hinput
  refine ⟨htype, ⟨stable, ds, hstable, hds, by simpa using hlen, by simpa using hinput⟩, ?_⟩
  rintro rfl
  split at h
  · cases h
  split at h
  · cases h
  obtain ⟨results, hresults, h⟩ := bind_ok h
  obtain ⟨es, hes, h⟩ := bind_ok h
  dsimp only at h
  split at h
  · cases h
  obtain ⟨ds', hds', h⟩ := bind_ok h
  split at h
  · cases h
  rename_i hmany
  exact ⟨results, es, ds', hresults, hes, hds', by omega⟩

/-- A row gets a good verdict only if its type does not tell of a failure. -/
theorem judge_good {modified : Bool} {row : Datum} {j : Judged} (h : judge modified row = .ok j)
    (hgood : j.verdict.isGood) :
    ∃ d prints inputs share time, Document.get row "ret_type" .null = .ok d ∧ isFailure (typeText d) = false ∧
      listOf row "param_fps" = .ok prints ∧ distinct prints = .ok inputs ∧
      judgeResults row (typeText d) share time inputs = .ok j.verdict := by
  unfold judge at h
  obtain ⟨d, hd, h⟩ := bind_ok h
  obtain ⟨shares, _, h⟩ := bind_ok h
  obtain ⟨times, _, h⟩ := bind_ok h
  obtain ⟨_, _, h⟩ := bind_ok h
  obtain ⟨prints, hprints, h⟩ := bind_ok h
  obtain ⟨inputs, hinputs, h⟩ := bind_ok h
  obtain ⟨v, hv, h⟩ := bind_ok h
  cases h
  unfold verdictOn at hv
  split at hv
  · cases hv
    cases hgood
  split at hv
  · cases hv
    cases hgood
  rename_i hfailure
  exact ⟨d, prints, inputs, _, _, hd, by simpa using hfailure, hprints, hinputs, hv⟩

/-- An angle bracket in front tells of a failure. -/
theorem isFailure_angle (s : String) : isFailure (typeText (text ("<" ++ s))) = true := by
  have hangle : ("<" ++ s).startsWith "<" = true := by
    rw [String.startsWith_string_iff, String.toList_append]
    exact List.prefix_append _ _
  rw [typeText]
  split
  · rw [isFailure, spell, hangle, Bool.true_or]
  · rw [isFailure, beq_self_eq_true, Bool.or_true]

/-! ## Values that are told apart -/

theorem agrees_text (s t : String) : (text s).agrees (text t) = (s == t) :=
  rfl

/-- Texts can always be told apart. -/
theorem distinct_texts (ss : List String) : distinct (ss.map text) =
    .ok ((ss.map text).foldl (fun seen d => if seen.any (Datum.agrees · d) then seen else seen ++ [d]) []) := by
  have hplain : ((ss.map text).find? fun d => !Document.isKey d) = none := by
    rw [List.find?_eq_none]
    intro d hd
    obtain ⟨s, _, rfl⟩ := List.mem_map.1 hd
    simp [Document.isKey, kind]
  rw [distinct, hplain]

/-- Of texts, each one is among the different ones. -/
theorem mem_of_distinct {ss : List String} {es : List Datum} (h : distinct (ss.map text) = .ok es) {s : String}
    (hs : s ∈ ss) : text s ∈ es := by
  -- what is among those seen stays there, and a text that counts as seen is there itself
  have keeps (ss : List String) : ∀ seen : List Datum, (∀ d ∈ seen, ∃ t, d = text t) → (text s ∈ seen ∨ s ∈ ss) →
      text s ∈ (ss.map text).foldl (fun seen d => if seen.any (Datum.agrees · d) then seen else seen ++ [d]) seen := by
    induction ss with
    | nil =>
      intro seen _ hs
      exact hs.resolve_right List.not_mem_nil
    | cons t ss ih =>
      intro seen hseen hs
      rw [List.map_cons, List.foldl_cons]
      by_cases hany : seen.any (Datum.agrees · (text t)) = true
      · rw [if_pos hany]
        refine ih seen hseen ?_
        rcases hs with hs | hs
        · exact .inl hs
        · rcases List.mem_cons.1 hs with rfl | hs
          · obtain ⟨d, hd, hagrees⟩ := List.any_eq_true.1 hany
            obtain ⟨u, rfl⟩ := hseen d hd
            rw [agrees_text, beq_iff_eq] at hagrees
            exact .inl (hagrees ▸ hd)
          · exact .inr hs
      · rw [if_neg hany]
        refine ih (seen ++ [text t]) ?_ ?_
        · intro d hd
          rcases List.mem_append.1 hd with hd | hd
          · exact hseen d hd
          · exact ⟨t, List.mem_singleton.1 hd⟩
        · rcases hs with hs | hs
          · exact .inl (List.mem_append_left _ hs)
          · rcases List.mem_cons.1 hs with rfl | hs
            · exact .inl (List.mem_append_right _ List.mem_cons_self)
            · exact .inr hs
  rw [distinct_texts] at h
  rw [← Except.ok.inj h]
  exact keeps ss [] (by simp) (.inr hs)

/-- Two texts count as one only if they are equal. -/
theorem eq_of_distinct_pair {s t : String} {ds : List Datum} (h : distinct [text s, text t] = .ok ds)
    (hlen : ds.length = 1) :
    s = t := by
  rw [show [text s, text t] = [s, t].map text from rfl, distinct_texts] at h
  by_cases hne : s = t
  · exact hne
  · have hbeq : (s == t) = false := beq_eq_false_iff_ne.2 hne
    simp [agrees_text, hbeq] at h
    rw [← h] at hlen
    cases hlen

/-- Values that are all the same text count as one at most. -/
theorem distinct_same {s : String} {ds es : List Datum} (hds : ∀ d ∈ ds, d = text s) (h : distinct ds = .ok es) :
    es.length ≤ 1 := by
  have hall : ds = (List.replicate ds.length s).map text := by
    rw [List.map_replicate]
    exact List.eq_replicate_iff.2 ⟨rfl, hds⟩
  have stays (n : Nat) : (List.replicate n (text s)).foldl
      (fun seen d => if seen.any (Datum.agrees · d) then seen else seen ++ [d]) [text s] = [text s] := by
    induction n with
    | zero => rfl
    | succ n ih => simpa [List.replicate_succ, agrees_text] using ih
  rw [hall, distinct_texts, List.map_replicate] at h
  cases ds with
  | nil =>
    cases h
    exact Nat.zero_le 1
  | cons d ds =>
    have hds := stays ds.length
    rw [List.length_cons, List.replicate_succ, List.foldl_cons] at h
    rw [← Except.ok.inj h]
    exact Nat.le_of_eq (congrArg List.length hds)

/-- Texts of which two are told apart differ. -/
theorem exists_apart {ds es : List Datum} (hds : ∀ d ∈ ds, ∃ s, d = text s) (h : distinct ds = .ok es)
    (hlen : 2 ≤ es.length) :
    ∃ s t, text s ∈ ds ∧ text t ∈ ds ∧ s ≠ t := by
  cases ds with
  | nil =>
    cases h
    cases hlen
  | cons d ds =>
    obtain ⟨s, rfl⟩ := hds d List.mem_cons_self
    by_cases hsame : ∀ e ∈ text s :: ds, e = text s
    · have := distinct_same hsame h
      omega
    · obtain ⟨e, he⟩ := Classical.not_forall.1 hsame
      obtain ⟨hmem, hne⟩ := Classical.not_imp.1 he
      obtain ⟨t, rfl⟩ := hds e hmem
      exact ⟨s, t, List.mem_cons_self, hmem, fun heq => hne (by rw [heq])⟩

/-! ## From rows to benches -/

/-- What a bench has to do for a good verdict: every run gives a value that has a fingerprint, the first one not nothing;
the two runs without parameters have one fingerprint, and every parameter value has another one. -/
def Sound (rd : SelfCheck.Reading) (b : Trial) : Prop :=
  ∃ v w print, b.call 0 [] = .value v ∧ b.call 1 [] = .value w ∧ v ≠ .null ∧
    rd.print v = .ok print ∧ rd.print w = .ok print ∧
    (∀ (i : Nat) (p : Params), b.params[i]? = some p → ∃ u s, b.call (i + 2) p = .value u ∧ rd.print u = .ok s) ∧
    ∀ p ∈ b.params, ∀ e ∈ p, ∃ s, rd.print (Value.ofDatum e.2) = .ok s ∧ s ≠ print

/-- What a bench has to do for the best verdict besides: two sets of parameters with different tags lead to results with
different fingerprints. -/
def Sensitive (rd : SelfCheck.Reading) (b : Trial) : Prop :=
  ∃ (i j : Nat) (p q : Params) (t t' : String) (u v : Value) (s s' : String), b.params[i]? = some p ∧
    b.params[j]? = some q ∧ rd.tag p = .ok t ∧ rd.tag q = .ok t' ∧ t ≠ t' ∧ b.call (i + 2) p = .value u ∧
    b.call (j + 2) q = .value v ∧ rd.print u = .ok s ∧ rd.print v = .ok s' ∧ s ≠ s'

section Rows

variable {rd : SelfCheck.Reading} {b : Trial}

theorem listOf_list {row : Datum} {key : String} {ds : List Datum} (h : Document.get row key .null = .ok (.list ds)) :
    listOf row key = .ok ds := by
  unfold listOf
  rw [h]
  cases ds <;> rfl

/-- The entries of a part of a document that is a dictionary; an empty part counts as absent, which changes nothing. -/
theorem entries_of_section {d part : Datum} {key member : String} {es rows : List (String × Datum)}
    (hget : Document.get d key .null = .ok (.dict es)) (hpart : Document.sectionOf d key = .ok part)
    (hrows : Document.entries part member = .ok rows) : rows = es := by
  rw [Document.sectionOf, hget] at hpart
  cases es with
  | nil =>
    cases hpart
    cases hrows
    rfl
  | cons e es =>
    cases hpart
    cases hrows
    rfl

/-- Fingerprints that are told apart belong to sets of parameters with different tags. -/
theorem sensitive_of_complete {v w : Value} {first second : String} {r : SelfCheck.Row}
    (h : SelfCheck.Complete rd b v w first second r) {ds : List Datum}
    (hds : distinct (r.byParams.map (·.2)) = .ok ds) (hlen : 2 ≤ ds.length) : Sensitive rd b := by
  have htexts : ∀ d ∈ r.byParams.map (·.2), ∃ s, d = text s := by
    intro d hd
    obtain ⟨e, he, rfl⟩ := List.mem_map.1 hd
    obtain ⟨_, _, _, print, _, _, heq⟩ := h.byParams e he
    exact ⟨print, by rw [heq]⟩
  obtain ⟨s, s', hs, hs', hne⟩ := exists_apart htexts hds hlen
  obtain ⟨e, he, hes⟩ := List.mem_map.1 hs
  obtain ⟨f, hf, hfs⟩ := List.mem_map.1 hs'
  obtain ⟨i, p, t, x, hp, hx, rfl⟩ := h.byParams e he
  obtain ⟨j, q, t', y, hq, hy, rfl⟩ := h.byParams f hf
  obtain rfl : x = s := text.inj hes
  obtain rfl : y = s' := text.inj hfs
  obtain ⟨ht, u, hu, hprint⟩ := SelfCheck.runWith_ok hx
  obtain ⟨ht', u', hu', hprint'⟩ := SelfCheck.runWith_ok hy
  refine ⟨i, j, p, q, t, t', u, u', x, y, hp, hq, ht, ht', ?_, hu, hu', hprint, hprint', hne⟩
  -- a tag is a key, and a key has one value
  rintro rfl
  have heq : (t, text x) = (t, text y) := List.inj_on_of_nodup_map h.keys he hf rfl
  exact hne (text.inj (Prod.mk.inj heq).2)

/-- **A row that passes is the row of a sound bench.** -/
theorem sound_of_judge {workloads : String} {modified : Bool} {j : Judged}
    (h : judge modified (SelfCheck.check rd workloads false b).datum.reread = .ok j) (hgood : j.verdict.isGood) :
    Sound rd b ∧ (j.verdict = .ok → Sensitive rd b) := by
  obtain ⟨d, prints, inputs, share, time, htype, hfailure, hprints, hinputs, hresults⟩ := judge_good h hgood
  obtain ⟨es, hes, hret, hstable, hby, hfps⟩ := SelfCheck.reread_datum (SelfCheck.check rd workloads false b)
  obtain ⟨hnone, ⟨stable, ds, hs, hds, hlen, hinput⟩, hbest⟩ := judgeResults_good hresults hgood
  have hget {key : String} {d : Datum} (hd : es.lookup key = some d) :
      Document.get (SelfCheck.check rd workloads false b).datum.reread key .null = .ok d := by
    rw [hes, Document.get, hd]
    rfl
  rw [hget hret] at htype
  cases htype
  rw [listOf_list (hget hstable)] at hs
  cases hs
  rw [listOf_list (hget hfps)] at hprints
  cases hprints
  rcases SelfCheck.check_cases rd workloads b with ⟨s, hs⟩ | ⟨v, w, first, second, hc⟩
  · -- the type of an abandoned row starts with an angle bracket
    rw [hs] at hfailure
    cases (isFailure_angle s).symm.trans hfailure
  · rw [hc.stable] at hds hinput
    rw [hc.resultType] at hnone
    rw [hc.reread_byParams] at hby
    obtain rfl : first = second := eq_of_distinct_pair hds hlen
    have hfresh : ∀ s ∈ (SelfCheck.check rd workloads false b).paramPrints, s ≠ first := by
      rintro s hs rfl
      have hany : inputs.any (Datum.agrees · (text s)) = true :=
        List.any_eq_true.2 ⟨text s, mem_of_distinct hinputs hs, by rw [agrees_text, beq_self_eq_true]⟩
      exact Bool.noConfusion (hinput.symm.trans hany)
    refine ⟨⟨v, w, first, hc.firstCall, hc.secondCall, ?_, hc.firstPrint, hc.secondPrint, ?_, ?_⟩, ?_⟩
    · rintro rfl
      exact hnone rfl
    · intro i p hp
      obtain ⟨_, print, _, hrun, _⟩ := hc.ran i p hp
      obtain ⟨_, u, hu, hprint⟩ := SelfCheck.runWith_ok hrun
      exact ⟨u, print, hu, hprint⟩
    · intro p hp e he
      obtain ⟨i, hi⟩ := List.mem_iff_getElem?.1 hp
      obtain ⟨_, _, values, _, hvalues, hsub⟩ := hc.ran i p hi
      obtain ⟨s, hs, hprint⟩ := exists_of_mapM hvalues he
      exact ⟨s, hprint, hfresh s (hsub hs)⟩
    · intro hok
      obtain ⟨results, rs, ds', hresults', hrs, hds', hlen'⟩ := hbest hok
      rw [entries_of_section (hget hby) hresults' hrs] at hds'
      exact sensitive_of_complete hc hds' hlen'

end Rows

/-! ## From the printed report to the rows -/

theorem not_isLineEnd {c : Char} (h : Printable c) : isLineEnd c = false := by
  cases hc : isLineEnd c with
  | false => rfl
  | true =>
    simp only [isLineEnd, List.contains_iff_mem, List.mem_cons, List.not_mem_nil, or_false] at hc
    rcases hc with rfl | rfl | rfl | rfl | rfl | rfl | rfl | rfl | rfl | rfl <;> exact absurd h (by decide)

/-- The signal of a program that prints one dictionary is that dictionary. -/
theorem signalText_dict (es : List (String × Datum)) :
    signalText ((Datum.dict es).json ++ "\n") = (Datum.dict es).json := by
  have hclean := clean_chars (.dict es)
  have hlast : (chars (.dict es)).reverse = '\x7d' :: (entryChars es).reverse ++ ['\x7b'] := by
    rw [chars]
    simp
  have hend : dropLineEnd ('\n' :: (chars (.dict es)).reverse) = (chars (.dict es)).reverse := by
    rw [hlast]
    rfl
  have hline : (chars (.dict es)).reverse.takeWhile (fun c => !isLineEnd c) = (chars (.dict es)).reverse := by
    rw [List.takeWhile_eq_self_iff]
    intro c hc
    rw [not_isLineEnd (hclean c (List.mem_reverse.1 hc)), Bool.not_false]
  have hlastLine : lastLine ((Datum.dict es).json ++ "\n") = (Datum.dict es).json := by
    rw [lastLine, String.toList_append, toList_json, List.reverse_append]
    change String.ofList ((dropLineEnd ('\n' :: (chars (.dict es)).reverse)).takeWhile _).reverse = _
    rw [hend, hline, List.reverse_reverse, ← toList_json, String.ofList_toList]
  have hsome : (Datum.dict es).json.isEmpty = false := by
    rw [← Bool.not_eq_true, String.isEmpty_iff, ← String.toList_inj, toList_json, chars]
    simp
  rw [signalText, hlastLine]
  simp [hsome]

section Signals

variable {modified : Bool}

/-- The rows of a table, those entries that are dictionaries. -/
def rowsIn (entries : List (String × Datum)) : List (String × Datum) :=
  entries.filter fun e => e.2.kind = .dict

/-- The verdicts are those on the rows of some entries, one after the other. -/
def Judges (modified : Bool) (entries : List (String × Datum)) (judged : List (String × Judged)) : Prop :=
  (rowsIn entries).map (fun e => (e.1, judge modified e.2)) = judged.map fun k => (k.1, .ok k.2)

theorem Judges.cons {entries : List (String × Datum)} {judged : List (String × Judged)} {name : String} {row : Datum}
    {j : Judged} (h : Judges modified entries judged) (hkind : row.kind = .dict) (hj : judge modified row = .ok j) :
    Judges modified ((name, row) :: entries) ((name, j) :: judged) := by
  rw [Judges, rowsIn, List.filter_cons_of_pos (by simpa using hkind), List.map_cons, List.map_cons, hj]
  exact congrArg _ h

theorem Judges.skip {entries : List (String × Datum)} {judged : List (String × Judged)} {name : String} {row : Datum}
    (h : Judges modified entries judged) (hkind : row.kind ≠ .dict) :
    Judges modified ((name, row) :: entries) judged := by
  rw [Judges, rowsIn, List.filter_cons_of_neg (by simpa using hkind)]
  exact h

/-- **Rows are judged one by one**: all of them, or those before the first one that cannot be judged. -/
theorem judgeRows_cases (modified : Bool) : ∀ entries : List (String × Datum),
    ((judgeRows modified entries).2 = none ∧ Judges modified entries (judgeRows modified entries).1) ∨
    ∃ before name row after r, entries = before ++ (name, row) :: after ∧ row.kind = .dict ∧
      judge modified row = .error r ∧ (judgeRows modified entries).2 = some r ∧
      Judges modified before (judgeRows modified entries).1
  | [] => .inl ⟨rfl, rfl⟩
  | (name, row) :: entries => by
    rw [judgeRows]
    by_cases hkind : row.kind = .dict
    · rw [if_neg (not_not_intro hkind)]
      cases hj : judge modified row with
      | error r => exact .inr ⟨[], name, row, entries, r, rfl, hkind, hj, rfl, rfl⟩
      | ok j =>
        rcases judgeRows_cases modified entries with ⟨hnone, hall⟩ | ⟨before, n, e, after, r, heq, hrow, he, hr, hbefore⟩
        · exact .inl ⟨hnone, hall.cons hkind hj⟩
        · exact .inr ⟨(name, row) :: before, n, e, after, r, by rw [heq]; rfl, hrow, he, hr, hbefore.cons hkind hj⟩
    · rw [if_pos hkind]
      rcases judgeRows_cases modified entries with ⟨hnone, hall⟩ | ⟨before, n, e, after, r, heq, hrow, he, hr, hbefore⟩
      · exact .inl ⟨hnone, hall.skip hkind⟩
      · exact .inr ⟨(name, row) :: before, n, e, after, r, by rw [heq]; rfl, hrow, he, hr, hbefore.skip hkind⟩

theorem Judges.exists_row {entries : List (String × Datum)} {judged : List (String × Judged)} {k : String × Judged}
    (h : Judges modified entries judged) (hk : k ∈ judged) :
    ∃ row, (k.1, row) ∈ entries ∧ judge modified row = .ok k.2 := by
  have hmem : (k.1, Except.ok k.2) ∈ (rowsIn entries).map fun e => (e.1, judge modified e.2) := by
    rw [h]
    exact List.mem_map.2 ⟨k, hk, rfl⟩
  obtain ⟨e, he, heq⟩ := List.mem_map.1 hmem
  obtain ⟨hname, hj⟩ := Prod.mk.inj heq
  refine ⟨e.2, ?_, hj⟩
  rw [← hname]
  exact (List.mem_filter.1 he).1

/-- A verdict is the verdict on a row of the signal. -/
theorem row_of_verdict {line : String} {k : String × Judged} (hk : k ∈ (verdicts modified line).1) :
    ∃ rows row, (readDocument line >>= rowsOf) = .ok rows ∧ (k.1, row) ∈ rows ∧ judge modified row = .ok k.2 := by
  unfold verdicts at hk
  split at hk
  · cases hk
  · rename_i rows hrows
    rcases judgeRows_cases modified rows with ⟨_, hall⟩ | ⟨before, _, _, after, _, heq, _, _, _, hbefore⟩
    · obtain ⟨row, hrow, hj⟩ := hall.exists_row hk
      exact ⟨rows, row, hrows, hrow, hj⟩
    · obtain ⟨row, hrow, hj⟩ := hbefore.exists_row hk
      exact ⟨rows, row, hrows, by rw [heq]; exact List.mem_append_left _ hrow, hj⟩

/-- The signal of a program that is installed and has run. -/
theorem signal_finished {α : Type} {installed : Bool} {ended : Ended} {code : Int} {printed : Option String}
    {complaints : String} (hinstalled : installed) (hended : ended = .finished code printed complaints)
    (program : String) (default : α) (read : String → α × Option Raised) :
    signal installed program ended default read = ((read (signalText (printed.getD ""))).1,
      complaints ++ ((read (signalText (printed.getD ""))).2.map (complaint program)).getD "") := by
  unfold signal
  simp only [hinstalled, hended, Bool.not_true, Bool.false_eq_true, if_false]

/-- The verdicts of a round come from the last line that the self check printed. -/
theorem verdicts_of_selfChecked {w : World} {code : Int} {printed complaints : String}
    (hw : w.selfCheck = .finished code (some printed) complaints) {k : String × Judged} (hk : k ∈ (selfChecked w).1) :
    k ∈ (verdicts (isModified w.versionControl) (signalText printed)).1 := by
  unfold selfChecked at hk
  cases hinstalled : w.holds "_pti_semcheck.py" with
  | false =>
    rw [hinstalled] at hk
    cases hk
  | true =>
    rw [signal_finished hinstalled hw, Option.getD_some] at hk
    dsimp only at hk
    exact hk

/-- A row in the report of a suite is the row of one of its benches. -/
theorem bench_of_row {rd : SelfCheck.Reading} {s : Suite} {name : String} {row : Datum} {rows : List (String × Datum)}
    (hrows : (readDocument (signalText (SelfCheck.report rd s false).1) >>= rowsOf) = .ok rows)
    (hrow : (name, row) ∈ rows) :
    ∃ b ∈ s.benches, b.name = name ∧ row = (SelfCheck.check rd s.file false b).datum.reread := by
  obtain ⟨d, hd, hrowsOf⟩ := bind_ok hrows
  obtain ⟨part, hpart, hentries⟩ := bind_ok hrowsOf
  unfold SelfCheck.report at hd
  split at hd
  · -- a suite that cannot be loaded has no rows
    rw [signalText_dict, readDocument_json, reread_dict (by simp)] at hd
    cases hd
    cases hpart
    cases hentries
    cases hrow
  · rw [signalText_dict, readDocument_json, reread_dict (by simp)] at hd
    cases hd
    have hget : Document.get (.dict ([("semcheck", Datum.dict ((SelfCheck.rows rd s false).map
        fun row => (row.1, row.2.datum)))].map fun e => (e.1, e.2.reread))) "semcheck" .null = .ok (.dict _) := rfl
    rw [entries_of_section hget hpart hentries] at hrow
    obtain ⟨⟨n, d⟩, hmem, heq⟩ := exists_of_reread_dict rfl hrow
    obtain ⟨⟨n', r⟩, hr, hnr⟩ := List.mem_map.1 hmem
    obtain ⟨b, hb, hbr⟩ := List.mem_map.1 hr
    cases hnr
    cases hbr
    cases heq
    refine ⟨b, ?_, rfl, rfl⟩
    exact (List.mem_filter.1 (List.mem_mergeSort.1 hb)).1

end Signals

/-! ## A bench alone in its suite -/

section Single

variable {rd : SelfCheck.Reading} {file : String} {b : Trial}

theorem rows_single (hname : b.name.startsWith "bench_") :
    SelfCheck.rows rd ⟨file, [b], none⟩ false = [(b.name, SelfCheck.check rd file false b)] := by
  have hfilter : [b].filter (·.name.startsWith "bench_") = [b] := List.filter_cons_of_pos hname
  rw [SelfCheck.rows, Suite.inOrder, hfilter, List.mergeSort_singleton, List.map_singleton]

/-- The verdict on the only row of a report. -/
theorem verdicts_single {name : String} {r : SelfCheck.Row} {j : Judged} (hj : judge false r.datum.reread = .ok j) :
    verdicts false (Datum.dict [("semcheck", .dict [(name, r.datum)])]).json = ([(name, j)], none) := by
  obtain ⟨es, hes, _⟩ := SelfCheck.reread_datum r
  have hread : reread (.dict [("semcheck", .dict [(name, r.datum)])]) =
      .dict [("semcheck", .dict [(name, r.datum.reread)])] := by
    simp [reread, rereadEntries, put]
  have hrows : (readDocument (Datum.dict [("semcheck", .dict [(name, r.datum)])]).json >>= rowsOf) =
      .ok [(name, r.datum.reread)] := by
    rw [readDocument_json, hread]
    rfl
  rw [verdicts, hrows]
  simp only [judgeRows, hj]
  rw [hes]
  rfl

/-- The verdict of a round on a bench that is alone in its suite. -/
theorem selfChecked_single {w : World} {j : Judged} {code : Int} {complaints : String}
    (hname : b.name.startsWith "bench_") (hinstalled : w.holds "_pti_semcheck.py")
    (hstatus : isModified w.versionControl = false)
    (hw : w.selfCheck = .finished code (some (SelfCheck.report rd ⟨file, [b], none⟩ false).1) complaints)
    (hj : judge false (SelfCheck.check rd file false b).datum.reread = .ok j) : (selfChecked w).1 = [(b.name, j)] := by
  have hreport : (SelfCheck.report rd ⟨file, [b], none⟩ false).1 =
      (Datum.dict [("semcheck", .dict [(b.name, (SelfCheck.check rd file false b).datum)])]).json ++ "\n" := by
    rw [SelfCheck.report, rows_single hname]
    rfl
  rw [selfChecked, signal_finished hinstalled hw, hstatus, hreport, Option.getD_some, signalText_dict, verdicts_single hj]

end Single

/-- A bench that gives one twice, and another number for each of its two sets of parameters. -/
def steadyBench : Trial where
  name := "bench_a"
  behaviour := .returns [.value (.whole 1), .value (.whole 1), .value (.whole 5), .value (.whole 6)]
  params := [[("n", .whole 3)], [("n", .whole 4)]]
  profiles := [⟨[⟨"/repo/a.py", 0.5, "f"⟩], 0.5⟩]

/-- A round that runs the self check on a suite of that bench alone. -/
def steadyRound : World where
  files := [("/repo/_pti_semcheck.py", "")]
  readOnly := []
  ticks := []
  time := .whole 0
  coverage := .finished 0 none ""
  timeShares := .finished 0 none ""
  selfCheck := .finished 0 (some (SelfCheck.report .plain ⟨"/repo/microbench.py", [steadyBench], none⟩ false).1) ""
  versionControl := .finished 0 none ""

/-- The row of that bench as it is read back. -/
def steadyRow : Datum :=
  (SelfCheck.check .plain "/repo/microbench.py" false steadyBench).datum.reread

theorem judge_steadyRow : ∃ j, judge false steadyRow = .ok j ∧ j.verdict = .ok := by
  have ok_of {α : Type} {x : Except Raised α} {a : α} (h : x.toOption = some a) : x = .ok a := by
    cases x with
    | error r => cases h
    | ok b => exact congrArg Except.ok (Option.some.inj h)
  have hshares : numbers steadyRow "repo_frac" = .ok [1.0, 1.0, 1.0] := ok_of (by decide +kernel)
  have htimes : numbers steadyRow "repo_tt_ms" = .ok [500.0, 500.0, 500.0] := ok_of (by decide +kernel)
  have hmedian : median [500.0, 500.0, 500.0] = some 500.0 := by
    rw [median, List.mergeSort_of_pairwise (by decide +kernel)]
    rfl
  have hrest : (do
      let d ← Document.get steadyRow "ret_type" .null
      let _ ← numbers steadyRow "ext_frac"
      let prints ← listOf steadyRow "param_fps"
      let inputs ← distinct prints
      verdictOn false steadyRow (typeText d) (least [1.0, 1.0, 1.0]) (some 500.0) inputs) = .ok .ok :=
    ok_of (by decide +kernel)
  obtain ⟨d, hd, hrest⟩ := bind_ok hrest
  obtain ⟨_, hcompiled, hrest⟩ := bind_ok hrest
  obtain ⟨prints, hprints, hrest⟩ := bind_ok hrest
  obtain ⟨inputs, hinputs, hverdict⟩ := bind_ok hrest
  refine ⟨⟨.ok, typeText d, 1.0, 500.0⟩, ?_, rfl⟩
  rw [judge, hd, hshares, htimes, hcompiled, hprints]
  simp only [bind, Except.bind, hinputs, hmedian, hverdict, pure, Except.pure]
  rfl

/-! ## The verdicts of a round -/

/-- **A good verdict is earned.** Whatever the version control says and however the self check reads what it gets, a bench
of a suite with distinct names that gets a good verdict from the printed report of the suite is sound, and one that gets
the best verdict is sensitive to its parameters too. -/
theorem verdict_earned (rd : SelfCheck.Reading) (s : Suite) (hnames : (s.benches.map Trial.name).Nodup) (w : World)
    (code : Int) (complaints : String)
    (hw : w.selfCheck = .finished code (some (SelfCheck.report rd s false).1) complaints) (b : Trial)
    (hb : b ∈ s.benches) (j : Judged) (hj : (b.name, j) ∈ (selfChecked w).1) (hgood : j.verdict.isGood) :
    Sound rd b ∧ (j.verdict = .ok → Sensitive rd b) := by
  obtain ⟨rows, row, hrows, hrow, hjudge⟩ := row_of_verdict (verdicts_of_selfChecked hw hj)
  obtain ⟨b', hb', hname, rfl⟩ := bench_of_row hrows hrow
  have hsame : b' = b := List.inj_on_of_nodup_map hnames hb' hb hname
  rw [hsame] at hjudge
  exact sound_of_judge hjudge hgood

theorem verdict_earned_steady : ∃ j, (steadyBench.name, j) ∈ (selfChecked steadyRound).1 ∧ j.verdict = .ok ∧
    Sound .plain steadyBench ∧ Sensitive .plain steadyBench := by
  obtain ⟨j, hj, hok⟩ := judge_steadyRow
  have hmem : (steadyBench.name, j) ∈ (selfChecked steadyRound).1 := by
    rw [selfChecked_single (by decide +kernel) (by decide +kernel) (by decide +kernel) rfl hj]
    exact List.mem_cons_self
  have hearned := verdict_earned .plain ⟨"/repo/microbench.py", [steadyBench], none⟩ (by decide +kernel) steadyRound 0 ""
    rfl steadyBench List.mem_cons_self j hmem (by rw [hok]; rfl)
  exact ⟨j, hmem, hok, hearned.1, hearned.2 hok⟩

end FormulaSql.Bench.Round
