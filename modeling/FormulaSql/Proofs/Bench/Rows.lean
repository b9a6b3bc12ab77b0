import FormulaSql.Bench.SelfCheck
import FormulaSql.Proofs.Datum.Roundtrip

/-!
# Rows of the self check

A row is filled run by run, and whatever fails ends it and leaves the fields filled so far: a run, the fingerprint of its
result, the tag of a set of parameters, or the fingerprint of one of the values in it. So a row is of one of two kinds
(`check_cases`): its type tells of a failure, by an angle bracket in front, or nothing has failed and the row holds the
fingerprints of everything (`Complete`). The runs with parameters are covered by one step lemma over their list
(`runParams_cases`).

How values, sets of parameters and profiles are read is left open: all this holds for every `Reading`. What a reader
finds in the written row is what was put into it (`reread_datum`).
-/

namespace FormulaSql.Bench

section Steps

variable {ε α β : Type}

theorem bind_ok {x : Except ε α} {f : α → Except ε β} {b : β} (h : (x >>= f) = .ok b) : ∃ a, x = .ok a ∧ f a = .ok b := by
  cases x with
  | error r => cases h
  | ok a => exact ⟨a, rfl, h⟩

/-- Steps that all succeed have a result each. -/
theorem exists_of_mapM {f : α → Except ε β} {x : α} : ∀ {xs : List α} {ys : List β}, xs.mapM f = .ok ys → x ∈ xs →
    ∃ y ∈ ys, f x = .ok y
  | [], _, _, hx => absurd hx List.not_mem_nil
  | x' :: xs, ys, h, hx => by
    rw [List.mapM_cons] at h
    obtain ⟨z, hz, h⟩ := bind_ok h
    obtain ⟨zs, hzs, h⟩ := bind_ok h
    cases h
    rcases List.mem_cons.1 hx with rfl | hx
    · exact ⟨z, List.mem_cons_self, hz⟩
    · obtain ⟨y, hy, hf⟩ := exists_of_mapM hzs hx
      exact ⟨y, List.mem_cons_of_mem z hy, hf⟩

end Steps

namespace SelfCheck

open Datum

variable {rd : Reading} {b : Trial}

/-! ## Runs -/

theorem valueOf_ok {o : Outcome} {v : Value} (h : valueOf o = .ok v) : o = .value v := by
  cases o with
  | value u => rw [Except.ok.inj h]
  | raised r => cases h
  | timeout => cases h

/-- What a run with a set of parameters takes: a tag, a value and its fingerprint. -/
theorem runWith_ok {k : Nat} {p : Params} {tag print : String} (h : rd.runWith b k p = .ok (tag, print)) :
    rd.tag p = .ok tag ∧ ∃ v, b.call k p = .value v ∧ rd.print v = .ok print := by
  obtain ⟨t, ht, h⟩ := bind_ok h
  obtain ⟨v, hv, h⟩ := bind_ok h
  obtain ⟨s, hs, h⟩ := bind_ok h
  cases h
  exact ⟨ht, v, valueOf_ok hv, hs⟩

/-- The type of a row that tells of a failure. -/
def Failed (r : Row) : Prop :=
  ∃ s, r.resultType = .text ("<" ++ s)

theorem failed_abandoned (r : Row) (kind : String) : Failed (r.abandoned kind) :=
  ⟨kind ++ ">", by rw [← String.append_assoc]; rfl⟩

/-- What the runs with sets of parameters, from the `k`-th call on, make of a row if nothing fails. -/
structure Extends (rd : Reading) (b : Trial) (k : Nat) (ps : List Params) (r₀ r : Row) : Prop where
  resultType : r.resultType = r₀.resultType
  stable : r.stable = r₀.stable
  paramPrints : r₀.paramPrints ⊆ r.paramPrints
  ran : ∀ (i : Nat) (p : Params), ps[i]? = some p → ∃ tag print inputs, rd.runWith b (i + k) p = .ok (tag, print) ∧
    rd.inputs p = .ok inputs ∧ inputs ⊆ r.paramPrints
  keys : (r₀.byParams.map Prod.fst).Nodup → (r.byParams.map Prod.fst).Nodup
  byParams : ∀ e ∈ r.byParams, e ∈ r₀.byParams ∨ ∃ (i : Nat) (p : Params) (tag print : String), ps[i]? = some p ∧
    rd.runWith b (i + k) p = .ok (tag, print) ∧ e = (tag, .text print)

/-- The row of a bench for which nothing failed: `v` and `w` are what the runs without parameters gave, `first` and
`second` are their fingerprints. -/
structure Complete (rd : Reading) (b : Trial) (v w : Value) (first second : String) (r : Row) : Prop where
  firstCall : b.call 0 [] = .value v
  firstPrint : rd.print v = .ok first
  secondCall : b.call 1 [] = .value w
  secondPrint : rd.print w = .ok second
  resultType : r.resultType = .text v.typeName
  stable : r.stable = [first, second]
  ran : ∀ (i : Nat) (p : Params), b.params[i]? = some p → ∃ tag print inputs, rd.runWith b (i + 2) p = .ok (tag, print) ∧
    rd.inputs p = .ok inputs ∧ inputs ⊆ r.paramPrints
  keys : (r.byParams.map Prod.fst).Nodup
  byParams : ∀ e ∈ r.byParams, ∃ (i : Nat) (p : Params) (tag print : String), b.params[i]? = some p ∧
    rd.runWith b (i + 2) p = .ok (tag, print) ∧ e = (tag, .text print)

/-- **Each run with parameters either fails, which the type of the row then tells, or adds to the row.** -/
theorem runParams_cases (rd : Reading) (workloads : String) (b : Trial) : ∀ (ps : List Params) (k : Nat) (r : Row),
    Failed (runParams rd workloads b k r ps) ∨ Extends rd b k ps r (runParams rd workloads b k r ps)
  | [], k, r => by
    rw [runParams]
    exact .inr ⟨rfl, rfl, List.Subset.refl _, by simp, id, fun e he => .inl he⟩
  | p :: ps, k, r => by
    rw [runParams]
    cases hrun : rd.runWith b k p with
    | error kind => exact .inl (failed_abandoned r kind)
    | ok run =>
      obtain ⟨tag, print⟩ := run
      dsimp only
      cases hinputs : rd.inputs p with
      | error kind => exact .inl (failed_abandoned _ kind)
      | ok inputs =>
        have hfirst : rd.runWith b (0 + k) p = .ok (tag, print) := by rw [Nat.zero_add, hrun]
        have later (i : Nat) : i + 1 + k = i + (k + 1) := by omega
        rcases runParams_cases rd workloads b ps (k + 1) _ with hfailed | hrest
        · exact .inl hfailed
        · refine .inr ⟨hrest.resultType, hrest.stable, ?_, ?_, ?_, ?_⟩
          · exact fun s hs => hrest.paramPrints (List.mem_append_left _ hs)
          · intro i q hq
            cases i with
            | zero =>
              cases hq
              exact ⟨tag, print, inputs, hfirst, hinputs, fun s hs => hrest.paramPrints (List.mem_append_right _ hs)⟩
            | succ i =>
              rw [later]
              exact hrest.ran i q hq
          · intro h
            exact hrest.keys (nodup_put h _ _)
          · intro e he
            rcases hrest.byParams e he with h | ⟨i, q, t, s, hq, hs, rfl⟩
            · rcases mem_put h with h | rfl
              · exact .inl h
              · exact .inr ⟨0, p, tag, print, rfl, hfirst, rfl⟩
            · rw [← later] at hs
              exact .inr ⟨i + 1, q, t, s, hq, hs, rfl⟩

/-- **A row tells of a failure, or nothing has failed.** -/
theorem check_cases (rd : Reading) (workloads : String) (b : Trial) :
    Failed (check rd workloads false b) ∨
      ∃ v w first second, Complete rd b v w first second (check rd workloads false b) := by
  rw [check]
  cases hfirst : valueOf (b.call 0 []) with
  | error kind => exact .inl (failed_abandoned _ kind)
  | ok v =>
    dsimp only
    cases hprint : rd.print v with
    | error kind => exact .inl (failed_abandoned _ kind)
    | ok first =>
      simp only [Bool.false_eq_true, if_false]
      cases hsecond : valueOf (b.call 1 []) >>= rd.print with
      | error kind => exact .inl (failed_abandoned _ kind)
      | ok second =>
        obtain ⟨w, hw, hprint'⟩ := bind_ok hsecond
        dsimp only
        rcases runParams_cases rd workloads b b.params 2 _ with hfailed | h
        · exact .inl hfailed
        · refine .inr ⟨v, w, first, second, valueOf_ok hfirst, hprint, valueOf_ok hw, hprint', h.resultType, h.stable,
            h.ran, ?_, ?_⟩
          · exact h.keys List.nodup_nil
          · intro e he
            exact (h.byParams e he).resolve_left List.not_mem_nil

/-! ## Rows as they are read back -/

theorem reread_texts (ss : List String) : reread (.list (ss.map Datum.text)) = .list (ss.map Datum.text) := by
  rw [reread, rereadItems_eq_map, List.map_map]
  rfl

/-- The fingerprints by parameters are read back as they are. -/
theorem Complete.reread_byParams {v w : Value} {first second : String} {r : Row} (h : Complete rd b v w first second r) :
    reread (.dict r.byParams) = .dict r.byParams := by
  have hsame : (r.byParams.map fun e => (e.1, e.2.reread)) = r.byParams := by
    refine (List.map_congr_left fun e he => ?_).trans (List.map_id _)
    obtain ⟨_, p, tag, print, _, _, rfl⟩ := h.byParams e he
    rfl
  rw [reread_dict h.keys, hsame]

/-- The fields that a verdict depends on, as they are read back. -/
theorem reread_datum (r : Row) : ∃ es, r.datum.reread = .dict es ∧
    es.lookup "ret_type" = some r.resultType.reread ∧
    es.lookup "fp_stable" = some (.list (r.stable.map Datum.text)) ∧
    es.lookup "fp_by_param" = some (reread (.dict r.byParams)) ∧
    es.lookup "param_fps" = some (.list (r.paramPrints.map Datum.text)) := by
  refine ⟨_, reread_dict (by simp), ?_, ?_, ?_, ?_⟩
  · simp
  · simp [List.lookup_cons, reread_texts]
  · simp [List.lookup_cons]
  · simp [List.lookup_cons, reread_texts]

end SelfCheck

end FormulaSql.Bench
