import FormulaSql.Proofs.Bench.Streams
import FormulaSql.Proofs.Datum.Numerals
import Mathlib.Data.List.Basic
import Mathlib.Data.List.Flatten

/-!
# What a stream tells about a value

A value made of nothing, truth values, whole numbers, texts and lists (`Plain`) is fed as a row of words, one for each
scalar and one for each list, which gives the number of its items (`marks`). This is Polish notation: the words, if they
are known one by one, determine the value (`marks_inj`). But the words are joined without separators.

* What is lost is only where the words end: two values are equal if their streams are equal and are cut at the same
  places (`cuts`). Different values can have one stream: `[1, 23]` and `[12, 3]` are both fed as `L2123`.
* Streams of different values are equal for lists with items only.
* If the end of each word shows (`Clear`), the stream alone determines the value. The rows are read word by word; how
  many values are still to come is known all along (`Polish`), so it is known which text is the last.
-/

namespace FormulaSql.Bench.Fingerprint

open Datum.Reader (NoDigit toString_int digitsValue_toDigits)
open Decimal (row_toDigits)

/-! ## Values as rows of words -/

/-- A value at a depth that is seen as a whole, made of nothing, truth values, whole numbers, texts and lists. -/
inductive Plain : Nat → Value → Prop
  | null {depth : Nat} (seen : depth ≤ depthLimit) : Plain depth .null
  | bool {depth : Nat} (seen : depth ≤ depthLimit) (b : Bool) : Plain depth (.bool b)
  | whole {depth : Nat} (seen : depth ≤ depthLimit) (n : Int) : Plain depth (.whole n)
  | text {depth : Nat} (seen : depth ≤ depthLimit) (s : String) : Plain depth (.text s)
  | list {depth : Nat} {items : List Value} (seen : depth ≤ depthLimit) (count : items.length ≤ itemLimit)
      (parts : ∀ v ∈ items, Plain (depth + 1) v) : Plain depth (.list items)

/-- A scalar, or the start of a list with its number of items. -/
inductive Mark where
  | null
  | bool (b : Bool)
  | whole (n : Int)
  | text (s : String)
  | list (count : Nat)

namespace Mark

/-- The word for a mark. -/
def word : Mark → String
  | null => "None"
  | bool b => Datum.boolText b
  | whole n => toString n
  | text s => "s" ++ s
  | list count => "L" ++ toString count

/-- The number of values that belong to a mark and follow it. -/
def arity : Mark → Nat
  | list count => count
  | _ => 0

/-- Puts a mark before values: a list takes its items from them. -/
def place : Mark → List Value → List Value
  | null, vs => .null :: vs
  | bool b, vs => .bool b :: vs
  | whole n, vs => .whole n :: vs
  | text s, vs => .text s :: vs
  | list count, vs => .list (vs.take count) :: vs.drop count

end Mark

mutual

/-- The marks of a value, each list before its items. -/
def marks : Value → List Mark
  | .null => [.null]
  | .bool b => [.bool b]
  | .whole n => [.whole n]
  | .text s => [.text s]
  | .list items => .list items.length :: marksAll items
  | _ => []

/-- The marks of values. -/
def marksAll : List Value → List Mark
  | [] => []
  | v :: vs => marks v ++ marksAll vs

end

/-- Where the stream of a value would have to be cut. -/
def cuts (v : Value) : List Nat :=
  (marks v).map fun m => m.word.toList.length

/-- The words of marks, joined. -/
def spell (ms : List Mark) : List Char :=
  ms.flatMap fun m => m.word.toList

@[simp] theorem spell_nil : spell [] = [] := rfl

@[simp] theorem spell_cons (m : Mark) (ms : List Mark) : spell (m :: ms) = m.word.toList ++ spell ms := rfl

theorem marksAll_eq (items : List Value) : marksAll items = items.flatMap marks := by
  induction items with
  | nil => rfl
  | cons v vs ih => rw [marksAll, ih, List.flatMap_cons]

theorem marks_list (items : List Value) : marks (.list items) = .list items.length :: items.flatMap marks := by
  rw [marks, marksAll_eq]

section Stream

variable (enc : Encoding) (digest : List UInt8 → String)

/-- The bytes of the words of marks. -/
def written (ms : List Mark) : List UInt8 :=
  utf8 (String.ofList (spell ms))

theorem written_cons (m : Mark) (ms : List Mark) : written (m :: ms) = utf8 m.word ++ written ms := by
  rw [written, spell_cons, String.ofList_append, String.ofList_toList, utf8_append, written]

theorem written_append (ms ns : List Mark) : written (ms ++ ns) = written ms ++ written ns := by
  induction ms with
  | nil => rfl
  | cons m ms ih => rw [List.cons_append, written_cons, written_cons, ih, List.append_assoc]

theorem written_inj {ms ns : List Mark} : written ms = written ns ↔ spell ms = spell ns := by
  rw [written, written, utf8_inj, String.ofList_inj]

theorem written_singleton (m : Mark) : written [m] = utf8 m.word := by
  rw [written_cons]
  exact List.append_nil _

/-- The stream of a value is the words of its marks. -/
theorem stream_eq_written {depth : Nat} {v : Value} (h : Plain depth v) :
    enc.stream digest depth v = written (marks v) := by
  induction h with
  | null seen => rw [Encoding.stream, enc.capped_of_le seen, marks, written_singleton]; rfl
  | bool seen b => rw [Encoding.stream, enc.capped_of_le seen, marks, written_singleton]; rfl
  | whole seen n => rw [Encoding.stream, enc.capped_of_le seen, marks, written_singleton]; rfl
  | text seen s => rw [Encoding.stream, enc.capped_of_le seen, marks, written_singleton]; rfl
  | @list depth items seen count parts ih =>
    have hitems : (items.map (enc.stream digest (depth + 1))).flatten = written (items.flatMap marks) := by
      clear count parts
      induction items with
      | nil => rfl
      | cons v vs ihvs =>
        rw [List.map_cons, List.flatten_cons, List.flatMap_cons, written_append, ih v List.mem_cons_self,
          ihvs fun w hw => ih w (List.mem_cons_of_mem v hw)]
    rw [Encoding.stream, enc.capped_of_le seen, enc.itemStreams_eq, Encoding.listed, List.length_map, if_pos count,
      counted, hitems, marks_list, written_cons]
    rfl

end Stream

/-! ## Marks determine values -/

/-- Putting the marks of a value back gives the value. -/
theorem foldr_place_marks {depth : Nat} {v : Value} (h : Plain depth v) (ms : List Mark) :
    (marks v ++ ms).foldr Mark.place [] = v :: ms.foldr Mark.place [] := by
  induction h generalizing ms with
  | null | bool | whole | text => rfl
  | @list depth items _ count parts ih =>
    have hitems : (items.flatMap marks ++ ms).foldr Mark.place [] = items ++ ms.foldr Mark.place [] := by
      clear count parts
      induction items with
      | nil => rfl
      | cons v vs ihvs =>
        rw [List.flatMap_cons, List.append_assoc, ih v List.mem_cons_self,
          ihvs fun w hw => ih w (List.mem_cons_of_mem v hw), List.cons_append]
    rw [marks_list, List.cons_append, List.foldr_cons, hitems, Mark.place, List.take_left, List.drop_left]

theorem marks_inj {depth : Nat} {v w : Value} (hv : Plain depth v) (hw : Plain depth w) :
    marks v = marks w ↔ v = w := by
  refine ⟨fun h => ?_, fun h => h ▸ rfl⟩
  have hfold := foldr_place_marks hv []
  rw [h, foldr_place_marks hw []] at hfold
  exact (List.cons.inj hfold).1.symm

/-- A row of marks for a number of values. -/
inductive Polish : Nat → List Mark → Prop
  | done : Polish 0 []
  | next {n : Nat} {m : Mark} {ms : List Mark} : Polish (n + m.arity) ms → Polish (n + 1) (m :: ms)

theorem Polish.eq_nil_iff {n : Nat} {ms : List Mark} (h : Polish n ms) : ms = [] ↔ n = 0 := by
  cases h <;> simp

theorem polish_marks {depth : Nat} {v : Value} (h : Plain depth v) {n : Nat} {ms : List Mark} (hms : Polish n ms) :
    Polish (n + 1) (marks v ++ ms) := by
  induction h generalizing n ms with
  | null | bool | whole | text => exact .next hms
  | @list depth items _ count parts ih =>
    have hitems : Polish (n + items.length) (items.flatMap marks ++ ms) := by
      clear count parts
      induction items with
      | nil => exact hms
      | cons v vs ihvs =>
        rw [List.flatMap_cons, List.append_assoc]
        exact ih v List.mem_cons_self (ihvs fun w hw => ih w (List.mem_cons_of_mem v hw))
    rw [marks_list, List.cons_append]
    exact .next hitems

theorem Plain.polish {depth : Nat} {v : Value} (h : Plain depth v) : Polish 1 (marks v) := by
  have hrow := polish_marks h .done
  rwa [List.append_nil] at hrow

/-! ## Ends that show -/

/-- The mark, without its content, that a word with this first character is for. -/
def opened (c : Char) : Option Mark :=
  if c = 'N' then some .null
  else if c = 'T' then some (.bool true)
  else if c = 'F' then some (.bool false)
  else if c = 's' then some (.text "")
  else if c = 'L' then some (.list 0)
  else if c = '-' ∨ c.isDigit then some (.whole 0)
  else none

namespace Mark

/-- A mark without its content. -/
def shape : Mark → Mark
  | null => null
  | bool b => bool b
  | whole _ => whole 0
  | text _ => text ""
  | list _ => list 0

/-- The end of a mark's word shows before the next marks. A number must not be followed by a digit, and a text that is
not the last word must not hold characters with which a word can start. -/
def Ends : Mark → List Mark → Prop
  | null, _ => True
  | bool _, _ => True
  | whole _, ms => ∀ n, ms.head? = some (whole n) → n < 0
  | text s, ms => ms = [] ∨ ∀ c ∈ s.toList, (opened c).isNone
  | list _, ms => ∀ n, ms.head? = some (whole n) → n < 0

end Mark

/-- The end of every word shows. -/
def Clear : List Mark → Prop
  | [] => True
  | m :: ms => m.Ends ms ∧ Clear ms

theorem opened_digit {c : Char} (h : c.isDigit) : opened c = some (.whole 0) := by
  have hne (d : Char) (hd : d.isDigit = false) : c ≠ d := by
    rintro rfl
    simp [hd] at h
  simp [opened, hne 'N' rfl, hne 'T' rfl, hne 'F' rfl, hne 's' rfl, hne 'L' rfl, h]

theorem exists_digit (n : Nat) : ∃ c cs, Nat.toDigits 10 n = c :: cs ∧ c.isDigit := by
  obtain ⟨hne, hdigits⟩ := row_toDigits n
  obtain ⟨c, cs, hcs⟩ := List.exists_cons_of_ne_nil hne
  exact ⟨c, cs, hcs, hdigits c (by simp [hcs])⟩

/-- The first character of a word tells what it is for. -/
theorem exists_opened (m : Mark) : ∃ c cs, m.word.toList = c :: cs ∧ opened c = some m.shape := by
  cases m with
  | null => exact ⟨'N', _, rfl, rfl⟩
  | bool b => cases b <;> exact ⟨_, _, rfl, rfl⟩
  | text s => exact ⟨'s', s.toList, by simp [Mark.word], rfl⟩
  | list count => exact ⟨'L', (toString count).toList, by simp [Mark.word], rfl⟩
  | whole n =>
    rw [Mark.word, toString_int]
    by_cases hn : n < 0
    · exact ⟨'-', Nat.toDigits 10 n.natAbs, by simp [hn], rfl⟩
    · obtain ⟨c, cs, hcs, hdigit⟩ := exists_digit n.natAbs
      exact ⟨c, cs, by simp [hn, hcs], opened_digit hdigit⟩

theorem shape_eq {m m' : Mark} {r r' : List Char} (h : m.word.toList ++ r = m'.word.toList ++ r') :
    m.shape = m'.shape := by
  obtain ⟨c, cs, hcs, hc⟩ := exists_opened m
  obtain ⟨d, ds, hds, hd⟩ := exists_opened m'
  rw [hcs, hds] at h
  rw [← Option.some_inj, ← hc, ← hd, (List.cons.inj h).1]

theorem noDigit_spell {ms : List Mark} (h : ∀ n, ms.head? = some (.whole n) → n < 0) : NoDigit (spell ms) := by
  cases ms with
  | nil => simp [NoDigit]
  | cons m ms =>
    obtain ⟨c, cs, hcs, hc⟩ := exists_opened m
    rintro d hd
    rw [spell_cons, hcs] at hd
    cases hd
    rcases Bool.eq_false_or_eq_true c.isDigit with hdigit | hdigit
    · have hshape := hc.symm.trans (opened_digit hdigit)
      cases m with
      | whole n =>
        rw [Mark.word, toString_int] at hcs
        simp only [h n rfl, decide_true, if_true, List.cons_append, List.cons.injEq] at hcs
        rw [← hcs.1]
        rfl
      | _ => simp [Mark.shape] at hshape
    · exact hdigit

/-! ## Reading word by word -/

theorem digits_apart {a b : Nat} {r r' : List Char} (hr : NoDigit r) (hr' : NoDigit r')
    (h : Nat.toDigits 10 a ++ r = Nat.toDigits 10 b ++ r') : a = b ∧ r = r' := by
  obtain ⟨hdigits, hrest⟩ := run_inj (row_toDigits a).2 (row_toDigits b).2 (fun c hc => by simp [hr c hc])
    (fun c hc => by simp [hr' c hc]) h
  refine ⟨?_, hrest⟩
  rw [← digitsValue_toDigits a, hdigits, digitsValue_toDigits]

theorem whole_apart {n n' : Int} {r r' : List Char} (hr : NoDigit r) (hr' : NoDigit r')
    (h : (toString n).toList ++ r = (toString n').toList ++ r') : n = n' ∧ r = r' := by
  have hsign {a b : Nat} {x y : List Char} : '-' :: Nat.toDigits 10 a ++ x ≠ Nat.toDigits 10 b ++ y := by
    intro heq
    obtain ⟨c, cs, hcs, hdigit⟩ := exists_digit b
    rw [hcs] at heq
    rw [← (List.cons.inj heq).1] at hdigit
    exact absurd hdigit (by decide)
  rw [toString_int, toString_int] at h
  by_cases hn : n < 0 <;> by_cases hn' : n' < 0
  · simp only [hn, hn', decide_true, if_true, List.cons_append, List.nil_append, List.cons.injEq, true_and] at h
    obtain ⟨habs, hrest⟩ := digits_apart hr hr' h
    exact ⟨by omega, hrest⟩
  · simp only [hn, hn', decide_true, decide_false, if_true] at h
    exact absurd h hsign
  · simp only [hn, hn', decide_true, decide_false, if_true] at h
    exact absurd h.symm hsign
  · simp only [hn, hn', decide_false] at h
    obtain ⟨habs, hrest⟩ := digits_apart hr hr' h
    exact ⟨by omega, hrest⟩

theorem text_apart {s s' : String} {ms ms' : List Mark} (hs : (Mark.text s).Ends ms) (hs' : (Mark.text s').Ends ms')
    (hempty : ms = [] ↔ ms' = []) (h : s.toList ++ spell ms = s'.toList ++ spell ms') :
    s = s' ∧ spell ms = spell ms' := by
  have hopens {ns : List Mark} : ∀ c ∈ (spell ns).head?, ¬ (opened c).isNone := by
    cases ns with
    | nil => simp
    | cons m ns =>
      obtain ⟨c, cs, hcs, hc⟩ := exists_opened m
      simp [hcs, hc]
  rcases hs with rfl | hs
  · rw [hempty.1 rfl, spell_nil, List.append_nil, List.append_nil] at h
    exact ⟨String.toList_inj.1 h, by rw [hempty.1 rfl]⟩
  · rcases hs' with rfl | hs'
    · rw [hempty.2 rfl, spell_nil, List.append_nil, List.append_nil] at h
      exact ⟨String.toList_inj.1 h, by rw [hempty.2 rfl]⟩
    · obtain ⟨hsame, hrest⟩ := run_inj (p := fun c => (opened c).isNone) hs hs' hopens hopens h
      exact ⟨String.toList_inj.1 hsame, hrest⟩

/-- A word whose end shows can be taken off the front. -/
theorem word_apart {m m' : Mark} {ms ms' : List Mark} (hm : m.Ends ms) (hm' : m'.Ends ms')
    (hempty : m.arity = m'.arity → (ms = [] ↔ ms' = [])) (h : spell (m :: ms) = spell (m' :: ms')) :
    m = m' ∧ spell ms = spell ms' := by
  have hshape := shape_eq h
  rw [spell_cons, spell_cons] at h
  cases m with
  | null =>
    cases m' with
    | null => exact ⟨rfl, List.append_cancel_left h⟩
    | _ => simp [Mark.shape] at hshape
  | bool b =>
    cases m' with
    | bool b' =>
      cases hshape
      exact ⟨rfl, List.append_cancel_left h⟩
    | _ => simp [Mark.shape] at hshape
  | whole n =>
    cases m' with
    | whole n' =>
      obtain ⟨hsame, hrest⟩ := whole_apart (noDigit_spell hm) (noDigit_spell hm') h
      exact ⟨congrArg Mark.whole hsame, hrest⟩
    | _ => simp [Mark.shape] at hshape
  | text s =>
    cases m' with
    | text s' =>
      simp only [Mark.word, String.toList_append, List.append_assoc, List.append_cancel_left_eq] at h
      obtain ⟨hsame, hrest⟩ := text_apart hm hm' (hempty rfl) h
      exact ⟨congrArg Mark.text hsame, hrest⟩
    | _ => simp [Mark.shape] at hshape
  | list n =>
    cases m' with
    | list n' =>
      simp only [Mark.word, String.toList_append, List.append_assoc, List.append_cancel_left_eq,
        toList_toString] at h
      obtain ⟨hsame, hrest⟩ := digits_apart (noDigit_spell hm) (noDigit_spell hm') h
      exact ⟨congrArg Mark.list hsame, hrest⟩
    | _ => simp [Mark.shape] at hshape

/-- Rows for equally many values, in which the ends of all words show, can be told apart. -/
theorem eq_of_clear {n : Nat} {ms ms' : List Mark} (hms : Polish n ms) (hms' : Polish n ms') (hclear : Clear ms)
    (hclear' : Clear ms') (h : spell ms = spell ms') : ms = ms' := by
  -- The number of values to come is the same in both rows, so a text is the last word in both or in none.
  induction hms generalizing ms' with
  | done => exact (hms'.eq_nil_iff.2 rfl).symm
  | @next n m ms hrest ih =>
    cases hms' with
    | @next _ m' ms' hrest' =>
      have hempty (harity : m.arity = m'.arity) : ms = [] ↔ ms' = [] := by
        rw [hrest.eq_nil_iff, hrest'.eq_nil_iff, harity]
      obtain ⟨rfl, htail⟩ := word_apart hclear.1 hclear'.1 hempty h
      rw [ih hrest' hclear.2 hclear'.2 htail]

theorem word_inj {m m' : Mark} (h : m.word = m'.word) : m = m' := by
  have hends (m : Mark) : m.Ends [] := by
    cases m <;> simp [Mark.Ends]
  exact (word_apart (hends m) (hends m') (fun _ => Iff.rfl) (by simp [h])).1

/-- Rows that are cut at the same places are the same. -/
theorem eq_of_cuts {v w : Value} (h : spell (marks v) = spell (marks w)) (hcuts : cuts v = cuts w) :
    marks v = marks w := by
  have hwords : (marks v).map (fun m => m.word.toList) = (marks w).map fun m => m.word.toList := by
    apply List.eq_iff_flatten_eq.2
    rw [List.map_map, List.map_map]
    exact ⟨h, hcuts⟩
  exact List.map_injective_iff.2 (fun m m' heq => word_inj (String.toList_inj.1 heq)) hwords

/-- A row of one word that takes no more values is told apart from all rows. -/
theorem eq_singleton {m m' : Mark} {ms : List Mark} (harity : m.arity = 0) (hms : Polish 1 (m' :: ms))
    (h : spell [m] = spell (m' :: ms)) : [m] = m' :: ms := by
  have hshape : m.shape = m'.shape := shape_eq h
  have harity' : m'.arity = 0 := by
    cases m' with
    | list n =>
      cases m with
      | list k =>
        -- the digit zero stands for the count, so it is the whole count of the other list
        cases harity
        obtain ⟨c, cs, hcs, -⟩ := exists_digit n
        have hzero : ['0'] = c :: (cs ++ spell ms) := by
          simpa [Mark.word, toList_toString, hcs] using h
        obtain ⟨rfl, hnil⟩ := List.cons.inj hzero
        have hdigits : Nat.toDigits 10 n = Nat.toDigits 10 0 := by
          rw [hcs, (List.append_eq_nil_iff.1 hnil.symm).1]
          rfl
        rw [Mark.arity, ← digitsValue_toDigits n, hdigits, digitsValue_toDigits]
      | _ => simp [Mark.shape] at hshape
    | _ => rfl
  cases hms with
  | next hrest =>
    obtain rfl := hrest.eq_nil_iff.2 (by simp [harity'])
    simp only [spell_cons, spell_nil, List.append_nil, String.toList_inj] at h
    rw [word_inj h]

theorem plain_cases {depth : Nat} {v : Value} (h : Plain depth v) :
    (∃ items, v = .list items ∧ items ≠ []) ∨ ∃ m, marks v = [m] ∧ m.arity = 0 := by
  cases h with
  | null | bool | whole | text => exact .inr ⟨_, rfl, rfl⟩
  | @list _ items =>
    cases items with
    | nil => exact .inr ⟨_, rfl, rfl⟩
    | cons v vs => exact .inl ⟨_, rfl, by simp⟩

/-- Only lists with items share a stream with other values. -/
theorem list_of_ne {depth : Nat} {v w : Value} (hv : Plain depth v) (hw : Plain depth w)
    (h : spell (marks v) = spell (marks w)) (hne : v ≠ w) : ∃ items, v = .list items ∧ items ≠ [] := by
  rcases plain_cases hv with hlist | ⟨m, hm, harity⟩
  · exact hlist
  · have hrow := hw.polish
    obtain ⟨m', ms, hms⟩ := List.exists_cons_of_ne_nil fun hnil => by simpa using hrow.eq_nil_iff.1 hnil
    rw [hms] at hrow h
    rw [hm] at h
    have hmarks : marks v = marks w := by rw [hm, hms, eq_singleton harity hrow h]
    exact absurd ((marks_inj hv hw).1 hmarks) hne

/-- **The stream of a value is a row of words without separators, and nothing else is lost.** Values are equal if their
streams are equal and are cut at the same places. Different values with one stream are both lists with items, and the end
of some word does not show in one of them. -/
theorem stream_eq_iff_cuts (digest : List UInt8 → String) {depth : Nat} {v w : Value} (hv : Plain depth v)
    (hw : Plain depth w) :
    (v = w ↔ stream digest depth v = stream digest depth w ∧ cuts v = cuts w) ∧
    (stream digest depth v = stream digest depth w → v ≠ w →
      (∃ items, v = .list items ∧ items ≠ []) ∧ ∃ items, w = .list items ∧ items ≠ []) ∧
    (Clear (marks v) → Clear (marks w) → (stream digest depth v = stream digest depth w ↔ v = w)) := by
  rw [stream, stream, stream_eq_written _ digest hv, stream_eq_written _ digest hw, written_inj]
  refine ⟨⟨fun h => by rw [h]; exact ⟨rfl, rfl⟩, fun h => ?_⟩, fun h hne => ?_, fun hclear hclear' => ?_⟩
  · exact (marks_inj hv hw).1 (eq_of_cuts h.1 h.2)
  · exact ⟨list_of_ne hv hw h hne, list_of_ne hw hv h.symm hne.symm⟩
  · refine ⟨fun h => (marks_inj hv hw).1 ?_, fun h => by rw [h]⟩
    exact eq_of_clear hv.polish hw.polish hclear hclear' h

theorem stream_eq_iff_cuts_shifted :
    fingerprint (.list [.whole 1, .whole 23]) 0 = fingerprint (.list [.whole 12, .whole 3]) 0 ∧
    cuts (.list [.whole 1, .whole 23]) ≠ cuts (.list [.whole 12, .whole 3]) ∧
    stream Digest.sha256 0 (.list [.text "a", .text "bs"]) ≠ stream Digest.sha256 0 (.list [.text "ab", .text "s"]) := by
  have hpair {v w : Value} (hv : Plain 1 v) (hw : Plain 1 w) : Plain 0 (.list [v, w]) :=
    .list (by decide) (by simp [itemLimit]) (by simp [hv, hw])
  have hwholes (a b : Int) : Plain 0 (.list [.whole a, .whole b]) :=
    hpair (.whole (by decide) a) (.whole (by decide) b)
  have htexts (a b : String) : Plain 0 (.list [.text a, .text b]) :=
    hpair (.text (by decide) a) (.text (by decide) b)
  have hsame : stream Digest.sha256 0 (.list [.whole 1, .whole 23]) =
      stream Digest.sha256 0 (.list [.whole 12, .whole 3]) := by
    rw [stream, stream, stream_eq_written _ _ (hwholes 1 23), stream_eq_written _ _ (hwholes 12 3)]
    rfl
  refine ⟨congrArg Digest.sha256 hsame, fun hcuts => ?_, fun h => ?_⟩
  · have heq := (stream_eq_iff_cuts Digest.sha256 (hwholes 1 23) (hwholes 12 3)).1.2 ⟨hsame, hcuts⟩
    simp at heq
  · have hclear (a b : String) (ha : ∀ c ∈ a.toList, (opened c).isNone) :
        Clear (marks (.list [.text a, .text b])) := by
      simpa [marks, marksAll, Clear, Mark.Ends] using ha
    have heq := ((stream_eq_iff_cuts Digest.sha256 (htexts "a" "bs") (htexts "ab" "s")).2.2
      (hclear "a" "bs" (by simp [opened])) (hclear "ab" "s" (by simp [opened]))).1 h
    simp at heq

end FormulaSql.Bench.Fingerprint
