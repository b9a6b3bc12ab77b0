import FormulaSql.Bench.Raised
import FormulaSql.Proofs.Datum.Literals

/-!
# Written data is read back

What is written for a value is one line of printable ASCII characters (`clean_chars`), and reading it gives the value
back (`read_json`) with two provisos, which `reread` spells out: a double is read back as the double that its decimal
spells, and of several entries with one key in a dictionary the last value remains. A dictionary whose keys are distinct
keeps its entries (`reread_dict`).

The reader runs on fuel; the number of characters is enough, since every nested value takes up characters of its own.
-/

namespace FormulaSql.Datum

open Reader

/-! ## What is written -/

mutual

/-- The characters that are written for a value. -/
def chars : Datum → List Char
  | null => "null".toList
  | bool b => (if b then "true" else "false").toList
  | whole n => (toString n).toList
  | real x => (jsonReal x).toList
  | text s => literal s
  | list items => '[' :: (itemChars items ++ [']'])
  | dict entries => '\x7b' :: (entryChars entries ++ ['\x7d'])

/-- The characters that are written for the items of a list. -/
def itemChars : List Datum → List Char
  | [] => []
  | [x] => chars x
  | x :: xs => chars x ++ ',' :: ' ' :: itemChars xs

/-- The characters that are written for the entries of a dictionary. -/
def entryChars : List (String × Datum) → List Char
  | [] => []
  | [(k, v)] => literal k ++ ':' :: ' ' :: chars v
  | (k, v) :: es => literal k ++ ':' :: ' ' :: (chars v ++ ',' :: ' ' :: entryChars es)

end

mutual

theorem toList_writeBehind (out : String) : ∀ d : Datum, (writeBehind out d).toList = out.toList ++ chars d
  | null | bool _ | whole _ | real _ => by rw [writeBehind, String.toList_append, chars]
  | text s => by rw [writeBehind, String.toList_append, toList_jsonText, chars]
  | list items => by
    rw [writeBehind, String.toList_append, toList_writeItems, String.toList_append, chars, List.append_assoc]
    simp
  | dict entries => by
    rw [writeBehind, String.toList_append, toList_writeEntries, String.toList_append, chars, List.append_assoc]
    simp

theorem toList_writeItems (out : String) : ∀ items : List Datum,
    (writeItems out items).toList = out.toList ++ itemChars items
  | [] => by rw [writeItems, itemChars, List.append_nil]
  | [x] => by rw [writeItems, itemChars, toList_writeBehind]
  | x :: y :: xs => by
    rw [writeItems, itemChars, toList_writeItems, String.toList_append, toList_writeBehind, List.append_assoc,
      List.append_assoc]
    · rfl
    · simp
    · simp

theorem toList_writeEntries (out : String) : ∀ entries : List (String × Datum),
    (writeEntries out entries).toList = out.toList ++ entryChars entries
  | [] => by rw [writeEntries, entryChars, List.append_nil]
  | [(k, v)] => by
    rw [writeEntries, entryChars, toList_writeBehind, String.toList_append, String.toList_append, toList_jsonText,
      List.append_assoc, List.append_assoc]
    rfl
  | (k, v) :: e :: es => by
    rw [writeEntries, entryChars, toList_writeEntries, String.toList_append, toList_writeBehind, String.toList_append,
      String.toList_append, toList_jsonText]
    · simp
    · simp
    · simp

end

theorem toList_json (d : Datum) : d.json.toList = chars d :=
  toList_writeBehind "" d

/-! ## Values -/

/-- A double as it is read back from its decimal. -/
def rereadReal (x : Float) : Float :=
  match scalarAt ⟨(jsonReal x).toList, 0⟩ with
  | .ok (real y, _) => y
  | _ => x

mutual

/-- A value as it is read back from what is written for it. -/
def reread : Datum → Datum
  | real x => real (rereadReal x)
  | list items => list (rereadItems items)
  | dict entries => dict ((rereadEntries entries).foldl (fun es (k, v) => put es k v) [])
  | d => d

/-- The items of a list as they are read back. -/
def rereadItems : List Datum → List Datum
  | [] => []
  | x :: xs => reread x :: rereadItems xs

/-- The entries of a dictionary as they are read back, one after the other. -/
def rereadEntries : List (String × Datum) → List (String × Datum)
  | [] => []
  | (k, v) :: es => (k, reread v) :: rereadEntries es

end

theorem takes_real (x : Float) {rest : List Char} (hr : Closes rest) :
    Takes scalarAt (jsonReal x).toList rest (real (rereadReal x)) := by
  obtain ⟨y, hy⟩ := scalarAt_real x
  have hreread : rereadReal x = y := by
    obtain ⟨j, hj⟩ := hy [] (by simp [Closes]) 0
    rw [List.append_nil] at hj
    rw [rereadReal, hj]
  rw [hreread]
  exact hy rest hr

/-- A character that starts no text, list or dictionary, ends none, and is no gap. -/
def Plain (c : Char) : Prop :=
  isGap c = false ∧ c ≠ '"' ∧ c ≠ '[' ∧ c ≠ ']' ∧ c ≠ '\x7b' ∧ c ≠ '\x7d'

instance (c : Char) : Decidable (Plain c) :=
  inferInstanceAs (Decidable (_ ∧ _))

theorem plain_of_isDigit {c : Char} (h : c.isDigit) : Plain c := by
  have apart (d : Char) (hd : d.isDigit = false) : c ≠ d := by
    rintro rfl
    simp [h] at hd
  refine ⟨?_, apart _ rfl, apart _ rfl, apart _ rfl, apart _ rfl, apart _ rfl⟩
  simp [isGap, apart ' ' rfl, apart '\t' rfl, apart '\n' rfl, apart '\r' rfl]

/-- The characters of a value that is no text, list or dictionary: they start plainly, and `scalarAt` takes them. -/
structure Scalar (cs : List Char) (d : Datum) : Prop where
  head : ∃ c r, cs = c :: r ∧ Plain c
  takes : ∀ {rest : List Char}, Closes rest → Takes scalarAt cs rest d

theorem plain_startsNumber {cs : List Char} (h : StartsNumber cs) : ∃ c r, cs = c :: r ∧ Plain c := by
  obtain ⟨c, r, hc, rfl | rfl⟩ := h
  · exact ⟨c, r, rfl, plain_of_isDigit hc⟩
  · exact ⟨'-', c :: r, rfl, by decide⟩

theorem scalar_null : Scalar (chars null) null := by
  refine ⟨⟨'n', "ull".toList, rfl, by decide⟩, fun _ => ?_⟩
  rw [chars]
  exact scalarAt_word (by simp [words, List.isPrefixOf])

theorem scalar_bool (b : Bool) : Scalar (chars (bool b)) (bool b) := by
  cases b with
  | true =>
    refine ⟨⟨'t', "rue".toList, rfl, by decide⟩, fun _ => ?_⟩
    rw [chars]
    exact scalarAt_word (by simp [words, List.isPrefixOf])
  | false =>
    refine ⟨⟨'f', "alse".toList, rfl, by decide⟩, fun _ => ?_⟩
    rw [chars]
    exact scalarAt_word (by simp [words, List.isPrefixOf])

theorem scalar_whole (n : Int) : Scalar (chars (whole n)) (whole n) := by
  rw [chars]
  refine ⟨?_, fun hr => scalarAt_whole n hr⟩
  have h := startsNumber_sign (decide (n < 0)) (Decimal.row_toDigits n.natAbs) []
  rw [List.append_nil, ← toString_int] at h
  exact plain_startsNumber h

theorem scalar_real (x : Float) : Scalar (chars (real x)) (real (rereadReal x)) := by
  rw [chars]
  refine ⟨?_, fun hr => takes_real x hr⟩
  rcases jsonReal_shape x with hword | ⟨negative, cs, hcs, htext⟩
  · simp only [List.mem_cons, List.not_mem_nil, or_false] at hword
    rcases hword with h | h | h
    · exact h ▸ ⟨'N', "aN".toList, rfl, by decide⟩
    · exact h ▸ ⟨'I', "nfinity".toList, rfl, by decide⟩
    · exact h ▸ ⟨'-', "Infinity".toList, rfl, by decide⟩
  · obtain ⟨ds, r, hds, rfl⟩ := startsRow hcs
    rw [htext]
    exact plain_startsNumber (startsNumber_sign negative hds r)

theorem gap_of_not_isGap {c : Char} (h : isGap c = false) (r : List Char) (i : Nat) :
    Cursor.gap ⟨c :: r, i⟩ = ⟨c :: r, i⟩ := by
  rw [Cursor.gap, List.takeWhile_cons_of_neg (by simp [h])]
  rfl

theorem gap_blank {c : Char} (h : isGap c = false) (r : List Char) (i : Nat) :
    Cursor.gap ⟨' ' :: c :: r, i⟩ = ⟨c :: r, i + 1⟩ := by
  rw [Cursor.gap, List.takeWhile_cons_of_pos (by decide), List.takeWhile_cons_of_neg (by simp [h])]
  rfl

/-- Every value starts with a character that is no gap and ends no list or dictionary. -/
theorem chars_head (d : Datum) : ∃ c r, chars d = c :: r ∧ isGap c = false ∧ c ≠ ']' ∧ c ≠ '\x7d' := by
  have plain {cs : List Char} (h : ∃ c r, cs = c :: r ∧ Plain c) :
      ∃ c r, cs = c :: r ∧ isGap c = false ∧ c ≠ ']' ∧ c ≠ '\x7d' := by
    obtain ⟨c, r, hcs, hc⟩ := h
    exact ⟨c, r, hcs, hc.1, hc.2.2.2.1, hc.2.2.2.2.2⟩
  cases d with
  | null => exact plain scalar_null.head
  | bool b => exact plain (scalar_bool b).head
  | whole n => exact plain (scalar_whole n).head
  | real x => exact plain (scalar_real x).head
  | text s => exact ⟨'"', _, chars.eq_5 s, by decide, by decide, by decide⟩
  | list items => exact ⟨'[', _, chars.eq_6 items, by decide, by decide, by decide⟩
  | dict entries => exact ⟨'\x7b', _, chars.eq_7 entries, by decide, by decide, by decide⟩

theorem valueAt_scalar {cs rest : List Char} {d : Datum} (h : Scalar cs d) (fuel : Nat) (hr : Closes rest) :
    Takes (valueAt (fuel + 1)) cs rest d := by
  obtain ⟨c, r, rfl, hc⟩ := h.head
  intro i
  rw [List.cons_append, valueAt]
  dsimp only
  split
  · rename_i heq
    exact absurd (List.cons.inj heq).1 hc.2.1
  · rename_i heq
    exact absurd (List.cons.inj heq).1 hc.2.2.1
  · rename_i heq
    exact absurd (List.cons.inj heq).1 hc.2.2.2.2.1
  · exact h.takes hr i

theorem valueAt_text (fuel : Nat) (s : String) (rest : List Char) :
    Takes (valueAt (fuel + 1)) (literal s) rest (text s) := by
  intro i
  obtain ⟨j, hj⟩ := textAt_literal s rest (i + 1)
  refine ⟨j, ?_⟩
  rw [literal, List.cons_append, valueAt]
  exact congrArg (fun p => p >>= fun q => Except.ok (text q.1, q.2)) hj

theorem valueAt_list {fuel : Nat} {c : Char} {cs rest : List Char} {items : List Datum} (hg : isGap c = false)
    (hc : c ≠ ']')
    (h : Takes (itemsAt fuel) (c :: cs) rest items) :
    Takes (valueAt (fuel + 1)) ('[' :: c :: cs) rest (list items) := by
  intro i
  obtain ⟨j, hj⟩ := h (i + 1)
  refine ⟨j, ?_⟩
  have hgap : (Cursor.skip ⟨'[' :: (c :: cs ++ rest), i⟩ 1).gap = ⟨c :: cs ++ rest, i + 1⟩ := gap_of_not_isGap hg _ _
  rw [List.cons_append, valueAt]
  simp only [hgap, hj]
  simp [hc, bind, Except.bind, pure, Except.pure]

theorem valueAt_dict {fuel : Nat} {c : Char} {cs rest : List Char} {entries : List (String × Datum)}
    (hg : isGap c = false)
    (hc : c ≠ '\x7d') (h : Takes (entriesAt fuel) (c :: cs) rest entries) :
    Takes (valueAt (fuel + 1)) ('\x7b' :: c :: cs) rest (dict (entries.foldl (fun es (k, v) => put es k v) [])) := by
  intro i
  obtain ⟨j, hj⟩ := h (i + 1)
  refine ⟨j, ?_⟩
  have hgap : (Cursor.skip ⟨'\x7b' :: (c :: cs ++ rest), i⟩ 1).gap = ⟨c :: cs ++ rest, i + 1⟩ := gap_of_not_isGap hg _ _
  rw [List.cons_append, valueAt]
  simp only [hgap, hj]
  simp [hc, bind, Except.bind, pure, Except.pure]

/-- The last item of a list: its closing bracket follows. -/
theorem itemsAt_last {fuel : Nat} {cs rest : List Char} {d : Datum} (h : Takes (valueAt fuel) cs (']' :: rest) d) :
    Takes (itemsAt (fuel + 1)) (cs ++ [']']) rest [d] := by
  intro i
  obtain ⟨j, hj⟩ := h i
  rw [List.append_assoc, List.singleton_append, itemsAt, hj]
  exact ⟨_, rfl⟩

/-- An item that others follow. -/
theorem itemsAt_more {fuel : Nat} {cs ds rest : List Char} {c : Char} {d : Datum} {items : List Datum}
    (hg : isGap c = false)
    (h : Takes (valueAt fuel) cs (',' :: ' ' :: c :: ds ++ rest) d) (hs : Takes (itemsAt fuel) (c :: ds) rest items) :
    Takes (itemsAt (fuel + 1)) (cs ++ ',' :: ' ' :: c :: ds) rest (d :: items) := by
  intro i
  obtain ⟨j, hj⟩ := h i
  obtain ⟨k, hk⟩ := hs (j + 2)
  have hgap : (Cursor.skip ⟨',' :: ' ' :: c :: ds ++ rest, j⟩ 1).gap = ⟨c :: ds ++ rest, j + 2⟩ := gap_blank hg _ _
  have hcomma : Cursor.gap ⟨',' :: ' ' :: c :: ds ++ rest, j⟩ = ⟨',' :: ' ' :: c :: ds ++ rest, j⟩ :=
    gap_of_not_isGap (by decide) _ _
  refine ⟨k, ?_⟩
  rw [List.append_assoc, itemsAt, hj]
  simp only [bind, Except.bind, hcomma, hgap, hk]
  rfl

/-- What is done behind an entry of a dictionary. -/
def behindEntry (fuel : Nat) (k : String) (v : Datum) (c : Cursor) :
    Except ReadError (List (String × Datum) × Cursor) :=
  match c.rest with
  | '\x7d' :: _ => .ok ([(k, v)], c.skip 1)
  | ',' :: _ => do
    let (es, c) ← entriesAt fuel (c.skip 1).gap
    return ((k, v) :: es, c)
  | _ => c.fail .noComma

theorem entriesAt_key {fuel : Nat} (k : String) {c : Char} {cs tail : List Char} {v : Datum} (hg : isGap c = false)
    (h : Takes (valueAt fuel) (c :: cs) tail v) (i : Nat) : ∃ j,
      entriesAt (fuel + 1) ⟨literal k ++ ':' :: ' ' :: (c :: cs ++ tail), i⟩ =
        behindEntry fuel k v (Cursor.gap ⟨tail, j⟩) := by
  obtain ⟨j, hj⟩ := textAt_literal k (':' :: ' ' :: (c :: cs ++ tail)) (i + 1)
  obtain ⟨l, hl⟩ := h (j + 2)
  have hskip : Cursor.skip ⟨literal k ++ ':' :: ' ' :: (c :: cs ++ tail), i⟩ 1 =
      ⟨escapedChars k ++ ['"'] ++ ':' :: ' ' :: (c :: cs ++ tail), i + 1⟩ := rfl
  have hvalue : (Cursor.skip ⟨':' :: ' ' :: (c :: cs ++ tail), j⟩ 1).gap = ⟨c :: cs ++ tail, j + 2⟩ := gap_blank hg _ _
  have hcolon : Cursor.gap ⟨':' :: ' ' :: (c :: cs ++ tail), j⟩ = ⟨':' :: ' ' :: (c :: cs ++ tail), j⟩ :=
    gap_of_not_isGap (by decide) _ _
  refine ⟨l, ?_⟩
  rw [entriesAt]
  simp only [hskip, hj, bind, Except.bind, hcolon, hvalue, hl]
  rfl

/-- The last entry of a dictionary: its closing brace follows. -/
theorem entriesAt_last {fuel : Nat} (k : String) {c : Char} {cs rest : List Char} {v : Datum} (hg : isGap c = false)
    (h : Takes (valueAt fuel) (c :: cs) ('\x7d' :: rest) v) :
    Takes (entriesAt (fuel + 1)) (literal k ++ ':' :: ' ' :: (c :: cs ++ ['\x7d'])) rest [(k, v)] := by
  intro i
  obtain ⟨j, hj⟩ := entriesAt_key k hg h i
  have hassoc : literal k ++ ':' :: ' ' :: (c :: cs ++ ['\x7d']) ++ rest =
      literal k ++ ':' :: ' ' :: (c :: cs ++ '\x7d' :: rest) := by simp
  rw [hassoc, hj]
  exact ⟨_, rfl⟩

/-- An entry that others follow. -/
theorem entriesAt_more {fuel : Nat} (k : String) {c e : Char} {cs ds rest : List Char} {v : Datum}
    {entries : List (String × Datum)} (hg : isGap c = false) (he : isGap e = false)
    (h : Takes (valueAt fuel) (c :: cs) (',' :: ' ' :: e :: ds ++ rest) v)
    (hs : Takes (entriesAt fuel) (e :: ds) rest entries) :
    Takes (entriesAt (fuel + 1)) (literal k ++ ':' :: ' ' :: (c :: cs ++ ',' :: ' ' :: e :: ds)) rest
      ((k, v) :: entries) := by
  intro i
  obtain ⟨j, hj⟩ := entriesAt_key k hg h i
  obtain ⟨l, hl⟩ := hs (j + 2)
  have hgap : (Cursor.skip ⟨',' :: ' ' :: e :: ds ++ rest, j⟩ 1).gap = ⟨e :: ds ++ rest, j + 2⟩ := gap_blank he _ _
  have hcomma : Cursor.gap ⟨',' :: ' ' :: e :: ds ++ rest, j⟩ = ⟨',' :: ' ' :: e :: ds ++ rest, j⟩ :=
    gap_of_not_isGap (by decide) _ _
  have hassoc : literal k ++ ':' :: ' ' :: (c :: cs ++ ',' :: ' ' :: e :: ds) ++ rest =
      literal k ++ ':' :: ' ' :: (c :: cs ++ (',' :: ' ' :: e :: ds ++ rest)) := by simp
  refine ⟨l, ?_⟩
  rw [hassoc, hj, hcomma, behindEntry]
  simp only [hgap, bind, Except.bind, hl]
  rfl

theorem itemChars_cons_cons (x y : Datum) (ys : List Datum) :
    itemChars (x :: y :: ys) = chars x ++ ',' :: ' ' :: itemChars (y :: ys) := by
  rw [itemChars]
  simp

theorem entryChars_cons_cons (k : String) (v : Datum) (e : String × Datum) (es : List (String × Datum)) :
    entryChars ((k, v) :: e :: es) = literal k ++ ':' :: ' ' :: (chars v ++ ',' :: ' ' :: entryChars (e :: es)) := by
  rw [entryChars]
  simp

theorem itemChars_head (x : Datum) (xs : List Datum) :
    ∃ c r, itemChars (x :: xs) = c :: r ∧ isGap c = false ∧ c ≠ ']' := by
  obtain ⟨c, r, hcs, hg, hc, _⟩ := chars_head x
  cases xs with
  | nil => exact ⟨c, r, by rw [itemChars, hcs], hg, hc⟩
  | cons y ys => exact ⟨c, _, by rw [itemChars_cons_cons, hcs, List.cons_append], hg, hc⟩

theorem entryChars_head (k : String) (v : Datum) (es : List (String × Datum)) :
    ∃ r, entryChars ((k, v) :: es) = '"' :: r := by
  cases es with
  | nil => exact ⟨_, by rw [entryChars, literal, List.cons_append]⟩
  | cons e es => exact ⟨_, by rw [entryChars_cons_cons, literal, List.cons_append]⟩

theorem closes_cons {c : Char} (h : c = ',' ∨ c = ']' ∨ c = '\x7d') (rest : List Char) : Closes (c :: rest) := by
  rintro d ⟨⟩
  exact h

mutual

/-- **A value is read back** from what is written for it, if something follows that may follow a value. As many units of
fuel as characters are enough. -/
theorem valueAt_chars : ∀ (d : Datum) {fuel : Nat} {rest : List Char}, (chars d).length ≤ fuel → Closes rest →
    Takes (valueAt fuel) (chars d) rest d.reread
  | d, 0, rest, hf, _ => by
    obtain ⟨c, r, hcs, _⟩ := chars_head d
    rw [hcs] at hf
    simp at hf
  | null, fuel + 1, rest, _, hr => valueAt_scalar scalar_null fuel hr
  | bool b, fuel + 1, rest, _, hr => valueAt_scalar (scalar_bool b) fuel hr
  | whole n, fuel + 1, rest, _, hr => valueAt_scalar (scalar_whole n) fuel hr
  | real x, fuel + 1, rest, _, hr => valueAt_scalar (scalar_real x) fuel hr
  | text s, fuel + 1, rest, _, _ => by
    rw [chars]
    exact valueAt_text fuel s rest
  | list [], fuel + 1, rest, _, _ => fun i => ⟨i + 2, by rw [chars, itemChars, valueAt]; rfl⟩
  | dict [], fuel + 1, rest, _, _ => fun i => ⟨i + 2, by rw [chars, entryChars, valueAt]; rfl⟩
  | list (x :: xs), fuel + 1, rest, hf, _ => by
    rw [chars, List.length_cons, List.length_append, List.length_singleton] at hf
    have hfuel : (itemChars (x :: xs)).length < fuel := by omega
    have hitems := itemsAt_chars (x :: xs) rest (List.cons_ne_nil x xs) hfuel
    obtain ⟨c, r, hcs, hg, hc⟩ := itemChars_head x xs
    rw [chars, reread, hcs, List.cons_append]
    rw [hcs, List.cons_append] at hitems
    exact valueAt_list hg hc hitems
  | dict ((k, v) :: es), fuel + 1, rest, hf, _ => by
    rw [chars, List.length_cons, List.length_append, List.length_singleton] at hf
    have hfuel : (entryChars ((k, v) :: es)).length < fuel := by omega
    have hentries := entriesAt_chars ((k, v) :: es) rest (List.cons_ne_nil _ es) hfuel
    obtain ⟨r, hcs⟩ := entryChars_head k v es
    rw [chars, reread, hcs, List.cons_append]
    rw [hcs, List.cons_append] at hentries
    exact valueAt_dict (by decide) (by decide) hentries

theorem itemsAt_chars : ∀ (items : List Datum) {fuel : Nat} (rest : List Char), items ≠ [] →
    (itemChars items).length < fuel → Takes (itemsAt fuel) (itemChars items ++ [']']) rest (rereadItems items)
  | [], _, _, hne, _ => absurd rfl hne
  | _ :: _, 0, _, _, hf => absurd hf (Nat.not_lt_zero _)
  | [x], fuel + 1, rest, _, hf => by
    rw [itemChars] at hf ⊢
    exact itemsAt_last (valueAt_chars x (Nat.le_of_lt_succ hf) (closes_cons (.inr (.inl rfl)) rest))
  | x :: y :: ys, fuel + 1, rest, _, hf => by
    rw [itemChars_cons_cons, List.length_append, List.length_cons, List.length_cons] at hf
    have hfuel : (itemChars (y :: ys)).length < fuel := by omega
    have hitems := itemsAt_chars (y :: ys) rest (List.cons_ne_nil y ys) hfuel
    obtain ⟨c, r, hcs, hg, _⟩ := itemChars_head y ys
    rw [itemChars_cons_cons, rereadItems, List.append_assoc, List.cons_append, List.cons_append, hcs, List.cons_append]
    rw [hcs, List.cons_append] at hitems
    have hx := valueAt_chars x (show (chars x).length ≤ fuel by omega)
      (closes_cons (.inl rfl) (' ' :: c :: (r ++ [']']) ++ rest))
    exact itemsAt_more hg hx hitems

theorem entriesAt_chars : ∀ (entries : List (String × Datum)) {fuel : Nat} (rest : List Char), entries ≠ [] →
    (entryChars entries).length < fuel →
      Takes (entriesAt fuel) (entryChars entries ++ ['\x7d']) rest (rereadEntries entries)
  | [], _, _, hne, _ => absurd rfl hne
  | _ :: _, 0, _, _, hf => absurd hf (Nat.not_lt_zero _)
  | [(k, v)], fuel + 1, rest, _, hf => by
    rw [entryChars, List.length_append, List.length_cons, List.length_cons] at hf
    have hv := valueAt_chars v (show (chars v).length ≤ fuel by omega) (closes_cons (.inr (.inr rfl)) rest)
    obtain ⟨c, r, hcs, hg, _⟩ := chars_head v
    rw [entryChars, rereadEntries, rereadEntries, hcs, List.append_assoc, List.cons_append, List.cons_append]
    rw [hcs] at hv
    exact entriesAt_last k hg hv
  | (k, v) :: (l, w) :: es, fuel + 1, rest, _, hf => by
    rw [entryChars_cons_cons, List.length_append, List.length_cons, List.length_cons, List.length_append,
      List.length_cons, List.length_cons] at hf
    have hfuel : (entryChars ((l, w) :: es)).length < fuel := by omega
    have hentries := entriesAt_chars ((l, w) :: es) rest (List.cons_ne_nil _ es) hfuel
    have hv := valueAt_chars v (show (chars v).length ≤ fuel by omega)
      (closes_cons (.inl rfl) (' ' :: (entryChars ((l, w) :: es) ++ ['\x7d']) ++ rest))
    obtain ⟨c, r, hcs, hg, _⟩ := chars_head v
    obtain ⟨r', hcs'⟩ := entryChars_head l w es
    rw [hcs'] at hentries hv
    rw [hcs] at hv
    have hall := entriesAt_more k hg (by decide) hv hentries
    rw [entryChars_cons_cons, rereadEntries, hcs, hcs']
    simpa using hall

end

/-! ## One line of printable characters -/

/-- A printable character of ASCII. -/
def Printable (c : Char) : Prop :=
  0x20 ≤ c.toNat ∧ c.toNat < 0x7F

instance (c : Char) : Decidable (Printable c) :=
  inferInstanceAs (Decidable (_ ∧ _))

/-- The space is the only printable blank. -/
theorem Printable.not_isBlank {c : Char} (h : Printable c) (hs : isGap c = false) : Text.isBlank c = false := by
  have hspace : c.toNat ≠ 0x20 := by
    intro heq
    rw [← Char.ofNat_toNat c, heq] at hs
    exact absurd hs (by decide)
  obtain ⟨hlow, hhigh⟩ := h
  simp [Text.isBlank, Text.covers, Text.blankSpans]
  omega

/-- All characters of a row are printable. -/
def Clean (cs : List Char) : Prop :=
  ∀ c ∈ cs, Printable c

theorem clean_nil : Clean [] :=
  fun _ h => absurd h List.not_mem_nil

theorem clean_cons {c : Char} {cs : List Char} : Clean (c :: cs) ↔ Printable c ∧ Clean cs :=
  List.forall_mem_cons

theorem clean_append {cs ds : List Char} : Clean (cs ++ ds) ↔ Clean cs ∧ Clean ds :=
  List.forall_mem_append

theorem clean_row {ds : List Char} (h : Decimal.Row ds) : Clean ds := by
  intro c hc
  have hdigit : 48 ≤ c.toNat ∧ c.toNat ≤ 57 := by
    simpa [Char.isDigit, UInt32.le_iff_toNat_le] using h.2 c hc
  exact ⟨by omega, by omega⟩

theorem clean_hex {n : Nat} (h : n < 0x10000) : Clean (Text.hex 4 n).toList := by
  have hdigit : ∀ d < 16, Printable (Nat.digitChar d) := by decide
  rw [toList_hex h]
  simp only [clean_cons]
  exact ⟨hdigit _ (by omega), hdigit _ (by omega), hdigit _ (by omega), hdigit _ (by omega), clean_nil⟩

theorem clean_unitEscape {n : Nat} (h : n < 0x10000) : Clean (unitEscape n).toList := by
  rw [toList_unitEscape, clean_cons, clean_cons]
  exact ⟨by decide, by decide, clean_hex h⟩

theorem Escape.clean {c : Char} {cs : List Char} (h : Escape c cs) : Clean cs := by
  cases h with
  | short _ hp => exact clean_cons.2 ⟨by decide, clean_cons.2 ⟨hp, clean_nil⟩⟩
  | plain _ _ hp => exact clean_cons.2 ⟨hp, clean_nil⟩
  | unit hc => exact clean_unitEscape hc
  | pair hc =>
    have hvalid : c.toNat < 0xD800 ∨ 0xDFFF < c.toNat ∧ c.toNat < 0x110000 := c.valid
    exact clean_append.2 ⟨clean_unitEscape (by omega), clean_unitEscape (by omega)⟩

theorem clean_literal (s : String) : Clean (literal s) := by
  rw [literal, clean_cons, clean_append, clean_cons]
  refine ⟨by decide, ?_, by decide, clean_nil⟩
  intro c hc
  obtain ⟨d, _, hd⟩ := List.mem_flatMap.1 hc
  exact (escape_escapeJson d).clean c hd

theorem clean_sign (negative : Bool) : Clean (if negative then ['-'] else []) := by
  cases negative with
  | true => exact clean_cons.2 ⟨by decide, clean_nil⟩
  | false => exact clean_nil

theorem clean_numeral {cs : List Char} (h : Decimal.Numeral cs) : Clean cs := by
  have sign {c : Char} (hc : c = '+' ∨ c = '-') : Printable c := by
    rcases hc with rfl | rfl <;> decide
  cases h with
  | pointed hw hd =>
    rw [clean_append, clean_cons]
    exact ⟨clean_row hw.1, by decide, clean_row hd⟩
  | scaled hw hs he =>
    rw [clean_append, clean_cons, clean_cons]
    exact ⟨clean_row hw.1, by decide, sign hs, clean_row he⟩
  | both hw hd hs he =>
    rw [clean_append, clean_cons, clean_append, clean_cons, clean_cons]
    exact ⟨clean_row hw.1, by decide, clean_row hd, by decide, sign hs, clean_row he⟩

theorem clean_jsonReal (x : Float) : Clean (jsonReal x).toList := by
  rcases jsonReal_shape x with hword | ⟨negative, cs, hcs, htext⟩
  · simp only [List.mem_cons, List.not_mem_nil, or_false] at hword
    rcases hword with h | h | h
    · rw [h]
      simp [Clean, Printable]
    · rw [h]
      simp [Clean, Printable]
    · rw [h]
      simp [Clean, Printable]
  · rw [htext, clean_append]
    exact ⟨clean_sign negative, clean_numeral hcs⟩

mutual

/-- **What is written for a value is printable**; in particular it has no line break. -/
theorem clean_chars : ∀ d : Datum, Clean (chars d)
  | null => by simp [chars, Clean, Printable]
  | bool b => by cases b <;> simp [chars, Clean, Printable]
  | whole n => by
    rw [chars, toString_int, clean_append]
    exact ⟨clean_sign _, clean_row (Decimal.row_toDigits _)⟩
  | real x => by
    rw [chars]
    exact clean_jsonReal x
  | text s => by
    rw [chars]
    exact clean_literal s
  | list items => by
    rw [chars, clean_cons, clean_append, clean_cons]
    exact ⟨by decide, clean_itemChars items, by decide, clean_nil⟩
  | dict entries => by
    rw [chars, clean_cons, clean_append, clean_cons]
    exact ⟨by decide, clean_entryChars entries, by decide, clean_nil⟩

theorem clean_itemChars : ∀ items : List Datum, Clean (itemChars items)
  | [] => by
    rw [itemChars]
    exact clean_nil
  | [x] => by
    rw [itemChars]
    exact clean_chars x
  | x :: y :: ys => by
    rw [itemChars_cons_cons, clean_append, clean_cons, clean_cons]
    exact ⟨clean_chars x, by decide, by decide, clean_itemChars (y :: ys)⟩

theorem clean_entryChars : ∀ entries : List (String × Datum), Clean (entryChars entries)
  | [] => by
    rw [entryChars]
    exact clean_nil
  | [(k, v)] => by
    rw [entryChars, clean_append, clean_cons, clean_cons]
    exact ⟨clean_literal k, by decide, by decide, clean_chars v⟩
  | (k, v) :: e :: es => by
    rw [entryChars_cons_cons, clean_append, clean_cons, clean_cons, clean_append, clean_cons, clean_cons]
    exact ⟨clean_literal k, by decide, by decide, clean_chars v, by decide, by decide, clean_entryChars (e :: es)⟩

end

/-- **Reading what is written for a value gives the value back**, up to what `reread` says. -/
theorem read_json (d : Datum) : read d.json = .ok d.reread := by
  obtain ⟨c, r, hcs, hg, _⟩ := chars_head d
  have hmark : (chars d).head? ≠ some '\ufeff' := by
    intro h
    have hp := clean_chars d '\ufeff' (List.mem_of_mem_head? h)
    exact absurd hp (by decide)
  have hfuel : (chars d).length ≤ 2 * (chars d).length + 2 := by omega
  obtain ⟨j, hj⟩ := valueAt_chars d hfuel (show Closes [] by simp [Closes]) 0
  rw [List.append_nil] at hj
  have hgap : Cursor.gap ⟨chars d, 0⟩ = ⟨chars d, 0⟩ := by
    rw [hcs]
    exact gap_of_not_isGap hg r 0
  rw [read, toList_json]
  dsimp only
  rw [if_neg hmark, hgap]
  simp only [bind, Except.bind, pure, Except.pure, hj]
  rfl

theorem readDocument_json (d : Datum) : Bench.readDocument d.json = .ok d.reread := by
  rw [Bench.readDocument, read_json]
  rfl

/-! ## Dictionaries -/

theorem rereadEntries_eq_map : ∀ es : List (String × Datum), rereadEntries es = es.map fun e => (e.1, e.2.reread)
  | [] => by rw [rereadEntries, List.map_nil]
  | (k, v) :: es => by rw [rereadEntries, rereadEntries_eq_map es, List.map_cons]

theorem rereadItems_eq_map : ∀ ds : List Datum, rereadItems ds = ds.map reread
  | [] => by rw [rereadItems, List.map_nil]
  | d :: ds => by rw [rereadItems, rereadItems_eq_map ds, List.map_cons]

/-- A new key comes last. -/
theorem put_of_not_mem {k : String} (v : Datum) : ∀ {es : List (String × Datum)}, k ∉ es.map Prod.fst →
    put es k v = es ++ [(k, v)]
  | [], _ => rfl
  | (l, w) :: es, h => by
    rw [List.map_cons, List.mem_cons, not_or] at h
    rw [put, if_neg (Ne.symm h.1), put_of_not_mem v h.2, List.cons_append]

/-- A known key keeps its place. -/
theorem keys_put_of_mem {k : String} (v : Datum) : ∀ {es : List (String × Datum)}, k ∈ es.map Prod.fst →
    (put es k v).map Prod.fst = es.map Prod.fst
  | (l, w) :: es, h => by
    rw [put]
    split
    · rw [List.map_cons, List.map_cons]
    · rename_i hl
      have hes : k ∈ es.map Prod.fst := (List.mem_cons.1 h).resolve_left (Ne.symm hl)
      rw [List.map_cons, keys_put_of_mem v hes, List.map_cons]

theorem nodup_put {es : List (String × Datum)} (h : (es.map Prod.fst).Nodup) (k : String) (v : Datum) :
    ((put es k v).map Prod.fst).Nodup := by
  by_cases hk : k ∈ es.map Prod.fst
  · rwa [keys_put_of_mem v hk]
  · rw [put_of_not_mem v hk, List.map_append, List.nodup_append]
    refine ⟨h, by simp, ?_⟩
    rintro a ha b hb rfl
    have hak : a = k := List.mem_singleton.1 hb
    exact hk (hak ▸ ha)

/-- Entries with distinct keys are kept as they are. -/
theorem foldl_put : ∀ (es acc : List (String × Datum)), ((acc ++ es).map Prod.fst).Nodup →
    es.foldl (fun es (k, v) => put es k v) acc = acc ++ es
  | [], acc, _ => (List.append_nil acc).symm
  | (k, v) :: es, acc, h => by
    have hk : k ∉ acc.map Prod.fst := by
      intro hmem
      rw [List.map_append, List.nodup_append] at h
      exact h.2.2 k hmem k List.mem_cons_self rfl
    have hrest := foldl_put es (acc ++ [(k, v)]) (by simpa using h)
    rw [List.append_assoc, List.singleton_append, ← put_of_not_mem v hk] at hrest
    exact hrest

theorem mem_put {k : String} {v : Datum} {e : String × Datum} : ∀ {es : List (String × Datum)}, e ∈ put es k v →
    e ∈ es ∨ e = (k, v)
  | [], h => .inr (List.mem_singleton.1 h)
  | (l, w) :: es, h => by
    rw [put] at h
    split at h
    · rename_i hl
      rcases List.mem_cons.1 h with rfl | h
      · exact .inr (by rw [hl])
      · exact .inl (List.mem_cons_of_mem _ h)
    · rcases List.mem_cons.1 h with rfl | h
      · exact .inl List.mem_cons_self
      · rcases mem_put h with h | h
        · exact .inl (List.mem_cons_of_mem _ h)
        · exact .inr h

theorem mem_foldl_put {e : String × Datum} : ∀ {es acc : List (String × Datum)},
    e ∈ es.foldl (fun es (k, v) => put es k v) acc → e ∈ acc ∨ e ∈ es
  | [], _, h => .inl h
  | (k, v) :: es, acc, h => by
    have hrest : e ∈ put acc k v ∨ e ∈ es := mem_foldl_put h
    rcases hrest with h | h
    · rcases mem_put h with h | h
      · exact .inl h
      · exact .inr (h ▸ List.mem_cons_self)
    · exact .inr (List.mem_cons_of_mem _ h)

/-- A dictionary with distinct keys is read back entry by entry. -/
theorem reread_dict {es : List (String × Datum)} (h : (es.map Prod.fst).Nodup) :
    reread (dict es) = dict (es.map fun e => (e.1, e.2.reread)) := by
  have hkeys : (es.map fun e => (e.1, e.2.reread)).map Prod.fst = es.map Prod.fst := by
    rw [List.map_map]
    rfl
  rw [reread, rereadEntries_eq_map, foldl_put _ [] (by rwa [List.nil_append, hkeys]), List.nil_append]

/-- The entries of a dictionary as it is read back come from its entries. -/
theorem exists_of_reread_dict {es fs : List (String × Datum)} (h : reread (dict es) = dict fs) {f : String × Datum}
    (hf : f ∈ fs) : ∃ e ∈ es, f = (e.1, e.2.reread) := by
  rw [reread, rereadEntries_eq_map] at h
  rw [← dict.inj h] at hf
  rcases mem_foldl_put hf with hf | hf
  · exact absurd hf List.not_mem_nil
  · obtain ⟨e, he, heq⟩ := List.mem_map.1 hf
    exact ⟨e, he, heq.symm⟩

end FormulaSql.Datum
