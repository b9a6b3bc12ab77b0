import FormulaSql.Datum.Reader
import FormulaSql.Datum.Writer
import FormulaSql.Proofs.Text.Runs

/-!
# Numbers in written data

A whole number is written as its digits, and reading them gives the number back (`scalarAt_whole`). A double is written
as a numeral: digits with a point, an exponent or both (`Numeral`). The reader of data takes a numeral as a whole and
gives a double (`scalarAt_real`); which one does not matter here, so nothing is said about rounding.

That the shortest decimal of a double is a numeral rests on its first digit: the decimal lies above the lower end of the
interval of the double, which is positive, so its digits are not all zeros (`withDigits_ne_zero`).
-/

namespace FormulaSql.Decimal

/-! ## Numerals -/

/-- A row of digits, not empty. -/
def Row (ds : List Char) : Prop :=
  ds ≠ [] ∧ ∀ c ∈ ds, c.isDigit

/-- The digits before the point: a zero in front stands alone. -/
def Whole (ds : List Char) : Prop :=
  Row ds ∧ (ds = ['0'] ∨ ds.head? ≠ some '0')

/-- Digits with a point, an exponent or both. -/
inductive Numeral : List Char → Prop
  | pointed {whole ds : List Char} : Whole whole → Row ds → Numeral (whole ++ '.' :: ds)
  | scaled {whole es : List Char} {sign : Char} : Whole whole → sign = '+' ∨ sign = '-' → Row es →
      Numeral (whole ++ 'e' :: sign :: es)
  | both {whole ds es : List Char} {sign : Char} : Whole whole → Row ds → sign = '+' ∨ sign = '-' → Row es →
      Numeral (whole ++ '.' :: (ds ++ 'e' :: sign :: es))

theorem Row.append {ds es : List Char} (hd : ∀ c ∈ ds, c.isDigit) (he : Row es) : Row (ds ++ es) := by
  refine ⟨by simp [he.1], fun c hc => ?_⟩
  rcases List.mem_append.1 hc with hc | hc
  · exact hd c hc
  · exact he.2 c hc

theorem row_toDigits (n : Nat) : Row (Nat.toDigits 10 n) :=
  ⟨Nat.toDigits_ne_nil, fun _ hc => Nat.isDigit_of_mem_toDigits (by decide) (by decide) hc⟩

theorem row_zero : Row ['0'] :=
  row_toDigits 0

theorem zeros_isDigit (n : Nat) : ∀ c ∈ (zeros n).toList, c.isDigit := by
  intro c hc
  rw [zeros, String.toList_ofList] at hc
  rw [List.eq_of_mem_replicate hc]
  decide

/-- The first digit of a positive number is no zero. -/
theorem head_toDigits_ne_zero {n : Nat} (h : n ≠ 0) : (Nat.toDigits 10 n).head? ≠ some '0' := by
  induction n using Nat.strongRecOn with
  | ind n ih =>
    rw [Nat.toDigits_eq_if (by decide)]
    split
    · rename_i hlt
      simpa using h
    · rename_i hlt
      have hdiv : n / 10 ≠ 0 := by omega
      have hlt' : n / 10 < n := by omega
      have hhead := ih (n / 10) hlt' hdiv
      obtain ⟨d, ds, hds⟩ := List.exists_cons_of_ne_nil (@Nat.toDigits_ne_nil (n / 10) 10)
      rw [hds] at hhead ⊢
      exact hhead

theorem whole_toDigits (n : Nat) : Whole (Nat.toDigits 10 n) := by
  refine ⟨row_toDigits n, ?_⟩
  by_cases h : n = 0
  · exact .inl (by rw [h, Nat.toDigits_zero])
  · exact .inr (head_toDigits_ne_zero h)

theorem whole_zero : Whole ['0'] :=
  whole_toDigits 0

/-! ## Shortest decimals -/

theorem ratio_pos {m : Nat} (h : 0 < m) (e : Int) : 0 < (ratio m e).1 := by
  cases e with
  | ofNat k => exact Nat.mul_pos h (Nat.pow_pos (by decide))
  | negSucc k => exact h

theorem scale_pos {num : Nat} (h : 0 < num) (den : Nat) (places : Int) : 0 < (scale num den places).1 := by
  cases places with
  | ofNat k => exact Nat.mul_pos h (Nat.pow_pos (by decide))
  | negSucc k => exact h

theorem div_le_roundDiv (num den : Nat) : num / den ≤ roundDiv num den := by
  unfold roundDiv
  dsimp only
  split
  · exact Nat.le_refl _
  · split <;> omega

/-- A multiple of the unit that lies in an interval with a positive lower end is no zero. -/
theorem ne_zero_of_inside {mantissa lower upper unit n : Nat} (hlower : 0 < lower)
    (h : (if mantissa % 2 = 0 then lower ≤ n * unit && n * unit ≤ upper
      else lower < n * unit && n * unit < upper) = true) :
    n ≠ 0 := by
  rintro rfl
  rw [Nat.zero_mul] at h
  split at h
  · simp only [Bool.and_eq_true, decide_eq_true_eq] at h
    omega
  · simp only [Bool.and_eq_true, decide_eq_true_eq] at h
    omega

/-- The digits of a decimal that reads back as a positive double are not all zeros. -/
theorem withDigits_ne_zero {mantissa : Nat} (hm : mantissa ≠ 0) {exponent : Int} {count : Nat} {d : Digits}
    (h : withDigits? mantissa exponent count = some d) : d.digits ≠ 0 := by
  unfold withDigits? at h
  dsimp only at h
  obtain ⟨n, hn, rfl⟩ := Option.map_eq_some_iff.1 h
  have positive {low : Nat} (hlow : 0 < low) (p q : Int) : 0 < (scale (ratio low p).1 (ratio low p).2 q).1 :=
    scale_pos (ratio_pos hlow p) _ q
  have hlow : 0 < if mantissa = Nat.pow 2 52 ∧ -1074 < exponent then 4 * mantissa - 1 else 4 * mantissa - 2 := by
    split <;> omega
  have hne : n ≠ 0 := by
    split at hn
    · rename_i hbelow _
      have hq := ne_zero_of_inside (positive hlow _ _) hbelow
      rw [← Option.some.inj hn]
      exact Nat.ne_of_gt (Nat.lt_of_lt_of_le (Nat.pos_of_ne_zero hq) (div_le_roundDiv _ _))
    · rename_i hbelow _
      rw [← Option.some.inj hn]
      exact ne_zero_of_inside (positive hlow _ _) hbelow
    · rw [← Option.some.inj hn]
      exact Nat.succ_ne_zero _
    · cases hn
  split
  · exact Nat.one_ne_zero
  · exact hne

/-- The shortest decimal has a digit that is no zero, or it is a plain zero. -/
theorem shortest_digits {mantissa : Nat} (hm : mantissa ≠ 0) (exponent : Int) :
    (shortest mantissa exponent).digits ≠ 0 ∨ shortest mantissa exponent = ⟨0, 1⟩ := by
  unfold shortest
  cases h : (List.range 17).findSome? fun i => withDigits? mantissa exponent (i + 1) with
  | none => exact .inr rfl
  | some d =>
    obtain ⟨i, _, hi⟩ := List.exists_of_findSome?_eq_some h
    exact .inl (withDigits_ne_zero hm hi)

theorem exponentText_toList (e : Int) :
    ∃ sign es, (exponentText e).toList = 'e' :: sign :: es ∧ (sign = '+' ∨ sign = '-') ∧ Row es := by
  have hrow : Row ((if e.natAbs < 10 then "0" else "").toList ++ (toString e.natAbs).toList) := by
    rw [toList_toString]
    refine Row.append ?_ (row_toDigits _)
    split
    · exact row_zero.2
    · simp
  unfold exponentText
  rw [String.append_assoc, String.toList_append, String.toList_append]
  split
  · exact ⟨'-', _, rfl, .inr rfl, hrow⟩
  · exact ⟨'+', _, rfl, .inl rfl, hrow⟩

/-- **A decimal is written as a numeral.** -/
theorem numeral_digits {d : Digits} (h : d.digits ≠ 0) : Numeral d.text.toList := by
  have hrow := row_toDigits d.digits
  have hhead := head_toDigits_ne_zero h
  obtain ⟨c, cs, hds⟩ := List.exists_cons_of_ne_nil hrow.1
  unfold Digits.text
  dsimp only
  rw [hds] at hrow hhead ⊢
  have hnonzero {ds : List Char} (hd : Row (c :: ds)) : Whole (c :: ds) := ⟨hd, .inr hhead⟩
  split
  · split
    · -- below one: a zero, the point, more zeros and the digits
      simp only [String.toList_append, String.toList_ofList, List.append_assoc]
      have hall := Numeral.pointed whole_zero (Row.append (zeros_isDigit d.point.natAbs) hrow)
      exact hall
    · rename_i hpoint
      split
      · -- a whole number: the digits, zeros up to the point, and one behind it
        simp only [String.toList_append, String.toList_ofList]
        refine .pointed (hnonzero ?_) row_zero
        exact ⟨by simp, List.forall_mem_append.2 ⟨hrow.2, zeros_isDigit _⟩⟩
      · rename_i hlen
        obtain ⟨k, hk⟩ : ∃ k, d.point.toNat = k + 1 := ⟨d.point.toNat - 1, by omega⟩
        simp only [String.toList_append, String.toList_ofList, List.append_assoc, hk, List.take_succ_cons,
          List.drop_succ_cons]
        have hfront : Row (c :: cs.take k) :=
          ⟨by simp, fun x hx => hrow.2 x ((List.take_sublist (k + 1) (c :: cs)).subset hx)⟩
        have hback : Row (cs.drop k) := by
          refine ⟨?_, fun x hx => hrow.2 x (List.mem_cons_of_mem c (List.mem_of_mem_drop hx))⟩
          rw [hk, List.length_cons] at hlen
          exact List.ne_nil_of_length_pos (by rw [List.length_drop]; omega)
        exact Numeral.pointed (hnonzero hfront) hback
  · -- one digit before the point, and an exponent
    obtain ⟨sign, es, hexp, hsign, hes⟩ := exponentText_toList (d.point - 1)
    have hfirst : Whole [c] := hnonzero ⟨by simp, fun x hx => hrow.2 x (by simp at hx; simp [hx])⟩
    simp only [List.take_succ_cons, List.take_zero, List.drop_succ_cons, List.drop_zero]
    rw [String.toList_append, String.toList_append, String.toList_ofList, hexp]
    by_cases hcs : cs = []
    · rw [hcs]
      exact .scaled hfirst hsign hes
    · have hne : (String.ofList cs).isEmpty = false := by simpa using hcs
      rw [hne]
      simp only [Bool.false_eq_true, if_false, String.toList_append, String.toList_ofList, List.append_assoc]
      exact .both hfirst ⟨hcs, fun x hx => hrow.2 x (List.mem_cons_of_mem c hx)⟩ hsign hes

/-- **A finite double is written as a numeral**, with a minus sign in front if it is negative. -/
theorem numeral_finite (negative : Bool) (mantissa : Nat) (exponent : Int) :
    ∃ cs, Numeral cs ∧
      (Exact.finite negative mantissa exponent).text.toList = (if negative then ['-'] else []) ++ cs := by
  have zero : Numeral "0.0".toList := .pointed whole_zero row_zero
  have body : Numeral (if mantissa = 0 then "0.0" else (shortest mantissa exponent).text).toList := by
    split
    · exact zero
    · rename_i hm
      rcases shortest_digits hm exponent with hd | hd
      · exact numeral_digits hd
      · rw [hd]
        exact zero
  refine ⟨_, body, ?_⟩
  unfold Exact.text
  rw [String.toList_append]
  cases negative <;> rfl

end FormulaSql.Decimal

namespace FormulaSql.Datum.Reader

open Decimal

/-! ## Reading a number -/

/-- The reader takes `cs` off the front of `cs ++ rest` and gives `a`. -/
def Takes {α : Type} (reader : Cursor → Except ReadError (α × Cursor)) (cs rest : List Char) (a : α) : Prop :=
  ∀ i, ∃ j, reader ⟨cs ++ rest, i⟩ = .ok (a, ⟨rest, j⟩)

/-- What may stand behind a value: nothing, a comma, or the end of a list or dictionary. -/
def Closes (rest : List Char) : Prop :=
  ∀ c ∈ rest.head?, c = ',' ∨ c = ']' ∨ c = '\x7d'

/-- The first character, if there is one, is no digit. -/
def NoDigit (rest : List Char) : Prop :=
  ∀ c ∈ rest.head?, c.isDigit = false

theorem noDigit_cons {c : Char} (h : c.isDigit = false) (rest : List Char) : NoDigit (c :: rest) := by
  rintro d ⟨⟩
  exact h

theorem Closes.noDigit {rest : List Char} (h : Closes rest) : NoDigit rest := by
  intro c hc
  rcases h c hc with rfl | rfl | rfl <;> decide

theorem takeWhile_row {ds rest : List Char} (hd : ∀ c ∈ ds, c.isDigit) (hr : NoDigit rest) :
    (ds ++ rest).takeWhile Char.isDigit = ds :=
  (span_stop hd fun c hc => by simp [hr c hc]).1

theorem Closes.fraction {rest : List Char} (h : Closes rest) : fraction? rest = none := by
  cases rest with
  | nil => rfl
  | cons c rest => rcases h c rfl with rfl | rfl | rfl <;> rfl

theorem Closes.exponent {rest : List Char} (h : Closes rest) : Reader.exponent? rest = none := by
  cases rest with
  | nil => rfl
  | cons c rest => rcases h c rfl with rfl | rfl | rfl <;> rfl

theorem fraction_pointed {ds rest : List Char} (hd : Row ds) (hr : NoDigit rest) :
    fraction? ('.' :: (ds ++ rest)) = some ds := by
  rw [fraction?, takeWhile_row hd.2 hr, if_neg (by simpa using hd.1)]

/-- The exponent that a sign and digits spell. -/
def exponentOf (sign : Char) (es : List Char) : Int :=
  if sign = '-' then -digitsValue es else digitsValue es

theorem exponent_scaled {sign : Char} {es rest : List Char} (hs : sign = '+' ∨ sign = '-') (he : Row es)
    (hr : NoDigit rest) :
    Reader.exponent? ('e' :: sign :: (es ++ rest)) = some (exponentOf sign es, 2 + es.length) := by
  have hsign : takeSign (sign :: (es ++ rest)) = (decide (sign = '-'), es ++ rest) := by
    rcases hs with rfl | rfl <;> rfl
  unfold Reader.exponent?
  dsimp only
  rw [if_pos (.inl rfl), hsign]
  dsimp only
  rw [takeWhile_row he.2 hr, if_neg (by simpa using he.1)]
  have hlen : 1 + ((sign :: (es ++ rest)).length - (es ++ rest).length) + es.length = 2 + es.length := by
    simp only [List.length_cons]
    omega
  rw [hlen]
  simp only [exponentOf, decide_eq_true_eq]

theorem takeMinus_sign (negative : Bool) {whole r : List Char} (hw : Row whole) :
    takeMinus ((if negative then ['-'] else []) ++ (whole ++ r)) = (negative, whole ++ r) := by
  cases negative with
  | true => rfl
  | false =>
    obtain ⟨c, cs, rfl⟩ := List.exists_cons_of_ne_nil hw.1
    have hc : c ≠ '-' := by
      rintro rfl
      exact absurd (hw.2 '-' List.mem_cons_self) (by decide)
    simp [takeMinus, hc]

theorem wholeDigits_whole {whole r : List Char} (hw : Whole whole) (hr : NoDigit r) :
    wholeDigits (whole ++ r) = whole := by
  unfold wholeDigits
  dsimp only
  rw [takeWhile_row hw.1.2 hr]
  rcases hw.2 with rfl | h
  · rfl
  · rw [if_neg h]

/-- **A number is read part by part**: a sign, the digits before the point, a fraction and an exponent. The last two are
given by what the reader finds at their places. -/
theorem numberAt_parts (negative : Bool) {whole : List Char} (hw : Whole whole) (more rest : List Char)
    (hm : NoDigit (more ++ rest)) (fraction : Option (List Char)) (exponent : Option (Int × Nat))
    (hf : fraction? (more ++ rest) = fraction)
    (he : Reader.exponent? ((more ++ rest).drop ((fraction.map (·.length + 1)).getD 0)) = exponent)
    (hlen : (fraction.map (·.length + 1)).getD 0 + (exponent.map (·.2)).getD 0 = more.length) :
    Takes numberAt ((if negative then ['-'] else []) ++ (whole ++ more)) rest
      (numberOf negative whole fraction (exponent.map (·.1))) := by
  intro i
  have hne : whole.isEmpty = false := by simpa using hw.1.1
  have hrest (n : Nat) (hn : n = (if negative then 1 else 0) + (whole.length + more.length)) :
      ((if negative then ['-'] else []) ++ (whole ++ (more ++ rest))).drop n = rest := by
    rw [← List.append_assoc whole, ← List.append_assoc]
    refine List.drop_left' ?_
    rw [hn, List.length_append, List.length_append]
    cases negative <;> rfl
  unfold numberAt
  rw [List.append_assoc, List.append_assoc, takeMinus_sign negative hw.1]
  dsimp only
  rw [wholeDigits_whole hw hm, hne, List.drop_left, hf, he, if_neg (by simp)]
  rw [Cursor.skip, hrest _ (by omega)]
  exact ⟨_, rfl⟩

theorem numberOf_real (negative : Bool) (whole : List Char) (fraction : Option (List Char)) (exponent : Option Int)
    (h : (fraction.isNone && exponent.isNone) = false) : ∃ y, numberOf negative whole fraction exponent = .real y :=
  ⟨_, by rw [numberOf, h, if_neg (by simp)]⟩

/-- **A numeral is read as a double**, the same one whatever follows. -/
theorem numberAt_numeral (negative : Bool) {cs : List Char} (h : Numeral cs) :
    ∃ y, ∀ rest, Closes rest → Takes numberAt ((if negative then ['-'] else []) ++ cs) rest (.real y) := by
  cases h with
  | @pointed whole ds hw hd =>
    obtain ⟨y, hy⟩ := numberOf_real negative whole (some ds) none rfl
    refine ⟨y, fun rest hr => hy ▸ ?_⟩
    have he : Reader.exponent? (('.' :: ds ++ rest).drop (ds.length + 1)) = none := by simpa using hr.exponent
    exact numberAt_parts negative hw ('.' :: ds) rest (noDigit_cons (by decide) _) (some ds) none
      (fraction_pointed hd hr.noDigit) he rfl
  | @scaled whole es sign hw hs he =>
    obtain ⟨y, hy⟩ := numberOf_real negative whole none (some (exponentOf sign es)) rfl
    refine ⟨y, fun rest hr => hy ▸ ?_⟩
    have hlen : 0 + (2 + es.length) = ('e' :: sign :: es).length := by
      simp only [List.length_cons]
      omega
    exact numberAt_parts negative hw ('e' :: sign :: es) rest (noDigit_cons (by decide) _) none
      (some (exponentOf sign es, 2 + es.length)) rfl (exponent_scaled hs he hr.noDigit) hlen
  | @both whole ds es sign hw hd hs he =>
    obtain ⟨y, hy⟩ := numberOf_real negative whole (some ds) (some (exponentOf sign es)) rfl
    refine ⟨y, fun rest hr => hy ▸ ?_⟩
    have hf : fraction? ('.' :: (ds ++ 'e' :: sign :: es) ++ rest) = some ds := by
      rw [List.cons_append, List.append_assoc]
      exact fraction_pointed hd (noDigit_cons (by decide) _)
    have he' : Reader.exponent? (('.' :: (ds ++ 'e' :: sign :: es) ++ rest).drop (ds.length + 1)) =
        some (exponentOf sign es, 2 + es.length) := by
      simpa using exponent_scaled hs he hr.noDigit
    have hlen : (ds.length + 1) + (2 + es.length) = ('.' :: (ds ++ 'e' :: sign :: es)).length := by
      simp only [List.length_cons, List.length_append]
      omega
    exact numberAt_parts negative hw ('.' :: (ds ++ 'e' :: sign :: es)) rest (noDigit_cons (by decide) _) (some ds)
      (some (exponentOf sign es, 2 + es.length)) hf he' hlen

/-! ## Whole numbers and doubles -/

theorem digitValue_isDigit {c : Char} (h : c.isDigit) : Text.digitValue? c = some (c.toNat - 48) := by
  have hc : 48 ≤ c.toNat ∧ c.toNat ≤ 57 := by
    simpa [Char.isDigit, UInt32.le_iff_toNat_le] using h
  simp [Text.digitValue?, Text.zeros, hc]

theorem filterMap_digitValue : ∀ {ds : List Char}, (∀ c ∈ ds, c.isDigit) →
    ds.filterMap Text.digitValue? = ds.map fun c => c.toNat - 48
  | [], _ => rfl
  | c :: ds, h => by
    have ih := filterMap_digitValue fun d hd => h d (List.mem_cons_of_mem c hd)
    rw [List.filterMap_cons_some (digitValue_isDigit (h c List.mem_cons_self)), ih, List.map_cons]

/-- The digits of a number spell the number. -/
theorem digitsValue_toDigits (n : Nat) : digitsValue (Nat.toDigits 10 n) = n := by
  rw [digitsValue, filterMap_digitValue (row_toDigits n).2, List.foldl_map]
  exact Nat.ofDigitChars_ten_toDigits

/-- What a number starts with: a digit, or a minus sign and a digit. -/
def StartsNumber (cs : List Char) : Prop :=
  ∃ c r, c.isDigit ∧ (cs = c :: r ∨ cs = '-' :: c :: r)

theorem startsNumber_sign (negative : Bool) {ds : List Char} (hd : Row ds) (r : List Char) :
    StartsNumber ((if negative then ['-'] else []) ++ (ds ++ r)) := by
  obtain ⟨c, cs, rfl⟩ := List.exists_cons_of_ne_nil hd.1
  refine ⟨c, cs ++ r, hd.2 c List.mem_cons_self, ?_⟩
  cases negative
  · exact .inl rfl
  · exact .inr rfl

/-- No word of the format starts as a number does. -/
theorem scalarAt_of_startsNumber {cs : List Char} (h : StartsNumber cs) (i : Nat) :
    scalarAt ⟨cs, i⟩ = numberAt ⟨cs, i⟩ := by
  obtain ⟨c, r, hc, hcs⟩ := h
  have apart (d : Char) (hd : d.isDigit = false) : (d == c) = false := by
    rw [beq_eq_false_iff_ne]
    rintro rfl
    simp [hc] at hd
  have hnone : (words.find? fun w => w.1.toList.isPrefixOf cs) = none := by
    rcases hcs with rfl | rfl
    · simp [words, List.isPrefixOf, apart 'n' rfl, apart 't' rfl, apart 'f' rfl, apart 'N' rfl, apart 'I' rfl,
        apart '-' rfl]
    · simp [words, List.isPrefixOf, apart 'I' rfl]
  rw [scalarAt, hnone]

theorem Takes.scalar_of_number {cs rest : List Char} {d : Datum} (h : Takes numberAt cs rest d)
    (hs : StartsNumber (cs ++ rest)) : Takes scalarAt cs rest d := by
  intro i
  rw [scalarAt_of_startsNumber hs]
  exact h i

theorem toString_int (n : Int) :
    (toString n).toList = (if decide (n < 0) then ['-'] else []) ++ Nat.toDigits 10 n.natAbs := by
  cases n with
  | ofNat k => exact toList_toString k
  | negSucc k =>
    have hneg : Int.negSucc k < 0 := Int.negSucc_lt_zero k
    show ("-" ++ Nat.repr (k + 1)).toList = _
    rw [String.toList_append, Nat.toList_repr, decide_eq_true hneg]
    rfl

/-- **A whole number is read back.** -/
theorem scalarAt_whole (n : Int) {rest : List Char} (hr : Closes rest) :
    Takes scalarAt (toString n).toList rest (.whole n) := by
  have hvalue : numberOf (decide (n < 0)) (Nat.toDigits 10 n.natAbs) none none = .whole n := by
    rw [numberOf, digitsValue_toDigits]
    refine congrArg Datum.whole ?_
    simp only [decide_eq_true_eq]
    split <;> omega
  rw [toString_int, ← hvalue]
  refine Takes.scalar_of_number ?_ ?_
  · have h := numberAt_parts (decide (n < 0)) (whole_toDigits n.natAbs) [] rest hr.noDigit none none hr.fraction
      hr.exponent rfl
    rwa [List.append_nil] at h
  · rw [List.append_assoc]
    exact startsNumber_sign _ (row_toDigits _) rest

theorem startsRow {cs : List Char} (h : Numeral cs) : ∃ ds r, Row ds ∧ cs = ds ++ r := by
  cases h with
  | pointed hw _ => exact ⟨_, _, hw.1, rfl⟩
  | scaled hw _ _ => exact ⟨_, _, hw.1, rfl⟩
  | both hw _ _ _ => exact ⟨_, _, hw.1, rfl⟩

/-- A word is taken off the front if it is the first that fits there. -/
theorem scalarAt_word {w : String} {d : Datum} {rest : List Char}
    (h : (words.find? fun v => v.1.toList.isPrefixOf (w.toList ++ rest)) = some (w, d)) :
    Takes scalarAt w.toList rest d := by
  intro i
  have hdrop : (w.toList ++ rest).drop w.length = rest := List.drop_left' String.length_toList
  rw [scalarAt, h]
  dsimp only [Cursor.skip]
  rw [hdrop]
  exact ⟨_, rfl⟩

/-- A double is written as a word or as a numeral with a sign. -/
theorem jsonReal_shape (x : Float) : jsonReal x ∈ ["NaN", "Infinity", "-Infinity"] ∨
    ∃ (negative : Bool) (cs : List Char), Numeral cs ∧
      (jsonReal x).toList = (if negative then ['-'] else []) ++ cs := by
  unfold jsonReal
  cases Exact.ofFloat x with
  | notANumber => exact .inl (by simp)
  | infinite negative => exact .inl (by cases negative <;> simp)
  | finite negative mantissa exponent => exact .inr ⟨negative, numeral_finite negative mantissa exponent⟩

/-- **A double is read back as a double**, the same one whatever follows. -/
theorem scalarAt_real (x : Float) : ∃ y, ∀ rest, Closes rest → Takes scalarAt (jsonReal x).toList rest (.real y) := by
  rcases jsonReal_shape x with hword | ⟨negative, cs, hcs, htext⟩
  · simp only [List.mem_cons, List.not_mem_nil, or_false] at hword
    rcases hword with h | h | h
    · exact ⟨0.0 / 0.0, fun rest _ => h ▸ scalarAt_word rfl⟩
    · exact ⟨1.0 / 0.0, fun rest _ => h ▸ scalarAt_word rfl⟩
    · exact ⟨-1.0 / 0.0, fun rest _ => h ▸ scalarAt_word rfl⟩
  · obtain ⟨y, hy⟩ := numberAt_numeral negative hcs
    refine ⟨y, fun rest hr => ?_⟩
    rw [htext]
    refine Takes.scalar_of_number (hy rest hr) ?_
    obtain ⟨ds, r, hds, rfl⟩ := startsRow hcs
    rw [List.append_assoc, List.append_assoc]
    exact startsNumber_sign negative hds (r ++ rest)

end FormulaSql.Datum.Reader
