import FormulaSql.Proofs.Sql.Layout
import FormulaSql.Proofs.Sql.Literals
import FormulaSql.Proofs.Text.Runs

/-!
# Fragments of the trees

Some facts about SQL hold of trees that are built from numbers, texts, cells without a sheet, operations and calls of
listed functions only. A `Fragment` says which numbers, and which roots with how many operands; `Within` is the trees it
allows. What their leaves are written as is the same in all fragments:

* a cell becomes a nonempty row of lower-case letters, from which its column letters can be read back
  (`exists_letters`, `lower_letters`, `toLower_inj`);
* a finite number becomes a numeral: digits with a point and an exponent, and perhaps a minus sign before them
  (`numeral_text`).
-/

namespace FormulaSql

/-! ## Names of cells -/

/-- The name of a cell as a formula has it: upper-case letters and digits, each with an optional dollar sign before. -/
def IsCellName (s : String) : Prop :=
  ∃ letters digits : List Char, ∃ d₁ ∈ [[], ['$']], ∃ d₂ ∈ [[], ['$']], s.toList = d₁ ++ letters ++ d₂ ++ digits ∧
    letters ≠ [] ∧ (∀ c ∈ letters, c.isUpper) ∧ digits ≠ [] ∧ ∀ c ∈ digits, Text.isDigit c

section Letters

/-- What holds of the ASCII letters of upper case holds of all letters of upper case. -/
theorem upper_all {P : Char → Prop} (h : ∀ n < 0x80, (Char.ofNat n).isUpper → P (Char.ofNat n)) {c : Char}
    (hc : c.isUpper) : P c := by
  exact Text.all_below (P := fun c => c.isUpper → P c) h c (Text.ascii_of_isUpper hc) hc

/-- The column letters of a cell. -/
theorem exists_letters {s : String} (h : IsCellName s) :
    ∃ letters, letters ≠ [] ∧ (∀ c ∈ letters, c.isUpper) ∧ Sql.columnLetters s = String.ofList letters := by
  obtain ⟨letters, digits, d₁, hd₁, d₂, hd₂, hs, hne, hletters, _, hdigits⟩ := h
  refine ⟨letters, hne, hletters, ?_⟩
  have hdollar {d : List Char} (hd : d ∈ [[], ['$']]) : d.filter (fun c => !(c == '$' || Text.isDigit c)) = [] := by
    simp only [List.mem_cons, List.not_mem_nil, or_false] at hd
    rcases hd with rfl | rfl <;> decide
  have hkept : letters.filter (fun c => !(c == '$' || Text.isDigit c)) = letters :=
    List.filter_eq_self.2 fun c hc =>
      upper_all (P := fun c => !(c == '$' || Text.isDigit c)) (by decide) (hletters c hc)
  have hdropped : digits.filter (fun c => !(c == '$' || Text.isDigit c)) = [] :=
    List.filter_eq_nil_iff.2 fun c hc => by simp [hdigits c hc]
  rw [Sql.columnLetters, hs, List.filter_append, List.filter_append, List.filter_append, hdollar hd₁, hdollar hd₂, hkept,
    hdropped, List.append_nil, List.append_nil, List.nil_append]

/-- Letters of upper case are put into lower case one by one. -/
theorem lowerAfter_letters : ∀ {cs : List Char} (after : Bool), (∀ c ∈ cs, c.isUpper) →
    Text.lowerAfter after cs = cs.map Char.toLower
  | [], _, _ => rfl
  | c :: cs, after, h => by
    obtain ⟨hc, hcs⟩ := List.forall_mem_cons.1 h
    have hsigma : c ≠ Text.capitalSigma := upper_all (P := (· ≠ Text.capitalSigma)) (by decide) hc
    have hone : Text.lowerOne c = [c.toLower] := upper_all (P := fun c => Text.lowerOne c = [c.toLower]) (by decide) hc
    rw [Text.lowerAfter, if_neg hsigma, hone, lowerAfter_letters _ hcs]
    rfl

theorem lower_letters {cs : List Char} (h : ∀ c ∈ cs, c.isUpper) :
    Text.lower (String.ofList cs) = String.ofList (cs.map Char.toLower) := by
  rw [Text.lower, String.toList_ofList, lowerAfter_letters false h]

theorem isLower_toLower {c : Char} (h : c.isUpper) : c.toLower.isLower :=
  upper_all (P := fun c => c.toLower.isLower) (by decide) h

/-- Letters of upper case can be read back from their lower case. -/
theorem toLower_inj : ∀ {cs ds : List Char}, (∀ c ∈ cs, c.isUpper) → (∀ c ∈ ds, c.isUpper) →
    cs.map Char.toLower = ds.map Char.toLower → cs = ds
  | [], [], _, _, _ => rfl
  | [], _ :: _, _, _, h => by cases h
  | _ :: _, [], _, _, h => by cases h
  | c :: cs, d :: ds, hcs, hds, h => by
    obtain ⟨hc, hcs⟩ := List.forall_mem_cons.1 hcs
    obtain ⟨hd, hds⟩ := List.forall_mem_cons.1 hds
    obtain ⟨hhead, htail⟩ := List.cons.inj h
    have back {x : Char} (hx : x.isUpper) : x.toLower.toUpper = x :=
      upper_all (P := fun x => x.toLower.toUpper = x) (by decide) hx
    rw [← back hc, ← back hd, hhead, toLower_inj hcs hds htail]

end Letters

/-! ## Numerals -/

/-- The characters of numerals. -/
def isNumeralChar (c : Char) : Bool :=
  c.isDigit || ['.', 'e', '+', '-'].contains c

/-- A numeral without a sign: it starts with a digit. -/
structure PlainNumeral (cs : List Char) : Prop where
  chars : ∀ c ∈ cs, isNumeralChar c
  digit : ∃ c t, cs = c :: t ∧ c.isDigit

/-- A numeral, perhaps with a minus sign. -/
def Numeral (cs : List Char) : Prop :=
  PlainNumeral cs ∨ ∃ t, cs = '-' :: t ∧ PlainNumeral t

/-- A number that is not infinite and not undefined. -/
def Number.isFinite : Number → Bool
  | whole _ => true
  | real x => match Decimal.Exact.ofFloat x with
    | .finite _ _ _ => true
    | .infinite _ | .notANumber => false

section Numerals

open Decimal

theorem Numeral.chars {cs : List Char} (h : Numeral cs) : ∀ c ∈ cs, isNumeralChar c := by
  rcases h with h | ⟨t, rfl, h⟩
  · exact h.chars
  · exact List.forall_mem_cons.2 ⟨rfl, h.chars⟩

theorem isNumeralChar_of_isDigit {c : Char} (h : c.isDigit) : isNumeralChar c := by
  simp [isNumeralChar, h]

/-- Digits followed by characters of numerals. -/
theorem plainNumeral_append {cs ds : List Char} (hne : cs ≠ []) (h : ∀ c ∈ cs, c.isDigit) (h' : ∀ c ∈ ds, isNumeralChar c) :
    PlainNumeral (cs ++ ds) := by
  refine ⟨List.forall_mem_append.2 ⟨fun c hc => isNumeralChar_of_isDigit (h c hc), h'⟩, ?_⟩
  obtain ⟨c, t, rfl⟩ := List.exists_cons_of_ne_nil hne
  exact ⟨c, t ++ ds, rfl, h c List.mem_cons_self⟩

theorem isDigit_toDigits (n : Nat) : ∀ c ∈ Nat.toDigits 10 n, c.isDigit :=
  fun _ hc => Nat.isDigit_of_mem_toDigits (by decide) (by decide) hc

theorem isNumeralChar_toDigits {n : Nat} {ds : List Char} (h : ∀ c ∈ ds, c ∈ Nat.toDigits 10 n) :
    ∀ c ∈ ds, isNumeralChar c :=
  fun c hc => isNumeralChar_of_isDigit (isDigit_toDigits n c (h c hc))

theorem isNumeralChar_zeros (n : Nat) : ∀ c ∈ (Decimal.zeros n).toList, isNumeralChar c := by
  intro c hc
  rw [Decimal.zeros, String.toList_ofList] at hc
  rw [List.eq_of_mem_replicate hc]
  decide

theorem isNumeralChar_exponentText (e : Int) : ∀ c ∈ (exponentText e).toList, isNumeralChar c := by
  unfold exponentText
  simp only [String.toList_append, toList_toString]
  refine List.forall_mem_append.2 ⟨List.forall_mem_append.2 ⟨?_, ?_⟩, isNumeralChar_toDigits fun c hc => hc⟩
  · split <;> simp [isNumeralChar]
  · split <;> simp [isNumeralChar]

theorem plainNumeral_digits (d : Digits) : PlainNumeral d.text.toList := by
  have hdigits := isDigit_toDigits d.digits
  have hne : Nat.toDigits 10 d.digits ≠ [] := Nat.toDigits_ne_nil
  have hpoint : ∀ c ∈ ".".toList, isNumeralChar c := by simp [isNumeralChar]
  have htake (n : Nat) : ∀ c ∈ (Nat.toDigits 10 d.digits).take n, c.isDigit :=
    fun c hc => hdigits c (List.mem_of_mem_take hc)
  have hdrop (n : Nat) : ∀ c ∈ (Nat.toDigits 10 d.digits).drop n, isNumeralChar c :=
    isNumeralChar_toDigits fun c hc => List.mem_of_mem_drop hc
  unfold Digits.text
  dsimp only
  split
  · split
    · have hlead : "0.".toList = ['0'] ++ ['.'] := rfl
      simp only [String.toList_append, String.toList_ofList, hlead, List.append_assoc]
      refine plainNumeral_append (by simp) (by simp) (List.forall_mem_append.2 ⟨by simp [isNumeralChar], ?_⟩)
      exact List.forall_mem_append.2 ⟨isNumeralChar_zeros _, isNumeralChar_toDigits fun c hc => hc⟩
    · rename_i hpos
      split
      · simp only [String.toList_append, String.toList_ofList, List.append_assoc]
        refine plainNumeral_append hne hdigits (List.forall_mem_append.2 ⟨isNumeralChar_zeros _, ?_⟩)
        simp [isNumeralChar]
      · have hwhole : (Nat.toDigits 10 d.digits).take d.point.toNat ≠ [] := by
          simp only [ne_eq, List.take_eq_nil_iff, hne, or_false]
          omega
        simp only [String.toList_append, String.toList_ofList, List.append_assoc]
        exact plainNumeral_append hwhole (htake _) (List.forall_mem_append.2 ⟨hpoint, hdrop _⟩)
  · have hone : (Nat.toDigits 10 d.digits).take 1 ≠ [] := by simp [hne]
    simp only [String.toList_append, String.toList_ofList, List.append_assoc]
    refine plainNumeral_append hone (htake 1) (List.forall_mem_append.2 ⟨?_, isNumeralChar_exponentText _⟩)
    split
    · exact List.forall_mem_nil _
    · simp only [String.toList_append, String.toList_ofList]
      exact List.forall_mem_append.2 ⟨hpoint, hdrop 1⟩

theorem plainNumeral_toString (n : Nat) : PlainNumeral (toString n).toList := by
  rw [toList_toString, ← List.append_nil (Nat.toDigits 10 n)]
  exact plainNumeral_append Nat.toDigits_ne_nil (isDigit_toDigits n) (List.forall_mem_nil _)

/-- A sign makes a numeral of a numeral without one. -/
theorem numeral_sign {s : String} (h : PlainNumeral s.toList) (negative : Bool) :
    Numeral ((if negative then "-" else "") ++ s).toList := by
  cases negative with
  | false => exact .inl (by simpa using h)
  | true => exact .inr ⟨s.toList, by simp, h⟩

/-- **A finite number is written as a numeral.** -/
theorem numeral_text {v : Number} (h : v.isFinite) : Numeral v.text.toList := by
  cases v with
  | whole n =>
    cases n with
    | ofNat n => exact numeral_sign (plainNumeral_toString n) false
    | negSucc n => exact numeral_sign (plainNumeral_toString (n + 1)) true
  | real x =>
    simp only [Number.isFinite] at h
    show Numeral (Exact.ofFloat x).text.toList
    split at h
    · rename_i negative mantissa exponent hx
      rw [hx]
      refine numeral_sign ?_ negative
      split
      · exact @plainNumeral_append ['0'] ['.', '0'] (by simp) (by simp) (by simp [isNumeralChar])
      · exact plainNumeral_digits _
    · cases h
    · cases h

end Numerals

/-! ## Roots and operands -/

/-- What stands at the root of an operation or a call. -/
inductive Head where
  | binary (symbol : String)
  | unary (symbol : String)
  | call (name : String)
  deriving DecidableEq, Repr

/-- The root of an operation or a call, and its operands. -/
def Expr.node? : Expr → Option (Head × List Expr)
  | .binary s l r => some (.binary s, [l, r])
  | .unary s e => some (.unary s, [e])
  | .call (.text name) args => some (.call name, args)
  | _ => none

/-- A language of trees: its numbers, and its roots with the number of operands. -/
structure Fragment where
  number : Number → Bool
  head : Head → Nat → Bool

/-- The trees of a fragment. Texts and cells without a sheet belong to all of them. -/
inductive Within (F : Fragment) : Expr → Prop
  | number {v : Number} : F.number v → Within F (.number v)
  | text (s : String) : Within F (.text (.text s))
  | cell {name : String} : IsCellName name → Within F (.cell (.text name) .null)
  | node {e : Expr} {h : Head} {args : List Expr} : e.node? = some (h, args) → F.head h args.length →
      (∀ a ∈ args, Within F a) → Within F e

/-- A tree is what its root and operands say. -/
theorem node_cases {e : Expr} {h : Head} {args : List Expr} (hn : e.node? = some (h, args)) :
    (∃ s l r, h = .binary s ∧ args = [l, r] ∧ e = .binary s l r) ∨
      (∃ s a, h = .unary s ∧ args = [a] ∧ e = .unary s a) ∨
      ∃ name, h = .call name ∧ e = .call (.text name) args := by
  unfold Expr.node? at hn
  split at hn
  · cases hn; exact .inl ⟨_, _, _, rfl, rfl, rfl⟩
  · cases hn; exact .inr (.inl ⟨_, _, rfl, rfl, rfl⟩)
  · cases hn; exact .inr (.inr ⟨_, rfl, rfl⟩)
  · cases hn

theorem Within.typed {F : Fragment} {e : Expr} (h : Within F e) : e.Typed := by
  induction h with
  | number _ => exact .number _
  | text s => exact .text s
  | cell _ => exact .cell _
  | node hn _ _ ih =>
    obtain ⟨s, l, r, rfl, rfl, rfl⟩ | ⟨s, a, rfl, rfl, rfl⟩ | ⟨name, rfl, rfl⟩ := node_cases hn
    · exact .binary s (ih l (by simp)) (ih r (by simp))
    · exact .unary s (ih a (by simp))
    · exact .call name ih

/-- The operands of a tree belong to its fragment. -/
theorem Within.operands {F : Fragment} {e : Expr} {h : Head} {args : List Expr} (he : Within F e)
    (hn : e.node? = some (h, args)) : F.head h args.length ∧ ∀ a ∈ args, Within F a := by
  cases he with
  | number _ => cases hn
  | text _ => cases hn
  | cell _ => cases hn
  | node hn' hhead hargs =>
    cases hn.symm.trans hn'
    exact ⟨hhead, hargs⟩

/-- The functions that are written under their own names with all their arguments. -/
def plainFunctions : List String :=
  ["SUM", "AVG", "COUNT", "MIN", "MAX", "ROUND", "ABS", "SQRT", "CONCAT"]

/-- The calls of a fragment, by name and number of arguments; the numbers are given for functions of many arguments, for
choices and for connectives. -/
def callFits (plain choice joined : Nat → Bool) (name : String) (count : Nat) : Bool :=
  plainFunctions.contains name && plain count || name == "IF" && choice count || name == "IFERROR" && count == 2 ||
    ["AND", "OR"].contains name && joined count || Sql.singleFunctions.contains name && count == 1

theorem callFits_iff {plain choice joined : Nat → Bool} {name : String} {count : Nat} :
    callFits plain choice joined name count ↔ name ∈ plainFunctions ∧ plain count ∨ name = "IF" ∧ choice count ∨
      name = "IFERROR" ∧ count = 2 ∨ (name = "AND" ∨ name = "OR") ∧ joined count ∨
      name ∈ Sql.singleFunctions ∧ count = 1 := by
  simp [callFits, or_assoc]

/-- With two or three parts of a choice, all these calls are executable. -/
theorem executableCall_of_callFits {plain choice joined : Nat → Bool} (hchoice : ∀ n, choice n → n = 2 ∨ n = 3)
    {name : String} {count : Nat} (h : callFits plain choice joined name count) : Sql.executableCall name count := by
  refine Sql.executableCall_iff.2 ?_
  rcases callFits_iff.1 h with ⟨hname, _⟩ | ⟨rfl, hcount⟩ | hfallback | ⟨hname, _⟩ | ⟨hname, rfl⟩
  · exact .inl ((show ∀ n ∈ plainFunctions, n ∈ Sql.listFunctions by decide) name hname)
  · exact .inr (.inl ⟨rfl, hchoice count hcount⟩)
  · exact .inr (.inr (.inl hfallback))
  · rcases hname with rfl | rfl <;> exact .inl (by decide)
  · exact .inr (.inr (.inr ⟨hname, Nat.le_refl 1⟩))

/-- The style of a call depends on the number of arguments only where a choice or a fallback has too few. -/
theorem style_count {name : String} {count : Nat} (h : name = "IF" ∨ name = "IFERROR" → 2 ≤ count) :
    Sql.style name count = Sql.style name 2 := by
  unfold Sql.style
  by_cases hif : name = "IF"
  · simp [hif, h (.inl hif)]
  · by_cases herror : name = "IFERROR"
    · simp [herror, h (.inr herror)]
    · simp [hif, herror]

/-- The names of executable calls. -/
def executableFunctions : List String :=
  Sql.listFunctions ++ ["IF", "IFERROR"] ++ Sql.singleFunctions

/-- An executable call has one of these names, and its style does not depend on the number of arguments. -/
theorem style_executable {name : String} {count : Nat} (h : Sql.executableCall name count) :
    name ∈ executableFunctions ∧ Sql.style name count = Sql.style name 2 := by
  have other {names : List String} (hn : name ∈ names) (hif : "IF" ∉ names) (herror : "IFERROR" ∉ names) :
      Sql.style name count = Sql.style name 2 := by
    refine style_count fun hname => ?_
    rcases hname with rfl | rfl
    · exact absurd hn hif
    · exact absurd hn herror
  rcases Sql.executableCall_iff.1 h with hname | ⟨rfl, hcount⟩ | ⟨rfl, rfl⟩ | ⟨hname, _⟩
  · exact ⟨List.mem_append_left _ (List.mem_append_left _ hname), other hname (by decide) (by decide)⟩
  · exact ⟨by decide, style_count fun _ => by omega⟩
  · exact ⟨by decide, rfl⟩
  · exact ⟨List.mem_append_right _ hname, other hname (by decide) (by decide)⟩

end FormulaSql
