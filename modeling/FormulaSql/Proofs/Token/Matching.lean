import FormulaSql.Proofs.Token.Partition
import FormulaSql.Proofs.Token.Spacing

/-!
# Single matchers

A lexer may be put at any position, also behind the end of its text, and one matcher be applied there. Whatever the
matcher does is one of three things (`apply_cases`), and everything here is derived from that.

* **A matcher moves or does nothing** (`apply_atomic`). A token starts at the old position and the new one lies behind
  it, inside the text; a matcher that finds nothing, or that misses its character behind the end, leaves the lexer as it
  was. So no sequence of matchers changes the text or leaves it (`applyAll_within`).
* **The table matcher takes the longest name and the shortest group of brackets** (`apply_table_iff`). Its counter is
  the depth of the brackets so far; it is positive until the group is closed (`open_inside`), and zero there
  (`closed_at`). So no shorter front of the text has equally many brackets of both kinds.
-/

namespace FormulaSql

/-! ## One matcher at any position -/

/-- Behind the end of a text there is nothing to be found. -/
theorem find_nil (m : Matcher) : m.find [] = none := by
  cases m <;> rfl

namespace Lexer

variable {l l' : Lexer} {m : Matcher} {t : Token}

theorem rest_eq_nil_iff : l.rest = [] ↔ l.text.length ≤ l.pos :=
  List.drop_eq_nil_iff

theorem length_rest (l : Lexer) : l.rest.length = l.text.length - l.pos :=
  List.length_drop

/-- **What a matcher can do.** It finds something and moves behind it, it looks for a character behind the end, or it
finds nothing. -/
theorem apply_cases (l : Lexer) (m : Matcher) :
    (∃ f, m.find l.rest = some f ∧ l.apply m = ({ l with pos := l.pos + f.length }, .ok (some ⟨f.lexeme, l.pos⟩))) ∨
    (m.find l.rest = none ∧ (l.text.length ≤ l.pos ∧ m.needsCharacter) ∧ l.apply m = (l, .error .pastEnd)) ∨
    (m.find l.rest = none ∧ ¬ (l.text.length ≤ l.pos ∧ m.needsCharacter) ∧ l.apply m = (l, .ok none)) := by
  rw [← rest_eq_nil_iff]
  cases hrest : l.rest with
  | nil =>
    by_cases hm : m.needsCharacter
    · refine .inr (.inl ⟨find_nil m, ⟨rfl, hm⟩, ?_⟩)
      simp [apply, hrest, hm]
    · refine .inr (.inr ⟨find_nil m, fun h => hm h.2, ?_⟩)
      simp [apply, hrest, hm, find_nil]
  | cons c cs =>
    cases hf : m.find (c :: cs) with
    | some f => exact .inl ⟨f, rfl, apply_found hrest hf⟩
    | none => exact .inr (.inr ⟨rfl, fun h => List.cons_ne_nil _ _ h.1, apply_none hrest hf⟩)

theorem apply_token_iff : l.apply m = (l', .ok (some t)) ↔
    ∃ f, m.find l.rest = some f ∧ l' = { l with pos := l.pos + f.length } ∧ t = ⟨f.lexeme, l.pos⟩ := by
  rcases apply_cases l m with ⟨f, hf, happly⟩ | ⟨hf, -, happly⟩ | ⟨hf, -, happly⟩
  · rw [happly, hf]
    constructor
    · intro h
      cases h
      exact ⟨f, rfl, rfl, rfl⟩
    · rintro ⟨f', hf', rfl, rfl⟩
      cases hf'
      rfl
  · simp [happly, hf]
  · simp [happly, hf]

/-- What is found is not empty, and lies inside the text. -/
theorem found_within {f : Find} (hf : m.find l.rest = some f) : 0 < f.length ∧ l.pos + f.length ≤ l.text.length := by
  have hpos := (find_cuts hf).pos
  have hle := (find_cuts hf).le
  rw [length_rest] at hle
  omega

/-- What a matcher may leave behind: a token that starts at the old position, with the new one behind it and inside the
text, or else the lexer as it was. -/
def Atomic (l : Lexer) : Lexer × Except Fault (Option Token) → Prop
  | (l', .ok (some t)) => l'.text = l.text ∧ t.position = l.pos ∧ l.pos < l'.pos ∧ l'.pos ≤ l.text.length
  | (l', .ok none) => l' = l
  | (l', .error fault) => l' = l ∧ fault = .pastEnd ∧ l.text.length ≤ l.pos

/-- One matcher. -/
theorem atomic_apply (l : Lexer) (m : Matcher) : l.Atomic (l.apply m) := by
  rcases apply_cases l m with ⟨f, hf, happly⟩ | ⟨-, ⟨hend, -⟩, happly⟩ | ⟨-, -, happly⟩
  · obtain ⟨hpos, hle⟩ := found_within hf
    rw [happly]
    exact ⟨rfl, rfl, Nat.lt_add_of_pos_right hpos, hle⟩
  · rw [happly]
    exact ⟨rfl, rfl, hend⟩
  · rw [happly]
    rfl

/-- Applies matchers one after the other, each where the one before has left the lexer. -/
def applyAll (l : Lexer) : List Matcher → Lexer
  | [] => l
  | m :: ms => (l.apply m).1.applyAll ms

/-- One matcher keeps the text and does not move back, nor out of the text. -/
theorem apply_within (l : Lexer) (m : Matcher) : (l.apply m).1.text = l.text ∧ l.pos ≤ (l.apply m).1.pos ∧
    (l.apply m).1.pos ≤ max l.pos l.text.length := by
  have h := atomic_apply l m
  generalize l.apply m = r at h ⊢
  obtain ⟨l', outcome⟩ := r
  rcases outcome with fault | _ | t
  · obtain ⟨rfl, -⟩ := h
    exact ⟨rfl, Nat.le_refl _, Nat.le_max_left _ _⟩
  · obtain rfl : l' = l := h
    exact ⟨rfl, Nat.le_refl _, Nat.le_max_left _ _⟩
  · obtain ⟨htext, -, hlt, hle⟩ := h
    exact ⟨htext, Nat.le_of_lt hlt, Nat.le_trans hle (Nat.le_max_right _ _)⟩

/-- So does every sequence of matchers. -/
theorem applyAll_within : ∀ (ms : List Matcher) (l : Lexer), (l.applyAll ms).text = l.text ∧
    l.pos ≤ (l.applyAll ms).pos ∧ (l.applyAll ms).pos ≤ max l.pos l.text.length
  | [], l => ⟨rfl, Nat.le_refl _, Nat.le_max_left _ _⟩
  | m :: ms, l => by
    obtain ⟨htext, hlow, hhigh⟩ := apply_within l m
    obtain ⟨htext', hlow', hhigh'⟩ := applyAll_within ms (l.apply m).1
    rw [htext] at htext' hhigh'
    exact ⟨htext', Nat.le_trans hlow hlow', by show ((l.apply m).1.applyAll ms).pos ≤ _; omega⟩

/-- **Matchers are atomic at every position**, also at the end of the text and behind it. Each of them gives a token
that starts at the old position and moves behind it, inside the text, or it leaves the lexer as it was. It fails exactly
if it looks at the current character and there is none. No sequence of matchers changes the text. -/
theorem apply_atomic (l : Lexer) :
    (∀ m : Matcher, l.Atomic (l.apply m)) ∧
    (∀ m : Matcher, (∃ fault, (l.apply m).2 = .error fault) ↔ l.text.length ≤ l.pos ∧ m.needsCharacter) ∧
    ∀ ms : List Matcher, (l.applyAll ms).text = l.text ∧ (l.applyAll ms).text.length = l.text.length ∧
      l.pos ≤ (l.applyAll ms).pos ∧ (l.applyAll ms).pos ≤ max l.pos l.text.length := by
  refine ⟨atomic_apply l, fun m => ?_, fun ms => ?_⟩
  · rcases apply_cases l m with ⟨f, hf, happly⟩ | ⟨-, hend, happly⟩ | ⟨-, hend, happly⟩
    · obtain ⟨hpos, hle⟩ := found_within hf
      have hlt : l.pos < l.text.length := by omega
      simp [happly, Nat.not_le.2 hlt]
    · simp [happly, hend]
    · simp only [happly, hend, iff_false, not_exists]
      exact fun _ h => nomatch h
  · obtain ⟨htext, hlow, hhigh⟩ := applyAll_within ms l
    exact ⟨htext, congrArg List.length htext, hlow, hhigh⟩

end Lexer

-- quotes that are not closed are scanned to the end, and nothing is found behind them
example : (⟨"'a b".toList, 0⟩ : Lexer).apply .sheet = (⟨"'a b".toList, 0⟩, .ok none) := by
  decide

/-! ## Fronts of a text -/

/-- The longest front of a text with a property. -/
def LongestFront (P : List Char → Prop) (cs front : List Char) : Prop :=
  front <+: cs ∧ P front ∧ ∀ other, other <+: cs → P other → other.length ≤ front.length

/-- The shortest front of a text with a property. -/
def ShortestFront (P : List Char → Prop) (cs front : List Char) : Prop :=
  front <+: cs ∧ P front ∧ ∀ other, other <+: cs → P other → front.length ≤ other.length

section Fronts

variable {P : List Char → Prop} {cs front front' : List Char}

/-- Fronts of one length are equal. -/
theorem front_eq (h : front <+: cs) (h' : front' <+: cs) (hlength : front.length = front'.length) : front = front' :=
  (List.prefix_of_prefix_length_le h h' (Nat.le_of_eq hlength)).eq_of_length hlength

theorem ShortestFront.unique (h : ShortestFront P cs front) (h' : ShortestFront P cs front') : front = front' :=
  front_eq h.1 h'.1 (Nat.le_antisymm (h.2.2 _ h'.1 h'.2.1) (h'.2.2 _ h.1 h.2.1))

end Fronts

/-! ## Names -/

/-- The name that is split off a text is the longest one at its front. -/
theorem longestFront_of_takeName {cs name rest : List Char} (h : takeName? cs = some (name, rest)) :
    LongestFront IsPlainName cs name := by
  obtain ⟨rfl, -, hends⟩ := longest_name.iff.1 h
  refine ⟨List.prefix_append _ _, isPlainName_of_takeName h, fun other hother hname => ?_⟩
  -- a longer name would go on with the first character of the rest, which is no word character
  by_contra hlonger
  obtain ⟨x, rfl⟩ := List.prefix_of_prefix_length_le (List.prefix_append _ _) hother (by omega)
  obtain ⟨c, x, rfl⟩ := List.exists_cons_of_ne_nil (l := x) (by rintro rfl; simp at hlonger)
  obtain ⟨y, hy⟩ := hother
  rw [List.append_assoc, List.append_cancel_left_eq] at hy
  exact hends c (by rw [← hy]; rfl) (hname.forall_isWord c (by simp))

/-! ## Groups of brackets -/

/-- Some characters with equally many brackets of both kinds. -/
def Balanced (cs : List Char) : Prop :=
  cs ≠ [] ∧ cs.count '[' = cs.count ']'

/-- What is taken as the bracketed part of a text: its shortest balanced front, or all of it if there is none. -/
def IsGroup (cs column : List Char) : Prop :=
  ShortestFront Balanced cs column ∨ (∀ front, front <+: cs → ¬ Balanced front) ∧ column = cs

theorem IsGroup.unique {cs column column' : List Char} (h : IsGroup cs column) (h' : IsGroup cs column') :
    column = column' := by
  rcases h with h | ⟨hnone, rfl⟩ <;> rcases h' with h' | ⟨hnone', rfl⟩
  · exact h.unique h'
  · exact absurd h.2.1 (hnone' column h.1)
  · exact absurd h'.2.1 (hnone column' h'.1)
  · rfl

/-- **Before the place where the group is closed the counter is positive.** The counter at the end of a front is the
depth at its start, and one more for each opening and one less for each closing bracket. -/
theorem open_inside : ∀ {cs front : List Char} {depth : Nat}, 0 < depth → front <+: cs →
    front.length < bracketed depth cs → front.count ']' < depth + front.count '['
  | _, [], _, hdepth, _, _ => by simpa using hdepth
  | [], _ :: _, _, _, hfront, _ => absurd hfront (by simp)
  | c :: cs, d :: front, depth, hdepth, hfront, hlength => by
    obtain ⟨rfl, htail⟩ := List.cons_prefix_cons.1 hfront
    rw [bracketed, List.length_cons] at hlength
    split at hlength
    · rename_i hopen
      have ih := open_inside (Nat.succ_pos depth) htail (Nat.lt_of_succ_lt_succ hlength)
      simp only [hopen, List.count_cons_self, List.count_cons_of_ne (show '[' ≠ ']' by decide)]
      omega
    · rename_i hopen
      split at hlength
      · rename_i hclose
        split at hlength
        · omega
        · have ih := open_inside (show 0 < depth - 1 by omega) htail (Nat.lt_of_succ_lt_succ hlength)
          simp only [hclose, List.count_cons_self, List.count_cons_of_ne (show ']' ≠ '[' by decide)]
          omega
      · rename_i hclose
        have ih := open_inside hdepth htail (Nat.lt_of_succ_lt_succ hlength)
        simpa only [List.count_cons_of_ne hopen, List.count_cons_of_ne hclose] using ih

/-- **Where the group is closed the counter is zero**, unless the text ends there and the counter is positive still. -/
theorem closed_at : ∀ (cs : List Char) {depth : Nat}, 0 < depth →
    depth + (cs.take (bracketed depth cs)).count '[' = (cs.take (bracketed depth cs)).count ']' ∨
      bracketed depth cs = cs.length ∧ cs.count ']' < depth + cs.count '['
  | [], _, hdepth => .inr ⟨rfl, by simpa using hdepth⟩
  | c :: cs, depth, hdepth => by
    rw [bracketed]
    split
    · rename_i hopen
      have ih := closed_at cs (show 0 < depth + 1 by omega)
      simp only [hopen, List.take_succ_cons, List.count_cons_self, List.count_cons_of_ne (show '[' ≠ ']' by decide),
        List.length_cons]
      omega
    · rename_i hopen
      split
      · rename_i hclose
        split
        · rename_i hone
          left
          simp [hclose, hone]
        · have ih := closed_at cs (show 0 < depth - 1 by omega)
          simp only [hclose, List.take_succ_cons, List.count_cons_self,
            List.count_cons_of_ne (show ']' ≠ '[' by decide), List.length_cons]
          omega
      · rename_i hclose
        have ih := closed_at cs hdepth
        simp only [List.take_succ_cons, List.count_cons_of_ne hopen, List.count_cons_of_ne hclose, List.length_cons]
        omega

section Groups

variable {r front : List Char}

theorem bracketed_start (r : List Char) : bracketed 0 ('[' :: r) = bracketed 1 r + 1 := by
  rw [bracketed, if_pos rfl]

/-- No front that ends before the group is closed is balanced. -/
theorem not_balanced_inside (hfront : front <+: '[' :: r) (hlength : front.length < bracketed 0 ('[' :: r)) :
    ¬ Balanced front := by
  rintro ⟨hne, hcount⟩
  cases front with
  | nil => exact hne rfl
  | cons c front =>
    obtain ⟨rfl, htail⟩ := List.cons_prefix_cons.1 hfront
    rw [bracketed_start, List.length_cons] at hlength
    have hopen := open_inside Nat.one_pos htail (Nat.lt_of_succ_lt_succ hlength)
    rw [List.count_cons_self, List.count_cons_of_ne (by decide)] at hcount
    omega

/-- **The counter stops behind the shortest balanced group**, or at the end of the text if there is none. -/
theorem isGroup_bracketed (r : List Char) : IsGroup ('[' :: r) (('[' :: r).take (bracketed 0 ('[' :: r))) := by
  rcases closed_at r Nat.one_pos with hclosed | ⟨hend, hopen⟩
  · refine .inl ⟨List.take_prefix _ _, ⟨?_, ?_⟩, fun other hother hbalanced => ?_⟩
    · rw [bracketed_start]
      exact List.cons_ne_nil _ _
    · rw [bracketed_start, List.take_succ_cons, List.count_cons_self, List.count_cons_of_ne (by decide)]
      omega
    · by_contra hshorter
      rw [List.length_take_of_le (bracketed_le 0 _)] at hshorter
      exact not_balanced_inside hother (by omega) hbalanced
  · have hwhole : bracketed 0 ('[' :: r) = ('[' :: r).length := by rw [bracketed_start, hend, List.length_cons]
    refine .inr ⟨fun front hfront hbalanced => ?_, by rw [hwhole, List.take_length]⟩
    by_cases hlength : front.length < bracketed 0 ('[' :: r)
    · exact not_balanced_inside hfront hlength hbalanced
    -- the only front that is left is the whole text, where more brackets are opened than closed
    · obtain rfl : front = '[' :: r := hfront.eq_of_length_le (by omega)
      have hcount := hbalanced.2
      rw [List.count_cons_self, List.count_cons_of_ne (by decide)] at hcount
      omega

end Groups

/-! ## Tables -/

namespace Lexer

/-- The token of a table reference. -/
def tableToken (table column : List Char) (pos : Nat) : Token :=
  ⟨.table (some ⟨some (String.ofList table), some (String.ofList column), some (String.ofList (table ++ column))⟩), pos⟩

/-- **The table matcher takes the longest name and the shortest group.** It gives a token exactly if the longest name at
the position stands directly before an opening bracket. The token consists of that name and of the shortest balanced
front of the text behind it, or of all that text if no front is balanced, and the lexer moves right behind it. Wherever
any name stands before an opening bracket it is the longest one, so that a token is given. -/
theorem apply_table_iff (l : Lexer) :
    (∀ (l' : Lexer) (t : Token), l.apply .table = (l', .ok (some t)) ↔
      ∃ table column rest, l.rest = table ++ '[' :: rest ∧ LongestFront IsPlainName l.rest table ∧
        IsGroup ('[' :: rest) column ∧ t = tableToken table column l.pos ∧
        l' = { l with pos := l.pos + table.length + column.length }) ∧
    ∀ name rest, IsPlainName name → l.rest = name ++ '[' :: rest →
      LongestFront IsPlainName l.rest name ∧
        ∃ l' column, l.apply .table = (l', .ok (some (tableToken name column l.pos))) := by
  have hgives {name rest : List Char} (hname : IsPlainName name) (hrest : l.rest = name ++ '[' :: rest) :
      takeName? l.rest = some (name, '[' :: rest) := by
    rw [hrest]
    exact takeName_append_of_isPlainName hname (by decide)
  constructor
  · intro l' t
    rw [apply_token_iff]
    constructor
    · rintro ⟨f, hf, rfl, rfl⟩
      obtain ⟨table, rest, htable, rfl⟩ := findTable_iff.1 hf
      have hsplit := (longest_name.iff.1 htable).1
      refine ⟨table, _, rest, hsplit, longestFront_of_takeName htable, isGroup_bracketed rest, rfl, ?_⟩
      rw [Nat.add_assoc]
      rfl
    · rintro ⟨table, column, rest, hrest, hlongest, hgroup, rfl, rfl⟩
      obtain rfl := hgroup.unique (isGroup_bracketed rest)
      refine ⟨tableFind table rest, findTable_iff.2 ⟨table, rest, hgives hlongest.2.1 hrest, rfl⟩, ?_, rfl⟩
      rw [Nat.add_assoc]
      rfl
  · intro name rest hname hrest
    have htake := hgives hname hrest
    refine ⟨longestFront_of_takeName htake, _, _, apply_token_iff.2 ⟨tableFind name rest, ?_, rfl, rfl⟩⟩
    exact findTable_iff.2 ⟨name, rest, htake, rfl⟩

end Lexer

-- the inner pair does not close the group, and a group that is not closed reaches to the end
example : ((⟨"+T[[a]b]]c".toList, 1⟩ : Lexer).apply .table).1.pos = 8 ∧
    ((⟨"+T[[a]b c".toList, 1⟩ : Lexer).apply .table).1.pos = 9 := by
  decide

end FormulaSql
