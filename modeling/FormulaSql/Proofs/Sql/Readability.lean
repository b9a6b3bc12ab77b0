import FormulaSql.Proofs.Sql.Words

/-!
# Reading SQL back

With empty tables, the SQL of a tree determines the tree, up to what the SQL does not show: the rows and dollar signs of
cells, and numbers that are printed alike (`Alike`). A tree can be read off the front of a text (`written_apart`):

* its first character tells numbers, texts, cells and frames apart (`Lead`);
* a number or a cell ends where a blank, a comma or a closing parenthesis follows, a text at its first quote that is not
  doubled;
* the words of a frame tell its root (`head_eq`) and, with the operands read one by one, where it ends (`write_apart`).
  Whether a minus sign is an operation or the sign of a number is seen behind the digits (`minus_apart`).
-/

namespace FormulaSql.Sql

/-! ## The first character -/

/-- What the first character of an operand says. -/
inductive Lead where
  | number
  | quote
  | letter
  | frame
  deriving DecidableEq

/-- Whether a character starts an operand, and which. -/
def Lead.of? (c : Char) : Option Lead :=
  if c.isDigit || c == '-' then some .number
  else if c == '\x27' then some .quote
  else if c.isLower then some .letter
  else if c == '(' || c.isUpper then some .frame
  else none

/-- The start of a tree. -/
def leadOf : Expr → Lead
  | .number _ => .number
  | .text _ => .quote
  | .cell _ _ => .letter
  | _ => .frame

section Leads

variable (current : Datum) {e : Expr}

theorem lead_digit {c : Char} (h : c.isDigit) : Lead.of? c = some .number := by
  simp [Lead.of?, h]

theorem leadOf_node {h : Head} {args : List Expr} (hn : e.node? = some (h, args)) : leadOf e = .frame := by
  obtain ⟨s, l, r, rfl, rfl, rfl⟩ | ⟨s, a, rfl, rfl, rfl⟩ | ⟨name, rfl, rfl⟩ := node_cases hn <;> rfl

theorem heads_lead : ∀ h ∈ heads, (wordsOf h).opening.head?.bind Lead.of? = some .frame := by
  decide +kernel

theorem written_lead (h : Within readableTrees e) : ∃ c t, written current e = c :: t ∧ Lead.of? c = some (leadOf e) := by
  cases h with
  | number hv =>
    rw [written_number]
    rcases numeral_text hv with hu | ⟨t, ht, _⟩
    · obtain ⟨c, t, ht, hc⟩ := hu.digit
      exact ⟨c, t, ht, lead_digit hc⟩
    · exact ⟨'-', t, ht, rfl⟩
  | text s =>
    rw [written_text]
    exact ⟨_, _, rfl, rfl⟩
  | cell hname =>
    obtain ⟨letters, hne, hupper, hletters⟩ := exists_letters hname
    obtain ⟨c, t, rfl⟩ := List.exists_cons_of_ne_nil hne
    rw [written_letters current hupper hletters]
    refine ⟨c.toLower, t.map Char.toLower, rfl, ?_⟩
    exact upper_all (P := fun c => Lead.of? c.toLower = some .letter) (by decide) (hupper c List.mem_cons_self)
  | @node e head args hn hhead _ =>
    rw [written_node current hn hhead, leadOf_node hn]
    have hlead := heads_lead head (mem_heads hhead)
    cases hopening : (wordsOf head).opening with
    | nil => rw [hopening] at hlead; cases hlead
    | cons c t =>
      rw [hopening] at hlead
      cases args with
      | nil => exact ⟨c, t ++ (wordsOf head).closing, by rw [List.map_nil, Words.write, hopening]; rfl, hlead⟩
      | cons a as => exact ⟨c, _, by rw [List.map_cons, Words.write, hopening]; rfl, hlead⟩

/-- What starts as a number is one. -/
theorem numeral_of_lead (h : Within readableTrees e) (hl : leadOf e = .number) : Numeral (written current e) := by
  cases h with
  | number hv => rw [written_number]; exact numeral_text hv
  | text s => cases hl
  | cell _ => cases hl
  | node hn _ _ => rw [leadOf_node hn] at hl; cases hl

end Leads

/-! ## Trees that look alike -/

/-- Trees that differ only in what their SQL does not show. -/
inductive Alike : Expr → Expr → Prop
  | number {v v' : Number} : v.text = v'.text → Alike (.number v) (.number v')
  | text (s : String) : Alike (.text (.text s)) (.text (.text s))
  | cell {name name' : String} : columnLetters name = columnLetters name' →
      Alike (.cell (.text name) .null) (.cell (.text name') .null)
  | node {e e' : Expr} {h : Head} {args args' : List Expr} : e.node? = some (h, args) → e'.node? = some (h, args') →
      args.length = args'.length → (∀ p ∈ args.zip args', Alike p.1 p.2) → Alike e e'

/-- The same for lists of operands. -/
def AlikeAll (args args' : List Expr) : Prop :=
  args.length = args'.length ∧ ∀ p ∈ args.zip args', Alike p.1 p.2

theorem AlikeAll.cons {a a' : Expr} {args args' : List Expr} (h : Alike a a') (hs : AlikeAll args args') :
    AlikeAll (a :: args) (a' :: args') :=
  ⟨by rw [List.length_cons, List.length_cons, hs.1], List.forall_mem_cons.2 ⟨h, hs.2⟩⟩

/-! ## Reading a tree off the front of a text -/

/-- Nothing follows, or a character that may follow an operand. -/
def Ends (r : List Char) : Prop :=
  ∀ c ∈ r.head?, isStop c

theorem Stops.ends {s : List Char} (h : Stops s) (r : List Char) : Ends (s ++ r) := by
  intro c hc
  cases s with
  | nil => cases h
  | cons d s =>
    cases hc
    exact h

/-- A row of characters that cannot follow an operand ends where the operand ends. -/
theorem run_apart {p : Char → Bool} (hp : ∀ c, isStop c → ¬ p c) {a b r r' : List Char} (ha : ∀ c ∈ a, p c)
    (hb : ∀ c ∈ b, p c) (hr : Ends r) (hr' : Ends r') (h : a ++ r = b ++ r') : a = b ∧ r = r' :=
  run_inj ha hb (fun c hc => hp c (hr c hc)) (fun c hc => hp c (hr' c hc)) h

theorem of_isStop {P : Char → Prop} (h : P ' ' ∧ P ',' ∧ P ')') (c : Char) (hc : isStop c) : P c := by
  simp only [isStop, List.contains_iff_mem, List.mem_cons, List.not_mem_nil, or_false] at hc
  rcases hc with rfl | rfl | rfl
  · exact h.1
  · exact h.2.1
  · exact h.2.2

theorem numeral_apart {a b r r' : List Char} (ha : ∀ c ∈ a, isNumeralChar c) (hb : ∀ c ∈ b, isNumeralChar c)
    (hr : Ends r) (hr' : Ends r') (h : a ++ r = b ++ r') : a = b ∧ r = r' :=
  run_apart (of_isStop (by decide)) ha hb hr hr' h

section Doubled

variable {q : Char}

theorem doubled_quote (cs : List Char) : doubled q (q :: cs) = q :: q :: doubled q cs := by
  simp [doubled]

theorem doubled_other {c : Char} (h : c ≠ q) (cs : List Char) : doubled q (c :: cs) = c :: doubled q cs := by
  simp [doubled, h]

/-- A quote in the content of a literal is followed by another one. -/
theorem of_doubled_cons {d : Char} {s x y : List Char} (h : doubled q (d :: s) ++ x = q :: y) :
    d = q ∧ y = q :: (doubled q s ++ x) := by
  by_cases hd : d = q
  · subst hd
    rw [doubled_quote] at h
    exact ⟨rfl, (List.cons.inj h).2.symm⟩
  · rw [doubled_other hd] at h
    exact absurd (List.cons.inj h).1 hd

/-- The content of a literal ends at the first quote that is not doubled. -/
theorem doubled_apart : ∀ {s s' r r' : List Char}, (∀ c ∈ r.head?, c ≠ q) → (∀ c ∈ r'.head?, c ≠ q) →
    doubled q s ++ q :: r = doubled q s' ++ q :: r' → s = s' ∧ r = r'
  | [], [], _, _, _, _, h => ⟨rfl, (List.cons.inj h).2⟩
  | [], d :: s', r, _, hr, _, h => by
    rw [(of_doubled_cons h.symm).2] at hr
    exact absurd rfl (hr q rfl)
  | c :: s, [], _, r', _, hr', h => by
    rw [(of_doubled_cons h).2] at hr'
    exact absurd rfl (hr' q rfl)
  | c :: s, d :: s', _, _, hr, hr', h => by
    by_cases hc : c = q
    · rw [hc, doubled_quote] at h
      obtain ⟨hd, hrest⟩ := of_doubled_cons h.symm
      obtain ⟨rfl, htail⟩ := doubled_apart hr hr' (List.cons.inj hrest).2
      exact ⟨by rw [hc, hd], htail⟩
    · by_cases hd : d = q
      · rw [hd, doubled_quote] at h
        exact absurd (of_doubled_cons h).1 hc
      · rw [doubled_other hc, doubled_other hd] at h
        obtain ⟨rfl, hrest⟩ := List.cons.inj h
        obtain ⟨rfl, htail⟩ := doubled_apart hr hr' hrest
        exact ⟨rfl, htail⟩

end Doubled

section Reading

variable {current current' : Datum}

/-- Operands in a text with the same front start alike. -/
theorem lead_eq {e e' : Expr} (he : Within readableTrees e) (he' : Within readableTrees e') {r r' : List Char}
    (h : written current e ++ r = written current' e' ++ r') : leadOf e = leadOf e' := by
  obtain ⟨c, t, ht, hc⟩ := written_lead current he
  obtain ⟨c', t', ht', hc'⟩ := written_lead current' he'
  rw [ht, ht'] at h
  obtain ⟨rfl, _⟩ := List.cons.inj h
  exact Option.some.inj (hc.symm.trans hc')

/-- A minus sign is the sign of a number only if the operand behind it is one, and both end at the same place. -/
theorem minus_apart {a b : Expr} (ha : Within readableTrees a) (hb : Within readableTrees b) {r r' : List Char}
    (hr : Ends r) (hr' : Ends r') (h : '-' :: (written current a ++ r) = written current' b ++ r') : r = r' := by
  obtain ⟨c, t, ht, hc⟩ := written_lead current' hb
  have hsign : c = '-' := by
    rw [ht] at h
    exact (List.cons.inj h).1.symm
  have hlead : leadOf b = .number := by
    rw [hsign] at hc
    exact (Option.some.inj hc).symm
  rcases numeral_of_lead current' hb hlead with hu | ⟨t', ht', hu⟩
  · obtain ⟨d, t', ht', hd⟩ := hu.digit
    rw [ht', List.cons_append] at h
    rw [← (List.cons.inj h).1] at hd
    exact absurd hd (by decide)
  · rw [ht', List.cons_append] at h
    have hrest := (List.cons.inj h).2
    obtain ⟨d, s, rfl, hd⟩ := hu.digit
    obtain ⟨c', s', hs', hc'⟩ := written_lead current ha
    have hnumber : leadOf a = .number := by
      rw [hs'] at hrest
      rw [(List.cons.inj hrest).1, lead_digit hd] at hc'
      exact (Option.some.inj hc').symm
    exact (numeral_apart (numeral_of_lead current ha hnumber).chars hu.chars hr hr' hrest).2

variable (current current') in
/-- A tree can be read off the front of a text. -/
def Distinct (e : Expr) : Prop :=
  ∀ {e' : Expr}, Within readableTrees e' → ∀ {r r' : List Char}, Ends r → Ends r' →
    written current e ++ r = written current' e' ++ r' → Alike e e' ∧ r = r'

theorem tail_ends {w : Words} (hw : w.Clear) {between : List Char} (hb : Stops between) :
    ∀ (ps : List (List Char)) (r : List Char), Ends (w.tail between ps ++ r)
  | [], r => hw.closing.ends r
  | p :: ps, r => by
    rw [Words.tail, List.append_assoc]
    exact hb.ends _

/-- Operands behind the first one can be read off the front of a text. -/
theorem tail_apart {w : Words} (hw : w.Clear) : ∀ {between : List Char}, Stops between → Apart between w.closing →
    ∀ {args args' : List Expr}, (∀ a ∈ args, Distinct current current' a) → (∀ a ∈ args', Within readableTrees a) →
    ∀ {r r' : List Char}, w.tail between (args.map (written current)) ++ r =
      w.tail between (args'.map (written current')) ++ r' → AlikeAll args args' ∧ r = r'
  | _, _, _, [], [], _, _, _, _, h => ⟨⟨rfl, List.forall_mem_nil _⟩, List.append_cancel_left h⟩
  | _, _, hc, [], _ :: _, _, _, _, _, h => by
    simp only [List.map_cons, List.map_nil, Words.tail, List.append_assoc] at h
    exact absurd h.symm (hc.ne _ _)
  | _, _, hc, _ :: _, [], _, _, _, _, h => by
    simp only [List.map_cons, List.map_nil, Words.tail, List.append_assoc] at h
    exact absurd h (hc.ne _ _)
  | _, _, _, a :: args, a' :: args', hargs, hargs', _, _, h => by
    obtain ⟨ha, hrest⟩ := List.forall_mem_cons.1 hargs
    obtain ⟨ha', hrest'⟩ := List.forall_mem_cons.1 hargs'
    simp only [List.map_cons, Words.tail, List.append_assoc] at h
    obtain ⟨halike, htail⟩ := ha ha' (tail_ends hw hw.later _ _) (tail_ends hw hw.later _ _) (List.append_cancel_left h)
    obtain ⟨hall, hr⟩ := tail_apart hw hw.later hw.later_closing hrest hrest' htail
    exact ⟨.cons halike hall, hr⟩

/-- No operand starts as a closing word. -/
theorem closing_ne {w : Words} (hw : w.Clear) {e : Expr} (he : Within readableTrees e) (x y : List Char) :
    w.closing ++ x ≠ written current e ++ y := by
  intro h
  obtain ⟨c, t, ht, hc⟩ := written_lead current he
  have hstop : isStop c := hw.closing.ends x c (by rw [h, ht]; rfl)
  have hnone : Lead.of? c = none := of_isStop (P := fun c => Lead.of? c = none) (by decide) c hstop
  rw [hnone] at hc
  cases hc

/-- The operands of a frame can be read off the front of a text behind its opening. -/
theorem write_apart {w : Words} (hw : w.Clear) {args args' : List Expr} (hargs : ∀ a ∈ args, Distinct current current' a)
    (hwithin : ∀ a ∈ args, Within readableTrees a) (hwithin' : ∀ a ∈ args', Within readableTrees a) {r r' : List Char}
    (h : w.write (args.map (written current)) ++ r = w.write (args'.map (written current')) ++ r') :
    AlikeAll args args' ∧ r = r' := by
  cases args with
  | nil =>
    cases args' with
    | nil => exact ⟨⟨rfl, List.forall_mem_nil _⟩, List.append_cancel_left h⟩
    | cons a' args' =>
      simp only [List.map_cons, List.map_nil, Words.write, List.append_assoc] at h
      exact absurd (List.append_cancel_left h) (closing_ne hw (hwithin' a' List.mem_cons_self) _ _)
  | cons a args =>
    cases args' with
    | nil =>
      simp only [List.map_cons, List.map_nil, Words.write, List.append_assoc] at h
      exact absurd (List.append_cancel_left h).symm (closing_ne hw (hwithin a List.mem_cons_self) _ _)
    | cons a' args' =>
      obtain ⟨ha, hrest⟩ := List.forall_mem_cons.1 hargs
      obtain ⟨ha', hrest'⟩ := List.forall_mem_cons.1 hwithin'
      simp only [List.map_cons, Words.write, List.append_assoc] at h
      obtain ⟨halike, htail⟩ := ha ha' (tail_ends hw hw.first _ _) (tail_ends hw hw.first _ _) (List.append_cancel_left h)
      obtain ⟨hall, hr⟩ := tail_apart hw hw.first hw.first_closing hrest hrest' htail
      exact ⟨.cons halike hall, hr⟩

/-- A minus sign is no operator between two operands. -/
theorem minus_write_ne {h h' : Head} (hh : h ∈ heads) (hm : isMinus h) (hh' : h' ∈ heads) (hi : isInfix h') {a b c : Expr}
    (ha : Within readableTrees a) (hb : Within readableTrees b) (args : List Expr) (r r' : List Char) :
    (wordsOf h).write [written current a] ++ r ≠
      (wordsOf h').write (written current' b :: written current' c :: args.map (written current')) ++ r' := by
  intro heq
  have hclear := heads_clear h hh
  have hclear' := heads_clear h' hh'
  simp only [Words.write, Words.tail, eq_of_beq hm, eq_of_beq hi, List.append_assoc] at heq
  have hrest := minus_apart ha hb (hclear.closing.ends r) (hclear'.first.ends _) (List.cons.inj heq).2
  rw [heads_closing h hh (.inr hm), ← heads_closing h' hh' (.inl hi)] at hrest
  exact hclear'.first_closing.ne _ _ hrest.symm

/-- Two frames that stand at the front of the same text have the same root. -/
theorem head_eq {e e' : Expr} {h h' : Head} {args args' : List Expr} (hn : e.node? = some (h, args))
    (hh : readableTrees.head h args.length) (hargs : ∀ a ∈ args, Within readableTrees a)
    (hdistinct : ∀ a ∈ args, Distinct current current' a) (hn' : e'.node? = some (h', args'))
    (hh' : readableTrees.head h' args'.length) (hargs' : ∀ a ∈ args', Within readableTrees a) {r r' : List Char}
    (heq : (wordsOf h).write (args.map (written current)) ++ r = (wordsOf h').write (args'.map (written current')) ++ r') :
    h = h' := by
  have hmem := mem_heads hh
  have hmem' := mem_heads hh'
  have opens (w : Words) (ps : List (List Char)) (x : List Char) : ∃ y, w.write ps ++ x = w.opening ++ y := by
    cases ps with
    | nil => exact ⟨w.closing ++ x, List.append_assoc _ _ _⟩
    | cons p ps => exact ⟨_, List.append_assoc _ _ _⟩
  rcases heads_apart h hmem h' hmem' with heads | hopening | ⟨hi, hi', hfirst⟩ | ⟨hm, hi⟩ | ⟨hi, hm⟩
  · exact heads
  · obtain ⟨x, hx⟩ := opens (wordsOf h) (args.map (written current)) r
    obtain ⟨x', hx'⟩ := opens (wordsOf h') (args'.map (written current')) r'
    rw [hx, hx'] at heq
    exact absurd heq (hopening.ne x x')
  · -- the first operands are the same, and what follows them tells the operators apart
    obtain ⟨a, b, rest, rfl⟩ := infix_operands hn hh hi
    obtain ⟨a', b', rest', rfl⟩ := infix_operands hn' hh' hi'
    have hclear := heads_clear h hmem
    have hclear' := heads_clear h' hmem'
    simp only [List.map_cons, Words.write, Words.tail, eq_of_beq hi, eq_of_beq hi', List.append_assoc] at heq
    obtain ⟨_, htail⟩ := hdistinct a List.mem_cons_self (hargs' a' List.mem_cons_self) (hclear.first.ends _)
      (hclear'.first.ends _) (List.append_cancel_left heq)
    exact absurd htail (hfirst.ne _ _)
  · obtain ⟨a, rfl⟩ := minus_operand hn hmem hm
    obtain ⟨a', b', rest', rfl⟩ := infix_operands hn' hh' hi
    exact absurd heq
      (minus_write_ne hmem hm hmem' hi (hargs a List.mem_cons_self) (hargs' a' List.mem_cons_self) rest' r r')
  · obtain ⟨a, b, rest, rfl⟩ := infix_operands hn hh hi
    obtain ⟨a', rfl⟩ := minus_operand hn' hmem' hm
    exact absurd heq.symm
      (minus_write_ne hmem' hm hmem hi (hargs' a' List.mem_cons_self) (hargs a List.mem_cons_self) rest r' r)

/-- **A tree can be read off the front of a text**, up to what the text does not show. -/
theorem written_apart {e : Expr} (he : Within readableTrees e) : Distinct current current' e := by
  induction he with
  | @number v hv =>
    intro e' he' r r' hr hr' h
    have hlead := lead_eq (.number hv) he' h
    cases he' with
    | @number v' hv' =>
      rw [written_number, written_number] at h
      obtain ⟨htext, hrest⟩ := numeral_apart (numeral_text hv).chars (numeral_text hv').chars hr hr' h
      exact ⟨.number (String.toList_inj.1 htext), hrest⟩
    | text => cases hlead
    | cell => cases hlead
    | node hn _ _ => rw [leadOf_node hn] at hlead; cases hlead
  | text s =>
    intro e' he' r r' hr hr' h
    have hlead := lead_eq (.text s) he' h
    have noQuote {r : List Char} (hr : Ends r) : ∀ c ∈ r.head?, c ≠ '\x27' :=
      fun c hc => of_isStop (P := (· ≠ '\x27')) (by decide) c (hr c hc)
    cases he' with
    | number => cases hlead
    | text s' =>
      rw [written_text, written_text, enclosed, enclosed, List.cons_append, List.cons_append, List.append_assoc,
        List.append_assoc] at h
      obtain ⟨hs, hrest⟩ := doubled_apart (noQuote hr) (noQuote hr') (List.cons.inj h).2
      rw [String.toList_inj.1 hs]
      exact ⟨.text s', hrest⟩
    | cell => cases hlead
    | node hn _ _ => rw [leadOf_node hn] at hlead; cases hlead
  | @cell name hname =>
    intro e' he' r r' hr hr' h
    have hlead := lead_eq (.cell hname) he' h
    cases he' with
    | number => cases hlead
    | text => cases hlead
    | @cell name' hname' =>
      obtain ⟨letters, _, hupper, hletters⟩ := exists_letters hname
      obtain ⟨letters', _, hupper', hletters'⟩ := exists_letters hname'
      have lower {cs : List Char} (hcs : ∀ c ∈ cs, c.isUpper) : ∀ c ∈ cs.map Char.toLower, c.isLower := by
        intro c hc
        obtain ⟨d, hd, rfl⟩ := List.mem_map.1 hc
        exact isLower_toLower (hcs d hd)
      rw [written_letters current hupper hletters, written_letters current' hupper' hletters'] at h
      obtain ⟨hsame, hrest⟩ := run_apart (p := Char.isLower) (of_isStop (by decide)) (lower hupper) (lower hupper') hr hr' h
      refine ⟨.cell ?_, hrest⟩
      rw [hletters, hletters', toLower_inj hupper hupper' hsame]
    | node hn _ _ => rw [leadOf_node hn] at hlead; cases hlead
  | @node e head args hn hhead hargs ih =>
    intro e' he' r r' _ _ h
    have hlead := lead_eq (.node hn hhead hargs) he' h
    cases he' with
    | number => rw [leadOf_node hn] at hlead; cases hlead
    | text => rw [leadOf_node hn] at hlead; cases hlead
    | cell => rw [leadOf_node hn] at hlead; cases hlead
    | @node e' head' args' hn' hhead' hargs' =>
      rw [written_node current hn hhead, written_node current' hn' hhead'] at h
      cases head_eq hn hhead hargs ih hn' hhead' hargs' h
      obtain ⟨hall, hrest⟩ := write_apart (heads_clear head (mem_heads hhead)) ih hargs hargs' h
      exact ⟨.node hn hn' hall.1 hall.2, hrest⟩

/-- Trees that look alike are written alike. -/
theorem written_alike {e e' : Expr} (h : Alike e e') : Within readableTrees e → Within readableTrees e' →
    written current e = written current' e' := by
  induction h with
  | number htext =>
    intro _ _
    rw [written_number, written_number, htext]
  | text s =>
    intro _ _
    rw [written_text, written_text]
  | cell hletters =>
    intro _ _
    rw [written_cell, written_cell, hletters]
  | @node e e' head args args' hn hn' hlength _ ih =>
    intro he he'
    obtain ⟨hhead, hargs⟩ := he.operands hn
    obtain ⟨hhead', hargs'⟩ := he'.operands hn'
    have hmap : args.map (written current) = args'.map (written current') := by
      refine List.ext_getElem (by rw [List.length_map, List.length_map, hlength]) fun i hi hi' => ?_
      rw [List.length_map] at hi hi'
      rw [List.getElem_map, List.getElem_map]
      refine ih (args[i], args'[i]) ?_ (hargs _ (List.getElem_mem hi)) (hargs' _ (List.getElem_mem hi'))
      exact List.mem_iff_getElem.2 ⟨i, by rw [List.length_zip]; omega, List.getElem_zip⟩
    rw [written_node current hn hhead, written_node current' hn' hhead', hmap]

end Reading

/-- **The SQL determines the tree.** Two readable trees, converted with empty tables and any current sheets, give the same
SQL exactly if they differ at most in rows and dollar signs of cells and in numbers that are printed alike. -/
theorem convert_eq_iff_alike {e e' : Expr} (he : Within readableTrees e) (he' : Within readableTrees e')
    (current current' : Datum) :
    ∃ sql sql', convert ⟨.dict [], .dict []⟩ current e = .ok (.text sql) ∧
      convert ⟨.dict [], .dict []⟩ current' e' = .ok (.text sql') ∧ (sql = sql' ↔ Alike e e') := by
  refine ⟨_, _, convert_typed rfl rfl he.typed, convert_typed rfl rfl he'.typed, ?_⟩
  rw [← String.toList_inj, toList_sqlOf, toList_sqlOf]
  refine ⟨fun h => ?_, fun h => written_alike h he he'⟩
  have hfront : written current e ++ [] = written current' e' ++ [] := by rw [List.append_nil, List.append_nil]; exact h
  exact (written_apart he he' (fun _ hc => by cases hc) (fun _ hc => by cases hc) hfront).1

/-- A literal with a comma, a parenthesis, a quote and a word of SQL in it, and cells in other rows. -/
theorem convert_eq_iff_alike_rows :
    ∃ e e' : Expr, Within readableTrees e ∧ Within readableTrees e' ∧ Alike e e' ∧
      convert ⟨.dict [], .dict []⟩ .null e =
        .ok (.text "CASE WHEN ((a <= 10) AND ') '' THEN, ') THEN (-b) ELSE SUM() END") ∧
      convert ⟨.dict [], .dict []⟩ (.text "S") e' =
        .ok (.text "CASE WHEN ((a <= 10) AND ') '' THEN, ') THEN (-b) ELSE SUM() END") := by
  let condition (a : String) : Expr :=
    .call (.text "AND") [.binary "<=" (.cell (.text a) .null) (.number (.whole 10)), .text (.text ") ' THEN, ")]
  let tree (a b : String) : Expr :=
    .call (.text "IF") [condition a, .unary "-" (.cell (.text b) .null), .call (.text "SUM") []]
  have hcell (d : List Char) (hd : d ∈ [[], ['$']]) {s : String} {c n : Char} (hs : s.toList = d ++ [c] ++ d ++ [n])
      (hc : c.isUpper) (hn : Text.isDigit n) : IsCellName s :=
    ⟨[c], [n], d, hd, d, hd, hs, by simp, by simp [hc], by simp, by simp [hn]⟩
  have hcondition {a : String} (ha : IsCellName a) : Within readableTrees (condition a) := by
    refine .node rfl rfl (List.forall_mem_cons.2 ⟨.node rfl rfl ?_, List.forall_mem_singleton.2 (.text _)⟩)
    exact List.forall_mem_cons.2 ⟨.cell ha, List.forall_mem_singleton.2 (.number rfl)⟩
  have hwithin {a b : String} (ha : IsCellName a) (hb : IsCellName b) : Within readableTrees (tree a b) := by
    refine .node rfl rfl (List.forall_mem_cons.2 ⟨hcondition ha, List.forall_mem_cons.2 ⟨?_, ?_⟩⟩)
    · exact .node rfl rfl (List.forall_mem_singleton.2 (.cell hb))
    · exact List.forall_mem_singleton.2 (.node rfl rfl (List.forall_mem_nil _))
  have he : Within readableTrees (tree "$A$1" "B2") :=
    hwithin (hcell ['$'] (by simp) rfl rfl rfl) (hcell [] (by simp) rfl rfl rfl)
  have he' : Within readableTrees (tree "A7" "$B$9") :=
    hwithin (hcell [] (by simp) rfl rfl rfl) (hcell ['$'] (by simp) rfl rfl rfl)
  obtain ⟨_, _, hsql, hsql', hiff⟩ := convert_eq_iff_alike he he' .null (.text "S")
  have htext : convert ⟨.dict [], .dict []⟩ .null (tree "$A$1" "B2") =
      .ok (.text "CASE WHEN ((a <= 10) AND ') '' THEN, ') THEN (-b) ELSE SUM() END") := rfl
  have htext' : convert ⟨.dict [], .dict []⟩ (.text "S") (tree "A7" "$B$9") =
      .ok (.text "CASE WHEN ((a <= 10) AND ') '' THEN, ') THEN (-b) ELSE SUM() END") := rfl
  cases hsql.symm.trans htext
  cases hsql'.symm.trans htext'
  exact ⟨_, _, he, he', hiff.1 rfl, htext, htext'⟩

end FormulaSql.Sql
