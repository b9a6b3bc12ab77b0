import FormulaSql.Sql.Converter

/-!
# Scanning SQL

A scanner reads SQL character by character and knows three things that are not plain text: literals in single quotes, in
which a doubled quote stands for one quote; block comments, which do not nest; and line comments. `Mode` is where the
scanner stands, `Scan` also keeps the literals it has decoded and whether it has been in a comment.

* A **calm** character is none of those that the scanner reacts to (`next_calm`).
* A **quiet** text has such a character on both sides of any other one. Outside literals and comments nothing happens
  in it (`scan_quiet`), and anywhere it may be blanked out (`run_quiet`).
* Scanning a literal gives back its content (`scan_literal`).
-/

namespace FormulaSql.Sql

/-! ## The scanner -/

/-- Where a scan stands. A mark of two characters is pending behind its first one. -/
inductive Mode where
  | plain
  /-- Plain text that ends in a slash. -/
  | slash
  /-- Plain text that ends in a hyphen. -/
  | hyphen
  | literal
  /-- Behind a quote that closes a literal, unless a second one follows. -/
  | quote
  | block
  /-- A block comment that ends in a star. -/
  | star
  | line
  deriving DecidableEq, Repr

namespace Mode

/-- What a character of plain text leads to. -/
def opening (c : Char) : Mode :=
  if c = '\x27' then literal else if c = '/' then slash else if c = '-' then hyphen else plain

/-- One character. -/
def next (m : Mode) (c : Char) : Mode :=
  match m with
  | plain => opening c
  | slash => if c = '*' then block else opening c
  | hyphen => if c = '-' then line else opening c
  | literal => if c = '\x27' then quote else literal
  | quote => if c = '\x27' then literal else opening c
  | block => if c = '*' then star else block
  | star => if c = '/' then plain else if c = '*' then star else block
  | line => if c = '\n' then plain else line

/-- Reads a text. -/
def run (m : Mode) (cs : List Char) : Mode :=
  cs.foldl next m

/-- Outside every literal and comment. -/
def outside : Mode → Bool
  | plain | slash | hyphen | quote => true
  | literal | block | star | line => false

/-- Inside a comment. -/
def inComment : Mode → Bool
  | block | star | line => true
  | _ => false

end Mode

/-- A scan: the literals met so far are decoded, the last one comes first. -/
structure Scan where
  mode : Mode
  literals : List (List Char)
  /-- Whether a comment has been entered. -/
  commented : Bool
  deriving DecidableEq, Repr

namespace Scan

/-- Adds a character to the current literal. -/
def extend (c : Char) : List (List Char) → List (List Char)
  | [] => []
  | l :: ls => (l ++ [c]) :: ls

/-- One character. -/
def next (s : Scan) (c : Char) : Scan where
  mode := s.mode.next c
  literals :=
    match s.mode, s.mode.next c with
    | .literal, .literal | .quote, .literal => extend c s.literals
    | _, .literal => [] :: s.literals
    | _, _ => s.literals
  commented := s.commented || (s.mode.next c).inComment

/-- Reads a text. -/
def run (s : Scan) (cs : List Char) : Scan :=
  cs.foldl next s

/-- A scan of nothing. -/
def start : Scan :=
  ⟨.plain, [], false⟩

/-- The literals in the order of the text. -/
def decoded (s : Scan) : List String :=
  (s.literals.map String.ofList).reverse

end Scan

/-- The scan of a whole text. -/
def scan (sql : String) : Scan :=
  Scan.start.run sql.toList

section Runs

variable {m : Mode} {s : Scan}

@[simp] theorem Mode.run_nil : m.run [] = m := rfl

@[simp] theorem Mode.run_cons (c : Char) (cs : List Char) : m.run (c :: cs) = (m.next c).run cs := rfl

@[simp] theorem Mode.run_append (cs ds : List Char) : m.run (cs ++ ds) = (m.run cs).run ds :=
  List.foldl_append

@[simp] theorem Scan.run_nil : s.run [] = s := rfl

@[simp] theorem Scan.run_cons (c : Char) (cs : List Char) : s.run (c :: cs) = (s.next c).run cs := rfl

@[simp] theorem Scan.run_append (cs ds : List Char) : s.run (cs ++ ds) = (s.run cs).run ds :=
  List.foldl_append

/-- The mode of a scan is the run of its mode. -/
theorem Scan.mode_run : ∀ (s : Scan) (cs : List Char), (s.run cs).mode = s.mode.run cs
  | _, [] => rfl
  | s, c :: cs => Scan.mode_run (s.next c) cs

end Runs

/-! ## Calm characters and quiet texts -/

/-- None of the characters that the scanner reacts to. -/
def Calm (c : Char) : Prop :=
  c ∉ ['\x27', '/', '*', '-', '\n']

instance : DecidablePred Calm := fun _ => inferInstanceAs (Decidable (_ ∉ _))

-- decided along the list, not over all characters
instance (cs : List Char) : Decidable (∀ c ∈ cs, Calm c) := List.decidableBAll Calm cs

theorem calm_of_lt {c : Char} (h : 47 < c.toNat) : Calm c := by
  intro hc
  simp only [List.mem_cons, List.not_mem_nil, or_false] at hc
  rcases hc with rfl | rfl | rfl | rfl | rfl <;> exact absurd h (by decide)

/-- A calm character does what a blank does. -/
theorem next_calm {c : Char} (h : Calm c) (m : Mode) : m.next c = m.next ' ' := by
  simp only [Calm, List.mem_cons, List.not_mem_nil, or_false, not_or] at h
  cases m <;> simp [Mode.next, h, Mode.opening]

/-- A text in which every character that is not calm stands between two that are. -/
inductive Quiet : List Char → Prop
  | nil : Quiet []
  | calm {c : Char} {cs : List Char} : Calm c → Quiet cs → Quiet (c :: cs)
  | lone {b c d : Char} {cs : List Char} : Calm b → c ≠ '\x27' → c ≠ '\n' → Calm d → Quiet cs → Quiet (b :: c :: d :: cs)

theorem Quiet.of_calm : ∀ {cs : List Char}, (∀ c ∈ cs, Calm c) → Quiet cs
  | [], _ => .nil
  | c :: _, h => .calm (h c List.mem_cons_self) (.of_calm fun d hd => h d (List.mem_cons_of_mem c hd))

theorem Quiet.append {cs ds : List Char} (h : Quiet cs) (h' : Quiet ds) : Quiet (cs ++ ds) := by
  induction h with
  | nil => exact h'
  | calm hc _ ih => exact .calm hc ih
  | lone hb hq hn hd _ ih => exact .lone hb hq hn hd ih

/-- A text with all its characters made blanks. -/
def blanked (cs : List Char) : List Char :=
  cs.map fun _ => ' '

/-- What a character opens alone, the next one settles. -/
theorem opening_settles {c : Char} (hq : c ≠ '\x27') : (Mode.opening c).next ' ' = .plain := by
  unfold Mode.opening
  rw [if_neg hq]
  split
  · rfl
  · split <;> rfl

theorem next_lone {c : Char} (hq : c ≠ '\x27') (hn : c ≠ '\n') (m : Mode) :
    ((m.next ' ').next c).next ' ' = m.next ' ' := by
  cases m with
  | plain | slash | hyphen | quote => exact opening_settles hq
  | literal => show (if c = '\x27' then Mode.quote else .literal).next ' ' = _; rw [if_neg hq]
  | block | star => show (if c = '*' then Mode.star else .block).next ' ' = _; split <;> rfl
  | line => show (if c = '\n' then Mode.plain else .line).next ' ' = _; rw [if_neg hn]

theorem next_blank_idem (m : Mode) : (m.next ' ').next ' ' = m.next ' ' := by
  cases m <;> rfl

/-- **A quiet text may be blanked out**, wherever it stands. -/
theorem run_quiet {cs : List Char} (h : Quiet cs) : ∀ m : Mode, m.run cs = m.run (blanked cs) := by
  induction h with
  | nil => exact fun _ => rfl
  | calm hc _ ih =>
    intro m
    rw [Mode.run_cons, next_calm hc, ih]; rfl
  | @lone b c d cs hb hq hn hd _ ih =>
    intro m
    rw [Mode.run_cons, Mode.run_cons, Mode.run_cons, next_calm hb, next_calm hd, next_lone hq hn, ih]
    show _ = (((m.next ' ').next ' ').next ' ').run (blanked cs)
    rw [next_blank_idem, next_blank_idem]

/-! ## Texts outside literals and comments -/

section Outside

variable {s : Scan}

/-- A character of plain text that opens no literal. -/
theorem next_plain {c : Char} (hs : s.mode = .plain) (hq : c ≠ '\x27') : s.next c = { s with mode := .opening c } := by
  obtain ⟨m, ls, b⟩ := s
  cases hs
  unfold Mode.opening
  simp only [Scan.next, Mode.next, Mode.opening, if_neg hq]
  split
  · simp [Mode.inComment]
  · split <;> simp [Mode.inComment]

theorem next_outside {c : Char} (hs : s.mode.outside) (hc : Calm c) : s.next c = { s with mode := .plain } := by
  obtain ⟨m, ls, b⟩ := s
  simp only [Scan.next, next_calm hc]
  cases m with
  | plain | slash | hyphen | quote => simp [Mode.next, Mode.opening, Mode.inComment]
  | literal | block | star | line => cases hs

theorem opening_outside {c : Char} (hq : c ≠ '\x27') : (Mode.opening c).outside := by
  unfold Mode.opening
  rw [if_neg hq]
  split
  · rfl
  · split <;> rfl

/-- **Nothing happens in a quiet text outside literals and comments.** -/
theorem scan_quiet {cs : List Char} (h : Quiet cs) : ∀ {s : Scan}, s.mode.outside → cs ≠ [] →
    s.run cs = { s with mode := .plain } := by
  have rest {ds : List Char} (ih : ∀ {s : Scan}, s.mode.outside → ds ≠ [] → s.run ds = { s with mode := .plain })
      {s : Scan} (hs : s.mode = .plain) : s.run ds = { s with mode := .plain } := by
    cases ds with
    | nil => rw [← hs]; rfl
    | cons => exact ih (by rw [hs]; rfl) (List.cons_ne_nil _ _)
  induction h with
  | nil => exact fun _ h => absurd rfl h
  | calm hc _ ih =>
    intro s hs _
    rw [Scan.run_cons, next_outside hs hc, rest ih rfl]
  | lone hb hq hn hd _ ih =>
    intro s hs _
    rw [Scan.run_cons, Scan.run_cons, Scan.run_cons, next_outside hs hb, next_plain rfl hq,
      next_outside (opening_outside hq) hd, rest ih rfl]

end Outside

/-! ## Literals -/

/-- A text with every quote doubled. -/
def doubled (quote : Char) (cs : List Char) : List Char :=
  cs.flatMap fun c => if c = quote then [quote, quote] else [c]

/-- A text between quotes, with every quote in it doubled. -/
def enclosed (quote : Char) (cs : List Char) : List Char :=
  quote :: (doubled quote cs ++ [quote])

theorem toList_literal (s : String) : (literal s).toList = enclosed '\x27' s.toList := by
  simp [literal, enclosed, doubled]

theorem scan_doubled (ls : List (List Char)) (b : Bool) : ∀ (l cs : List Char),
    (⟨.literal, l :: ls, b⟩ : Scan).run (doubled '\x27' cs) = ⟨.literal, (l ++ cs) :: ls, b⟩
  | l, [] => by simp [doubled]
  | l, c :: cs => by
    have ih := scan_doubled ls b (l ++ [c]) cs
    rw [List.append_assoc, List.singleton_append] at ih
    rw [← ih]
    show Scan.run _ ((if c = '\x27' then ['\x27', '\x27'] else [c]) ++ doubled '\x27' cs) = _
    split
    · subst c; simp [Scan.next, Mode.next, Mode.inComment, Scan.extend]
    · rename_i hc
      simp [Scan.next, Mode.next, hc, Mode.inComment, Scan.extend]

/-- Plain text in which a literal may open: no quote is pending. -/
def Mode.fresh : Mode → Bool
  | plain | slash | hyphen => true
  | _ => false

/-- **Scanning a literal gives back its content.** -/
theorem scan_literal (t : String) {s : Scan} (hs : s.mode.fresh) :
    s.run (literal t).toList = ⟨.quote, t.toList :: s.literals, s.commented⟩ := by
  obtain ⟨m, ls, b⟩ := s
  have hopen : (⟨m, ls, b⟩ : Scan).next '\x27' = ⟨.literal, [] :: ls, b⟩ := by
    cases m with
    | plain | slash | hyphen => simp [Scan.next, Mode.next, Mode.opening, Mode.inComment]
    | literal | quote | block | star | line => cases hs
  rw [toList_literal, enclosed, Scan.run_cons, hopen, Scan.run_append, scan_doubled]
  simp [Scan.next, Mode.next, Mode.inComment]

theorem run_literal (t : String) {m : Mode} (hm : m.fresh) : m.run (literal t).toList = .quote := by
  have h : ((⟨m, [], false⟩ : Scan).run (literal t).toList).mode = .quote := by
    rw [scan_literal t hm]
  rwa [Scan.mode_run] at h

end FormulaSql.Sql
