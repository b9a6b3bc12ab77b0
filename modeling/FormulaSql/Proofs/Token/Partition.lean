import FormulaSql.Proofs.Token.Cutting

/-!
# The tokens of a formula partition its text

Two descriptions of the tokens of a formula, each by an induction that goes from one token to the next.

* A lexer tries its matchers one after the other at its current position, each of which may fail behind the end, and
  moves on (`Lexer.step`). Step by step, none of which fails, it gives the tokens (`runs_tokensFrom`).
* The text is a row of segments (`Segment`), each a token with the characters that spell it or one skipped character.
  The tokens start where their segments start, and the finishing one stands at the end (`tokens_partition`).
-/

namespace FormulaSql

/-! ## One step of a lexer -/

namespace Lexer

/-- Tries matchers one after the other; the first token decides. -/
def tryAll (l : Lexer) : List Matcher → Except Fault (Lexer × Option Token)
  | [] => .ok (l, none)
  | m :: ms =>
    match l.apply m with
    | (_, .error fault) => .error fault
    | (l', .ok (some t)) => .ok (l', some t)
    | (l', .ok none) => l'.tryAll ms

/-- Moves behind the current character. -/
def advance (l : Lexer) : Lexer :=
  { l with pos := l.pos + 1 }

/-- One step: a blank is skipped, otherwise the matchers are tried, and a character that none of them knows is skipped. -/
def step (l : Lexer) : Except Fault (Lexer × Option Token) :=
  match l.rest with
  | [] => .error .pastEnd
  | c :: _ =>
    if Text.isBlank c then .ok (l.advance, none)
    else do
      match ← l.tryAll Matcher.order with
      | (l', some t) => return (l', some t)
      | (l', none) => return (l'.advance, none)

/-- A lexer that steps to the end of its text without a fault, and the tokens it gives on the way. -/
inductive Runs : Lexer → List Token → Prop
  | finish {l : Lexer} : l.text.length ≤ l.pos → Runs l [⟨.finish, l.pos⟩]
  | step {l l' : Lexer} {found : Option Token} {ts : List Token} :
      l.pos < l.text.length → l.step = .ok (l', found) → Runs l' ts → Runs l (found.toList ++ ts)

section Steps

variable {l : Lexer} {c : Char} {cs : List Char}

theorem lt_of_rest (h : l.rest = c :: cs) : l.pos < l.text.length := by
  have hlength : l.rest.length = l.text.length - l.pos := List.length_drop
  rw [h, List.length_cons] at hlength
  omega

theorem rest_advance (h : l.rest = c :: cs) : l.advance.rest = cs := by
  show l.text.drop (l.pos + 1) = cs
  rw [← List.drop_drop, show l.text.drop l.pos = c :: cs from h]
  rfl

/-- Before the end, a matcher that finds something moves behind it. -/
theorem apply_found {m : Matcher} {f : Find} (h : l.rest = c :: cs) (hf : m.find (c :: cs) = some f) :
    l.apply m = ({ l with pos := l.pos + f.length }, .ok (some ⟨f.lexeme, l.pos⟩)) := by
  rw [apply, h, hf]
  rfl

/-- Before the end, a matcher that finds nothing stays where it is and does not fail. -/
theorem apply_none {m : Matcher} (h : l.rest = c :: cs) (hm : m.find (c :: cs) = none) : l.apply m = (l, .ok none) := by
  rw [apply, h, hm]
  rfl

/-- The first matcher that finds something decides. -/
theorem tryAll_found {f : Find} (h : l.rest = c :: cs) : ∀ {ms : List Matcher},
    ms.findSome? (·.find (c :: cs)) = some f →
      l.tryAll ms = .ok ({ l with pos := l.pos + f.length }, some ⟨f.lexeme, l.pos⟩)
  | m :: ms, hf => by
    rw [List.findSome?_cons] at hf
    rw [tryAll]
    cases hm : m.find (c :: cs) with
    | some g =>
      rw [hm] at hf
      cases hf
      rw [apply_found h hm]
    | none =>
      rw [hm] at hf
      rw [apply_none h hm]
      exact tryAll_found h hf

theorem tryAll_none (h : l.rest = c :: cs) : ∀ {ms : List Matcher}, (∀ m ∈ ms, m.find (c :: cs) = none) →
    l.tryAll ms = .ok (l, none)
  | [], _ => rfl
  | m :: ms, hnone => by
    obtain ⟨hm, hms⟩ := List.forall_mem_cons.1 hnone
    rw [tryAll, apply_none h hm]
    exact tryAll_none h hms

theorem step_skipped (h : l.rest = c :: cs) (hs : Skipped (c :: cs)) : l.step = .ok (l.advance, none) := by
  rw [step, h]
  dsimp only
  by_cases hc : Text.isBlank c
  · rw [if_pos hc]
  · rcases hs with ⟨d, hd, hblank⟩ | hnone
    · cases hd
      exact absurd hblank hc
    · rw [if_neg hc, tryAll_none h fun m _ => hnone m]
      rfl

theorem step_found {f : Find} (h : l.rest = c :: cs) (hc : ¬ Text.isBlank c) (hf : firstFind (c :: cs) = some f) :
    l.step = .ok ({ l with pos := l.pos + f.length }, some ⟨f.lexeme, l.pos⟩) := by
  rw [step, h]
  dsimp only
  rw [if_neg hc, tryAll_found h hf]
  rfl

end Steps

/-- **Step by step a lexer gives the tokens of its text.** -/
theorem runs_tokensFrom (text : List Char) : ∀ (cs : List Char) (pos : Nat), text.drop pos = cs → pos ≤ text.length →
    Runs ⟨text, pos⟩ (tokensFrom cs pos 0) := by
  refine cutting_induction ?nil ?skipped ?found
  case nil =>
    intro pos h _
    exact .finish (List.drop_eq_nil_iff.1 h)
  case skipped =>
    intro c cs pos hs ih h _
    have hrest : (⟨text, pos⟩ : Lexer).rest = c :: cs := h
    rw [tokensFrom_skipped hs]
    exact .step (lt_of_rest hrest) (step_skipped hrest hs) (ih (rest_advance hrest) (lt_of_rest hrest))
  case found =>
    intro c cs pos f hc hf ih h _
    have hrest : (⟨text, pos⟩ : Lexer).rest = c :: cs := h
    have hle := (firstFind_cuts hf).le
    rw [← h, List.length_drop] at hle
    rw [tokensFrom_found hc hf]
    exact .step (lt_of_rest hrest) (step_found hrest hc hf) (ih (by rw [← h, List.drop_drop]) (by omega))

/-- **Every token of a text is given by a step** from the place where it starts. -/
theorem step_of_mem {text : List Char} {t : Token} (hfinish : t.lexeme ≠ .finish) : ∀ (cs : List Char) (pos : Nat),
    text.drop pos = cs → t ∈ tokensFrom cs pos 0 →
      ∃ f, firstFind (text.drop t.position) = some f ∧ f.lexeme = t.lexeme ∧
        (⟨text, t.position⟩ : Lexer).step = .ok (⟨text, t.position + f.length⟩, some t) := by
  refine cutting_induction ?nil ?skipped ?found
  case nil =>
    intro pos _ ht
    cases List.mem_singleton.1 ht
    exact absurd rfl hfinish
  case skipped =>
    intro c cs pos hs ih h ht
    rw [tokensFrom_skipped hs] at ht
    exact ih (rest_advance (l := ⟨text, pos⟩) h) ht
  case found =>
    intro c cs pos f hc hf ih h ht
    rw [tokensFrom_found hc hf] at ht
    rcases List.mem_cons.1 ht with rfl | ht
    · exact ⟨f, by rw [← hf, ← h], rfl, step_found (l := ⟨text, pos⟩) h hc hf⟩
    · exact ih (by rw [← h, List.drop_drop]) ht

end Lexer

/-! ## Segments -/

/-- A part of a text: a token with its characters, or a character that is skipped. -/
inductive Segment where
  | token (lexeme : Lexeme) (spelling : List Char)
  | skipped (c : Char)

namespace Segment

/-- The characters of a part. -/
def chars : Segment → List Char
  | token _ spelling => spelling
  | skipped c => [c]

/-- The text that parts make up. -/
def text (ss : List Segment) : List Char :=
  ss.flatMap chars

/-- The tokens of parts, where the first part starts at `pos`. -/
def tokens (pos : Nat) : List Segment → List Token
  | [] => []
  | token l spelling :: ss => ⟨l, pos⟩ :: tokens (pos + spelling.length) ss
  | skipped _ :: ss => tokens (pos + 1) ss

/-- The parts are cut in the right way: the characters of a token spell it and are what the first successful matcher
takes, and a skipped character is a blank or one that no matcher knows. -/
def Sound : List Segment → Prop
  | [] => True
  | token l spelling :: ss => spelling ≠ [] ∧ l.Spelled spelling ∧
      firstFind (spelling ++ text ss) = some ⟨l, spelling.length⟩ ∧ Sound ss
  | skipped c :: ss => Skipped (c :: text ss) ∧ Sound ss

/-- Tokens start inside the text, each behind the one before, and none is the finishing one. -/
theorem tokens_bounds : ∀ {ss : List Segment} {pos : Nat}, Sound ss →
    (tokens pos ss).Pairwise (·.position < ·.position) ∧
      ∀ t ∈ tokens pos ss, pos ≤ t.position ∧ t.position < pos + (text ss).length ∧ t.lexeme ≠ .finish
  | [], _, _ => ⟨.nil, List.forall_mem_nil _⟩
  | token l spelling :: ss, pos, ⟨hne, hspelled, _, hss⟩ => by
    have hpos : 0 < spelling.length := List.length_pos_iff.2 hne
    have hlength : (text (token l spelling :: ss)).length = spelling.length + (text ss).length := List.length_append
    obtain ⟨hpairs, hall⟩ := @tokens_bounds ss (pos + spelling.length) hss
    refine ⟨List.pairwise_cons.2 ⟨fun t ht => ?_, hpairs⟩, List.forall_mem_cons.2 ⟨⟨Nat.le_refl pos, ?_, ?_⟩, ?_⟩⟩
    · have := (hall t ht).1
      show pos < t.position
      omega
    · show pos < _
      omega
    · rintro rfl
      exact hspelled
    · intro t ht
      obtain ⟨h₁, h₂, h₃⟩ := hall t ht
      exact ⟨by omega, by omega, h₃⟩
  | skipped c :: ss, pos, ⟨_, hss⟩ => by
    have hlength : (text (skipped c :: ss)).length = 1 + (text ss).length := List.length_append
    obtain ⟨hpairs, hall⟩ := @tokens_bounds ss (pos + 1) hss
    refine ⟨hpairs, fun t ht => ?_⟩
    obtain ⟨h₁, h₂, h₃⟩ := hall t ht
    exact ⟨by omega, by omega, h₃⟩

/-- Every text is cut into parts, and its tokens are those of the parts and the finishing one. -/
theorem exists_segments : ∀ (cs : List Char) (pos : Nat), ∃ ss, text ss = cs ∧ Sound ss ∧
    tokensFrom cs pos 0 = tokens pos ss ++ [⟨.finish, pos + cs.length⟩] := by
  refine cutting_induction ?nil ?skipped ?found
  case nil => exact fun pos => ⟨[], rfl, trivial, rfl⟩
  case skipped =>
    rintro c cs pos hs ⟨ss, rfl, hss, htokens⟩
    refine ⟨.skipped c :: ss, rfl, ⟨hs, hss⟩, ?_⟩
    rw [tokensFrom_skipped hs, htokens, List.length_cons, Nat.add_right_comm pos 1, Nat.add_assoc]
    rfl
  case found =>
    rintro c cs pos f hc hf ⟨ss, hss, hsound, htokens⟩
    obtain ⟨hpos, hle, hspelled⟩ := firstFind_cuts hf
    have hlength : ((c :: cs).take f.length).length = f.length := List.length_take_of_le hle
    have hcs : (c :: cs).take f.length ++ text ss = c :: cs := by rw [hss, List.take_append_drop]
    have hend : pos + f.length + ((c :: cs).drop f.length).length = pos + (c :: cs).length := by
      rw [List.length_drop]; omega
    refine ⟨.token f.lexeme ((c :: cs).take f.length) :: ss, hcs, ⟨?_, hspelled, ?_, hsound⟩, ?_⟩
    · exact List.length_pos_iff.1 (hlength.symm ▸ hpos)
    · rw [hcs, hf, hlength]
    · rw [tokensFrom_found hc hf, htokens, hend]
      show _ = ⟨f.lexeme, pos⟩ :: (tokens (pos + ((c :: cs).take f.length).length) ss ++ _)
      rw [hlength]

end Segment

/-- **The tokens of a formula partition its text.** The lexer steps from the start of the text to its end without a
fault. The text is a row of tokens and single skipped characters: the characters of each token spell it, and a skipped
one is a blank or unknown to all matchers. The tokens start where their characters start, inside the text and each behind
the one before, and one finishing token stands last, at the end of the text. -/
theorem tokens_partition (s : String) :
    (⟨formulaText s, 0⟩ : Lexer).Runs (tokens s) ∧
    ∃ ss : List Segment, Segment.text ss = formulaText s ∧ Segment.Sound ss ∧
      tokens s = Segment.tokens 0 ss ++ [⟨.finish, (formulaText s).length⟩] ∧
      (tokens s).Pairwise (·.position < ·.position) ∧
      ∀ t ∈ Segment.tokens 0 ss, t.position < (formulaText s).length ∧ t.lexeme ≠ .finish := by
  refine ⟨Lexer.runs_tokensFrom (formulaText s) _ 0 rfl (Nat.zero_le _), ?_⟩
  obtain ⟨ss, htext, hsound, htokens⟩ := Segment.exists_segments (formulaText s) 0
  obtain ⟨hpairs, hall⟩ := @Segment.tokens_bounds ss 0 hsound
  simp only [Nat.zero_add, htext] at htokens hall
  have hsplit : tokens s = Segment.tokens 0 ss ++ [⟨.finish, (formulaText s).length⟩] := htokens
  refine ⟨ss, htext, hsound, hsplit, ?_, fun t ht => (hall t ht).2⟩
  rw [hsplit]
  refine List.pairwise_append.2 ⟨hpairs, List.pairwise_singleton _ _, fun t ht t' ht' => ?_⟩
  cases List.mem_singleton.1 ht'
  exact (hall t ht).2.1

-- an open text ends with the formula, and a character that no matcher knows is skipped
example : tokens "= A1 # \"a" = [⟨.cell "A1", 0⟩, ⟨.text "a", 5⟩, ⟨.finish, 7⟩] := by
  decide +kernel

end FormulaSql
