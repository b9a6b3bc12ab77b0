import FormulaSql.Proofs.Parser.Grammar
import Mathlib.Data.List.Chain

/-!
# Arguments and empty places of a call

Between the parentheses of a call stand places that commas divide; a place is empty or holds an expression (`Slot`). The
parser has no rule for an empty place. It looks for an operand, finds a comma, and takes this comma for a missing operand;
behind every argument it takes a comma too, if there is one. `Taken slots args` says what comes of it.

* An empty place in front of an expression that starts with no sign becomes a missing operand.
* An empty place in front of a sign becomes the left operand of it: `F(,-1)` is read as `F(0-1)`.
* Of two empty places side by side the comma between them is taken as well, and the second is lost.
* An empty place at the end is lost.

**The arguments are in their places exactly if no empty place stands at the end, in front of an empty place or in front of
a sign** (`parse_call_slots`); otherwise there are fewer arguments than places. One place is a step of the argument loop,
and the whole row is read by induction on the places (`arguments_of_slots`).
-/

namespace FormulaSql.Parser

/-! ## Places -/

/-- A place between the commas of a call: empty, or an expression with a way to write it. -/
inductive Slot where
  | empty
  | filled (e : Expr) (ls : List Lexeme) (h : Renders .comparison e ls)

/-- Lexemes that start with an operator. -/
def Signed : List Lexeme → Prop
  | .operator _ :: _ => True
  | _ => False

namespace Slot

/-- The lexemes of a place. -/
def lexemes : Slot → List Lexeme
  | empty => []
  | filled _ ls _ => ls

/-- The argument that stands in a place; an empty one stands for a missing operand. -/
def tree : Slot → Expr
  | empty => .missing
  | filled e _ _ => e

/-- The lexemes of places with commas between them. -/
def row : List Slot → List Lexeme
  | [] => []
  | [s] => s.lexemes
  | s :: t :: rest => s.lexemes ++ .comma :: row (t :: rest)

/-- A place keeps its argument in front of another one: an empty place must not stand in front of an empty one or a
sign. -/
def KeptBefore (s t : Slot) : Prop :=
  s = empty → t ≠ empty ∧ ¬ Signed t.lexemes

/-- Every place keeps its argument. -/
def Settled (slots : List Slot) : Prop :=
  slots.getLast? ≠ some empty ∧ slots.IsChain KeptBefore

end Slot

open Slot

/-- The arguments that the parser takes from places. -/
inductive Taken : List Slot → List Expr → Prop
  | none : Taken [] []
  /-- An empty place at the end gives no argument. -/
  | last : Taken [.empty] []
  | one {e : Expr} {ls : List Lexeme} (h : Renders .comparison e ls) : Taken [.filled e ls h] [e]
  | more {e : Expr} {ls : List Lexeme} (h : Renders .comparison e ls) {s : Slot} {rest : List Slot} {args : List Expr} :
      Taken (s :: rest) args → Taken (.filled e ls h :: s :: rest) (e :: args)
  | missing {e : Expr} {ls : List Lexeme} (h : Renders .comparison e ls) {rest : List Slot} {args : List Expr} :
      ¬ Signed ls → Taken (.filled e ls h :: rest) args → Taken (.empty :: .filled e ls h :: rest) (.missing :: args)
  /-- An empty place in front of a sign is one place with it, the zero before the sign written out. -/
  | sign {e e' : Expr} {ls : List Lexeme} (h : Renders .comparison e ls)
      (h' : Renders .comparison e' (.number (.whole 0) :: ls)) {rest : List Slot} {args : List Expr} :
      Signed ls → Taken (.filled e' (.number (.whole 0) :: ls) h' :: rest) args →
        Taken (.empty :: .filled e ls h :: rest) args
  /-- Two empty places side by side give one argument. -/
  | pair {rest : List Slot} {args : List Expr} : Taken rest args → Taken (.empty :: .empty :: rest) (.missing :: args)

/-! ## Which places are kept -/

theorem settled_cons_cons {s t : Slot} {rest : List Slot} :
    Settled (s :: t :: rest) ↔ s.KeptBefore t ∧ Settled (t :: rest) := by
  simp only [Settled, List.isChain_cons_cons, List.getLast?_cons_cons]
  constructor
  · rintro ⟨hlast, hkept, hchain⟩
    exact ⟨hkept, hlast, hchain⟩
  · rintro ⟨hkept, hlast, hchain⟩
    exact ⟨hlast, hkept, hchain⟩

theorem keptBefore_filled {e : Expr} {ls : List Lexeme} (h : Renders .comparison e ls) (t : Slot) :
    (Slot.filled e ls h).KeptBefore t := fun he => by cases he

/-- There are never more arguments than places, and as many only if every place is kept. -/
theorem Taken.length {slots : List Slot} {args : List Expr} (h : Taken slots args) :
    args.length ≤ slots.length ∧ (args.length = slots.length → Settled slots) := by
  induction h with
  | none => exact ⟨Nat.le_refl _, fun _ => ⟨by simp, .nil⟩⟩
  | last => exact ⟨Nat.zero_le _, fun h => by cases h⟩
  | one h => exact ⟨Nat.le_refl _, fun _ => ⟨by simp, .singleton _⟩⟩
  | more h _ ih =>
    refine ⟨by simpa using ih.1, fun hlen => settled_cons_cons.2 ⟨keptBefore_filled h _, ih.2 ?_⟩⟩
    simpa using hlen
  | missing h hsign _ ih =>
    refine ⟨by simpa using ih.1, fun hlen => settled_cons_cons.2 ⟨fun _ => ⟨by simp, hsign⟩, ih.2 ?_⟩⟩
    simpa using hlen
  | sign h h' _ _ ih =>
    have hle := ih.1
    simp only [List.length_cons] at hle ⊢
    exact ⟨by omega, fun hlen => by omega⟩
  | pair _ ih =>
    have hle := ih.1
    simp only [List.length_cons] at hle ⊢
    exact ⟨by omega, fun hlen => by omega⟩

/-- Where every place is kept, each argument is the one that stands in its place. -/
theorem Taken.eq_trees {slots : List Slot} {args : List Expr} (h : Taken slots args) (hs : Settled slots) :
    args = slots.map Slot.tree := by
  induction h with
  | none => rfl
  | last => exact absurd rfl hs.1
  | one h => rfl
  | more h _ ih => rw [ih (settled_cons_cons.1 hs).2]; rfl
  | missing h hsign _ ih => rw [ih (settled_cons_cons.1 hs).2]; rfl
  | sign h h' hsign _ _ =>
    have hkept := (settled_cons_cons.1 hs).1 rfl
    exact absurd hsign hkept.2
  | pair _ _ =>
    have hkept := (settled_cons_cons.1 hs).1 rfl
    exact absurd rfl hkept.1

/-! ## Signs in front of renderings -/

/-- No rendering starts with a comma. -/
theorem renders_head_ne_comma : ∀ {layer : Layer} {e : Expr} {ls : List Lexeme}, Renders layer e ls →
    ls.head? ≠ some .comma
  | _, _, _, .inner h => renders_head_ne_comma h
  | _, _, _, .join _ h _ | _, _, _, .power h _ => by
    have hne := renders_head_ne_comma h
    obtain ⟨l, ls', rfl, -⟩ := renders_begins h
    exact hne
  | _, _, _, .sign .. | _, _, _, .number _ | _, _, _, .text _ | _, _, _, .cell _ | _, _, _, .sheetCell ..
  | _, _, _, .range _ | _, _, _, .sheetRange .. | _, _, _, .table .. | _, _, _, .call _ | _, _, _, .group _ => by simp

/-- A row whose first place holds an expression without a sign starts with neither an operator nor a comma. -/
theorem row_filled_begins {e : Expr} {ls : List Lexeme} (h : Renders .comparison e ls) (rest : List Slot)
    (hsign : ¬ Signed ls) :
    ∃ l tail, row (.filled e ls h :: rest) = l :: tail ∧ (∀ s, l ≠ .operator s) ∧ l ≠ .comma := by
  have hcomma := renders_head_ne_comma h
  obtain ⟨l, ls', rfl, -⟩ := renders_begins h
  have hl : ∀ s, l ≠ .operator s := by
    rintro s rfl
    exact hsign trivial
  have hne : l ≠ .comma := fun he => hcomma (congrArg some he)
  cases rest with
  | nil => exact ⟨l, _, rfl, hl, hne⟩
  | cons => exact ⟨l, _, rfl, hl, hne⟩

/-- The layers that a sum can stand at. -/
def Layer.isLoose : Layer → Bool
  | comparison | concat | addition => true
  | _ => false

/-- The first operand of a longer rendering starts as the rendering does. -/
theorem signed_left {layer : Layer} {e : Expr} {ls ls' : List Lexeme} (h : Renders layer e ls)
    (hs : Signed (ls ++ ls')) : Signed ls := by
  obtain ⟨l, tail, rfl, -⟩ := renders_begins h
  cases l with
  | operator s => trivial
  | _ => exact hs

/-- At a tight layer the sign in front of a rendering can be taken off. -/
theorem renders_behind_sign : ∀ {layer : Layer} {e : Expr} {ls : List Lexeme}, Renders layer e ls →
    layer.isLoose = false → Signed ls →
      ∃ s ls' e', ls = .operator s :: ls' ∧ s ∈ Layer.addition.joins ∧ Renders layer e' ls'
  | layer, _, _, .inner h, hl, hs => by
    have hinner : layer.inner.isLoose = false := by cases layer <;> first | rfl | cases hl
    obtain ⟨s, ls', e', rfl, hm, h'⟩ := renders_behind_sign h hinner hs
    exact ⟨s, ls', e', rfl, hm, .inner h'⟩
  | _, _, _, .join hj h₁ h₂, hl, hs => by
    obtain ⟨s, ls', e', rfl, hm, h'⟩ := renders_behind_sign h₁ hl (signed_left h₁ hs)
    exact ⟨s, _, _, rfl, hm, .join hj h' h₂⟩
  | _, _, _, .power h₁ h₂, _, hs => by
    obtain ⟨s, ls', e', rfl, hm, h'⟩ := renders_behind_sign h₁ rfl (signed_left h₁ hs)
    exact ⟨s, _, _, rfl, hm, .power h' h₂⟩
  | _, _, _, .sign hsign h, _, _ => ⟨_, _, _, rfl, by rcases hsign with rfl | rfl <;> decide, h⟩
  | _, _, _, .number _, _, hs | _, _, _, .text _, _, hs | _, _, _, .cell _, _, hs | _, _, _, .sheetCell .., _, hs
  | _, _, _, .range _, _, hs | _, _, _, .sheetRange .., _, hs | _, _, _, .table .., _, hs | _, _, _, .call _, _, hs
  | _, _, _, .group _, _, hs => hs.elim

/-! ## Reading an empty place -/

section Empty

variable {tokens : Array Token} {pos : Nat}

/-- A comma where an operand is looked for is taken for a missing one. -/
theorem reads_missing (h : Shows tokens pos .comma) : Reads tokens .missing pos (pos + 1) .primary := by
  have hreference : Yields (reference tokens · .null pos) (.missing, pos + 1) := by
    refine ⟨1, ?_⟩
    show reference tokens 1 .null pos = _
    rw [reference_succ, h.eq]
    rfl
  exact reads_primary h (by simp) (yields_primary_reference h trivial hreference)

/-- A missing operand in front of a sign, at the layer of sums. -/
theorem reads_missing_sum (h : Shows tokens pos .comma) {s : String} (hs : Shows tokens (pos + 1) (.operator s))
    (hm : s ∈ Layer.addition.joins) : Reads tokens .missing pos (pos + 1) .addition := by
  have hf : Follows .addition (.operator s) := follows_joins hm
  have sign : Reads tokens .missing pos (pos + 1) .sign := reads_inner (reads_missing h) hs hf.inner.inner.inner
  have power : Reads tokens .missing pos (pos + 1) .power := reads_inner sign hs hf.inner.inner
  have product : Reads tokens .missing pos (pos + 1) .multiplication := reads_inner power hs hf.inner
  exact reads_inner product hs hf

/-- A primary expression in front of anything but an operator is a whole expression. -/
theorem reads_of_primary {e : Expr} {stop : Nat} {l : Lexeme} (h : Reads tokens e pos stop .primary)
    (hl : Shows tokens stop l) (hn : ∀ s, l ≠ .operator s) : Reads tokens e pos stop .comparison := by
  have step {layer : Layer} (hr : Reads tokens e pos stop layer.inner) : Reads tokens e pos stop layer :=
    reads_inner hr hl (follows_of_not_operator hn)
  have power : Reads tokens e pos stop .power := step (step h)
  have sum : Reads tokens e pos stop .addition := step (step power)
  exact step (step sum)

/-- A missing operand in front of anything but an operator is a whole argument. -/
theorem yields_missing (h : Shows tokens pos .comma) {l : Lexeme} (hl : Shows tokens (pos + 1) l)
    (hn : ∀ s, l ≠ .operator s) : Yields (level tokens · .comparison pos) (.missing, pos + 1) :=
  (reads_of_primary (reads_missing h) hl hn).expression hl hn

/-- A missing operand in front of a signed expression is read with it as one expression: the same that a zero in front of
it would give. -/
theorem reads_missing_signed (hc : Shows tokens pos .comma) : ∀ {layer : Layer} {e : Expr} {ls : List Lexeme}
    {l : Lexeme}, Renders layer e ls → layer.isLoose = true → Signed ls → Spells tokens (pos + 1) ls →
      Shows tokens (pos + 1 + ls.length) l → Follows layer l →
        ∃ e', Renders layer e' (.number (.whole 0) :: ls) ∧ Reads tokens e' pos (pos + 1 + ls.length) layer
  | layer, _, _, l, .inner h, hloose, hsign, hs, hl, hf => by
    by_cases hinner : layer.inner.isLoose = true
    · obtain ⟨e', hr, hreads⟩ := reads_missing_signed hc h hinner hsign hs hl hf.inner
      exact ⟨e', .inner hr, reads_inner hreads hl hf⟩
    · -- the innermost loose layer: the sign joins the missing operand with what stands behind it
      obtain rfl : layer = .addition := by
        cases layer with
        | addition => rfl
        | comparison | concat => exact absurd rfl hinner
        | multiplication | power | sign | primary => cases hloose
      obtain ⟨s, ls', e', rfl, hm, hr⟩ := renders_behind_sign h rfl hsign
      have hl' : Shows tokens (pos + 1 + 1 + ls'.length) l := by
        rw [show pos + 1 + 1 + ls'.length = pos + 1 + (Lexeme.operator s :: ls').length by simp; omega]
        exact hl
      have right := reads_of_renders hr hs.2 hl' hf.inner
      have zero : Renders .addition (.number (.whole 0)) [.number (.whole 0)] := renders_of_primary _ (.number _)
      refine ⟨.binary s .missing e', .join hm zero hr, ?_⟩
      rw [show pos + 1 + (Lexeme.operator s :: ls').length = pos + 1 + 1 + ls'.length by simp; omega]
      exact reads_join hm (reads_missing_sum hc hs.1 hm) hs.1 right hl' hf
  | _, _, _, _, @Renders.join _ s _ _ ls₁ ls₂ hm h₁ h₂, hloose, hsign, hs, hl, hf => by
    obtain ⟨hs₁, hop, hs₂⟩ := spells_append.1 hs
    rw [show pos + 1 + (ls₁ ++ .operator s :: ls₂).length = pos + 1 + ls₁.length + 1 + ls₂.length by simp; omega] at hl ⊢
    obtain ⟨e', hr, left⟩ := reads_missing_signed hc h₁ hloose (signed_left h₁ hsign) hs₁ hop (follows_joins hm)
    have right := reads_of_renders h₂ hs₂ hl hf.inner
    exact ⟨_, .join hm hr h₂, reads_join hm left hop right hl hf⟩

end Empty

/-! ## The argument loop -/

section Loop

variable {tokens : Array Token}

/-- A filled place in front of another one starts an argument. -/
theorem arguments_filled {e : Expr} {ls : List Lexeme} {l : Lexeme} {args : List Expr} {pos stop : Nat}
    (h : Renders .comparison e ls) (hs : Spells tokens pos ls) (hl : Shows tokens (pos + ls.length) l)
    (hn : ∀ s, l ≠ .operator s) (ha : Yields (arguments tokens · (behindComma (pos + ls.length) l)) (args, stop)) :
    Yields (arguments tokens · pos) (e :: args, stop) := by
  have arg := (reads_of_renders h hs hl (follows_of_not_operator hn)).expression hl hn
  obtain ⟨first, tail, rfl, hbegins⟩ := renders_begins h
  exact yields_arguments_next hs.1 hbegins.1 hbegins.2 arg hl ha

/-- An empty place in front of anything but an operator is a missing argument. -/
theorem arguments_missing {l : Lexeme} {args : List Expr} {pos stop : Nat} (hc : Shows tokens pos .comma)
    (hl : Shows tokens (pos + 1) l) (hn : ∀ s, l ≠ .operator s)
    (ha : Yields (arguments tokens · (behindComma (pos + 1) l)) (args, stop)) :
    Yields (arguments tokens · pos) (.missing :: args, stop) :=
  yields_arguments_next hc (by simp) (by simp) (yields_missing hc hl hn) hl ha

/-- An empty place in front of a signed expression is one argument with it. -/
theorem arguments_signed {e : Expr} {ls : List Lexeme} {l : Lexeme} {pos : Nat} (h : Renders .comparison e ls)
    (hsign : Signed ls) (hc : Shows tokens pos .comma) (hs : Spells tokens (pos + 1) ls)
    (hl : Shows tokens (pos + 1 + ls.length) l) (hn : ∀ s, l ≠ .operator s) :
    ∃ e', Renders .comparison e' (.number (.whole 0) :: ls) ∧ ∀ args stop,
      Yields (arguments tokens · (behindComma (pos + 1 + ls.length) l)) (args, stop) →
        Yields (arguments tokens · pos) (e' :: args, stop) := by
  obtain ⟨e', hr, hreads⟩ := reads_missing_signed hc h rfl hsign hs hl (follows_of_not_operator hn)
  refine ⟨e', hr, fun args stop ha => ?_⟩
  exact yields_arguments_next hc (by simp) (by simp) (hreads.expression hl hn) hl ha

/-- **The argument loop**: what is taken from places that a closing parenthesis ends. -/
theorem arguments_of_slots : ∀ {slots : List Slot} {pos : Nat}, Spells tokens pos (row slots) →
    Shows tokens (pos + (row slots).length) .closeParen →
      ∃ args, Taken slots args ∧ Yields (arguments tokens · pos) (args, pos + (row slots).length + 1)
  | [], _, _, hc => ⟨[], .none, yields_arguments_close hc⟩
  | [.empty], _, _, hc => ⟨[], .last, yields_arguments_close hc⟩
  | [.filled e ls h], _, hs, hc => ⟨[e], .one h, arguments_filled h hs hc (by simp) (yields_arguments_close hc)⟩
  | .filled e ls h :: s :: rest, pos, hs, hc => by
    obtain ⟨hs, hcomma, hrest⟩ := spells_append.1 hs
    have hlen : pos + (row (.filled e ls h :: s :: rest)).length = pos + ls.length + 1 + (row (s :: rest)).length := by
      simp [row, lexemes]; omega
    rw [hlen] at hc ⊢
    obtain ⟨args, htaken, hargs⟩ := arguments_of_slots hrest hc
    exact ⟨e :: args, .more h htaken, arguments_filled h hs hcomma (by simp) hargs⟩
  | [.empty, .empty], _, hs, hc =>
    ⟨[.missing], .pair .none, arguments_missing hs.1 hc (by simp) (yields_arguments_close hc)⟩
  | .empty :: .empty :: s :: rest, pos, ⟨hcomma, hcomma', hrest⟩, hc => by
    have hlen : pos + (row (.empty :: .empty :: s :: rest)).length = pos + 1 + 1 + (row (s :: rest)).length := by
      simp [row, lexemes]; omega
    rw [hlen] at hc ⊢
    -- the loop takes the second comma: the second place is passed over
    obtain ⟨args, htaken, hargs⟩ := arguments_of_slots hrest hc
    exact ⟨.missing :: args, .pair htaken, arguments_missing hcomma hcomma' (by simp) hargs⟩
  | .empty :: .filled e ls h :: rest, pos, ⟨hcomma, hs⟩, hc => by
    have hlen : pos + (row (.empty :: .filled e ls h :: rest)).length =
        pos + 1 + (row (.filled e ls h :: rest)).length := by
      simp [row, lexemes]; omega
    rw [hlen] at hc ⊢
    by_cases hsign : Signed ls
    · cases rest with
      | nil =>
        obtain ⟨e', h', hargs⟩ := arguments_signed h hsign hcomma hs hc (by simp)
        exact ⟨[e'], .sign h h' hsign (.one h'), hargs _ _ (yields_arguments_close hc)⟩
      | cons s rest =>
        obtain ⟨hs, hcomma', hrest⟩ := spells_append.1 hs
        have hlen' : pos + 1 + (row (.filled e ls h :: s :: rest)).length =
            pos + 1 + ls.length + 1 + (row (s :: rest)).length := by
          simp [row, lexemes]; omega
        rw [hlen'] at hc ⊢
        obtain ⟨e', h', hsigned⟩ := arguments_signed h hsign hcomma hs hcomma' (by simp)
        obtain ⟨args, htaken, hargs⟩ := arguments_of_slots hrest hc
        exact ⟨e' :: args, .sign h h' hsign (.more h' htaken), hsigned _ _ hargs⟩
    · obtain ⟨args, htaken, hargs⟩ := arguments_of_slots hs hc
      obtain ⟨l, tail, hrow, hl, hcomma'⟩ := row_filled_begins h rest hsign
      rw [hrow] at hs
      refine ⟨.missing :: args, .missing h hsign htaken, arguments_missing hcomma hs.1 hl ?_⟩
      rw [behindComma_of_ne hcomma']
      exact hargs

end Loop

/-- **Which arguments a call gets.** The parser returns a call of the name with the arguments that are taken from the
places. They are the arguments in their places exactly if every place is kept, and otherwise they are fewer. -/
theorem parse_call_slots {name : String} {slots : List Slot} {ts : List Token}
    (h : ts.map Token.lexeme = .function name :: .openParen :: (row slots ++ [.closeParen])) (p : Nat) :
    ∃ args, parse (ts ++ [⟨.finish, p⟩]) = .ok (.call name args, ts.length) ∧ Taken slots args ∧
      (args = slots.map Slot.tree ↔ Settled slots) ∧ (¬ Settled slots → args.length < slots.length) := by
  let finish : Token := ⟨.finish, p⟩
  have hs : Spells (ts ++ [finish]).toArray 0 (ts.map Token.lexeme) := spells_of_list [] ts [finish]
  have hlen : ts.length = 2 + (row slots).length + 1 := by
    have := congrArg List.length h
    simp only [List.length_map, List.length_cons, List.length_append, List.length_nil] at this
    omega
  have hf : Shows (ts ++ [finish]).toArray ts.length .finish := shows_of_getElem? (t := finish) (by simp)
  rw [h] at hs
  obtain ⟨hfun, hopen, hs⟩ := hs
  obtain ⟨hs, hclose, -⟩ := spells_append.1 hs
  obtain ⟨args, htaken, hargs⟩ := arguments_of_slots hs hclose
  have hcall : Reads (ts ++ [finish]).toArray (.call name args) 0 ts.length .primary := by
    rw [hlen]
    exact reads_primary hfun (by simp) (yields_primary_reference hfun trivial (yields_call _ hfun hopen hargs))
  have hparse : parse (ts ++ [finish]) = .ok (.call name args, ts.length) :=
    parse_of_yields (ends_append ts p) ((reads_of_primary hcall hf (by simp)).expression hf (by simp))
  refine ⟨args, hparse, htaken, ⟨fun heq => ?_, htaken.eq_trees⟩, fun hnot => ?_⟩
  · exact htaken.length.2 (by rw [heq, List.length_map])
  · exact Nat.lt_of_le_of_ne htaken.length.1 fun heq => hnot (htaken.length.2 heq)

/-- In `F(1,,,2)` one of the two empty places is lost, and what stands in the fourth place moves up. -/
theorem parse_call_slots_shifted :
    let one : Renders .comparison (.number (.whole 1)) [.number (.whole 1)] := renders_of_primary _ (.number _)
    let two : Renders .comparison (.number (.whole 2)) [.number (.whole 2)] := renders_of_primary _ (.number _)
    let slots : List Slot := [.filled _ _ one, .empty, .empty, .filled _ _ two]
    let lexemes : List Lexeme := [.function "F", .openParen, .number (.whole 1), .comma, .comma, .comma,
      .number (.whole 2), .closeParen]
    lexemes = .function "F" :: .openParen :: (row slots ++ [.closeParen]) ∧ ¬ Settled slots ∧
      ∃ args, parse (lexemes.map (⟨·, 0⟩) ++ [⟨.finish, 0⟩]) = .ok (.call "F" args, lexemes.length) ∧
        args.length < slots.length := by
  intro one two slots lexemes
  have hnot : ¬ Settled slots := fun h => by
    have hkept := (settled_cons_cons.1 (settled_cons_cons.1 h).2).1
    exact (hkept rfl).1 rfl
  obtain ⟨args, hparse, -, -, hfewer⟩ := @parse_call_slots "F" slots (lexemes.map (⟨·, 0⟩)) rfl 0
  exact ⟨rfl, hnot, args, hparse, hfewer hnot⟩

end FormulaSql.Parser
