import FormulaSql.Proofs.Bench.Streams
import Mathlib.Data.List.Nodup

/-!
# Fingerprints do not show an order

The items of a set and the entries of a dictionary come in some order. `Rearranged` relates values that differ only in
such orders, at any depth. Their fingerprints are equal if the keys of each dictionary have different fingerprints
(`order_unseen`); with keys of one fingerprint the order of two entries shows, unless their bytes commute. None of this
depends on the digest, nor on what an encoding does with values that are too deep or too long.

Sorting by fingerprints forgets the order if equal fingerprints mean equal entries (`inOrder_perm`). The items of a set
are fed by nothing but their fingerprints, so for sets this always holds; for keys that are too deep it holds as well,
as every entry then looks alike.
-/

namespace FormulaSql.Bench

/-! ## Values that differ in order only -/

/-- One value is another with sets and dictionaries put in another order. -/
inductive Rearranged : Value → Value → Prop
  | same (v : Value) : Rearranged v v
  | list {vs ws : List Value} (length : vs.length = ws.length) (items : ∀ p ∈ vs.zip ws, Rearranged p.1 p.2) :
      Rearranged (.list vs) (.list ws)
  | tuple {vs ws : List Value} (length : vs.length = ws.length) (items : ∀ p ∈ vs.zip ws, Rearranged p.1 p.2) :
      Rearranged (.tuple vs) (.tuple ws)
  | set {name : String} {vs ws us : List Value} (length : vs.length = ws.length)
      (items : ∀ p ∈ vs.zip ws, Rearranged p.1 p.2) (order : ws.Perm us) : Rearranged (.set name vs) (.set name us)
  | dict {es fs gs : List (Value × Value)} (length : es.length = fs.length)
      (keys : ∀ p ∈ es.zip fs, Rearranged p.1.1 p.2.1) (values : ∀ p ∈ es.zip fs, Rearranged p.1.2 p.2.2)
      (order : fs.Perm gs) : Rearranged (.dict es) (.dict gs)
  | record {name : String} {fs gs : List (String × Value)} (length : fs.length = gs.length)
      (names : ∀ p ∈ fs.zip gs, p.1.1 = p.2.1) (values : ∀ p ∈ fs.zip gs, Rearranged p.1.2 p.2.2) :
      Rearranged (.record name fs) (.record name gs)

theorem fst_eq_snd_of_mem_zip_self {α : Type} {l : List α} {p : α × α} (h : p ∈ l.zip l) : p.1 = p.2 := by
  rw [List.zip_eq_zipWith, List.zipWith_self] at h
  obtain ⟨a, -, rfl⟩ := List.mem_map.1 h
  rfl

/-- The items of a set may come in any order. -/
theorem Rearranged.set_perm {name : String} {vs ws : List Value} (h : vs.Perm ws) :
    Rearranged (.set name vs) (.set name ws) := by
  refine .set rfl (fun p hp => ?_) h
  rw [fst_eq_snd_of_mem_zip_self hp]
  exact .same p.2

/-- The entries of a dictionary may come in any order. -/
theorem Rearranged.dict_perm {es fs : List (Value × Value)} (h : es.Perm fs) : Rearranged (.dict es) (.dict fs) := by
  refine .dict rfl (fun p hp => ?_) (fun p hp => ?_) h
  · rw [fst_eq_snd_of_mem_zip_self hp]
    exact .same p.2.1
  · rw [fst_eq_snd_of_mem_zip_self hp]
    exact .same p.2.2

/-- The values that a value holds directly. -/
def Value.children : Value → List Value
  | list items => items
  | tuple items => items
  | set _ items => items
  | dict entries => entries.map Prod.fst ++ entries.map Prod.snd
  | record _ fields => fields.map Prod.snd
  | _ => []

/-- A value at a depth holds a value at a greater one, or is that value. -/
inductive Encloses : Nat → Value → Nat → Value → Prop
  | self {depth : Nat} {v : Value} : Encloses depth v depth v
  | inside {depth inner : Nat} {v w u : Value} : w ∈ v.children → Encloses (depth + 1) w inner u → Encloses depth v inner u

namespace Fingerprint

variable {enc : Encoding} {digest : List UInt8 → String} {depth : Nat}

variable (enc digest) in
/-- The keys of every dictionary have different fingerprints, if they are not too deep. -/
def KeysApart (depth : Nat) (v : Value) : Prop :=
  ∀ inner entries, Encloses depth v inner (.dict entries) → inner < depthLimit →
    (entries.map fun e => enc.printOf digest (inner + 1) e.1).Nodup

/-- The keys of a value's dictionaries are apart if its own are and those of its parts are. -/
theorem keysApart_iff {v : Value} : KeysApart enc digest depth v ↔
    (∀ entries, v = .dict entries → depth < depthLimit →
      (entries.map fun e => enc.printOf digest (depth + 1) e.1).Nodup) ∧
    ∀ w ∈ v.children, KeysApart enc digest (depth + 1) w := by
  constructor
  · intro h
    refine ⟨fun entries hv => h depth entries (hv ▸ .self), fun w hw inner entries hin => ?_⟩
    exact h inner entries (.inside hw hin)
  · rintro ⟨hown, hparts⟩ inner entries hin hinner
    cases hin with
    | self => exact hown entries rfl hinner
    | inside hw hrest => exact hparts _ hw inner entries hrest hinner

theorem keysApart_leaf {v : Value} (h : v.children = []) : KeysApart enc digest depth v := by
  refine keysApart_iff.2 ⟨fun entries hv _ => ?_, by simp [h]⟩
  subst hv
  simp_all [Value.children]

theorem keysApart_of_leaves {v : Value}
    (hown : ∀ entries, v = .dict entries → depth < depthLimit →
      (entries.map fun e => enc.printOf digest (depth + 1) e.1).Nodup)
    (hleaves : ∀ w ∈ v.children, w.children = []) : KeysApart enc digest depth v :=
  keysApart_iff.2 ⟨hown, fun w hw => keysApart_leaf (hleaves w hw)⟩

/-! ## Sorting by fingerprints -/

/-- Entries that can be told apart by their fingerprints come out in one order. -/
theorem inOrder_perm {entries others : List (String × List UInt8)} (h : entries.Perm others)
    (hprints : ∀ a ∈ entries, ∀ b ∈ entries, a.1 = b.1 → a = b) : inOrder entries = inOrder others := by
  have hsorted (l : List (String × List UInt8)) :
      (l.mergeSort fun a b => a.1 ≤ b.1).Pairwise fun a b => a.1 ≤ b.1 := by
    refine (List.pairwise_mergeSort ?_ ?_ l).imp ?_
    · intro a b c hab hbc
      simp only [decide_eq_true_eq] at hab hbc ⊢
      exact String.le_trans hab hbc
    · intro a b
      simp only [Bool.or_eq_true, decide_eq_true_eq]
      exact String.le_total a.1 b.1
    · intro a b hab
      simpa using hab
  have hperm := ((List.mergeSort_perm entries fun a b => a.1 ≤ b.1).trans h).trans
    (List.mergeSort_perm others fun a b => a.1 ≤ b.1).symm
  have heq := hperm.eq_of_pairwise (fun a b ha hb hab hba => ?_) (hsorted entries) (hsorted others)
  · simp only [inOrder, heq]
  · have ha' := (List.mergeSort_perm entries _).mem_iff.1 ha
    have hb' := h.mem_iff.2 ((List.mergeSort_perm others _).mem_iff.1 hb)
    exact hprints a ha' b hb' (String.le_antisymm hab hba)

/-- Two entries of one fingerprint stay as they are. -/
theorem inOrder_tied (print : String) (bytes others : List UInt8) :
    inOrder [(print, bytes), (print, others)] = bytes ++ others := by
  simp [inOrder, List.mergeSort_of_pairwise]

/-! ## One step down -/

theorem map_congr_zip {α β γ : Type} {f : α → γ} {g : β → γ} {vs : List α} {ws : List β}
    (hlength : vs.length = ws.length) (h : ∀ p ∈ vs.zip ws, f p.1 = g p.2) : vs.map f = ws.map g := by
  induction vs generalizing ws with
  | nil =>
    cases ws with
    | nil => rfl
    | cons w ws => simp at hlength
  | cons v vs ih =>
    cases ws with
    | nil => simp at hlength
    | cons w ws =>
      simp only [List.zip_cons_cons, List.forall_mem_cons, List.length_cons, Nat.add_right_cancel_iff] at h hlength
      simp only [List.map_cons, h.1, ih hlength h.2]

/-- Sets that hold the same bytes in any order are fed alike. -/
theorem setPrints_inOrder {vs ws us : List Value}
    (h : vs.map (enc.stream digest depth) = ws.map (enc.stream digest depth)) (horder : ws.Perm us) :
    inOrder (enc.setPrints digest depth vs) = inOrder (enc.setPrints digest depth us) := by
  have hprints : enc.setPrints digest depth vs = enc.setPrints digest depth ws := by
    have hmap (l : List Value) : enc.setPrints digest depth l =
        (l.map (enc.stream digest depth)).map fun bytes => (digest bytes, utf8 (digest bytes)) := by
      rw [enc.setPrints_eq, List.map_map]
      rfl
    rw [hmap, hmap, h]
  rw [hprints, enc.setPrints_eq, enc.setPrints_eq]
  apply inOrder_perm (horder.map _)
  intro a ha b hb hab
  obtain ⟨v, -, rfl⟩ := List.mem_map.1 ha
  obtain ⟨w, -, rfl⟩ := List.mem_map.1 hb
  simp only [Prod.mk.injEq]
  exact ⟨hab, congrArg utf8 hab⟩

/-- Entries whose fingerprints differ are fed alike in any order, and so are entries that are too deep. -/
theorem entryStreams_inOrder {es fs : List (Value × Value)} (horder : es.Perm fs)
    (hkeys : depth ≤ depthLimit → (es.map fun e => enc.printOf digest depth e.1).Nodup) :
    inOrder (enc.entryStreams digest depth es) = inOrder (enc.entryStreams digest depth fs) := by
  rw [enc.entryStreams_eq, enc.entryStreams_eq]
  apply inOrder_perm (horder.map _)
  intro a ha b hb hab
  obtain ⟨e, he, rfl⟩ := List.mem_map.1 ha
  obtain ⟨f, hf, rfl⟩ := List.mem_map.1 hb
  rcases Nat.lt_or_ge depthLimit depth with hdeep | hnear
  · simp only [Encoding.printOf, Encoding.entryBytes, enc.stream_deep digest hdeep]
  · have hef : e = f := List.inj_on_of_nodup_map (hkeys hnear) he hf hab
    rw [hef]

/-! ## Any depth -/

/-- Values that differ in order only are fed alike. -/
theorem stream_rearranged {v w : Value} (h : Rearranged v w) (hkeys : KeysApart enc digest depth v) :
    enc.stream digest depth v = enc.stream digest depth w := by
  -- The induction is on what was rearranged. In every case the parts are fed alike, one level down, and it remains to
  -- put them together.
  induction h generalizing depth with
  | same v => rfl
  | list hlength hitems ih =>
    have hparts := map_congr_zip hlength fun p hp => ih p hp ((keysApart_iff.1 hkeys).2 _ (List.of_mem_zip hp).1)
    rw [Encoding.stream, Encoding.stream, enc.itemStreams_eq, enc.itemStreams_eq, hparts]
  | tuple hlength hitems ih =>
    have hparts := map_congr_zip hlength fun p hp => ih p hp ((keysApart_iff.1 hkeys).2 _ (List.of_mem_zip hp).1)
    rw [Encoding.stream, Encoding.stream, enc.itemStreams_eq, enc.itemStreams_eq, hparts]
  | set hlength hitems horder ih =>
    have hparts := map_congr_zip hlength fun p hp => ih p hp ((keysApart_iff.1 hkeys).2 _ (List.of_mem_zip hp).1)
    rw [Encoding.stream, Encoding.stream, hlength, horder.length_eq, setPrints_inOrder hparts horder]
  | @dict es fs gs hlength _ _ horder ihkeys ihvalues =>
    have hkey (p) (hp : p ∈ es.zip fs) : enc.stream digest (depth + 1) p.1.1 = enc.stream digest (depth + 1) p.2.1 :=
      ihkeys p hp ((keysApart_iff.1 hkeys).2 _ (List.mem_append_left _ (List.mem_map_of_mem (List.of_mem_zip hp).1)))
    have hvalue (p) (hp : p ∈ es.zip fs) : enc.stream digest (depth + 1) p.1.2 = enc.stream digest (depth + 1) p.2.2 :=
      ihvalues p hp ((keysApart_iff.1 hkeys).2 _ (List.mem_append_right _ (List.mem_map_of_mem (List.of_mem_zip hp).1)))
    have hentries : enc.entryStreams digest (depth + 1) es = enc.entryStreams digest (depth + 1) fs := by
      rw [enc.entryStreams_eq, enc.entryStreams_eq]
      exact map_congr_zip hlength fun p hp => by simp only [Encoding.printOf, Encoding.entryBytes, hkey p hp, hvalue p hp]
    have hprints : (es.map fun e => enc.printOf digest (depth + 1) e.1) =
        fs.map fun e => enc.printOf digest (depth + 1) e.1 :=
      map_congr_zip hlength fun p hp => by simp only [Encoding.printOf, hkey p hp]
    have hnodup (hnear : depth + 1 ≤ depthLimit) : (fs.map fun e => enc.printOf digest (depth + 1) e.1).Nodup :=
      hprints ▸ hkeys depth es .self hnear
    rw [Encoding.stream, Encoding.stream, hlength, horder.length_eq, hentries, entryStreams_inOrder horder hnodup]
  | @record _ fs gs hlength hnames _ ih =>
    have hfields : enc.fieldStreams digest (depth + 1) fs = enc.fieldStreams digest (depth + 1) gs := by
      rw [enc.fieldStreams_eq, enc.fieldStreams_eq]
      refine map_congr_zip hlength fun p hp => ?_
      have hvalue := ih p hp ((keysApart_iff.1 hkeys).2 _ (List.mem_map_of_mem (List.of_mem_zip hp).1))
      simp only [hnames p hp, hvalue]
    rw [Encoding.stream, Encoding.stream, hfields]

/-- The bytes of a dictionary with two keys of one fingerprint. -/
theorem stream_tied (hdepth : depth < depthLimit) {e f : Value × Value}
    (h : enc.printOf digest (depth + 1) e.1 = enc.printOf digest (depth + 1) f.1) :
    enc.stream digest depth (.dict [e, f]) =
      counted "D" 2 (enc.entryBytes digest (depth + 1) e ++ enc.entryBytes digest (depth + 1) f) := by
  rw [Encoding.stream, enc.capped_of_le (Nat.le_of_lt hdepth), enc.entryStreams_eq, List.map_cons, List.map_cons,
    List.map_nil, h, inOrder_tied]
  rfl

/-- **A fingerprint does not show in which order sets and dictionaries were filled**, if the keys of each dictionary have
different fingerprints. This holds at every depth, for any digest and for any encoding of what is too deep or too long.
Two keys of one fingerprint show their order, unless the bytes of their entries commute. -/
theorem order_unseen (enc : Encoding) (digest : List UInt8 → String) (depth : Nat) :
    (∀ v w, Rearranged v w → KeysApart enc digest depth v → enc.printOf digest depth v = enc.printOf digest depth w) ∧
    (∀ v w, Rearranged v w → KeysApart .plain Digest.sha256 depth v → fingerprint v depth = fingerprint w depth) ∧
    ∀ e f : Value × Value, depth < depthLimit → enc.printOf digest (depth + 1) e.1 = enc.printOf digest (depth + 1) f.1 →
      (enc.stream digest depth (.dict [e, f]) = enc.stream digest depth (.dict [f, e]) ↔
        enc.entryBytes digest (depth + 1) e ++ enc.entryBytes digest (depth + 1) f =
          enc.entryBytes digest (depth + 1) f ++ enc.entryBytes digest (depth + 1) e) := by
  refine ⟨fun v w h hkeys => ?_, fun v w h hkeys => ?_, fun e f hdepth htied => ?_⟩
  · rw [Encoding.printOf, Encoding.printOf, stream_rearranged h hkeys]
  · rw [fingerprint, fingerprint, stream, stream, stream_rearranged h hkeys]
  · rw [stream_tied hdepth htied, stream_tied hdepth htied.symm, counted, counted, List.append_right_inj]

/-- A digest that loses nothing: every byte becomes a character. -/
def spelled (bytes : List UInt8) : String :=
  String.ofList (bytes.map fun b => Char.ofNat b.toNat)

theorem order_unseen_nested :
    Encoding.plain.printOf spelled 0 (.dict [(.null, .set "set" [.whole 1, .whole 2]),
        (.bool true, .dict [(.whole 1, .null), (.text "a", .list [])])]) =
      Encoding.plain.printOf spelled 0 (.dict [(.bool true, .dict [(.text "a", .list []), (.whole 1, .null)]),
        (.null, .set "set" [.whole 2, .whole 1])]) ∧
    stream (fun _ => "") 0 (.dict [(.whole 1, .whole 2), (.whole 2, .whole 1)]) ≠
      stream (fun _ => "") 0 (.dict [(.whole 2, .whole 1), (.whole 1, .whole 2)]) := by
  constructor
  · have hset : Rearranged (.set "set" [.whole 1, .whole 2]) (.set "set" [.whole 2, .whole 1]) :=
      .set_perm (.swap _ _ _)
    have hdict : Rearranged (.dict [(.whole 1, .null), (.text "a", .list [])])
        (.dict [(.text "a", .list []), (.whole 1, .null)]) := .dict_perm (.swap _ _ _)
    apply (order_unseen .plain spelled 0).1
    · refine @Rearranged.dict _ [(.null, .set "set" [.whole 2, .whole 1]),
        (.bool true, .dict [(.text "a", .list []), (.whole 1, .null)])] _ rfl ?_ ?_ (.swap _ _ _)
      · simp [Rearranged.same]
      · simp [hset, hdict]
    · have hitems : KeysApart .plain spelled 1 (.set "set" [.whole 1, .whole 2]) :=
        keysApart_of_leaves (by simp) (by simp [Value.children])
      have hinner : KeysApart .plain spelled 1 (.dict [(.whole 1, .null), (.text "a", .list [])]) := by
        refine keysApart_of_leaves ?_ (by simp [Value.children])
        rintro _ ⟨⟩ -
        decide
      refine keysApart_iff.2 ⟨?_, ?_⟩
      · rintro _ ⟨⟩ -
        decide
      · simp only [Value.children, List.map_cons, List.map_nil, List.cons_append, List.nil_append,
          List.forall_mem_cons]
        exact ⟨keysApart_leaf rfl, keysApart_leaf rfl, hitems, hinner, by simp⟩
  · intro h
    have hcommute := ((order_unseen .plain (fun _ => "") 0).2.2 (.whole 1, .whole 2) (.whole 2, .whole 1) (by decide)
      rfl).1 h
    revert hcommute
    decide

end Fingerprint

end FormulaSql.Bench
