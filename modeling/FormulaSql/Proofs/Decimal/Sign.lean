import FormulaSql.Decimal.Reader
import Mathlib.Algebra.Group.Nat.Defs

/-!
# Doubles without a sign

A decimal of a formula is written without a sign, so the double that it reads as has its sign bit off, and so has the
hundredth of it that a percent sign makes. The argument follows the exact model of doubles: rounding keeps the sign it is
given, a quotient of two unsigned values is unsigned, and packing an unsigned value leaves the sign bit off.
-/

namespace FormulaSql.Decimal

open Float.Model Float.Model.UnpackedFloat

/-! ## Unpacked values -/

/-- The sign of an unpacked value is not the minus sign. -/
def IsPlus : UnpackedFloat → Prop
  | .infinity s | .zero s | .finite s _ _ _ => s = .positive
  | .notANumber => True

theorem isPlus_dite {c : Prop} [Decidable c] {f : c → UnpackedFloat} {g : ¬ c → UnpackedFloat} (hf : ∀ h, IsPlus (f h))
    (hg : ∀ h, IsPlus (g h)) : IsPlus (dite c f g) := by
  by_cases h : c
  · rw [dif_pos h]; exact hf h
  · rw [dif_neg h]; exact hg h

theorem isPlus_ite {c : Prop} [Decidable c] {x y : UnpackedFloat} (hx : IsPlus x) (hy : IsPlus y) :
    IsPlus (if c then x else y) :=
  iteInduction (fun _ => hx) fun _ => hy

theorem isPlus_roundWithAccuracy (spec : Format) (m : Nat) (e : Int) (acc : Accuracy) :
    IsPlus (roundWithAccuracy spec .positive m e acc) :=
  isPlus_dite (fun _ => rfl) fun _ => rfl

theorem isPlus_normalize (spec : Format) (n : Nat) (e : Int) : IsPlus (normalize spec n e .positive) := by
  unfold UnpackedFloat.normalize
  split
  · rename_i h
    rw [Int.compare_eq_lt] at h
    omega
  · rfl
  · exact isPlus_roundWithAccuracy ..

theorem isPlus_div (spec : Format) {a b : UnpackedFloat} (ha : IsPlus a) (hb : IsPlus b) : IsPlus (div spec a b) := by
  cases a with
  | notANumber => trivial
  | infinity =>
    cases ha
    cases b with
    | notANumber | infinity => trivial
    | zero | finite => cases hb; rfl
  | zero =>
    cases ha
    cases b with
    | notANumber | zero => trivial
    | infinity | finite => cases hb; rfl
  | finite =>
    cases ha
    cases b with
    | notANumber => trivial
    | infinity | zero => cases hb; rfl
    | finite => cases hb; exact isPlus_roundWithAccuracy ..

theorem isPlus_mul (spec : Format) {a b : UnpackedFloat} (ha : IsPlus a) (hb : IsPlus b) : IsPlus (mul spec a b) := by
  cases a with
  | notANumber => trivial
  | infinity =>
    cases ha
    cases b with
    | notANumber | zero => trivial
    | infinity | finite => cases hb; rfl
  | zero =>
    cases ha
    cases b with
    | notANumber | infinity => trivial
    | zero | finite => cases hb; rfl
  | finite =>
    cases ha
    cases b with
    | notANumber => trivial
    | infinity | zero => cases hb; rfl
    | finite => cases hb; exact isPlus_roundWithAccuracy ..

theorem isPlus_ofScientific (spec : Format) (m : Nat) (e : Int) : IsPlus (UnpackedFloat.ofScientific spec m e) := by
  refine isPlus_dite (fun _ => rfl) fun _ => isPlus_ite rfl (isPlus_ite rfl (isPlus_ite ?_ ?_))
  · exact isPlus_mul spec rfl rfl
  · exact isPlus_div spec rfl rfl

/-! ## The sign bit -/

theorem toNat_packComponents_lt (e : BitVec 11) (m : BitVec 52) :
    (packComponents Format.binary64 .positive e m).toNat < 2 ^ 63 := by
  have h : ((0#1 ++ e) ++ m).msb = false := by
    rw [BitVec.msb_append, if_neg (by decide), BitVec.msb_append, if_neg (by decide)]
    rfl
  have hlt : 2 * ((0#1 ++ e) ++ m).toNat < 2 ^ 64 := BitVec.msb_eq_false_iff_two_mul_lt.1 h
  show ((0#1 ++ e) ++ m).toNat < 2 ^ 63
  omega

/-- Packing an unsigned value leaves the sign bit off. -/
theorem toNat_pack_lt {f : UnpackedFloat} (h : IsPlus f) : (UnpackedFloat.pack Format.binary64 f).toNat < 2 ^ 63 := by
  unfold UnpackedFloat.pack
  cases f with
  | notANumber => exact toNat_packComponents_lt _ _
  | infinity | zero => cases h; exact toNat_packComponents_lt _ _
  | finite =>
    cases h
    dsimp only
    split
    · exact toNat_packComponents_lt _ _
    · split <;> exact toNat_packComponents_lt _ _

theorem unpackSign_eq_zero {b : BitVec 64} (h : b.toNat < 2 ^ 63) : @unpackSign Format.binary64 b = 0#1 := by
  apply BitVec.eq_of_toNat_eq
  show b.toNat >>> 63 % 2 ^ 1 = 0
  rw [Nat.shiftRight_eq_div_pow, Nat.div_eq_of_lt h]

/-- Unpacking bits without the sign bit gives an unsigned value. -/
theorem isPlus_unpack {b : BitVec 64} (h : b.toNat < 2 ^ 63) : IsPlus (UnpackedFloat.unpack Format.binary64 b) := by
  have hsign : Sign.ofBitVec (@unpackSign Format.binary64 b) = .positive := by
    rw [unpackSign_eq_zero h]; rfl
  refine isPlus_ite (isPlus_ite hsign trivial) (isPlus_ite (isPlus_dite ?_ ?_) hsign)
  · exact fun _ => hsign
  · exact fun _ => hsign

/-- The sign bit is off. -/
def Unsigned (x : Float) : Prop :=
  x.toBits.toNat < 2 ^ 63

theorem unsigned_pack {f : UnpackedFloat} (h : IsPlus f) : Unsigned (.ofModel (.pack f)) :=
  toNat_pack_lt h

theorem Unsigned.unpack {x : Float} (h : Unsigned x) : IsPlus x.toModel.unpack :=
  isPlus_unpack h

theorem Unsigned.div {x y : Float} (hx : Unsigned x) (hy : Unsigned y) : Unsigned (x / y) :=
  unsigned_pack (isPlus_div _ hx.unpack hy.unpack)

theorem Unsigned.mul {x y : Float} (hx : Unsigned x) (hy : Unsigned y) : Unsigned (x * y) :=
  unsigned_pack (isPlus_mul _ hx.unpack hy.unpack)

theorem unsigned_toFloat (n : UInt64) : Unsigned n.toFloat :=
  unsigned_pack (isPlus_normalize _ n.toNat 0)

theorem unsigned_powersOfTen : ∀ x ∈ Float.exactlyRepresentablePowersOfTen, Unsigned x := by
  unfold Unsigned
  decide +kernel

/-- A decimal without a sign is an unsigned double. -/
theorem unsigned_ofScientific (m : Nat) (s : Bool) (e : Nat) : Unsigned (Float.ofScientific m s e) := by
  unfold Float.ofScientific
  split
  · split
    · exact (unsigned_toFloat _).div (unsigned_powersOfTen _ (Array.getElem_mem _))
    · exact (unsigned_toFloat _).mul (unsigned_powersOfTen _ (Array.getElem_mem _))
  · exact unsigned_pack (isPlus_ofScientific _ _ _)

theorem unsigned_ofScaled (n : Nat) (e : Int) : Unsigned (ofScaled n e) := by
  cases e <;> exact unsigned_ofScientific ..

theorem unsigned_nearest (n : Nat) (e : Int) : Unsigned (nearest n e) := by
  unfold nearest
  dsimp only
  split
  · exact unsigned_ofScientific ..
  · split
    · exact (unsigned_ofScientific ..).div (unsigned_ofScientific ..)
    · exact unsigned_ofScaled n e

/-- **The digits of a formula read as an unsigned double.** -/
theorem unsigned_ofParts (whole fraction : List Char) : Unsigned (ofParts whole fraction) :=
  unsigned_nearest _ _

/-- So does a hundredth of it. -/
theorem unsigned_percent (whole fraction : List Char) : Unsigned (ofParts whole fraction / 100.0) :=
  (unsigned_ofParts whole fraction).div (unsigned_ofScientific 1000 true 1)

end FormulaSql.Decimal
