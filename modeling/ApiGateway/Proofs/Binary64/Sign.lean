import ApiGateway.Decimal.Text
import Mathlib.Algebra.Group.Nat.Defs

/-! # Floats without a sign

A float whose sign bit is clear has no sign in its text. The products, quotients and roundings of
such floats have none either, so that no numeral without a minus sign reads as a float with one:
`isUnsigned_nearest`.
-/

set_option autoImplicit false

namespace ApiGateway.Binary64

open Float.Model (UnpackedFloat Format)
open Float.Model.UnpackedFloat (Sign)

/-- The sign bit of a float is clear. -/
def IsUnsigned (x : Float) : Prop := x.toBits.toNat < 2 ^ 63

/-- The value of a float without a sign bit is not negative. -/
theorem IsUnsigned.negative_eq_false {x : Float} (h : IsUnsigned x) {d : Dyadic}
    (hd : decode x = .finite d) : d.negative = false := by
  have hsign : (x.toBits >>> 63 == 1) = false := by
    have hzero : (x.toBits >>> 63).toNat = 0 := by
      rw [UInt64.toNat_shiftRight, Nat.shiftRight_eq_div_pow]
      exact Nat.div_eq_of_lt h
    have hne : x.toBits >>> 63 ≠ 1 := fun heq => by
      rw [heq] at hzero
      cases hzero
    exact beq_eq_false_iff_ne.2 hne
  unfold decode decodeBits at hd
  dsimp only at hd
  rw [hsign] at hd
  split at hd
  · split at hd <;> cases hd
  · split at hd <;> cases hd <;> rfl

/-! ## Floats taken apart -/

/-- The sign is positive, if there is one. -/
def Unsigned : UnpackedFloat → Prop
  | .infinity s | .zero s | .finite s _ _ _ => s = .positive
  | .notANumber => True

/-- A choice of two has no sign if both have none. -/
theorem unsigned_dite {c : Prop} [Decidable c] {f : c → UnpackedFloat} {g : ¬c → UnpackedFloat}
    (hf : ∀ h, Unsigned (f h)) (hg : ∀ h, Unsigned (g h)) : Unsigned (dite c f g) := by
  by_cases h : c
  · rw [dif_pos h]
    exact hf h
  · rw [dif_neg h]
    exact hg h

theorem toNat_packComponents_lt (e : BitVec 11) (m : BitVec 52) :
    (UnpackedFloat.packComponents Format.binary64 .positive e m).toNat < 2 ^ 63 := by
  have hmsb : (UnpackedFloat.packComponents Format.binary64 .positive e m).msb = false := by
    unfold UnpackedFloat.packComponents
    rw [BitVec.msb_append, if_neg (by decide), BitVec.msb_append, if_neg (by decide)]
    rfl
  have hlt : 2 * (UnpackedFloat.packComponents Format.binary64 .positive e m).toNat < 2 ^ 64 :=
    BitVec.msb_eq_false_iff_two_mul_lt.1 hmsb
  omega

/-- A float that is put together without a sign has none. -/
theorem isUnsigned_pack {f : UnpackedFloat} (h : Unsigned f) :
    IsUnsigned (.ofModel (.pack f)) := by
  show (UnpackedFloat.pack Format.binary64 f).toNat < 2 ^ 63
  unfold UnpackedFloat.pack
  cases f with
  | notANumber => exact toNat_packComponents_lt _ _
  | infinity s =>
      cases (h : s = .positive)
      exact toNat_packComponents_lt _ _
  | zero s =>
      cases (h : s = .positive)
      exact toNat_packComponents_lt _ _
  | finite s m e hm =>
      cases (h : s = .positive)
      dsimp only
      split
      · exact toNat_packComponents_lt _ _
      · split <;> exact toNat_packComponents_lt _ _

/-- Bits without a sign have none when they are taken apart. -/
theorem unsigned_unpack {bits : BitVec 64} (h : bits.toNat < 2 ^ 63) :
    Unsigned (UnpackedFloat.unpack Format.binary64 bits) := by
  have hbit : @UnpackedFloat.unpackSign Format.binary64 bits = 0#1 := by
    refine BitVec.eq_of_toNat_eq ?_
    show bits.toNat >>> 63 % 2 ^ 1 = 0
    rw [Nat.shiftRight_eq_div_pow, Nat.div_eq_of_lt h]
  have hsign : Sign.ofBitVec (@UnpackedFloat.unpackSign Format.binary64 bits) =
      .positive := if_pos hbit
  unfold UnpackedFloat.unpack
  dsimp only
  rw [hsign]
  refine iteInduction (motive := Unsigned) (fun _ => ?_) fun _ => ?_
  · exact iteInduction (motive := Unsigned) (fun _ => rfl) fun _ => trivial
  · refine iteInduction (motive := Unsigned) (fun _ => ?_) fun _ => rfl
    exact unsigned_dite (fun _ => rfl) fun _ => rfl

theorem IsUnsigned.unpack {x : Float} (h : IsUnsigned x) : Unsigned x.toModel.unpack :=
  unsigned_unpack h

theorem isUnsigned_ofBits {bits : UInt64} (h : bits.toNat < 2 ^ 63) :
    IsUnsigned (Float.ofBits bits) :=
  isUnsigned_pack (unsigned_unpack h)

/-! ## Arithmetic -/

variable {spec : Format}

theorem unsigned_roundWithAccuracy (m : Nat) (e : Int)
    (accuracy : UnpackedFloat.Accuracy) :
    Unsigned (UnpackedFloat.roundWithAccuracy spec .positive m e accuracy) := by
  unfold UnpackedFloat.roundWithAccuracy
  dsimp only
  exact unsigned_dite (fun _ => rfl) fun _ => rfl

theorem Unsigned.mul {f g : UnpackedFloat} (hf : Unsigned f) (hg : Unsigned g) :
    Unsigned (UnpackedFloat.mul spec f g) := by
  cases f <;> cases g <;> cases hf <;> cases hg
  all_goals first
    | exact rfl
    | exact trivial
    | exact unsigned_roundWithAccuracy _ _ _

theorem Unsigned.div {f g : UnpackedFloat} (hf : Unsigned f) (hg : Unsigned g) :
    Unsigned (UnpackedFloat.div spec f g) := by
  cases f <;> cases g <;> cases hf <;> cases hg
  all_goals first
    | exact rfl
    | exact trivial
    | exact unsigned_roundWithAccuracy _ _ _

theorem unsigned_ofNat (n : Nat) : Unsigned (UnpackedFloat.ofNat spec n) := by
  unfold UnpackedFloat.ofNat UnpackedFloat.ofInt UnpackedFloat.normalize
  split
  · rename_i hlt
    rw [Int.compare_eq_lt] at hlt
    omega
  · rfl
  · exact unsigned_roundWithAccuracy _ _ _

theorem unsigned_ofScientific (m : Nat) (e : Int) :
    Unsigned (UnpackedFloat.ofScientific spec m e) := by
  unfold UnpackedFloat.ofScientific
  refine unsigned_dite (fun _ => rfl) fun _ => ?_
  refine iteInduction (motive := Unsigned) (fun _ => rfl) fun _ => ?_
  refine iteInduction (motive := Unsigned) (fun _ => rfl) fun _ => ?_
  refine iteInduction (motive := Unsigned) (fun _ => ?_) fun _ => ?_
  · exact Unsigned.mul rfl rfl
  · exact Unsigned.div rfl rfl

/-! ## Numerals -/

theorem IsUnsigned.mul {x y : Float} (hx : IsUnsigned x) (hy : IsUnsigned y) :
    IsUnsigned (x * y) :=
  isUnsigned_pack (hx.unpack.mul hy.unpack)

theorem IsUnsigned.div {x y : Float} (hx : IsUnsigned x) (hy : IsUnsigned y) :
    IsUnsigned (x / y) :=
  isUnsigned_pack (hx.unpack.div hy.unpack)

theorem isUnsigned_powerOfTen {e : Nat} (h : e < Float.exactlyRepresentablePowersOfTen.size) :
    IsUnsigned Float.exactlyRepresentablePowersOfTen[e] := by
  have hall : ∀ x ∈ Float.exactlyRepresentablePowersOfTen, IsUnsigned x := by
    simp only [Float.exactlyRepresentablePowersOfTen, List.mem_toArray, List.forall_mem_cons]
    repeat' apply And.intro
    all_goals first | exact isUnsigned_ofBits (by decide) | exact fun _ hx => nomatch hx
  exact hall _ (Array.getElem_mem h)

/-- A decimal without a sign stands for a float without one. -/
theorem isUnsigned_ofScientific (m : Nat) (s : Bool) (e : Nat) :
    IsUnsigned (Float.ofScientific m s e) := by
  unfold Float.ofScientific
  split
  · dsimp only
    split
    · exact IsUnsigned.div (isUnsigned_pack (unsigned_ofNat _)) (isUnsigned_powerOfTen _)
    · exact IsUnsigned.mul (isUnsigned_pack (unsigned_ofNat _)) (isUnsigned_powerOfTen _)
  · exact isUnsigned_pack (unsigned_ofScientific _ _)

theorem isUnsigned_nearest (m : Nat) (e : Int) : IsUnsigned (Decimal.nearest false m e) := by
  unfold Decimal.nearest
  dsimp only
  rw [if_neg Bool.false_ne_true]
  split
  · exact isUnsigned_ofScientific 0 true 1
  · split
    · exact (isUnsigned_ofScientific 10 true 1).div (isUnsigned_ofScientific 0 true 1)
    · split <;> exact isUnsigned_ofScientific _ _ _

end ApiGateway.Binary64
