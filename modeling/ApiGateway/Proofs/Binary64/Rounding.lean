import ApiGateway.Proofs.Binary64.Values
import Mathlib.Data.Int.Notation
import Mathlib.Data.Nat.Notation
import Mathlib.Tactic.Ring

/-! # Rounding integers to floats

An integer is rounded to the nearest one of 53 significant bits, and a tie goes to the even multiple
(`nearest`). Rounding keeps the order of integers (`nearest_mono`), leaves those of 53 bits
(`nearestNat_of_lt`), and does not see factors of two (`nearestNat_mul_two_pow`).

The float nearest to an integer of more than 53 bits has a mantissa of exactly 53 bits and an
exponent that makes up for the bits that were rounded away. So an integer beyond the signed ones of
64 bits is no less than `2 ^ 63` as a float: `le_value_of_ofNat`.
-/

set_option autoImplicit false

namespace ApiGateway.Binary64

/-! ## Rounding to 53 bits -/

/-- How often a unit goes into a number, to the nearest; of two that are as near, the even one. -/
def roundHalfEven (n unit : ℕ) : ℕ :=
  n / unit +
    if 2 * (n % unit) < unit then 0 else if unit < 2 * (n % unit) then 1 else n / unit % 2

/-- The place value of the last of 53 significant bits. -/
def lastUnit (n : ℕ) : ℕ := 2 ^ (n.log2 - 52)

/-- The nearest number of 53 significant bits. -/
def nearestNat (n : ℕ) : ℕ := roundHalfEven n (lastUnit n) * lastUnit n

/-- The nearest integer of 53 significant bits. -/
def nearest (n : ℤ) : ℤ := if 0 ≤ n then nearestNat n.toNat else -nearestNat (-n).toNat

/-! ### One unit -/

theorem lastUnit_pos (n : ℕ) : 0 < lastUnit n := Nat.two_pow_pos _

theorem roundHalfEven_bounds (n unit : ℕ) :
    n / unit ≤ roundHalfEven n unit ∧ roundHalfEven n unit ≤ n / unit + 1 := by
  unfold roundHalfEven
  split
  · omega
  · split <;> omega

theorem roundHalfEven_mono {m n unit : ℕ} (h : m ≤ n) :
    roundHalfEven m unit ≤ roundHalfEven n unit := by
  rcases Nat.lt_or_eq_of_le (Nat.div_le_div_right (c := unit) h) with hlt | heq
  · exact Nat.le_trans (roundHalfEven_bounds m unit).2
      (Nat.le_trans hlt (roundHalfEven_bounds n unit).1)
  · -- with equal quotients the rests are in the order of the numbers
    have hm := Nat.div_add_mod m unit
    have hn := Nat.div_add_mod n unit
    rw [heq] at hm
    unfold roundHalfEven
    rw [heq]
    split
    · omega
    · split
      · rw [if_neg (by omega), if_pos (by omega)]
      · rw [if_neg (by omega)]
        split <;> omega

theorem roundHalfEven_of_dvd {n unit : ℕ} (hunit : 0 < unit) (h : unit ∣ n) :
    roundHalfEven n unit * unit = n := by
  unfold roundHalfEven
  rw [Nat.mod_eq_zero_of_dvd h, if_pos (by omega), Nat.add_zero, Nat.div_mul_cancel h]

theorem roundHalfEven_mul_right {n unit k : ℕ} (hk : 0 < k) :
    roundHalfEven (n * k) (unit * k) = roundHalfEven n unit := by
  have hlt : ∀ a b : ℕ, a * k < b * k ↔ a < b := fun a b => Nat.mul_lt_mul_right hk
  unfold roundHalfEven
  rw [Nat.mul_div_mul_right _ _ hk, Nat.mul_mod_mul_right, ← Nat.mul_assoc]
  simp only [hlt]

/-! ### The unit of a number -/

theorem log2_mul_two_pow {n : ℕ} (hn : n ≠ 0) (k : ℕ) : (n * 2 ^ k).log2 = n.log2 + k := by
  induction k with
  | zero => rw [Nat.pow_zero, Nat.mul_one, Nat.add_zero]
  | succ k ih =>
      have hne : n * 2 ^ k ≠ 0 := Nat.mul_ne_zero hn (Nat.pos_iff_ne_zero.1 (Nat.two_pow_pos k))
      rw [Nat.pow_succ, ← Nat.mul_assoc, Nat.mul_comm _ 2, Nat.log2_two_mul hne, ih, Nat.add_assoc]

theorem nearestNat_of_lt {n : ℕ} (h : n < 2 ^ 53) : nearestNat n = n := by
  have hunit : lastUnit n = 1 := by
    unfold lastUnit
    by_cases hn : n = 0
    · rw [hn]
      rfl
    · have hlog := (Nat.log2_lt hn).2 h
      rw [Nat.sub_eq_zero_of_le (by omega), Nat.pow_zero]
  unfold nearestNat
  rw [hunit]
  exact roundHalfEven_of_dvd Nat.one_pos (Nat.one_dvd n)

/-- Rounding does not see factors of two. -/
theorem nearestNat_mul_two_pow (n k : ℕ) : nearestNat (n * 2 ^ k) = nearestNat n * 2 ^ k := by
  by_cases hn : n = 0
  · rw [hn, Nat.zero_mul, nearestNat_of_lt (by decide), Nat.zero_mul]
  by_cases hlog : 52 ≤ n.log2
  · have hunit : lastUnit (n * 2 ^ k) = lastUnit n * 2 ^ k := by
      unfold lastUnit
      rw [log2_mul_two_pow hn, ← Nat.pow_add]
      congr 1
      omega
    unfold nearestNat
    rw [hunit, roundHalfEven_mul_right (Nat.two_pow_pos k), Nat.mul_assoc]
  · -- a number of fewer bits is not rounded at all
    have hlt : n < 2 ^ 53 := (Nat.log2_lt hn).1 (by omega)
    have hdvd : lastUnit (n * 2 ^ k) ∣ n * 2 ^ k := by
      unfold lastUnit
      rw [log2_mul_two_pow hn]
      exact Nat.dvd_mul_left_of_dvd (Nat.pow_dvd_pow 2 (by omega)) n
    rw [nearestNat_of_lt hlt]
    exact roundHalfEven_of_dvd (lastUnit_pos _) hdvd

/-- Rounding stays between the powers of two around a number. -/
theorem nearestNat_bounds {n : ℕ} (hn : n ≠ 0) :
    2 ^ n.log2 ≤ nearestNat n ∧ nearestNat n ≤ 2 ^ (n.log2 + 1) := by
  by_cases hlog : 52 ≤ n.log2
  · have hself := Nat.log2_self_le hn
    have hlt : n < 2 ^ (n.log2 + 1) := Nat.lt_log2_self
    have hleast : 2 ^ n.log2 = 2 ^ 52 * lastUnit n := by
      unfold lastUnit
      rw [← Nat.pow_add, Nat.add_sub_cancel' hlog]
    have hgreatest : 2 ^ (n.log2 + 1) = 2 ^ 53 * lastUnit n := by
      rw [Nat.pow_succ, hleast, Nat.mul_right_comm, ← Nat.pow_succ]
    have hbounds := roundHalfEven_bounds n (lastUnit n)
    unfold nearestNat
    constructor
    · rw [hleast] at hself ⊢
      have hquotient := (Nat.le_div_iff_mul_le (lastUnit_pos n)).2 hself
      exact Nat.mul_le_mul_right _ (Nat.le_trans hquotient hbounds.1)
    · rw [hgreatest] at hlt ⊢
      have hquotient := (Nat.div_lt_iff_lt_mul (lastUnit_pos n)).2 hlt
      exact Nat.mul_le_mul_right _ (Nat.le_trans hbounds.2 hquotient)
  · rw [nearestNat_of_lt ((Nat.log2_lt hn).1 (by omega))]
    exact ⟨Nat.log2_self_le hn, Nat.le_of_lt Nat.lt_log2_self⟩

/-! ### Order -/

theorem nearestNat_mono {m n : ℕ} (h : m ≤ n) : nearestNat m ≤ nearestNat n := by
  by_cases hm : m = 0
  · rw [hm, nearestNat_of_lt (by decide)]
    exact Nat.zero_le _
  have hn : n ≠ 0 := by omega
  have hlog : m.log2 ≤ n.log2 := (Nat.le_log2 hn).2 (Nat.le_trans (Nat.log2_self_le hm) h)
  rcases Nat.lt_or_eq_of_le hlog with hlt | heq
  · -- a power of two stands between them
    exact Nat.le_trans (nearestNat_bounds hm).2
      (Nat.le_trans (Nat.pow_le_pow_right Nat.two_pos hlt) (nearestNat_bounds hn).1)
  · unfold nearestNat lastUnit
    rw [heq]
    exact Nat.mul_le_mul_right _ (roundHalfEven_mono h)

/-- Rounding keeps the order of integers. -/
theorem nearest_mono {m n : ℤ} (h : m ≤ n) : nearest m ≤ nearest n := by
  unfold nearest
  split
  · rename_i hm
    rw [if_pos (Int.le_trans hm h)]
    exact Int.ofNat_le.2 (nearestNat_mono (by omega))
  · split
    · omega
    · exact Int.neg_le_neg (Int.ofNat_le.2 (nearestNat_mono (by omega)))

open Float.Model
open Float.Model.UnpackedFloat

/-! ## Shifting and rounding a mantissa -/

/-- A mantissa that is shifted keeps the bit behind its last one, and whether any is set further
behind. -/
theorem shiftRight_exact (m k : Nat) :
    ExtendedMantissa.ofMantissaAndAccuracy m .exact >>> (k + 1) =
      ⟨m / 2 ^ (k + 1), m / 2 ^ k % 2 != 0, m % 2 ^ k != 0⟩ := by
  induction k with
  | zero =>
      show ExtendedMantissa.mk (m / 2) (m % 2 != 0) false = _
      rw [Nat.zero_add, Nat.pow_one, Nat.pow_zero, Nat.div_one, Nat.mod_one]
      rfl
  | succ k ih =>
      show (ExtendedMantissa.ofMantissaAndAccuracy m .exact >>> (k + 1)).shiftRightOne = _
      have hsticky : (m / 2 ^ k % 2 != 0 || m % 2 ^ k != 0) = (m % 2 ^ (k + 1) != 0) := by
        rw [Nat.mod_pow_succ]
        have hpos := Nat.two_pow_pos k
        rcases Nat.mod_two_eq_zero_or_one (m / 2 ^ k) with hbit | hbit
        · simp [hbit]
        · rw [hbit, Nat.mul_one]
          simp
      rw [ih, ExtendedMantissa.shiftRightOne, hsticky, Nat.div_div_eq_div_mul, ← Nat.pow_succ]

theorem roundedMantissa_shiftRight (m k : Nat) :
    (ExtendedMantissa.ofMantissaAndAccuracy m .exact >>> k).roundedMantissa =
      roundHalfEven m (2 ^ k) := by
  cases k with
  | zero =>
      show m = _
      have hround := roundHalfEven_of_dvd Nat.one_pos (Nat.one_dvd m)
      rwa [Nat.mul_one, eq_comm] at hround
  | succ k =>
      have hpos := Nat.two_pow_pos k
      have hrest : m % 2 ^ (k + 1) = m % 2 ^ k + 2 ^ k * (m / 2 ^ k % 2) := Nat.mod_pow_succ
      have hlt : m % 2 ^ k < 2 ^ k := Nat.mod_lt _ hpos
      rw [shiftRight_exact, roundHalfEven, hrest]
      have hunit : 2 ^ (k + 1) = 2 * 2 ^ k := by rw [Nat.pow_succ, Nat.mul_comm]
      rw [hunit]
      -- the half is the bit behind the last one
      rcases Nat.mod_two_eq_zero_or_one (m / 2 ^ k) with hbit | hbit
      · rw [hbit, if_pos (by omega)]
        by_cases hzero : m % 2 ^ k = 0
        · rw [hzero]
          rfl
        · rw [bne_iff_ne.2 hzero]
          rfl
      · rw [hbit, if_neg (by omega)]
        by_cases hzero : m % 2 ^ k = 0
        · rw [hzero, if_neg (by omega)]
          rfl
        · rw [bne_iff_ne.2 hzero, if_pos (by omega)]
          rfl

variable {m : Nat} {e : Int}

/-- A mantissa of more than 52 bits is shifted to 53 of them. -/
theorem shiftToTargetExponent_eq (hm : 52 ≤ m.log2) (he : -1074 ≤ m.log2 - 52 + e) :
    shiftToTargetExponent Format.binary64 m e .exact =
      (ExtendedMantissa.ofMantissaAndAccuracy m .exact >>> (m.log2 - 52),
        (m.log2 - 52 + e : Int)) := by
  have htarget : Format.binary64.targetExponent (totalExponent m e) = m.log2 - 52 + e := by
    show max ((m.log2 + 1 + e : Int) - (1 + 52 : Nat)) (3 - 2 ^ (11 - 1) - (1 + 52 : Nat)) = _
    omega
  have hamount : (m.log2 - 52 + e - e).toNat = m.log2 - 52 := by omega
  unfold shiftToTargetExponent shiftToExponent
  dsimp only
  rw [htarget, hamount]
  congr 1
  omega

theorem roundHalfEven_lastUnit_bounds (hm : 52 ≤ m.log2) :
    2 ^ 52 ≤ roundHalfEven m (lastUnit m) ∧ roundHalfEven m (lastUnit m) ≤ 2 ^ 53 := by
  have hne : m ≠ 0 := by
    rintro rfl
    exact absurd hm (by decide)
  have hpos := lastUnit_pos m
  have hbounds := roundHalfEven_bounds m (lastUnit m)
  have hleast : 2 ^ 52 ≤ m / lastUnit m := by
    unfold lastUnit
    rw [Nat.le_div_iff_mul_le (Nat.two_pow_pos _), ← Nat.pow_add, Nat.add_sub_cancel' hm]
    exact Nat.log2_self_le hne
  have hgreatest : m / lastUnit m < 2 ^ 53 := by
    have hbits : 53 + (m.log2 - 52) = m.log2 + 1 := by omega
    unfold lastUnit
    rw [Nat.div_lt_iff_lt_mul (Nat.two_pow_pos _), ← Nat.pow_add, hbits]
    exact Nat.lt_log2_self
  omega

/-- A mantissa of at most 53 bits, or the next power of two, is rounded without an error. -/
theorem exists_carried {r : Nat} (hleast : 2 ^ 52 ≤ r) (hgreatest : r ≤ 2 ^ 53) (he : -1074 ≤ e) :
    ∃ (k : Nat) (e' : Int),
      (shiftToTargetExponent Format.binary64 r e .exact).1.mantissa = k ∧
      (shiftToTargetExponent Format.binary64 r e .exact).2 = e' ∧
        2 ^ 52 ≤ k ∧ k < 2 ^ 53 ∧ e ≤ e' ∧ e' ≤ e + 1 ∧ (k : ℚ) * 2 ^ e' = r * 2 ^ e := by
  rcases Nat.lt_or_eq_of_le hgreatest with hlt | rfl
  · have hlog : r.log2 = 52 := (Nat.log2_eq_iff (by omega)).2 ⟨hleast, hlt⟩
    rw [shiftToTargetExponent_eq (by omega) (by omega), hlog]
    exact ⟨r, e, rfl, by omega, hleast, hlt, by omega, by omega, rfl⟩
  · have hlog : (2 ^ 53).log2 = 53 := Nat.log2_two_pow
    rw [shiftToTargetExponent_eq (by omega) (by omega), hlog]
    refine ⟨2 ^ 52, e + 1, rfl, by omega, by omega, by omega, by omega, by omega, ?_⟩
    rw [zpow_add_one₀ (by norm_num)]
    push_cast
    ring

/-- Rounding a large number gives a mantissa of 53 bits. Its value is that of the number, rounded
to the nearest. -/
theorem roundWithAccuracy_eq (s : Sign) (hm : 52 ≤ m.log2) (he : -1074 ≤ m.log2 - 52 + e) :
    ∃ (k : Nat) (e' : Int) (hk : 0 < k),
      roundWithAccuracy Format.binary64 s m e .exact = .finite s k e' hk ∧
        2 ^ 52 ≤ k ∧ k < 2 ^ 53 ∧ m.log2 - 52 + e ≤ e' ∧ e' ≤ m.log2 - 52 + e + 1 ∧
          (k : ℚ) * 2 ^ e' = nearestNat m * 2 ^ e := by
  obtain ⟨hleast, hgreatest⟩ := roundHalfEven_lastUnit_bounds hm
  unfold roundWithAccuracy
  rw [shiftToTargetExponent_eq hm he]
  dsimp only
  rw [roundedMantissa_shiftRight]
  -- rounding up may take one bit more, and the second shift takes it back
  obtain ⟨k, e', hmantissa, hexponent, hk, hk', he', he'', hvalue⟩ :=
    exists_carried hleast hgreatest he
  have hne : ¬(shiftToTargetExponent Format.binary64 (roundHalfEven m (2 ^ (m.log2 - 52)))
      (m.log2 - 52 + e) .exact).1.mantissa = 0 := by
    show ¬(shiftToTargetExponent _ (roundHalfEven m (lastUnit m)) _ _).1.mantissa = 0
    omega
  rw [dif_neg hne]
  refine ⟨k, e', by omega, ?_, hk, hk', he', he'', ?_⟩
  · congr 1
  · have hunit : (2 : ℚ) ^ ((m.log2 - 52 : Int) + e) = (lastUnit m : ℚ) * 2 ^ e := by
      have hlog : (m.log2 - 52 : Int) = ((m.log2 - 52 : Nat) : Int) := by omega
      rw [zpow_add₀ (by norm_num), hlog, zpow_natCast, lastUnit]
      push_cast
      rfl
    rw [hvalue, hunit, nearestNat, Nat.cast_mul, mul_assoc]

/-! ## Packing -/

theorem toNat_packComponents (e : BitVec 11) (m : BitVec 52) :
    (packComponents Format.binary64 .positive e m).toNat = e.toNat * 2 ^ 52 + m.toNat := by
  have happend : ∀ {a b : Nat} (x : BitVec a) (y : BitVec b),
      (x ++ y).toNat = x.toNat * 2 ^ b + y.toNat := by
    intro a b x y
    rw [BitVec.toNat_append, Nat.shiftLeft_eq, Nat.mul_comm, Nat.two_pow_add_eq_or_of_lt y.isLt]
  unfold packComponents
  rw [happend, happend]
  show (0 * 2 ^ 11 + e.toNat) * 2 ^ 52 + m.toNat = _
  omega

/-- The fields of a float without a sign. -/
theorem decodeBits_packComponents {bits : UInt64} {e : BitVec 11} {m : BitVec 52}
    (h : bits.toNat = (packComponents Format.binary64 .positive e m).toNat) :
    (bits >>> 63 == 1) = false ∧ ((bits >>> 52) &&& 0x7FF).toNat = e.toNat ∧
      (bits &&& 0xFFFFFFFFFFFFF).toNat = m.toNat := by
  rw [toNat_packComponents] at h
  have he := e.isLt
  have hm := m.isLt
  refine ⟨?_, ?_, ?_⟩
  · have hzero : (bits >>> 63).toNat = 0 := by
      rw [UInt64.toNat_shiftRight, h]
      show _ >>> 63 = _
      rw [Nat.shiftRight_eq_div_pow]
      omega
    refine beq_eq_false_iff_ne.2 fun heq => ?_
    rw [heq] at hzero
    cases hzero
  · rw [UInt64.toNat_and, UInt64.toNat_shiftRight, h]
    show _ >>> 52 &&& (2 ^ 11 - 1) = _
    rw [Nat.and_two_pow_sub_one_eq_mod, Nat.shiftRight_eq_div_pow]
    omega
  · rw [UInt64.toNat_and, h]
    show _ &&& (2 ^ 52 - 1) = _
    rw [Nat.and_two_pow_sub_one_eq_mod]
    omega

/-- A mantissa of 53 bits and an exponent that is not negative are read as they were packed, unless
they are beyond the floats. -/
theorem decode_pack {k : Nat} (hk : 0 < k) (hleast : 2 ^ 52 ≤ k) (hgreatest : k < 2 ^ 53)
    (he : 0 ≤ e) :
    decode (.ofModel (.pack (.finite .positive k e hk))) = .infinite false ∨
      decode (.ofModel (.pack (.finite .positive k e hk))) = .finite ⟨false, k, e⟩ := by
  have hlog : k.log2 + 1 = 53 := by
    have hge : 52 ≤ k.log2 := (Nat.le_log2 (by omega)).2 hleast
    have hlt : k.log2 < 53 := (Nat.log2_lt (by omega)).2 hgreatest
    omega
  have hbits : (Float.ofModel (.pack (.finite .positive k e hk))).toBits.toNat =
      (UnpackedFloat.pack Format.binary64 (.finite .positive k e hk)).toNat := rfl
  unfold decode decodeBits
  dsimp only
  by_cases hbeyond : 2 ^ 11 ≤ (e + 1023 + 52).toNat + 1
  · left
    have hpack : UnpackedFloat.pack Format.binary64 (.finite .positive k e hk) =
        packComponents Format.binary64 .positive (-1#11) 0#52 := if_pos hbeyond
    rw [hpack] at hbits
    obtain ⟨hsign, hbiased, hfraction⟩ := decodeBits_packComponents hbits
    rw [hsign, hbiased, hfraction]
    rfl
  · right
    have hpack : UnpackedFloat.pack Format.binary64 (.finite .positive k e hk) =
        packComponents Format.binary64 .positive (BitVec.ofNat 11 (e + 1023 + 52).toNat)
          (BitVec.ofNat 52 k) := (if_neg hbeyond).trans (if_pos hlog)
    rw [hpack] at hbits
    obtain ⟨hsign, hbiased, hfraction⟩ := decodeBits_packComponents hbits
    rw [hsign, hbiased, hfraction, BitVec.toNat_ofNat, BitVec.toNat_ofNat]
    rw [if_neg (by omega), if_neg (by omega)]
    congr 2 <;> omega

/-! ## Integers -/

theorem le_value {k : Nat} (hk : 2 ^ 52 ≤ k) (he : 11 ≤ e) :
    2 ^ 63 ≤ Dyadic.value ⟨false, k, e⟩ := by
  have hvalue : Dyadic.value ⟨false, k, e⟩ = (k : ℚ) * 2 ^ e := by
    unfold Dyadic.value Dyadic.signed
    rw [if_neg Bool.false_ne_true, Int.cast_natCast]
  have hpower : (2 : ℚ) ^ (11 : ℤ) ≤ 2 ^ e := zpow_le_zpow_right₀ (by norm_num) he
  have hk' : (2 ^ 52 : ℚ) ≤ k := by exact_mod_cast hk
  calc (2 : ℚ) ^ 63 = 2 ^ 52 * 2 ^ (11 : ℤ) := by norm_num
    _ ≤ (k : ℚ) * 2 ^ e := mul_le_mul hk' hpower (by positivity) (by positivity)
    _ = Dyadic.value ⟨false, k, e⟩ := hvalue.symm

/-- The float nearest to an integer of more than 53 bits. -/
theorem ofNat_of_large {n : Nat} (h : 2 ^ 53 ≤ n) :
    Float.ofNat n =
      .ofModel (.pack (roundWithAccuracy Format.binary64 .positive (n * 2 ^ 53) (-53) .exact)) := by
  have hslow : ¬(n < 2 ^ 53 ∧ 0 ≤ 22) := by omega
  have hne : n ≠ 0 := by omega
  have hshift : n <<< 53 * 10 ^ 0 = n * 2 ^ 53 := by
    rw [Nat.pow_zero, Nat.mul_one, Nat.shiftLeft_eq]
  rw [← hshift]
  show Float.ofScientific n false 0 = _
  unfold Float.ofScientific
  rw [dif_neg hslow]
  show Float.ofModel (.pack (UnpackedFloat.ofScientific Format.binary64 n 0)) = _
  unfold UnpackedFloat.ofScientific
  rw [dif_neg hne, if_neg (by decide), if_neg, if_pos (by decide)]
  · rfl
  · show ¬(0 : Int) < -((2 ^ 11 : Int) + n.log2)
    omega

/-- A large integer is infinite as a float, or no less than `2 ^ 63`. -/
theorem le_value_of_ofNat {n : Nat} (h : 2 ^ 63 ≤ n) :
    decode (.ofNat n) = .infinite false ∨
      ∃ d, decode (.ofNat n) = .finite d ∧ 2 ^ 63 ≤ d.value := by
  have hlog : 116 ≤ (n * 2 ^ 53).log2 := (Nat.le_log2 (by omega)).2 (by omega)
  obtain ⟨k, e, hk, hround, hleast, hgreatest, he, -, -⟩ :=
    roundWithAccuracy_eq (m := n * 2 ^ 53) (e := -53) .positive (by omega) (by omega)
  have hexponent : (11 : Int) ≤ e := by omega
  rw [ofNat_of_large (by omega), hround]
  have hnonneg : 0 ≤ e := Int.le_trans (by decide) hexponent
  rcases decode_pack hk hleast hgreatest hnonneg with hinfinite | hfinite
  · exact Or.inl hinfinite
  · exact Or.inr ⟨_, hfinite, le_value hleast hexponent⟩

end ApiGateway.Binary64
