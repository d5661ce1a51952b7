import ApiGateway.Proofs.Binary64.Rounding

/-! # The order of integers as floats

The float that stands for an integer of up to 64 bits has the value of the integer rounded to 53
bits (`isInt_ofInt`). Two such floats are therefore in the order of the rounded integers
(`ofInt_lt_ofInt`, `ofInt_beq_ofInt`).
-/

set_option autoImplicit false

namespace ApiGateway.Binary64

open Float.Model
open Float.Model.UnpackedFloat

/-! ## Packing and unpacking -/

variable {spec : Format}

theorem unpackSign_packComponents (s : Sign) (e : BitVec spec.exponentBits)
    (m : BitVec spec.mantissaBitsWithoutImplicit) :
    Sign.ofBitVec (unpackSign (packComponents spec s e m)) = s := by
  have hsign : unpackSign (packComponents spec s e m) = s.toBitVec := by
    apply BitVec.eq_of_getLsbD_eq
    intro i hi
    obtain rfl : i = 0 := by omega
    show (BitVec.cast _ (BitVec.extractLsb _ _ (packComponents spec s e m))).getLsbD 0 = _
    simp [packComponents, BitVec.getLsbD_append, BitVec.getElem_append]
  rw [hsign]
  cases s <;> rfl

theorem finite_congr {s t : Sign} {k m : Nat} {e f : Int} {hk : 0 < k} {hm : 0 < m} (hst : s = t)
    (hkm : k = m) (hef : e = f) : UnpackedFloat.finite s k e hk = .finite t m f hm := by
  subst hst hkm hef
  rfl

/-- The fields of a float that is neither infinite nor subnormal. -/
theorem unpack_packComponents {biased : BitVec spec.exponentBits}
    {fraction : BitVec spec.mantissaBitsWithoutImplicit} (s : Sign) (hleast : biased ≠ 0#_)
    (hgreatest : biased ≠ -1#_) (h : 0 < (1#1 ++ fraction).toNat) :
    UnpackedFloat.unpack spec (packComponents spec s biased fraction) =
      .finite s (1#1 ++ fraction).toNat
        (biased.toNat - (spec.exponentBias + spec.mantissaBitsWithoutImplicit)) h := by
  have hexponent : unpackExponent (packComponents spec s biased fraction) = biased :=
    unpackExponent_packComponents
  unfold UnpackedFloat.unpack
  dsimp only
  rw [if_neg (by rwa [hexponent]), if_neg (by rwa [hexponent])]
  exact finite_congr (unpackSign_packComponents s biased fraction)
    (by rw [unpackMantissa_packComponents]) (by rw [hexponent])

/-- A mantissa of 53 bits is unpacked as it was packed. -/
theorem unpack_pack {k : Nat} {e : Int} (s : Sign) (hk : 0 < k) (hleast : 2 ^ 52 ≤ k)
    (hgreatest : k < 2 ^ 53) (he : -1074 ≤ e) (he' : e ≤ 971) :
    (Float.Model.pack (.finite s k e hk)).unpack = .finite s k e hk := by
  have hlog : k.log2 + 1 = 53 := by
    rw [(Nat.log2_eq_iff (by omega)).2 ⟨hleast, hgreatest⟩]
  have hbiased : (BitVec.ofNat 11 (e + 1023 + 52).toNat).toNat = (e + 1023 + 52).toNat := by
    rw [BitVec.toNat_ofNat]
    omega
  have hne : ∀ b : BitVec 11, b.toNat = 0 ∨ b.toNat = 2047 →
      BitVec.ofNat 11 (e + 1023 + 52).toNat ≠ b := by
    rintro b hb rfl
    omega
  have hmantissa : (1#1 ++ BitVec.ofNat 52 k).toNat = k := by
    rw [BitVec.toNat_append, Nat.shiftLeft_eq, Nat.mul_comm,
      ← Nat.two_pow_add_eq_or_of_lt (BitVec.isLt _), BitVec.toNat_ofNat]
    show 2 ^ 52 * 1 + k % 2 ^ 52 = k
    omega
  have hexponent : ((e + 1023 + 52).toNat : Int) -
      (Format.binary64.exponentBias + Format.binary64.mantissaBitsWithoutImplicit) = e := by
    show _ - (((1023 : Nat) : Int) + (52 : Nat)) = e
    omega
  have hbound : ¬2 ^ 11 ≤ (e + 1023 + 52).toNat + 1 := by omega
  have hpack : UnpackedFloat.pack Format.binary64 (.finite s k e hk) =
      packComponents Format.binary64 s (BitVec.ofNat 11 (e + 1023 + 52).toNat)
        (BitVec.ofNat 52 k) := (if_neg hbound).trans (if_pos hlog)
  have hunpack := @unpack_packComponents Format.binary64 _ (BitVec.ofNat 52 k) s
    (hne 0#11 (.inl rfl)) (hne (-1#11) (.inr rfl)) (Nat.lt_of_lt_of_eq hk hmantissa.symm)
  show UnpackedFloat.unpack Format.binary64 (UnpackedFloat.pack Format.binary64 _) = _
  rw [hpack, hunpack]
  exact finite_congr rfl hmantissa (by rw [hbiased, hexponent])

/-! ## Integers -/

/-- The float stands for an integer, with a mantissa of 53 bits unless it is zero. -/
inductive IsInt : UnpackedFloat → ℤ → Prop where
  | zero {s : Sign} : IsInt (.zero s) 0
  | positive {k n : ℕ} {e : ℤ} (hk : 0 < k) : 2 ^ 52 ≤ k → k < 2 ^ 53 → -52 ≤ e → e ≤ 971 →
      (k : ℚ) * 2 ^ e = n → IsInt (.finite .positive k e hk) n
  | negative {k n : ℕ} {e : ℤ} (hk : 0 < k) : 2 ^ 52 ≤ k → k < 2 ^ 53 → -52 ≤ e → e ≤ 971 →
      (k : ℚ) * 2 ^ e = n → IsInt (.finite .negative k e hk) (-n)

theorem IsInt.unpack_pack {f : UnpackedFloat} {n : ℤ} (h : IsInt f n) :
    (Float.Model.pack f).unpack = f := by
  cases h with
  | @zero s => cases s <;> rfl
  | positive hk hleast hgreatest he he' =>
      exact Binary64.unpack_pack _ hk hleast hgreatest (by omega) he'
  | negative hk hleast hgreatest he he' =>
      exact Binary64.unpack_pack _ hk hleast hgreatest (by omega) he'

theorem IsInt.neg {f : UnpackedFloat} {n : ℤ} (h : IsInt f n) : IsInt f.neg (-n) := by
  cases h with
  | zero => exact .zero
  | positive hk hleast hgreatest he he' hvalue => exact .negative hk hleast hgreatest he he' hvalue
  | negative hk hleast hgreatest he he' hvalue =>
      rw [Int.neg_neg]
      exact .positive hk hleast hgreatest he he' hvalue

/-! ## Order -/

/-- Of two mantissas of 53 bits the one with the greater exponent stands for more. -/
theorem compare_exponents {k k' n n' : ℕ} {e e' : ℤ} (hk : k < 2 ^ 53) (hk' : 2 ^ 52 ≤ k')
    (h : (k : ℚ) * 2 ^ e = n) (h' : (k' : ℚ) * 2 ^ e' = n') (he : e < e') : n < n' := by
  have hpower : (2 : ℚ) ^ (e + 1) ≤ 2 ^ e' := zpow_le_zpow_right₀ (by norm_num) he
  have hpos : (0 : ℚ) < 2 ^ e := zpow_pos (by norm_num) e
  have hlt : (k : ℚ) < 2 ^ 53 := by exact_mod_cast hk
  have hle : (2 : ℚ) ^ 52 ≤ k' := by exact_mod_cast hk'
  rw [← Nat.cast_lt (α := ℚ), ← h, ← h']
  calc (k : ℚ) * 2 ^ e < 2 ^ 53 * 2 ^ e := mul_lt_mul_of_pos_right hlt hpos
    _ = 2 ^ 52 * 2 ^ (e + 1) := by
        rw [zpow_add_one₀ (by norm_num)]
        ring
    _ ≤ k' * 2 ^ e' := mul_le_mul hle hpower (zpow_pos (by norm_num) _).le (Nat.cast_nonneg _)

/-- Mantissas of 53 bits are compared by their exponents first. -/
theorem compare_magnitudes {k k' n n' : ℕ} {e e' : ℤ} (hk : 2 ^ 52 ≤ k ∧ k < 2 ^ 53)
    (hk' : 2 ^ 52 ≤ k' ∧ k' < 2 ^ 53) (h : (k : ℚ) * 2 ^ e = n) (h' : (k' : ℚ) * 2 ^ e' = n') :
    (compare e e').then (compare k k') = compare (n : ℤ) n' := by
  rcases lt_trichotomy e e' with hlt | rfl | hlt
  · have hn := compare_exponents hk.2 hk'.1 h h' hlt
    rw [compare_lt_iff_lt.2 hlt, compare_lt_iff_lt.2 (Int.ofNat_lt.2 hn)]
    rfl
  · have hpos : (0 : ℚ) < 2 ^ e := zpow_pos (by norm_num) e
    have horder : ∀ {a b c d : ℕ}, (a : ℚ) * 2 ^ e = c → (b : ℚ) * 2 ^ e = d → a < b →
        (c : ℤ) < d := by
      intro a b c d hc hd hlt
      rw [Int.ofNat_lt, ← Nat.cast_lt (α := ℚ), ← hc, ← hd, mul_lt_mul_iff_left₀ hpos]
      exact_mod_cast hlt
    rw [compare_eq_iff_eq.2 rfl, Ordering.then]
    rcases lt_trichotomy k k' with hlt | rfl | hlt
    · rw [compare_lt_iff_lt.2 hlt, compare_lt_iff_lt.2 (horder h h' hlt)]
    · have hn : n = n' := Nat.cast_injective (h.symm.trans h')
      rw [compare_eq_iff_eq.2 rfl, compare_eq_iff_eq.2 (congrArg _ hn)]
    · rw [compare_gt_iff_gt.2 hlt, compare_gt_iff_gt.2 (horder h' h hlt)]
  · have hn := compare_exponents hk'.2 hk.1 h' h hlt
    rw [compare_gt_iff_gt.2 hlt, compare_gt_iff_gt.2 (Int.ofNat_lt.2 hn)]
    rfl

theorem swap_compare (m n : ℤ) : (compare m n).swap = compare (-m) (-n) := by
  rcases lt_trichotomy m n with hlt | rfl | hlt
  · rw [compare_lt_iff_lt.2 hlt, compare_gt_iff_gt.2 (Int.neg_lt_neg hlt)]
    rfl
  · rw [compare_eq_iff_eq.2 rfl, compare_eq_iff_eq.2 rfl]
    rfl
  · rw [compare_gt_iff_gt.2 hlt, compare_lt_iff_lt.2 (Int.neg_lt_neg hlt)]
    rfl

theorem pos_of_value {k n : ℕ} {e : ℤ} (hk : 0 < k) (h : (k : ℚ) * 2 ^ e = n) : 0 < n := by
  have hpos : (0 : ℚ) < k * 2 ^ e := mul_pos (by exact_mod_cast hk) (zpow_pos (by norm_num) e)
  rw [h] at hpos
  exact_mod_cast hpos

/-- Floats that stand for integers are compared as the integers. -/
theorem IsInt.compare_eq {f g : UnpackedFloat} {m n : ℤ} (hf : IsInt f m) (hg : IsInt g n) :
    f.compare g = some (compare m n) := by
  cases hf with
  | zero =>
      cases hg with
      | zero => rfl
      | positive hk _ _ _ _ hvalue =>
          have hpos := pos_of_value hk hvalue
          exact congrArg some (compare_lt_iff_lt.2 (by omega)).symm
      | negative hk _ _ _ _ hvalue =>
          have hpos := pos_of_value hk hvalue
          exact congrArg some (compare_gt_iff_gt.2 (by omega)).symm
  | positive hk hleast hgreatest _ _ hvalue =>
      have hpos := pos_of_value hk hvalue
      cases hg with
      | zero => exact congrArg some (compare_gt_iff_gt.2 (by omega)).symm
      | positive hk' hleast' hgreatest' _ _ hvalue' =>
          exact congrArg some
            (compare_magnitudes ⟨hleast, hgreatest⟩ ⟨hleast', hgreatest'⟩ hvalue hvalue')
      | negative hk' _ _ _ _ hvalue' =>
          have hpos' := pos_of_value hk' hvalue'
          exact congrArg some (compare_gt_iff_gt.2 (by omega)).symm
  | negative hk hleast hgreatest _ _ hvalue =>
      have hpos := pos_of_value hk hvalue
      cases hg with
      | zero => exact congrArg some (compare_lt_iff_lt.2 (by omega)).symm
      | positive hk' _ _ _ _ hvalue' =>
          have hpos' := pos_of_value hk' hvalue'
          exact congrArg some (compare_lt_iff_lt.2 (by omega)).symm
      | negative hk' hleast' hgreatest' _ _ hvalue' =>
          rw [← swap_compare,
            ← compare_magnitudes ⟨hleast, hgreatest⟩ ⟨hleast', hgreatest'⟩ hvalue hvalue']
          rfl

/-! ## Floats nearest to integers -/

theorem isInt_roundWithAccuracy {m n : ℕ} {e : ℤ} (hm : 52 ≤ m.log2)
    (hleast : -52 ≤ m.log2 - 52 + e) (hgreatest : m.log2 - 52 + e ≤ 970)
    (h : (nearestNat m : ℚ) * 2 ^ e = n) :
    IsInt (roundWithAccuracy Format.binary64 .positive m e .exact) n := by
  obtain ⟨k, e', hk, hround, hk', hk'', he, he', hvalue⟩ :=
    roundWithAccuracy_eq (e := e) .positive hm (by omega)
  rw [hround]
  exact .positive hk hk' hk'' (by omega) (by omega) (hvalue.trans h)

/-- An integer of up to 53 bits is a float. -/
theorem isInt_round {n : ℕ} (hn : n ≠ 0) (h : n < 2 ^ 53) :
    IsInt (UnpackedFloat.round Format.binary64 .positive n 0) n := by
  have hlog : n.log2 < 53 := (Nat.log2_lt hn).2 h
  have htarget : Format.binary64.targetExponent (totalExponent n 0) = n.log2 - 52 := by
    show max ((n.log2 + 1 + 0 : Int) - (1 + 52 : Nat)) (3 - 2 ^ (11 - 1) - (1 + 52 : Nat)) = _
    omega
  obtain ⟨k, hk⟩ : ∃ k, n.log2 + k = 52 := ⟨52 - n.log2, by omega⟩
  have hshift : (0 - ((n.log2 : ℤ) - 52)).toNat = k := by omega
  have hround : UnpackedFloat.round Format.binary64 .positive n 0 =
      roundWithAccuracy Format.binary64 .positive (n * 2 ^ k) (-k) .exact := by
    unfold UnpackedFloat.round decreaseExponent
    dsimp only
    rw [htarget, hshift, Nat.shiftLeft_eq, Int.zero_sub]
  have hbits : (n * 2 ^ k).log2 = 52 := by rw [log2_mul_two_pow hn, hk]
  rw [hround]
  refine isInt_roundWithAccuracy (by omega) (by omega) (by omega) ?_
  rw [nearestNat_mul_two_pow, nearestNat_of_lt h, zpow_neg, zpow_natCast]
  push_cast
  exact mul_inv_cancel_right₀ (pow_ne_zero _ (by norm_num)) _

theorem isInt_ofUInt64 {n : ℕ} (h : n < 2 ^ 53) :
    IsInt (UnpackedFloat.ofUInt64 Format.binary64 n.toUInt64) n := by
  have htoNat : n.toUInt64.toNat = n := UInt64.toNat_ofNat_of_lt (by show n < 2 ^ 64; omega)
  show IsInt (UnpackedFloat.ofInt Format.binary64 n.toUInt64.toNat) n
  rw [htoNat]
  unfold UnpackedFloat.ofInt UnpackedFloat.normalize
  by_cases hn : n = 0
  · rw [hn]
    exact .zero
  · rw [Int.compare_eq_gt.2 (by omega)]
    exact isInt_round hn h

/-- Multiplying by one does not change the integer that a float stands for. -/
theorem IsInt.mul_one {f : UnpackedFloat} {n : ℤ} (h : IsInt f n) (hn : 0 ≤ n) :
    IsInt (UnpackedFloat.mul Format.binary64 f (.finite .positive (2 ^ 52) (-52) (by decide))) n := by
  cases h with
  | zero => exact .zero
  | @positive k n e hk hleast hgreatest he he' hvalue =>
      have hlog : k.log2 = 52 := (Nat.log2_eq_iff (by omega)).2 ⟨hleast, hgreatest⟩
      have hbits : (k * 2 ^ 52).log2 = 104 := by rw [log2_mul_two_pow (by omega), hlog]
      obtain ⟨k', e', hk', hround, hleast', hgreatest', hexponent, -, hvalue'⟩ :=
        roundWithAccuracy_eq (m := k * 2 ^ 52) (e := e + -52) .positive (by omega) (by omega)
      have hpower : (2 : ℚ) ^ (e + -52) * 2 ^ 52 = 2 ^ e := by
        rw [zpow_add₀ (by norm_num), mul_assoc]
        norm_num
      have hproduct : (k' : ℚ) * 2 ^ e' = n := by
        rw [hvalue', nearestNat_mul_two_pow, nearestNat_of_lt hgreatest, ← hvalue, ← hpower]
        push_cast
        ring
      -- a greater exponent would stand for more
      have hle : e' ≤ e := by
        by_contra hlt
        exact absurd (compare_exponents hgreatest hleast' hvalue hproduct (Int.not_le.1 hlt))
          (Nat.lt_irrefl n)
      show IsInt (roundWithAccuracy Format.binary64 .positive (k * 2 ^ 52) (e + -52) .exact) n
      rw [hround]
      exact .positive hk' hleast' hgreatest' (by omega) (by omega) hproduct
  | negative hk _ _ _ _ hvalue =>
      have hpos := pos_of_value hk hvalue
      omega

/-- The float of a number of up to 64 bits stands for the number rounded to 53 of them. -/
theorem isInt_ofNat {n : ℕ} (h : n < 2 ^ 64) :
    IsInt (Float.ofNat n).toModel.unpack (nearestNat n) := by
  by_cases hsmall : n < 2 ^ 53
  · have hfloat : Float.ofNat n = .ofModel (.pack (UnpackedFloat.mul Format.binary64
        (Float.Model.pack (UnpackedFloat.ofUInt64 Format.binary64 n.toUInt64)).unpack
        (.finite .positive (2 ^ 52) (-52) (by decide)))) := by
      have hone : Float.exactlyRepresentablePowersOfTen[0].toModel.unpack =
          .finite .positive (2 ^ 52) (-52) (by decide) := by rfl
      rw [← hone]
      show Float.ofScientific n false 0 = _
      unfold Float.ofScientific
      rw [dif_pos ⟨hsmall, by decide⟩]
      rfl
    have hint := isInt_ofUInt64 hsmall
    have hproduct := hint.mul_one (Int.natCast_nonneg n)
    rw [hfloat, hint.unpack_pack, nearestNat_of_lt hsmall]
    show IsInt (Float.Model.pack _).unpack n
    rw [hproduct.unpack_pack]
    exact hproduct
  · have hlog : n.log2 < 64 := (Nat.log2_lt (by omega)).2 h
    have hbits : (n * 2 ^ 53).log2 = n.log2 + 53 := log2_mul_two_pow (by omega) 53
    have hint : IsInt (roundWithAccuracy Format.binary64 .positive (n * 2 ^ 53) (-53) .exact)
        (nearestNat n) := by
      refine isInt_roundWithAccuracy (by omega) (by omega) (by omega) ?_
      rw [nearestNat_mul_two_pow]
      push_cast
      norm_num
      ring
    rw [ofNat_of_large (by omega)]
    show IsInt (Float.Model.pack _).unpack _
    rw [hint.unpack_pack]
    exact hint

/-- The float of an integer of up to 64 bits stands for the integer rounded to 53 of them. -/
theorem isInt_ofInt {n : ℤ} (h : n.natAbs < 2 ^ 64) :
    IsInt (ofInt n).toModel.unpack (nearest n) := by
  cases n with
  | ofNat n =>
      have hnearest : nearest (Int.ofNat n) = nearestNat n := if_pos (Int.natCast_nonneg n)
      rw [hnearest]
      exact isInt_ofNat h
  | negSucc n =>
      have hnearest : nearest (Int.negSucc n) = -nearestNat (n + 1) :=
        if_neg (Int.not_le.2 (Int.negSucc_lt_zero n))
      have hint := (isInt_ofNat (show n + 1 < 2 ^ 64 from h)).neg
      rw [hnearest]
      show IsInt (Float.Model.pack (Float.ofNat (n + 1)).toModel.unpack.neg).unpack _
      rw [hint.unpack_pack]
      exact hint

variable {a b : ℤ}

/-- Integers are in the order of their roundings as floats. -/
theorem ofInt_lt_ofInt (ha : a.natAbs < 2 ^ 64) (hb : b.natAbs < 2 ^ 64) :
    ofInt a < ofInt b ↔ nearest a < nearest b := by
  have hlt : ofInt a < ofInt b ↔
      ((ofInt a).toModel.unpack.compare (ofInt b).toModel.unpack == some .lt) = true := by
    show decide _ = true ↔ _
    rw [decide_eq_true_iff]
    rfl
  rw [hlt, (isInt_ofInt ha).compare_eq (isInt_ofInt hb), beq_iff_eq, Option.some.injEq,
    compare_lt_iff_lt]

/-- Integers are equal as floats just if their roundings are. -/
theorem ofInt_beq_ofInt (ha : a.natAbs < 2 ^ 64) (hb : b.natAbs < 2 ^ 64) :
    (ofInt a == ofInt b) = true ↔ nearest a = nearest b := by
  have hbeq : (ofInt a == ofInt b) =
      ((ofInt a).toModel.unpack.compare (ofInt b).toModel.unpack == some .eq) := rfl
  rw [hbeq, (isInt_ofInt ha).compare_eq (isInt_ofInt hb), beq_iff_eq, Option.some.injEq,
    compare_eq_iff_eq]

end ApiGateway.Binary64
