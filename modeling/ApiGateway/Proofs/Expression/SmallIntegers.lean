import ApiGateway.Expression.Call
import ApiGateway.Proofs.Binary64.Rounding
import ApiGateway.Proofs.Failing
import ApiGateway.Proofs.Json.Uniqueness

/-! # Small integers as arguments

Three functions expect an integer of at most 308 in absolute value: `round` the number of places,
`scale` the exponent, and `substring` the position and the number of characters. Which integer an
argument is, is a matter of its exact value (`Takes`), and the functions compute with this very
integer (`ComputesWith`).

Numbers from the least signed 64-bit integer down are the exception. That integer has no absolute
value in 64 bits, and the range check lets it pass; narrowed to 32 bits it is zero (`Wraps`). All
other arguments are taken as they should be: `takes_or_wraps`.
-/

set_option autoImplicit false

namespace ApiGateway

/-- The rational number that a number is, if it is finite. -/
def Json.Number.value? : Json.Number → Option ℚ
  | .int n => some n
  | .float x => Binary64.value? x

namespace Expression

open Json (Number)
open Binary64

/-! ## What is taken from an argument -/

/-- What an argument should give: itself if it is a small integer, and else an error. -/
inductive Takes : Json → Except CallFault Int → Prop
  | small {x : Number} {n : ℤ} (value : x.value? = some (n : ℚ)) (least : -308 ≤ n)
      (greatest : n ≤ 308) : Takes (.num x) (.ok n)
  | other {x : Number} (others : ∀ n : ℤ, x.value? = some (n : ℚ) → n < -308 ∨ 308 < n) :
      Takes (.num x) (.error (.notSmallInteger x))
  | notNumber {v : Json} (others : ∀ x, v ≠ .num x) : Takes v (.error (.type "an integer" v.kind))

/-- A number that is no greater than the least signed 64-bit integer. -/
inductive IsLow : Json → Prop
  | low {x : Number} {q : ℚ} (value : x.value? = some q) (low : q ≤ (minInt64 : ℚ)) : IsLow (.num x)

/-- What becomes of the 64-bit integer that stands for a number. -/
def passed (x : Number) (n : Int) : Except CallFault Int :=
  if wrappingAbs n ≤ 308 then .ok n else .error (.notSmallInteger x)

variable {x : Number} {v w : Json}

theorem passed_eq (n : Int) :
    (match (some n).filter (wrappingAbs · ≤ 308) with
      | some k => .ok k
      | none => .error (.notSmallInteger x)) = passed x n := by
  unfold passed
  rw [Option.filter_some]
  by_cases hpasses : wrappingAbs n ≤ 308
  · rw [if_pos hpasses, if_pos (decide_eq_true hpasses)]
  · rw [if_neg hpasses, if_neg (by simpa using hpasses)]

theorem smallInteger_of_signed {n : Int} (h : minInt64 ≤ n ∧ n ≤ maxInt64) :
    smallInteger (.int n) = passed (.int n) (min maxInt64 n) := by
  have hint : Number.toInt64? (.int n) = some n := if_pos h
  unfold smallInteger
  rw [hint, Int.min_eq_right h.2]
  exact passed_eq n

theorem smallInteger_of_integral {n : ℤ} (hint : x.toInt64? = none)
    (h : Binary64.value? x.toFloat = some (n : ℚ)) :
    smallInteger x = passed x (clamp minInt64 maxInt64 n) := by
  unfold smallInteger
  rw [hint]
  dsimp only
  rw [if_pos (isIntegral_iff.2 ⟨n, h⟩), toIntWithin_of_value? h]
  exact passed_eq _

theorem smallInteger_of_fraction (hint : x.toInt64? = none)
    (h : ¬∃ n : ℤ, Binary64.value? x.toFloat = some (n : ℚ)) :
    smallInteger x = .error (.notSmallInteger x) := by
  unfold smallInteger
  rw [hint]
  dsimp only
  rw [if_neg (mt isIntegral_iff.1 h)]
  rfl

/-- All other integers are small just if their absolute values are, cut off at 64 bits or not. -/
theorem takes_passed {n : ℤ} (hvalue : x.value? = some (n : ℚ)) (h : minInt64 < n) :
    Takes (.num x) (passed x (min maxInt64 n)) := by
  have habs : wrappingAbs (min maxInt64 n) ≤ 308 ↔ -308 ≤ n ∧ n ≤ 308 := by
    have hne : min maxInt64 n ≠ minInt64 := by
      unfold minInt64 maxInt64 at *
      omega
    unfold wrappingAbs
    rw [if_neg hne]
    unfold maxInt64
    omega
  unfold passed
  by_cases hsmall : -308 ≤ n ∧ n ≤ 308
  · have hsame : min maxInt64 n = n := by
      unfold maxInt64
      omega
    rw [if_pos (habs.2 hsmall), hsame]
    exact .small hvalue hsmall.1 hsmall.2
  · rw [if_neg (mt habs.1 hsmall)]
    refine .other fun k hk => ?_
    have heq : n = k := by
      rw [hvalue, Option.some.injEq, Int.cast_inj] at hk
      exact hk
    omega

/-- Large unsigned integers are large as floats too. -/
theorem le_of_value?_toFloat {n : Int} (h : maxInt64 < n) {k : ℤ}
    (hk : Binary64.value? (Number.toFloat (.int n)) = some (k : ℚ)) : 2 ^ 63 ≤ k := by
  have hfloat : Number.toFloat (.int n) = .ofNat n.toNat := by
    obtain ⟨m, rfl⟩ := Int.eq_ofNat_of_zero_le (a := n) (by unfold maxInt64 at h; omega)
    rfl
  have hlarge : 2 ^ 63 ≤ n.toNat := by
    unfold maxInt64 at h
    omega
  rw [hfloat, Binary64.value?] at hk
  rcases le_value_of_ofNat hlarge with hinfinite | ⟨d, hd, hle⟩
  · rw [hinfinite] at hk
    cases hk
  · rw [hd, Option.some.injEq] at hk
    rw [hk] at hle
    exact_mod_cast hle

theorem smallInteger_of_unsigned {n : Int} (h : maxInt64 < n) :
    smallInteger (.int n) = passed (.int n) (min maxInt64 n) := by
  have hint : Number.toInt64? (.int n) = none := if_neg (by omega)
  have hpassed : passed (.int n) (min maxInt64 n) = .error (.notSmallInteger (.int n)) := by
    rw [Int.min_eq_left (Int.le_of_lt h)]
    rfl
  rw [hpassed]
  by_cases hintegral : ∃ k : ℤ, Binary64.value? (Number.toFloat (.int n)) = some (k : ℚ)
  · obtain ⟨k, hk⟩ := hintegral
    have hlarge := le_of_value?_toFloat h hk
    have hclamp : clamp minInt64 maxInt64 k = maxInt64 := by
      unfold clamp minInt64 maxInt64
      omega
    rw [smallInteger_of_integral hint hk, hclamp]
    rfl
  · exact smallInteger_of_fraction hint hintegral

/-- A float that is not low is small just if its value is. -/
theorem takes_smallInteger_float {y : Float} (hlow : ¬IsLow (.num (.float y))) :
    Takes (.num (.float y)) (smallInteger (.float y)) := by
  by_cases hintegral : ∃ n : ℤ, Binary64.value? y = some (n : ℚ)
  · obtain ⟨n, hn⟩ := hintegral
    have hless : minInt64 < n := by
      by_contra hge
      exact hlow (.low hn (by exact_mod_cast Int.not_lt.1 hge))
    have hclamp : clamp minInt64 maxInt64 n = min maxInt64 n := by
      unfold clamp minInt64 maxInt64 at *
      omega
    rw [smallInteger_of_integral (x := .float y) rfl hn, hclamp]
    exact takes_passed hn hless
  · rw [smallInteger_of_fraction (x := .float y) rfl hintegral]
    exact .other fun n hn => absurd ⟨n, hn⟩ hintegral

/-- **What is taken.** An argument that is not low gives what it should. -/
theorem takes_integerArgument (hlow : ¬IsLow w) :
    Takes w (integerArgument w) := by
  cases w with
  | num x =>
      show Takes (.num x) (smallInteger x)
      cases x with
      | float y => exact takes_smallInteger_float hlow
      | int n =>
          have hless : minInt64 < n := by
            by_contra hge
            exact hlow (.low (q := n) rfl (by exact_mod_cast Int.not_lt.1 hge))
          by_cases hgreatest : n ≤ maxInt64
          · rw [smallInteger_of_signed ⟨Int.le_of_lt hless, hgreatest⟩]
            exact takes_passed rfl hless
          · rw [smallInteger_of_unsigned (Int.not_le.1 hgreatest)]
            exact takes_passed rfl hless
  | null => exact .notNumber nofun
  | bool b => exact .notNumber nofun
  | str s => exact .notNumber nofun
  | arr items => exact .notNumber nofun
  | obj members => exact .notNumber nofun

/-- Names the function whose call failed. -/
def named (f : Function) (o : CallOutcome) : Outcome := o.mapError (.call f)

/-- A computation with a number; null is passed through. -/
def withNumber (v : Json) (f : Float → CallOutcome) : CallOutcome := do
  match ← optionalNumber v with
  | none => return .null
  | some x => f x

/-- A computation with the characters of a text; null is passed through. -/
def withText (v : Json) (f : List Char → CallOutcome) : CallOutcome :=
  match v with
  | .null => .ok .null
  | _ => do f (← scalarText v).toList

/-- Rounding to a number of places. -/
def roundWith (v : Json) (places : Except CallFault Int) : CallOutcome :=
  withNumber v fun x => do
    let n ← places
    finiteResult (round (x * pow 10.0 n) / pow 10.0 n)

/-- Moving the decimal point. -/
def scaleWith (v : Json) (exponent : Except CallFault Int) : CallOutcome :=
  withNumber v fun x => do
    let n ← exponent
    finiteResult (if 0 ≤ n then x * pow 10.0 n else x / pow 10.0 (-n))

/-- The characters from a position on, perhaps only a number of them. -/
def substringWith (v : Json) (start : Except CallFault Int)
    (length : Option (Except CallFault Int)) : CallOutcome :=
  withText v fun cs => do
    let first ← start
    if first < 0 then throw (.negativeStart first)
    match length with
    | none => return .str (String.ofList (cs.drop first.toNat))
    | some length =>
      let count ← length
      if count < 0 then throw (.negativeLength count)
      return .str (String.ofList ((cs.drop first.toNat).take count.toNat))

/-- The three functions compute with what was taken from an argument. -/
structure ComputesWith (w : Json) (taken : Except CallFault Int) : Prop where
  round : ∀ v, callFunction .round [v, w] = named .round (roundWith v taken)
  scale : ∀ v, callFunction .scale [v, w] = named .scale (scaleWith v taken)
  start : ∀ v, callFunction .substring [v, w] = named .substring (substringWith v taken none)
  startBefore : ∀ v length, callFunction .substring [v, w, length] =
    named .substring (substringWith v taken (some (integerArgument length)))
  length : ∀ v start, callFunction .substring [v, start, w] =
    named .substring (substringWith v (integerArgument start) (some taken))

theorem callFunction_eq_named {f : Function} (hf : f ≠ .abs) (arguments : List Json) :
    callFunction f arguments = named f (callPlain f arguments) := by
  unfold callFunction named
  split
  · exact absurd rfl hf
  · cases callPlain f arguments <;> rfl

/-! ### The numeric functions -/

theorem narrow32_of_small {n : Int} (hleast : -308 ≤ n) (hgreatest : n ≤ 308) :
    narrow32 n = n := by
  unfold narrow32
  exact Int.bmod_eq_of_le (by omega) (by omega)

theorem Takes.map_narrow32 {taken : Except CallFault Int} (h : Takes w taken) :
    taken.map narrow32 = taken := by
  cases h with
  | small value least greatest =>
      exact congrArg Except.ok (narrow32_of_small least greatest)
  | other others => rfl
  | notNumber others => rfl

/-- Only narrowing stands between `round` and the integer that it takes. -/
theorem roundTo_eq (v w : Json) :
    roundTo v (some w) = roundWith v ((integerArgument w).map narrow32) := by
  unfold roundTo roundWith withNumber
  refine congrArg (optionalNumber v >>= ·) (funext fun number => ?_)
  cases number with
  | none => rfl
  | some x =>
      dsimp only
      cases integerArgument w with
      | error fault =>
          show Except.error fault >>= _ = Except.error fault >>= _
          rw [error_bind, error_bind]
      | ok n =>
          show Except.ok n >>= _ = Except.ok (narrow32 n) >>= _
          rw [ok_bind, ok_bind]

theorem scaleBy_of_error (v : Json) {fault : CallFault} (hw : integerArgument w = .error fault) :
    scaleBy v w = scaleWith v (.error fault) := by
  unfold scaleBy scaleWith withNumber
  refine congrArg (optionalNumber v >>= ·) (funext fun number => ?_)
  cases number with
  | none => rfl
  | some x =>
      dsimp only
      rw [hw, error_bind, error_bind]

/-- So it does between `scale` and the absolute value of the integer. -/
theorem scaleBy_of_ok (v : Json) {n : Int} (hw : integerArgument w = .ok n) :
    scaleBy v w = withNumber v fun x =>
      finiteResult (if 0 ≤ n then x * pow 10.0 (narrow32 n.natAbs)
        else x / pow 10.0 (narrow32 n.natAbs)) := by
  unfold scaleBy withNumber
  refine congrArg (optionalNumber v >>= ·) (funext fun number => ?_)
  cases number with
  | none => rfl
  | some x =>
      dsimp only
      rw [hw, ok_bind]

theorem scaleBy_of_takes (v : Json) {taken : Except CallFault Int}
    (hw : integerArgument w = taken) (h : Takes w taken) : scaleBy v w = scaleWith v taken := by
  cases h with
  | small value least greatest =>
      rename_i n
      have habs : narrow32 n.natAbs = n.natAbs := narrow32_of_small (by omega) (by omega)
      rw [scaleBy_of_ok v hw, habs]
      unfold scaleWith
      refine congrArg (withNumber v) (funext fun x => ?_)
      rw [ok_bind]
      by_cases hsign : 0 ≤ n
      · rw [if_pos hsign, if_pos hsign, Int.natAbs_of_nonneg hsign]
      · have hopposite : (n.natAbs : Int) = -n := by omega
        rw [if_neg hsign, if_neg hsign, hopposite]
  | other others => exact scaleBy_of_error v hw
  | notNumber others => exact scaleBy_of_error v hw

/-! ### Substrings -/

theorem substring_eq (v start : Json) (length : Option Json) :
    substring v start length =
      substringWith v (integerArgument start) (length.map integerArgument) := by
  unfold substring substringWith withText
  cases length with
  | none => rfl
  | some length => rfl

theorem Takes.computesWith (hw : Takes w (integerArgument w)) :
    ComputesWith w (integerArgument w) where
  round v := by
    rw [callFunction_eq_named (by decide)]
    show named .round (roundTo v (some w)) = _
    rw [roundTo_eq, hw.map_narrow32]
  scale v := by
    rw [callFunction_eq_named (by decide)]
    show named .scale (scaleBy v w) = _
    rw [scaleBy_of_takes v rfl hw]
  start v := by
    rw [callFunction_eq_named (by decide)]
    show named .substring (substring v w none) = _
    rw [substring_eq, Option.map_none]
  startBefore v length := by
    rw [callFunction_eq_named (by decide)]
    show named .substring (substring v w (some length)) = _
    rw [substring_eq, Option.map_some]
  length v start := by
    rw [callFunction_eq_named (by decide)]
    show named .substring (substring v start (some w)) = _
    rw [substring_eq, Option.map_some]

end Expression

end ApiGateway
