import ApiGateway.Proofs.Expression.SmallIntegers

/-! # Substrings

`substring` counts characters. Up to position 308, and for up to 308 of them, it gives the
characters that stand there, as many as the text has; farther on it gives an error, however long the
text is: `substring_within_limit`.
-/

set_option autoImplicit false

namespace ApiGateway.Expression

open Json (Number)
open Binary64

variable {x y : Number} {start length : ℕ}

/-! ## Natural numbers as arguments -/

/-- Natural numbers are not low. -/
theorem not_isLow_of_natural (hx : x.value? = some (start : ℚ)) : ¬IsLow (.num x) := by
  rintro ⟨hvalue, hlow⟩
  rw [hx, Option.some.injEq] at hvalue
  rw [← hvalue] at hlow
  have hneg : (minInt64 : ℚ) < 0 := by
    unfold minInt64
    norm_num
  exact absurd (hlow.trans_lt hneg) (not_lt.2 (Nat.cast_nonneg start))

theorem integerArgument_of_natural (hx : x.value? = some (start : ℚ)) :
    integerArgument (.num x) =
      if start ≤ 308 then .ok (start : Int) else .error (.notSmallInteger x) := by
  have htakes := takes_integerArgument (not_isLow_of_natural hx)
  have hint : x.value? = some ((start : ℤ) : ℚ) := by rw [hx, Int.cast_natCast]
  generalize integerArgument (.num x) = taken at htakes
  cases htakes with
  | small value least greatest =>
      rename_i n
      rw [hint, Option.some.injEq, Int.cast_inj] at value
      rw [if_pos (by omega), value]
  | other others =>
      have hlarge := others start hint
      rw [if_neg (by omega)]
  | notNumber others => exact absurd rfl (others x)

/-! ## Characters -/

theorem substringWith_start (s : String) (start : ℕ) :
    substringWith (.str s) (.ok start) none =
      .ok (.str (String.ofList (s.toList.drop start))) := rfl

theorem substringWith_start_length (s : String) (start length : ℕ) :
    substringWith (.str s) (.ok start) (some (.ok length)) =
      .ok (.str (String.ofList ((s.toList.drop start).take length))) := rfl

/-- **What a substring holds.** For a position and a number of characters up to 308, exactly the
characters at these positions; beyond, nothing but an error. -/
theorem substring_within_limit (s : String) (hx : x.value? = some (start : ℚ))
    (hy : y.value? = some (length : ℚ)) :
    (start ≤ 308 → ∃ t, callFunction .substring [.str s, .num x] = .ok (.str t) ∧
        ∀ i, t.toList[i]? = s.toList[start + i]?) ∧
      (start ≤ 308 → length ≤ 308 →
        ∃ t, callFunction .substring [.str s, .num x, .num y] = .ok (.str t) ∧
          ∀ i, t.toList[i]? = if i < length then s.toList[start + i]? else none) ∧
      (308 < start →
        callFunction .substring [.str s, .num x] =
            .error (.call .substring (.notSmallInteger x)) ∧
          callFunction .substring [.str s, .num x, .num y] =
            .error (.call .substring (.notSmallInteger x))) ∧
      (start ≤ 308 → 308 < length →
        callFunction .substring [.str s, .num x, .num y] =
          .error (.call .substring (.notSmallInteger y))) := by
  have hcalls := (takes_integerArgument (not_isLow_of_natural hx)).computesWith
  have hplain := hcalls.start (.str s)
  have hcounted := hcalls.startBefore (.str s) (.num y)
  rw [integerArgument_of_natural hx] at hplain hcounted
  rw [integerArgument_of_natural hy] at hcounted
  rw [hplain, hcounted]
  refine ⟨fun hstart => ?_, fun hstart hlength => ?_, fun hstart => ?_, fun hstart hlength => ?_⟩
  · rw [if_pos hstart, substringWith_start]
    refine ⟨_, rfl, fun i => ?_⟩
    rw [String.toList_ofList, List.getElem?_drop]
  · rw [if_pos hstart, if_pos hlength, substringWith_start_length]
    refine ⟨_, rfl, fun i => ?_⟩
    rw [String.toList_ofList, List.getElem?_take, List.getElem?_drop]
  · rw [if_neg (Nat.not_le.2 hstart)]
    exact ⟨rfl, rfl⟩
  · rw [if_pos hstart, if_neg (Nat.not_le.2 hlength)]
    rfl

/-! ### A short text, and a long one -/

theorem substring_within_limit_accents :
    Number.value? (.int 1) = some ((1 : ℕ) : ℚ) ∧
      Number.value? (.float 3.0) = some ((3 : ℕ) : ℚ) ∧
      ∃ t, callFunction .substring [.str "héllo", .int 1, .num (.float 3.0)] = .ok (.str t) ∧
        t = "éll" := by
  have hone : Number.value? (.int 1) = some ((1 : ℕ) : ℚ) := rfl
  have hthree : Number.value? (.float 3.0) = some ((3 : ℕ) : ℚ) := by decide +kernel
  obtain ⟨t, hcall, -⟩ := (substring_within_limit "héllo" hone hthree).2.1 (by decide) (by decide)
  have hvalue : callFunction .substring [.str "héllo", .int 1, .num (.float 3.0)] =
      .ok (.str "éll") := by decide +kernel
  exact ⟨hone, hthree, t, hcall, Json.str.inj (Except.ok.inj (hcall.symm.trans hvalue))⟩

/-- A text with characters beyond position 308. -/
def longText : String := String.ofList (List.replicate 313 'a')

/-- They cannot be asked for. -/
theorem substring_fails_longText :
    (∀ i < 4, longText.toList[309 + i]? = some 'a') ∧
      callFunction .substring [.str longText, .int 309, .int 4] =
        .error (.call .substring (.notSmallInteger (.int 309))) := by
  refine ⟨fun i hi => ?_, rfl⟩
  unfold longText
  rw [String.toList_ofList, List.getElem?_replicate, if_pos (by omega)]

end ApiGateway.Expression
