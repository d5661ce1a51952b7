import ApiGateway.Decimal.Text
import ApiGateway.Proofs.Json.Reading

/-! # Integers in decimal

The digits of a number are the digits of that number alone, with no zero in front. Digits without a
sign are read as the integer that they spell (`readInt64?_digits`), and the text of an integer, with
its sign, as this integer (`readInt?_intText`).

The decimal text of an integer that 64 bits hold is the token of this integer
(`Number.readable_int`), so that trees without floats are readable.
-/

set_option autoImplicit false

namespace ApiGateway.Decimal

/-! ## Digits -/

theorem isDigit_of_mem_digitsOf {n : Nat} {c : Char} (h : c ∈ digitsOf n) :
    c.isDigit = true :=
  Nat.isDigit_of_mem_toDigits (by decide) (by decide) h

theorem ofDigits_digitsOf (n : Nat) : ofDigits (digitsOf n) = n :=
  Nat.ofDigitChars_ten_toDigits

/-- Only zero begins with the digit zero. -/
theorem head?_digitsOf_ne_zero {n : Nat} (h : n ≠ 0) : (digitsOf n).head? ≠ some '0' := by
  induction n using Nat.strongRecOn with
  | ind n ih =>
      unfold digitsOf
      rw [Nat.toDigits_eq_if (by decide)]
      split
      · rename_i hlt
        have hall : ∀ n < 10, n ≠ 0 → [Nat.digitChar n].head? ≠ some '0' := by decide
        exact hall n hlt h
      · rename_i hge
        have hhead := ih (n / 10) (by omega) (by omega)
        unfold digitsOf at hhead
        obtain ⟨c, cs, hcons⟩ :=
          List.exists_cons_of_ne_nil (Nat.toDigits_ne_nil : Nat.toDigits 10 (n / 10) ≠ [])
        rw [hcons] at hhead ⊢
        exact hhead

theorem digitsOf_eq_cons (n : Nat) :
    ∃ c cs, digitsOf n = c :: cs ∧ c.isDigit = true ∧ (c = '0' → cs = []) := by
  have hne : digitsOf n ≠ [] := Nat.toDigits_ne_nil
  obtain ⟨c, cs, hcons⟩ := List.exists_cons_of_ne_nil hne
  refine ⟨c, cs, hcons, isDigit_of_mem_digitsOf (hcons ▸ List.mem_cons_self), ?_⟩
  rintro rfl
  by_cases hn : n = 0
  · subst hn
    exact (List.cons.inj hcons).2.symm
  · have hhead := head?_digitsOf_ne_zero hn
    rw [hcons] at hhead
    exact absurd rfl hhead

/-! ## Digits without a sign -/

theorem takeSign_digit {c : Char} (h : c.isDigit = true) (cs : List Char) :
    takeSign (c :: cs) = (false, c :: cs) := by
  unfold takeSign
  split
  · rename_i heq
    cases heq
    exact absurd h (by decide)
  · rename_i heq
    cases heq
    exact absurd h (by decide)
  · rfl

/-- Digits are read as the integer that they spell, as long as 64 bits with a sign hold it. -/
theorem readInt64?_digits {c : Char} {cs : List Char} (h : ∀ d ∈ c :: cs, d.isDigit = true)
    (hmax : (ofDigits (c :: cs) : Int) ≤ Binary64.maxInt64) :
    readInt64? (c :: cs) = some (ofDigits (c :: cs) : Int) := by
  have hmin : Binary64.minInt64 ≤ (ofDigits (c :: cs) : Int) :=
    Int.le_trans (by decide) (Int.natCast_nonneg _)
  unfold readInt64? readInt?
  rw [takeSign_digit (h c List.mem_cons_self)]
  dsimp only
  rw [if_neg (by simpa using List.forall_mem_cons.1 h)]
  exact Option.filter_eq_some_iff.2 ⟨rfl, by simp [hmin, hmax]⟩

/-! ## The text of an integer -/

theorem takeSign_intText (n : Int) :
    takeSign (intText n) = (decide (n < 0), digitsOf n.natAbs) := by
  unfold intText
  split
  · rename_i hneg
    rw [decide_eq_true hneg]
    rfl
  · rename_i hpos
    obtain ⟨c, cs, hcons, hdigit, -⟩ := digitsOf_eq_cons n.natAbs
    rw [decide_eq_false hpos, hcons]
    exact takeSign_digit hdigit cs

/-- The text of an integer spells this integer. -/
theorem readInt?_intText (n : Int) : readInt? (intText n) = some n := by
  have hall : (digitsOf n.natAbs).all Char.isDigit = true :=
    List.all_eq_true.2 fun _ => isDigit_of_mem_digitsOf
  have hdigits : ¬((digitsOf n.natAbs).isEmpty || !(digitsOf n.natAbs).all Char.isDigit) := by
    rw [hall, Bool.not_true, Bool.or_false, List.isEmpty_iff]
    exact Nat.toDigits_ne_nil
  unfold readInt?
  rw [takeSign_intText]
  dsimp only
  rw [if_neg hdigits, ofDigits_digitsOf]
  congr 1
  split
  · rename_i hneg
    have := of_decide_eq_true hneg
    omega
  · rename_i hpos
    have := of_decide_eq_false (Bool.eq_false_iff.2 hpos)
    omega

/-- The digits of a number are the text of an integer that is not negative. -/
theorem readInt64?_digitsOf {n : Nat} (h : (n : Int) ≤ Binary64.maxInt64) :
    readInt64? (digitsOf n) = some (n : Int) := by
  have htext : intText n = digitsOf n := if_neg (Int.not_lt.2 (Int.natCast_nonneg n))
  have hmin : Binary64.minInt64 ≤ (n : Int) := Int.le_trans (by decide) (Int.natCast_nonneg n)
  unfold readInt64?
  rw [← htext, readInt?_intText]
  exact Option.filter_eq_some_iff.2 ⟨rfl, by simp [hmin, h]⟩

end ApiGateway.Decimal

namespace ApiGateway.Json

/-! ## Numerals -/

variable {rest : List Char}

theorem spanDigits_digitsOf (n : Nat) (h : EndsValue rest) :
    Decimal.spanDigits (Decimal.digitsOf n ++ rest) = (Decimal.digitsOf n, rest) := by
  have hall : ∀ c ∈ Decimal.digitsOf n, c.isDigit = true := fun c hc => Decimal.isDigit_of_mem_digitsOf hc
  unfold Decimal.spanDigits
  rw [List.takeWhile_append_of_pos hall, List.dropWhile_append_of_pos hall]
  cases rest with
  | nil => simp
  | cons c rest =>
      have hc : c.isDigit = false := by rcases h c rfl with rfl | rfl | rfl <;> rfl
      simp [hc]

theorem scanFraction?_of_endsValue (h : EndsValue rest) :
    scanFraction? rest = some (none, rest) := by
  unfold scanFraction?
  split
  · rename_i heq
    have hdot := h '.' rfl
    simp at hdot
  · rfl

theorem scanExponent?_of_endsValue (h : EndsValue rest) :
    scanExponent? rest = some (none, rest) := by
  cases rest with
  | nil => rfl
  | cons c rest =>
      have hmark : ¬(c = 'e' ∨ c = 'E') := by rcases h c rfl with rfl | rfl | rfl <;> decide
      exact if_neg hmark

/-- A numeral with its sign is scanned as one number. -/
theorem scanNumber_of_takeMinus {cs : List Char} {negative : Bool} {n : Nat} (h : EndsValue rest)
    (hcs : takeMinus cs = (negative, Decimal.digitsOf n ++ rest)) :
    scanNumber cs = some (integerNumber? negative n, rest) := by
  obtain ⟨c, digits, hcons, _, hzero⟩ := Decimal.digitsOf_eq_cons n
  have hwhole : ((Decimal.digitsOf n).isEmpty ||
      ((Decimal.digitsOf n).head? == some '0' && decide ((Decimal.digitsOf n).length > 1))) =
      false := by
    rw [hcons]
    by_cases hc : c = '0'
    · rw [hzero hc]
      simp
    · simp [hc]
  unfold scanNumber
  rw [hcs]
  dsimp only
  rw [spanDigits_digitsOf n h]
  dsimp only
  rw [hwhole, if_neg Bool.false_ne_true, scanFraction?_of_endsValue h]
  show (scanExponent? rest >>= _) = _
  rw [scanExponent?_of_endsValue h]
  show some (integerNumber? negative (Decimal.ofDigits (Decimal.digitsOf n)), rest) = _
  rw [Decimal.ofDigits_digitsOf]

/-- A digit begins a number. -/
theorem scanToken_digit {c : Char} (h : c.isDigit = true) (cs : List Char) :
    scanToken c cs = (scanNumber (c :: cs)).map fun (n, rest) => (n.elim .vast .num, rest) := by
  unfold scanToken
  split
  case h_11 => cases scanNumber (c :: cs) <;> rfl
  all_goals cases h

/-- An integer that 64 bits hold reads back. -/
theorem Number.readable_int {n : Int} (h : (Number.int n).InRange) : (Number.int n).Readable := by
  intro rest hrest
  obtain ⟨hmin, hmax⟩ := h
  unfold Binary64.minInt64 at hmin
  unfold Binary64.maxUInt64 at hmax
  unfold Token.Reads
  show lex (Decimal.intText n ++ rest) = _
  unfold Decimal.intText
  -- behind a minus sign the digits are those of the magnitude
  by_cases hneg : n < 0
  · have hnumber : integerNumber? true n.natAbs = some (.int n) := by
      unfold integerNumber?
      rw [if_neg (by simp), if_pos (by simp; omega)]
      exact congrArg (fun i => some (Number.int i)) (by omega)
    have hscan : scanNumber ('-' :: (Decimal.digitsOf n.natAbs ++ rest)) =
        some (some (.int n), rest) := by
      rw [scanNumber_of_takeMinus hrest rfl, hnumber]
    rw [if_pos hneg]
    refine lex_cons rfl ?_
    show (scanNumber ('-' :: (Decimal.digitsOf n.natAbs ++ rest)) >>= _) = _
    rw [hscan]
    rfl
  · have hnumber : integerNumber? false n.natAbs = some (.int n) := by
      unfold integerNumber?
      rw [if_pos (by simp; omega)]
      exact congrArg (fun i => some (Number.int i)) (by omega)
    obtain ⟨c, cs, hcons, hdigit, _⟩ := Decimal.digitsOf_eq_cons n.natAbs
    have hspace : isSpace c = false := by
      cases hc : isSpace c with
      | false => rfl
      | true =>
          have hsame : ∀ d : Char, (c == d) = true → d.isDigit = true :=
            fun d hd => eq_of_beq hd ▸ hdigit
          simp only [isSpace, Bool.or_eq_true] at hc
          rcases hc with ((hc | hc) | hc) | hc <;> cases hsame _ hc
    have hminus : takeMinus (c :: (cs ++ rest)) = (false, Decimal.digitsOf n.natAbs ++ rest) := by
      rw [hcons]
      unfold takeMinus
      split
      · rename_i heq
        cases heq
        cases hdigit
      · rfl
    rw [if_neg hneg, hcons, List.cons_append]
    refine lex_cons hspace ?_
    rw [scanToken_digit hdigit, scanNumber_of_takeMinus hrest hminus, hnumber]
    rfl

end ApiGateway.Json
