import ApiGateway.Proofs.Binary64.Sign
import ApiGateway.Proofs.Expression.Scanning
import ApiGateway.Proofs.Json.Integers

/-! # Scanned numbers

A number that is scanned whole is scanned as the same number in front of other text, unless the text
goes on with it (`Scans.number`). Whether the text of a number reads back as this number is left
open here: `ReadsBack` says it of one number, and `readsBack_int` proves it for integers. The
numbers that the scanner finds have no sign (`isNumeral_of_numberOf?`).
-/

set_option autoImplicit false

namespace ApiGateway.Expression

open Json (Number)

/-! ## Numbers -/

/-- The scanner takes the text of the number, alone, as that number. -/
def ReadsBack (n : Number) : Prop :=
  ∃ c cs next, n.text = c :: cs ∧ scanLexeme 0 c cs = .ok (.number n, ⟨next, []⟩)

theorem scanLexeme_digit {c : Char} (h : c.isDigit = true) (offset : Nat) (cs : List Char) :
    scanLexeme offset c cs =
      match numberOf? (spanNumber (c :: cs)).1 (spanNumber (c :: cs)).2.1 with
      | some n => .ok (.number n,
          ⟨offset + Text.byteLength (spanNumber (c :: cs)).1, (spanNumber (c :: cs)).2.2⟩)
      | none => .error ⟨offset, .invalidNumber (String.ofList (spanNumber (c :: cs)).1)⟩ := by
  rw [scanLexeme_word (.inl h)]
  exact if_pos h

theorem spanDigits_append (cs : List Char) {rest : List Char}
    (h : ∀ c, rest.head? = some c → c.isDigit = false) :
    Decimal.spanDigits (cs ++ rest) =
      ((Decimal.spanDigits cs).1, (Decimal.spanDigits cs).2 ++ rest) := by
  induction cs with
  | nil =>
      have hnone : ∀ c ∈ ([] : List Char), c.isDigit = true := nofun
      obtain ⟨htake, hdrop⟩ := Text.takeWhile_append_of_stop hnone h
      exact Prod.ext htake hdrop
  | cons c cs ih =>
      simp only [Decimal.spanDigits, Prod.mk.injEq, List.cons_append, List.takeWhile_cons,
        List.dropWhile_cons] at ih ⊢
      split
      · exact ⟨congrArg (c :: ·) ih.1, ih.2⟩
      · exact ⟨rfl, rfl⟩

theorem isDigit_eq_false_of_continuesName {c : Char} (h : continuesName c = false) :
    c.isDigit = false := by
  cases hdigit : c.isDigit with
  | false => rfl
  | true => simp [continuesName, Text.isAlphanumeric, Text.isNumeric_of_isDigit hdigit] at h

variable {rest : List Char}

theorem EndsWord.head_isDigit (h : EndsWord rest) (c : Char) (hc : rest.head? = some c) :
    c.isDigit = false :=
  isDigit_eq_false_of_continuesName (h.1 c hc)

theorem spanFraction_point (d : Char) (cs : List Char) :
    spanFraction ('.' :: d :: cs) =
      if d.isDigit then ('.' :: (Decimal.spanDigits (d :: cs)).1, (Decimal.spanDigits (d :: cs)).2)
      else ([], '.' :: d :: cs) := rfl

theorem spanFraction_of_ne {c : Char} (h : c ≠ '.') (cs : List Char) :
    spanFraction (c :: cs) = ([], c :: cs) := by
  unfold spanFraction
  split
  · rename_i heq
    exact absurd (List.cons.inj heq).1 h
  · rfl

theorem EndsWord.spanFraction (h : EndsWord rest) (cs : List Char) :
    spanFraction (cs ++ rest) =
      ((Expression.spanFraction cs).1, (Expression.spanFraction cs).2 ++ rest) := by
  match cs with
  | [] =>
      show Expression.spanFraction rest = ([], rest)
      unfold Expression.spanFraction
      split
      · rw [if_neg (by simp [h.2 _ _ rfl])]
      · rfl
  | [c] =>
      by_cases hc : c = '.'
      · subst hc
        cases rest with
        | nil => rfl
        | cons d rest => exact if_neg (by simp [h.head_isDigit d rfl])
      · rw [List.cons_append, spanFraction_of_ne hc, spanFraction_of_ne hc]
        rfl
  | c :: d :: cs =>
      by_cases hc : c = '.'
      · subst hc
        have hdigits := spanDigits_append (d :: cs) h.head_isDigit
        rw [List.cons_append] at hdigits
        rw [List.cons_append, List.cons_append, spanFraction_point, spanFraction_point, hdigits]
        split <;> rfl
      · rw [List.cons_append, spanFraction_of_ne hc, spanFraction_of_ne hc]
        rfl

theorem spanExponent_mark {e : Char} (he : e = 'e' ∨ e = 'E') (cs : List Char) :
    spanExponent (e :: cs) =
      if (Decimal.spanDigits (spanSign cs).2).1.isEmpty then ([], e :: cs)
      else (e :: ((spanSign cs).1 ++ (Decimal.spanDigits (spanSign cs).2).1),
        (Decimal.spanDigits (spanSign cs).2).2) :=
  if_pos he

theorem spanExponent_of_ne {e : Char} (he : ¬(e = 'e' ∨ e = 'E')) (cs : List Char) :
    spanExponent (e :: cs) = ([], e :: cs) :=
  if_neg he

theorem spanSign_append {cs : List Char} (h : cs ≠ []) (rest : List Char) :
    spanSign (cs ++ rest) = ((spanSign cs).1, (spanSign cs).2 ++ rest) := by
  obtain ⟨c, cs, rfl⟩ := List.exists_cons_of_ne_nil h
  by_cases hplus : c = '+'
  · subst hplus
    rfl
  by_cases hminus : c = '-'
  · subst hminus
    rfl
  have hsign : ∀ ds : List Char, spanSign (c :: ds) = ([], c :: ds) := fun ds => by
    unfold spanSign
    split
    · rename_i heq
      exact absurd (List.cons.inj heq).1 hplus
    · rename_i heq
      exact absurd (List.cons.inj heq).1 hminus
    · rfl
  rw [List.cons_append, hsign, hsign]
  rfl

/-- An exponent that ends the text is the same exponent in front of more text. -/
theorem EndsWord.spanExponent (h : EndsWord rest) {cs : List Char}
    (hcs : (Expression.spanExponent cs).2 = []) :
    spanExponent (cs ++ rest) = ((Expression.spanExponent cs).1, rest) := by
  cases cs with
  | nil =>
      show Expression.spanExponent rest = ([], rest)
      cases rest with
      | nil => rfl
      | cons e rest =>
          refine spanExponent_of_ne ?_ rest
          have hword := h.1 e rfl
          rintro (rfl | rfl) <;> revert hword <;> decide
  | cons e cs =>
      by_cases he : e = 'e' ∨ e = 'E'
      · rw [spanExponent_mark he] at hcs
        rw [List.cons_append, spanExponent_mark he, spanExponent_mark he]
        split at hcs
        · cases hcs
        · rename_i hsome
          have hne : cs ≠ [] := by
            rintro rfl
            exact hsome rfl
          rw [spanSign_append hne, spanDigits_append _ h.head_isDigit, if_neg hsome, if_neg hsome]
          dsimp only at hcs ⊢
          rw [hcs]
          rfl
      · rw [spanExponent_of_ne he] at hcs
        cases hcs

/-- A number that ends the text is the same number in front of more text. -/
theorem EndsWord.spanNumber (h : EndsWord rest) {cs : List Char}
    (hcs : (Expression.spanNumber cs).2.2 = []) :
    spanNumber (cs ++ rest) =
      ((Expression.spanNumber cs).1, (Expression.spanNumber cs).2.1, rest) := by
  have hexponent : (Expression.spanExponent
      (Expression.spanFraction (Decimal.spanDigits cs).2).2).2 = [] := hcs
  simp only [Expression.spanNumber]
  rw [spanDigits_append cs h.head_isDigit]
  dsimp only
  rw [h.spanFraction]
  dsimp only
  rw [h.spanExponent hexponent]

/-! ## What the scanner finds -/

/-- A mark or a string, a number that begins with a digit, or a name. -/
theorem scanLexeme_cases {offset : Nat} {c : Char} {cs : List Char} {l : Lexeme} {cursor : Cursor}
    (h : scanLexeme offset c cs = .ok (l, cursor)) :
    (∃ m, l = .mark m) ∨ (∃ text, l = .text text) ∨
      (c.isDigit = true ∧ (∃ n, l = .number n ∧
        numberOf? (spanNumber (c :: cs)).1 (spanNumber (c :: cs)).2.1 = some n) ∧
        cursor.rest = (spanNumber (c :: cs)).2.2) ∨
      (startsName c = true ∧ l = .name (String.ofList (c :: cs.takeWhile continuesName))) := by
  by_cases hword : c.isDigit = true ∨ startsName c = true
  · rw [scanLexeme_word hword] at h
    split at h
    · rename_i hdigit
      split at h
      · rename_i n hn
        cases h
        exact .inr (.inr (.inl ⟨hdigit, ⟨n, rfl, hn⟩, rfl⟩))
      · cases h
    · split at h
      · rename_i hname
        cases h
        exact .inr (.inr (.inr ⟨hname, rfl⟩))
      · cases h
  · rw [not_or] at hword
    unfold scanLexeme at h
    dsimp only at h
    split at h
    · cases h
      exact .inl ⟨_, rfl⟩
    split at h
    · cases h
    split at h
    · cases h
      exact .inl ⟨_, rfl⟩
    split at h
    · cases h
    split at h
    · cases hs : scanString c offset .plain [] (offset + c.utf8Size) cs with
      | error e =>
          rw [hs] at h
          cases h
      | ok read =>
          rw [hs] at h
          cases h
          exact .inr (.inl ⟨read.1, rfl⟩)
    · rw [if_neg hword.1, if_neg hword.2] at h
      cases h

/-- A number whose text reads back is split off unless the text behind it goes on with a number. -/
theorem Scans.number {n : Number} (h : ReadsBack n) (hrest : EndsWord rest) :
    Scans n.text [.number n] rest := by
  obtain ⟨c, cs, next, htext, hscan⟩ := h
  obtain ⟨_, hm⟩ | ⟨_, hm⟩ | ⟨hdigit, ⟨m, hm, hnumber⟩, hend⟩ | ⟨_, hm⟩ := scanLexeme_cases hscan
  · cases hm
  · cases hm
  · cases hm
    rw [htext]
    refine .lexeme (Text.isBlank_eq_false_of_isDigit hdigit) fun offset =>
      ⟨offset + Text.byteLength (spanNumber (c :: cs)).1, ?_⟩
    have hspan := hrest.spanNumber hend.symm
    rw [List.cons_append] at hspan
    rw [scanLexeme_digit hdigit, hspan]
    dsimp only
    rw [hnumber]
  · cases hm

/-! ## Numbers without a sign -/

theorem isUnsigned_of_readFloat? {c : Char} {cs : List Char} {x : Float} (hc : c.isDigit = true)
    (h : Decimal.readFloat? (c :: cs) = some x) : Binary64.IsUnsigned x := by
  have hzero := Binary64.isUnsigned_ofScientific 0 true 1
  unfold Decimal.readFloat? at h
  rw [Decimal.takeSign_digit hc] at h
  dsimp only at h
  split at h
  · cases h
    exact (Binary64.isUnsigned_ofScientific 10 true 1).div hzero
  split at h
  · cases h
    exact hzero.div hzero
  · obtain ⟨numeral, _, rfl⟩ := Option.map_eq_some_iff.1 h
    exact Binary64.isUnsigned_nearest _ _

/-- The number that digits write is finite and has no sign. -/
theorem isNumeral_of_numberOf? {c : Char} {cs : List Char} {decimal : Bool} {n : Number}
    (hc : c.isDigit = true) (h : numberOf? (c :: cs) decimal = some n) : IsNumeral n := by
  unfold numberOf? at h
  split at h
  · rename_i m hm
    cases h
    split at hm
    · cases hm
    · obtain ⟨hread, hrange⟩ := Option.filter_eq_some_iff.1 hm
      have hpos : 0 ≤ m := by
        unfold Decimal.readInt? at hread
        rw [Decimal.takeSign_digit hc] at hread
        dsimp only at hread
        split at hread
        · cases hread
        · cases hread
          exact Int.natCast_nonneg _
      simp only [Bool.and_eq_true, decide_eq_true_eq] at hrange
      exact ⟨hpos, hrange.1, Int.le_trans hrange.2 (by decide)⟩
  · obtain ⟨x, hx, hfinite⟩ := Option.bind_eq_some_iff.1 h
    split at hfinite
    · rename_i hfin
      cases hfinite
      have hsign := isUnsigned_of_readFloat? hc hx
      unfold Binary64.isFinite at hfin
      split at hfin
      · rename_i d hd
        exact ⟨d, hd, hsign.negative_eq_false hd⟩
      · cases hfin
    · cases hfinite

/-- A number without a sign, or an identifier, if it is one of the two. -/
def Lexeme.Proper : Lexeme → Prop
  | .number n => IsNumeral n
  | .name s => IsIdentifier s
  | _ => True

theorem proper_of_scanLexeme {offset : Nat} {c : Char} {cs : List Char} {l : Lexeme}
    {cursor : Cursor} (h : scanLexeme offset c cs = .ok (l, cursor)) : l.Proper := by
  obtain ⟨_, rfl⟩ | ⟨_, rfl⟩ | ⟨hdigit, ⟨n, rfl, hn⟩, _⟩ | ⟨hname, rfl⟩ := scanLexeme_cases h
  · trivial
  · trivial
  · have hfront : ∃ ds, (spanNumber (c :: cs)).1 = c :: ds := by
      simp [spanNumber, Decimal.spanDigits, hdigit]
    obtain ⟨ds, hds⟩ := hfront
    rw [hds] at hn
    exact isNumeral_of_numberOf? hdigit hn
  · refine ⟨c, cs.takeWhile continuesName, String.toList_ofList, hname, ?_⟩
    exact List.all_takeWhile

/-- All tokens of a text are proper. -/
theorem proper_of_scanFrom {offset : Nat} {cs : List Char} {tokens : List Token}
    (h : scanFrom offset cs = .ok tokens) : ∀ token ∈ tokens, token.lexeme.Proper := by
  fun_induction scanFrom offset cs generalizing tokens with
  | case1 offset =>
      cases h
      simp [Lexeme.Proper]
  | case2 offset c cs hblank ih => exact ih h
  | case3 offset c cs hblank fault hfault => cases h
  | case4 offset c cs hblank l cursor hl hle ih =>
      cases hrest : scanFrom cursor.offset cursor.rest with
      | error fault =>
          rw [hrest] at h
          cases h
      | ok rest =>
          rw [hrest] at h
          cases h
          rintro token (_ | ⟨_, hmem⟩)
          · exact proper_of_scanLexeme hl
          · exact ih hrest token hmem

/-! ## Integers -/

/-- Digits write the integer that they spell, as long as 64 bits with a sign hold it. -/
theorem numberOf?_digits {c : Char} {cs : List Char} (h : ∀ d ∈ c :: cs, d.isDigit = true)
    (hmax : (Decimal.ofDigits (c :: cs) : Int) ≤ Binary64.maxInt64) :
    numberOf? (c :: cs) false = some (.int (Decimal.ofDigits (c :: cs))) := by
  rw [numberOf?, if_neg Bool.false_ne_true, Decimal.readInt64?_digits h hmax]

/-- A span of digits is scanned as an integer, zeros in front included. -/
theorem scanLexeme_digits {c : Char} {cs : List Char} (h : ∀ d ∈ c :: cs, d.isDigit = true)
    (hmax : (Decimal.ofDigits (c :: cs) : Int) ≤ Binary64.maxInt64) (hrest : EndsWord rest)
    (offset : Nat) :
    scanLexeme offset c (cs ++ rest) = .ok (.number (.int (Decimal.ofDigits (c :: cs))),
      ⟨offset + Text.byteLength (c :: cs), rest⟩) := by
  have halone : spanNumber (c :: cs) = (c :: cs, false, []) := by
    have hdigits : Decimal.spanDigits (c :: cs) = (c :: cs, []) := by
      have hnone : ∀ d, ([] : List Char).head? = some d → d.isDigit = false := nofun
      obtain ⟨htake, hdrop⟩ := Text.takeWhile_append_of_stop h hnone
      rw [List.append_nil] at htake hdrop
      exact Prod.ext htake hdrop
    rw [spanNumber, hdigits]
    simp [spanFraction, spanExponent]
  have hwhole : (spanNumber (c :: cs)).2.2 = [] := by rw [halone]
  have hspan := hrest.spanNumber hwhole
  rw [halone, List.cons_append] at hspan
  rw [scanLexeme_digit (h c List.mem_cons_self), hspan]
  dsimp only
  rw [numberOf?_digits h hmax]

theorem Scans.digits {cs : List Char} (hne : cs ≠ []) (h : ∀ d ∈ cs, d.isDigit = true)
    (hmax : (Decimal.ofDigits cs : Int) ≤ Binary64.maxInt64) (hrest : EndsWord rest) :
    Scans cs [.number (.int (Decimal.ofDigits cs))] rest := by
  obtain ⟨c, cs, rfl⟩ := List.exists_cons_of_ne_nil hne
  exact .lexeme (Text.isBlank_eq_false_of_isDigit (h c List.mem_cons_self)) fun offset =>
    ⟨_, scanLexeme_digits h hmax hrest offset⟩

/-- A natural number that a signed 64-bit integer holds reads back. -/
theorem readsBack_int {n : Int} (hpos : 0 ≤ n) (hmax : n ≤ Binary64.maxInt64) :
    ReadsBack (.int n) := by
  obtain ⟨c, cs, hdigits, _, _⟩ := Decimal.digitsOf_eq_cons n.natAbs
  have htext : (Number.int n).text = c :: cs := by
    rw [Number.text, Decimal.intText, if_neg (Int.not_lt.2 hpos), hdigits]
  have hvalue : (Decimal.ofDigits (c :: cs) : Int) = n := by
    rw [← hdigits, Decimal.ofDigits_digitsOf, Int.natAbs_of_nonneg hpos]
  have hall : ∀ d ∈ c :: cs, d.isDigit = true := fun d hd =>
    Decimal.isDigit_of_mem_digitsOf (hdigits ▸ hd)
  have hend : EndsWord [] := ⟨nofun, nofun⟩
  have hscan := scanLexeme_digits hall (hvalue ▸ hmax) hend 0
  rw [hvalue, List.append_nil] at hscan
  exact ⟨c, cs, _, htext, hscan⟩

end ApiGateway.Expression
