import ApiGateway.Json.Printer

/-! # The characters of JSON text

Numbers are written with the characters of `Decimal.isNumeral`. Compact JSON text has no control
characters: strings escape them, and numbers and punctuation have none. In particular it stands on
one line, and it begins with the opening character of its value.
-/

set_option autoImplicit false

namespace ApiGateway

/-- None of the characters is a control character of ASCII. -/
def Text.NoControl (cs : List Char) : Prop := ∀ c ∈ cs, 32 ≤ c.toNat

instance (cs : List Char) : Decidable (Text.NoControl cs) :=
  List.decidableBAll (fun c : Char => 32 ≤ c.toNat) cs

namespace Text

theorem noControl_append {as bs : List Char} :
    NoControl (as ++ bs) ↔ NoControl as ∧ NoControl bs :=
  List.forall_mem_append

theorem noControl_cons {c : Char} {cs : List Char} :
    NoControl (c :: cs) ↔ 32 ≤ c.toNat ∧ NoControl cs :=
  List.forall_mem_cons

theorem NoControl.not_mem {cs : List Char} (h : NoControl cs) {c : Char} (hc : c.toNat < 32) :
    c ∉ cs :=
  fun hmem => absurd (h c hmem) (Nat.not_le.2 hc)

end Text

open Text

namespace Decimal

/-- The characters of decimal text: digits, signs, the point and the mark of an exponent. -/
def isNumeral (c : Char) : Bool := c.isDigit || c == '-' || c == '+' || c == '.' || c == 'e'

/-- All characters are characters of decimal text. -/
def IsNumeric (cs : List Char) : Prop := ∀ c ∈ cs, isNumeral c = true

instance (cs : List Char) : Decidable (IsNumeric cs) :=
  decidable_of_iff (cs.all isNumeral = true) List.all_eq_true

theorem IsNumeric.noControl {cs : List Char} (h : IsNumeric cs) : NoControl cs := by
  intro c hc
  have hnumeral := h c hc
  simp only [isNumeral, Bool.or_eq_true, beq_iff_eq] at hnumeral
  rcases hnumeral with (((hdigit | rfl) | rfl) | rfl) | rfl
  · have hlow : '0'.toNat ≤ c.toNat := (Char.isDigit_iff_toNat.1 hdigit).1
    exact Nat.le_trans (by decide) hlow
  · decide
  · decide
  · decide
  · decide

theorem isNumeric_append {as bs : List Char} :
    IsNumeric (as ++ bs) ↔ IsNumeric as ∧ IsNumeric bs :=
  List.forall_mem_append

theorem isNumeric_cons {c : Char} {cs : List Char} :
    IsNumeric (c :: cs) ↔ isNumeral c = true ∧ IsNumeric cs :=
  List.forall_mem_cons

theorem isNumeric_digitsOf (n : Nat) : IsNumeric (digitsOf n) := by
  intro c hc
  have hdigit : c.isDigit = true := Nat.isDigit_of_mem_toDigits (by decide) (by decide) hc
  unfold isNumeral
  rw [hdigit]
  rfl

theorem isNumeric_intText (n : Int) : IsNumeric (intText n) := by
  unfold intText
  split
  · exact isNumeric_cons.2 ⟨rfl, isNumeric_digitsOf _⟩
  · exact isNumeric_digitsOf _

theorem isNumeric_text (format : FloatFormat) (d : Digits) : IsNumeric (d.text format) := by
  have hdigits := isNumeric_digitsOf d.digits
  have hzeros : ∀ n, IsNumeric (List.replicate n '0') := by
    intro n c hc
    rw [List.eq_of_mem_replicate hc]
    rfl
  have htake : ∀ n, IsNumeric ((digitsOf d.digits).take n) :=
    fun n c hc => hdigits c (List.mem_of_mem_take hc)
  have hdrop : ∀ n, IsNumeric ((digitsOf d.digits).drop n) :=
    fun n c hc => hdigits c (List.mem_of_mem_drop hc)
  unfold Digits.text
  dsimp only
  split
  · split
    · rw [isNumeric_append, isNumeric_append]
      exact ⟨⟨by decide, hzeros _⟩, hdigits⟩
    · split
      · rw [isNumeric_append, isNumeric_append]
        exact ⟨⟨hdigits, hzeros _⟩, by decide⟩
      · rw [isNumeric_append, isNumeric_cons]
        exact ⟨htake _, rfl, hdrop _⟩
  · rw [isNumeric_append, isNumeric_append, isNumeric_cons, isNumeric_cons]
    refine ⟨⟨htake 1, ?_⟩, rfl, ?_, isNumeric_digitsOf _⟩
    · split
      · exact fun c hc => nomatch hc
      · exact isNumeric_cons.2 ⟨rfl, hdrop 1⟩
    · split <;> rfl

/-- Only infinities and the like are written with letters. -/
theorem isNumeric_floatText (format : FloatFormat) {x : Float} (h : Binary64.isFinite x = true) :
    IsNumeric (floatText format x) := by
  unfold Binary64.isFinite at h
  unfold floatText
  split
  · rename_i hread
    rw [hread] at h
    cases h
  · rename_i hread
    rw [hread] at h
    cases h
  · rename_i d _
    have hmagnitude : IsNumeric (if d.mantissa = 0 then "0.0".toList
        else (shortest d.mantissa d.exponent).text format) := by
      split
      · decide
      · exact isNumeric_text format _
    dsimp only
    split
    · exact isNumeric_cons.2 ⟨rfl, hmagnitude⟩
    · exact hmagnitude

theorem noControl_floatText (format : FloatFormat) (x : Float) :
    NoControl (floatText format x) := by
  cases hfinite : Binary64.isFinite x with
  | true => exact (isNumeric_floatText format hfinite).noControl
  | false =>
      unfold Binary64.isFinite at hfinite
      unfold floatText
      split
      · decide
      · split <;> decide
      · rename_i hread
        rw [hread] at hfinite
        cases hfinite

end Decimal

namespace Json

theorem Number.noControl_text (n : Number) : NoControl n.text := by
  cases n with
  | int n => exact (Decimal.isNumeric_intText n).noControl
  | float x => exact Decimal.noControl_floatText floatFormat x

theorem noControl_hexDigit {n : Nat} (h : n < 16) : 32 ≤ (hexDigit n).toNat := by
  have hall : ∀ n < 16, 32 ≤ (hexDigit n).toNat := by decide
  exact hall n h

theorem noControl_escapeChar (c : Char) : NoControl (escapeChar c) := by
  unfold escapeChar
  by_cases hcontrol : c.toNat < 32
  · have hhigh := noControl_hexDigit (n := c.toNat / 16) (by omega)
    have hlow := noControl_hexDigit (n := c.toNat % 16) (by omega)
    rw [if_pos hcontrol]
    repeat' split
    all_goals first
      | decide
      | simp only [noControl_cons, hhigh, hlow]
        decide
  · rw [if_neg hcontrol]
    repeat' split
    all_goals first
      | decide
      | exact noControl_cons.2 ⟨Nat.not_lt.1 hcontrol, fun c hc => nomatch hc⟩

theorem noControl_quote (cs : List Char) : NoControl (quote cs) := by
  unfold quote
  rw [noControl_cons, noControl_append]
  refine ⟨by decide, ?_, by decide⟩
  intro c hc
  obtain ⟨d, _, hc⟩ := List.mem_flatMap.1 hc
  exact noControl_escapeChar d c hc

theorem noControl_tokenText (t : Token) : NoControl t.text := by
  cases t with
  | num n => exact n.noControl_text
  | str s => exact noControl_quote s.toList
  | bool b => cases b <;> decide
  | _ => decide

/-- Compact text has no control characters, and so no line ends. -/
theorem noControl_render (v : Json) : NoControl v.render.toList := by
  unfold render
  rw [String.toList_ofList]
  intro c hc
  obtain ⟨t, _, hc⟩ := List.mem_flatMap.1 hc
  exact noControl_tokenText t c hc

/-- The text of an object stands in braces. -/
theorem toList_render_obj (members : List (String × Json)) :
    ∃ inside, (Json.obj members).render.toList = '\x7b' :: (inside ++ ['\x7d']) := by
  refine ⟨(tokensMembers members).flatMap Token.text, ?_⟩
  unfold render
  rw [String.toList_ofList, tokens, List.flatMap_cons, List.flatMap_append]
  rfl

end Json

end ApiGateway
