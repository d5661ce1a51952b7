import ApiGateway.Time.Reading
import ApiGateway.Proofs.Binary64.Integers
import ApiGateway.Proofs.Json.Uniqueness
import Mathlib.Data.List.Chain

/-! # The texts of numbers as points of time

A value that is a number counts seconds, and so does a value that is the text of a number, if no
date form reads the text first. None does: a date has a hyphen right behind the digits of its year,
and in the text of a number a hyphen stands in front or behind the mark of an exponent
(`HyphensApart`).

What is left are the digits of an integer with a sign. The text of an integer is read as this
integer, which is the instant that the number stands for; an unsigned integer beyond the signed
ones is none as a text and, as a float, an instant beyond all that are representable. The text of a
float has a point or an exponent, so that it is no integer: the fraction and with it the instant are
lost (`ofJson?_numberText`).
-/

set_option autoImplicit false

namespace ApiGateway

open Binary64

/-! ## Texts without a hyphen behind a digit -/

namespace Decimal

/-- No digit has a hyphen right behind it. -/
def HyphensApart (cs : List Char) : Prop :=
  List.IsChain (fun c d => c.isDigit = true → d ≠ '-') cs

theorem HyphensApart.suffix {cs rest : List Char} (h : HyphensApart cs) (hrest : rest <:+ cs) :
    HyphensApart rest :=
  List.IsChain.suffix h hrest

theorem hyphensApart_of_not_mem {cs : List Char} (h : '-' ∉ cs) : HyphensApart cs := by
  induction cs with
  | nil => exact List.isChain_nil
  | cons c cs ih =>
      rw [List.mem_cons, not_or] at h
      refine List.isChain_cons.2 ⟨?_, ih h.2⟩
      rintro d hd _ rfl
      exact h.2 (List.mem_of_mem_head? hd)

/-- In front of a character that is no digit anything may stand. -/
theorem hyphensApart_cons {c : Char} {cs : List Char} (hc : c.isDigit = false)
    (h : HyphensApart cs) : HyphensApart (c :: cs) := by
  refine List.isChain_cons.2 ⟨?_, h⟩
  intro d _ hdigit
  rw [hc] at hdigit
  cases hdigit

/-- A text without hyphens may stand in front of another character than a hyphen. -/
theorem hyphensApart_append_cons {front cs : List Char} {c : Char} (hfront : '-' ∉ front)
    (hc : c ≠ '-') (h : HyphensApart (c :: cs)) : HyphensApart (front ++ c :: cs) := by
  refine List.isChain_append.2 ⟨hyphensApart_of_not_mem hfront, h, ?_⟩
  rintro a _ b hb _
  cases hb
  exact hc

/-! ## The texts of numbers -/

theorem hyphen_not_mem_digitsOf (n : Nat) : '-' ∉ digitsOf n :=
  fun h => absurd (isDigit_of_mem_digitsOf h) (by decide)

theorem hyphensApart_intText (n : Int) : HyphensApart (intText n) := by
  have hdigits := hyphensApart_of_not_mem (hyphen_not_mem_digitsOf n.natAbs)
  unfold intText
  split
  · exact hyphensApart_cons (by decide) hdigits
  · exact hdigits

/-- A decimal has a point or an exponent, and a hyphen only as the sign of the exponent. -/
theorem shape_text (format : FloatFormat) (d : Digits) :
    HyphensApart (d.text format) ∧ ('.' ∈ d.text format ∨ 'e' ∈ d.text format) := by
  have hdigits := hyphen_not_mem_digitsOf d.digits
  have htake : ∀ n, '-' ∉ (digitsOf d.digits).take n :=
    fun n h => hdigits (List.mem_of_mem_take h)
  have hdrop : ∀ n, '-' ∉ (digitsOf d.digits).drop n :=
    fun n h => hdigits (List.mem_of_mem_drop h)
  have hzeros : ∀ n, '-' ∉ List.replicate n '0' :=
    fun n h => absurd (List.eq_of_mem_replicate h) (by decide)
  unfold Digits.text
  dsimp only
  split
  · -- in positional notation there is a point and no hyphen
    split
    · refine ⟨hyphensApart_of_not_mem ?_, Or.inl (by simp)⟩
      simp only [List.mem_append, hzeros, hdigits, or_false]
      decide
    · split
      · refine ⟨hyphensApart_of_not_mem ?_, Or.inl (by simp)⟩
        simp only [List.mem_append, hzeros, hdigits, or_false, false_or]
        decide
      · refine ⟨hyphensApart_of_not_mem ?_, Or.inl (by simp)⟩
        simp only [List.mem_append, List.mem_cons, htake, hdrop, or_false, false_or]
        decide
  · refine ⟨?_, Or.inr (by simp)⟩
    have hsign : HyphensApart ((if d.exponent < 0 then '-' else '+') ::
        digitsOf d.exponent.natAbs) := by
      refine hyphensApart_cons ?_ (hyphensApart_of_not_mem (hyphen_not_mem_digitsOf _))
      split <;> rfl
    refine hyphensApart_append_cons ?_ (by decide) (hyphensApart_cons (by decide) hsign)
    rw [List.mem_append, not_or]
    refine ⟨htake 1, ?_⟩
    split
    · exact List.not_mem_nil
    · simp only [List.mem_cons, hdrop, or_false]
      decide

theorem shape_floatText (format : FloatFormat) {x : Float} (h : isFinite x = true) :
    HyphensApart (floatText format x) ∧
      ('.' ∈ floatText format x ∨ 'e' ∈ floatText format x) := by
  unfold isFinite at h
  unfold floatText
  split
  · rename_i hread
    rw [hread] at h
    cases h
  · rename_i hread
    rw [hread] at h
    cases h
  · rename_i d _
    have hmagnitude : let text := if d.mantissa = 0 then "0.0".toList
          else (shortest d.mantissa d.exponent).text format
        HyphensApart text ∧ ('.' ∈ text ∨ 'e' ∈ text) := by
      dsimp only
      split
      · exact ⟨hyphensApart_of_not_mem (by decide), Or.inl (by decide)⟩
      · exact shape_text format _
    dsimp only at hmagnitude ⊢
    split
    · exact ⟨hyphensApart_cons (by decide) hmagnitude.1,
        hmagnitude.2.imp (List.mem_cons_of_mem _) (List.mem_cons_of_mem _)⟩
    · exact hmagnitude

theorem isBlank_eq_false_of_isNumeral {c : Char} (h : isNumeral c = true) :
    Text.isBlank c = false := by
  simp only [isNumeral, Bool.or_eq_true, beq_iff_eq] at h
  rcases h with (((hdigit | rfl) | rfl) | rfl) | rfl
  · exact Text.isBlank_eq_false_of_isDigit hdigit
  · decide
  · decide
  · decide
  · decide

/-! ## Texts that are no integer -/

/-- A character that is neither a digit nor a sign is not part of an integer. -/
theorem readInt?_eq_none {c : Char} {cs : List Char} (hc : c ∈ cs) (hdigit : c.isDigit = false)
    (hsign : c ≠ '-' ∧ c ≠ '+') : readInt? cs = none := by
  have hmem : c ∈ (takeSign cs).2 := by
    unfold takeSign
    split
    · exact (List.mem_cons.1 hc).resolve_left hsign.1
    · exact (List.mem_cons.1 hc).resolve_left hsign.2
    · exact hc
  have hall : (takeSign cs).2.all Char.isDigit = false := by
    rw [List.all_eq_false]
    exact ⟨c, hmem, by rw [hdigit]; decide⟩
  unfold readInt?
  dsimp only
  rw [hall, Bool.not_false, Bool.or_true, if_pos rfl]

end Decimal

namespace Json.Number

open Decimal

theorem hyphensApart_text {n : Number} (h : n.InRange) : HyphensApart n.text := by
  cases n with
  | int v => exact hyphensApart_intText v
  | float x => exact (shape_floatText _ h).1

/-- Only the text of an integer is read as an integer, and as this one. -/
theorem readInt64?_text {n : Number} (h : n.InRange) :
    readInt64? n.text = n.toInt64? := by
  cases n with
  | int v =>
      show (readInt? (intText v)).filter _ = if _ then _ else _
      rw [readInt?_intText, Option.filter_some]
      simp only [Bool.and_eq_true, decide_eq_true_eq]
  | float x =>
      show (readInt? (floatText _ x)).filter _ = none
      rcases (shape_floatText floatFormat h).2 with hpoint | hmark
      · rw [readInt?_eq_none hpoint (by decide) (by decide)]
        rfl
      · rw [readInt?_eq_none hmark (by decide) (by decide)]
        rfl

end Json.Number

namespace Time

open Decimal

variable {least most n : Nat} {cs rest : List Char}

/-! ## No date -/

/-- A number is read off the digits in front. -/
theorem takeNumber?_eq_some (h : takeNumber? least most cs = some (n, rest)) :
    ∃ ds, cs = ds ++ rest ∧ least ≤ ds.length ∧ ∀ c ∈ ds, c.isDigit = true := by
  unfold takeNumber? at h
  dsimp only at h
  split at h
  · cases h
  · rename_i hleast
    cases h
    have hprefix : (cs.take most).takeWhile Char.isDigit <+: cs :=
      (List.takeWhile_prefix _).trans (List.take_prefix _ _)
    refine ⟨_, (List.prefix_iff_eq_append.1 hprefix).symm, Nat.not_lt.1 hleast, ?_⟩
    intro c hc
    exact List.all_eq_true.1 (List.all_takeWhile ..) c hc

/-- Behind the digits of a number there is no hyphen. -/
theorem takeChar?_hyphen_eq_none (hcs : HyphensApart cs) (hleast : 0 < least)
    (h : takeNumber? least most cs = some (n, rest)) : takeChar? '-' rest = none := by
  obtain ⟨ds, rfl, hlength, hdigits⟩ := takeNumber?_eq_some h
  cases rest with
  | nil => rfl
  | cons c rest =>
      have hne : ds ≠ [] := List.ne_nil_of_length_pos (by omega)
      have hlast := (List.isChain_append.1 hcs).2.2 _ (List.getLast?_eq_some_getLast hne) c rfl
      exact if_neg (hlast (hdigits _ (List.getLast_mem hne)))

theorem readStrict?_eq_none (h : HyphensApart cs) : readStrict? cs = none := by
  unfold readStrict?
  cases hyear : takeNumber? 4 4 cs with
  | none => rfl
  | some p =>
      obtain ⟨year, rest⟩ := p
      simp only [Option.bind_eq_bind, Option.bind_some,
        takeChar?_hyphen_eq_none h (by decide) hyear, Option.bind_none]

/-- With a sign or without, there is no hyphen behind a year. -/
theorem takeChar?_hyphen_of_takeYear? {year : Int} (hcs : HyphensApart cs)
    (h : takeYear? cs = some (year, rest)) : takeChar? '-' rest = none := by
  have htrim : HyphensApart (Text.trimStart cs) := hcs.suffix (List.dropWhile_suffix _)
  unfold takeYear? at h
  split at h
  · rename_i body heq
    obtain ⟨⟨k, rest⟩, hnumber, hpair⟩ := Option.map_eq_some_iff.1 h
    cases hpair
    rw [heq] at htrim
    exact takeChar?_hyphen_eq_none (htrim.suffix (List.suffix_cons _ _)) (by decide) hnumber
  · rename_i body heq
    obtain ⟨⟨k, rest⟩, hnumber, hpair⟩ := Option.map_eq_some_iff.1 h
    cases hpair
    rw [heq] at htrim
    exact takeChar?_hyphen_eq_none (htrim.suffix (List.suffix_cons _ _)) (by decide) hnumber
  · obtain ⟨⟨k, rest⟩, hnumber, hpair⟩ := Option.map_eq_some_iff.1 h
    cases hpair
    exact takeChar?_hyphen_eq_none htrim (by decide) hnumber

theorem takeDate?_eq_none (h : HyphensApart cs) : takeDate? id cs = none := by
  unfold takeDate?
  cases hyear : takeYear? cs with
  | none => rfl
  | some p =>
      obtain ⟨year, rest⟩ := p
      simp only [Option.bind_eq_bind, Option.bind_some, id_eq,
        takeChar?_hyphen_of_takeYear? h hyear, Option.bind_none]

theorem readDate?_eq_none (h : HyphensApart cs) : readDate? cs = none := by
  unfold readDate?
  rw [takeDate?_eq_none h]
  rfl

theorem readLocal?_eq_none (h : HyphensApart cs) : readLocal? cs = none := by
  unfold readLocal?
  rw [takeDate?_eq_none h]
  rfl

/-- A text of decimal characters that is no date is read as an integer or not at all. -/
theorem ofText?_eq (hnumeric : IsNumeric cs) (hne : cs ≠ []) (h : HyphensApart cs) :
    ofText? (String.ofList cs) = (readInt64? cs).bind (Instant.of? · 0) := by
  have htrim : Text.trimChars cs = cs := by
    have hblank : ∀ c ∈ cs, Text.isBlank c = false := fun c hc =>
      isBlank_eq_false_of_isNumeral (hnumeric c hc)
    have htrim : Text.trimChars ([] ++ cs ++ []) = cs :=
      Text.trimChars_append nofun nofun hne hblank
    rwa [List.nil_append, List.append_nil] at htrim
  unfold ofText?
  rw [String.toList_ofList, htrim]
  dsimp only
  rw [if_neg (by simpa using hne), readStrict?_eq_none h, readDate?_eq_none h,
    readLocal?_eq_none h]

/-! ## Integers beyond the signed ones -/

theorem of?_maxInt64 (nanos : Nat) : Instant.of? maxInt64 nanos = none :=
  if_neg (by decide)

/-- A float of at least `2 ^ 63` is a multiple of its mantissa. -/
theorem exponent_nonneg {x : Float} {d : Binary64.Dyadic} (hread : decode x = .finite d)
    (h : 2 ^ 63 ≤ d.value) : 0 ≤ d.exponent := by
  by_contra hneg
  have hquotient := Dyadic.value_mul_of_neg (Int.not_le.1 hneg)
  have hmantissa : d.signed d.mantissa < 2 ^ 63 := by
    have hmagnitude := Dyadic.natAbs_signed d d.mantissa
    have hlt := mantissa_lt hread
    omega
  have hunit : (1 : ℚ) ≤ (2 ^ (-d.exponent).toNat : ℕ) := by exact_mod_cast Nat.one_le_two_pow
  have hle : (2 ^ 63 : ℚ) ≤ (d.signed d.mantissa : ℤ) := by
    calc (2 ^ 63 : ℚ) ≤ d.value := h
      _ = d.value * 1 := (mul_one _).symm
      _ ≤ d.value * (2 ^ (-d.exponent).toNat : ℕ) :=
          mul_le_mul_of_nonneg_left hunit (le_trans (by norm_num) h)
      _ = (d.signed d.mantissa : ℤ) := hquotient
  exact absurd (by exact_mod_cast hle : (2 ^ 63 : ℤ) ≤ d.signed d.mantissa) (not_le.2 hmantissa)

/-- It counts more seconds than an instant has. -/
theorem ofSeconds?_eq_none {x : Float} {d : Binary64.Dyadic} (hread : decode x = .finite d)
    (h : 2 ^ 63 ≤ d.value) : ofSeconds? x = none := by
  have hexponent := exponent_nonneg hread h
  have hfloor : floor x = x := by
    unfold floor roundBy
    rw [hread]
    exact if_pos hexponent
  have htruncate : 2 ^ 63 ≤ d.truncate := by
    have hwhole : d.split.2 = false := by
      unfold Dyadic.split
      rw [if_pos hexponent]
    rw [Dyadic.value_eq_truncate hwhole] at h
    exact_mod_cast h
  have hwhole : toIntWithin minInt64 maxInt64 x = maxInt64 := by
    unfold toIntWithin
    rw [hread]
    show max minInt64 (min maxInt64 d.truncate) = maxInt64
    unfold minInt64 maxInt64
    omega
  unfold ofSeconds?
  split
  · dsimp only
    rw [hfloor, hwhole]
    exact of?_maxInt64 _
  · rfl

/-- An integer is an instant only if 64 bits with a sign hold it. -/
theorem ofJson?_int {v : Int} (h : (Json.Number.int v).InRange) :
    ofJson? (.num (.int v)) = (Json.Number.int v).toInt64?.bind (Instant.of? · 0) := by
  unfold ofJson?
  dsimp only
  cases hsigned : (Json.Number.int v).toInt64? with
  | some seconds => rfl
  | none =>
      have hbeyond : maxInt64 < v := by
        unfold Json.Number.toInt64? at hsigned
        dsimp only at hsigned
        split at hsigned
        · cases hsigned
        · rename_i hnot
          exact Int.not_le.1 fun hle => hnot ⟨h.1, hle⟩
      obtain ⟨n, rfl⟩ := Int.eq_ofNat_of_zero_le (Int.le_of_lt (Int.lt_trans (by decide) hbeyond))
      have hlarge : 2 ^ 63 ≤ n := by
        unfold maxInt64 at hbeyond
        omega
      show ofSeconds? (Float.ofNat n) = none
      rcases le_value_of_ofNat hlarge with hinfinite | ⟨d, hread, hvalue⟩
      · have hfinite : ¬isFinite (Float.ofNat n) = true := by
          unfold isFinite
          rw [hinfinite]
          exact Bool.false_ne_true
        exact if_neg hfinite
      · exact ofSeconds?_eq_none hread hvalue

/-! ## Numbers as texts -/

/-- The text of a number is no date, and it stands for an instant just if the number is an integer
that stands for this instant. -/
theorem ofJson?_numberText {n : Json.Number} (h : n.InRange) :
    (readStrict? n.text = none ∧ readDate? n.text = none ∧ readLocal? n.text = none) ∧
    ∀ i, ofJson? (.str (String.ofList n.text)) = some i ↔
      ofJson? (.num n) = some i ∧ ∃ v, n = .int v := by
  have hapart := Json.Number.hyphensApart_text h
  refine ⟨⟨readStrict?_eq_none hapart, readDate?_eq_none hapart, readLocal?_eq_none hapart⟩, ?_⟩
  intro i
  show ofText? _ = _ ↔ _
  rw [ofText?_eq (Json.Number.isNumeric_text h) n.text_ne_nil hapart,
    Json.Number.readInt64?_text h]
  cases n with
  | int v =>
      rw [ofJson?_int h]
      exact ⟨fun htext => ⟨htext, v, rfl⟩, fun hnumber => hnumber.1⟩
  | float x =>
      constructor
      · intro htext
        cases htext
      · rintro ⟨-, v, heq⟩
        cases heq

/-- Half past ten of a day of March, and half a second more. -/
def halfSecondMore : Json.Number := .float 1709634600.5

/-- The second alone reads back. -/
theorem ofJson?_numberText_wholeSecond :
    (Json.Number.int 1709634600).InRange ∧
      ofJson? (.str (String.ofList (Json.Number.int 1709634600).text)) =
        some ⟨1709634600, 0⟩ :=
  have h : (Json.Number.int 1709634600).InRange := by decide
  ⟨h, ((ofJson?_numberText h).2 ⟨1709634600, 0⟩).2 ⟨by decide +kernel, 1709634600, rfl⟩⟩

/-- With the half second the number is an instant, and its text is none. -/
theorem lost_instant_halfSecondMore :
    halfSecondMore.InRange ∧ halfSecondMore.text = "1709634600.5".toList ∧
      ofJson? (.num halfSecondMore) = some ⟨1709634600, 500000000⟩ ∧
      ofJson? (.str (String.ofList halfSecondMore.text)) = none := by
  decide +kernel

end Time

end ApiGateway
