import ApiGateway.Proofs.Json.Integers
import ApiGateway.Proofs.Time.Rfc3339
import ApiGateway.Time.Retention

/-! # Cutoffs of retention windows

Instants lie on the line of the nanoseconds from the start of 1970 (`Instant.position`), and going
back some seconds is a subtraction there (`Instant.position_back`), whether or not it
starts in a leap second. A window is written as any amount that 64 bits hold
(`Retention.exists_ofText_iff`); it has a cutoff just if the milliseconds of its length fit 64 bits
as well, and the cutoff is then the instant that lies this length back, or the earliest one:
`Retention.cutoff?_accounted`.
-/

set_option autoImplicit false

namespace ApiGateway.Time

namespace Instant

/-! ## The line of nanoseconds -/

/-- Nanoseconds from the start of 1970; a leap second lies on the second behind it. -/
def position (i : Instant) : Int := i.seconds * nanosPerSecond + i.nanos

variable {i c : Instant}

theorem isRepresentable_earliest : earliest.IsRepresentable where
  least := Int.le_refl _
  greatest := by decide
  nanos := by decide
  leap := by decide

/-- No instant comes before the earliest one. -/
theorem position_earliest_le (h : i.IsRepresentable) : earliest.position ≤ i.position := by
  have hleast := h.least
  unfold position earliest nanosPerSecond
  dsimp only
  omega

/-- Where one arrives some seconds back, representable or not: a leap second that is left counts as
the second behind it. -/
def back (i : Instant) (seconds : Int) : Instant :=
  if i.nanos < nanosPerSecond ∨ seconds = 0 then ⟨i.seconds - seconds, i.nanos⟩
  else ⟨i.seconds + 1 - seconds, i.nanos - nanosPerSecond⟩

theorem minusSeconds?_eq {seconds : Int} (h : 0 ≤ seconds) :
    i.minusSeconds? seconds = of? (i.back seconds).seconds (i.back seconds).nanos := by
  unfold minusSeconds? back
  split
  · rfl
  · rename_i hleaves
    have hpos : 0 < seconds := by omega
    dsimp only
    rw [if_pos hpos]

/-- Going back is a subtraction on the line. -/
theorem position_back (i : Instant) (seconds : Int) :
    (i.back seconds).position = i.position - seconds * nanosPerSecond := by
  unfold back
  split
  · unfold position nanosPerSecond
    dsimp only
    omega
  · rename_i hleaves
    rw [not_or, Nat.not_lt] at hleaves
    -- the second that the leap second counts as makes up for its nanoseconds
    have hnanos := hleaves.1
    unfold position nanosPerSecond at *
    dsimp only
    omega

/-- Only where one starts there may be a leap second. -/
theorem regular_back (h : i.nanos < 2 * nanosPerSecond) (seconds : Int) :
    (i.back seconds).nanos < nanosPerSecond ∨ i.back seconds = i := by
  unfold back
  split
  · rename_i hstays
    rcases hstays with hlt | rfl
    · exact Or.inl hlt
    · rw [Int.sub_zero]
      exact Or.inr rfl
  · left
    dsimp only
    unfold nanosPerSecond at *
    omega

/-- Going back one stays below the last second. -/
theorem seconds_back_le (h : i.IsRepresentable) {seconds : Int} (hseconds : 0 ≤ seconds) :
    (i.back seconds).seconds ≤ maxSeconds := by
  have hgreatest := h.greatest
  unfold back
  split
  · dsimp only
    omega
  · rename_i hleaves
    have hpos : 0 < seconds := by omega
    dsimp only
    omega

/-- An instant is reached by going back unless it lies before the earliest one. -/
theorem minusSeconds?_eq_ite (h : i.IsRepresentable) {seconds : Int} (hseconds : 0 ≤ seconds) :
    i.minusSeconds? seconds =
      if minSeconds ≤ (i.back seconds).seconds then some (i.back seconds) else none := by
  rw [minusSeconds?_eq hseconds, of?]
  refine if_congr ⟨And.left, fun hleast => ⟨hleast, seconds_back_le h hseconds⟩⟩ rfl rfl

theorem isRepresentable_back (h : i.IsRepresentable) {seconds : Int} (hseconds : 0 ≤ seconds)
    (hleast : minSeconds ≤ (i.back seconds).seconds) : (i.back seconds).IsRepresentable := by
  rcases regular_back h.nanos seconds with hlt | heq
  · have hnanos : (i.back seconds).nanos < 2 * nanosPerSecond := by omega
    refine ⟨hleast, seconds_back_le h hseconds, hnanos, fun hleap => ?_⟩
    exact absurd hlt (Nat.not_lt.2 hleap)
  · rw [heq]
    exact h

/-- What lies in a second before the earliest instant lies before it. -/
theorem position_lt_of_seconds_lt (hleast : c.seconds < minSeconds)
    (hnanos : c.nanos < nanosPerSecond) : c.position < earliest.position := by
  unfold position earliest nanosPerSecond at *
  dsimp only
  omega

end Instant

namespace Retention

/-! ## Windows and their texts -/

theorem ofLetter?_letter (unit : RetentionUnit) :
    RetentionUnit.ofLetter? unit.letter = some unit := by
  cases unit <;> decide

theorem isBlank_letter (unit : RetentionUnit) : Text.isBlank unit.letter = false := by
  cases unit <;> decide

/-- The amount of a window that a text gives is one that 64 bits hold. -/
theorem amount_le_of_ofText {text : String} {r : Retention} (h : ofText text = .ok r) :
    (r.amount : Int) ≤ Binary64.maxInt64 := by
  unfold ofText at h
  split at h
  · cases h
  · split at h
    · cases h
    · dsimp only at h
      split at h
      · rename_i amount hamount
        cases h
        obtain ⟨hread, hpos⟩ := Option.filter_eq_some_iff.1 hamount
        have hfits := (Option.filter_eq_some_iff.1 hread).2
        simp only [Bool.and_eq_true, decide_eq_true_eq] at hfits hpos
        dsimp only
        omega
      · cases h

/-- The text of a window gives the window, if 64 bits hold its amount. -/
theorem ofText_text {r : Retention} (h : (r.amount : Int) ≤ Binary64.maxInt64) :
    ofText r.text = .ok r := by
  obtain ⟨c, cs, hdigits, hc, _⟩ := Decimal.digitsOf_eq_cons r.amount
  have htrim : Text.trimChars r.text.toList = Decimal.digitsOf r.amount ++ [r.unit.letter] := by
    unfold text
    rw [String.toList_ofList, hdigits, List.cons_append, Text.trimChars,
      Text.trimStart_cons (Text.isBlank_eq_false_of_isDigit hc), ← List.cons_append,
      Text.trimEnd_append_cons (isBlank_letter r.unit)]
    rfl
  unfold ofText
  rw [htrim, List.reverse_append, List.reverse_singleton, List.singleton_append]
  dsimp only
  rw [ofLetter?_letter]
  dsimp only
  rw [List.reverse_reverse, Decimal.readInt64?_digitsOf h, Option.filter_some, if_pos (by simp)]
  rfl

/-- A window is given by some text just if 64 bits hold its amount. -/
theorem exists_ofText_iff {r : Retention} :
    (∃ text, ofText text = .ok r) ↔ (r.amount : Int) ≤ Binary64.maxInt64 :=
  ⟨fun ⟨_, h⟩ => amount_le_of_ofText h, fun h => ⟨r.text, ofText_text h⟩⟩

/-! ## Cutoffs -/

variable {r : Retention} {now c : Instant}

/-- Where the records begin that a window retains at `now`, on the line of nanoseconds. -/
def start (r : Retention) (now : Instant) : Int :=
  now.position - r.amount * r.unit.length * nanosPerSecond

/-- The cutoff of a window: the instant where it starts, or the earliest one if no instant lies
there. It is a leap second only if the window is empty and starts in one. -/
structure IsCutoff (r : Retention) (now c : Instant) : Prop where
  representable : c.IsRepresentable
  regular : c.nanos < nanosPerSecond ∨ c = now
  exact_or_earliest : c.position = r.start now ∨
    (∀ i : Instant, i.IsRepresentable → i.position ≠ r.start now) ∧ c = .earliest

/-- The length of a window that is a span of time is not cut off at the end of 64 bits. -/
theorem span?_eq (r : Retention) :
    r.span? =
      if (r.amount * r.unit.length : Int) ≤ longestSpan then some (r.amount * r.unit.length : Int)
      else none := by
  have hlongest : longestSpan < Binary64.maxInt64 := by decide
  unfold span? seconds
  rcases Int.le_total (r.amount * r.unit.length) Binary64.maxInt64 with hle | hge
  · rw [Int.min_eq_left hle]
  · rw [Int.min_eq_right hge, if_neg (by omega), if_neg (by omega)]

/-- Going back the length of a window arrives at its cutoff, if need be at the earliest instant. -/
theorem isCutoff_minusSeconds? (hnow : now.IsRepresentable) :
    r.IsCutoff now ((now.minusSeconds? (r.amount * r.unit.length)).getD .earliest) := by
  have hlength : (0 : Int) ≤ r.amount * r.unit.length :=
    Int.mul_nonneg (Int.natCast_nonneg _) (Int.natCast_nonneg _)
  have hposition := Instant.position_back now (r.amount * r.unit.length)
  rw [Instant.minusSeconds?_eq_ite hnow hlength]
  split
  · rename_i hleast
    exact ⟨Instant.isRepresentable_back hnow hlength hleast,
      Instant.regular_back hnow.nanos _, Or.inl hposition⟩
  · rename_i hearlier
    have hbefore : (now.back (r.amount * r.unit.length)).position < Instant.earliest.position := by
      rcases Instant.regular_back hnow.nanos (r.amount * r.unit.length) with hlt | heq
      · exact Instant.position_lt_of_seconds_lt (Int.not_le.1 hearlier) hlt
      · rw [heq] at hearlier
        exact absurd hnow.least hearlier
    refine ⟨Instant.isRepresentable_earliest, Or.inl (by decide), Or.inr ⟨fun i hi heq => ?_, rfl⟩⟩
    have hle := Instant.position_earliest_le hi
    rw [hposition] at hbefore
    unfold start at heq
    omega

/-- **Which windows have a cutoff.** A window is accepted if 64 bits hold its amount. It has a
cutoff, and the right one, just if 64 bits hold its length in milliseconds too. -/
theorem cutoff?_accounted (r : Retention) (hnow : now.IsRepresentable) :
    ((∃ text, ofText text = .ok r) ↔ (r.amount : Int) ≤ Binary64.maxInt64) ∧
      ((r.amount * r.unit.length : Int) ≤ longestSpan →
        ∃ c, r.cutoff? now = some c ∧ r.IsCutoff now c) ∧
      (longestSpan < (r.amount * r.unit.length : Int) → r.cutoff? now = none) := by
  refine ⟨exists_ofText_iff, fun hle => ?_, fun hlt => ?_⟩
  · refine ⟨_, ?_, isCutoff_minusSeconds? hnow⟩
    unfold cutoff?
    rw [span?_eq, if_pos hle]
    rfl
  · unfold cutoff?
    rw [span?_eq, if_neg (Int.not_le.2 hlt)]
    rfl

/-! ### A leap second, and a window that is too long -/

/-- The middle of the leap second at the end of 2016. -/
def leapSecond2016 : Instant := ⟨1483228799, 1500000000⟩

theorem isRepresentable_leapSecond2016 : leapSecond2016.IsRepresentable where
  least := by decide
  greatest := by decide
  nanos := by decide
  leap := by decide

/-- A minute back from a leap second the minute has sixty seconds only. -/
theorem cutoff?_accounted_leapSecond2016 :
    leapSecond2016.IsRepresentable ∧ ∃ c, cutoff? ⟨1, .minutes⟩ leapSecond2016 = some c ∧
      IsCutoff ⟨1, .minutes⟩ leapSecond2016 c ∧ c = ⟨1483228740, 500000000⟩ := by
  have hshort : ((1 : Nat) * RetentionUnit.minutes.length : Int) ≤ longestSpan := by decide
  have hvalue : cutoff? ⟨1, .minutes⟩ leapSecond2016 = some ⟨1483228740, 500000000⟩ := by decide
  obtain ⟨c, hc, hcutoff⟩ :=
    (cutoff?_accounted ⟨1, .minutes⟩ isRepresentable_leapSecond2016).2.1 hshort
  exact ⟨isRepresentable_leapSecond2016, c, hc, hcutoff, Option.some.inj (hc.symm.trans hvalue)⟩

/-- A window of one second more than the milliseconds of a span can count. -/
def longSeconds : Retention := ⟨9223372036854776, .seconds⟩

/-- The window is accepted, and the earliest instant would be its cutoff, but it has none. -/
theorem lost_cutoff_longSeconds :
    ofText "9223372036854776s" = .ok longSeconds ∧ leapSecond2016.IsRepresentable ∧
      longSeconds.IsCutoff leapSecond2016 .earliest ∧
      longSeconds.cutoff? leapSecond2016 = none := by
  have htext : longSeconds.text = "9223372036854776s" := by decide
  have hbeyond : (leapSecond2016.minusSeconds?
      (longSeconds.amount * longSeconds.unit.length)).getD .earliest = .earliest := by decide
  refine ⟨?_, isRepresentable_leapSecond2016, ?_, by decide⟩
  · rw [← htext]
    exact ofText_text (by decide)
  · rw [← hbeyond]
    exact isCutoff_minusSeconds? isRepresentable_leapSecond2016

end Retention

end ApiGateway.Time
