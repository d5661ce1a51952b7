import ApiGateway.Proofs.Json.Integers
import ApiGateway.Proofs.Text.Classes
import ApiGateway.Proofs.Time.Calendar
import ApiGateway.Time.Rfc3339
import Mathlib.Data.Nat.Digits.Defs

/-! # Timestamps read back

The text of an instant with UTC written `Z` reads as that instant (`Instant.readLenient?_zuluText`),
whatever its year, and also for a leap second.
-/

set_option autoImplicit false

namespace ApiGateway.Time

open Decimal

/-! ## Digits filled up with zeros -/

theorem isDigit_of_mem_zeroPadded {width n : Nat} {c : Char} (h : c ∈ zeroPadded width n) :
    c.isDigit = true := by
  rcases List.mem_append.1 h with hzero | hdigit
  · rw [(List.mem_replicate.1 hzero).2]
    rfl
  · exact Decimal.isDigit_of_mem_digitsOf hdigit

theorem ofDigits_zeroPadded (width n : Nat) : ofDigits (zeroPadded width n) = n := by
  have hzeros : ∀ k, ofDigits (List.replicate k '0' ++ digitsOf n) = ofDigits (digitsOf n) := by
    intro k
    induction k with
    | zero => rfl
    | succ k ih => exact ih
  rw [zeroPadded, hzeros, Decimal.ofDigits_digitsOf]

theorem le_length_zeroPadded (width n : Nat) : width ≤ (zeroPadded width n).length := by
  rw [zeroPadded, List.length_append, List.length_replicate]
  omega

theorem length_zeroPadded {width n : Nat} (hwidth : 0 < width) (h : n < 10 ^ width) :
    (zeroPadded width n).length = width := by
  have hlength : (digitsOf n).length ≤ width := Nat.toDigits_length 10 n width hwidth h
  rw [zeroPadded, List.length_append, List.length_replicate]
  omega

/-- The text goes on with something else than a digit. -/
def EndsNumber (rest : List Char) : Prop := ∀ c, rest.head? = some c → c.isDigit = false

theorem endsNumber_cons {c : Char} (h : c.isDigit = false) (rest : List Char) :
    EndsNumber (c :: rest) := by
  rintro d hd
  cases hd
  exact h

/-- Digits are taken up to a character that is none, or as many as may be taken. -/
theorem takeNumber?_append {least most : Nat} {ds rest : List Char}
    (hds : ∀ c ∈ ds, c.isDigit = true) (hleast : least ≤ ds.length) (hmost : ds.length ≤ most)
    (hrest : ds.length < most → EndsNumber rest) :
    takeNumber? least most (ds ++ rest) = some (ofDigits ds, rest) := by
  have hend : EndsNumber (rest.take (most - ds.length)) := by
    rcases Nat.lt_or_ge ds.length most with hlt | hge
    · intro c hc
      refine hrest hlt c ?_
      rw [List.head?_take] at hc
      split at hc
      · cases hc
      · exact hc
    · rw [Nat.sub_eq_zero_of_le hge]
      exact nofun
  unfold takeNumber?
  rw [List.take_append, List.take_of_length_le hmost,
    (Text.takeWhile_append_of_stop hds hend).1]
  simp only [Nat.not_lt.2 hleast, if_false, List.drop_left]

theorem zeroPadded_eq_cons {width n : Nat} (h : 0 < width) :
    ∃ c ds, zeroPadded width n = c :: ds ∧ c.isDigit = true := by
  have hlength := le_length_zeroPadded width n
  obtain ⟨c, ds, hcons⟩ : ∃ c ds, zeroPadded width n = c :: ds :=
    List.exists_cons_of_length_pos (by omega)
  exact ⟨c, ds, hcons, isDigit_of_mem_zeroPadded (hcons ▸ List.mem_cons_self)⟩

/-- A number of two digits. -/
theorem takeShort?_zeroPadded {n : Nat} (h : n < 100) (rest : List Char) :
    takeShort? (zeroPadded 2 n ++ rest) = some (n, rest) := by
  have hdigits : ∀ c ∈ zeroPadded 2 n, c.isDigit = true := fun _ => isDigit_of_mem_zeroPadded
  have hlength : (zeroPadded 2 n).length = 2 := length_zeroPadded (by decide) h
  obtain ⟨c, ds, hcons, hc⟩ := @zeroPadded_eq_cons 2 n (by decide)
  have htrim : Text.trimStart (zeroPadded 2 n ++ rest) = zeroPadded 2 n ++ rest := by
    rw [hcons]
    exact Text.trimStart_cons (Text.isBlank_eq_false_of_isDigit hc) _
  rw [takeShort?, htrim,
    takeNumber?_append hdigits (by omega) (by omega) (fun hlt => by omega), ofDigits_zeroPadded]

/-! ## Years, dates and times of day -/

theorem takeYear?_digit {c : Char} (h : c.isDigit = true) (cs : List Char) :
    takeYear? (c :: cs) =
      (takeNumber? 1 4 (c :: cs)).map fun (n, rest) => ((n : Int), rest) := by
  unfold takeYear?
  rw [Text.trimStart_cons (Text.isBlank_eq_false_of_isDigit h)]
  split
  · rename_i heq
    cases heq
    exact absurd h (by decide)
  · rename_i heq
    cases heq
    exact absurd h (by decide)
  · rfl

theorem takeYear?_minus (cs : List Char) :
    takeYear? ('-' :: cs) =
      (takeNumber? 1 cs.length cs).map fun (n, rest) => (-(n : Int), rest) := by
  rw [takeYear?, Text.trimStart_cons (by decide)]
  rfl

theorem takeYear?_plus (cs : List Char) :
    takeYear? ('+' :: cs) =
      (takeNumber? 1 cs.length cs).map fun (n, rest) => ((n : Int), rest) := by
  rw [takeYear?, Text.trimStart_cons (by decide)]
  rfl

/-- A year reads back, with or without a sign. -/
theorem takeYear?_yearText (year : Int) {rest : List Char} (hrest : EndsNumber rest) :
    takeYear? (yearText year ++ rest) = some (year, rest) := by
  have hdigits : ∀ c ∈ zeroPadded 4 year.natAbs, c.isDigit = true :=
    fun _ => isDigit_of_mem_zeroPadded
  have hlength := le_length_zeroPadded 4 year.natAbs
  unfold yearText
  split
  · rename_i hshort
    have hfour : (zeroPadded 4 year.natAbs).length = 4 := length_zeroPadded (by decide) (by omega)
    obtain ⟨c, ds, hcons, hc⟩ := @zeroPadded_eq_cons 4 year.natAbs (by decide)
    have hnumber : takeNumber? 1 4 (zeroPadded 4 year.natAbs ++ rest) =
        some (year.natAbs, rest) := by
      rw [takeNumber?_append hdigits (by omega) (by omega) (fun _ => hrest), ofDigits_zeroPadded]
    rw [hcons, List.cons_append] at hnumber ⊢
    rw [takeYear?_digit hc, hnumber]
    simp only [Option.map_some, Int.natAbs_of_nonneg hshort.1]
  · rename_i hlong
    have hnumber : takeNumber? 1 (zeroPadded 4 year.natAbs ++ rest).length
        (zeroPadded 4 year.natAbs ++ rest) = some (year.natAbs, rest) := by
      rw [takeNumber?_append hdigits (by omega) (by simp) (fun _ => hrest), ofDigits_zeroPadded]
    split
    · rename_i hneg
      rw [List.cons_append, takeYear?_minus, hnumber]
      simp only [Option.map_some, Option.some.injEq, Prod.mk.injEq, and_true]
      omega
    · rename_i hpos
      rw [List.cons_append, takeYear?_plus, hnumber]
      simp only [Option.map_some, Option.some.injEq, Prod.mk.injEq, and_true]
      omega

/-- The text of a date reads back. -/
theorem takeDate?_text {d : Date} (hmonth : d.month < 100) (hday : d.day < 100)
    (rest : List Char) :
    takeDate? Text.trimStart (yearText d.year ++
      '-' :: (zeroPadded 2 d.month ++ '-' :: (zeroPadded 2 d.day ++ rest))) = some (d, rest) := by
  have hhyphen : ∀ cs, takeChar? '-' (Text.trimStart ('-' :: cs)) = some cs := fun cs => by
    rw [Text.trimStart_cons (by decide)]
    rfl
  unfold takeDate?
  rw [takeYear?_yearText d.year (endsNumber_cons (by decide) _)]
  simp only [Option.bind_eq_bind, Option.bind_some, hhyphen, takeShort?_zeroPadded hmonth,
    takeShort?_zeroPadded hday]
  rfl

/-- The text of a time of day reads back. -/
theorem takeClock?_text {hour minute second : Nat} (hhour : hour < 100) (hminute : minute < 100)
    (hsecond : second < 100) (rest : List Char) :
    takeClock? Text.trimStart (zeroPadded 2 hour ++
      ':' :: (zeroPadded 2 minute ++ ':' :: (zeroPadded 2 second ++ rest))) =
        some (⟨hour, minute, second, 0⟩, rest) := by
  have hcolon : ∀ cs, takeChar? ':' (Text.trimStart (':' :: cs)) = some cs := fun cs => by
    rw [Text.trimStart_cons (by decide)]
    rfl
  unfold takeClock?
  simp only [Option.bind_eq_bind, Option.bind_some, hcolon, takeShort?_zeroPadded hhour,
    takeShort?_zeroPadded hminute, takeShort?_zeroPadded hsecond]
  rfl

/-- So many digits behind a point. -/
theorem takeFraction?_zeroPadded {width n : Nat} (hwidth : 0 < width) (hnine : width ≤ 9)
    (h : n < 10 ^ width) {rest : List Char} (hrest : EndsNumber rest) :
    takeFraction? ('.' :: (zeroPadded width n ++ rest)) = some (n * 10 ^ (9 - width), rest) := by
  have hdigits : ∀ c ∈ zeroPadded width n, c.isDigit = true :=
    fun _ => isDigit_of_mem_zeroPadded
  have hlength : (zeroPadded width n).length = width := length_zeroPadded hwidth h
  have hspan : spanDigits (zeroPadded width n ++ rest) = (zeroPadded width n, rest) := by
    obtain ⟨htake, hdrop⟩ := Text.takeWhile_append_of_stop hdigits hrest
    exact Prod.ext htake hdrop
  have hne : (zeroPadded width n).isEmpty = false := by
    obtain ⟨c, ds, hcons, _⟩ := @zeroPadded_eq_cons width n hwidth
    rw [hcons]
    rfl
  rw [takeFraction?, hspan]
  dsimp only
  rw [hne, if_neg Bool.false_ne_true, List.take_of_length_le (by omega), ofDigits_zeroPadded,
    hlength]
  rfl

/-- The text of a fraction of a second reads back. -/
theorem takeFraction?_fractionText {nanos : Nat} (h : nanos < nanosPerSecond) {c : Char}
    (hc : c ≠ '.') (hdigit : c.isDigit = false) (rest : List Char) :
    takeFraction? (fractionText nanos ++ c :: rest) = some (nanos, c :: rest) := by
  have hend := endsNumber_cons hdigit rest
  unfold nanosPerSecond at h
  unfold fractionText
  split
  · rename_i hzero
    rw [hzero, List.nil_append]
    unfold takeFraction?
    split
    · rename_i heq
      exact absurd (List.cons.inj heq).1 hc
    · rfl
  split
  · rename_i hmilli
    rw [List.cons_append, takeFraction?_zeroPadded (by decide) (by decide) (by omega) hend]
    congr 2
    omega
  split
  · rename_i hmicro
    rw [List.cons_append, takeFraction?_zeroPadded (by decide) (by decide) (by omega) hend]
    congr 2
    omega
  · rw [List.cons_append, takeFraction?_zeroPadded (by decide) (by decide) (by omega) hend]
    congr 2
    omega

/-! ## Instants -/

namespace Instant

/-- The instant can be represented: its seconds are in range, and only the last second of a minute
may be a leap second. -/
structure IsRepresentable (i : Instant) : Prop where
  least : minSeconds ≤ i.seconds
  greatest : i.seconds ≤ maxSeconds
  nanos : i.nanos < 2 * nanosPerSecond
  leap : nanosPerSecond ≤ i.nanos → i.seconds % 60 = 59

variable {i : Instant}

theorem secondOfDay_lt (i : Instant) : i.secondOfDay < 86400 := by
  unfold secondOfDay
  omega

/-- The time of day of an instant reads as its second of the day and its nanoseconds. -/
theorem resolve?_clock (h : i.IsRepresentable) :
    Clock.resolve? ⟨i.hour, i.minute, i.second, i.fraction⟩ = some (i.secondOfDay, i.nanos) := by
  have hday := i.secondOfDay_lt
  have hnanos := h.nanos
  have hleap := h.leap
  unfold Clock.resolve? hour minute second fraction
  unfold nanosPerSecond at *
  dsimp only
  rcases Nat.lt_or_ge i.nanos 1000000000 with hlt | hge
  · rw [if_pos (by omega), if_neg (by omega)]
    congr 2 <;> omega
  · have hsecond : i.secondOfDay % 60 = 59 := by
      have hlast := hleap hge
      unfold secondOfDay
      omega
    rw [if_pos (by omega), if_pos (by omega)]
    congr 2 <;> omega

/-- The date and the time of day of an instant are those of the instant. -/
theorem instantOf?_date (h : i.IsRepresentable) :
    instantOf? i.date ⟨i.hour, i.minute, i.second, i.fraction⟩ 0 = some i := by
  have hseconds : i.date.toDays * 86400 + i.secondOfDay = i.seconds := by
    rw [date, Date.toDays_ofDays, secondOfDay]
    omega
  have hof : ∀ seconds, seconds = i.seconds → of? seconds i.nanos = some i := by
    rintro seconds rfl
    exact if_pos ⟨h.least, h.greatest⟩
  unfold instantOf?
  rw [resolve?_clock h]
  simp only [Option.bind_eq_bind, Option.bind_some]
  rw [if_pos (show i.date.isValid = true from Date.isValid_ofDays _), hof _ hseconds,
    Option.bind_some]
  exact hof _ (Int.sub_zero _)

/-- The numbers of a date and of a time of day have two digits at most. -/
theorem fields_lt (h : i.IsRepresentable) :
    i.date.month < 100 ∧ i.date.day < 100 ∧ i.hour < 100 ∧ i.minute < 100 ∧ i.second < 100 := by
  have hvalid : i.date.isValid = true := Date.isValid_ofDays _
  have hlength : daysInMonth i.date.year i.date.month ≤ 31 := by
    unfold daysInMonth
    split
    · split <;> decide
    · split <;> decide
  simp only [Date.isValid, Bool.and_eq_true, decide_eq_true_eq] at hvalid
  have hday := i.secondOfDay_lt
  have hnanos := h.nanos
  unfold hour minute second
  unfold nanosPerSecond at *
  omega

/-- **Timestamps read back.** -/
theorem readLenient?_zuluText (h : i.IsRepresentable) :
    readLenient? i.zuluText.toList = some i := by
  obtain ⟨hmonth, hday, hhour, hminute, hsecond⟩ := fields_lt h
  have hfraction : i.fraction < nanosPerSecond := Nat.mod_lt _ (by decide)
  have htext : i.zuluText.toList = yearText i.date.year ++
      '-' :: (zeroPadded 2 i.date.month ++ '-' :: (zeroPadded 2 i.date.day ++
        'T' :: (zeroPadded 2 i.hour ++ ':' :: (zeroPadded 2 i.minute ++
          ':' :: (zeroPadded 2 i.second ++ (fractionText i.fraction ++ ['Z'])))))) := by
    simp [zuluText, localText]
  have hseparator : ∀ cs, takeSeparator? ('T' :: cs) = some cs := fun _ => rfl
  have hzone : takeZone? (fun rest => some (skipZoneGap rest)) ['Z'] = some (0, []) := rfl
  rw [htext, readLenient?, takeDate?_text hmonth hday]
  simp only [Option.bind_eq_bind, Option.bind_some, hseparator,
    takeClock?_text hhour hminute hsecond]
  rw [takeFraction?_fractionText hfraction (by decide) (by decide), Option.bind_some,
    Text.trimStart_cons (by decide), if_neg (by decide), hzone]
  have hend : (Text.trimStart []).isEmpty = true ∧ (0 : Int).natAbs < 86400 := by decide
  rw [Option.bind_some, if_pos hend]
  exact instantOf?_date h

end Instant

end ApiGateway.Time
