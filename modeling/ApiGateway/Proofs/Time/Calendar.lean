import ApiGateway.Time.Calendar

/-! # The calendar goes back and forth

A day number has a date that exists, and that date has the day number again
(`Date.isValid_ofDays`, `Date.toDays_ofDays`). Both rest on the position of a day in its era of 400
years: `yearOf` is the year of the era in which a day lies, since it grows with the day and changes
at the start of each year.
-/

set_option autoImplicit false

namespace ApiGateway.Time.Date

/-- The first day of a year of an era, where years begin in March. -/
def yearStart (year : Nat) : Nat := 365 * year + year / 4 - year / 100

/-- The days of an era less those that leap years add, so that every year has 365 of them. -/
def evened (day : Nat) : Nat := day - day / 1460 + day / 36524 - day / 146096

/-- The year of an era in which a day lies. -/
def yearOf (day : Nat) : Nat := evened day / 365

theorem evened_mono {a b : Nat} (h : a ≤ b) : evened a ≤ evened b := by
  have hleap : b / 1460 + a ≤ a / 1460 + b := by omega
  have hcentury : b / 146096 + a / 36524 ≤ a / 146096 + b / 36524 := by omega
  unfold evened
  omega

/-- Checked year by year: a year of an era begins where `evened` reaches a multiple of 365. -/
theorem evened_yearStart {year : Nat} (h : year < 400) :
    365 * year ≤ evened (yearStart year) ∧
      (0 < year → evened (yearStart year - 1) < 365 * year) := by
  have hall : ∀ year < 400, 365 * year ≤ evened (yearStart year) ∧
      (0 < year → evened (yearStart year - 1) < 365 * year) := by decide +kernel
  exact hall year h

theorem yearOf_lt {day : Nat} (h : day < 146097) : yearOf day < 400 := by
  have hlast : evened day ≤ evened 146096 := evened_mono (by omega)
  have hvalue : evened 146096 = 145999 := by decide
  unfold yearOf
  omega

/-- A day lies in its year. -/
theorem yearStart_yearOf_le {day : Nat} (h : day < 146097) : yearStart (yearOf day) ≤ day := by
  refine Nat.le_of_not_lt fun hlt => ?_
  obtain ⟨_, hbefore⟩ := evened_yearStart (yearOf_lt h)
  have hpos : 0 < yearOf day := by
    rcases Nat.eq_zero_or_pos (yearOf day) with hzero | hpos
    · rw [hzero] at hlt
      exact absurd hlt (Nat.not_lt_zero day)
    · exact hpos
  have hmono : evened day ≤ evened (yearStart (yearOf day) - 1) := evened_mono (by omega)
  have hyear : 365 * yearOf day ≤ evened day := Nat.mul_div_le _ _
  have := hbefore hpos
  omega

/-- A day lies before the next year. -/
theorem lt_yearStart_succ {day : Nat} (hyear : yearOf day + 1 < 400) :
    day < yearStart (yearOf day + 1) := by
  refine Nat.lt_of_not_le fun hge => ?_
  obtain ⟨hstart, _⟩ := evened_yearStart hyear
  have hmono : evened (yearStart (yearOf day + 1)) ≤ evened day := evened_mono (by omega)
  have hnext : evened day < 365 * (yearOf day + 1) := Nat.lt_mul_div_succ _ (by decide)
  omega

/-! ## Days of a year -/

/-- The day of the year in which a day lies. -/
def dayOfYear (day : Nat) : Nat := day - yearStart (yearOf day)

/-- Only in a leap year is there a day number 365; the leap day is the last of its year. -/
theorem dayOfYear_le {day : Nat} (h : day < 146097) :
    dayOfYear day ≤ 365 ∧
      (dayOfYear day = 365 → (yearOf day + 1) % 4 = 0 ∧
        ((yearOf day + 1) % 100 ≠ 0 ∨ (yearOf day + 1) % 400 = 0)) := by
  have hyear := yearOf_lt h
  have hstart := yearStart_yearOf_le h
  rcases Nat.lt_or_ge (yearOf day + 1) 400 with hlt | hge
  · have hnext := lt_yearStart_succ hlt
    have hfour : (yearOf day + 1) / 4 = yearOf day / 4 ∨
        ((yearOf day + 1) / 4 = yearOf day / 4 + 1 ∧ (yearOf day + 1) % 4 = 0) := by omega
    have hhundred : ((yearOf day + 1) / 100 = yearOf day / 100 ∧ (yearOf day + 1) % 100 ≠ 0) ∨
        (yearOf day + 1) / 100 = yearOf day / 100 + 1 := by omega
    unfold dayOfYear yearStart at *
    omega
  · have hlast : yearOf day = 399 := by omega
    unfold dayOfYear yearStart at *
    rw [hlast] at *
    omega

/-- The month of a day of the year, counted from March. -/
def monthOf (dayOfYear : Nat) : Nat := (5 * dayOfYear + 2) / 153

/-- The first day of a month, counted from March. -/
def monthStart (month : Nat) : Nat := (153 * month + 2) / 5

/-- The number of days of a month counted from March, in a year whose February has its leap day. -/
def monthLength (month : Nat) : Nat :=
  if month = 11 then 29 else if month = 1 ∨ month = 3 ∨ month = 6 ∨ month = 8 then 30 else 31

/-- Checked day by day: a day lies in its month, and the leap day is the last one. -/
theorem monthStart_monthOf_le {day : Nat} (h : day ≤ 365) :
    monthOf day ≤ 11 ∧ monthStart (monthOf day) ≤ day ∧
      day - monthStart (monthOf day) + 1 ≤ monthLength (monthOf day) ∧
      (day - monthStart (monthOf day) + 1 = 29 → monthOf day = 11 → day = 365) := by
  have hall : ∀ day < 366, monthOf day ≤ 11 ∧ monthStart (monthOf day) ≤ day ∧
      day - monthStart (monthOf day) + 1 ≤ monthLength (monthOf day) ∧
      (day - monthStart (monthOf day) + 1 = 29 → monthOf day = 11 → day = 365) := by
    decide +kernel
  exact hall day (by omega)

/-! ## Dates -/

/-- The date of a day of an era. -/
theorem ofDays_eq (era : Int) {day : Nat} (h : day < 146097) :
    ofDays (era * 146097 + day - 719468) =
      if monthOf (dayOfYear day) < 10 then
        ⟨yearOf day + era * 400, monthOf (dayOfYear day) + 3,
          dayOfYear day - monthStart (monthOf (dayOfYear day)) + 1⟩
      else
        ⟨yearOf day + era * 400 + 1, monthOf (dayOfYear day) - 9,
          dayOfYear day - monthStart (monthOf (dayOfYear day)) + 1⟩ := by
  have hera : (era * 146097 + day - 719468 + 719468) / 146097 = era := by omega
  have hday : (era * 146097 + day - 719468 + 719468) % 146097 = day := by omega
  have hyear : ((day : Int) - day / 1460 + day / 36524 - day / 146096) / 365 = yearOf day := by
    unfold yearOf evened
    omega
  have hstart := yearStart_yearOf_le h
  have hdoy : (day : Int) - (365 * yearOf day + yearOf day / 4 - yearOf day / 100) =
      dayOfYear day := by
    unfold dayOfYear yearStart at *
    omega
  have hmonth : (5 * (dayOfYear day : Int) + 2) / 153 = monthOf (dayOfYear day) := by
    unfold monthOf
    omega
  obtain ⟨_, hbegin, _⟩ := monthStart_monthOf_le (dayOfYear_le h).1
  unfold ofDays
  simp only [hera, hday, hyear, hdoy, hmonth]
  have hdate : ((dayOfYear day : Int) - (153 * (monthOf (dayOfYear day) : Int) + 2) / 5 + 1).toNat =
      dayOfYear day - monthStart (monthOf (dayOfYear day)) + 1 := by
    unfold monthStart at *
    omega
  rw [hdate]
  split
  · rename_i hlt
    rw [if_pos (by omega)]
    congr 1
  · rename_i hge
    rw [if_neg (by omega)]
    congr 1
    omega

/-- Every day number is a day of an era. -/
theorem exists_era (days : Int) :
    ∃ (era : Int) (day : Nat), day < 146097 ∧ days = era * 146097 + day - 719468 :=
  ⟨(days + 719468) / 146097, ((days + 719468) % 146097).toNat, by omega, by omega⟩

/-- The months from March to December are as long in every year. -/
theorem daysInMonth_of_lt (year : Int) {month : Nat} (h : month < 10) :
    daysInMonth year (month + 3) = monthLength month := by
  have hall : ∀ month < 10, (if month + 3 = 4 ∨ month + 3 = 6 ∨ month + 3 = 9 ∨ month + 3 = 11
      then 30 else 31) = monthLength month := by decide
  rw [daysInMonth, if_neg (by omega)]
  exact hall month h

theorem isLeap_next {year : Nat} {era : Int} (hfour : (year + 1) % 4 = 0)
    (hcentury : (year + 1) % 100 ≠ 0 ∨ (year + 1) % 400 = 0) :
    isLeap (year + era * 400 + 1) = true := by
  simp only [isLeap, Bool.and_eq_true, Bool.or_eq_true, beq_iff_eq, bne_iff_ne]
  omega

/-- The date of a day number exists. -/
theorem isValid_ofDays (days : Int) : (ofDays days).isValid = true := by
  obtain ⟨era, day, h, rfl⟩ := exists_era days
  obtain ⟨hdoy, hleap⟩ := dayOfYear_le h
  obtain ⟨hmonth, hbegin, hlength, hlast⟩ := monthStart_monthOf_le hdoy
  rw [ofDays_eq era h]
  split
  · rename_i hlt
    simp only [isValid, daysInMonth_of_lt _ hlt, Bool.and_eq_true, decide_eq_true_eq]
    omega
  · rename_i hge
    have hcases : monthOf (dayOfYear day) = 10 ∨ monthOf (dayOfYear day) = 11 := by omega
    rcases hcases with heq | heq
    · rw [heq] at hlength ⊢
      simp only [isValid, Bool.and_eq_true, decide_eq_true_eq]
      exact ⟨⟨⟨by decide, by decide⟩, Nat.le_add_left _ _⟩, hlength⟩
    · have hfebruary : dayOfYear day - monthStart 11 + 1 ≤
          daysInMonth (yearOf day + era * 400 + 1) 2 := by
        rw [heq] at hlength hlast
        have hshort : dayOfYear day - monthStart 11 + 1 ≤ 29 := hlength
        rw [daysInMonth, if_pos rfl]
        by_cases hfull : dayOfYear day - monthStart 11 + 1 = 29
        · obtain ⟨hfour, hcentury⟩ := hleap (hlast hfull rfl)
          rw [if_pos (isLeap_next hfour hcentury)]
          exact hshort
        · split <;> omega
      rw [heq]
      simp only [isValid, Bool.and_eq_true, decide_eq_true_eq]
      exact ⟨⟨⟨by decide, by decide⟩, Nat.le_add_left _ _⟩, hfebruary⟩

/-- The date of a day number has that number. -/
theorem toDays_ofDays (days : Int) : (ofDays days).toDays = days := by
  obtain ⟨era, day, h, rfl⟩ := exists_era days
  have hyear := yearOf_lt h
  have hstart := yearStart_yearOf_le h
  obtain ⟨hmonth, hbegin, _⟩ := monthStart_monthOf_le (dayOfYear_le h).1
  have hdate : ∀ month : Int, month = monthOf (dayOfYear day) →
      (153 * month + 2) / 5 + ((dayOfYear day - monthStart (monthOf (dayOfYear day)) + 1 : Nat) :
        Int) - 1 = dayOfYear day := by
    rintro month rfl
    unfold monthStart at *
    omega
  have hera : (yearOf day + era * 400) / 400 = era := by omega
  have hremainder : (yearOf day + era * 400) % 400 = yearOf day := by omega
  have hday : (yearOf day : Int) * 365 + yearOf day / 4 - yearOf day / 100 + dayOfYear day =
      day := by
    unfold dayOfYear yearStart at *
    omega
  rw [ofDays_eq era h]
  split
  · rename_i hlt
    have hmonths : ((monthOf (dayOfYear day) + 3 : Nat) : Int) - 3 = monthOf (dayOfYear day) := by
      omega
    simp only [toDays]
    rw [if_neg (by omega), if_neg (by omega), hdate _ hmonths, hera, hremainder, hday]
  · rename_i hge
    have hmonths : ((monthOf (dayOfYear day) - 9 : Nat) : Int) + 9 = monthOf (dayOfYear day) := by
      omega
    have hyears : (yearOf day : Int) + era * 400 + 1 - 1 = yearOf day + era * 400 := by omega
    simp only [toDays]
    rw [if_pos (by omega), if_pos (by omega), hdate _ hmonths, hyears, hera, hremainder, hday]

end ApiGateway.Time.Date
