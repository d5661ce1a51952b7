/-! # The Gregorian calendar

Days are counted from 1 January 1970, and the calendar is extended to all years. `Date.toDays`
and `Date.ofDays` go back and forth; years begin in March inside both, so that the leap day comes
last.
-/

set_option autoImplicit false

namespace ApiGateway.Time

/-- A day of the calendar: a year, a month from 1 and a day of the month from 1. -/
structure Date where
  year : Int
  month : Nat
  day : Nat
  deriving DecidableEq, Repr

/-- A leap year. -/
def isLeap (year : Int) : Bool := year % 4 == 0 && (year % 100 != 0 || year % 400 == 0)

/-- The number of days of a month. -/
def daysInMonth (year : Int) (month : Nat) : Nat :=
  if month = 2 then if isLeap year then 29 else 28
  else if month = 4 ∨ month = 6 ∨ month = 9 ∨ month = 11 then 30
  else 31

namespace Date

/-- The month and the day exist. -/
def isValid (d : Date) : Bool :=
  1 ≤ d.month && d.month ≤ 12 && 1 ≤ d.day && d.day ≤ daysInMonth d.year d.month

/-- The number of days from 1 January 1970. -/
def toDays (d : Date) : Int :=
  let year : Int := if d.month ≤ 2 then d.year - 1 else d.year
  let month : Int := if d.month ≤ 2 then d.month + 9 else d.month - 3
  let dayOfYear : Int := (153 * month + 2) / 5 + d.day - 1
  let era := year / 400
  let yearOfEra := year % 400
  era * 146097 + (yearOfEra * 365 + yearOfEra / 4 - yearOfEra / 100 + dayOfYear) - 719468

/-- The date that lies a number of days after 1 January 1970. -/
def ofDays (days : Int) : Date :=
  let shifted := days + 719468
  let era := shifted / 146097
  let dayOfEra := shifted % 146097
  let yearOfEra :=
    (dayOfEra - dayOfEra / 1460 + dayOfEra / 36524 - dayOfEra / 146096) / 365
  let dayOfYear := dayOfEra - (365 * yearOfEra + yearOfEra / 4 - yearOfEra / 100)
  let month := (5 * dayOfYear + 2) / 153
  let day := dayOfYear - (153 * month + 2) / 5 + 1
  let year := yearOfEra + era * 400
  if month < 10 then ⟨year, (month + 3).toNat, day.toNat⟩
  else ⟨year + 1, (month - 9).toNat, day.toNat⟩

/-- The day of the week: Monday is 0 and Sunday is 6. -/
def weekday (d : Date) : Nat := ((d.toDays + 3) % 7).toNat

/-- The day of the week counted from Sunday. -/
def weekdayFromSunday (d : Date) : Nat := (d.weekday + 1) % 7

/-- The day of the year, from 1. -/
def ordinal (d : Date) : Nat := (d.toDays - (Date.mk d.year 1 1).toDays).toNat + 1

/-- The number of the week in the year if weeks begin on Monday; days before the first Monday are
in week 0. -/
def weekFromMonday (d : Date) : Nat := (d.ordinal + 6 - d.weekday) / 7

/-- The number of the week in the year if weeks begin on Sunday; days before the first Sunday are
in week 0. -/
def weekFromSunday (d : Date) : Nat := (d.ordinal + 6 - d.weekdayFromSunday) / 7

/-- The ISO year and week: those of the Thursday of the week, where weeks begin on Monday. -/
def isoWeek (d : Date) : Int × Nat :=
  let thursday := ofDays (d.toDays - d.weekday + 3)
  (thursday.year, (thursday.ordinal - 1) / 7 + 1)

end Date

/-- The names of the months. -/
def monthNames : List String :=
  ["January", "February", "March", "April", "May", "June", "July", "August", "September",
    "October", "November", "December"]

/-- The names of the days of the week, from Monday. -/
def weekdayNames : List String :=
  ["Monday", "Tuesday", "Wednesday", "Thursday", "Friday", "Saturday", "Sunday"]

end ApiGateway.Time
