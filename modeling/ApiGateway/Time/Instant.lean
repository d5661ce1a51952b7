import ApiGateway.Time.Calendar

/-! # Instants

An instant is a point of time in UTC: whole seconds from the start of 1970, and nanoseconds. A
leap second shares the second before it and has a nanosecond count from `10 ^ 9` on. Instants are
representable from the start of the year -262143 to the end of the year 262142.
-/

set_option autoImplicit false

namespace ApiGateway.Time

/-- A point of time. -/
structure Instant where
  seconds : Int
  nanos : Nat
  deriving DecidableEq, Repr, Inhabited

/-- Nanoseconds in a second. -/
def nanosPerSecond : Nat := 1000000000

namespace Instant

/-- The first second that is representable. -/
def minSeconds : Int := (Date.mk (-262143) 1 1).toDays * 86400

/-- The last second that is representable. -/
def maxSeconds : Int := (Date.mk 262142 12 31).toDays * 86400 + 86399

/-- The earliest instant. -/
def earliest : Instant := ⟨minSeconds, 0⟩

/-- The instant with these seconds and nanoseconds, if it is representable. -/
def of? (seconds : Int) (nanos : Nat) : Option Instant :=
  if minSeconds ≤ seconds ∧ seconds ≤ maxSeconds then some ⟨seconds, nanos⟩ else none

/-- The first instant comes strictly before the second. -/
def isBefore (a b : Instant) : Bool :=
  a.seconds < b.seconds || (a.seconds == b.seconds && a.nanos < b.nanos)

/-- The instant a number of seconds earlier, if it is representable. A leap second that is left
counts as the second that it is next to on the way: the one behind it for earlier instants, the one
before it for later ones. -/
def minusSeconds? (i : Instant) (seconds : Int) : Option Instant :=
  if i.nanos < nanosPerSecond ∨ seconds = 0 then of? (i.seconds - seconds) i.nanos
  else
    let first := if 0 < seconds then i.seconds + 1 else i.seconds
    of? (first - seconds) (i.nanos - nanosPerSecond)

/-- The date of an instant. -/
def date (i : Instant) : Date := Date.ofDays (i.seconds / 86400)

/-- The second of the day. -/
def secondOfDay (i : Instant) : Nat := (i.seconds % 86400).toNat

/-- The hour of the day. -/
def hour (i : Instant) : Nat := i.secondOfDay / 3600

/-- The minute of the hour. -/
def minute (i : Instant) : Nat := i.secondOfDay / 60 % 60

/-- The second of the minute; a leap second is number 60. -/
def second (i : Instant) : Nat := i.secondOfDay % 60 + i.nanos / nanosPerSecond

/-- The nanoseconds of the second. -/
def fraction (i : Instant) : Nat := i.nanos % nanosPerSecond

end Instant

/-- A time of day as it is read: second 60 is a leap second. -/
structure Clock where
  hour : Nat
  minute : Nat
  second : Nat
  nanos : Nat

/-- The second of the day and the nanoseconds of a reading, if it names a time of day. -/
def Clock.resolve? (c : Clock) : Option (Nat × Nat) :=
  if c.hour < 24 ∧ c.minute < 60 ∧ c.second ≤ 60 then
    let base := c.hour * 3600 + c.minute * 60
    if c.second = 60 then some (base + 59, c.nanos + nanosPerSecond)
    else some (base + c.second, c.nanos)
  else none

/-- The instant of a date and a time of day in a zone `offset` seconds east of UTC. -/
def instantOf? (d : Date) (c : Clock) (offset : Int) : Option Instant := do
  let (second, nanos) ← c.resolve?
  if d.isValid then
    let localTime ← Instant.of? (d.toDays * 86400 + second) nanos
    Instant.of? (localTime.seconds - offset) nanos
  else none

end ApiGateway.Time
