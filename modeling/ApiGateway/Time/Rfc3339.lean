import ApiGateway.Time.Instant
import ApiGateway.Text.Blank
import ApiGateway.Decimal.Text

/-! # Internet timestamps

Three readings of a timestamp, from strict to lenient, and its two texts. `readStrict?` takes the
fixed-width form with a zone. `readDate?` and `readLocal?` take dates and local times whose numbers
may be short or have blanks in front of them. `readLenient?` combines these with a zone that may
also be written `UTC`.
-/

set_option autoImplicit false

namespace ApiGateway.Time

open Decimal

/-! ## Pieces -/

/-- Between `least` and `most` leading digits as a number, and the rest. -/
def takeNumber? (least most : Nat) (cs : List Char) : Option (Nat × List Char) :=
  let digits := (cs.take most).takeWhile Char.isDigit
  if digits.length < least then none else some (ofDigits digits, cs.drop digits.length)

/-- The text behind a character that must come first. -/
def takeChar? (c : Char) : List Char → Option (List Char)
  | d :: rest => if d = c then some rest else none
  | [] => none

/-- Nanoseconds behind a point, if there is a point: up to nine digits count, and further digits
are passed over. -/
def takeFraction? : List Char → Option (Nat × List Char)
  | '.' :: rest =>
    let (digits, rest) := spanDigits rest
    if digits.isEmpty then none
    else
      let counted := digits.take 9
      some (ofDigits counted * Nat.pow 10 (9 - counted.length), rest)
  | rest => some (0, rest)

/-- A zone as seconds east of UTC: `Z`, or a sign, two digits for hours, what `separator` passes
over, and two digits for minutes below sixty. -/
def takeZone? (separator : List Char → Option (List Char)) :
    List Char → Option (Int × List Char)
  | 'Z' :: rest => some (0, rest)
  | 'z' :: rest => some (0, rest)
  | sign :: rest =>
    if sign = '+' ∨ sign = '-' ∨ sign = '−' then do
      let (hours, rest) ← takeNumber? 2 2 rest
      let rest ← separator rest
      let (minutes, rest) ← takeNumber? 2 2 rest
      if minutes < 60 then
        let seconds : Int := hours * 3600 + minutes * 60
        some (if sign = '+' then seconds else -seconds, rest)
      else none
    else none
  | [] => none

/-- A date and a time may be separated by either case of `t` or by a space. -/
def takeSeparator? : List Char → Option (List Char)
  | c :: rest => if c = 'T' ∨ c = 't' ∨ c = ' ' then some rest else none
  | [] => none

/-! ## The strict form -/

/-- Reads `YYYY-MM-DDThh:mm:ss`, an optional fraction and a zone of less than a day. -/
def readStrict? (cs : List Char) : Option Instant := do
  let (year, cs) ← takeNumber? 4 4 cs
  let (month, cs) ← takeNumber? 2 2 (← takeChar? '-' cs)
  let (day, cs) ← takeNumber? 2 2 (← takeChar? '-' cs)
  let (hour, cs) ← takeNumber? 2 2 (← takeSeparator? cs)
  let (minute, cs) ← takeNumber? 2 2 (← takeChar? ':' cs)
  let (second, cs) ← takeNumber? 2 2 (← takeChar? ':' cs)
  let (nanos, cs) ← takeFraction? cs
  let (offset, cs) ← takeZone? (takeChar? ':') cs
  if cs.isEmpty ∧ offset.natAbs ≤ (23 * 60 + 59) * 60 then
    instantOf? ⟨year, month, day⟩ ⟨hour, minute, second, nanos⟩ offset
  else none

/-! ## Lenient forms -/

/-- A year: up to four digits, or a sign and any number of digits. -/
def takeYear? (cs : List Char) : Option (Int × List Char) :=
  match Text.trimStart cs with
  | '-' :: rest => (takeNumber? 1 rest.length rest).map fun (n, rest) => (-(n : Int), rest)
  | '+' :: rest => (takeNumber? 1 rest.length rest).map fun (n, rest) => ((n : Int), rest)
  | rest => (takeNumber? 1 4 rest).map fun (n, rest) => ((n : Int), rest)

/-- One or two digits, perhaps behind blanks. -/
def takeShort? (cs : List Char) : Option (Nat × List Char) := takeNumber? 1 2 (Text.trimStart cs)

/-- A year, a month and a day; `gap` passes over what may stand before a hyphen. -/
def takeDate? (gap : List Char → List Char) (cs : List Char) : Option (Date × List Char) := do
  let (year, cs) ← takeYear? cs
  let (month, cs) ← takeShort? (← takeChar? '-' (gap cs))
  let (day, cs) ← takeShort? (← takeChar? '-' (gap cs))
  return (⟨year, month, day⟩, cs)

/-- An hour, a minute and a second; `gap` passes over what may stand before a colon. -/
def takeClock? (gap : List Char → List Char) (cs : List Char) : Option (Clock × List Char) := do
  let (hour, cs) ← takeShort? cs
  let (minute, cs) ← takeShort? (← takeChar? ':' (gap cs))
  let (second, cs) ← takeShort? (← takeChar? ':' (gap cs))
  return (⟨hour, minute, second, 0⟩, cs)

/-- Reads a date alone, as midnight in UTC. -/
def readDate? (cs : List Char) : Option Instant := do
  let (date, cs) ← takeDate? id cs
  if cs.isEmpty then instantOf? date ⟨0, 0, 0, 0⟩ 0 else none

/-- Reads a date and a time of day with whole seconds, in UTC. -/
def readLocal? (cs : List Char) : Option Instant := do
  let (date, cs) ← takeDate? id cs
  let (clock, cs) ← takeClock? id (← takeChar? 'T' cs)
  if cs.isEmpty then instantOf? date clock 0 else none

/-- The characters that may stand between the hours and the minutes of a lenient zone. -/
def skipZoneGap (cs : List Char) : List Char := cs.dropWhile fun c => c == ':' || Text.isBlank c

/-- Reads a date, a time of day and a zone, with blanks around the parts. -/
def readLenient? (cs : List Char) : Option Instant := do
  let (date, cs) ← takeDate? Text.trimStart cs
  let (clock, cs) ← takeClock? Text.trimStart (← takeSeparator? cs)
  let (nanos, cs) ← takeFraction? cs
  let cs := Text.trimStart cs
  let (offset, cs) ←
    if (cs.take 3).map Char.toUpper = ['U', 'T', 'C'] then some (0, cs.drop 3)
    else takeZone? (fun rest => some (skipZoneGap rest)) cs
  if (Text.trimStart cs).isEmpty ∧ offset.natAbs < 86400 then
    instantOf? date { clock with nanos := nanos } offset
  else none

/-! ## Writing -/

/-- The decimal digits of a number, filled up with zeros in front. -/
def zeroPadded (width n : Nat) : List Char :=
  let digits := digitsOf n
  List.replicate (width - digits.length) '0' ++ digits

/-- A year in four digits, or with a sign and at least four digits outside 0 to 9999. -/
def yearText (year : Int) : List Char :=
  if 0 ≤ year ∧ year ≤ 9999 then zeroPadded 4 year.natAbs
  else (if year < 0 then '-' else '+') :: zeroPadded 4 year.natAbs

/-- A fraction of a second behind a point, with three, six or nine digits, whichever is the first
to lose nothing; none for a whole second. -/
def fractionText (nanos : Nat) : List Char :=
  if nanos = 0 then []
  else if nanos % 1000000 = 0 then '.' :: zeroPadded 3 (nanos / 1000000)
  else if nanos % 1000 = 0 then '.' :: zeroPadded 6 (nanos / 1000)
  else '.' :: zeroPadded 9 nanos

/-- The date and the time of day of an instant, without a zone. -/
def localText (i : Instant) : List Char :=
  let d := i.date
  yearText d.year ++ '-' :: zeroPadded 2 d.month ++ '-' :: zeroPadded 2 d.day ++
    'T' :: zeroPadded 2 i.hour ++ ':' :: zeroPadded 2 i.minute ++ ':' :: zeroPadded 2 i.second ++
    fractionText i.fraction

/-- The text of an instant with UTC as a numeric zone. -/
def Instant.text (i : Instant) : String := String.ofList (localText i ++ "+00:00".toList)

/-- The text of an instant with UTC written `Z`. -/
def Instant.zuluText (i : Instant) : String := String.ofList (localText i ++ ['Z'])

end ApiGateway.Time
