import ApiGateway.Time.Rfc3339

/-! # Date patterns

A date pattern is text in which a percent sign introduces a field of an instant. `Pattern.parse?`
takes a pattern apart and refuses unknown fields; `Pattern.format` writes an instant. A hyphen, an
underscore or a zero behind the percent sign changes the padding of a field that is a single
number.
-/

set_option autoImplicit false

namespace ApiGateway.Time.Pattern

open Decimal

/-- How a number is brought to its width. -/
inductive Padding where
  | none
  | zeros
  | spaces
  deriving DecidableEq

/-- A field that is a number. -/
inductive NumberField where
  | year
  | century
  | yearOfCentury
  | isoYear
  | isoYearOfCentury
  | quarter
  | month
  | day
  | weekFromSunday
  | weekFromMonday
  | isoWeek
  | daysFromSunday
  | weekdayFromMonday
  | ordinal
  | hour
  | hour12
  | minute
  | second
  | nanosecond
  | epochSeconds
  deriving DecidableEq

/-- A field that is text. -/
inductive TextField where
  | shortMonth
  | longMonth
  | shortWeekday
  | longWeekday
  | lowerHalfDay
  | upperHalfDay
  /-- A point and as many groups of three digits as are needed. -/
  | fraction
  /-- The first `places` digits of the fraction, perhaps behind a point. -/
  | fixedFraction (places : Nat) (point : Bool)
  | zoneName
  | zone
  | zoneColon
  | zoneDoubleColon
  | zoneHours
  | timestamp
  deriving DecidableEq

/-- A part of a pattern. -/
inductive Item where
  | char (c : Char)
  | number (field : NumberField) (padding : Padding)
  | word (field : TextField)
  deriving DecidableEq

/-! ## Reading a pattern -/

private def zero (field : NumberField) : Item := .number field .zeros
private def space (field : NumberField) : Item := .number field .spaces
private def bare (field : NumberField) : Item := .number field .none

/-- Hours, minutes and seconds. -/
private def clockItems : List Item :=
  [zero .hour, .char ':', zero .minute, .char ':', zero .second]

/-- What a letter behind the percent sign stands for. -/
def letter? : Char → Option (List Item)
  | 'A' => some [.word .longWeekday]
  | 'B' => some [.word .longMonth]
  | 'C' => some [zero .century]
  | 'D' => some [zero .month, .char '/', zero .day, .char '/', zero .yearOfCentury]
  | 'F' => some [zero .year, .char '-', zero .month, .char '-', zero .day]
  | 'G' => some [zero .isoYear]
  | 'H' => some [zero .hour]
  | 'I' => some [zero .hour12]
  | 'M' => some [zero .minute]
  | 'P' => some [.word .lowerHalfDay]
  | 'R' => some [zero .hour, .char ':', zero .minute]
  | 'S' => some [zero .second]
  | 'T' => some clockItems
  | 'U' => some [zero .weekFromSunday]
  | 'V' => some [zero .isoWeek]
  | 'W' => some [zero .weekFromMonday]
  | 'X' => some clockItems
  | 'Y' => some [zero .year]
  | 'Z' => some [.word .zoneName]
  | 'a' => some [.word .shortWeekday]
  | 'b' => some [.word .shortMonth]
  | 'c' => some ([.word .shortWeekday, .char ' ', .word .shortMonth, .char ' ', space .day,
      .char ' '] ++ clockItems ++ [.char ' ', zero .year])
  | 'd' => some [zero .day]
  | 'e' => some [space .day]
  | 'f' => some [zero .nanosecond]
  | 'g' => some [zero .isoYearOfCentury]
  | 'h' => some [.word .shortMonth]
  | 'j' => some [zero .ordinal]
  | 'k' => some [space .hour]
  | 'l' => some [space .hour12]
  | 'm' => some [zero .month]
  | 'n' => some [.char '\n']
  | 'p' => some [.word .upperHalfDay]
  | 'q' => some [bare .quarter]
  | 'r' => some [zero .hour12, .char ':', zero .minute, .char ':', zero .second, .char ' ',
      .word .upperHalfDay]
  | 's' => some [bare .epochSeconds]
  | 't' => some [.char '\t']
  | 'u' => some [bare .weekdayFromMonday]
  | 'v' => some [space .day, .char '-', .word .shortMonth, .char '-', zero .year]
  | 'w' => some [bare .daysFromSunday]
  | 'x' => some [zero .month, .char '/', zero .day, .char '/', zero .yearOfCentury]
  | 'y' => some [zero .yearOfCentury]
  | 'z' => some [.word .zone]
  | '+' => some [.word .timestamp]
  | '%' => some [.char '%']
  | _ => none

/-- The padding that a character behind the percent sign asks for. -/
def padding? : Char → Option Padding
  | '-' => some .none
  | '_' => some .spaces
  | '0' => some .zeros
  | _ => none

/-- The letter of a field with another padding, if the field is a single number. -/
def paddedLetter? (padding : Padding) (c : Char) : Option Item :=
  match letter? c with
  | some [.number field _] => some (.number field padding)
  | _ => none

/-- The number of places that a digit asks for in a fraction. -/
def places? : Char → Option Nat
  | '3' => some 3
  | '6' => some 6
  | '9' => some 9
  | _ => none

/-- The items of a pattern, if all its fields are known. -/
def parse? : List Char → Option (List Item)
  | [] => some []
  | '%' :: ':' :: ':' :: ':' :: 'z' :: rest => (parse? rest).map (.word .zoneHours :: ·)
  | '%' :: ':' :: ':' :: 'z' :: rest => (parse? rest).map (.word .zoneDoubleColon :: ·)
  | '%' :: ':' :: 'z' :: rest => (parse? rest).map (.word .zoneColon :: ·)
  | '%' :: '.' :: 'f' :: rest => (parse? rest).map (.word .fraction :: ·)
  | '%' :: '.' :: n :: 'f' :: rest => do
    let places ← places? n
    return .word (.fixedFraction places true) :: (← parse? rest)
  | '%' :: c :: rest =>
    match padding? c, places? c, rest with
    | some padding, _, d :: rest => do
      let item ← paddedLetter? padding d
      return item :: (← parse? rest)
    | none, some places, 'f' :: rest =>
      (parse? rest).map (.word (.fixedFraction places false) :: ·)
    | none, none, rest => do
      let items ← letter? c
      return items ++ (← parse? rest)
    | _, _, _ => none
  | '%' :: [] => none
  | c :: rest => (parse? rest).map (.char c :: ·)

/-! ## Writing an instant -/

/-- A text brought to a width with a filling in front. -/
def fill (c : Char) (width : Nat) (cs : List Char) : List Char :=
  List.replicate (width - cs.length) c ++ cs

/-- A number of at least `width` characters; a sign counts, and zeros go behind it. -/
def numberText (padding : Padding) (width : Nat) (signed : Bool) (n : Int) : List Char :=
  let sign := if n < 0 then ['-'] else if signed then ['+'] else []
  let width := if signed then width + 1 else width
  match padding with
  | .none => sign ++ digitsOf n.natAbs
  | .zeros => sign ++ fill '0' (width - sign.length) (digitsOf n.natAbs)
  | .spaces => fill ' ' width (sign ++ digitsOf n.natAbs)

/-- A year has four digits, and a sign outside 0 to 9999. -/
def yearNumber (padding : Padding) (year : Int) : List Char :=
  numberText padding 4 (year < 0 || year > 9999) year

/-- Two digits of a number below 256; its tens are one character even from 100 on. -/
def twoDigits (padding : Padding) (n : Nat) : List Char :=
  let tens := match n / 10, padding with
    | 0, .none => []
    | 0, .spaces => [' ']
    | t, _ => [Char.ofNat ('0'.toNat + t)]
  tens ++ [Char.ofNat ('0'.toNat + n % 10)]

/-- The hour on a clock face: twelve, then one to eleven. -/
def clockHour (hour : Nat) : Nat := if hour % 12 = 0 then 12 else hour % 12

/-- The text of a number field. Centuries count modulo 256. -/
def NumberField.text (field : NumberField) (padding : Padding) (i : Instant) : List Char :=
  let d := i.date
  let two := twoDigits padding
  match field with
  | .year => yearNumber padding d.year
  | .century => two ((d.year / 100) % 256).toNat
  | .yearOfCentury => two (d.year % 100).toNat
  | .isoYear => yearNumber padding d.isoWeek.1
  | .isoYearOfCentury => two (d.isoWeek.1 % 100).toNat
  | .quarter => digitsOf ((d.month - 1) / 3 + 1)
  | .month => two d.month
  | .day => two d.day
  | .weekFromSunday => two d.weekFromSunday
  | .weekFromMonday => two d.weekFromMonday
  | .isoWeek => two d.isoWeek.2
  | .daysFromSunday => digitsOf d.weekdayFromSunday
  | .weekdayFromMonday => digitsOf (d.weekday + 1)
  | .ordinal => numberText padding 3 false d.ordinal
  | .hour => two i.hour
  | .hour12 => two (clockHour i.hour)
  | .minute => two i.minute
  | .second => two i.second
  | .nanosecond => numberText padding 9 false i.fraction
  | .epochSeconds => numberText padding 9 false i.seconds

/-- The text of a text field. -/
def TextField.text (field : TextField) (i : Instant) : List Char :=
  let d := i.date
  let month := (monthNames.getD (d.month - 1) "").toList
  let weekday := (weekdayNames.getD d.weekday "").toList
  match field with
  | .shortMonth => month.take 3
  | .longMonth => month
  | .shortWeekday => weekday.take 3
  | .longWeekday => weekday
  | .lowerHalfDay => if i.hour < 12 then "am".toList else "pm".toList
  | .upperHalfDay => if i.hour < 12 then "AM".toList else "PM".toList
  | .fraction => fractionText i.fraction
  | .fixedFraction places point =>
    (if point then ['.'] else []) ++ zeroPadded places (i.fraction / Nat.pow 10 (9 - places))
  | .zoneName => "UTC".toList
  | .zone => "+0000".toList
  | .zoneColon => "+00:00".toList
  | .zoneDoubleColon => "+00:00:00".toList
  | .zoneHours => "+00".toList
  | .timestamp => i.text.toList

/-- The text of an item. -/
def Item.text (i : Instant) : Item → List Char
  | .char c => [c]
  | .number field padding => field.text padding i
  | .word field => field.text i

/-- Writes an instant in UTC by a pattern, if the pattern is valid. -/
def format? (i : Instant) (pattern : String) : Option String :=
  (parse? pattern.toList).map fun items => String.ofList (items.flatMap (Item.text i))

end ApiGateway.Time.Pattern
