import ApiGateway.Time.Instant
import ApiGateway.Text.Blank
import ApiGateway.Decimal.Text

/-! # Retention windows

A retention window is written as an amount and a unit, such as `30d`. Its cutoff is the oldest
instant that is still retained.
-/

set_option autoImplicit false

namespace ApiGateway.Time

/-- A unit of retention. -/
inductive RetentionUnit where
  | seconds
  | minutes
  | hours
  | days
  | weeks
  deriving DecidableEq, Repr

/-- The letter of a unit. -/
def RetentionUnit.letter : RetentionUnit → Char
  | .seconds => 's'
  | .minutes => 'm'
  | .hours => 'h'
  | .days => 'd'
  | .weeks => 'w'

/-- The number of seconds in a unit. -/
def RetentionUnit.length : RetentionUnit → Nat
  | .seconds => 1
  | .minutes => 60
  | .hours => 3600
  | .days => 86400
  | .weeks => 604800

/-- The unit of a letter in either case. -/
def RetentionUnit.ofLetter? (c : Char) : Option RetentionUnit :=
  match c.toLower with
  | 's' => some .seconds
  | 'm' => some .minutes
  | 'h' => some .hours
  | 'd' => some .days
  | 'w' => some .weeks
  | _ => none

/-- A retention window. -/
structure Retention where
  amount : Nat
  unit : RetentionUnit
  deriving DecidableEq, Repr

/-- Why a text is no retention window. -/
inductive RetentionError where
  | empty
  | unknownUnit (letter : Char)
  | invalidAmount (digits : String)
  deriving DecidableEq, Repr

/-- The wording of an error. -/
def RetentionError.message : RetentionError → String
  | .empty => "retention is empty; expected e.g. '30d'"
  | .unknownUnit c =>
    "unknown retention unit '" ++ c.toString ++ "'; expected one of s, m, h, d, w"
  | .invalidAmount digits => "invalid retention amount '" ++ digits ++ "'"

namespace Retention

/-- Reads an amount that a signed 64-bit integer holds, and the letter of a unit right behind
it. -/
def ofText (text : String) : Except RetentionError Retention :=
  match (Text.trimChars text.toList).reverse with
  | [] => .error .empty
  | letter :: reversed =>
    match RetentionUnit.ofLetter? letter with
    | none => .error (.unknownUnit letter.toLower)
    | some unit =>
      let digits := reversed.reverse
      match (Decimal.readInt64? digits).filter (0 ≤ ·) with
      | some amount => .ok ⟨amount.toNat, unit⟩
      | none => .error (.invalidAmount (String.ofList digits))

/-- The text of a window. -/
def text (r : Retention) : String :=
  String.ofList (Decimal.digitsOf r.amount ++ [r.unit.letter])

/-- The length of a window in seconds, at most the greatest signed 64-bit integer. -/
def seconds (r : Retention) : Int := min (r.amount * r.unit.length : Int) Binary64.maxInt64

/-- The longest span, in seconds, whose milliseconds a signed 64-bit integer holds. -/
def longestSpan : Int := Binary64.maxInt64 / 1000

/-- The length of a window as a span of time. Windows beyond the longest span have none. -/
def span? (r : Retention) : Option Int := if r.seconds ≤ longestSpan then some r.seconds else none

/-- The oldest instant retained at `now`, and the earliest instant at all if the window reaches
beyond it. Windows that are no span of time have no cutoff. -/
def cutoff? (r : Retention) (now : Instant) : Option Instant :=
  r.span?.map fun span => (now.minusSeconds? span).getD Instant.earliest

end Retention

end ApiGateway.Time
