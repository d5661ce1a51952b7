import ApiGateway.Time.Rfc3339
import ApiGateway.Json.Basic

/-! # Values read as points of time

A number counts seconds from the start of 1970. A text is a timestamp with a zone, a date, a local
time taken as UTC, or a whole number of seconds, whichever fits first.
-/

set_option autoImplicit false

namespace ApiGateway.Time

open Binary64

/-- The instant that a text stands for. -/
def ofText? (text : String) : Option Instant :=
  let cs := Text.trimChars text.toList
  if cs.isEmpty then none
  else
    match readStrict? cs with
    | some i => some i
    | none =>
      match readDate? cs with
      | some i => some i
      | none =>
        match readLocal? cs with
        | some i => some i
        | none => (Decimal.readInt64? cs).bind (Instant.of? · 0)

/-- The instant a number of seconds after the start of 1970, to the nearest nanosecond of its
second. -/
def ofSeconds? (seconds : Float) : Option Instant :=
  if isFinite seconds then
    let whole := floor seconds
    let nanos := toIntWithin 0 0xFFFFFFFF (round ((seconds - whole) * 1000000000.0))
    Instant.of? (toIntWithin minInt64 maxInt64 whole) (min nanos.toNat 999999999)
  else none

/-- The instant that a value stands for. -/
def ofJson? : Json → Option Instant
  | .num n =>
    match n.toInt64? with
    | some seconds => Instant.of? seconds 0
    | none => ofSeconds? n.toFloat
  | .str s => ofText? s
  | _ => none

end ApiGateway.Time
