import ApiGateway.Expression.Arithmetic
import ApiGateway.Digest.Sha256
import ApiGateway.Text.Case
import ApiGateway.Text.Occurrence
import ApiGateway.Time.Pattern
import ApiGateway.Time.Reading
import ApiGateway.Json.Canonical

/-! # Calling functions

Every function is a pure function of its arguments. Most pass null through. Where a text is
expected, a number or a truth value stands for its JSON text, and arrays and objects are refused.
-/

set_option autoImplicit false

namespace ApiGateway.Expression

open Json (Number)
open Binary64

/-- The outcome of a call before the function is named. -/
abbrev CallOutcome := Except CallFault Json

/-! ## Arguments -/

/-- The text of a scalar. -/
def scalarText (v : Json) : Except CallFault String :=
  match v with
  | .arr _ | .obj _ => .error (.type "a scalar" v.kind)
  | _ => .ok v.plain

/-- The number of a value, or none for null. -/
def optionalNumber : Json → Except CallFault (Option Float)
  | .null => .ok none
  | .num n => .ok (some n.toFloat)
  | v => .error (.type "a number" v.kind)

/-- The absolute value in 64 bits, where the least integer is its own. -/
def wrappingAbs (n : Int) : Int := if n = minInt64 then minInt64 else n.natAbs

/-- A number as an integer of at most 308 in absolute value. Floats must be integral, and those
beyond 64 bits count as the nearest end of the range. -/
def smallInteger (n : Number) : Except CallFault Int :=
  let candidate := match n.toInt64? with
    | some k => some k
    | none =>
      let x := n.toFloat
      if isIntegral x then some (toIntWithin minInt64 maxInt64 x) else none
  match candidate.filter (wrappingAbs · ≤ 308) with
  | some k => .ok k
  | none => .error (.notSmallInteger n)

/-- An argument that must be a small integer. -/
def integerArgument : Json → Except CallFault Int
  | .num n => smallInteger n
  | v => .error (.type "an integer" v.kind)

/-- An integer narrowed to its lowest 32 bits, with a sign. -/
def narrow32 (n : Int) : Int := Int.bmod n 0x100000000

/-- A float as the result of a call. -/
def finiteResult (x : Float) : CallOutcome :=
  match ofFloat? x with
  | some v => .ok v
  | none => .error .notFinite

/-! ## Bodies -/

/-- Applies a function on texts, and leaves null alone. -/
def mapText (f : String → String) (v : Json) : CallOutcome :=
  match v with
  | .null => .ok .null
  | _ => (scalarText v).map fun s => .str (f s)

/-- Applies a function on floats, and leaves integers and null alone. -/
def mapNumber (f : Float → Float) (v : Json) : CallOutcome :=
  match v with
  | .num (.int _) => .ok v
  | _ => do
    match ← optionalNumber v with
    | some x => finiteResult (f x)
    | none => .ok .null

/-- The characters of a text from a position on, perhaps only a number of them. -/
def substring (v start : Json) (length : Option Json) : CallOutcome :=
  match v with
  | .null => .ok .null
  | _ => do
    let text ← scalarText v
    let first ← integerArgument start
    if first < 0 then throw (.negativeStart first)
    let rest := text.toList.drop first.toNat
    match length with
    | none => return .str (String.ofList rest)
    | some length =>
      let count ← integerArgument length
      if count < 0 then throw (.negativeLength count)
      return .str (String.ofList (rest.take count.toNat))

/-- Replaces every occurrence of a text; an empty text does not occur. -/
def replaceText (v pattern replacement : Json) : CallOutcome :=
  match v with
  | .null => .ok .null
  | _ => do
    let text ← scalarText v
    let pattern ← scalarText pattern
    if pattern.isEmpty then return .str text
    let replacement ← scalarText replacement
    return .str (String.ofList
      (Text.replaceAll pattern.toList replacement.toList text.toList))

/-- The number of characters, items or members. -/
def lengthOf : Json → CallOutcome
  | .null => .ok (.int 0)
  | .str s => .ok (.nat s.length)
  | .arr items => .ok (.nat items.length)
  | .obj members => .ok (.nat members.length)
  | v => .error (.type "a string, array or object" v.kind)

/-- Rounds to a number of decimal places, by scaling up and down again. -/
def roundTo (v : Json) (places : Option Json) : CallOutcome := do
  match ← optionalNumber v with
  | none => return .null
  | some x =>
    let places ← match places with
      | some v => integerArgument v
      | none => .ok 0
    let factor := pow 10.0 (narrow32 places)
    finiteResult (round (x * factor) / factor)

/-- Moves the decimal point. -/
def scaleBy (v exponent : Json) : CallOutcome := do
  match ← optionalNumber v with
  | none => return .null
  | some x =>
    let e ← integerArgument exponent
    let factor := pow 10.0 (narrow32 e.natAbs)
    finiteResult (if 0 ≤ e then x * factor else x / factor)

/-- The number that a value stands for. -/
def toNumber (v : Json) : CallOutcome :=
  match v with
  | .null => .ok .null
  | .num _ => .ok v
  | .bool b => .ok (.int (if b then 1 else 0))
  | .str text =>
    let cs := Text.trimChars text.toList
    match Decimal.readInt64? cs with
    | some n => .ok (.int n)
    | none =>
      match (Decimal.readFloat? cs).bind ofFloat? with
      | some v => .ok v
      | none => .error (.notANumber text)
  | v => .error (.type "a string, number or boolean" v.kind)

/-- Writes a point of time by a pattern. -/
def formatDate (v pattern : Json) : CallOutcome :=
  match v with
  | .null => .ok .null
  | _ =>
    match Time.ofJson? v with
    | none => .error (.notADate v)
    | some i => do
      let pattern ← scalarText pattern
      match Time.Pattern.format? i pattern with
      | some text => return .str text
      | none => throw (.invalidPattern pattern)

/-- The keyed hash of a text in hexadecimal. -/
def keyedHash (payload key : Json) : CallOutcome :=
  match key with
  | .null => .error .nullKey
  | _ => do
    let payload ← scalarText payload
    let key ← scalarText key
    return .str (Digest.hex (Digest.hmac (Digest.utf8 key) (Digest.utf8 payload)))

/-- The absolute value of a number. -/
def absolute (v : Json) : Outcome :=
  match v with
  | .num (.int n) =>
    if 0 ≤ n then .ok v else checkedInt Function.abs.name n.natAbs
  | _ =>
    match mapNumber Binary64.abs v with
    | .ok v => .ok v
    | .error fault => .error (.call .abs fault)

/-- Calls a function other than `abs`. A missing argument counts as null. -/
def callPlain (f : Function) (arguments : List Json) : CallOutcome :=
  let first := arguments.getD 0 .null
  let second := arguments.getD 1 .null
  match f with
  | .upper => mapText Text.upper first
  | .lower => mapText Text.lower first
  | .trim => mapText Text.trim first
  | .substring => substring first second arguments[2]?
  | .replace => replaceText first second (arguments.getD 2 .null)
  | .length => lengthOf first
  | .concat => .ok (.str (String.join (arguments.map Json.plain)))
  | .coalesce => .ok ((arguments.find? (· ≠ .null)).getD .null)
  | .round => roundTo first arguments[1]?
  | .floor => mapNumber floor first
  | .ceil => mapNumber ceil first
  | .abs => mapNumber Binary64.abs first
  | .scale => scaleBy first second
  | .toNumber => toNumber first
  | .toText => .ok (if first = .null then .null else .str first.plain)
  | .dateFormat => formatDate first second
  | .sha256 => (scalarText first).map fun s => .str (Digest.hex (Digest.sha256 (Digest.utf8 s)))
  | .hmacSha256 => keyedHash first second
  | .base64Encode => (scalarText first).map fun s => .str (Digest.base64 (Digest.utf8 s))
  | .jsonEncode => .ok (.str first.canonical)

/-- Calls a function. -/
def callFunction (f : Function) (arguments : List Json) : Outcome :=
  match f with
  | .abs => absolute (arguments.getD 0 .null)
  | _ =>
    match callPlain f arguments with
    | .ok v => .ok v
    | .error fault => .error (.call f fault)

end ApiGateway.Expression
