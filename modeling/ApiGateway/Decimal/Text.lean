import ApiGateway.Decimal.Shortest

/-! # Decimal text

Reading numbers from decimal digits and writing floats as their shortest decimals. `FloatFormat`
gathers what a format decides beyond the digits: which exponents are written out in positional
notation and how an exponent is marked.
-/

set_option autoImplicit false

namespace ApiGateway.Decimal

open Binary64

/-! ## Reading -/

/-- The value of an ASCII digit. -/
def digitValue (c : Char) : Nat := c.toNat - '0'.toNat

/-- The number that a text of ASCII digits writes, most significant first. -/
def ofDigits (cs : List Char) : Nat := cs.foldl (fun n c => 10 * n + digitValue c) 0

/-- The leading ASCII digits of a text and what follows them. -/
def spanDigits (cs : List Char) : List Char × List Char :=
  (cs.takeWhile Char.isDigit, cs.dropWhile Char.isDigit)

theorem length_spanDigits_snd_le (cs : List Char) : (spanDigits cs).2.length ≤ cs.length :=
  (List.dropWhile_sublist _).length_le

/-- The decimal digits of a number, most significant first. -/
def digitsOf (n : Nat) : List Char := Nat.toDigits 10 n

/-- The decimal text of an integer. -/
def intText (n : Int) : List Char :=
  if n < 0 then '-' :: digitsOf n.natAbs else digitsOf n.natAbs

/-- Takes a sign off the front of a text: whether it was a minus, and the rest. -/
def takeSign : List Char → Bool × List Char
  | '-' :: cs => (true, cs)
  | '+' :: cs => (false, cs)
  | cs => (false, cs)

/-- Digits with an optional sign. -/
def readInt? (cs : List Char) : Option Int :=
  let (negative, digits) := takeSign cs
  if digits.isEmpty || !digits.all Char.isDigit then none
  else
    let n : Int := ofDigits digits
    some (if negative then -n else n)

/-- A signed 64-bit integer: digits with an optional sign. -/
def readInt64? (cs : List Char) : Option Int :=
  (readInt? cs).filter fun n => minInt64 ≤ n && n ≤ maxInt64

/-- A number up to `limit`: digits, perhaps with a plus sign in front. -/
def readNat? (limit : Nat) (cs : List Char) : Option Nat :=
  let digits := match cs with
    | '+' :: rest => rest
    | _ => cs
  if digits.isEmpty || !digits.all Char.isDigit then none
  else some (ofDigits digits) |>.filter (· ≤ limit)

/-- The float nearest to `± mantissa · 10 ^ exponent`, ties to even; beyond the range it is
infinite. The two guards only keep powers of ten small whose effect is certain. -/
def nearest (negative : Bool) (mantissa : Nat) (exponent : Int) : Float :=
  let size : Int := (digitsOf mantissa).length + exponent
  let magnitude : Float :=
    if mantissa = 0 ∨ size < -400 then 0.0
    else if size > 400 then 1.0 / 0.0
    else if 0 ≤ exponent then Float.ofScientific mantissa false exponent.toNat
    else Float.ofScientific mantissa true (-exponent).toNat
  if negative then -magnitude else magnitude

/-- A decimal numeral taken apart: `whole.fraction` times ten to the `exponent`. -/
structure Numeral where
  whole : List Char
  fraction : List Char
  exponent : Int
  deriving DecidableEq

/-- The float nearest to a numeral with the given sign. -/
def Numeral.toFloat (n : Numeral) (negative : Bool) : Float :=
  nearest negative (ofDigits (n.whole ++ n.fraction)) (n.exponent - n.fraction.length)

/-- The exponent that may follow a numeral: a mark in either case, an optional sign, digits. -/
def readExponent? : List Char → Option Int
  | [] => some 0
  | mark :: cs =>
    if mark = 'e' ∨ mark = 'E' then readInt? cs else none

/-- A numeral with digits before or after the point, and an optional exponent. -/
def readNumeral? (cs : List Char) : Option Numeral :=
  let (whole, rest) := spanDigits cs
  let (fraction, rest) := match rest with
    | '.' :: rest => spanDigits rest
    | _ => ([], rest)
  if whole.isEmpty && fraction.isEmpty then none
  else (readExponent? rest).map fun exponent => ⟨whole, fraction, exponent⟩

/-- A float: a numeral, `inf`, `infinity` or `nan` in any case, with an optional sign. -/
def readFloat? (cs : List Char) : Option Float :=
  let (negative, body) := takeSign cs
  let word := String.ofList (body.map Char.toLower)
  if word = "inf" ∨ word = "infinity" then some (if negative then -1.0 / 0.0 else 1.0 / 0.0)
  else if word = "nan" then some (0.0 / 0.0)
  else (readNumeral? body).map (·.toFloat negative)

/-! ## Writing -/

/-- The decisions of a text format for floats: exponents from `least` up to but not including
`bound` are written in positional notation, all others behind an `e` with a sign. -/
structure FloatFormat where
  least : Int
  bound : Int

/-- The text of `digits · 10 ^ exponent`, where `exponent` is that of the first digit. In
positional notation at least one digit follows the point. -/
def Digits.text (format : FloatFormat) (d : Digits) : List Char :=
  let ds := digitsOf d.digits
  if format.least ≤ d.exponent ∧ d.exponent < format.bound then
    if d.exponent < 0 then
      "0.".toList ++ List.replicate (-d.exponent - 1).toNat '0' ++ ds
    else
      let places := d.exponent.toNat + 1
      if ds.length ≤ places then
        ds ++ List.replicate (places - ds.length) '0' ++ ".0".toList
      else ds.take places ++ '.' :: ds.drop places
  else
    let sign := if d.exponent < 0 then '-' else '+'
    ds.take 1 ++ (if ds.length = 1 then [] else '.' :: ds.drop 1) ++
      'e' :: sign :: digitsOf d.exponent.natAbs

/-- The text of a finite float: its sign, then its shortest decimal. Zero keeps its sign. -/
def floatText (format : FloatFormat) (x : Float) : List Char :=
  match decode x with
  | .nan => "NaN".toList
  | .infinite negative => if negative then "-inf".toList else "inf".toList
  | .finite d =>
    let magnitude :=
      if d.mantissa = 0 then "0.0".toList else (shortest d.mantissa d.exponent).text format
    if d.negative then '-' :: magnitude else magnitude

end ApiGateway.Decimal
