/-! # Exact readings of binary64 numbers

A finite `Float` is `± mantissa · 2 ^ exponent`. `decode` takes its bits apart, `ofDyadic` puts
them together again, and the functions in between (truncation, rounding to an integer, the
remainder of a division) work on the exact value, so that none of them rounds by accident.
-/

set_option autoImplicit false

namespace ApiGateway.Binary64

/-- The exact value `± mantissa · 2 ^ exponent`. -/
structure Dyadic where
  negative : Bool
  mantissa : Nat
  exponent : Int
  deriving DecidableEq, Repr

/-- What a bit pattern stands for. -/
inductive Reading where
  | nan
  | infinite (negative : Bool)
  | finite (value : Dyadic)
  deriving DecidableEq, Repr

/-- The reading of a bit pattern: sign, eleven exponent bits, fifty-two fraction bits. -/
def decodeBits (bits : UInt64) : Reading :=
  let negative := bits >>> 63 == 1
  let biased := ((bits >>> 52) &&& 0x7FF).toNat
  let fraction := (bits &&& 0xFFFFFFFFFFFFF).toNat
  if biased = 0x7FF then
    if fraction = 0 then .infinite negative else .nan
  else if biased = 0 then .finite ⟨negative, fraction, -1074⟩
  else .finite ⟨negative, fraction + 0x10000000000000, (biased : Int) - 1075⟩

/-- The reading of a float. -/
def decode (x : Float) : Reading := decodeBits x.toBits

/-- The value is neither infinite nor *not a number*. -/
def isFinite (x : Float) : Bool :=
  match decode x with
  | .finite _ => true
  | _ => false

/-- The float with the given value, which is exact whenever a float has that value. -/
def ofDyadic (d : Dyadic) : Float :=
  let sign : Nat := if d.negative then 0x8000000000000000 else 0
  if d.mantissa = 0 then Float.ofBits (UInt64.ofNat sign)
  else
    let top : Int := d.exponent + d.mantissa.log2
    let lowest : Int := if top < -1022 then -1074 else top - 52
    let shift := d.exponent - lowest
    let fraction := if shift < 0 then d.mantissa >>> (-shift).toNat else d.mantissa <<< shift.toNat
    let biased : Nat := if top < -1022 then 0 else (top + 1023).toNat
    if biased ≥ 0x7FF then Float.ofBits (UInt64.ofNat (sign + 0x7FF <<< 52))
    else Float.ofBits (UInt64.ofNat (sign + biased <<< 52 + fraction % 0x10000000000000))

/-- The integer part of the magnitude, and whether something is left over. -/
def Dyadic.split (d : Dyadic) : Nat × Bool :=
  if 0 ≤ d.exponent then (d.mantissa <<< d.exponent.toNat, false)
  else
    let unit := 1 <<< (-d.exponent).toNat
    (d.mantissa / unit, d.mantissa % unit != 0)

/-- An integer with the sign of a value. -/
def Dyadic.signed (d : Dyadic) (magnitude : Nat) : Int :=
  if d.negative then -(magnitude : Int) else magnitude

/-- The value without its fraction. -/
def Dyadic.truncate (d : Dyadic) : Int := d.signed d.split.1

/-- The value has no fraction. -/
def isIntegral (x : Float) : Bool :=
  match decode x with
  | .finite d => !d.split.2
  | _ => false

/-- The integer a float is equal to, if it is equal to one. -/
def toInt? (x : Float) : Option Int :=
  match decode x with
  | .finite d => if d.split.2 then none else some d.truncate
  | _ => none

/-- The least signed 64-bit integer. -/
def minInt64 : Int := -0x8000000000000000

/-- The greatest signed 64-bit integer. -/
def maxInt64 : Int := 0x7FFFFFFFFFFFFFFF

/-- The greatest unsigned 64-bit integer. -/
def maxUInt64 : Int := 0xFFFFFFFFFFFFFFFF

/-- An integer moved to the nearest end of the interval from `low` to `high`. -/
def clamp (low high n : Int) : Int := max low (min high n)

/-- The float without its fraction as an integer of the given interval: values beyond an end
become that end, and *not a number* becomes zero. -/
def toIntWithin (low high : Int) (x : Float) : Int :=
  match decode x with
  | .nan => clamp low high 0
  | .infinite negative => if negative then low else high
  | .finite d => clamp low high d.truncate

/-- The float moved to an integer by a rule that is told the sign, the integer part of the
magnitude and the twice-scaled remainder compared with one half. Integral floats stay. -/
def roundBy (rule : (negative : Bool) → (rest half : Ordering) → Nat) (x : Float) : Float :=
  match decode x with
  | .finite d =>
    if 0 ≤ d.exponent then x
    else
      let unit := 1 <<< (-d.exponent).toNat
      let rest := d.mantissa % unit
      let up := rule d.negative (compare rest 0) (compare (2 * rest) unit)
      ofDyadic ⟨d.negative, d.mantissa / unit + up, 0⟩
  | _ => x

/-- The nearest integer; a half goes away from zero. -/
def round : Float → Float := roundBy fun _ _ half => if half = .lt then 0 else 1

/-- The greatest integer that is not above. -/
def floor : Float → Float := roundBy fun negative rest _ => if negative && rest = .gt then 1 else 0

/-- The least integer that is not below. -/
def ceil : Float → Float := roundBy fun negative rest _ => if !negative && rest = .gt then 1 else 0

/-- The remainder of the division that truncates its quotient, exactly; it has the sign of the
dividend. -/
def remainder (x y : Float) : Float :=
  match decode x, decode y with
  | .finite a, .finite b =>
    if b.mantissa = 0 then 0.0 / 0.0
    else
      let lowest := min a.exponent b.exponent
      let dividend := a.mantissa <<< (a.exponent - lowest).toNat
      let divisor := b.mantissa <<< (b.exponent - lowest).toNat
      ofDyadic ⟨a.negative, dividend % divisor, lowest⟩
  | .finite _, .infinite _ => x
  | _, _ => 0.0 / 0.0

/-- The absolute value. -/
def abs (x : Float) : Float := if x < 0.0 then -x else x

/-- The float nearest to an integer, ties to even. -/
def ofInt (n : Int) : Float := Float.ofInt n

/-- Squares and multiplies from the lowest bit of the exponent up; `fuel` bounds the number of
bits. -/
def powNatFrom (fuel : Nat) (result base : Float) (exponent : Nat) : Float :=
  match fuel with
  | 0 => result
  | fuel + 1 =>
    let result := if exponent % 2 = 1 then result * base else result
    if exponent / 2 = 0 then result else powNatFrom fuel result (base * base) (exponent / 2)

/-- A power with an integer exponent, by repeated squaring in floating point; a negative exponent
inverts the power of its absolute value. -/
def pow (base : Float) (exponent : Int) : Float :=
  let power := powNatFrom (exponent.natAbs + 1) 1.0 base exponent.natAbs
  if exponent < 0 then 1.0 / power else power

end ApiGateway.Binary64
