import ApiGateway.Decimal.Text

/-! # JSON numbers

A number is an integer of 64 bits, signed or unsigned, or a binary64 float. The two stay apart:
`1` and `1.0` are different numbers with different texts. `Number.InRange` says which integers and
floats a JSON document can hold.
-/

set_option autoImplicit false

namespace ApiGateway

open Binary64

namespace Json

/-- A JSON number. -/
inductive Number where
  | int (value : Int)
  | float (value : Float)
  deriving DecidableEq

namespace Number

instance : Inhabited Number := ⟨.int 0⟩

/-- The integers that fit 64 bits, signed or unsigned, and the finite floats. -/
def InRange : Number → Prop
  | .int n => minInt64 ≤ n ∧ n ≤ maxUInt64
  | .float x => isFinite x = true

instance : DecidablePred InRange := fun n => by
  cases n <;> unfold InRange <;> infer_instance

/-- Exponents from -5 to 15 are written out; all others follow an `e` with a sign. -/
def floatFormat : Decimal.FloatFormat := ⟨-5, 16⟩

/-- The JSON text of a number. -/
def text : Number → List Char
  | .int n => Decimal.intText n
  | .float x => Decimal.floatText floatFormat x

/-- The number as a signed 64-bit integer; floats are never integers. -/
def toInt64? : Number → Option Int
  | .int n => if minInt64 ≤ n ∧ n ≤ maxInt64 then some n else none
  | .float _ => none

/-- The number as an unsigned 64-bit integer; floats are never integers. -/
def toUInt64? : Number → Option Nat
  | .int n => if 0 ≤ n ∧ n ≤ maxUInt64 then some n.toNat else none
  | .float _ => none

/-- The float nearest to the number. -/
def toFloat : Number → Float
  | .int n => ofInt n
  | .float x => x

/-- The number is zero, with either sign. -/
def isZero : Number → Bool
  | .int n => n == 0
  | .float x => x == 0.0

end Number

end Json

end ApiGateway
