import ApiGateway.Binary64

/-! # Shortest decimals

The shortest decimal of a positive binary64 value is the one with the fewest digits among all
that round to the value, and among those with as few digits the one nearest to it. The reals that
round to `mantissa · 2 ^ exponent` form an interval with the midpoints to the two neighbouring
floats as its ends; the ends belong to it exactly if the mantissa is even. `shortest` tries one
digit, two digits and so on. On the grid of decimals with that many digits only the two
neighbours of the value can be nearest.
-/

set_option autoImplicit false

namespace ApiGateway.Decimal

open Binary64

/-- The decimal `digits · 10 ^ (exponent - (length - 1))`: the digits of a number, most significant
first, and the decimal exponent of the first of them. -/
structure Digits where
  digits : Nat
  exponent : Int
  deriving DecidableEq, Repr

/-- A positive rational `numerator / denominator`. -/
structure Ratio where
  numerator : Nat
  denominator : Nat

/-- `n · b ^ e` as a ratio. -/
def Ratio.scaled (n base : Nat) (e : Int) : Ratio :=
  if 0 ≤ e then ⟨n * Nat.pow base e.toNat, 1⟩ else ⟨n, Nat.pow base (-e).toNat⟩

/-- The ratio times `10 ^ e`. -/
def Ratio.shift (r : Ratio) (e : Int) : Ratio :=
  if 0 ≤ e then ⟨r.numerator * Nat.pow 10 e.toNat, r.denominator⟩
  else ⟨r.numerator, r.denominator * Nat.pow 10 (-e).toNat⟩

/-- The greatest `x` with `10 ^ x ≤ r`: a guess from the binary logarithm, moved by at most one
place. -/
def Ratio.decimalExponent (r : Ratio) : Int :=
  let binary : Int := (r.numerator.log2 : Int) - r.denominator.log2
  let guess := Int.fdiv (binary * 30103) 100000 - 1
  let atLeast (x : Int) : Bool :=
    let p := Ratio.scaled 1 10 x
    p.numerator * r.denominator ≤ r.numerator * p.denominator
  if atLeast (guess + 2) then guess + 2
  else if atLeast (guess + 1) then guess + 1
  else if atLeast guess then guess
  else guess - 1

/-- The reals that round to a float: from `low` to `high` in units of `1 / denominator`, with or
without its ends. -/
structure Interval where
  low : Nat
  high : Nat
  denominator : Nat
  closed : Bool

/-- The reals that round to `mantissa · 2 ^ exponent`. Below a power of two the floats lie twice as
close, except at the bottom of the range. -/
def Interval.ofDyadic (mantissa : Nat) (exponent : Int) : Interval :=
  let below := if mantissa = 0x10000000000000 ∧ exponent > -1074 then 1 else 2
  let scale := Ratio.scaled 1 2 (exponent - 2)
  ⟨(4 * mantissa - below) * scale.numerator, (4 * mantissa + 2) * scale.numerator,
    scale.denominator, mantissa % 2 == 0⟩

/-- The interval holds the real `n · 10 ^ e`. -/
def Interval.has (i : Interval) (n : Nat) (e : Int) : Bool :=
  let r := Ratio.scaled n 10 e
  let low := compare (i.low * r.denominator) (r.numerator * i.denominator)
  let high := compare (r.numerator * i.denominator) (i.high * r.denominator)
  if i.closed then low != .gt && high != .gt else low == .lt && high == .lt

/-- Drops the last digit while it is zero. -/
def stripZeros (fuel n : Nat) : Nat :=
  match fuel with
  | 0 => n
  | fuel + 1 => if n ≠ 0 ∧ n % 10 = 0 then stripZeros fuel (n / 10) else n

/-- Searches the grids of `places + 1` digits and more for the decimal nearest to `value` that the
interval holds. -/
def search (i : Interval) (value : Ratio) (exponent : Int) (fuel places : Nat) : Digits :=
  let unit : Int := exponent - places
  let scaled := value.shift (-unit)
  let lower := scaled.numerator / scaled.denominator
  let rest := scaled.numerator % scaled.denominator
  let nearest :=
    match compare (2 * rest) scaled.denominator with
    | .lt => lower
    | .gt => lower + 1
    | .eq => if lower % 2 = 0 then lower else lower + 1
  let other := if nearest = lower then lower + 1 else lower
  let found :=
    if i.has nearest unit then some nearest else if i.has other unit then some other else none
  match found, fuel with
  | some n, _ =>
    let carried := n = Nat.pow 10 (places + 1)
    ⟨stripZeros (places + 1) n, if carried then exponent + 1 else exponent⟩
  | none, fuel + 1 => search i value exponent fuel (places + 1)
  | none, 0 => ⟨stripZeros (places + 1) nearest, exponent⟩

/-- The shortest decimal of `mantissa · 2 ^ exponent`, for a positive mantissa. -/
def shortest (mantissa : Nat) (exponent : Int) : Digits :=
  let value := Ratio.scaled mantissa 2 exponent
  search (Interval.ofDyadic mantissa exponent) value value.decimalExponent 17 0

end ApiGateway.Decimal
