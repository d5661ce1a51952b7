import ApiGateway.Expression.Syntax
import ApiGateway.Json.Printer
import ApiGateway.Json.Predicates

/-! # Operators on values

Integer operands are computed exactly and overflow is an error; all other numbers are computed in
floating point, and an integral result of moderate size becomes an integer again. A missing operand
makes the result of an arithmetic operator null. Equality looks through the two kinds of numbers,
at any depth.
-/

set_option autoImplicit false

namespace ApiGateway.Expression

open Json (Number)
open Binary64

/-- Why the call of a function fails. -/
inductive CallFault where
  | type (expected : String) (found : String)
  | notSmallInteger (n : Number)
  | negativeStart (n : Int)
  | negativeLength (n : Int)
  | notFinite
  | notADate (value : Json)
  | invalidPattern (pattern : String)
  | nullKey
  | notANumber (text : String)
  deriving DecidableEq

/-- The wording of a fault. -/
def CallFault.message : CallFault → String
  | .type expected found => "expected " ++ expected ++ ", got " ++ found
  | .notSmallInteger n => "expected a small integer, got " ++ String.ofList n.text
  | .negativeStart n =>
    "start index must not be negative, got " ++ String.ofList (Decimal.intText n)
  | .negativeLength n => "length must not be negative, got " ++ String.ofList (Decimal.intText n)
  | .notFinite => "result is not a finite number"
  | .notADate v => "cannot interpret " ++ v.render ++ " as a date"
  | .invalidPattern pattern => "invalid date pattern '" ++ pattern ++ "'"
  | .nullKey => "signing key is null"
  | .notANumber text => "'" ++ text ++ "' is not a number"

/-- Why an expression has no value. -/
inductive RuntimeError where
  | binaryType (op : StrictOp) (left right : String)
  | unaryType (operand : String)
  | divisionByZero
  | overflow (operation : String)
  | nonFinite
  | call (function : Function) (fault : CallFault)
  deriving DecidableEq

/-- The wording of an error. -/
def RuntimeError.message : RuntimeError → String
  | .binaryType op left right =>
    "operator '" ++ op.symbol ++ "' cannot be applied to " ++ left ++ " and " ++ right
  | .unaryType operand => "operator '-' cannot be applied to " ++ operand
  | .divisionByZero => "division by zero"
  | .overflow operation => "integer overflow in '" ++ operation ++ "'"
  | .nonFinite => "arithmetic produced a non-finite number"
  | .call f fault => f.name ++ "(): " ++ fault.message

/-- The outcome of an evaluation. -/
abbrev Outcome := Except RuntimeError Json

/-! ## Numbers -/

/-- A signed 64-bit integer as a value; others overflow. -/
def checkedInt (operation : String) (n : Int) : Outcome :=
  if minInt64 ≤ n ∧ n ≤ maxInt64 then .ok (.int n) else .error (.overflow operation)

/-- A float as a value: an integer if it is integral and below `2 ^ 53` in magnitude, else itself.
Infinities and *not a number* are no values. -/
def ofFloat? (x : Float) : Option Json :=
  if isFinite x then
    match toInt? x with
    | some n => if n.natAbs < 0x20000000000000 then some (.int n) else some (.num (.float x))
    | none => some (.num (.float x))
  else none

/-- The outcome of floating-point arithmetic. -/
def ofFloat (x : Float) : Outcome :=
  match ofFloat? x with
  | some v => .ok v
  | none => .error .nonFinite

/-- The opposite of a value. -/
def negate : Json → Outcome
  | .null => .ok .null
  | .num n =>
    match n.toInt64? with
    | some k => checkedInt "-" (-k)
    | none => ofFloat (-n.toFloat)
  | v => .error (.unaryType v.kind)

/-- Exact arithmetic on integers. Division is not among its operators. -/
def intArithmetic (op : StrictOp) (a b : Int) : Outcome :=
  match op with
  | .add => checkedInt op.symbol (a + b)
  | .subtract => checkedInt op.symbol (a - b)
  | .multiply => checkedInt op.symbol (a * b)
  | _ =>
    if b = 0 then .error .divisionByZero
    else if a = minInt64 ∧ b = -1 then .error (.overflow op.symbol)
    else .ok (.int (Int.tmod a b))

/-- Arithmetic on floats. -/
def floatArithmetic (op : StrictOp) (a b : Float) : Outcome :=
  match op with
  | .add => ofFloat (a + b)
  | .subtract => ofFloat (a - b)
  | .multiply => ofFloat (a * b)
  | .divide => if b == 0.0 then .error .divisionByZero else ofFloat (a / b)
  | _ => if b == 0.0 then .error .divisionByZero else ofFloat (remainder a b)

/-- Arithmetic on numbers: exact where both are signed 64-bit integers and nothing is divided. -/
def numberArithmetic (op : StrictOp) (a b : Number) : Outcome :=
  match if op = .divide then none else a.toInt64?, b.toInt64? with
  | some m, some n => intArithmetic op m n
  | _, _ => floatArithmetic op a.toFloat b.toFloat

/-- Arithmetic on values. -/
def arithmetic (op : StrictOp) : Json → Json → Outcome
  | .null, _ => .ok .null
  | _, .null => .ok .null
  | .num a, .num b => numberArithmetic op a b
  | l, r => .error (.binaryType op l.kind r.kind)

/-! ## Comparison -/

/-- Two numbers are equal: as integers if both are signed 64-bit integers, else as floats. -/
def numbersEqual (a b : Number) : Bool :=
  match a.toInt64?, b.toInt64? with
  | some m, some n => m == n
  | _, _ => a.toFloat == b.toFloat

mutual

/-- Equality of values at every depth, where an integer may equal a float. -/
def valuesEqual : Json → Json → Bool
  | .null, .null => true
  | .bool a, .bool b => a == b
  | .num a, .num b => numbersEqual a b
  | .str a, .str b => a == b
  | .arr a, .arr b => itemsEqual a b
  | .obj a, .obj b => membersEqual a b
  | _, _ => false

@[inherit_doc valuesEqual]
def itemsEqual : List Json → List Json → Bool
  | [], [] => true
  | a :: as, b :: bs => valuesEqual a b && itemsEqual as bs
  | _, _ => false

/-- Equality of members whose keys ascend. -/
def membersEqual : List (String × Json) → List (String × Json) → Bool
  | [], [] => true
  | (k, a) :: as, (l, b) :: bs => k == l && valuesEqual a b && membersEqual as bs
  | _, _ => false

end

/-- The order of two floats; *not a number* has none. -/
def compareFloats (a b : Float) : Option Ordering :=
  if a < b then some .lt
  else if a == b then some .eq
  else if b < a then some .gt
  else none

/-- The order of two numbers. -/
def compareNumbers (a b : Number) : Option Ordering :=
  match a.toInt64?, b.toInt64? with
  | some m, some n => some (compare m n)
  | _, _ => compareFloats a.toFloat b.toFloat

/-- The order of two texts by their characters' code points. -/
def compareTexts (a b : String) : Ordering :=
  if a < b then .lt else if a = b then .eq else .gt

/-- The order of two values, for the operator that asks. Only numbers and only texts have an
order. -/
def compareValues (op : StrictOp) (l r : Json) : Except RuntimeError Ordering :=
  let order := match l, r with
    | .num a, .num b => compareNumbers a b
    | .str a, .str b => some (compareTexts a b)
    | _, _ => none
  match order with
  | some o => .ok o
  | none => .error (.binaryType op l.kind r.kind)

/-- Whether an order satisfies a comparison operator. -/
def StrictOp.holds (op : StrictOp) (o : Ordering) : Bool :=
  match op with
  | .less => o == .lt
  | .lessEqual => o != .gt
  | .greater => o == .gt
  | _ => o != .lt

/-- Applies a strict operator to the values of its operands. A text on either side turns addition
into concatenation. -/
def applyStrict (op : StrictOp) (l r : Json) : Outcome :=
  match op with
  | .equal => .ok (.bool (valuesEqual l r))
  | .notEqual => .ok (.bool (!valuesEqual l r))
  | .less | .lessEqual | .greater | .greaterEqual =>
    (compareValues op l r).map fun o => .bool (op.holds o)
  | .add =>
    if l.string?.isSome || r.string?.isSome then .ok (.str (l.plain ++ r.plain))
    else arithmetic .add l r
  | _ => arithmetic op l r

/-! ## Access -/

/-- The member of a value, or null. -/
def memberOf (v : Json) (name : String) : Json := (v.get? name).getD .null

/-- The item of an array at a number, or the member of an object under a text, or null. -/
def itemAt : Json → Json → Json
  | .arr items, .num n => (n.toUInt64?.bind (items[·]?)).getD .null
  | .obj members, .str key => (Json.find? key members).getD .null
  | _, _ => .null

end ApiGateway.Expression
