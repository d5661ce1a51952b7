/-! # The functions of the expression language

The registry is fixed: every function has one name and takes a number of arguments between two
bounds, the upper of which may be missing.
-/

set_option autoImplicit false

namespace ApiGateway.Expression

/-- A function that expressions may call. -/
inductive Function where
  | upper
  | lower
  | trim
  | substring
  | replace
  | length
  | concat
  | coalesce
  | round
  | floor
  | ceil
  | abs
  | scale
  | toNumber
  | toText
  | dateFormat
  | sha256
  | hmacSha256
  | base64Encode
  | jsonEncode
  deriving DecidableEq, Repr, Inhabited

namespace Function

/-- All functions. -/
def all : List Function :=
  [.upper, .lower, .trim, .substring, .replace, .length, .concat, .coalesce, .round, .floor, .ceil,
    .abs, .scale, .toNumber, .toText, .dateFormat, .sha256, .hmacSha256, .base64Encode,
    .jsonEncode]

/-- The name under which a function is called. -/
def name : Function → String
  | .upper => "upper"
  | .lower => "lower"
  | .trim => "trim"
  | .substring => "substring"
  | .replace => "replace"
  | .length => "length"
  | .concat => "concat"
  | .coalesce => "coalesce"
  | .round => "round"
  | .floor => "floor"
  | .ceil => "ceil"
  | .abs => "abs"
  | .scale => "scale"
  | .toNumber => "to_number"
  | .toText => "to_string"
  | .dateFormat => "date_format"
  | .sha256 => "sha256"
  | .hmacSha256 => "hmac_sha256"
  | .base64Encode => "base64_encode"
  | .jsonEncode => "json_encode"

/-- The function with a name. -/
def ofName? (name : String) : Option Function := all.find? (·.name == name)

/-- How many arguments a function takes at least and at most. -/
def arity : Function → Nat × Option Nat
  | .upper | .lower | .trim | .length | .floor | .ceil | .abs | .toNumber | .toText | .sha256
  | .base64Encode | .jsonEncode => (1, some 1)
  | .round => (1, some 2)
  | .substring => (2, some 3)
  | .scale | .dateFormat | .hmacSha256 => (2, some 2)
  | .replace => (3, some 3)
  | .concat | .coalesce => (1, none)

/-- The function takes this number of arguments. -/
def accepts (f : Function) (count : Nat) : Bool :=
  f.arity.1 ≤ count && (f.arity.2.all (count ≤ ·))

theorem mem_all (f : Function) : f ∈ all := by cases f <;> decide

theorem ofName?_name (f : Function) : ofName? f.name = some f := by cases f <;> decide

end Function

end ApiGateway.Expression
