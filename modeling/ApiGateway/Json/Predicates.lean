import ApiGateway.Json.Basic
import ApiGateway.Text.Blank

/-! # Values that count

A value is *meaningful* if it says anything at all; required fields and headers must be
meaningful. It is *truthy* if the logical operators take it for true. The two differ: zero and
`false` are meaningful, and a blank string is truthy.
-/

set_option autoImplicit false

namespace ApiGateway.Json

/-- Neither null, nor a blank string, nor an empty array or object. -/
def isMeaningful : Json → Bool
  | .null => false
  | .str s => !Text.isAllBlank s
  | .arr items => !items.isEmpty
  | .obj members => !members.isEmpty
  | _ => true

/-- Neither null, nor `false`, nor zero, nor an empty string, array or object. -/
def isTruthy : Json → Bool
  | .null => false
  | .bool b => b
  | .num n => !n.isZero
  | .str s => !s.isEmpty
  | .arr items => !items.isEmpty
  | .obj members => !members.isEmpty

end ApiGateway.Json
