import ApiGateway.Json.Printer

/-! # Canonical JSON

The canonical text of a value is its compact text with the members of every object in ascending
order of their keys, so that it does not depend on the order in which members were supplied.
Signatures are computed over it. An absent body has the empty text, which no value has.
-/

set_option autoImplicit false

namespace ApiGateway.Json

/-- The canonical text of a tree. -/
def canonical (v : Json) : String := v.normalize.render

/-- The canonical text of a body that may be absent. -/
def canonicalBody : Option Json → String
  | none => ""
  | some v => v.canonical

end ApiGateway.Json
