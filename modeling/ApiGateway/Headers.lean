import ApiGateway.Keyed
import ApiGateway.Text.Case

/-! # Headers

Headers are a keyed list of texts. Beside `Keyed.put`, which keys them by the exact name, `set` and
`find?` ignore the case of ASCII letters; `set` takes out every header of the name and adds the new
one at the end.
-/

set_option autoImplicit false

namespace ApiGateway

/-- Names and values in order. -/
abbrev Headers := Keyed String

namespace Headers

/-- Replaces every header of a name, in any case, by one at the end. -/
def set (name value : String) (headers : Headers) : Headers :=
  headers.filter (fun (n, _) => !Text.equalIgnoringCase n name) ++ [(name, value)]

/-- The value of the first header of a name, in any case. -/
def find? (name : String) (headers : Headers) : Option String :=
  (List.find? (fun (n, _) => Text.equalIgnoringCase n name) headers).map (·.2)

end Headers

end ApiGateway
