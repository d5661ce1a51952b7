import ApiGateway.Headers
import ApiGateway.Json.Reader
import ApiGateway.Json.Printer
import ApiGateway.Text.Blank

/-! # Transport

What goes to a vendor and what comes back: requests, answers with any status, and failures that
happen before there is a status.
-/

set_option autoImplicit false

namespace ApiGateway

/-- A prepared request. The URL has no query; the time limit is in milliseconds. -/
structure OutboundRequest where
  method : String
  url : String
  query : List (String × String)
  headers : Headers
  body : Option Json
  timeout : UInt64
  deriving DecidableEq

/-- The answer of a vendor. -/
structure Answer where
  status : UInt16
  headers : Headers
  body : String
  deriving DecidableEq

/-- The vendor accepted the request. -/
def Answer.isSuccess (a : Answer) : Bool := 200 ≤ a.status && a.status < 300

/-- Why there is no answer. -/
inductive TransportError where
  | timeout (after : UInt64)
  | connect (reason : String)
  | request (reason : String)
  | invalidRequest (reason : String)
  deriving DecidableEq

namespace TransportError

/-- The wording of an error. -/
def message : TransportError → String
  | .timeout after => "request timed out after " ++ Nat.repr after.toNat ++ " ms"
  | .connect reason => "connection failed: " ++ reason
  | .request reason => "request failed: " ++ reason
  | .invalidRequest reason => "invalid request: " ++ reason

/-- Another attempt may succeed. An invalid request fails the same way every time. -/
def isRetryable : TransportError → Bool
  | .invalidRequest _ => false
  | _ => true

end TransportError

/-! ## Queries and bodies -/

/-- The text of a value in a query: a string as it is, and any other value as JSON text. -/
def queryText : Json → String
  | .str s => s
  | v => v.render

/-- The pairs of a member of a query. An array repeats the key, and null gives none. -/
def memberPairs (key : String) : Json → List (String × String)
  | .null => []
  | .arr items => items.map fun item => (key, queryText item)
  | v => [(key, queryText v)]

/-- The pairs of a payload that is sent as a query. A payload that is no object is one value. -/
def queryPairs : Json → List (String × String)
  | .obj members => members.flatMap fun (key, v) => memberPairs key v
  | .null => []
  | v => [("value", queryText v)]

/-- The value of the body of an answer: none for a blank text, and the text itself where it is no
JSON. -/
def bodyValue? (text : String) : Option Json :=
  if Text.isAllBlank text then none else some ((Json.read? text).getD (.str text))

end ApiGateway
