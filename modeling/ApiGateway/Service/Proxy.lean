import ApiGateway.Dispatch.Pipeline
import ApiGateway.Network.Address
import ApiGateway.Network.Host
import ApiGateway.Record.Document

/-! # The dispatch proxy

The proxy turns a request `METHOD /{provider}/{endpoint}` with a JSON body into a dispatch, and the
report of the dispatch into its response.
-/

set_option autoImplicit false

namespace ApiGateway.Service

open Dispatch (Call GatewayError)

/-- The address to listen on: the given one, or else the one that is configured. -/
def bindAddress (given : Option Network.SocketAddress) (configured : String) :
    Except String Network.SocketAddress :=
  match given with
  | some address => .ok address
  | none =>
    match Network.SocketAddress.parse? configured with
    | some address => .ok address
    | none =>
      .error ("invalid bind address '" ++ configured ++ "': invalid socket address syntax")

/-- The HTTP status for a report: 200 on success, 404 for a missing configuration, 502 if the
vendor or the network failed, and 422 if the request could not be built or signed. -/
def statusFor (r : Report) : Nat :=
  if r.success then 200
  else
    match r.errorKind with
    | none => 502
    | some .vendor => 502
    | some .transport => 502
    | some .cancelled => 502
    | some .configNotFound => 404
    | some _ => 422

/-! ## Requests -/

/-- A request to the proxy. -/
structure Request where
  method : String
  /-- The path with its query. -/
  path : String
  headers : Headers
  body : String

/-- A response of the proxy; a body that is no JSON is not told. -/
structure Response where
  status : Nat
  body : Option Json

/-- A response that tells an error. -/
def Response.ofError (status : Nat) (message : String) : Response :=
  ⟨status, some (.obj [("error", .str message)])⟩

/-- The provider and the endpoint on a path: two names, neither of them empty. -/
def route? (path : String) : Option (List Char × List Char) :=
  match Text.splitOn '/' (path.toList.takeWhile fun c => c != '?' && c != '#') with
  | [[], p :: provider, e :: endpoint] => some (p :: provider, e :: endpoint)
  | _ => none

/-- A name on a path with its percent triplets decoded, if that gives a text. -/
def decodeName? (name : List Char) : Option String :=
  String.fromUTF8? ⟨(Network.percentDecode name).toArray⟩

/-- A blank character of ASCII. -/
def isAsciiBlank (c : Char) : Bool := [' ', '\t', '\n', '\x0c', '\r'].contains c

/-- The model in a body. An empty body stands for an empty object. -/
def model? (body : String) : Option Json :=
  if body.toList.all isAsciiBlank then some (.obj []) else Json.read? body

/-- The header that may name a subject. -/
def subjectHeader : String := "x-conduit-subject"

/-- A header that is plain text. -/
def isPlainHeader (value : String) : Bool :=
  value.toList.all fun c => c == '\t' || (32 ≤ c.toNat && c.toNat < 127)

/-- The subject that the headers name: none at all if there is no such header. -/
def subject? (headers : Headers) : Option (Option Subject) :=
  match headers.find? subjectHeader with
  | none => some none
  | some value => if isPlainHeader value then (Subject.parse? value).map some else none

/-- The call that a request asks for, or the response to a request that asks for none. -/
def Request.call (r : Request) : Except Response Call := do
  let some (provider, endpoint) := route? r.path | throw ⟨404, none⟩
  let some provider := decodeName? provider | throw ⟨400, none⟩
  let some endpoint := decodeName? endpoint | throw ⟨400, none⟩
  let some model := model? r.body | throw (.ofError 400 "request body is not JSON")
  let some subject := subject? r.headers
    | throw (.ofError 400 (subjectHeader ++ " must be TYPE:ID"))
  return { provider := provider, endpoint := endpoint, basis := .model model, subject := subject }

/-! ## Responses -/

/-- The response for the result of a dispatch. -/
def Response.ofResult : Except GatewayError Report → Response
  | .ok report => ⟨statusFor report, some report.toJson⟩
  | .error (.configNotFound provider endpoint reason) =>
    ⟨404, some (.obj [("error", .str ErrorKind.configNotFound.name), ("provider", .str provider),
      ("endpoint", .str endpoint), ("reason", .str reason.reason)])⟩
  | .error error => .ofError 500 error.message

/-- The response as it goes out: some methods have responses without a body. -/
def Response.sentFor (method : String) (r : Response) : Response :=
  if method = "HEAD" ∨ (method = "CONNECT" ∧ 200 ≤ r.status ∧ r.status < 300) then
    { r with body := none }
  else r

end ApiGateway.Service
