import ApiGateway.Binary64
import ApiGateway.Keyed
import ApiGateway.Json.Basic

/-! # Catalog documents

A catalog document lists providers: third parties with a way to authenticate, environments, and
endpoints. Each endpoint maps a model to a request and an answer to a response. Credentials are
only named here; their values come from the references of the active environment.
-/

set_option autoImplicit false

namespace ApiGateway.Catalog

/-! ## Authentication -/

/-- How the bytes of a signature are written. -/
inductive SignatureEncoding where
  | hex
  | base64
  deriving DecidableEq

/-- The name of an encoding. -/
def SignatureEncoding.name : SignatureEncoding → String
  | .hex => "hex"
  | .base64 => "base64"

/-- Where the value of a signature formula goes: a header, or a target path in the body. -/
inductive SignatureTarget where
  | header (name : String)
  | body (path : String)
  deriving DecidableEq

/-- How the requests to a provider are authenticated. Tokens, user names, passwords, keys and
secrets are names of credentials. -/
inductive AuthStrategy where
  | anonymous
  | bearerToken (token : String)
  | basic (username password : String)
  | apiKey (header key : String) (lead : Option String)
  | hmac (header secret : String) (encoding : SignatureEncoding) (lead : Option String)
  | formula (target : SignatureTarget)
  deriving DecidableEq

namespace AuthStrategy

/-- The name of a strategy for readers. -/
def label : AuthStrategy → String
  | .anonymous => "none"
  | .bearerToken _ => "bearer-token"
  | .basic _ _ => "basic-auth"
  | .apiKey _ _ _ => "api-key-header"
  | .hmac _ _ _ _ => "hmac-signature"
  | .formula _ => "custom-formula"

/-- The name of a strategy in documents. -/
def tag : AuthStrategy → String
  | .anonymous => "none"
  | .bearerToken _ => "bearer_token"
  | .basic _ _ => "basic_auth"
  | .apiKey _ _ _ => "api_key_header"
  | .hmac _ _ _ _ => "hmac_signature"
  | .formula _ => "custom_formula"

/-- The credentials that a strategy needs. -/
def credentialNames : AuthStrategy → List String
  | .anonymous => []
  | .bearerToken token => [token]
  | .basic username password => [username, password]
  | .apiKey _ key _ => [key]
  | .hmac _ secret _ _ => [secret]
  | .formula _ => []

end AuthStrategy

/-! ## Retries -/

/-- How often a request is attempted and how long the pauses are, in milliseconds. -/
structure RetryPolicy where
  maxAttempts : UInt32 := 1
  initialBackoff : UInt64 := 200
  multiplier : Float := 2.0
  maxBackoff : UInt64 := 5000
  deriving DecidableEq

namespace RetryPolicy

/-- The number of attempts, which is never zero. -/
def attempts (p : RetryPolicy) : UInt32 := max p.maxAttempts 1

/-- The lesser of two floats; *not a number* gives way to the other one. -/
def lesser (x y : Float) : Float := if y < x then y else if x == x then x else y

/-- The pause after a failed attempt, the first one being number 1: the initial pause, multiplied
once for each earlier attempt up to 32 times, but not more than the greatest pause. -/
def backoffAfter (p : RetryPolicy) (attempt : UInt32) : UInt64 :=
  let exponent := min (attempt.toNat - 1) 32
  let multiplier :=
    if Binary64.isFinite p.multiplier && 1.0 ≤ p.multiplier then p.multiplier else 1.0
  let initial := Binary64.ofInt p.initialBackoff.toNat
  let delay := initial * Binary64.pow multiplier exponent
  let capped := lesser delay (Binary64.ofInt p.maxBackoff.toNat)
  UInt64.ofNat (Binary64.toIntWithin 0 Binary64.maxUInt64 capped).toNat

end RetryPolicy

/-! ## Mappings -/

/-- The value of an expression goes to a target path of the payload. -/
structure FieldRule where
  target : String
  source : String
  required : Bool := false
  deriving DecidableEq

/-- A header with a fixed value or the value of an expression. -/
structure HeaderRule where
  name : String
  value : Option String := none
  expression : Option String := none
  required : Bool := false
  deriving DecidableEq

/-- The value of an expression over the answer goes to a target path of the response. -/
structure ExtractionRule where
  target : String
  source : String
  deriving DecidableEq

/-- The rules of an endpoint. -/
structure MappingDocument where
  fields : List FieldRule := []
  headers : List HeaderRule := []
  signatureFormula : Option String := none
  response : List ExtractionRule := []
  deriving DecidableEq

/-! ## Providers -/

/-- One operation of a provider. The time limit is in milliseconds. -/
structure EndpointDocument where
  slug : String
  method : String := "POST"
  path : String
  timeout : UInt64 := 30000
  retry : RetryPolicy := {}
  enabled : Bool := true
  mapping : MappingDocument := {}
  deriving DecidableEq

/-- The base URL, the references of the credentials and the settings of an environment. -/
structure EnvironmentDocument where
  baseUrl : String
  credentials : Keyed String := []
  settings : List (String × Json) := []
  deriving DecidableEq

/-- A third party. -/
structure ProviderDocument where
  slug : String
  name : String := ""
  active : Bool := true
  auth : AuthStrategy := .anonymous
  environments : Keyed EnvironmentDocument
  activeEnvironment : String
  sensitiveFields : List String := []
  endpoints : List EndpointDocument := []
  deriving DecidableEq

end Catalog

/-- All providers. -/
structure CatalogDocument where
  providers : List Catalog.ProviderDocument := []
  deriving DecidableEq

end ApiGateway
