import ApiGateway.Catalog.Compiled
import ApiGateway.Digest.Sha256
import ApiGateway.Json.Canonical
import ApiGateway.Secrets

/-! # Signing

`Credentials.resolve` looks up the references of an environment; those without a value are kept
with their reason, so that signing can name the credential that it misses. `sign` applies a
strategy to a draft of a request. The header of a strategy replaces every header of the same name,
in any case; a signature formula may also write into the body.
-/

set_option autoImplicit false

namespace ApiGateway

open Catalog (AuthStrategy SignatureTarget)

/-! ## Drafts -/

/-- A request before it is signed. -/
structure Draft where
  method : String
  url : String
  query : List (String × String)
  headers : Headers
  body : Option Json
  deriving DecidableEq

/-- Replaces a header. -/
def Draft.setHeader (d : Draft) (name value : String) : Draft :=
  { d with headers := d.headers.set name value }

/-! ## Credentials -/

/-- The credentials of an environment: those with a value, and the others with the reason. -/
structure Credentials where
  values : Keyed String := []
  missing : Keyed Secrets.SecretError := []

/-- Why a request cannot be signed. -/
inductive AuthError where
  | secretMissing (credential reason : String)
  | formula (message : String)
  deriving DecidableEq

namespace AuthError

/-- The name of the kind of an error. -/
def kind : AuthError → String
  | .secretMissing _ _ => "secret-missing"
  | .formula _ => "formula-error"

/-- The credential that an error is about. -/
def credential? : AuthError → Option String
  | .secretMissing credential _ => some credential
  | .formula _ => none

/-- The wording of an error. -/
def message : AuthError → String
  | .secretMissing credential reason =>
    "secret-missing: credential '" ++ credential ++ "' could not be resolved: " ++ reason
  | .formula message => "formula-error: " ++ message

end AuthError

namespace Credentials

/-- Looks up one reference. -/
def add (store : Secrets.Store) (vars : Keyed String) (c : Credentials)
    (entry : String × String) : Credentials :=
  match Secrets.resolve store vars entry.2 with
  | .ok value => { c with values := Keyed.put entry.1 value c.values }
  | .error e => { c with missing := Keyed.put entry.1 e c.missing }

/-- Looks up references. -/
def resolve (store : Secrets.Store) (vars references : Keyed String) : Credentials :=
  references.foldl (add store vars) {}

/-- Gives a credential a value. -/
def insert (c : Credentials) (name value : String) : Credentials where
  values := Keyed.put name value c.values
  missing := c.missing.filter (·.1 != name)

/-- The value of a credential. -/
def get (c : Credentials) (name : String) : Except AuthError String :=
  match c.values.lookup name with
  | some value => .ok value
  | none =>
    let reason := match c.missing.lookup name with
      | some e => e.message
      | none => "not declared in the active environment"
    .error (.secretMissing name reason)

/-- The credentials as an object. -/
def toJson (c : Credentials) : Json := Json.ofMembers (c.values.map fun (n, v) => (n, .str v))

end Credentials

/-! ## Strategies -/

/-- The last key of a target path. -/
def lastKey? (t : Path.Target) : Option String :=
  t.segments.reverse.findSome? fun
    | .key name => some name
    | _ => none

/-- The names of the headers and body members that a strategy writes to. -/
def injectedNames : AuthStrategy → List String
  | .anonymous => []
  | .bearerToken _ => ["Authorization"]
  | .basic _ _ => ["Authorization"]
  | .apiKey header _ _ => [header]
  | .hmac header _ _ _ => [header]
  | .formula (.header name) => [name]
  | .formula (.body path) =>
    match Path.Target.parse path with
    | .ok t => (lastKey? t).toList
    | .error _ => []

/-- The keyed digest of a text. -/
def hmacText (encoding : Catalog.SignatureEncoding) (payload key : String) : String :=
  let mac := Digest.hmac (Digest.utf8 key) (Digest.utf8 payload)
  match encoding with
  | .hex => Digest.hex mac
  | .base64 => Digest.base64 mac

/-- The value of a signature formula, which must not be null. -/
def formulaValue (formula : Option Expression) (c : Expression.Context) : Except AuthError Json :=
  match formula with
  | none => .error (.formula "endpoint mapping has no signature_formula")
  | some e =>
    match e.eval c with
    | .error cause => .error (.formula ("'" ++ e.source ++ "' failed: " ++ cause.message))
    | .ok .null => .error (.formula ("'" ++ e.source ++ "' evaluated to null"))
    | .ok v => .ok v

/-- Puts a signature at its target. -/
def placeSignature (target : SignatureTarget) (d : Draft) (signature : Json) :
    Except AuthError Draft :=
  match target with
  | .header name => .ok (d.setHeader name signature.plain)
  | .body path =>
    match Path.Target.parse path with
    | .error message => .error (.formula message)
    | .ok t =>
      let (body, written) := t.write (d.body.getD (.obj [])) signature
      if written then .ok { d with body := some body }
      else .error (.formula (ResolveError.mapping t.source ResolveError.pathConflict).message)

/-- Applies a strategy to a draft. The formula and the context are used only by strategies with a
signature formula. -/
def sign (strategy : AuthStrategy) (d : Draft) (credentials : Credentials)
    (formula : Option Expression) (c : Expression.Context) : Except AuthError Draft :=
  match strategy with
  | .anonymous => .ok d
  | .bearerToken token => do
    let token ← credentials.get token
    return d.setHeader "Authorization" ("Bearer " ++ token)
  | .basic username password => do
    let username ← credentials.get username
    let password ← credentials.get password
    let pair := Digest.base64 (Digest.utf8 (username ++ ":" ++ password))
    return d.setHeader "Authorization" ("Basic " ++ pair)
  | .apiKey header key lead => do
    let key ← credentials.get key
    return d.setHeader header (lead.getD "" ++ key)
  | .hmac header secret encoding lead => do
    let secret ← credentials.get secret
    let signature := hmacText encoding (Json.canonicalBody d.body) secret
    return d.setHeader header (lead.getD "" ++ signature)
  | .formula target => do placeSignature target d (← formulaValue formula c)

end ApiGateway
