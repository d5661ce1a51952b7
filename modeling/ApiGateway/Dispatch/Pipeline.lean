import ApiGateway.Audit.Store
import ApiGateway.Dispatch.Attempts
import ApiGateway.Dispatch.Trace
import ApiGateway.Signing

/-! # The dispatch pipeline

A dispatch looks up its endpoint in the catalog, builds payload, headers and path from the model,
signs the request, sends it, extracts the response, and records what it did. Only an endpoint that
is not there or may not be used ends a dispatch without a record; every other failure is recorded
with the stage at which it came.

A replay enters with a recorded payload in place of a model. It skips the mapping, and its
expressions see no model.
-/

set_option autoImplicit false

namespace ApiGateway

/-! ## Looking up the endpoint -/

namespace Catalog

/-- Why an endpoint cannot be used. -/
inductive Unavailability where
  | unknownProvider
  | unknownEndpoint
  | disabled
  deriving DecidableEq

/-- The wording of a reason. -/
def Unavailability.reason : Unavailability → String
  | .unknownProvider => "unknown provider"
  | .unknownEndpoint => "unknown endpoint"
  | .disabled => "disabled"

/-- The endpoint of an active provider that is enabled. -/
def dispatchable (c : Catalog) (provider endpoint : String) :
    Except Unavailability (Provider × Endpoint) :=
  match c.provider? provider with
  | none => .error .unknownProvider
  | some p =>
    match p.endpoint? endpoint with
    | none => .error .unknownEndpoint
    | some e => if p.active && e.enabled then .ok (p, e) else .error .disabled

end Catalog

namespace Dispatch

open Catalog (Provider Endpoint Unavailability)

/-! ## Calls -/

/-- What a dispatch starts from. -/
inductive Basis where
  /-- The model of a caller. -/
  | model (value : Json)
  /-- The payload of a record; without a path the one of the endpoint is used. -/
  | payload (payload : Json) (path : Option String) (headers : Headers)

/-- The model that expressions see. -/
def Basis.modelValue : Basis → Json
  | .model value => value
  | .payload _ _ _ => .null

/-- One call of the pipeline. -/
structure Call where
  provider : String
  endpoint : String
  basis : Basis
  subject : Option Subject := none
  replayOf : Option RecordId := none

/-- What masking takes from the settings. -/
structure Options where
  maskToken : String := Masker.defaultToken
  sensitiveFields : List String := []

/-- What a dispatch works with. -/
structure Gateway where
  catalog : Catalog
  secrets : Secrets.Store
  vars : Keyed String := []
  options : Options := {}

/-! ## Building -/

/-- Payload, path and headers of a request. -/
structure Built where
  payload : Option Json
  path : String
  headers : Headers

/-- Builds a request from its basis. -/
def build (e : Endpoint) (c : Expression.Context) : Basis → Except ResolveError Built
  | .model _ => do
    let payload ← e.mapping.payload c
    let headers ← e.mapping.requestHeaders c
    let path ← e.path.render c
    return ⟨payload, path, headers⟩
  | .payload payload path headers => do
    let path ← match path with
      | some path => .ok path
      | none => e.path.render c
    return ⟨some payload, path, headers⟩

/-- The kind of a failure to build. -/
def buildErrorKind : ResolveError → ErrorKind
  | .mapping _ _ => .mapping
  | .expression _ _ => .expressionRuntime

/-- The masker of a dispatch: it knows the configured fields, the names that the strategy writes to,
and the credentials. -/
def maskerOf (o : Options) (p : Provider) (credentials : Credentials) : Masker :=
  (((Masker.new o.maskToken).addFields o.sensitiveFields).addFields p.sensitiveFields).addFields
      (injectedNames p.auth) |>.addSecrets (credentials.values.map (·.2))

/-- The context of the expressions. -/
def contextOf (p : Provider) (e : Endpoint) (credentials : Credentials) (basis : Basis) :
    Expression.Context where
  model := basis.modelValue
  config := .obj (Json.insert "credentials" credentials.toJson (p.config e))

/-- The request before it is signed. -/
def draftOf (p : Provider) (e : Endpoint) (b : Built) : Draft where
  method := e.method
  url := Path.joinUrl p.environment.baseUrl b.path
  query := if e.sendsQuery then (b.payload.map queryPairs).getD [] else []
  headers := b.headers
  body := if e.sendsQuery then none else b.payload

/-- A draft as the request of a record. A payload that is sent as a query is recorded as the
body. -/
def sentRequest (e : Endpoint) (b : Built) (d : Draft) : SentRequest where
  method := d.method
  url := d.url
  headers := d.headers
  body := if e.sendsQuery then b.payload else d.body

/-- A signed draft as it goes out. -/
def outbound (e : Endpoint) (d : Draft) : OutboundRequest where
  method := d.method
  url := d.url
  query := d.query
  headers := d.headers
  body := d.body
  timeout := e.timeout

/-- An answer as expressions see it. -/
def responseValue (a : Answer) (body : Option Json) : Json :=
  let headers := Json.ofMembers (a.headers.map fun (n, v) => (Text.asciiLower n, .str v))
  Json.ofMembers [("status", .nat a.status.toNat), ("headers", headers), ("body", body.getD .null)]

/-! ## Running -/

/-- A dispatch that has come to its end: its trace, what was sent, how often and until when, and the
normalized response. -/
structure Run where
  trace : Trace
  masker : Masker
  sent : Option OutboundRequest := none
  calls : Nat := 0
  finish : Nat := 0
  response : Option Json := none

namespace Run

/-- The time that a dispatch took. -/
def latency (r : Run) : UInt64 := UInt64.ofNat (min r.finish 0xFFFFFFFFFFFFFFFF)

/-- The record of a dispatch. -/
def record (r : Run) : Record := r.trace.record r.masker r.latency

/-- The report of a dispatch. -/
def report (r : Run) : Report := r.trace.report r.masker r.latency r.response

/-- The requests that reached the transport, one for each call. -/
def requests (r : Run) : List OutboundRequest := List.replicate r.calls r.sent |>.filterMap id

end Run

/-- Notes how the sending went. -/
def settle (e : Endpoint) (c : Expression.Context) (t : Trace) (m : Masker)
    (request : OutboundRequest) (s : Sending) : Run :=
  let t := { t with attempts := UInt32.ofNat s.attempts }
  let run (t : Trace) (response : Option Json) : Run :=
    ⟨t, m, some request, s.calls, s.finish, response⟩
  match s.result with
  | .error (.transport error) => run (t.fail .transport error.message) none
  | .error .cancelled =>
    run (t.fail .cancelled "dispatch cancelled before the vendor answered") none
  | .ok answer =>
    let body := bodyValue? answer.body
    let t := { t with answer := some answer, body := body }
    if answer.isSuccess then
      run t (e.mapping.extract { c with response := some (responseValue answer body) })
    else
      run (t.fail .vendor ("vendor responded with status " ++ Nat.repr answer.status.toNat)) none

/-- The trace of a dispatch whose endpoint is found. -/
def begin (p : Provider) (e : Endpoint) (id : RecordId) (now : Time.Instant) (call : Call) :
    Trace where
  id := id
  provider := p.slug
  endpoint := e.slug
  environment := p.environmentName
  createdAt := now
  subject := call.subject
  replayOf := call.replayOf
  stage := .buildingPayload
  request := { method := e.method, url := p.environment.baseUrl }
  inputs := match call.basis with
    | .model value => { model := some value }
    | .payload _ _ _ => {}

/-- The trace of a dispatch whose request is built. -/
def Trace.built (t : Trace) (e : Endpoint) (b : Built) (d : Draft) : Trace :=
  { t with
    stage := .signing
    request := sentRequest e b d
    inputs := { t.inputs with
      payload := b.payload, path := some b.path, headers := some b.headers } }

/-- Runs a dispatch on an endpoint. -/
def runOn (g : Gateway) (p : Provider) (e : Endpoint) (id : RecordId) (now : Time.Instant)
    (script : Script) (cancel : Option Nat) (call : Call) : Run :=
  let credentials := Credentials.resolve g.secrets g.vars p.environment.credentials
  let m := maskerOf g.options p credentials
  let c := contextOf p e credentials call.basis
  let t := begin p e id now call
  match build e c call.basis with
  | .error error =>
    { trace := t.fail (buildErrorKind error) error.message (some error.field), masker := m }
  | .ok b =>
    let d := draftOf p e b
    let t := t.built e b d
    -- Until it is signed, the request is recorded as it was built.
    match sign p.auth d credentials e.mapping.signatureFormula c with
    | .error error => { trace := t.fail .auth error.message error.credential?, masker := m }
    | .ok signed =>
      let t := { t with stage := .sending, request := sentRequest e b signed }
      settle e c t m (outbound e signed) (send script e.retry e.timeout cancel)

/-- Runs a dispatch. -/
def run (g : Gateway) (id : RecordId) (now : Time.Instant) (script : Script) (cancel : Option Nat)
    (call : Call) : Except Unavailability Run :=
  (g.catalog.dispatchable call.provider call.endpoint).map fun (p, e) =>
    runOn g p e id now script cancel call

/-! ## Recording -/

/-- Why a dispatch has no report. -/
inductive GatewayError where
  | configNotFound (provider endpoint : String) (reason : Unavailability)
  | audit (error : Audit.StoreError)
  deriving DecidableEq

namespace GatewayError

/-- The wording of an error. -/
def message : GatewayError → String
  | .configNotFound provider endpoint reason =>
    "no dispatch configuration for '" ++ provider ++ "/" ++ endpoint ++ "': " ++ reason.reason
  | .audit error => "dispatch record could not be persisted: " ++ error.message

/-- The kind of an error. -/
def kind : GatewayError → Option ErrorKind
  | .configNotFound _ _ _ => some .configNotFound
  | .audit _ => none

end GatewayError

/-- What a dispatch leaves behind. -/
structure Effect (ε : Type) where
  store : Audit.Store
  /-- The requests that reached the transport. -/
  requests : List OutboundRequest
  /-- The time that passed. -/
  finish : Nat
  result : Except ε Report

/-- Runs a dispatch and adds its record to a store. -/
def dispatch (g : Gateway) (store : Audit.Store) (id : RecordId) (now : Time.Instant)
    (script : Script) (cancel : Option Nat) (call : Call) : Effect GatewayError :=
  match run g id now script cancel call with
  | .error reason =>
    ⟨store, [], 0, .error (.configNotFound call.provider call.endpoint reason)⟩
  | .ok r =>
    let (store, appended) := store.append r.record
    ⟨store, r.requests, r.finish, (appended.map fun _ => r.report).mapError .audit⟩

end Dispatch

end ApiGateway
