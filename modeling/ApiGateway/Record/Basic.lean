import ApiGateway.Record.Id
import ApiGateway.Json.Basic
import ApiGateway.Headers
import ApiGateway.Text.Blank
import ApiGateway.Text.Occurrence
import ApiGateway.Time.Instant

/-! # Dispatch records

A record is the audit entry of one dispatch: what was sent and answered, with sensitive parts
masked, how the dispatch ended, and the inputs that are kept for a replay. A report is what the
caller of the dispatch gets.
-/

set_option autoImplicit false

namespace ApiGateway

/-! ## Subjects -/

/-- The business entity that a dispatch is about. -/
structure Subject where
  kind : String
  id : String
  deriving DecidableEq

namespace Subject

/-- The kind and the identifier with a colon between them. -/
def text (s : Subject) : String := s.kind ++ ":" ++ s.id

/-- Reads a kind and an identifier around the first colon. Blanks around either are dropped, and
neither may be empty. -/
def parse? (s : String) : Option Subject := do
  let (kind, id) ← Text.cutAt ':' s.toList
  let kind := Text.trimChars kind
  let id := Text.trimChars id
  if kind.isEmpty || id.isEmpty then none else some ⟨String.ofList kind, String.ofList id⟩

/-- The wording for a text that is no subject. -/
def parseMessage : String := "invalid subject; expected 'TYPE:ID'"

end Subject

/-! ## Classifications -/

/-- How a dispatch ended: the vendor accepted, the vendor rejected, or no usable answer came. -/
inductive Outcome where
  | success
  | fail
  | error
  deriving DecidableEq

namespace Outcome

/-- The name of an outcome. -/
def name : Outcome → String
  | .success => "success"
  | .fail => "fail"
  | .error => "error"

/-- The outcome with a name. -/
def ofName? : String → Option Outcome
  | "success" => some .success
  | "fail" => some .fail
  | "error" => some .error
  | _ => none

theorem ofName?_name (o : Outcome) : ofName? o.name = some o := by cases o <;> rfl

/-- Reads an outcome in any case, with blanks around it. -/
def parse? (s : String) : Option Outcome := ofName? (Text.asciiLower (Text.trim s))

/-- The wording for a text that is no outcome. -/
def parseMessage : String := "invalid outcome; expected 'success', 'fail' or 'error'"

end Outcome

/-- What kind of cause an error has. -/
inductive ErrorKind where
  | configNotFound
  | expressionSyntax
  | expressionRuntime
  | mapping
  | auth
  | transport
  | vendor
  | cancelled
  | replay
  deriving DecidableEq

namespace ErrorKind

/-- The name of a kind. -/
def name : ErrorKind → String
  | .configNotFound => "config_not_found"
  | .expressionSyntax => "expression_syntax"
  | .expressionRuntime => "expression_runtime"
  | .mapping => "mapping"
  | .auth => "auth"
  | .transport => "transport"
  | .vendor => "vendor"
  | .cancelled => "cancelled"
  | .replay => "replay"

/-- The kind with a name. -/
def ofName? : String → Option ErrorKind
  | "config_not_found" => some .configNotFound
  | "expression_syntax" => some .expressionSyntax
  | "expression_runtime" => some .expressionRuntime
  | "mapping" => some .mapping
  | "auth" => some .auth
  | "transport" => some .transport
  | "vendor" => some .vendor
  | "cancelled" => some .cancelled
  | "replay" => some .replay
  | _ => none

theorem ofName?_name (k : ErrorKind) : ofName? k.name = some k := by cases k <;> rfl

end ErrorKind

/-- How far a dispatch has come. -/
inductive Stage where
  | resolvingConfig
  | buildingPayload
  | signing
  | sending
  | recording
  | done
  | failed
  deriving DecidableEq

namespace Stage

/-- The name of a stage. -/
def name : Stage → String
  | .resolvingConfig => "resolving-config"
  | .buildingPayload => "building-payload"
  | .signing => "signing"
  | .sending => "sending"
  | .recording => "recording"
  | .done => "done"
  | .failed => "failed"

/-- The stage with a name. -/
def ofName? : String → Option Stage
  | "resolving-config" => some .resolvingConfig
  | "building-payload" => some .buildingPayload
  | "signing" => some .signing
  | "sending" => some .sending
  | "recording" => some .recording
  | "done" => some .done
  | "failed" => some .failed
  | _ => none

theorem ofName?_name (s : Stage) : ofName? s.name = some s := by cases s <;> rfl

/-- Nothing follows this stage. -/
def isTerminal (s : Stage) : Bool := s = .done || s = .failed

end Stage

/-! ## Records -/

/-- Why a dispatch did not succeed, and at which stage. -/
structure Failure where
  kind : ErrorKind
  stage : Stage
  message : String
  field : Option String := none
  deriving DecidableEq

/-- The request of a dispatch as it is recorded. The URL has no query; a payload sent as a query is
recorded as the body. -/
structure SentRequest where
  method : String
  url : String
  headers : Headers := []
  body : Option Json := none
  deriving DecidableEq

/-- The answer of the vendor as it is recorded. -/
structure ReceivedResponse where
  status : UInt16
  headers : Headers := []
  body : Option Json := none
  deriving DecidableEq

/-- The inputs that are kept for a replay, each only if it held nothing sensitive. -/
structure ReplayInputs where
  model : Option Json := none
  payload : Option Json := none
  path : Option String := none
  headers : Option Headers := none
  deriving DecidableEq

/-- Neither a model nor a payload is kept, so that nothing can be replayed. -/
def ReplayInputs.isEmpty (i : ReplayInputs) : Bool := i.model.isNone && i.payload.isNone

/-- The audit entry of one dispatch. -/
structure Record where
  id : RecordId
  provider : String
  endpoint : String
  environment : String
  request : SentRequest
  response : Option ReceivedResponse
  status : Option UInt16
  latency : UInt64
  attempts : UInt32
  outcome : Outcome
  error : Option Failure
  createdAt : Time.Instant
  subject : Option Subject
  /-- The record that this dispatch re-executed. -/
  replayOf : Option RecordId
  /-- The records that re-executed this one. -/
  replays : List RecordId
  inputs : ReplayInputs
  deriving DecidableEq

/-- What a dispatch tells its caller. -/
structure Report where
  success : Bool
  recordId : RecordId
  provider : String
  endpoint : String
  outcome : Outcome
  status : Option UInt16
  /-- What the extraction rules made of the answer. -/
  response : Option Json
  /-- The body of the answer as it was received, unmasked. -/
  rawBody : Option Json
  error : Option Failure
  attempts : UInt32
  latency : UInt64
  replayOf : Option RecordId
  deriving DecidableEq

/-- The kind of the error of a report. -/
def Report.errorKind (r : Report) : Option ErrorKind := r.error.map (·.kind)

end ApiGateway
