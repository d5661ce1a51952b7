import ApiGateway.Masking
import ApiGateway.Record.Basic
import ApiGateway.Transport

/-! # The trace of a dispatch

A trace holds what a dispatch did, unmasked. `Trace.record` is the only way from a trace to a
record: everything that was sent, answered or said goes through the masker, and inputs are kept for
a replay only where the masker leaves them as they are.
-/

set_option autoImplicit false

namespace ApiGateway.Dispatch

/-- What a dispatch did so far. -/
structure Trace where
  id : RecordId
  provider : String
  endpoint : String
  environment : String
  createdAt : Time.Instant
  subject : Option Subject
  replayOf : Option RecordId
  stage : Stage
  request : SentRequest
  answer : Option Answer := none
  /-- The value of the body of the answer. -/
  body : Option Json := none
  attempts : UInt32 := 0
  error : Option Failure := none
  inputs : ReplayInputs := {}

namespace Trace

/-- Notes a failure at the stage that was reached. -/
def fail (t : Trace) (kind : ErrorKind) (message : String) (field : Option String := none) :
    Trace :=
  { t with error := some ⟨kind, t.stage, message, field⟩ }

/-- How the dispatch ended. -/
def outcome (t : Trace) : Outcome :=
  match t.error with
  | none => .success
  | some e => if e.kind = .vendor then .fail else .error

end Trace

end ApiGateway.Dispatch

namespace ApiGateway

namespace Masker

/-- A request as it may be recorded. -/
def maskRequest (m : Masker) (r : SentRequest) : SentRequest where
  method := r.method
  url := m.maskText r.url
  headers := m.maskHeaders r.headers
  body := r.body.map m.maskValue

/-- An answer as it may be recorded. -/
def maskAnswer (m : Masker) (a : Answer) (body : Option Json) : ReceivedResponse where
  status := a.status
  headers := m.maskHeaders a.headers
  body := body.map m.maskValue

/-- A failure as it may be recorded. -/
def maskFailure (m : Masker) (e : Failure) : Failure := { e with message := m.maskText e.message }

/-- The inputs that hold nothing sensitive. -/
def cleanInputs (m : Masker) (i : ReplayInputs) : ReplayInputs where
  model := i.model.filter m.isClean
  payload := i.payload.filter m.isClean
  path := i.path.filter m.isCleanText
  headers := i.headers.filter m.areCleanHeaders

end Masker

namespace Dispatch.Trace

/-- The record of a dispatch that took `latency` milliseconds. -/
def record (t : Trace) (m : Masker) (latency : UInt64) : Record where
  id := t.id
  provider := t.provider
  endpoint := t.endpoint
  environment := t.environment
  request := m.maskRequest t.request
  response := t.answer.map fun a => m.maskAnswer a t.body
  status := t.answer.map (·.status)
  latency := latency
  attempts := t.attempts
  outcome := t.outcome
  error := t.error.map m.maskFailure
  createdAt := t.createdAt
  subject := t.subject
  replayOf := t.replayOf
  replays := []
  inputs := m.cleanInputs t.inputs

/-- What the caller of a dispatch is told: the record in short, the normalized response, and the
body of the answer as it came. -/
def report (t : Trace) (m : Masker) (latency : UInt64) (response : Option Json) : Report :=
  let record := t.record m latency
  { success := record.outcome = .success
    recordId := record.id
    provider := record.provider
    endpoint := record.endpoint
    outcome := record.outcome
    status := record.status
    response := response
    rawBody := t.body
    error := record.error
    attempts := record.attempts
    latency := latency
    replayOf := record.replayOf }

end Dispatch.Trace

end ApiGateway
