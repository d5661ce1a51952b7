import ApiGateway.Record.Basic
import ApiGateway.Json.Fields
import ApiGateway.Json.Written
import ApiGateway.Time.Rfc3339

/-! # Records as JSON documents

The members of a record are written in a fixed order; parts that are absent are left out. Reading
takes the members in any order, or the parts of a record as an array in the written order. The
layout of a record tells what is read of its text.
-/

set_option autoImplicit false

namespace ApiGateway

/-- A member that is left out when there is no value. -/
def Json.member? {α : Type} (name : String) (write : α → Json) (v : Option α) :
    List (String × Json) :=
  match v with
  | none => []
  | some v => [(name, write v)]

/-- Headers as an object, in their order. -/
def Headers.toJson (h : Headers) : Json := .obj (h.map fun (n, v) => (n, .str v))

/-- Reads headers. -/
def Headers.ofJson? (j : Json) : Option Headers := j.keyedOf Json.string?

/-- A number below 2 ^ 16. -/
def Json.uint16? (j : Json) : Option UInt16 := (j.nat? 65535).map UInt16.ofNat

/-- A number below 2 ^ 32. -/
def Json.uint32? (j : Json) : Option UInt32 := (j.nat? 4294967295).map UInt32.ofNat

/-- A number below 2 ^ 64. -/
def Json.uint64? (j : Json) : Option UInt64 := (j.nat? 18446744073709551615).map UInt64.ofNat

namespace RecordId

/-- An identifier as a string. -/
def toJson (id : RecordId) : Json := .str id.text

/-- Reads an identifier from a string. -/
def ofJson? (j : Json) : Option RecordId := j.string?.bind parse?

end RecordId

namespace Subject

/-- A subject as an object. -/
def toJson (s : Subject) : Json := .obj [("type", .str s.kind), ("id", .str s.id)]

/-- The names of the members of a subject. -/
def fieldNames : List String := ["type", "id"]

/-- Reads a subject. -/
def ofJson? (j : Json) : Option Subject := do
  let f ← Json.Fields.ofJson? fieldNames j
  return ⟨← f.required "type" Json.string?, ← f.required "id" Json.string?⟩

end Subject

namespace Failure

/-- A failure as an object. -/
def toJson (e : Failure) : Json :=
  .obj ([("kind", .str e.kind.name), ("stage", .str e.stage.name), ("message", .str e.message)] ++
    Json.member? "field" .str e.field)

/-- The names of the members of a failure. -/
def fieldNames : List String := ["kind", "stage", "message", "field"]

/-- Reads a failure. -/
def ofJson? (j : Json) : Option Failure := do
  let f ← Json.Fields.ofJson? fieldNames j
  return {
    kind := ← f.required "kind" fun j => j.choice?.bind ErrorKind.ofName?
    stage := ← f.required "stage" fun j => j.choice?.bind Stage.ofName?
    message := ← f.required "message" Json.string?
    field := ← f.possible "field" Json.string? }

end Failure

namespace SentRequest

/-- A request as an object. -/
def toJson (r : SentRequest) : Json :=
  .obj ([("method", .str r.method), ("url", .str r.url), ("headers", r.headers.toJson)] ++
    Json.member? "body" id r.body)

/-- The names of the members of a request. -/
def fieldNames : List String := ["method", "url", "headers", "body"]

/-- Reads a request. -/
def ofJson? (j : Json) : Option SentRequest := do
  let f ← Json.Fields.ofJson? fieldNames j
  return {
    method := ← f.required "method" Json.string?
    url := ← f.required "url" Json.string?
    headers := ← f.defaulted "headers" [] Headers.ofJson?
    body := ← f.possible "body" Json.value? }

end SentRequest

namespace ReceivedResponse

/-- A response as an object. -/
def toJson (r : ReceivedResponse) : Json :=
  .obj ([("status", .nat r.status.toNat), ("headers", r.headers.toJson)] ++
    Json.member? "body" id r.body)

/-- The names of the members of a response. -/
def fieldNames : List String := ["status", "headers", "body"]

/-- Reads a response. -/
def ofJson? (j : Json) : Option ReceivedResponse := do
  let f ← Json.Fields.ofJson? fieldNames j
  return {
    status := ← f.required "status" Json.uint16?
    headers := ← f.defaulted "headers" [] Headers.ofJson?
    body := ← f.possible "body" Json.value? }

end ReceivedResponse

namespace ReplayInputs

/-- Replay inputs as an object. -/
def toJson (i : ReplayInputs) : Json :=
  .obj (Json.member? "model" id i.model ++ Json.member? "payload" id i.payload ++
    Json.member? "path" .str i.path ++ Json.member? "headers" Headers.toJson i.headers)

/-- The names of the members of replay inputs. -/
def fieldNames : List String := ["model", "payload", "path", "headers"]

/-- Reads replay inputs. -/
def ofJson? (j : Json) : Option ReplayInputs := do
  let f ← Json.Fields.ofJson? fieldNames j
  return {
    model := ← f.possible "model" Json.value?
    payload := ← f.possible "payload" Json.value?
    path := ← f.possible "path" Json.string?
    headers := ← f.possible "headers" Headers.ofJson? }

end ReplayInputs

namespace Record

/-- A record as an object. -/
def toJson (r : Record) : Json :=
  .obj ([("id", r.id.toJson), ("provider", .str r.provider), ("endpoint", .str r.endpoint),
      ("environment", .str r.environment), ("request", r.request.toJson)] ++
    Json.member? "response" ReceivedResponse.toJson r.response ++
    Json.member? "status" (fun s : UInt16 => .nat s.toNat) r.status ++
    [("latency_ms", .nat r.latency.toNat), ("attempts", .nat r.attempts.toNat),
      ("outcome", .str r.outcome.name)] ++
    Json.member? "error" Failure.toJson r.error ++
    [("created_at", .str r.createdAt.zuluText)] ++
    Json.member? "subject" Subject.toJson r.subject ++
    Json.member? "replay_of" RecordId.toJson r.replayOf ++
    (if r.replays.isEmpty then [] else [("replays", .arr (r.replays.map RecordId.toJson))]) ++
    [("inputs", r.inputs.toJson)])

/-- The names of the members of a record. -/
def fieldNames : List String :=
  ["id", "provider", "endpoint", "environment", "request", "response", "status", "latency_ms",
    "attempts", "outcome", "error", "created_at", "subject", "replay_of", "replays", "inputs"]

/-- The members of a record and of its parts. -/
def layout : Json.Layout :=
  .ofNames fieldNames [("request", .ofNames SentRequest.fieldNames []),
    ("response", .ofNames ReceivedResponse.fieldNames []),
    ("error", .ofNames Failure.fieldNames []), ("subject", .ofNames Subject.fieldNames []),
    ("inputs", .ofNames ReplayInputs.fieldNames [])]

/-- Reads a point of time with a zone. -/
def instant? (j : Json) : Option Time.Instant := j.string?.bind fun s => Time.readLenient? s.toList

/-- Reads a record. -/
def ofJson? (j : Json) : Option Record := do
  let f ← Json.Fields.ofJson? fieldNames j
  return {
    id := ← f.required "id" RecordId.ofJson?
    provider := ← f.required "provider" Json.string?
    endpoint := ← f.required "endpoint" Json.string?
    environment := ← f.defaulted "environment" "" Json.string?
    request := ← f.required "request" SentRequest.ofJson?
    response := ← f.possible "response" ReceivedResponse.ofJson?
    status := ← f.possible "status" Json.uint16?
    latency := ← f.required "latency_ms" Json.uint64?
    attempts := ← f.required "attempts" Json.uint32?
    outcome := ← f.required "outcome" fun j => j.choice?.bind Outcome.ofName?
    error := ← f.possible "error" Failure.ofJson?
    createdAt := ← f.required "created_at" instant?
    subject := ← f.possible "subject" Subject.ofJson?
    replayOf := ← f.possible "replay_of" RecordId.ofJson?
    replays := ← f.defaulted "replays" [] (Json.listOf RecordId.ofJson?)
    inputs := ← f.defaulted "inputs" {} ReplayInputs.ofJson? }

end Record

namespace Report

/-- A report as an object. -/
def toJson (r : Report) : Json :=
  .obj ([("success", .bool r.success), ("record_id", r.recordId.toJson),
      ("provider", .str r.provider), ("endpoint", .str r.endpoint),
      ("outcome", .str r.outcome.name)] ++
    Json.member? "status" (fun s : UInt16 => .nat s.toNat) r.status ++
    Json.member? "response" id r.response ++
    Json.member? "raw_body" id r.rawBody ++
    Json.member? "error" Failure.toJson r.error ++
    [("attempts", .nat r.attempts.toNat), ("latency_ms", .nat r.latency.toNat)] ++
    Json.member? "replay_of" RecordId.toJson r.replayOf)

/-- The names of the members of a report. -/
def fieldNames : List String :=
  ["success", "record_id", "provider", "endpoint", "outcome", "status", "response", "raw_body",
    "error", "attempts", "latency_ms", "replay_of"]

/-- Reads a report. -/
def ofJson? (j : Json) : Option Report := do
  let f ← Json.Fields.ofJson? fieldNames j
  return {
    success := ← f.required "success" Json.bool?
    recordId := ← f.required "record_id" RecordId.ofJson?
    provider := ← f.required "provider" Json.string?
    endpoint := ← f.required "endpoint" Json.string?
    outcome := ← f.required "outcome" fun j => j.choice?.bind Outcome.ofName?
    status := ← f.possible "status" Json.uint16?
    response := ← f.possible "response" Json.value?
    rawBody := ← f.possible "raw_body" Json.value?
    error := ← f.possible "error" Failure.ofJson?
    attempts := ← f.required "attempts" Json.uint32?
    latency := ← f.required "latency_ms" Json.uint64?
    replayOf := ← f.possible "replay_of" RecordId.ofJson? }

end Report

end ApiGateway
