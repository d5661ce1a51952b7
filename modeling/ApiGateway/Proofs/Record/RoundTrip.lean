import ApiGateway.Proofs.Json.Fields
import ApiGateway.Proofs.Keyed
import ApiGateway.Proofs.Record.Id
import ApiGateway.Proofs.Time.Rfc3339
import Mathlib.Data.List.ReduceOption

/-! # Records read back from their documents

Every part of a record is read from its document as it was, field for field, with one exception: a
value that is there but null is read as absent (`Record.ofJson?_toJson`).
-/

set_option autoImplicit false

namespace ApiGateway

/-! ## Headers -/

/-- No name of a header occurs twice. -/
def Headers.Distinct (h : Headers) : Prop := (h.map (·.1)).Nodup

theorem Headers.ofJson?_toJson {h : Headers} (hdistinct : h.Distinct) :
    Headers.ofJson? h.toJson = some h := by
  have hread : ∀ h : Headers, (h.map fun q => (q.1, Json.str q.2)).mapM
      (fun m : String × Json => (Json.string? m.2).map (m.1, ·)) = some h := by
    intro h
    induction h with
    | nil => rfl
    | cons p rest ih =>
        rw [List.map_cons, List.mapM_cons, ih]
        rfl
  rw [ofJson?, toJson, Json.keyedOf]
  exact (congrArg (Option.map Keyed.ofPairs) (hread h)).trans
    (congrArg some (Keyed.ofPairs_of_nodup hdistinct))

/-- Headers that are read from a document are distinct. -/
theorem Headers.distinct_of_ofJson? {j : Json} {h : Headers} (hread : Headers.ofJson? j = some h) :
    h.Distinct := by
  unfold ofJson? Json.keyedOf at hread
  split at hread
  · obtain ⟨pairs, _, rfl⟩ := Option.map_eq_some_iff.1 hread
    exact Keyed.nodup_names_ofPairs pairs
  · cases hread

theorem ReplayInputs.distinct_of_ofJson? {j : Json} {i : ReplayInputs}
    (hread : ofJson? j = some i) : ∀ h, i.headers = some h → h.Distinct := by
  unfold ofJson? at hread
  obtain ⟨f, _, hread⟩ := Option.bind_eq_some_iff.1 hread
  -- the headers are the last of four fields
  iterate 3 obtain ⟨_, _, hread⟩ := Option.bind_eq_some_iff.1 hread
  obtain ⟨headers, hheaders, hread⟩ := Option.bind_eq_some_iff.1 hread
  cases hread
  rintro h rfl
  unfold Json.Fields.possible Json.Fields.defaulted at hheaders
  split at hheaders
  · cases hheaders
  · unfold Json.nullable at hheaders
    split at hheaders
    · cases hheaders
    · obtain ⟨h', hh', heq⟩ := Option.map_eq_some_iff.1 hheaders
      cases heq
      exact Headers.distinct_of_ofJson? hh'

/-- So are the headers among the inputs of a record that is read. -/
theorem Record.distinct_of_ofJson? {j : Json} {r : Record} (hread : ofJson? j = some r) :
    ∀ h, r.inputs.headers = some h → h.Distinct := by
  obtain ⟨f, _, _, _, hinputs⟩ := fields_of_ofJson? hread
  unfold Json.Fields.defaulted at hinputs
  split at hinputs
  · rw [← Option.some.inj hinputs]
    exact nofun
  · exact ReplayInputs.distinct_of_ofJson? hinputs

/-! ## Numbers -/

namespace Json

theorem nat?_nat {limit n : Nat} (h : n ≤ limit) : nat? limit (nat n) = some n := by
  show (if 0 ≤ (n : Int) ∧ (n : Int) ≤ limit then some (n : Int).toNat else none) = _
  rw [if_pos ⟨Int.natCast_nonneg n, Int.ofNat_le.2 h⟩, Int.toNat_natCast]

theorem uint16?_nat (n : UInt16) : uint16? (nat n.toNat) = some n := by
  rw [uint16?, nat?_nat (Nat.le_of_lt_succ n.toNat_lt), Option.map_some, UInt16.ofNat_toNat]

theorem uint32?_nat (n : UInt32) : uint32? (nat n.toNat) = some n := by
  rw [uint32?, nat?_nat (Nat.le_of_lt_succ n.toNat_lt), Option.map_some, UInt32.ofNat_toNat]

theorem uint64?_nat (n : UInt64) : uint64? (nat n.toNat) = some n := by
  rw [uint64?, nat?_nat (Nat.le_of_lt_succ n.toNat_lt), Option.map_some, UInt64.ofNat_toNat]

theorem listOf_map {α : Type} {read : Json → Option α} {write : α → Json}
    (h : ∀ a, read (write a) = some a) (as : List α) :
    listOf read (.arr (as.map write)) = some as := by
  rw [listOf]
  induction as with
  | nil => rfl
  | cons a as ih =>
      rw [List.map_cons, List.mapM_cons, h, ih]
      rfl

end Json

/-! ## Parts of a record -/

open Json (present givenMembers givenMembers_cons_some givenMembers_cons_map)
open Json.Fields (ofParts ofJson?_givenMembers required_ofParts defaulted_ofParts possible_ofParts
  possible_ofParts_map possible_value?_ofParts)

namespace Subject

/-- The parts of a subject. -/
def parts (s : Subject) : List (String × Option Json) :=
  [("type", some (.str s.kind)), ("id", some (.str s.id))]

theorem names_parts (s : Subject) : s.parts.map (·.1) = fieldNames := rfl

theorem toJson_eq (s : Subject) : s.toJson = .obj (givenMembers s.parts) := rfl

theorem ofJson?_toJson (s : Subject) : ofJson? s.toJson = some s := by
  have hd : (s.parts.map (·.1)).Nodup := s.names_parts ▸ (by decide : fieldNames.Nodup)
  have hkind : (ofParts s.parts).required "type" Json.string? = some s.kind :=
    required_ofParts hd rfl rfl
  have hid : (ofParts s.parts).required "id" Json.string? = some s.id :=
    required_ofParts hd rfl rfl
  rw [toJson_eq, ofJson?, ofJson?_givenMembers hd s.names_parts]
  simp only [Option.bind_eq_bind, Option.bind_some, hkind, hid]
  rfl

end Subject

namespace Failure

/-- The parts of a failure. -/
def parts (e : Failure) : List (String × Option Json) :=
  [("kind", some (.str e.kind.name)), ("stage", some (.str e.stage.name)),
    ("message", some (.str e.message)), ("field", e.field.map .str)]

theorem names_parts (e : Failure) : e.parts.map (·.1) = fieldNames := rfl

theorem toJson_eq (e : Failure) : e.toJson = .obj (givenMembers e.parts) := by
  obtain ⟨kind, stage, message, field⟩ := e
  cases field <;> rfl

theorem ofJson?_toJson (e : Failure) : ofJson? e.toJson = some e := by
  have hd : (e.parts.map (·.1)).Nodup := e.names_parts ▸ (by decide : fieldNames.Nodup)
  have hkind : (ofParts e.parts).required "kind" (fun j => j.choice?.bind ErrorKind.ofName?) =
      some e.kind := required_ofParts hd rfl (ErrorKind.ofName?_name e.kind)
  have hstage : (ofParts e.parts).required "stage" (fun j => j.choice?.bind Stage.ofName?) =
      some e.stage := required_ofParts hd rfl (Stage.ofName?_name e.stage)
  have hmessage : (ofParts e.parts).required "message" Json.string? = some e.message :=
    required_ofParts hd rfl rfl
  have hfield : (ofParts e.parts).possible "field" Json.string? = some e.field :=
    possible_ofParts hd rfl fun s _ => ⟨nofun, rfl⟩
  rw [toJson_eq, ofJson?, ofJson?_givenMembers hd e.names_parts]
  simp only [Option.bind_eq_bind, Option.bind_some, hkind, hstage, hmessage, hfield]
  rfl

end Failure

namespace SentRequest

/-- The parts of a request. -/
def parts (r : SentRequest) : List (String × Option Json) :=
  [("method", some (.str r.method)), ("url", some (.str r.url)),
    ("headers", some r.headers.toJson), ("body", r.body)]

theorem names_parts (r : SentRequest) : r.parts.map (·.1) = fieldNames := rfl

theorem toJson_eq (r : SentRequest) : r.toJson = .obj (givenMembers r.parts) := by
  obtain ⟨method, url, headers, body⟩ := r
  cases body <;> rfl

/-- A request whose body is absent if it is null. -/
def withoutNull (r : SentRequest) : SentRequest := { r with body := present r.body }

theorem withoutNull_eq_self_iff {r : SentRequest} :
    r.withoutNull = r ↔ ∀ v, r.body = some v → v ≠ .null := by
  rw [← Json.present_eq_self_iff]
  exact ⟨congrArg body, fun h => congrArg (fun b => { r with body := b }) h⟩

theorem ofJson?_toJson {r : SentRequest} (hheaders : r.headers.Distinct)
    (hbody : ∀ v, r.body = some v → v.Normal) : ofJson? r.toJson = some r.withoutNull := by
  have hd : (r.parts.map (·.1)).Nodup := r.names_parts ▸ (by decide : fieldNames.Nodup)
  have hmethod : (ofParts r.parts).required "method" Json.string? = some r.method :=
    required_ofParts hd rfl rfl
  have hurl : (ofParts r.parts).required "url" Json.string? = some r.url :=
    required_ofParts hd rfl rfl
  have hread : (ofParts r.parts).defaulted "headers" [] Headers.ofJson? = some r.headers :=
    defaulted_ofParts hd rfl nofun fun _ h => Option.some.inj h ▸ Headers.ofJson?_toJson hheaders
  have hbody' : (ofParts r.parts).possible "body" Json.value? = some (present r.body) :=
    possible_value?_ofParts hd rfl hbody
  rw [toJson_eq, ofJson?, ofJson?_givenMembers hd r.names_parts]
  simp only [Option.bind_eq_bind, Option.bind_some, hmethod, hurl, hread, hbody']
  rfl

end SentRequest

namespace ReceivedResponse

/-- The parts of a response. -/
def parts (r : ReceivedResponse) : List (String × Option Json) :=
  [("status", some (.nat r.status.toNat)), ("headers", some r.headers.toJson), ("body", r.body)]

theorem names_parts (r : ReceivedResponse) : r.parts.map (·.1) = fieldNames := rfl

theorem toJson_eq (r : ReceivedResponse) : r.toJson = .obj (givenMembers r.parts) := by
  obtain ⟨status, headers, body⟩ := r
  cases body <;> rfl

/-- A response whose body is absent if it is null. -/
def withoutNull (r : ReceivedResponse) : ReceivedResponse := { r with body := present r.body }

theorem withoutNull_eq_self_iff {r : ReceivedResponse} :
    r.withoutNull = r ↔ ∀ v, r.body = some v → v ≠ .null := by
  rw [← Json.present_eq_self_iff]
  exact ⟨congrArg body, fun h => congrArg (fun b => { r with body := b }) h⟩

theorem ofJson?_toJson {r : ReceivedResponse} (hheaders : r.headers.Distinct)
    (hbody : ∀ v, r.body = some v → v.Normal) : ofJson? r.toJson = some r.withoutNull := by
  have hd : (r.parts.map (·.1)).Nodup := r.names_parts ▸ (by decide : fieldNames.Nodup)
  have hstatus : (ofParts r.parts).required "status" Json.uint16? = some r.status :=
    required_ofParts hd rfl (Json.uint16?_nat r.status)
  have hread : (ofParts r.parts).defaulted "headers" [] Headers.ofJson? = some r.headers :=
    defaulted_ofParts hd rfl nofun fun _ h => Option.some.inj h ▸ Headers.ofJson?_toJson hheaders
  have hbody' : (ofParts r.parts).possible "body" Json.value? = some (present r.body) :=
    possible_value?_ofParts hd rfl hbody
  rw [toJson_eq, ofJson?, ofJson?_givenMembers hd r.names_parts]
  simp only [Option.bind_eq_bind, Option.bind_some, hstatus, hread, hbody']
  rfl

end ReceivedResponse

namespace ReplayInputs

/-- The parts of replay inputs. -/
def parts (i : ReplayInputs) : List (String × Option Json) :=
  [("model", i.model), ("payload", i.payload), ("path", i.path.map .str),
    ("headers", i.headers.map Headers.toJson)]

theorem names_parts (i : ReplayInputs) : i.parts.map (·.1) = fieldNames := rfl

theorem toJson_eq (i : ReplayInputs) : i.toJson = .obj (givenMembers i.parts) := by
  obtain ⟨model, payload, path, headers⟩ := i
  cases model <;> cases payload <;> cases path <;> cases headers <;> rfl

/-- Replay inputs of which those that are null are absent. -/
def withoutNulls (i : ReplayInputs) : ReplayInputs :=
  { i with model := present i.model, payload := present i.payload }

theorem withoutNulls_eq_self_iff {i : ReplayInputs} : i.withoutNulls = i ↔
    (∀ v, i.model = some v → v ≠ .null) ∧ ∀ v, i.payload = some v → v ≠ .null := by
  rw [← Json.present_eq_self_iff, ← Json.present_eq_self_iff]
  refine ⟨fun h => ⟨congrArg model h, congrArg payload h⟩, ?_⟩
  rintro ⟨hmodel, hpayload⟩
  rw [withoutNulls, hmodel, hpayload]

theorem ofJson?_toJson {i : ReplayInputs} (hheaders : ∀ h, i.headers = some h → h.Distinct)
    (hmodel : ∀ v, i.model = some v → v.Normal) (hpayload : ∀ v, i.payload = some v → v.Normal) :
    ofJson? i.toJson = some i.withoutNulls := by
  have hd : (i.parts.map (·.1)).Nodup := i.names_parts ▸ (by decide : fieldNames.Nodup)
  have hmodel' : (ofParts i.parts).possible "model" Json.value? = some (present i.model) :=
    possible_value?_ofParts hd rfl hmodel
  have hpayload' : (ofParts i.parts).possible "payload" Json.value? = some (present i.payload) :=
    possible_value?_ofParts hd rfl hpayload
  have hpath : (ofParts i.parts).possible "path" Json.string? = some i.path :=
    possible_ofParts hd rfl fun _ _ => ⟨nofun, rfl⟩
  have hread : (ofParts i.parts).possible "headers" Headers.ofJson? = some i.headers :=
    possible_ofParts hd rfl fun h hh => ⟨nofun, Headers.ofJson?_toJson (hheaders h hh)⟩
  rw [toJson_eq, ofJson?, ofJson?_givenMembers hd i.names_parts]
  simp only [Option.bind_eq_bind, Option.bind_some, hmodel', hpayload', hpath, hread]
  rfl

end ReplayInputs

/-! ## Records -/

theorem bind_eq {α β : Type} {o : Option α} {a : α} {f : α → Option β} {b : Option β}
    (ho : o = some a) (hf : f a = b) : o.bind f = b := by
  rw [ho, Option.bind_some, hf]

theorem forall_mem_reduceOption {α : Type} {P : α → Prop} {as : List (Option α)} :
    (∀ a ∈ as.reduceOption, P a) ↔ ∀ o ∈ as, ∀ a, o = some a → P a := by
  simp only [List.reduceOption_mem_iff]
  constructor
  · rintro h _ ho a rfl
    exact h a ho
  · intro h a ha
    exact h _ ha a rfl

namespace Record

/-- The values of any kind in a record. -/
def values (r : Record) : List Json :=
  [r.request.body, r.response.bind (·.body), r.inputs.model, r.inputs.payload].reduceOption

/-- The headers in a record. -/
def headers (r : Record) : List Headers :=
  [some r.request.headers, r.response.map (·.headers), r.inputs.headers].reduceOption

/-- What holds of every record that comes about: no header has a name twice, values are in normal
form, and the point of time can be represented. -/
structure Regular (r : Record) : Prop where
  headers : ∀ h ∈ r.headers, h.Distinct
  values : ∀ v ∈ r.values, v.Normal
  createdAt : r.createdAt.IsRepresentable

/-- A record without the values that are null. -/
def withoutNulls (r : Record) : Record :=
  { r with
    request := r.request.withoutNull
    response := r.response.map (·.withoutNull)
    inputs := r.inputs.withoutNulls }

/-- The replays of a record, which are absent if there are none. -/
def replaysJson? (r : Record) : Option Json :=
  if r.replays.isEmpty then none else some (.arr (r.replays.map RecordId.toJson))

/-- The parts of a record. -/
def parts (r : Record) : List (String × Option Json) :=
  [("id", some r.id.toJson), ("provider", some (.str r.provider)),
    ("endpoint", some (.str r.endpoint)), ("environment", some (.str r.environment)),
    ("request", some r.request.toJson), ("response", r.response.map ReceivedResponse.toJson),
    ("status", r.status.map fun s => .nat s.toNat), ("latency_ms", some (.nat r.latency.toNat)),
    ("attempts", some (.nat r.attempts.toNat)), ("outcome", some (.str r.outcome.name)),
    ("error", r.error.map Failure.toJson), ("created_at", some (.str r.createdAt.zuluText)),
    ("subject", r.subject.map Subject.toJson), ("replay_of", r.replayOf.map RecordId.toJson),
    ("replays", r.replaysJson?), ("inputs", some r.inputs.toJson)]

theorem names_parts (r : Record) : r.parts.map (·.1) = fieldNames := rfl

theorem toJson_eq (r : Record) : r.toJson = .obj (givenMembers r.parts) := by
  unfold toJson parts replaysJson?
  simp only [givenMembers_cons_some, givenMembers_cons_map, List.append_assoc, List.cons_append,
    List.nil_append]
  split <;> rfl

theorem forall_mem_values_iff {r : Record} {P : Json → Prop} : (∀ v ∈ r.values, P v) ↔
    (∀ v, r.request.body = some v → P v) ∧
      (∀ a, r.response = some a → ∀ v, a.body = some v → P v) ∧
      (∀ v, r.inputs.model = some v → P v) ∧ ∀ v, r.inputs.payload = some v → P v := by
  have hanswer : (∀ v, r.response.bind (·.body) = some v → P v) ↔
      ∀ a, r.response = some a → ∀ v, a.body = some v → P v := by
    cases r.response <;> simp
  rw [values, forall_mem_reduceOption, List.forall_mem_cons, List.forall_mem_cons,
    List.forall_mem_cons, List.forall_mem_singleton, hanswer]

theorem forall_mem_headers_iff {r : Record} {P : Headers → Prop} : (∀ h ∈ r.headers, P h) ↔
    P r.request.headers ∧ (∀ a, r.response = some a → P a.headers) ∧
      ∀ h, r.inputs.headers = some h → P h := by
  rw [headers, forall_mem_reduceOption, List.forall_mem_cons, List.forall_mem_cons,
    List.forall_mem_singleton]
  cases r.response <;> simp

theorem instant?_zuluText {i : Time.Instant} (h : i.IsRepresentable) :
    instant? (.str i.zuluText) = some i := by
  rw [instant?, Json.string?, Option.bind_some, Time.Instant.readLenient?_zuluText h]

/-- A record is read back without the values that are null. -/
theorem ofJson?_toJson {r : Record} (h : r.Regular) : ofJson? r.toJson = some r.withoutNulls := by
  have hd : (r.parts.map (·.1)).Nodup := r.names_parts ▸ (by decide : fieldNames.Nodup)
  obtain ⟨hbody, hanswer, hmodel, hpayload⟩ := forall_mem_values_iff.1 h.values
  obtain ⟨hsent, hreceived, hkept⟩ := forall_mem_headers_iff.1 h.headers
  have hid : (ofParts r.parts).required "id" RecordId.ofJson? = some r.id :=
    required_ofParts hd rfl (RecordId.ofJson?_toJson r.id)
  have hprovider : (ofParts r.parts).required "provider" Json.string? = some r.provider :=
    required_ofParts hd rfl rfl
  have hendpoint : (ofParts r.parts).required "endpoint" Json.string? = some r.endpoint :=
    required_ofParts hd rfl rfl
  have henvironment : (ofParts r.parts).defaulted "environment" "" Json.string? =
      some r.environment := defaulted_ofParts hd rfl nofun fun _ h => Option.some.inj h ▸ rfl
  have hrequest : (ofParts r.parts).required "request" SentRequest.ofJson? =
      some r.request.withoutNull :=
    required_ofParts hd rfl (SentRequest.ofJson?_toJson hsent hbody)
  have hresponse : (ofParts r.parts).possible "response" ReceivedResponse.ofJson? =
      some (r.response.map (·.withoutNull)) :=
    possible_ofParts_map hd rfl fun a ha =>
      ⟨nofun, ReceivedResponse.ofJson?_toJson (hreceived a ha) (hanswer a ha)⟩
  have hstatus : (ofParts r.parts).possible "status" Json.uint16? = some r.status :=
    possible_ofParts hd rfl fun s _ => ⟨nofun, Json.uint16?_nat s⟩
  have hlatency : (ofParts r.parts).required "latency_ms" Json.uint64? = some r.latency :=
    required_ofParts hd rfl (Json.uint64?_nat r.latency)
  have hattempts : (ofParts r.parts).required "attempts" Json.uint32? = some r.attempts :=
    required_ofParts hd rfl (Json.uint32?_nat r.attempts)
  have houtcome : (ofParts r.parts).required "outcome"
      (fun j => j.choice?.bind Outcome.ofName?) = some r.outcome :=
    required_ofParts hd rfl (Outcome.ofName?_name r.outcome)
  have herror : (ofParts r.parts).possible "error" Failure.ofJson? = some r.error :=
    possible_ofParts hd rfl fun e _ => ⟨nofun, e.ofJson?_toJson⟩
  have hcreated : (ofParts r.parts).required "created_at" instant? = some r.createdAt :=
    required_ofParts hd rfl (instant?_zuluText h.createdAt)
  have hsubject : (ofParts r.parts).possible "subject" Subject.ofJson? =
      some r.subject := possible_ofParts hd rfl fun s _ => ⟨nofun, s.ofJson?_toJson⟩
  have hreplayOf : (ofParts r.parts).possible "replay_of" RecordId.ofJson? =
      some r.replayOf := possible_ofParts hd rfl fun i _ => ⟨nofun, i.ofJson?_toJson⟩
  have hreplays : (ofParts r.parts).defaulted "replays" [] (Json.listOf RecordId.ofJson?) =
      some r.replays := by
    have hlookup : r.parts.lookup "replays" = some r.replaysJson? := rfl
    refine defaulted_ofParts hd hlookup (fun habsent => ?_) fun j hj => ?_
    · simpa [replaysJson?] using habsent
    · obtain ⟨-, hj⟩ := Option.ite_none_left_eq_some.1 hj
      cases hj
      exact Json.listOf_map RecordId.ofJson?_toJson r.replays
  have hinputs : (ofParts r.parts).defaulted "inputs" {} ReplayInputs.ofJson? =
      some r.inputs.withoutNulls :=
    defaulted_ofParts hd rfl nofun fun _ h =>
      Option.some.inj h ▸ ReplayInputs.ofJson?_toJson hkept hmodel hpayload
  have hfields := ofJson?_givenMembers hd r.names_parts
  rw [toJson_eq]
  exact bind_eq hfields <| bind_eq hid <| bind_eq hprovider <| bind_eq hendpoint <|
    bind_eq henvironment <| bind_eq hrequest <| bind_eq hresponse <| bind_eq hstatus <|
    bind_eq hlatency <| bind_eq hattempts <| bind_eq houtcome <| bind_eq herror <|
    bind_eq hcreated <| bind_eq hsubject <| bind_eq hreplayOf <| bind_eq hreplays <|
    bind_eq hinputs rfl

/-- Nothing is lost of a record unless one of its values is null. -/
theorem withoutNulls_eq_self_iff {r : Record} :
    r.withoutNulls = r ↔ ∀ v ∈ r.values, v ≠ .null := by
  have hresponse : r.response.map (·.withoutNull) = r.response ↔
      ∀ a, r.response = some a → ∀ v, a.body = some v → v ≠ .null := by
    cases r.response with
    | none => simp
    | some a => simp [ReceivedResponse.withoutNull_eq_self_iff]
  rw [forall_mem_values_iff, ← SentRequest.withoutNull_eq_self_iff, ← hresponse,
    ← ReplayInputs.withoutNulls_eq_self_iff]
  refine ⟨fun h => ⟨congrArg request h, congrArg response h, congrArg inputs h⟩, ?_⟩
  rintro ⟨hrequest, hresponse, hinputs⟩
  rw [withoutNulls, hrequest, hresponse, hinputs]

end Record

end ApiGateway
