import ApiGateway.Audit.Journal
import ApiGateway.Proofs.Json.Fitting
import ApiGateway.Proofs.Json.Integers
import ApiGateway.Proofs.Record.RoundTrip

/-! # Records read back from their lines

The line of a record can be read if the numbers in its values read back and no value is too deep:
two containers are open around the body of a request, and a reader allows 127. What is read is the
record without the values that are null (`Journal.record?_lineOf_eq`), and this is the record itself
just if it is `Lossless`.
-/

set_option autoImplicit false

namespace ApiGateway

/-! ## Documents of parts -/

namespace Json

variable {parts : List (String × Option Json)}

theorem readableItems_iff {items : List Json} :
    ReadableItems items ↔ ∀ v ∈ items, v.Readable := by
  induction items with
  | nil => simp [ReadableItems]
  | cons v rest ih => rw [ReadableItems, ih, List.forall_mem_cons]

theorem readableMembers_iff {members : List (String × Json)} :
    ReadableMembers members ↔ ∀ p ∈ members, p.2.Readable := by
  induction members with
  | nil => simp [ReadableMembers]
  | cons p rest ih =>
      obtain ⟨k, v⟩ := p
      rw [ReadableMembers, ih, List.forall_mem_cons]

theorem readable_givenMembers :
    (obj (givenMembers parts)).Readable ↔ ∀ p ∈ parts, ∀ v, p.2 = some v → v.Readable :=
  readableMembers_iff.trans forall_mem_givenMembers

theorem depth_givenMembers_le {n : Nat} :
    (obj (givenMembers parts)).depth ≤ n + 1 ↔ ∀ p ∈ parts, ∀ v, p.2 = some v → v.depth ≤ n := by
  rw [depth, Nat.add_le_add_iff_right, depthOfMembers_le_iff, forall_mem_givenMembers]

theorem covers_givenMembers {layout : Layout} : layout.Covers (obj (givenMembers parts)) ↔
    ∀ p ∈ parts, ∀ v, p.2 = some v →
      ∃ inner, layout.member? p.1 = some inner ∧ inner.Covers v :=
  Layout.coversMembers_iff.trans forall_mem_givenMembers

theorem readable_nat {n : Nat} (h : n < 18446744073709551616) : (nat n).Readable := by
  refine Number.readable_int ?_
  show Binary64.minInt64 ≤ (n : Int) ∧ (n : Int) ≤ Binary64.maxUInt64
  unfold Binary64.minInt64 Binary64.maxUInt64
  omega

end Json

open Json (givenMembers readable_givenMembers depth_givenMembers_le covers_givenMembers)

/-! ## What holds of the parts of a record -/

/-- It holds of texts and of counts. -/
structure Json.HoldsOfScalars (P : Json → Prop) : Prop where
  str : ∀ s, P (.str s)
  nat : ∀ n < 18446744073709551616, P (.nat n)

section Parts

variable {P : Json → Prop} (hscalar : Json.HoldsOfScalars P)
include hscalar

theorem Headers.forall_mem_members (h : Headers) :
    ∀ p ∈ h.map (fun (n, v) => (n, Json.str v)), P p.2 := by
  intro p hp
  obtain ⟨_, _, rfl⟩ := List.mem_map.1 hp
  exact hscalar.str _

theorem Subject.forall_mem_parts (s : Subject) : ∀ p ∈ s.parts, ∀ v, p.2 = some v → P v := by
  simp [parts, hscalar.str]

theorem Failure.forall_mem_parts (e : Failure) : ∀ p ∈ e.parts, ∀ v, p.2 = some v → P v := by
  simp [parts, hscalar.str]

theorem SentRequest.forall_mem_parts_iff {r : SentRequest} :
    (∀ p ∈ r.parts, ∀ v, p.2 = some v → P v) ↔
      P r.headers.toJson ∧ ∀ v, r.body = some v → P v := by
  simp [parts, hscalar.str]

theorem ReceivedResponse.forall_mem_parts_iff {r : ReceivedResponse} :
    (∀ p ∈ r.parts, ∀ v, p.2 = some v → P v) ↔
      P r.headers.toJson ∧ ∀ v, r.body = some v → P v := by
  have hstatus := hscalar.nat r.status.toNat (Nat.lt_trans r.status.toNat_lt (by decide))
  simp [parts, hstatus]

theorem ReplayInputs.forall_mem_parts_iff {i : ReplayInputs} :
    (∀ p ∈ i.parts, ∀ v, p.2 = some v → P v) ↔
      (∀ v, i.model = some v → P v) ∧ (∀ v, i.payload = some v → P v) ∧
        ∀ h, i.headers = some h → P h.toJson := by
  simp [parts, hscalar.str]

theorem Record.exists_ids_of_replaysJson? {r : Record} {j : Json} (h : r.replaysJson? = some j) :
    ∃ ids : List Json, j = .arr ids ∧ ∀ id ∈ ids, P id := by
  obtain ⟨-, hj⟩ := Option.ite_none_left_eq_some.1 h
  cases hj
  refine ⟨_, rfl, fun id hid => ?_⟩
  obtain ⟨i, _, rfl⟩ := List.mem_map.1 hid
  exact hscalar.str i.text

theorem Record.forall_mem_parts_iff {r : Record} :
    (∀ p ∈ r.parts, ∀ v, p.2 = some v → P v) ↔
      P r.request.toJson ∧ (∀ a, r.response = some a → P a.toJson) ∧
        (∀ e, r.error = some e → P e.toJson) ∧ (∀ s, r.subject = some s → P s.toJson) ∧
          (∀ j, r.replaysJson? = some j → P j) ∧ P r.inputs.toJson := by
  have hstatus (s : UInt16) : P (.nat s.toNat) :=
    hscalar.nat s.toNat (Nat.lt_trans s.toNat_lt (by decide))
  have hattempts := hscalar.nat r.attempts.toNat (Nat.lt_trans r.attempts.toNat_lt (by decide))
  have hlatency := hscalar.nat r.latency.toNat r.latency.toNat_lt
  have hid (id : RecordId) : P id.toJson := hscalar.str id.text
  simp [parts, hscalar.str, hstatus, hattempts, hlatency, hid]

end Parts

/-! ## Readable records -/

theorem Json.holdsOfScalars_readable : Json.HoldsOfScalars Json.Readable where
  str _ := trivial
  nat _ hn := Json.readable_nat hn

theorem Headers.readable_toJson (h : Headers) : h.toJson.Readable :=
  Json.readableMembers_iff.2 (h.forall_mem_members Json.holdsOfScalars_readable)

/-- The document of a record is readable if its values are. -/
theorem Record.readable_toJson {r : Record} (h : ∀ v ∈ r.values, v.Readable) :
    r.toJson.Readable := by
  have hscalar := Json.holdsOfScalars_readable
  obtain ⟨hbody, hanswer, hmodel, hpayload⟩ := forall_mem_values_iff.1 h
  rw [toJson_eq, readable_givenMembers, forall_mem_parts_iff hscalar]
  refine ⟨?request, fun a ha => ?response, fun e _ => ?error, fun s _ => ?subject,
    fun j hj => ?replays, ?inputs⟩
  case request =>
    rw [SentRequest.toJson_eq, readable_givenMembers, SentRequest.forall_mem_parts_iff hscalar]
    exact ⟨Headers.readable_toJson _, hbody⟩
  case response =>
    rw [ReceivedResponse.toJson_eq, readable_givenMembers,
      ReceivedResponse.forall_mem_parts_iff hscalar]
    exact ⟨Headers.readable_toJson _, hanswer a ha⟩
  case error =>
    rw [Failure.toJson_eq, readable_givenMembers]
    exact e.forall_mem_parts hscalar
  case subject =>
    rw [Subject.toJson_eq, readable_givenMembers]
    exact s.forall_mem_parts hscalar
  case replays =>
    obtain ⟨ids, rfl, hids⟩ := exists_ids_of_replaysJson? hscalar hj
    exact Json.readableItems_iff.2 hids
  case inputs =>
    rw [ReplayInputs.toJson_eq, readable_givenMembers, ReplayInputs.forall_mem_parts_iff hscalar]
    exact ⟨hmodel, hpayload, fun _ _ => Headers.readable_toJson _⟩

/-! ## Depths of records -/

theorem Json.holdsOfScalars_depth_le (n : Nat) : Json.HoldsOfScalars (·.depth ≤ n) where
  str _ := Nat.zero_le n
  nat _ _ := Nat.zero_le n

theorem Headers.depth_toJson_le (h : Headers) : h.toJson.depth ≤ 1 :=
  Nat.succ_le_succ
    (Json.depthOfMembers_le_iff.2 (h.forall_mem_members (Json.holdsOfScalars_depth_le 0)))

/-- Two containers are open around each value of a record. -/
theorem Record.depth_toJson_le_iff {r : Record} {n : Nat} (hn : 1 ≤ n) :
    r.toJson.depth ≤ n + 2 ↔ ∀ v ∈ r.values, v.depth ≤ n := by
  have hheaders (h : Headers) : h.toJson.depth ≤ n := Nat.le_trans h.depth_toJson_le hn
  have hrequest : r.request.toJson.depth ≤ n + 1 ↔ ∀ v, r.request.body = some v → v.depth ≤ n := by
    rw [SentRequest.toJson_eq, depth_givenMembers_le,
      SentRequest.forall_mem_parts_iff (Json.holdsOfScalars_depth_le n)]
    exact and_iff_right (hheaders _)
  have hresponse (a : ReceivedResponse) :
      a.toJson.depth ≤ n + 1 ↔ ∀ v, a.body = some v → v.depth ≤ n := by
    rw [ReceivedResponse.toJson_eq, depth_givenMembers_le,
      ReceivedResponse.forall_mem_parts_iff (Json.holdsOfScalars_depth_le n)]
    exact and_iff_right (hheaders _)
  have herror (e : Failure) : e.toJson.depth ≤ n + 1 := by
    rw [Failure.toJson_eq, depth_givenMembers_le]
    exact e.forall_mem_parts (Json.holdsOfScalars_depth_le n)
  have hsubject (s : Subject) : s.toJson.depth ≤ n + 1 := by
    rw [Subject.toJson_eq, depth_givenMembers_le]
    exact s.forall_mem_parts (Json.holdsOfScalars_depth_le n)
  have hreplays : ∀ j, r.replaysJson? = some j → j.depth ≤ n + 1 := by
    intro j hj
    obtain ⟨ids, rfl, hids⟩ := exists_ids_of_replaysJson? (Json.holdsOfScalars_depth_le n) hj
    exact Nat.succ_le_succ (Json.depthOfItems_le_iff.2 hids)
  have hinputs : r.inputs.toJson.depth ≤ n + 1 ↔
      (∀ v, r.inputs.model = some v → v.depth ≤ n) ∧
        ∀ v, r.inputs.payload = some v → v.depth ≤ n := by
    rw [ReplayInputs.toJson_eq, depth_givenMembers_le,
      ReplayInputs.forall_mem_parts_iff (Json.holdsOfScalars_depth_le n)]
    exact and_congr_right fun _ => and_iff_left fun h _ => hheaders h
  rw [toJson_eq, depth_givenMembers_le, forall_mem_parts_iff (Json.holdsOfScalars_depth_le (n + 1)),
    forall_mem_values_iff]
  simp only [hrequest, hresponse, herror, hsubject, hinputs, implies_true, true_and]
  tauto

/-! ## What is read of a record -/

/-- A reader that knows the names of the parts asks for everything in them. -/
theorem Json.covers_ofNames {parts : List (String × Option Json)} {names : List String}
    (h : parts.map (·.1) = names) :
    (Layout.ofNames names []).Covers (.obj (givenMembers parts)) := by
  rw [covers_givenMembers]
  intro p hp v _
  have hname : p.1 ∈ names := h ▸ List.mem_map_of_mem hp
  exact ⟨.whole, Layout.member?_ofNames hname [], Layout.covers_whole v⟩

/-- A reader of records asks for everything in a record. -/
theorem Record.covers_toJson (r : Record) : layout.Covers r.toJson := by
  have hwhole (name : String) (h : layout.member? name = some .whole) (v : Json) :
      ∃ inner, layout.member? name = some inner ∧ inner.Covers v :=
    ⟨.whole, h, Json.Layout.covers_whole v⟩
  rw [toJson_eq, covers_givenMembers]
  simp only [parts, List.forall_mem_cons, Option.some.injEq, forall_eq']
  refine ⟨hwhole _ rfl _, hwhole _ rfl _, hwhole _ rfl _, hwhole _ rfl _, ?request, ?response,
    fun v _ => hwhole _ rfl v, hwhole _ rfl _, hwhole _ rfl _, hwhole _ rfl _, ?error,
    hwhole _ rfl _, ?subject, fun v _ => hwhole _ rfl v, fun v _ => hwhole _ rfl v, ?inputs, nofun⟩
  case request =>
    exact ⟨_, rfl, r.request.toJson_eq ▸ Json.covers_ofNames r.request.names_parts⟩
  case inputs =>
    exact ⟨_, rfl, r.inputs.toJson_eq ▸ Json.covers_ofNames r.inputs.names_parts⟩
  case response =>
    intro v hv
    obtain ⟨a, _, rfl⟩ := Option.map_eq_some_iff.1 hv
    exact ⟨_, rfl, a.toJson_eq ▸ Json.covers_ofNames a.names_parts⟩
  case error =>
    intro v hv
    obtain ⟨e, _, rfl⟩ := Option.map_eq_some_iff.1 hv
    exact ⟨_, rfl, e.toJson_eq ▸ Json.covers_ofNames e.names_parts⟩
  case subject =>
    intro v hv
    obtain ⟨s, _, rfl⟩ := Option.map_eq_some_iff.1 hv
    exact ⟨_, rfl, s.toJson_eq ▸ Json.covers_ofNames s.names_parts⟩

/-- No value of a record is null, and none is deeper than a reader of records allows. -/
def Record.Lossless (r : Record) : Prop := ∀ v ∈ r.values, v ≠ .null ∧ v.depth ≤ 125

namespace Audit.Journal

variable {r : Record}

/-- What is read of the line of a record at first is its identifier, whatever its values are. -/
theorem id?_lineOf_of_readable (h : ∀ v ∈ r.values, v.Readable) : id? (lineOf r) = some r.id := by
  have hcons : r.toJson = .obj (("id", .str r.id.text) :: givenMembers r.parts.tail) := r.toJson_eq
  have hothers : ∀ p ∈ givenMembers r.parts.tail,
      (Json.Layout.ofNames headNames []).member? p.1 = none := by
    intro p hp
    have hname : p.1 ∈ Record.fieldNames.tail :=
      (Json.names_givenMembers r.parts.tail).subset (List.mem_map_of_mem hp)
    have hall : ∀ name ∈ Record.fieldNames.tail,
        (Json.Layout.ofNames headNames []).member? name = none := by decide
    exact hall p.1 hname
  have hread : Json.readFields (.ofNames headNames []) (lineOf r) =
      some (.obj [("id", r.id.toJson)]) := by
    unfold lineOf
    rw [Json.readFields_render (Record.readable_toJson h), hcons]
    show (Json.Written.fitMembers? 126 _ ((some "id", .str (some r.id.text)) ::
      Json.toWrittenMembers (givenMembers r.parts.tail))).map Json.obj = _
    rw [Json.Written.fitMembers?, Json.Written.fitMembers?_eq_nil hothers]
    rfl
  have hfields : Json.Fields.ofJson? headNames (.obj [("id", r.id.toJson)]) =
      some ⟨[("id", r.id.toJson)]⟩ := rfl
  unfold id?
  rw [hread]
  simp [hfields, Json.Fields.required, Json.find?, RecordId.ofJson?_toJson]

/-- What is read of the line of a record is the record without the values that are null, unless one
of its values is too deep. -/
theorem record?_lineOf_eq (h : r.Regular) (hreadable : ∀ v ∈ r.values, v.Readable) :
    record? (lineOf r) = if ∀ v ∈ r.values, v.depth ≤ 125 then some r.withoutNulls else none := by
  have hdepth : r.toJson.depth ≤ Json.maxDepth ↔ ∀ v ∈ r.values, v.depth ≤ 125 :=
    Record.depth_toJson_le_iff (by decide)
  unfold record? lineOf
  rw [Json.readFields_render_of_covers (Record.readable_toJson hreadable) r.covers_toJson,
    if_congr hdepth rfl rfl]
  split
  · exact Record.ofJson?_toJson h
  · rfl

/-- A record is read of its line just if it is lossless. -/
theorem record?_lineOf_iff (h : r.Regular) (hreadable : ∀ v ∈ r.values, v.Readable) :
    record? (lineOf r) = some r ↔ r.Lossless := by
  unfold Record.Lossless
  rw [record?_lineOf_eq h hreadable]
  split
  · rename_i hdepth
    rw [Option.some.injEq, Record.withoutNulls_eq_self_iff]
    exact ⟨fun h v hv => ⟨h v hv, hdepth v hv⟩, fun h v hv => (h v hv).1⟩
  · rename_i hdeep
    exact ⟨nofun, fun h => absurd (fun v hv => (h v hv).2) hdeep⟩

/-- If what is read of the line of a record has all its parts but perhaps its replays, then nothing
of the record is lost. -/
theorem lossless_of_record?_lineOf (h : r.Regular) (hreadable : ∀ v ∈ r.values, v.Readable)
    {x : Record} (hx : record? (lineOf r) = some x) {before after : List RecordId}
    (heq : { x with replays := before } = { r with replays := after }) : r.Lossless := by
  rw [← record?_lineOf_iff h hreadable, hx]
  rw [record?_lineOf_eq h hreadable] at hx
  split at hx
  · cases hx
    have hrequest : r.request.withoutNull = r.request := congrArg Record.request heq
    have hresponse : r.response.map (·.withoutNull) = r.response := congrArg Record.response heq
    have hinputs : r.inputs.withoutNulls = r.inputs := congrArg Record.inputs heq
    rw [Record.withoutNulls, hrequest, hresponse, hinputs]
  · cases hx

end Audit.Journal

/-! ## An order -/

/-- The record of an order with an amount, which can be sent again. -/
def amountOrder (provider : String) (id : RecordId) (createdAt : Time.Instant) : Record where
  id := id
  provider := provider
  endpoint := "order"
  environment := "live"
  request := { method := "POST", url := "https://acme.example/order" }
  response := some { status := 201, body := some (.arr []) }
  status := some 201
  latency := 12
  attempts := 1
  outcome := .success
  error := none
  createdAt := createdAt
  subject := none
  replayOf := none
  replays := []
  inputs := { payload := some (.obj [("amount", .int 3)]) }

section

variable (provider : String) (id : RecordId) {createdAt : Time.Instant}

theorem regular_amountOrder (h : createdAt.IsRepresentable) :
    (amountOrder provider id createdAt).Regular where
  headers := by
    show ∀ h ∈ [[], []], Headers.Distinct h
    simp [Headers.Distinct]
  values := by
    show ∀ v ∈ [Json.arr [], .obj [("amount", .int 3)]], v.Normal
    have hamount : (Json.int 3).Normal := trivial
    simp [Json.Normal, Json.NormalItems, Json.NormalMembers, Json.Ascending, hamount]
  createdAt := h

theorem readable_amountOrder : ∀ v ∈ (amountOrder provider id createdAt).values, v.Readable := by
  show ∀ v ∈ [Json.arr [], .obj [("amount", .int 3)]], v.Readable
  have hamount : (Json.int 3).Readable := Json.readable_nat (by decide)
  simp [Json.Readable, Json.ReadableItems, Json.ReadableMembers, hamount]

theorem lossless_amountOrder : (amountOrder provider id createdAt).Lossless := by
  show ∀ v ∈ [Json.arr [], .obj [("amount", .int 3)]], v ≠ .null ∧ v.depth ≤ 125
  decide

open Audit.Journal in
theorem record?_lineOf_amountOrder (h : createdAt.IsRepresentable) :
    record? (lineOf (amountOrder provider id createdAt)) =
      some (amountOrder provider id createdAt) :=
  (record?_lineOf_iff (regular_amountOrder provider id h) (readable_amountOrder provider id)).2
    (lossless_amountOrder provider id)

end

end ApiGateway
