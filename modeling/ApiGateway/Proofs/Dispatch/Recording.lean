import ApiGateway.Proofs.Catalog.Headers
import ApiGateway.Proofs.Dispatch.Resending
import ApiGateway.Proofs.Masking.Shape
import ApiGateway.Proofs.Record.Lines

/-! # The line of a dispatch

Whatever a dispatch does, its record is regular (`regular_record`): headers are built name by name,
and values pass the masker. The line of the record is therefore read as the record without the
values that are null, or cannot be read because a value is too deep.
-/

set_option autoImplicit false

namespace ApiGateway

/-! ## Headers with distinct names -/

namespace Headers

theorem distinct_nil : Distinct [] := List.nodup_nil

theorem distinct_set (name value : String) {h : Headers} (hdistinct : h.Distinct) :
    (h.set name value).Distinct := by
  unfold Distinct set at *
  rw [List.map_append, List.nodup_append]
  refine ⟨hdistinct.sublist (List.filter_sublist.map _), List.pairwise_singleton _ _, ?_⟩
  rintro _ hkept _ hnew rfl
  obtain ⟨⟨n, v⟩, hmem, rfl⟩ := List.mem_map.1 hkept
  cases List.mem_singleton.1 hnew
  simpa [Text.equalIgnoringCase] using (List.mem_filter.1 hmem).2

end Headers

theorem Masker.distinct_maskHeaders (m : Masker) {h : Headers} (hdistinct : h.Distinct) :
    (m.maskHeaders h).Distinct := by
  rw [Headers.Distinct, names_maskHeaders]
  exact hdistinct

theorem Draft.distinct_place {d : Draft} (h : d.headers.Distinct) (s : Seal) :
    (d.place s).headers.Distinct := by
  cases s with
  | header name value => exact Headers.distinct_set name value h
  | _ => exact h

theorem Catalog.Mapping.distinct_fillHeaders {c : Expression.Context} {rules : List Catalog.Header}
    {h h' : Headers} (hdistinct : h.Distinct) (hfill : fillHeaders c h rules = .ok h') :
    h'.Distinct := by
  induction rules generalizing h with
  | nil =>
      cases hfill
      exact hdistinct
  | cons rule rules ih =>
      rcases cases_of_fillHeaders hfill with ⟨text, _, hfill⟩ | ⟨_, hfill⟩
      · exact ih (Keyed.nodup_names_put _ _ hdistinct) hfill
      · exact ih hdistinct hfill

namespace Dispatch

/-! ## What the types of the program rule out -/

/-- No answer of the vendor has a header twice. -/
def Script.Distinct (script : Script) : Prop :=
  ∀ k a, (script k).result = .ok a → a.headers.Distinct

/-- The headers that a replay starts from are distinct. -/
def Basis.Distinct : Basis → Prop
  | .model _ => True
  | .payload _ _ headers => headers.Distinct

/-- No headers in a trace have a name twice. -/
structure Trace.Distinct (t : Trace) : Prop where
  request : t.request.headers.Distinct
  answer : ∀ a, t.answer = some a → a.headers.Distinct
  inputs : ∀ h, t.inputs.headers = some h → h.Distinct

/-- The record of a trace is regular: what is masked is normal, and what is kept unmasked is what
masking leaves alone. -/
theorem Trace.Distinct.regular {t : Trace} (h : t.Distinct) (hnow : t.createdAt.IsRepresentable)
    (m : Masker) (latency : UInt64) : (t.record m latency).Regular where
  headers := by
    rw [Record.forall_mem_headers_iff]
    refine ⟨m.distinct_maskHeaders h.request, fun a ha => ?_, fun hs hhs => ?_⟩
    · obtain ⟨answer, hanswer, rfl⟩ := Option.map_eq_some_iff.1 ha
      exact m.distinct_maskHeaders (h.answer answer hanswer)
    · exact h.inputs hs (Option.filter_eq_some_iff.1 hhs).1
  values := by
    have hmasked (v : Option Json) : ∀ j, v.map m.maskValue = some j → j.Normal := fun j hj => by
      obtain ⟨j, _, rfl⟩ := Option.map_eq_some_iff.1 hj
      exact m.normal_maskValue j
    have hkept (v : Option Json) : ∀ j, v.filter m.isClean = some j → j.Normal := fun j hj =>
      Masker.normal_of_isClean (Option.filter_eq_some_iff.1 hj).2
    rw [Record.forall_mem_values_iff]
    refine ⟨hmasked _, fun a ha => ?_, hkept _, hkept _⟩
    obtain ⟨answer, _, rfl⟩ := Option.map_eq_some_iff.1 ha
    exact hmasked _
  createdAt := hnow

section

variable {g : Gateway} {p : Catalog.Provider} {e : Catalog.Endpoint} {id : RecordId}
  {now : Time.Instant} {script : Script} {cancel : Option Nat} {call : Call}

theorem distinct_built (hbasis : call.basis.Distinct) {b : Built}
    (hb : built g p e call = .ok b) : b.headers.Distinct := by
  cases hcall : call.basis with
  | model value =>
      have hheaders := (parts_of_built hcall hb).2.1
      exact Catalog.Mapping.distinct_fillHeaders Headers.distinct_nil hheaders
  | payload payload path headers =>
      rw [hcall] at hbasis
      obtain ⟨_, rfl, _⟩ := (built_of_payload hcall).1 hb
      exact hbasis

theorem distinct_signed {b : Built} {d : Draft} (h : b.headers.Distinct)
    (hs : signed g p e call b = .ok d) : d.headers.Distinct := by
  rw [signed_eq] at hs
  obtain ⟨s, _, rfl⟩ := exists_of_map_eq_ok hs
  exact Draft.distinct_place h s

theorem distinct_answer (hscript : script.Distinct) {answer : Answer}
    (h : (send script e.retry e.timeout cancel).result = .ok answer) :
    answer.headers.Distinct := by
  obtain ⟨_, hreply⟩ := follows_send.answered answer h
  exact hscript _ _ (result_within_eq_ok_iff.1 hreply).2

theorem Trace.Distinct.settle {t : Trace} (h : t.Distinct) {c : Expression.Context} {m : Masker}
    {request : OutboundRequest} {s : Sending}
    (hanswer : ∀ a, s.result = .ok a → a.headers.Distinct) :
    (Dispatch.settle e c t m request s).trace.Distinct := by
  unfold Dispatch.settle
  dsimp only
  have hanswered (a : Answer) (ha : s.result = .ok a) (b : Answer) (hb : some a = some b) :
      b.headers.Distinct := Option.some.inj hb ▸ hanswer a ha
  split
  · exact ⟨h.request, h.answer, h.inputs⟩
  · exact ⟨h.request, h.answer, h.inputs⟩
  · rename_i answer hresult
    split
    · exact ⟨h.request, hanswered answer hresult, h.inputs⟩
    · exact ⟨h.request, hanswered answer hresult, h.inputs⟩

/-- No headers in the trace of a dispatch have a name twice. -/
theorem distinct_runOn (hscript : script.Distinct) (hbasis : call.basis.Distinct) :
    (runOn g p e id now script cancel call).trace.Distinct := by
  have hbegin : (begin p e id now call).inputs.headers = none := by
    unfold begin
    cases call.basis <;> rfl
  unfold runOn
  dsimp only
  split
  · refine ⟨Headers.distinct_nil, nofun, fun h hh => ?_⟩
    have hnone : none = some h := hbegin.symm.trans hh
    cases hnone
  · rename_i b hb
    have hbuilt : b.headers.Distinct := distinct_built hbasis hb
    have hinputs : ∀ h, some b.headers = some h → h.Distinct := fun h hh =>
      Option.some.inj hh ▸ hbuilt
    split
    · exact ⟨hbuilt, nofun, hinputs⟩
    · rename_i d hs
      have hsigned : d.headers.Distinct := distinct_signed hbuilt hs
      refine Trace.Distinct.settle ⟨hsigned, fun a ha => ?_, hinputs⟩ fun a =>
        distinct_answer hscript
      cases ha

/-- The record of a dispatch is regular. -/
theorem regular_record (hnow : now.IsRepresentable) (hscript : script.Distinct)
    (hbasis : call.basis.Distinct) : (runOn g p e id now script cancel call).record.Regular := by
  have hcreated : (runOn g p e id now script cancel call).trace.createdAt = now :=
    identified_runOn.createdAt
  refine (distinct_runOn hscript hbasis).regular ?_ _ _
  rw [hcreated]
  exact hnow

end

/-! ## The line of the record -/

open Audit.Journal (record? lineOf)

/-- **Dispatches in a journal.** If the numbers in it read back, the line that a journal gets for a
dispatch is read as the record of the dispatch without the values that are null, or cannot be read
if one of its values opens more than 125 containers. The record comes back as it was just if it has
no value of either sort. -/
theorem record?_lineOf_run {g : Gateway} {id : RecordId} {now : Time.Instant} {script : Script}
    {cancel : Option Nat} {call : Call} {r : Run}
    (hrun : run g id now script cancel call = .ok r) (hnow : now.IsRepresentable)
    (hscript : script.Distinct) (hbasis : call.basis.Distinct)
    (hreadable : ∀ v ∈ r.record.values, v.Readable) :
    record? (lineOf r.record) =
        (if ∀ v ∈ r.record.values, v.depth ≤ 125 then some r.record.withoutNulls else none) ∧
      (record? (lineOf r.record) = some r.record ↔
        ∀ v ∈ r.record.values, v ≠ .null ∧ v.depth ≤ 125) := by
  obtain ⟨⟨p, e⟩, _, rfl⟩ := exists_of_map_eq_ok hrun
  have hregular : (runOn g p e id now script cancel call).record.Regular :=
    regular_record hnow hscript hbasis
  exact ⟨Audit.Journal.record?_lineOf_eq hregular hreadable,
    Audit.Journal.record?_lineOf_iff hregular hreadable⟩

/-! ## An order and an answer that is null -/

theorem isRepresentable_epoch : Time.Instant.IsRepresentable ⟨0, 0⟩ where
  least := by decide
  greatest := by decide
  nanos := by decide
  leap := by decide

/-- The amount of an order. -/
def orderAmount : Json := .obj [("amount", .int 3)]

theorem readable_orderAmount : orderAmount.Readable :=
  ⟨Json.readable_nat (by decide), trivial⟩

/-- A vendor that answers an order with `text`. -/
def answering (text : String) : Script := fun _ => ⟨0, .ok ⟨200, [], text⟩⟩

theorem distinct_answering (text : String) : (answering text).Distinct := by
  rintro k a ha
  cases ha
  exact Headers.distinct_nil

/-- The dispatch of an order that is answered with `text`. -/
def answeredRun (text : String) : Run :=
  runOn (shopGateway clientCatalog) orderEndpoint.1 orderEndpoint.2 firstId ⟨0, 0⟩
    (answering text) none orderCall

theorem run_answering (text : String) :
    run (shopGateway clientCatalog) firstId ⟨0, 0⟩ (answering text) none orderCall =
      .ok (answeredRun text) := by
  have hfound : clientCatalog.dispatchable "shop" "order" = .ok orderEndpoint := eq_ok_get _
  show (clientCatalog.dispatchable "shop" "order").map _ = _
  rw [hfound]
  rfl

theorem record?_lineOf_order :
    run (shopGateway clientCatalog) firstId ⟨0, 0⟩ (answering "[]") none orderCall =
        .ok (answeredRun "[]") ∧
      (answeredRun "[]").record.values = [orderAmount, .arr [], orderAmount] ∧
      record? (lineOf (answeredRun "[]").record) = some (answeredRun "[]").record := by
  have hvalues : (answeredRun "[]").record.values = [orderAmount, .arr [], orderAmount] := by
    decide +kernel
  have hreadable : ∀ v ∈ (answeredRun "[]").record.values, v.Readable := by
    simp [hvalues, readable_orderAmount, Json.Readable, Json.ReadableItems]
  have hkept : ∀ v ∈ (answeredRun "[]").record.values, v ≠ .null ∧ v.depth ≤ 125 := by
    rw [hvalues]
    decide
  exact ⟨run_answering _, hvalues, (record?_lineOf_run (run_answering _) isRepresentable_epoch
    (distinct_answering _) trivial hreadable).2.2 hkept⟩

/-- An answer that is null is read back as an answer without a body. -/
theorem record?_lineOf_nullAnswer :
    run (shopGateway clientCatalog) firstId ⟨0, 0⟩ (answering "null") none orderCall =
        .ok (answeredRun "null") ∧
      (answeredRun "null").record.response = some ⟨200, [], some .null⟩ ∧
      record? (lineOf (answeredRun "null").record) ≠ some (answeredRun "null").record ∧
      record? (lineOf (answeredRun "null").record) =
        some { (answeredRun "null").record with response := some ⟨200, [], none⟩ } := by
  have hvalues : (answeredRun "null").record.values = [orderAmount, .null, orderAmount] := by
    decide +kernel
  have hreadable : ∀ v ∈ (answeredRun "null").record.values, v.Readable := by
    simp [hvalues, readable_orderAmount, Json.Readable]
  have hdepth : ∀ v ∈ (answeredRun "null").record.values, v.depth ≤ 125 := by
    rw [hvalues]
    decide
  have hread : record? (lineOf (answeredRun "null").record) =
      some { (answeredRun "null").record with response := some ⟨200, [], none⟩ } := by
    have hregular : (answeredRun "null").record.Regular :=
      regular_record isRepresentable_epoch (distinct_answering _) trivial
    rw [Audit.Journal.record?_lineOf_eq hregular hreadable, if_pos hdepth]
    decide +kernel
  refine ⟨run_answering _, by decide +kernel, ?_, hread⟩
  rw [hread]
  decide +kernel

end Dispatch

end ApiGateway
