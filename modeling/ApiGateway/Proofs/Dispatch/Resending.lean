import ApiGateway.Dispatch.Replay
import ApiGateway.Proofs.Catalog.Requests
import ApiGateway.Proofs.Dispatch.Outcome

/-! # What a replay of a kept payload sends

A replay without a model builds its request from three parts of a record that are kept or dropped
each on its own, and its expressions see null in place of the model. `KeepsPath`, `KeepsHeaders` and
`KeepsSignature` say when this makes no difference to the address, the headers and the signature.
`replay_resends` compares the request of the replay with the first one: where the three hold it is
the same request.
-/

set_option autoImplicit false

namespace ApiGateway.Dispatch

open Catalog (Provider Endpoint)

section

variable (g : Gateway) (p : Provider) (e : Endpoint) (call : Call) (r : Run)

/-- The context of the expressions of a dispatch. -/
def contextFor : Expression.Context :=
  contextOf p e (Credentials.resolve g.secrets g.vars p.environment.credentials) call.basis

/-- The context of a dispatch without a model. -/
def blindContext : Expression.Context :=
  contextOf p e (Credentials.resolve g.secrets g.vars p.environment.credentials)
    (.payload .null none [])

/-- The record has the path, or it can be rendered again without the model. -/
def KeepsPath : Prop :=
  r.record.inputs.path ≠ none ∨
    ∀ path ∈ r.trace.inputs.path, e.path.render (blindContext g p e) = .ok path

/-- The record has the mapped headers, or the strategy sets all of them itself. -/
def KeepsHeaders : Prop :=
  r.record.inputs.headers ≠ none ∨
    ∀ headers ∈ r.trace.inputs.headers, ∀ h ∈ headers,
      ∃ name ∈ p.auth.header?, Text.equalIgnoringCase h.1 name = true

/-- A signature formula has the same value without the model. -/
def KeepsSignature : Prop :=
  ∀ target, p.auth = .formula target → ∀ f ∈ e.mapping.signatureFormula,
    f.eval (contextFor g p e call) = f.eval (blindContext g p e)

/-- How a request of a replay compares with the first request. -/
structure Resembles (q out : OutboundRequest) : Prop where
  method : q.method = out.method
  query : q.query = out.query
  timeout : q.timeout = out.timeout
  url : KeepsPath g p e r → q.url = out.url
  body : KeepsSignature g p e call → q.body = out.body
  headers : KeepsSignature g p e call → (q.headers = out.headers ↔ KeepsHeaders p r)

end

section

variable {g : Gateway} {p : Provider} {e : Endpoint} {id : RecordId} {now : Time.Instant}
  {script : Script} {cancel : Option Nat} {call : Call} {r : Run}

/-! ## Parts that do not read the model -/

theorem keepsPath_of_not_references_model
    (h : ∀ q ∈ e.path.parameters, q.2.references .model = false)
    (hr : ∀ path ∈ r.trace.inputs.path, e.path.render (contextFor g p e call) = .ok path) :
    KeepsPath g p e r := by
  refine Or.inr fun path hpath => ?_
  rw [← hr path hpath]
  exact Catalog.PathTemplate.render_congr fun q hq =>
    Expression.eval_of_not_references_model (h q hq) rfl rfl

theorem keepsSignature_of_not_references_model
    (h : ∀ f ∈ e.mapping.signatureFormula, f.references .model = false) :
    KeepsSignature g p e call :=
  fun _ _ f hf => Expression.eval_of_not_references_model (h f hf) rfl rfl

/-! ## The request of a run -/

/-- The request of a dispatch is its draft with what the strategy adds. -/
theorem signed_eq (b : Built) :
    signed g p e call b =
      (strategySeal p.auth (draftOf p e b).body
        (Credentials.resolve g.secrets g.vars p.environment.credentials)
        e.mapping.signatureFormula (contextFor g p e call)).map (draftOf p e b).place :=
  sign_eq _ _

/-- What is noted of the sending leaves the request, the inputs and the masker as they are. -/
theorem settle_keeps (c : Expression.Context) (t : Trace) (m : Masker) (request : OutboundRequest)
    (s : Sending) :
    (settle e c t m request s).requests = List.replicate s.calls request ∧
      (settle e c t m request s).trace.request = t.request ∧
      (settle e c t m request s).trace.inputs = t.inputs ∧
      (settle e c t m request s).masker = m := by
  unfold settle
  dsimp only
  split
  · exact ⟨requests_eq_replicate rfl, rfl, rfl, rfl⟩
  · exact ⟨requests_eq_replicate rfl, rfl, rfl, rfl⟩
  · split
    · exact ⟨requests_eq_replicate rfl, rfl, rfl, rfl⟩
    · exact ⟨requests_eq_replicate rfl, rfl, rfl, rfl⟩

/-- A run that comes to a signature is what the sending of its request makes of it. -/
theorem runOn_eq_settle {b : Built} {d : Draft} (hb : built g p e call = .ok b)
    (hs : signed g p e call b = .ok d) :
    runOn g p e id now script cancel call =
      settle e (contextFor g p e call)
        { (begin p e id now call).built e b (draftOf p e b) with
          stage := .sending, request := sentRequest e b d }
        (maskerOf g.options p
          (Credentials.resolve g.secrets g.vars p.environment.credentials))
        (outbound e d) (send script e.retry e.timeout cancel) := by
  unfold built at hb
  unfold signed at hs
  unfold runOn
  simp only [hb, hs]
  rfl

/-- A run that comes to a signature sends its request, and the trace has what was built. -/
theorem runOn_of_signed {b : Built} {d : Draft} (hb : built g p e call = .ok b)
    (hs : signed g p e call b = .ok d) :
    (runOn g p e id now script cancel call).requests =
        List.replicate (send script e.retry e.timeout cancel).calls (outbound e d) ∧
      (runOn g p e id now script cancel call).trace.inputs =
        { (begin p e id now call).inputs with
          payload := b.payload, path := some b.path, headers := some b.headers } := by
  rw [runOn_eq_settle hb hs]
  obtain ⟨hrequests, _, hinputs, _⟩ := settle_keeps (contextFor g p e call) _ _ _ _
  exact ⟨hrequests, hinputs⟩

/-- Nothing but a built and signed request is sent. -/
theorem prepared_of_mem_requests {out : OutboundRequest}
    (h : out ∈ (runOn g p e id now script cancel call).requests) :
    ∃ b d, built g p e call = .ok b ∧ signed g p e call b = .ok d ∧ out = outbound e d :=
  counted_runOn.prepared out h

/-! ## Two requests for one payload -/

/-- The parts of a record that are kept are the parts of its trace. -/
theorem inputs_of_record {i : ReplayInputs} (h : r.record.inputs = i) :
    (∀ v ∈ i.payload, r.trace.inputs.payload = some v) ∧
      (∀ v ∈ i.path, r.trace.inputs.path = some v) ∧
      ∀ v ∈ i.headers, r.trace.inputs.headers = some v := by
  rw [← h]
  refine ⟨fun v hv => ?_, fun v hv => ?_, fun v hv => ?_⟩
  · exact (Option.mem_filter_iff.1 hv).1
  · exact (Option.mem_filter_iff.1 hv).1
  · exact (Option.mem_filter_iff.1 hv).1

/-- A dispatch of a model builds payload, headers and path by the rules of its endpoint. -/
theorem parts_of_built {model : Json} {b : Built} (hmodel : call.basis = .model model)
    (hb : built g p e call = .ok b) :
    e.mapping.payload (contextFor g p e call) = .ok b.payload ∧
      e.mapping.requestHeaders (contextFor g p e call) = .ok b.headers ∧
      e.path.render (contextFor g p e call) = .ok b.path := by
  change build e (contextFor g p e call) call.basis = .ok b at hb
  rw [hmodel] at hb
  obtain ⟨payload, hpayload, hb⟩ := bind_eq_ok_iff.1 hb
  obtain ⟨headers, hheaders, hb⟩ := bind_eq_ok_iff.1 hb
  obtain ⟨path, hpath, hb⟩ := bind_eq_ok_iff.1 hb
  cases hb
  exact ⟨hpayload, hheaders, hpath⟩

/-- A replay builds its request from the parts of a record, and renders a path that is missing. -/
theorem built_of_payload {payload : Json} {path : Option String} {headers : Headers}
    {again : Call} (hbasis : again.basis = .payload payload path headers) {b : Built} :
    built g p e again = .ok b ↔
      b.payload = some payload ∧ b.headers = headers ∧ (∀ q ∈ path, b.path = q) ∧
        (path = none → e.path.render (blindContext g p e) = .ok b.path) := by
  have hbuild : built g p e again =
      build e (blindContext g p e) (.payload payload path headers) := by
    unfold built
    rw [hbasis]
    rfl
  rw [hbuild]
  obtain ⟨bp, bq, bh⟩ := b
  cases path with
  | some path =>
      show Except.ok _ = Except.ok _ ↔ _
      simp [eq_comm, and_comm]
  | none =>
      unfold build
      dsimp only
      cases e.path.render (blindContext g p e) with
      | error error =>
          constructor
          · intro h; cases h
          · rintro ⟨-, -, -, h⟩; cases h rfl
      | ok q =>
          show Except.ok _ = Except.ok _ ↔ _
          simp [eq_comm, and_comm]

theorem Resembles.eq {q out : OutboundRequest} (h : Resembles g p e call r q out)
    (hpath : KeepsPath g p e r) (hheaders : KeepsHeaders p r)
    (hsignature : KeepsSignature g p e call) : q = out := by
  obtain ⟨method, url, query, headers, body, timeout⟩ := q
  obtain ⟨method', url', query', headers', body', timeout'⟩ := out
  have hmethod : method = method' := h.method
  have hquery : query = query' := h.query
  have htimeout : timeout = timeout' := h.timeout
  have hurl : url = url' := h.url hpath
  have hbody : body = body' := h.body hsignature
  have hheaders : headers = headers' := (h.headers hsignature).2 hheaders
  rw [hmethod, hquery, htimeout, hurl, hbody, hheaders]

/-- The trace of a run holds what was built. -/
structure Traces (r : Run) (b : Built) : Prop where
  payload : r.trace.inputs.payload = b.payload
  path : r.trace.inputs.path = some b.path
  headers : r.trace.inputs.headers = some b.headers

/-- What is built again from the inputs of a record. -/
structure Rebuilds (g : Gateway) (p : Provider) (e : Endpoint) (r : Run) (b : Built) : Prop where
  payload : b.payload = r.record.inputs.payload
  headers : b.headers = r.record.inputs.headers.getD []
  path : ∀ q ∈ r.record.inputs.path, b.path = q
  rendered : r.record.inputs.path = none → e.path.render (blindContext g p e) = .ok b.path

section

variable {b b' : Built} {d d' : Draft} {again : Call}

theorem Rebuilds.payload_eq (h' : Rebuilds g p e r b') (h : Traces r b)
    (hkept : r.record.inputs.payload ≠ none) : b'.payload = b.payload := by
  obtain ⟨payload, hpayload⟩ := Option.ne_none_iff_exists'.1 hkept
  rw [h'.payload, hpayload, ← h.payload, (inputs_of_record rfl).1 payload hpayload]

theorem Rebuilds.path_eq (h' : Rebuilds g p e r b') (h : Traces r b) (hpath : KeepsPath g p e r) :
    b'.path = b.path := by
  cases hkept : r.record.inputs.path with
  | some q =>
      have hq : r.trace.inputs.path = some q := (inputs_of_record rfl).2.1 q hkept
      rw [h'.path q hkept, Option.some.inj (h.path.symm.trans hq)]
  | none =>
      rcases hpath with hpath | hpath
      · exact absurd hkept hpath
      · exact Except.ok.inj ((h'.rendered hkept).symm.trans (hpath b.path h.path))

/-- Where the same thing is added, the headers come out the same just if they were kept or are set
by the strategy. -/
theorem Rebuilds.headers_eq_iff (h' : Rebuilds g p e r b') (h : Traces r b) {s : Seal}
    (hs : s.header? = p.auth.header?) :
    (((draftOf p e b').place s).headers = ((draftOf p e b).place s).headers) ↔
      KeepsHeaders p r := by
  cases hkept : r.record.inputs.headers with
  | some headers =>
      have hb : r.trace.inputs.headers = some headers := (inputs_of_record rfl).2.2 headers hkept
      rw [h.headers] at hb
      have heq : b'.headers = b.headers := by
        rw [h'.headers, hkept]
        cases hb
        rfl
      refine ⟨fun _ => Or.inl ?_, fun _ => ?_⟩
      · rw [hkept]
        exact Option.some_ne_none headers
      · cases s with
        | header name value =>
            show b'.headers.filter _ ++ _ = b.headers.filter _ ++ _
            rw [heq]
        | nothing => exact heq
        | body value => exact heq
  | none =>
      have hnone : (draftOf p e b').headers = [] := by
        show b'.headers = []
        rw [h'.headers, hkept]
        rfl
      rw [place_headers_eq_iff hnone, hs]
      constructor
      · intro hall
        refine Or.inr fun headers hheaders => ?_
        rw [h.headers] at hheaders
        cases hheaders
        exact hall
      · intro hall
        rcases hall with hall | hall
        · exact absurd hkept hall
        · exact hall b.headers h.headers

/-- Drafts with one payload are signed alike where the formula does not read the model. -/
theorem strategySeal_eq (hpayload : b'.payload = b.payload)
    (hblind : contextFor g p e again = blindContext g p e)
    (hsignature : KeepsSignature g p e call) (credentials : Credentials) :
    strategySeal p.auth (draftOf p e b').body credentials e.mapping.signatureFormula
        (contextFor g p e again) =
      strategySeal p.auth (draftOf p e b).body credentials e.mapping.signatureFormula
        (contextFor g p e call) := by
  have hbody : (draftOf p e b').body = (draftOf p e b).body := by
    unfold draftOf
    rw [hpayload]
  rw [hbody, hblind]
  exact (strategySeal_congr hsignature).symm

/-- A request that is built again differs from the first one only in its path, its headers and its
signature. -/
theorem resembles_of_rebuilds (h : Traces r b) (hs : signed g p e call b = .ok d)
    (h' : Rebuilds g p e r b') (hs' : signed g p e again b' = .ok d')
    (hblind : contextFor g p e again = blindContext g p e)
    (hkept : r.record.inputs.payload ≠ none) :
    Resembles g p e call r (outbound e d') (outbound e d) := by
  have hpayload := h'.payload_eq h hkept
  rw [signed_eq] at hs hs'
  obtain ⟨s, hseal, rfl⟩ := exists_of_map_eq_ok hs
  obtain ⟨s', hseal', rfl⟩ := exists_of_map_eq_ok hs'
  have hsame : KeepsSignature g p e call → s' = s := by
    intro hsignature
    rw [strategySeal_eq hpayload hblind hsignature, hseal] at hseal'
    cases hseal'
    rfl
  refine ⟨?_, ?_, rfl, fun hpath => ?_, fun hsignature => ?_, fun hsignature => ?_⟩
  · show ((draftOf p e b').place s').method = ((draftOf p e b).place s).method
    rw [place_method, place_method]
    rfl
  · show ((draftOf p e b').place s').query = ((draftOf p e b).place s).query
    rw [place_query, place_query]
    show (if e.sendsQuery then _ else _) = (if e.sendsQuery then _ else _)
    rw [hpayload]
  · show ((draftOf p e b').place s').url = ((draftOf p e b).place s).url
    rw [place_url, place_url]
    show Path.joinUrl _ b'.path = Path.joinUrl _ b.path
    rw [h'.path_eq h hpath]
  · show ((draftOf p e b').place s').body = ((draftOf p e b).place s).body
    rw [hsame hsignature]
    refine place_body_congr ?_ s
    show (if e.sendsQuery then _ else _) = (if e.sendsQuery then _ else _)
    rw [hpayload]
  · show ((draftOf p e b').place s').headers = ((draftOf p e b).place s).headers ↔ _
    rw [hsame hsignature]
    exact h'.headers_eq_iff h (strategySeal_eq_ok_iff.1 hseal).header?

end

/-! ## Replays -/

theorem contextFor_of_payload {payload : Json} {path : Option String} {headers : Headers}
    {again : Call} (hbasis : again.basis = .payload payload path headers) :
    contextFor g p e again = blindContext g p e := by
  unfold contextFor
  rw [hbasis]
  rfl

theorem rebuilds_of_built {payload : Json} {again : Call} {b : Built}
    (hpayload : r.record.inputs.payload = some payload)
    (hbasis : again.basis =
      .payload payload r.record.inputs.path (r.record.inputs.headers.getD []))
    (hb : built g p e again = .ok b) : Rebuilds g p e r b := by
  obtain ⟨hp, hh, hpath, hrendered⟩ := (built_of_payload hbasis).1 hb
  exact ⟨hp.trans hpayload.symm, hh, hpath, hrendered⟩

/-- With a path, or one that can be rendered, a request can be built again. -/
theorem exists_built {payload : Json} {path : Option String} {headers : Headers} {again : Call}
    (hbasis : again.basis = .payload payload path headers)
    (hpath : path ≠ none ∨ ∃ q, e.path.render (blindContext g p e) = .ok q) :
    ∃ b, built g p e again = .ok b := by
  cases path with
  | some q => exact ⟨⟨some payload, q, headers⟩, (built_of_payload hbasis).2 (by simp)⟩
  | none =>
      rcases hpath with hpath | ⟨q, hq⟩
      · exact absurd rfl hpath
      · exact ⟨⟨some payload, q, headers⟩, (built_of_payload hbasis).2 (by simp [hq])⟩

/-- What could be signed once can be signed again. -/
theorem exists_signed {b b' : Built} {d : Draft} {again : Call} (hs : signed g p e call b = .ok d)
    (hpayload : b'.payload = b.payload) (hblind : contextFor g p e again = blindContext g p e)
    (hsignature : KeepsSignature g p e call) : ∃ d', signed g p e again b' = .ok d' := by
  rw [signed_eq] at hs ⊢
  obtain ⟨s, hseal, rfl⟩ := exists_of_map_eq_ok hs
  rw [strategySeal_eq hpayload hblind hsignature, hseal]
  exact ⟨_, rfl⟩

theorem traces_runOn {b : Built} {d : Draft} (hb : built g p e call = .ok b)
    (hs : signed g p e call b = .ok d) :
    Traces (runOn g p e id now script cancel call) b := by
  have hinputs : (runOn g p e id now script cancel call).trace.inputs = _ :=
    (runOn_of_signed hb hs).2
  constructor <;> rw [hinputs]

/-- What a replay calls, if its record kept inputs and its endpoint may be used. -/
theorem replayCall_eq_ok {catalog : Catalog} {store : Audit.Store} {earlier : Record}
    {basis : Basis} (hfound : store.find id = .ok earlier)
    (huse : catalog.dispatchable earlier.provider earlier.endpoint = .ok (p, e))
    (hbasis : basis? earlier.inputs = some basis) :
    replayCall catalog store id =
      .ok ⟨earlier.provider, earlier.endpoint, basis, earlier.subject, some id⟩ := by
  unfold replayCall
  have hmapped : (store.find id).mapError (ReplayError.ofFindError id) = .ok earlier := by
    rw [hfound]
    rfl
  simp only [hmapped, bind, Except.bind, huse, hbasis]

/-- A record with a payload and no model is dispatched again from the parts that it has. -/
theorem replayCall_of_payload {catalog : Catalog} {store : Audit.Store} {earlier : Record}
    {payload : Json} (hfound : store.find id = .ok earlier)
    (huse : catalog.dispatchable earlier.provider earlier.endpoint = .ok (p, e))
    (hmodel : earlier.inputs.model = none) (hpayload : earlier.inputs.payload = some payload) :
    ∃ again : Call, replayCall catalog store id = .ok again ∧
      again.provider = earlier.provider ∧ again.endpoint = earlier.endpoint ∧
      again.basis = .payload payload earlier.inputs.path (earlier.inputs.headers.getD []) := by
  have hbasis : basis? earlier.inputs =
      some (.payload payload earlier.inputs.path (earlier.inputs.headers.getD [])) := by
    unfold basis?
    rw [hmodel, hpayload]
  exact ⟨_, replayCall_eq_ok hfound huse hbasis, rfl, rfl, rfl⟩

theorem requests_replay {checked : Catalog} {store : Audit.Store} {earlier : RecordId}
    {again : Call} (hcall : replayCall checked store earlier = .ok again)
    (huse : g.catalog.dispatchable again.provider again.endpoint = .ok (p, e)) :
    (replay checked g store earlier id now script cancel).requests =
      (runOn g p e id now script cancel again).requests := by
  have hdispatch : dispatch g store id now script cancel again = _ := dispatch_of_usable huse
  unfold replay
  rw [hcall]
  show (replayWith g store earlier id now script cancel again).requests = _
  unfold replayWith
  dsimp only
  split <;> rw [hdispatch]

end

/-- The replay of a record without a model sends requests with the method, the query and the time
limit of the first one. The address, the body and the headers are the same under the conditions of
`Resembles`, and where all of them hold the first request is sent again, once for each call. -/
theorem replay_resends {document : CatalogDocument} {g : Gateway} {p : Provider} {e : Endpoint}
    {id : RecordId} {now : Time.Instant} {script : Script} {cancel : Option Nat} {call : Call}
    {out : OutboundRequest} {store : Audit.Store} {replays : List RecordId}
    (hcompile : document.compile = .ok g.catalog)
    (huse : g.catalog.Usable call.provider call.endpoint p e)
    (hsent : out ∈ (runOn g p e id now script cancel call).requests)
    (hmodel : (runOn g p e id now script cancel call).record.inputs.model = none)
    (hpayload : (runOn g p e id now script cancel call).record.inputs.payload ≠ none)
    (hfound : store.find id =
      .ok { (runOn g p e id now script cancel call).record with replays := replays })
    (options : Options) (id' : RecordId) (now' : Time.Instant) (script' : Script)
    (cancel' : Option Nat) :
    let r := runOn g p e id now script cancel call
    let calls := (send script' e.retry e.timeout cancel').calls
    let requests :=
      (replay g.catalog { g with options := options } store id id' now' script' cancel').requests
    (KeepsPath g p e r → KeepsHeaders p r → KeepsSignature g p e call →
      requests = List.replicate calls out) ∧
    (KeepsPath g p e r → KeepsSignature g p e call → requests.length = calls) ∧
    (∀ q ∈ requests, Resembles g p e call r q out) ∧
    (cancel' ≠ some 0 → 0 < calls) := by
  intro r calls requests
  obtain ⟨payload, hpayload'⟩ := Option.ne_none_iff_exists'.1 hpayload
  obtain ⟨b, d, hb, hs, rfl⟩ := prepared_of_mem_requests hsent
  have htraces : Traces r b := traces_runOn hb hs
  have hidentified : Identified p e id now call r.record := identified_runOn
  -- The record names the endpoint as the call does, so that the replay finds it again.
  have huse' : g.catalog.dispatchable r.record.provider r.record.endpoint = .ok (p, e) := by
    rw [hidentified.provider, hidentified.endpoint, Catalog.slug_of_provider hcompile huse.provider,
      Catalog.slug_of_endpoint hcompile huse.provider huse.endpoint]
    exact Catalog.dispatchable_eq_ok_iff.2 huse
  obtain ⟨again, hcall, hprovider, hendpoint, hbasis⟩ :=
    replayCall_of_payload hfound huse' hmodel hpayload'
  have hrequests : requests =
      (runOn { g with options := options } p e id' now' script' cancel' again).requests := by
    refine requests_replay hcall ?_
    rw [hprovider, hendpoint]
    exact huse'
  have hblind : contextFor g p e again = blindContext g p e := contextFor_of_payload hbasis
  have hrebuilds : ∀ b', built g p e again = .ok b' → Rebuilds g p e r b' :=
    fun b' hb' => rebuilds_of_built hpayload' hbasis hb'
  have hresembles : ∀ q ∈ requests, Resembles g p e call r q (outbound e d) := by
    intro q hq
    rw [hrequests] at hq
    obtain ⟨b', d', hb', hs', rfl⟩ := prepared_of_mem_requests hq
    exact resembles_of_rebuilds htraces hs (hrebuilds b' hb') hs' hblind hpayload
  have hlength : KeepsPath g p e r → KeepsSignature g p e call → requests.length = calls := by
    intro hpath hsignature
    obtain ⟨b', hb'⟩ :=
      exists_built hbasis (hpath.imp_right fun h => ⟨b.path, h b.path htraces.path⟩)
    obtain ⟨d', hs'⟩ := exists_signed hs ((hrebuilds b' hb').payload_eq htraces hpayload) hblind
      hsignature
    rw [hrequests, (runOn_of_signed (g := { g with options := options }) hb' hs').1,
      List.length_replicate]
  refine ⟨fun hpath hheaders hsignature => ?_, hlength, hresembles, calls_send_pos⟩
  rw [List.eq_replicate_iff]
  exact ⟨hlength hpath hsignature,
    fun q hq => (hresembles q hq).eq hpath hheaders hsignature⟩

/-! ## An order and its replay -/

/-- A shop with one endpoint, which takes the amount of an order. -/
def shop (auth : Catalog.AuthStrategy) (path : String) (headers : List Catalog.HeaderRule)
    (formula : Option String) : CatalogDocument where
  providers := [{
    slug := "shop"
    auth := auth
    environments := [("live", { baseUrl := "http://[::1]", credentials := [("key", "key")] })]
    activeEnvironment := "live"
    endpoints := [{
      slug := "order"
      path := path
      mapping := {
        fields := [⟨"amount", "model.amount", false⟩]
        headers := headers
        signatureFormula := formula } }] }]

/-- The gateway of a catalog, with the secret of the shop. -/
def shopGateway (catalog : Catalog) : Gateway where
  catalog := catalog
  secrets := .ofValues [("key", "k-17")] ""

/-- An order whose model is not kept, for it has a password. -/
def orderCall : Call where
  provider := "shop"
  endpoint := "order"
  basis := .model
    (.obj [("amount", .int 3), ("id", .str "k-17"), ("password", .str "x")])

/-- The request for an order. -/
def orderRequest (url : String) (headers : Headers) : OutboundRequest :=
  ⟨"POST", url, [], headers, some (.obj [("amount", .int 3)]), 30000⟩

/-- A vendor that accepts everything at once. -/
def accepting : Script := fun _ => ⟨0, .ok ⟨200, [], ""⟩⟩

/-- The shop with a header that is kept. -/
def clientShop : CatalogDocument :=
  shop (.bearerToken "key") "/orders" [{ name := "X-Client", value := some "web" }] none

/-- The catalog of the shop with a header that is kept. -/
def clientCatalog : Catalog := clientShop.compile.toOption.get (by decide +kernel)

/-- The endpoint for orders. -/
def orderEndpoint : Provider × Endpoint :=
  (clientCatalog.dispatchable "shop" "order").toOption.get (by decide +kernel)

/-- The identifier of a dispatch. -/
def firstId : RecordId := .ofMoment 0 1

/-- The identifier of its replay. -/
def secondId : RecordId := .ofMoment 0 2

/-- The dispatch of an order. -/
def orderRun : Run :=
  runOn (shopGateway clientCatalog) orderEndpoint.1 orderEndpoint.2 firstId ⟨0, 0⟩ accepting
    none orderCall

theorem find_of_append_empty (r : Record) :
    (Audit.Store.memory (({} : Audit.Memory).append r).1).find r.id = .ok r := by
  simp [Audit.Store.find, Audit.Memory.append, Audit.Memory.find, Audit.Memory.partitionOf,
    Audit.Memory.add, bind, Except.bind]

theorem replay_resends_order :
    let g := shopGateway clientCatalog
    let store := Audit.Store.memory (({} : Audit.Memory).append orderRun.record).1
    let out := orderRequest "http://[::1]/orders"
      [("X-Client", "web"), ("Authorization", "Bearer k-17")]
    clientShop.compile = .ok g.catalog ∧
      g.catalog.Usable "shop" "order" orderEndpoint.1 orderEndpoint.2 ∧
      orderRun.requests = [out] ∧
      orderRun.record.inputs.model = none ∧ orderRun.record.inputs.payload ≠ none ∧
      store.find firstId = .ok orderRun.record ∧
      (replay g.catalog g store firstId secondId ⟨0, 0⟩ accepting none).requests = [out] := by
  intro g store out
  have hcompile : clientShop.compile = .ok g.catalog := eq_ok_get _
  have huse : g.catalog.Usable "shop" "order" orderEndpoint.1 orderEndpoint.2 :=
    Catalog.dispatchable_eq_ok_iff.1 (eq_ok_get _)
  have hrequests : orderRun.requests = [out] := by decide +kernel
  have hmodel : orderRun.record.inputs.model = none := by decide +kernel
  have hpayload : orderRun.record.inputs.payload ≠ none := by decide +kernel
  have hfound : store.find firstId = .ok orderRun.record := by
    have hid : orderRun.record.id = firstId :=
      (identified_runOn (g := shopGateway clientCatalog)).id
    rw [← hid]
    exact find_of_append_empty orderRun.record
  have hsent : out ∈ orderRun.requests := by
    rw [hrequests]
    exact List.mem_singleton_self out
  have hfound' : store.find firstId =
      .ok { orderRun.record with replays := orderRun.record.replays } := hfound
  have hresends := (replay_resends hcompile huse hsent hmodel hpayload hfound' {} secondId ⟨0, 0⟩
    accepting none).1
  refine ⟨hcompile, huse, hrequests, hmodel, hpayload, hfound, ?_⟩
  have hcalls : (send accepting orderEndpoint.2.retry orderEndpoint.2.timeout none).calls = 1 := by
    decide +kernel
  have hsignature : KeepsSignature g orderEndpoint.1 orderEndpoint.2 orderCall := by
    intro target htarget
    have hauth : orderEndpoint.1.auth = .bearerToken "key" := by decide +kernel
    rw [hauth] at htarget
    cases htarget
  have hpath : orderRun.record.inputs.path ≠ none := by decide +kernel
  have hheaders : orderRun.record.inputs.headers ≠ none := by decide +kernel
  have hsame := hresends (Or.inl hpath) (Or.inl hheaders) hsignature
  rw [hcalls] at hsame
  exact hsame

/-- The requests of an order and of the replay of its record, if the record has the payload but not
the model. -/
def orderedTwice (document : CatalogDocument) :
    Option (List OutboundRequest × List OutboundRequest) := do
  let catalog ← document.compile.toOption
  let g := shopGateway catalog
  let first := dispatch g (.memory {}) firstId ⟨0, 0⟩ accepting none orderCall
  let record ← (first.store.find firstId).toOption
  guard (record.inputs.model.isNone && record.inputs.payload.isSome)
  let again := replay catalog g first.store firstId secondId ⟨0, 0⟩ accepting none
  return (first.requests, again.requests)

/-- A header that is masked is lost, a path with a secret in it cannot be rendered again, and a
formula over the model gives another signature. -/
theorem replay_differs_order :
    orderedTwice
        (shop .anonymous "/orders" [{ name := "Cookie", value := some "session=1" }] none) =
      some ([orderRequest "http://[::1]/orders" [("Cookie", "session=1")]],
        [orderRequest "http://[::1]/orders" []]) ∧
    orderedTwice (shop (.bearerToken "key") "/orders/\x7bid\x7d" [] none) =
      some ([orderRequest "http://[::1]/orders/k-17" [("Authorization", "Bearer k-17")]], []) ∧
    orderedTwice
        (shop (.formula (.header "X-Signature")) "/orders" [] (some "model.id ?? 'none'")) =
      some ([orderRequest "http://[::1]/orders" [("X-Signature", "k-17")]],
        [orderRequest "http://[::1]/orders" [("X-Signature", "none")]]) := by
  decide +kernel

end ApiGateway.Dispatch
