import ApiGateway.Proofs.Catalog.Reading
import ApiGateway.Proofs.Dispatch.Replaying
import ApiGateway.Proofs.Dispatch.Sending

/-! # Why dispatches fail

A dispatch works on texts that were read when its catalog was compiled, but for one: the place of a
signature in the body is read each time a request is signed. `Cause` lists what can go wrong with
the values of a dispatch, and every failure of a dispatch or of a replay has such a cause, or the
place of its signature cannot be read (`failures_explained`). Validation lets such a place through
(`unreadable_bodyPath`).
-/

set_option autoImplicit false

namespace ApiGateway

open Catalog (Provider Endpoint AuthStrategy)

namespace Catalog

/-! ## Signatures -/

/-- Why a strategy cannot sign a request with this body, and the error for it: a credential has no
value, or something is wrong with the value of the formula. -/
inductive AuthStrategy.Fault (credentials : Credentials) (formula : Option Expression)
    (c : Expression.Context) (body : Option Json) : AuthStrategy → AuthError → Prop where
  | credential {strategy : AuthStrategy} {name reason : String}
      (needed : name ∈ strategy.credentialNames) (missing : credentials.values.lookup name = none) :
      Fault credentials formula c body strategy (.secretMissing name reason)
  | expression {target : SignatureTarget} {f : Expression} {cause : Expression.RuntimeError}
      (given : formula = some f) (value : f.eval c = .error cause) :
      Fault credentials formula c body (.formula target)
        (.formula ("'" ++ f.source ++ "' failed: " ++ cause.message))
  | null {target : SignatureTarget} {f : Expression} (given : formula = some f)
      (value : f.eval c = .ok .null) :
      Fault credentials formula c body (.formula target)
        (.formula ("'" ++ f.source ++ "' evaluated to null"))
  | conflict {path : String} {t : Path.Target} {v : Json} (parsed : Path.Target.parse path = .ok t)
      (value : formulaValue formula c = .ok v)
      (blocked : (t.write (body.getD (.obj [])) v).2 = false) :
      Fault credentials formula c body (.formula (.body path))
        (.formula (ResolveError.mapping t.source ResolveError.pathConflict).message)

/-- The place of a signature in the body cannot be read, as the message says. -/
def AuthStrategy.Unreadable (strategy : AuthStrategy) (message : String) : Prop :=
  ∃ path, strategy = .formula (.body path) ∧ Path.Target.parse path = .error message

variable {credentials : Credentials} {formula : Option Expression} {c : Expression.Context}
  {body : Option Json}

theorem exists_of_get_error {name : String} {error : AuthError}
    (h : credentials.get name = .error error) :
    credentials.values.lookup name = none ∧ ∃ reason, error = .secretMissing name reason := by
  unfold Credentials.get at h
  split at h
  · cases h
  · rename_i hnone
    exact ⟨hnone, _, (Except.error.inj h).symm⟩

theorem fault_of_credential {strategy : AuthStrategy} {name : String} {error : AuthError}
    (hneeded : name ∈ strategy.credentialNames) (h : credentials.get name = .error error) :
    strategy.Fault credentials formula c body error := by
  obtain ⟨hmissing, reason, rfl⟩ := exists_of_get_error h
  exact .credential hneeded hmissing

theorem fault_of_formulaValue {target : SignatureTarget} {error : AuthError}
    (hformula : formula ≠ none) (h : formulaValue formula c = .error error) :
    (AuthStrategy.formula target).Fault credentials formula c body error := by
  unfold formulaValue at h
  split at h
  · exact absurd rfl hformula
  · split at h
    · rename_i cause hcause
      cases h
      exact .expression rfl hcause
    · rename_i hnull
      cases h
      exact .null rfl hnull
    · cases h

theorem strategySeal_formula {target : SignatureTarget} {v : Json}
    (hvalue : formulaValue formula c = .ok v) :
    strategySeal (.formula target) body credentials formula c = signatureSeal target body v := by
  rw [strategySeal, hvalue]
  rfl

/-- A strategy that has its formula fails to sign for a fault, or its place in the body cannot be
read. -/
theorem fault_or_unreadable {strategy : AuthStrategy} {error : AuthError}
    (hformula : ∀ target, strategy = .formula target → formula ≠ none)
    (h : strategySeal strategy body credentials formula c = .error error) :
    strategy.Fault credentials formula c body error ∨
      ∃ message v, strategy.Unreadable message ∧ formulaValue formula c = .ok v ∧
        error = .formula message := by
  cases strategy with
  | anonymous => cases h
  | bearerToken token =>
      cases hget : credentials.get token with
      | error e =>
          simp only [strategySeal, hget] at h
          cases h
          exact .inl (fault_of_credential List.mem_cons_self hget)
      | ok value =>
          simp only [strategySeal, hget] at h
          cases h
  | basic username password =>
      cases hname : credentials.get username with
      | error e =>
          simp only [strategySeal, hname] at h
          cases h
          exact .inl (fault_of_credential List.mem_cons_self hname)
      | ok name =>
          cases hget : credentials.get password with
          | error e =>
              simp only [strategySeal, hname, hget] at h
              cases h
              exact .inl (fault_of_credential (List.mem_cons_of_mem _ List.mem_cons_self) hget)
          | ok value =>
              simp only [strategySeal, hname, hget] at h
              cases h
  | apiKey header key lead | hmac header key encoding lead =>
      cases hget : credentials.get key with
      | error e =>
          simp only [strategySeal, hget] at h
          cases h
          exact .inl (fault_of_credential List.mem_cons_self hget)
      | ok value =>
          simp only [strategySeal, hget] at h
          cases h
  | formula target =>
      cases hvalue : formulaValue formula c with
      | error e =>
          simp only [strategySeal, hvalue] at h
          cases h
          exact .inl (fault_of_formulaValue (hformula target rfl) hvalue)
      | ok v =>
          rw [strategySeal_formula hvalue] at h
          cases target with
          | header name => cases h
          | body path =>
              simp only [signatureSeal] at h
              cases hparse : Path.Target.parse path with
              | error message =>
                  rw [hparse] at h
                  cases h
                  exact .inr ⟨message, v, ⟨path, rfl, hparse⟩, rfl, rfl⟩
              | ok t =>
                  simp only [hparse] at h
                  split at h
                  · cases h
                  · rename_i hblocked
                    cases h
                    exact .inl (.conflict hparse hvalue (Bool.not_eq_true _ ▸ hblocked))

theorem strategySeal_of_unreadable {strategy : AuthStrategy} {message : String} {v : Json}
    (h : strategy.Unreadable message) (hvalue : formulaValue formula c = .ok v) :
    strategySeal strategy body credentials formula c = .error (.formula message) := by
  obtain ⟨path, rfl, hparse⟩ := h
  rw [strategySeal_formula hvalue]
  simp only [signatureSeal, hparse]

/-! ## Strategies of accepted documents -/

/-- Only an endpoint that is not enabled may lack the formula that its strategy asks for. -/
theorem formula_of_checkEndpoint {provider : String} {target : SignatureTarget} {ed : EndpointDocument}
    (h : checkEndpoint provider (.formula target) ed = .ok ()) (henabled : ed.enabled = true) :
    ∃ source ∈ ed.mapping.signatureFormula, Text.isAllBlank source = false := by
  unfold checkEndpoint at h
  dsimp only at h
  obtain ⟨_, _, h⟩ := bind_eq_ok_iff.1 h
  obtain ⟨_, _, h⟩ := bind_eq_ok_iff.1 h
  split at h
  · obtain ⟨_, _, h⟩ := bind_eq_ok_iff.1 h
    obtain ⟨_, _, h⟩ := bind_eq_ok_iff.1 h
    obtain ⟨_, hfilled, _⟩ := bind_eq_ok_iff.1 h
    have hblank := eq_true_of_ensure hfilled
    rw [henabled] at hblank
    cases hsource : ed.mapping.signatureFormula with
    | none =>
        rw [hsource] at hblank
        cases hblank
    | some source => exact ⟨source, rfl, by simpa [hsource] using hblank⟩
  · cases h

theorem enabled_of_compile {provider : String} {ed : EndpointDocument} {e : Endpoint}
    (h : ed.compile provider = .ok e) : e.enabled = ed.enabled := by
  obtain ⟨_, _, h⟩ := bind_eq_ok_iff.1 h
  obtain ⟨_, _, h⟩ := bind_eq_ok_iff.1 h
  cases h
  rfl

/-- A usable endpoint comes from a document that was accepted and read, and it has the formula that
its strategy asks for. -/
theorem read_of_usable {document : CatalogDocument} {catalog : Catalog}
    (h : document.compile = .ok catalog) {provider endpoint : String} {p : Provider} {e : Endpoint}
    (huse : catalog.Usable provider endpoint p e) :
    (∃ location template, PathTemplate.compile location template = .ok e.path) ∧
      ∀ target, p.auth = .formula target → e.mapping.signatureFormula ≠ none := by
  obtain ⟨_, pd, hpd, hcompile⟩ := providers_of_compile h _ (mem_of_lookup_eq_some huse.provider)
  obtain ⟨_, ed, hed, he⟩ := endpoints_of_compile hcompile _ (mem_of_lookup_eq_some huse.endpoint)
  refine ⟨⟨_, _, compile_path_of_compile he⟩, fun target htarget => ?_⟩
  have hchecked := (compile_of_mem_endpoints h hpd hed).1
  have hauth : pd.auth = .formula target := by
    obtain ⟨_, _, _, rfl⟩ := exists_of_compile_provider hcompile
    exact htarget
  rw [hauth] at hchecked
  obtain ⟨source, hsource, hfilled⟩ :=
    formula_of_checkEndpoint hchecked ((enabled_of_compile he).symm.trans huse.enabled)
  obtain ⟨f, _, hf⟩ := (readAs_of_compile he).formula source hsource hfilled
  rw [hf]
  exact Option.some_ne_none f

end Catalog

namespace Dispatch

/-! ## Causes of a failure -/

section

variable (g : Gateway) (p : Provider) (e : Endpoint) (call : Call)

/-- What can go wrong with the values of a dispatch, and the failure for it: with one that its
request is built of, with one that it is signed with, or with what the vendor answers. -/
inductive Cause : Failure → Prop where
  | building {error : ResolveError} (fault : e.BuildFault (contextFor g p e call) error) :
      Cause ⟨buildErrorKind error, .buildingPayload, error.message, some error.field⟩
  | signing {b : Built} {error : AuthError} (built : built g p e call = .ok b)
      (fault : p.auth.Fault (credentialsFor g p) e.mapping.signatureFormula (contextFor g p e call)
        (draftOf p e b).body error) :
      Cause ⟨.auth, .signing, error.message, error.credential?⟩
  | sending {request : OutboundRequest} {kind : ErrorKind} {message : String}
      (prepared : Prepares g p e call request)
      (kind_eq : kind = .transport ∨ kind = .cancelled ∨ kind = .vendor) :
      Cause ⟨kind, .sending, message, none⟩

/-- A dispatch comes to a signature whose place in the body cannot be read, as the message says. -/
def Misreads (message : String) : Prop :=
  p.auth.Unreadable message ∧ (∃ b, built g p e call = .ok b) ∧
    ∃ v, formulaValue e.mapping.signatureFormula (contextFor g p e call) = .ok v

end

/-- The failure for a place that cannot be read. -/
def misreading (message : String) : Failure :=
  ⟨.auth, .signing, (AuthError.formula message).message, none⟩

section

variable {document : CatalogDocument} {g : Gateway} {p : Provider} {e : Endpoint} {id : RecordId}
  {now : Time.Instant} {script : Script} {cancel : Option Nat} {call : Call}

theorem buildFault_of_render {provider template : String} {c : Expression.Context}
    (h : Catalog.PathTemplate.compile provider template = .ok e.path) {error : ResolveError}
    (herror : e.path.render c = .error error) : e.BuildFault c error := by
  obtain ⟨q, hq, hfault⟩ := Catalog.PathTemplate.fault_of_render h herror
  exact .parameter hq hfault

/-- If the path of an endpoint was compiled, only the value of one of its rules or names can keep a
request from being built. -/
theorem buildFault_of_build {location template : String} {c : Expression.Context} {basis : Basis}
    (h : Catalog.PathTemplate.compile location template = .ok e.path) {error : ResolveError}
    (herror : build e c basis = .error error) : e.BuildFault c error := by
  cases basis with
  | model value =>
      simp only [build] at herror
      cases hpayload : e.mapping.payload c with
      | error cause =>
          rw [hpayload] at herror
          cases herror
          obtain ⟨earlier, rule, later, before, hfields, _, hfault, _⟩ :=
            ((Catalog.payload_keeps e.mapping c).2 _).1 hpayload
          exact .field (by rw [hfields]; exact List.mem_append_right _ List.mem_cons_self) hfault
      | ok payload =>
          rw [hpayload] at herror
          cases hheaders : e.mapping.requestHeaders c with
          | error cause =>
              rw [hheaders] at herror
              cases herror
              obtain ⟨rule, hrule, hfault⟩ := Catalog.Mapping.fault_of_fillHeaders hheaders
              exact .header hrule hfault
          | ok headers =>
              rw [hheaders] at herror
              cases hpath : e.path.render c with
              | error cause =>
                  rw [hpath] at herror
                  cases herror
                  exact buildFault_of_render h hpath
              | ok path =>
                  rw [hpath] at herror
                  cases herror
  | payload payload path headers =>
      simp only [build] at herror
      cases path with
      | some path => cases herror
      | none =>
          cases hpath : e.path.render c with
          | error cause =>
              simp only [hpath] at herror
              cases herror
              exact buildFault_of_render h hpath
          | ok path =>
              simp only [hpath] at herror
              cases herror

theorem error_report (r : Run) : r.report.error = r.trace.error.map r.masker.maskFailure := rfl

theorem masker_runOn :
    (runOn g p e id now script cancel call).masker = maskerOf g.options p (credentialsFor g p) := by
  unfold runOn
  dsimp only
  split
  · rfl
  · split
    · rfl
    · exact (settle_keeps (e := e) _ _ _ _ _).2.2.2

theorem signed_of_misreads {message : String} (h : Misreads g p e call message) {b : Built} :
    signed g p e call b = .error (.formula message) := by
  obtain ⟨hunreadable, _, v, hvalue⟩ := h
  rw [signed_eq, Catalog.strategySeal_of_unreadable hunreadable hvalue]
  rfl

/-- A dispatch that comes to a place that cannot be read fails for it. -/
theorem error_of_misreads {message : String} (h : Misreads g p e call message) :
    (runOn g p e id now script cancel call).trace.error = some (misreading message) := by
  obtain ⟨b, hb⟩ := h.2.1
  have hsigned := signed_of_misreads h (b := b)
  unfold built at hb
  unfold signed at hsigned
  unfold runOn
  simp only [hb, hsigned]
  rfl

theorem cause_of_unsigned
    (hformula : ∀ target, p.auth = .formula target → e.mapping.signatureFormula ≠ none) {b : Built}
    (hb : built g p e call = .ok b) {error : AuthError} (hs : signed g p e call b = .error error) :
    let f : Failure := ⟨.auth, .signing, error.message, error.credential?⟩
    Cause g p e call f ∨ ∃ message, Misreads g p e call message ∧ f = misreading message := by
  rw [signed_eq] at hs
  have hseal : strategySeal p.auth (draftOf p e b).body (credentialsFor g p)
      e.mapping.signatureFormula (contextFor g p e call) = .error error := eq_error_of_map_eq_error hs
  rcases Catalog.fault_or_unreadable hformula hseal with
    hfault | ⟨message, v, hunreadable, hvalue, rfl⟩
  · exact .inl (.signing hb hfault)
  · exact .inr ⟨message, ⟨hunreadable, ⟨b, hb⟩, v, hvalue⟩, rfl⟩

/-- A failure has a cause, or the place of the signature cannot be read. -/
theorem cause_or_misreads (hcompile : document.compile = .ok g.catalog)
    (huse : g.catalog.Usable call.provider call.endpoint p e) {f : Failure}
    (hf : (runOn g p e id now script cancel call).trace.error = some f) :
    Cause g p e call f ∨ ∃ message, Misreads g p e call message ∧ f = misreading message := by
  obtain ⟨⟨location, template, hpath⟩, hformula⟩ := Catalog.read_of_usable hcompile huse
  have hending := runOn_ending g p e id now script cancel call
  cases hending with
  | unbuilt hb _ _ _ herror =>
      rw [hf] at herror
      cases herror
      exact .inl (.building (buildFault_of_build hpath hb))
  | unsigned hb hs _ _ _ herror =>
      rw [hf] at herror
      cases herror
      exact cause_of_unsigned hformula hb hs
  | unanswered hprepared _ _ _ _ _ hkind herror =>
      rw [hf] at herror
      cases herror
      exact .inl (.sending hprepared (hkind.imp_right Or.inl))
  | @answered _ answer hprepared _ _ _ _ _ herror =>
      rw [hf] at herror
      split at herror
      · cases herror
      · cases herror
        exact .inl (.sending hprepared (.inr (.inr rfl)))

end

/-- What a report of a call says about its failure: it has a cause in the values of the dispatch, or
it is that the place of the signature cannot be read; and if the dispatch comes to such a place, it
is the latter. -/
def Explained (g : Gateway) (call : Call) (report : Report) : Prop :=
  ∃ p e, g.catalog.Usable call.provider call.endpoint p e ∧
    let m := maskerOf g.options p (credentialsFor g p)
    (∀ f ∈ report.error, ∃ f₀, f = m.maskFailure f₀ ∧
      (Cause g p e call f₀ ∨ ∃ message, Misreads g p e call message ∧ f₀ = misreading message)) ∧
    ∀ message, Misreads g p e call message →
      report.error = some (m.maskFailure (misreading message))

section

variable {document : CatalogDocument} {g : Gateway} {p : Provider} {e : Endpoint}
  {store : Audit.Store} {id : RecordId} {now : Time.Instant} {script : Script}
  {cancel : Option Nat} {call : Call} {report : Report}

theorem explained_runOn (hcompile : document.compile = .ok g.catalog)
    (huse : g.catalog.Usable call.provider call.endpoint p e) :
    Explained g call (runOn g p e id now script cancel call).report := by
  refine ⟨p, e, huse, fun f hf => ?_, fun message h => ?_⟩
  · obtain ⟨f₀, hf₀, rfl⟩ := Option.map_eq_some_iff.1 hf
    exact ⟨f₀, by rw [masker_runOn], cause_or_misreads hcompile huse hf₀⟩
  · rw [error_report, error_of_misreads h, masker_runOn]
    rfl

theorem explained_of_dispatch (hcompile : document.compile = .ok g.catalog)
    (h : (dispatch g store id now script cancel call).result = .ok report) :
    Explained g call report := by
  cases huse : g.catalog.dispatchable call.provider call.endpoint with
  | error reason =>
      rw [dispatch_of_refused huse] at h
      cases h
  | ok found =>
      obtain ⟨p, e⟩ := found
      have hdispatch : dispatch g store id now script cancel call = _ := dispatch_of_usable huse
      rw [hdispatch] at h
      cases happend : (store.append (runOn g p e id now script cancel call).record).2 with
      | error error =>
          dsimp only at h
          rw [happend] at h
          cases h
      | ok _ =>
          dsimp only at h
          rw [happend] at h
          cases h
          exact explained_runOn hcompile (Catalog.dispatchable_eq_ok_iff.1 huse)

end

/-- Every endpoint of an accepted document has been read, with all its target paths, expressions and
names; and whatever a dispatch or a replay on its catalog reports as its failure has a cause in the
values of the dispatch, unless the place of a signature in the body cannot be read. -/
theorem failures_explained {document : CatalogDocument} {g : Gateway}
    (hcompile : document.compile = .ok g.catalog) :
    (∀ pd ∈ document.providers, ∀ ed ∈ pd.endpoints,
      ∃ e, ed.compile pd.slug = .ok e ∧ ed.ReadAs e) ∧
    ∀ (store : Audit.Store) (id : RecordId) (now : Time.Instant) (script : Script)
      (cancel : Option Nat) (report : Report),
      (∀ call, (dispatch g store id now script cancel call).result = .ok report →
        Explained g call report) ∧
      ∀ checked earlier, (replay checked g store earlier id now script cancel).result = .ok report →
        ∃ call, replayCall checked store earlier = .ok call ∧ Explained g call report := by
  refine ⟨fun pd hpd ed hed => ?_, fun store id now script cancel report =>
    ⟨fun call h => explained_of_dispatch hcompile h, fun checked earlier h => ?_⟩⟩
  · obtain ⟨_, e, he⟩ := Catalog.compile_of_mem_endpoints hcompile hpd hed
    exact ⟨e, he, Catalog.readAs_of_compile he⟩
  · unfold replay at h
    cases hcall : replayCall checked store earlier with
    | error error =>
        rw [hcall] at h
        cases h
    | ok call =>
        simp only [hcall, replayWith] at h
        refine ⟨call, rfl, ?_⟩
        cases hresult : (dispatch g store id now script cancel call).result with
        | error error =>
            rw [hresult] at h
            cases h
        | ok reported =>
            simp only [hresult] at h
            have hreported : reported = report := by
              cases hattach : ((dispatch g store id now script cancel call).store.attach earlier
                  reported.recordId).2 with
              | error error =>
                  rw [hattach] at h
                  cases h
              | ok _ =>
                  rw [hattach] at h
                  exact Except.ok.inj h
            exact explained_of_dispatch hcompile (hreported ▸ hresult)

/-! ## A place that is accepted and cannot be read -/

/-- A shop whose signature goes to a place with an empty key. -/
def misreadShop : CatalogDocument :=
  shop (.formula (.body "auth..stamp")) "/orders" [] (some "'signed'")

/-- The catalog of this shop. -/
def misreadCatalog : Catalog := misreadShop.compile.toOption.get (by decide +kernel)

/-- What the dispatch of an order to this shop comes to. -/
def misreadResult : Except GatewayError Report :=
  (dispatch (shopGateway misreadCatalog) (.memory {}) firstId ⟨0, 0⟩ accepting none
    orderCall).result

theorem failures_explained_misread :
    misreadShop.compile = .ok misreadCatalog ∧
      ∃ report, misreadResult = .ok report ∧
        Explained (shopGateway misreadCatalog) orderCall report := by
  have hcompile : misreadShop.compile = .ok (shopGateway misreadCatalog).catalog := eq_ok_get _
  have hresult : misreadResult.toOption.isSome = true := by decide +kernel
  have hreport := eq_ok_get hresult
  exact ⟨hcompile, _, hreport, ((failures_explained hcompile).2 _ _ _ _ _ _).1 orderCall hreport⟩

/-- The document is accepted, and the dispatch of an order fails for the place of its signature. -/
theorem unreadable_bodyPath :
    misreadShop.compile.toOption.isSome = true ∧
      misreadResult.toOption.bind (·.error) =
        some ⟨.auth, .signing, "formula-error: empty segment in 'auth..stamp'", none⟩ := by
  decide +kernel

end Dispatch

end ApiGateway
