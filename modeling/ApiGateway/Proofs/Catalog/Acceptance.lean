import ApiGateway.Proofs.Catalog.Slugs
import ApiGateway.Proofs.Signing

/-! # What validation leaves to dispatches

A dispatch works on compiled endpoints, and validation on the documents that they come from. The
results here carry the checks over: the header rules of an endpoint have different names, even if
case is ignored (`nodup_headers_of_endpoint`), and the headers that a strategy sets have names with
a visible character (`isTokenChar_of_header?`).
-/

set_option autoImplicit false

namespace ApiGateway.Catalog

/-! ## Checks taken apart -/

theorem accepted_of_checkEndpoints {provider : String} {auth : AuthStrategy} {seen : List String}
    {es : List EndpointDocument} (h : checkEndpoints provider auth seen es = .ok ()) :
    ∀ e ∈ es, checkEndpoint provider auth e = .ok () := by
  induction es generalizing seen with
  | nil => exact fun _ he => nomatch he
  | cons e es ih =>
      rw [checkEndpoints, bind_eq_ok_iff] at h
      obtain ⟨_, _, h⟩ := h
      rw [bind_eq_ok_iff] at h
      obtain ⟨_, _, h⟩ := h
      rw [bind_eq_ok_iff] at h
      obtain ⟨_, hchecked, h⟩ := h
      exact List.forall_mem_cons.2 ⟨hchecked, ih h⟩

theorem accepted_of_checkProvider {p : ProviderDocument} (h : checkProvider p = .ok ()) :
    checkAuth p.slug p.auth = .ok () ∧
      ∀ e ∈ p.endpoints, checkEndpoint p.slug p.auth e = .ok () := by
  obtain ⟨_, _, h⟩ := bind_eq_ok_iff.1 h
  split at h
  · cases h
  · obtain ⟨_, _, h⟩ := bind_eq_ok_iff.1 h
    obtain ⟨_, _, h⟩ := bind_eq_ok_iff.1 h
    obtain ⟨_, hauth, h⟩ := bind_eq_ok_iff.1 h
    obtain ⟨_, _, h⟩ := bind_eq_ok_iff.1 h
    exact ⟨hauth, accepted_of_checkEndpoints h⟩

/-- The last check of an endpoint is that of its mapping. -/
theorem checkMapping_of_checkEndpoint {provider : String} {auth : AuthStrategy}
    {e : EndpointDocument} (h : checkEndpoint provider auth e = .ok ()) :
    checkMapping (provider ++ "/" ++ e.slug) e.mapping = .ok () := by
  unfold checkEndpoint at h
  dsimp only at h
  obtain ⟨_, _, h⟩ := bind_eq_ok_iff.1 h
  obtain ⟨_, _, h⟩ := bind_eq_ok_iff.1 h
  split at h
  · obtain ⟨_, _, h⟩ := bind_eq_ok_iff.1 h
    obtain ⟨_, _, h⟩ := bind_eq_ok_iff.1 h
    -- what is asked of the formula differs from strategy to strategy
    split at h
    · obtain ⟨_, _, h⟩ := bind_eq_ok_iff.1 h
      exact h
    · exact h
  · cases h

/-- Header rules that are accepted have names that differ from those before, in lower case. -/
theorem nodup_of_checkHeaders {location : String} {seen : List String} {rules : List HeaderRule}
    (h : checkHeaders location seen rules = .ok ()) :
    (rules.map fun rule => Text.asciiLower rule.name).Nodup ∧
      ∀ rule ∈ rules, Text.asciiLower rule.name ∉ seen := by
  induction rules generalizing seen with
  | nil => exact ⟨List.nodup_nil, fun _ hrule => nomatch hrule⟩
  | cons rule rules ih =>
      rw [checkHeaders, bind_eq_ok_iff] at h
      obtain ⟨_, _, h⟩ := h
      obtain ⟨_, hnew, h⟩ := bind_eq_ok_iff.1 h
      obtain ⟨_, _, h⟩ := bind_eq_ok_iff.1 h
      obtain ⟨hnodup, hlater⟩ := ih h
      -- the names behind are not among those seen, to which the first now belongs
      have hfresh : Text.asciiLower rule.name ∉ seen := by
        simpa using eq_true_of_ensure hnew
      refine ⟨List.nodup_cons.2 ⟨fun hmem => ?_, hnodup⟩, List.forall_mem_cons.2 ⟨hfresh, ?_⟩⟩
      · obtain ⟨other, hother, heq⟩ := List.mem_map.1 hmem
        exact hlater other hother (heq ▸ List.mem_cons_self)
      · exact fun other hother hmem => hlater other hother (List.mem_cons_of_mem _ hmem)

theorem isTokenChar_of_checkHeaderName {location name : String}
    (h : checkHeaderName location name = .ok ()) :
    name ≠ "" ∧ ∀ c ∈ name.toList, isTokenChar c = true := by
  have hname := eq_true_of_ensure h
  simpa using hname

/-- A strategy that is accepted sets a header with a name of visible characters. -/
theorem isTokenChar_of_header? {provider : String} {strategy : AuthStrategy}
    (h : checkAuth provider strategy = .ok ()) {name : String} (hname : name ∈ strategy.header?) :
    name ≠ "" ∧ ∀ c ∈ name.toList, isTokenChar c = true := by
  cases strategy with
  | anonymous => cases hname
  | apiKey | hmac =>
      cases hname
      exact isTokenChar_of_checkHeaderName h
  | bearerToken | basic =>
      cases hname
      have haccepted : checkHeaderName provider "Authorization" = .ok () := rfl
      exact isTokenChar_of_checkHeaderName haccepted
  | formula target =>
      cases target with
      | header =>
          cases hname
          exact isTokenChar_of_checkHeaderName h
      | body => cases hname

/-! ## Compiled endpoints -/

/-- A compiled endpoint has the compiled mapping of its document. -/
theorem compile_mapping_of_compile {provider : String} {ed : EndpointDocument} {e : Endpoint}
    (h : ed.compile provider = .ok e) :
    ed.mapping.compile (provider ++ "/" ++ ed.slug) = .ok e.mapping := by
  obtain ⟨_, _, h⟩ := bind_eq_ok_iff.1 h
  obtain ⟨mapping, hmapping, h⟩ := bind_eq_ok_iff.1 h
  cases h
  exact hmapping

theorem name_of_compile_header {location : String} {r : HeaderRule} {rule : Header}
    (h : r.compile location = .ok rule) : rule.name = r.name := by
  unfold HeaderRule.compile at h
  dsimp only at h
  split at h
  · cases h
    rfl
  · obtain ⟨_, _, h⟩ := bind_eq_ok_iff.1 h
    cases h
    rfl
  · cases h

/-- Compilation keeps the names of header rules. -/
theorem names_of_compile_mapping {location : String} {document : MappingDocument} {m : Mapping}
    (h : document.compile location = .ok m) :
    m.headers.map (fun rule => Text.asciiLower rule.name) =
      document.headers.map fun rule => Text.asciiLower rule.name := by
  obtain ⟨_, _, h⟩ := bind_eq_ok_iff.1 h
  obtain ⟨headers, hheaders, h⟩ := bind_eq_ok_iff.1 h
  obtain ⟨_, _, h⟩ := bind_eq_ok_iff.1 h
  obtain ⟨_, _, h⟩ := bind_eq_ok_iff.1 h
  cases h
  refine map_eq_of_mapM_ok (fun r rule hrule => ?_) hheaders
  rw [name_of_compile_header hrule]

section

variable {d : CatalogDocument} {c : Catalog} {slug : String} {p : Provider}

/-- Every provider of a document with a compiled catalog was accepted and is compiled. -/
theorem compile_of_mem_providers (h : d.compile = .ok c) {pd : ProviderDocument}
    (hpd : pd ∈ d.providers) : checkProvider pd = .ok () ∧ ∃ p, pd.compile = .ok p := by
  obtain ⟨hvalid, ps, hps, _⟩ := exists_of_compile h
  obtain ⟨p, _, hp⟩ := exists_of_mapM_ok hps hpd
  exact ⟨(accepted_of_checkProviders hvalid pd hpd).2, p, hp⟩

/-- Every endpoint of a document with a compiled catalog was accepted and is compiled. -/
theorem compile_of_mem_endpoints (h : d.compile = .ok c) {pd : ProviderDocument}
    (hpd : pd ∈ d.providers) {ed : EndpointDocument} (hed : ed ∈ pd.endpoints) :
    checkEndpoint pd.slug pd.auth ed = .ok () ∧ ∃ e, ed.compile pd.slug = .ok e := by
  obtain ⟨haccepted, p, hp⟩ := compile_of_mem_providers h hpd
  obtain ⟨_, es, hes, _⟩ := exists_of_compile_provider hp
  obtain ⟨e, _, he⟩ := exists_of_mapM_ok hes hed
  exact ⟨(accepted_of_checkProvider haccepted).2 ed hed, e, he⟩

/-- The document of a provider in a compiled catalog was accepted. -/
theorem exists_accepted_provider (h : d.compile = .ok c) (hp : c.provider? slug = some p) :
    ∃ pd : ProviderDocument, pd.compile = .ok p ∧ checkProvider pd = .ok () := by
  obtain ⟨_, pd, hpd, hcompile⟩ := providers_of_compile h _ (mem_of_lookup_eq_some hp)
  exact ⟨pd, hcompile, (accepted_of_checkProviders (validate_of_compile h) pd hpd).2⟩

/-- The strategy of a provider in a compiled catalog was accepted. -/
theorem checkAuth_of_provider (h : d.compile = .ok c) (hp : c.provider? slug = some p) :
    checkAuth p.slug p.auth = .ok () := by
  obtain ⟨pd, hcompile, haccepted⟩ := exists_accepted_provider h hp
  obtain ⟨_, _, _, rfl⟩ := exists_of_compile_provider hcompile
  exact (accepted_of_checkProvider haccepted).1

/-- The mapping of an endpoint in a compiled catalog comes from one that was accepted. -/
theorem exists_accepted_mapping (h : d.compile = .ok c) (hp : c.provider? slug = some p)
    {endpoint : String} {e : Endpoint} (he : p.endpoint? endpoint = some e) :
    ∃ location, ∃ document : MappingDocument,
      checkMapping location document = .ok () ∧ document.compile location = .ok e.mapping := by
  obtain ⟨pd, hcompile, haccepted⟩ := exists_accepted_provider h hp
  obtain ⟨_, ed, hed, hendpoint⟩ := endpoints_of_compile hcompile _ (mem_of_lookup_eq_some he)
  have hchecked := (accepted_of_checkProvider haccepted).2 ed hed
  exact ⟨_, ed.mapping, checkMapping_of_checkEndpoint hchecked,
    compile_mapping_of_compile hendpoint⟩

/-- No two header rules of an endpoint have one name, even if case is ignored. -/
theorem nodup_headers_of_endpoint (h : d.compile = .ok c) (hp : c.provider? slug = some p)
    {endpoint : String} {e : Endpoint} (he : p.endpoint? endpoint = some e) :
    (e.mapping.headers.map fun rule => Text.asciiLower rule.name).Nodup := by
  obtain ⟨location, document, hchecked, hcompile⟩ := exists_accepted_mapping h hp he
  obtain ⟨_, _, hchecked⟩ := bind_eq_ok_iff.1 hchecked
  obtain ⟨_, hheaders, _⟩ := bind_eq_ok_iff.1 hchecked
  rw [names_of_compile_mapping hcompile]
  exact (nodup_of_checkHeaders hheaders).1

end

end ApiGateway.Catalog
