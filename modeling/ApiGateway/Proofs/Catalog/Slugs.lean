import ApiGateway.Catalog.Compiled
import ApiGateway.Proofs.Failing
import ApiGateway.Proofs.Keyed

/-! # Names in a compiled catalog

A compiled catalog holds each provider under its own slug, and each provider its endpoints. So the
names under which a dispatch finds its endpoint are the names that its record keeps
(`slug_of_provider`, `slug_of_endpoint`). Every such name of a provider is accepted as a slug
(`isSlug_of_provider`), so that its records go to a file of its own name.
-/

set_option autoImplicit false

namespace ApiGateway

namespace Catalog

/-- What a compiled provider is made of. -/
theorem exists_of_compile_provider {d : ProviderDocument} {p : Provider} (h : d.compile = .ok p) :
    ∃ environment es, d.endpoints.mapM (EndpointDocument.compile d.slug) = .ok es ∧
      p = { slug := d.slug
            name := d.name
            active := d.active
            auth := d.auth
            environmentName := d.activeEnvironment
            environment := environment
            sensitiveFields := d.sensitiveFields
            endpoints := Keyed.ofPairs (es.map fun e => (e.slug, e)) } := by
  unfold ProviderDocument.compile at h
  split at h
  · cases h
  · rename_i environment _
    obtain ⟨es, hes, heq⟩ := bind_eq_ok_iff.1 h
    exact ⟨environment, es, hes, (Except.ok.inj heq).symm⟩

/-- In a compiled provider every endpoint stands under its slug and comes from a document. -/
theorem endpoints_of_compile {d : ProviderDocument} {p : Provider} (h : d.compile = .ok p) :
    ∀ q ∈ p.endpoints, q.1 = q.2.slug ∧ ∃ ed ∈ d.endpoints, ed.compile d.slug = .ok q.2 := by
  obtain ⟨_, es, hes, rfl⟩ := exists_of_compile_provider h
  intro q hq
  obtain ⟨e, he, rfl⟩ := List.mem_map.1 (Keyed.mem_ofPairs hq)
  exact ⟨rfl, mem_of_mapM_ok hes he⟩

variable {d : CatalogDocument} {c : Catalog}

/-- What a compiled catalog is made of. -/
theorem exists_of_compile (h : d.compile = .ok c) :
    d.validate = .ok () ∧ ∃ ps, d.providers.mapM ProviderDocument.compile = .ok ps ∧
      c = ⟨Keyed.ofPairs (ps.map fun p => (p.slug, p))⟩ := by
  unfold CatalogDocument.compile at h
  cases hv : d.validate with
  | error e =>
      rw [hv] at h
      cases h
  | ok _ =>
      rw [hv] at h
      obtain ⟨_, _, h⟩ := bind_eq_ok_iff.1 h
      obtain ⟨ps, hps, heq⟩ := bind_eq_ok_iff.1 h
      exact ⟨rfl, ps, hps, (Except.ok.inj heq).symm⟩

theorem validate_of_compile (h : d.compile = .ok c) : d.validate = .ok () :=
  (exists_of_compile h).1

/-- In a compiled catalog every provider stands under its slug and comes from a document. -/
theorem providers_of_compile (h : d.compile = .ok c) :
    ∀ q ∈ c.providers, q.1 = q.2.slug ∧ ∃ pd ∈ d.providers, pd.compile = .ok q.2 := by
  obtain ⟨_, ps, hps, rfl⟩ := exists_of_compile h
  intro q hq
  obtain ⟨p, hp, rfl⟩ := List.mem_map.1 (Keyed.mem_ofPairs hq)
  exact ⟨rfl, mem_of_mapM_ok hps hp⟩

theorem eq_true_of_ensure {condition : Bool} {e : ValidationError}
    (h : ensure condition e = .ok ()) : condition = true := by
  unfold ensure at h
  split at h
  · assumption
  · cases h

/-- All providers of a valid document have slugs and are accepted. -/
theorem accepted_of_checkProviders {ps : List ProviderDocument} {seen : List String}
    (h : checkProviders seen ps = .ok ()) :
    ∀ p ∈ ps, isSlug p.slug = true ∧ checkProvider p = .ok () := by
  induction ps generalizing seen with
  | nil => exact fun _ hp => nomatch hp
  | cons p ps ih =>
      rw [checkProviders, bind_eq_ok_iff] at h
      obtain ⟨_, hslug, h⟩ := h
      rw [bind_eq_ok_iff] at h
      obtain ⟨_, _, h⟩ := h
      rw [bind_eq_ok_iff] at h
      obtain ⟨_, hchecked, h⟩ := h
      exact List.forall_mem_cons.2 ⟨⟨eq_true_of_ensure hslug, hchecked⟩, ih h⟩

theorem slug_of_provider (h : d.compile = .ok c) {slug : String} {p : Provider}
    (hp : c.provider? slug = some p) : p.slug = slug :=
  ((providers_of_compile h _ (mem_of_lookup_eq_some hp)).1).symm

theorem slug_of_endpoint (h : d.compile = .ok c) {provider slug : String} {p : Provider}
    {e : Endpoint} (hp : c.provider? provider = some p) (he : p.endpoint? slug = some e) :
    e.slug = slug := by
  obtain ⟨-, pd, _, hpd⟩ := providers_of_compile h _ (mem_of_lookup_eq_some hp)
  exact (endpoints_of_compile hpd _ (mem_of_lookup_eq_some he)).1.symm

/-- The names of the providers in a compiled catalog are slugs. -/
theorem isSlug_of_provider (h : d.compile = .ok c) {slug : String} {p : Provider}
    (hp : c.provider? slug = some p) : isSlug slug = true := by
  obtain ⟨hslug, pd, hpd, hcompile⟩ := providers_of_compile h _ (mem_of_lookup_eq_some hp)
  obtain ⟨_, _, _, rfl⟩ := exists_of_compile_provider hcompile
  obtain rfl : slug = pd.slug := hslug
  exact (accepted_of_checkProviders (validate_of_compile h) pd hpd).1

end Catalog

end ApiGateway
