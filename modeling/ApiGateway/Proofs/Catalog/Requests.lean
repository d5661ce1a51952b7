import ApiGateway.Proofs.Catalog.Slugs
import ApiGateway.Proofs.Expression.Dependence
import ApiGateway.Proofs.Signing

/-! # Requests do not read responses

Payload, headers, path and signature come from expressions alone, so they are the same in two
contexts in which their expressions have the same values. Outside extraction rules compilation
accepts only expressions without the response, which therefore see nothing of it: the main result
is `eval_eq_of_roots`.
-/

set_option autoImplicit false

namespace ApiGateway.Catalog

open Expression (Context AgreeOn)

/-! ## What a request is made of -/

variable {c d : Context}

theorem parameterValue_congr {e : Expression} (h : e.eval c = e.eval d) (name : String) :
    parameterValue c name e = parameterValue d name e := by
  unfold parameterValue
  rw [h]

theorem PathTemplate.render_congr {path : PathTemplate}
    (h : ∀ q ∈ path.parameters, q.2.eval c = q.2.eval d) : path.render c = path.render d := by
  unfold render
  refine congrArg (· >>= _) (mapM_congr fun q hq => ?_)
  dsimp only
  rw [parameterValue_congr (h q hq)]

theorem sign_congr {strategy : AuthStrategy} {draft : Draft} {credentials : Credentials}
    {formula : Option Expression} (h : ∀ f ∈ formula, f.eval c = f.eval d) :
    sign strategy draft credentials formula c = sign strategy draft credentials formula d := by
  rw [sign_eq, sign_eq, strategySeal_congr fun _ _ f hf => h f hf]

namespace Mapping

theorem fillFields_congr {rules : List Field}
    (h : ∀ rule ∈ rules, rule.expression.eval c = rule.expression.eval d) (payload : Json) :
    fillFields c payload rules = fillFields d payload rules := by
  induction rules generalizing payload with
  | nil => rfl
  | cons rule rules ih =>
      have hrest := ih fun r hr => h r (List.mem_cons_of_mem rule hr)
      rw [fillFields, fillFields, h rule List.mem_cons_self]
      simp only [hrest]

theorem headerValue_congr {source : HeaderSource}
    (h : ∀ e, source = .computed e → e.eval c = e.eval d) (field : String) :
    headerValue c field source = headerValue d field source := by
  cases source with
  | fixed value => rfl
  | computed e => rw [headerValue, headerValue, h e rfl]

theorem fillHeaders_congr {rules : List Header}
    (h : ∀ rule ∈ rules, ∀ e, rule.source = .computed e → e.eval c = e.eval d)
    (headers : Headers) : fillHeaders c headers rules = fillHeaders d headers rules := by
  induction rules generalizing headers with
  | nil => rfl
  | cons rule rules ih =>
      have hrest := ih fun r hr => h r (List.mem_cons_of_mem rule hr)
      rw [fillHeaders, fillHeaders, headerValue_congr (h rule List.mem_cons_self)]
      simp only [hrest]

/-- No expression of a request mentions the response. -/
structure ReadsNoResponse (m : Mapping) : Prop where
  fields : ∀ rule ∈ m.fields, rule.expression.references .response = false
  headers : ∀ rule ∈ m.headers, ∀ e, rule.source = .computed e → e.references .response = false
  formula : ∀ f ∈ m.signatureFormula, f.references .response = false

variable {m : Mapping}

theorem ReadsNoResponse.payload_eq (h : m.ReadsNoResponse) (hagree : AgreeOn (· ≠ .response) c d) :
    m.payload c = m.payload d := by
  unfold payload
  rw [fillFields_congr fun rule hrule =>
    Expression.eval_of_not_references (h.fields rule hrule) hagree]

theorem ReadsNoResponse.requestHeaders_eq (h : m.ReadsNoResponse)
    (hagree : AgreeOn (· ≠ .response) c d) : m.requestHeaders c = m.requestHeaders d :=
  fillHeaders_congr (fun rule hrule e he =>
    Expression.eval_of_not_references (h.headers rule hrule e he) hagree) []

end Mapping

/-! ## What compilation accepts -/

theorem references_of_compileExpression {source location : String} {e : Expression}
    (h : compileExpression source location false = .ok e) : e.references .response = false := by
  unfold compileExpression at h
  split at h
  · cases h
  · split at h
    · cases h
    · rename_i hreferences
      cases h
      simpa using hreferences

theorem references_of_compile_field {location : String} {r : FieldRule} {rule : Field}
    (h : r.compile location = .ok rule) : rule.expression.references .response = false := by
  obtain ⟨target, _, h⟩ := bind_eq_ok_iff.1 h
  obtain ⟨e, he, h⟩ := bind_eq_ok_iff.1 h
  cases h
  exact references_of_compileExpression he

theorem references_of_compile_header {location : String} {r : HeaderRule} {rule : Header}
    (h : r.compile location = .ok rule) {e : Expression} (hsource : rule.source = .computed e) :
    e.references .response = false := by
  unfold HeaderRule.compile at h
  dsimp only at h
  split at h
  · cases h
    cases hsource
  · obtain ⟨f, hf, h⟩ := bind_eq_ok_iff.1 h
    cases h
    cases hsource
    exact references_of_compileExpression hf
  · cases h

theorem references_of_compileFormula {location : String} {source : Option String}
    {formula : Option Expression} (h : compileFormula location source = .ok formula) :
    ∀ f ∈ formula, f.references .response = false := by
  intro f hf
  unfold compileFormula at h
  split at h
  · cases h
    cases hf
  · split at h
    · cases h
      cases hf
    · obtain ⟨e, he, rfl⟩ := exists_of_map_eq_ok h
      cases hf
      exact references_of_compileExpression he

/-- The requests of a compiled mapping are made of what was given without the response. -/
theorem readsNoResponse_of_compile {location : String} {document : MappingDocument} {m : Mapping}
    (h : document.compile location = .ok m) : m.ReadsNoResponse := by
  obtain ⟨fields, hfields, h⟩ := bind_eq_ok_iff.1 h
  obtain ⟨headers, hheaders, h⟩ := bind_eq_ok_iff.1 h
  obtain ⟨formula, hformula, h⟩ := bind_eq_ok_iff.1 h
  obtain ⟨response, _, h⟩ := bind_eq_ok_iff.1 h
  cases h
  constructor
  · intro rule hrule
    obtain ⟨r, _, hr⟩ := mem_of_mapM_ok hfields hrule
    exact references_of_compile_field hr
  · intro rule hrule e he
    obtain ⟨r, _, hr⟩ := mem_of_mapM_ok hheaders hrule
    exact references_of_compile_header hr he
  · exact references_of_compileFormula hformula

theorem references_of_compile_path {location template : String} {path : PathTemplate}
    (h : PathTemplate.compile location template = .ok path) :
    ∀ q ∈ path.parameters, q.2.references .response = false := by
  intro q hq
  unfold PathTemplate.compile at h
  split at h
  · cases h
  · obtain ⟨parameters, hparameters, h⟩ := bind_eq_ok_iff.1 h
    cases h
    obtain ⟨name, _, hname⟩ := mem_of_mapM_ok hparameters hq
    obtain ⟨e, he, h⟩ := bind_eq_ok_iff.1 hname
    cases h
    exact references_of_compileExpression he

/-! ## The same request for every response -/

/-- Two contexts differ at most in the response. -/
theorem agreeOn_of_eq {c d : Context} (hmodel : c.model = d.model) (hconfig : c.config = d.config) :
    AgreeOn (· ≠ .response) c d := by
  intro r hr
  cases r with
  | model => exact hmodel
  | config => exact hconfig
  | response => exact absurd rfl hr

/-- An expression has the same value, or fails alike, in all contexts that agree on the roots that
it lists. So whatever the response is, a compiled mapping gives the same payload, the same headers
and, with every strategy, the same signature, and a compiled path is rendered alike. -/
theorem eval_eq_of_roots :
    (∀ (t : Expression.Tree) (c d : Context), (∀ r ∈ t.roots, c.value r = d.value r) →
      t.eval c = t.eval d) ∧
    ∀ c d : Context, c.model = d.model → c.config = d.config →
      (∀ (location : String) (document : MappingDocument) (m : Mapping),
        document.compile location = .ok m →
          m.payload c = m.payload d ∧ m.requestHeaders c = m.requestHeaders d ∧
          ∀ strategy draft credentials,
            sign strategy draft credentials m.signatureFormula c =
              sign strategy draft credentials m.signatureFormula d) ∧
      ∀ (location template : String) (path : PathTemplate),
        PathTemplate.compile location template = .ok path → path.render c = path.render d := by
  constructor
  · intro t c d h
    apply t.eval_congr
    intro r hr
    exact h r (Expression.Tree.mem_roots.2 hr)
  · intro c d hmodel hconfig
    have hagree : AgreeOn (· ≠ .response) c d := agreeOn_of_eq hmodel hconfig
    constructor
    · intro location document m hcompile
      have hreads : m.ReadsNoResponse := readsNoResponse_of_compile hcompile
      refine ⟨hreads.payload_eq hagree, hreads.requestHeaders_eq hagree, ?_⟩
      intro strategy draft credentials
      exact sign_congr fun f hf => Expression.eval_of_not_references (hreads.formula f hf) hagree
    · intro location template path hcompile
      apply PathTemplate.render_congr
      intro q hq
      exact Expression.eval_of_not_references (references_of_compile_path hcompile q hq) hagree

/-- A mapping whose expressions fall back on the configuration. -/
def quoteDocument : MappingDocument where
  fields := [⟨"amount", "model.amount ?? config.amount", true⟩]
  headers := [{ name := "X-Client", expression := some "upper(config.client)" }]
  signatureFormula := some "model.id == null ? 'none' : upper(model.id)"

/-- The compiled mapping of a quote. -/
def quoteMapping : Mapping :=
  (quoteDocument.compile "shop/quote").toOption.get (by decide +kernel)

/-- The compiled path of a quote. -/
def quotePath : PathTemplate :=
  (PathTemplate.compile "shop/quote" "/quotes/\x7bid\x7d").toOption.get (by decide +kernel)

/-- What a quote is made from; the response exists once it is answered. -/
def quoteContext (response : Option Json) : Context where
  model := .obj [("id", .str "q-1")]
  config := .obj [("amount", .int 3), ("client", .str "web")]
  response := response

/-- The strategy that signs a quote. -/
def quoteStrategy : AuthStrategy := .formula (.header "X-Signature")

/-- Whatever the answer to a quote is, the quote is the same; and the formula, which lists only the
model, is the same for every configuration. -/
theorem eval_eq_of_roots_quote :
    quoteDocument.compile "shop/quote" = .ok quoteMapping ∧
      PathTemplate.compile "shop/quote" "/quotes/\x7bid\x7d" = .ok quotePath ∧
      (∀ response, let c := quoteContext response
        (quoteMapping.payload c).toOption = some (some (.obj [("amount", .int 3)])) ∧
          (quoteMapping.requestHeaders c).toOption = some [("X-Client", "WEB")] ∧
          (quotePath.render c).toOption = some "/quotes/q-1" ∧
          (sign quoteStrategy ⟨"POST", "", [], [], none⟩ {} quoteMapping.signatureFormula
              c).toOption = some ⟨"POST", "", [], [("X-Signature", "Q-1")], none⟩) ∧
      ∀ config response, ∀ f ∈ quoteMapping.signatureFormula, f.tree.roots = [.model] ∧
        f.tree.eval ⟨.obj [("id", .str "q-1")], config, response⟩ =
          f.tree.eval (quoteContext none) := by
  have hmapping : quoteDocument.compile "shop/quote" = .ok quoteMapping := eq_ok_get _
  have hpath : PathTemplate.compile "shop/quote" "/quotes/\x7bid\x7d" = .ok quotePath :=
    eq_ok_get _
  refine ⟨hmapping, hpath, fun response => ?_, fun config response f hf => ?_⟩
  · obtain ⟨hrules, hrender⟩ :=
      eval_eq_of_roots.2 (quoteContext response) (quoteContext none) rfl rfl
    obtain ⟨hpayload, hheaders, hsign⟩ := hrules _ _ _ hmapping
    dsimp only
    rw [hpayload, hheaders, hrender _ _ _ hpath, hsign]
    decide +kernel
  · have hroots : ∀ f ∈ quoteMapping.signatureFormula, f.tree.roots = [.model] := by
      decide +kernel
    refine ⟨hroots f hf, eval_eq_of_roots.1 _ _ _ fun r hr => ?_⟩
    rw [hroots f hf, List.mem_singleton] at hr
    rw [hr]
    rfl

end ApiGateway.Catalog
