import ApiGateway.Proofs.Catalog.Headers
import ApiGateway.Proofs.Catalog.Targets
import ApiGateway.Proofs.Path.Templates
import Mathlib.Data.List.Forall2

/-! # What a compiled endpoint has read

Compilation reads the texts of an endpoint: its target paths, its expressions, and the names in its
path. `ReadAs` relates the rules of a document to the compiled ones, text by text, and every endpoint
of an accepted document has been read like this (`readAs_of_compile`). What can still go wrong when
a request is built is about values: `Endpoint.BuildFault` lists it, and has no case for a text that
cannot be read.
-/

set_option autoImplicit false

namespace ApiGateway

/-- What a successful pass makes of a list, element by element. -/
theorem forall₂_of_mapM_ok {ε α β : Type} {f : α → Except ε β} {R : α → β → Prop}
    (hf : ∀ {a b}, f a = .ok b → R a b) {as : List α} {bs : List β} (h : as.mapM f = .ok bs) :
    List.Forall₂ R as bs := by
  induction as generalizing bs with
  | nil =>
      cases h
      exact .nil
  | cons a as ih =>
      rw [List.mapM_cons, bind_eq_ok_iff] at h
      obtain ⟨b, hb, h⟩ := h
      rw [bind_eq_ok_iff] at h
      obtain ⟨bs', hrest, h⟩ := h
      cases h
      exact .cons (hf hb) (ih hrest)

namespace Path

/-- A template is rendered once all its names have values. -/
theorem exists_of_render {template : String} {names : List String}
    (h : placeholders template = .ok names) {value : String → Option Json}
    (hvalue : ∀ name ∈ names, ∃ v, value name = some v ∧ v ≠ .null) :
    ∃ path, render template value = .ok path := by
  obtain ⟨ps, hps, _, rfl⟩ := placeholders_eq_ok_iff.1 h
  refine ⟨_, render_eq_ok_iff.2 ⟨ps, hps, fun name hname => ?_, rfl⟩⟩
  obtain ⟨v, hv, hne⟩ := hvalue name (mem_foldl_listName.2 (.inr hname))
  exact hasValue_of_ne_null hv hne

end Path

namespace Catalog

/-! ## Texts and what they are read as -/

theorem parse_of_compileExpression {source location : String} {mayUseResponse : Bool}
    {f : Expression} (h : compileExpression source location mayUseResponse = .ok f) :
    Expression.parse source = .ok f := by
  unfold compileExpression at h
  split at h
  · cases h
  · split at h
    · cases h
    · cases h
      assumption

/-- A compiled field rule has the target and the expression of its texts. -/
structure FieldRule.ReadAs (r : FieldRule) (rule : Field) : Prop where
  target : Path.Target.parse r.target = .ok rule.target
  expression : Expression.parse r.source = .ok rule.expression

/-- A compiled header rule has the expression of its text, if it has one. -/
structure HeaderRule.ReadAs (r : HeaderRule) (rule : Header) : Prop where
  name : rule.name = r.name
  expression : ∀ source ∈ r.expression, ∃ f, Expression.parse source = .ok f ∧
    rule.source = .computed f

/-- A compiled extraction rule has the target and the expression of its texts. -/
structure ExtractionRule.ReadAs (r : ExtractionRule) (rule : Extraction) : Prop where
  target : Path.Target.parse r.target = .ok rule.target
  expression : Expression.parse r.source = .ok rule.expression

/-- A compiled endpoint has what the texts of its document say: those of its rules, one for one, its
signature formula unless it is blank, and the names in its path. -/
structure EndpointDocument.ReadAs (ed : EndpointDocument) (e : Endpoint) : Prop where
  fields : List.Forall₂ FieldRule.ReadAs ed.mapping.fields e.mapping.fields
  headers : List.Forall₂ HeaderRule.ReadAs ed.mapping.headers e.mapping.headers
  response : List.Forall₂ ExtractionRule.ReadAs ed.mapping.response e.mapping.response
  formula : ∀ source ∈ ed.mapping.signatureFormula, Text.isAllBlank source = false →
    ∃ f, Expression.parse source = .ok f ∧ e.mapping.signatureFormula = some f
  path : ∃ names, Path.placeholders ed.path = .ok names ∧
    List.Forall₂ (fun name q => q.1 = name ∧ Expression.parse (parameterSource name) = .ok q.2)
      names e.path.parameters

theorem readAs_of_compile_field {location : String} {r : FieldRule} {rule : Field}
    (h : r.compile location = .ok rule) : r.ReadAs rule := by
  refine ⟨parse_of_compile_field h, ?_⟩
  obtain ⟨_, _, h⟩ := bind_eq_ok_iff.1 h
  obtain ⟨_, hf, h⟩ := bind_eq_ok_iff.1 h
  cases h
  exact parse_of_compileExpression hf

theorem readAs_of_compile_header {location : String} {r : HeaderRule} {rule : Header}
    (h : r.compile location = .ok rule) : r.ReadAs rule := by
  refine ⟨name_of_compile_header h, fun source hsource => ?_⟩
  unfold HeaderRule.compile at h
  dsimp only at h
  split at h
  · rename_i hnone
    rw [hnone] at hsource
    cases hsource
  · rename_i text _ hsome
    obtain ⟨f, hf, h⟩ := bind_eq_ok_iff.1 h
    cases h
    rw [hsome] at hsource
    cases hsource
    exact ⟨f, parse_of_compileExpression hf, rfl⟩
  · cases h

theorem readAs_of_compile_extraction {location : String} {r : ExtractionRule} {rule : Extraction}
    (h : r.compile location = .ok rule) : r.ReadAs rule := by
  refine ⟨parse_of_compile_extraction h, ?_⟩
  obtain ⟨_, _, h⟩ := bind_eq_ok_iff.1 h
  obtain ⟨_, hf, h⟩ := bind_eq_ok_iff.1 h
  cases h
  exact parse_of_compileExpression hf

theorem exists_of_compileFormula {location : String} {document : Option String}
    {formula : Option Expression} (h : compileFormula location document = .ok formula) :
    ∀ source ∈ document, Text.isAllBlank source = false →
      ∃ f, Expression.parse source = .ok f ∧ formula = some f := by
  rintro source hsource hfilled
  cases hsource
  rw [compileFormula, if_neg (by simp [hfilled])] at h
  obtain ⟨f, hf, rfl⟩ := exists_of_map_eq_ok h
  exact ⟨f, parse_of_compileExpression hf, rfl⟩

theorem exists_of_compile_path {location template : String} {path : PathTemplate}
    (h : PathTemplate.compile location template = .ok path) :
    path.template = template ∧ ∃ names, Path.placeholders template = .ok names ∧
      List.Forall₂ (fun name q => q.1 = name ∧ Expression.parse (parameterSource name) = .ok q.2)
        names path.parameters := by
  unfold PathTemplate.compile at h
  split at h
  · cases h
  · rename_i names hnames
    obtain ⟨parameters, hparameters, h⟩ := bind_eq_ok_iff.1 h
    cases h
    refine ⟨rfl, names, hnames, forall₂_of_mapM_ok (fun hname => ?_) hparameters⟩
    obtain ⟨f, hf, hname⟩ := bind_eq_ok_iff.1 hname
    cases hname
    exact ⟨rfl, parse_of_compileExpression hf⟩

/-- A compiled endpoint has read the texts of its document. -/
theorem readAs_of_compile {provider : String} {ed : EndpointDocument} {e : Endpoint}
    (h : ed.compile provider = .ok e) : ed.ReadAs e := by
  obtain ⟨path, hpath, h⟩ := bind_eq_ok_iff.1 h
  obtain ⟨mapping, hmapping, h⟩ := bind_eq_ok_iff.1 h
  cases h
  obtain ⟨fields, hfields, hmapping⟩ := bind_eq_ok_iff.1 hmapping
  obtain ⟨headers, hheaders, hmapping⟩ := bind_eq_ok_iff.1 hmapping
  obtain ⟨formula, hformula, hmapping⟩ := bind_eq_ok_iff.1 hmapping
  obtain ⟨response, hresponse, hmapping⟩ := bind_eq_ok_iff.1 hmapping
  cases hmapping
  exact ⟨forall₂_of_mapM_ok readAs_of_compile_field hfields,
    forall₂_of_mapM_ok readAs_of_compile_header hheaders,
    forall₂_of_mapM_ok readAs_of_compile_extraction hresponse,
    exists_of_compileFormula hformula, (exists_of_compile_path hpath).2⟩

theorem compile_path_of_compile {provider : String} {ed : EndpointDocument} {e : Endpoint}
    (h : ed.compile provider = .ok e) :
    PathTemplate.compile (provider ++ "/" ++ ed.slug) ed.path = .ok e.path := by
  obtain ⟨path, hpath, h⟩ := bind_eq_ok_iff.1 h
  obtain ⟨_, _, h⟩ := bind_eq_ok_iff.1 h
  cases h
  exact hpath

/-! ## What can go wrong with a request -/

/-- What is wrong with the value of a header, and the error for it. -/
inductive Header.Fault (c : Expression.Context) (rule : Header) : ResolveError → Prop where
  | expression {f : Expression} {cause : Expression.RuntimeError} (source : rule.source = .computed f)
      (value : f.eval c = .error cause) : Fault c rule (.expression ("headers." ++ rule.name) cause)
  | missing (required : rule.required = true) (nothing : ∀ text, ¬ rule.Gives c text) :
      Fault c rule (.mapping ("headers." ++ rule.name) ResolveError.valueMissing)

/-- What is wrong with the value of a name in a path, and the error for it. -/
inductive ParameterFault (c : Expression.Context) (name : String) (f : Expression) :
    ResolveError → Prop where
  | expression {cause : Expression.RuntimeError} (value : f.eval c = .error cause) :
      ParameterFault c name f (.expression ("path." ++ name) cause)
  | missing {v : Json} (value : f.eval c = .ok v) :
      ParameterFault c name f (.mapping ("path." ++ name) ResolveError.parameterMissing)

/-- Why the request of an endpoint cannot be built: something is wrong with a value. -/
inductive Endpoint.BuildFault (e : Endpoint) (c : Expression.Context) : ResolveError → Prop where
  | field {payload : Json} {rule : Field} {error : ResolveError} (mem : rule ∈ e.mapping.fields)
      (fault : Catalog.Fault c payload rule error) : BuildFault e c error
  | header {rule : Header} {error : ResolveError} (mem : rule ∈ e.mapping.headers)
      (fault : rule.Fault c error) : BuildFault e c error
  | parameter {name : String} {f : Expression} {error : ResolveError}
      (mem : (name, f) ∈ e.path.parameters) (fault : ParameterFault c name f error) :
      BuildFault e c error

variable {c : Expression.Context}

theorem Mapping.fault_of_fillHeaders {rules : List Header} {headers : Headers}
    {error : ResolveError} (h : fillHeaders c headers rules = .error error) :
    ∃ rule ∈ rules, rule.Fault c error := by
  induction rules generalizing headers with
  | nil => cases h
  | cons rule rules ih =>
      have hlater : ∀ {headers : Headers}, fillHeaders c headers rules = .error error →
          ∃ r ∈ rule :: rules, r.Fault c error := fun h => by
        obtain ⟨r, hr, hfault⟩ := ih h
        exact ⟨r, List.mem_cons_of_mem rule hr, hfault⟩
      rw [fillHeaders] at h
      cases hv : headerValue c ("headers." ++ rule.name) rule.source with
      | error cause =>
          rw [hv] at h
          cases h
          refine ⟨rule, List.mem_cons_self, ?_⟩
          cases hsource : rule.source with
          | fixed value =>
              rw [hsource] at hv
              cases hv
          | computed f =>
              rw [hsource, headerValue] at hv
              cases hf : f.eval c with
              | error cause =>
                  rw [hf] at hv
                  cases hv
                  exact .expression hsource hf
              | ok v =>
                  rw [hf] at hv
                  cases hv
      | ok v =>
          rw [hv] at h
          change (if v.isMeaningful then _ else _) = _ at h
          split at h
          · exact hlater h
          · rename_i hnothing
            split at h
            · rename_i hrequired
              cases h
              refine ⟨rule, List.mem_cons_self, .missing hrequired fun text hgives => ?_⟩
              obtain ⟨w, hw, hfilled, _⟩ := gives_iff.1 hgives
              rw [hv] at hw
              cases hw
              exact hnothing hfilled
            · exact hlater h

theorem fault_of_parameterValue {name : String} {f : Expression} {error : ResolveError}
    (h : parameterValue c name f = .error error) : ParameterFault c name f error := by
  unfold parameterValue at h
  dsimp only at h
  split at h
  · rename_i hvalue
    cases h
    exact .expression hvalue
  · rename_i hvalue
    cases h
    exact .missing hvalue
  · rename_i hvalue
    cases h
    exact .missing hvalue
  · rename_i hvalue
    split at h
    · cases h
    · cases h
      exact .missing hvalue

theorem ne_null_of_parameterValue {name : String} {f : Expression} {v : Json}
    (h : parameterValue c name f = .ok v) : v ≠ .null := by
  rintro rfl
  unfold parameterValue at h
  dsimp only at h
  split at h
  · cases h
  · cases h
  · cases h
  · split at h
    · rename_i hfilled
      cases h
      cases hfilled
    · cases h

/-- Once the names of a path are evaluated, each has a value. -/
theorem lookup_of_parameters {names : List String} {parameters : List (String × Expression)}
    {values : List (String × Json)}
    (hnames : List.Forall₂
      (fun name q => q.1 = name ∧ Expression.parse (parameterSource name) = .ok q.2)
      names parameters)
    (h : parameters.mapM (fun (name, e) => do return (name, ← parameterValue c name e)) =
      .ok values) :
    ∀ name ∈ names, ∃ v, values.lookup name = some v ∧ v ≠ .null := by
  have hstep : ∀ {q : String × Expression} {r : String × Json},
      (do return (q.1, ← parameterValue c q.1 q.2) : Except ResolveError (String × Json)) = .ok r →
        r.1 = q.1 ∧ r.2 ≠ .null := by
    intro q r hr
    obtain ⟨v, hv, hr⟩ := bind_eq_ok_iff.1 hr
    cases hr
    exact ⟨rfl, ne_null_of_parameterValue hv⟩
  have hkeys : values.map (·.1) = names := by
    rw [map_eq_of_mapM_ok (k := (·.1)) (fun q r hr => (hstep hr).1) h]
    clear h
    induction hnames with
    | nil => rfl
    | cons hname _ ih => rw [List.map_cons, hname.1, ih]
  intro name hname
  cases hv : values.lookup name with
  | none => exact absurd (hkeys ▸ hname) (lookup_eq_none_iff_not_mem.1 hv)
  | some v =>
      obtain ⟨q, _, hq⟩ := mem_of_mapM_ok h (mem_of_lookup_eq_some hv)
      exact ⟨v, rfl, (hstep hq).2⟩

/-- A path that was compiled can be rendered once its names have values. -/
theorem PathTemplate.fault_of_render {location template : String} {path : PathTemplate}
    (h : PathTemplate.compile location template = .ok path) {error : ResolveError}
    (herror : path.render c = .error error) :
    ∃ q ∈ path.parameters, ParameterFault c q.1 q.2 error := by
  obtain ⟨rfl, names, hnames, hparameters⟩ := exists_of_compile_path h
  unfold PathTemplate.render at herror
  cases hvalues : path.parameters.mapM
      (fun (name, e) => do return (name, ← parameterValue c name e)) with
  | error cause =>
      rw [hvalues] at herror
      cases herror
      obtain ⟨q, hq, hfail⟩ := exists_of_mapM_error hvalues
      refine ⟨q, hq, ?_⟩
      obtain ⟨name, f⟩ := q
      cases hv : parameterValue c name f with
      | error cause =>
          simp only [hv] at hfail
          cases hfail
          exact fault_of_parameterValue hv
      | ok v =>
          simp only [hv] at hfail
          cases hfail
  | ok values =>
      rw [hvalues] at herror
      have hvalue := lookup_of_parameters hparameters hvalues
      obtain ⟨text, htext⟩ := Path.exists_of_render hnames hvalue
      simp only [bind, Except.bind, htext] at herror
      cases herror

end Catalog

end ApiGateway
