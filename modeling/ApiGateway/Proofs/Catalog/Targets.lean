import ApiGateway.Proofs.Catalog.Acceptance
import ApiGateway.Proofs.Path.Spelling

/-! # The targets of an accepted mapping

Validation compares the texts of target paths, while a payload is written by their segments. So what
an accepted mapping can promise is about texts: those of its field rules that do not append all
differ, and so do those of its extraction rules, and two rules name one place just if their texts
are spellings of one path (`targets_of_compile`). That can happen (`sameTargets_respelled`).
-/

set_option autoImplicit false

namespace ApiGateway

/-- Two paths with different texts, which name one place just if the texts are alike but for blanks
and leading zeros in brackets. -/
def Path.Target.ToldApart (t t' : Path.Target) : Prop :=
  t.source ≠ t'.source ∧ (t.segments = t'.segments ↔ Path.tidy t.source = Path.tidy t'.source)

theorem Path.toldApart_of_parse {text text' : String} {t t' : Path.Target}
    (h : Path.Target.parse text = .ok t) (h' : Path.Target.parse text' = .ok t')
    (hne : Text.trim text ≠ Text.trim text') : t.ToldApart t' := by
  refine ⟨?_, Path.segments_eq_iff h h'⟩
  rw [(Path.groups_of_parse h).1, (Path.groups_of_parse h').1]
  exact hne

namespace Catalog

/-! ## Rules that are accepted -/

/-- The text of a rule has a pair of empty brackets; validation takes it for one that appends. -/
def FieldRule.showsAppend (rule : FieldRule) : Bool :=
  Text.occursIn "[]".toList rule.target.toList

/-- Of the field rules that are accepted, those that show no append have texts that differ from each
other and from those before. -/
theorem distinct_of_checkFields {location : String} {seen : List String} {rules : List FieldRule}
    (h : checkFields location seen rules = .ok ()) :
    rules.Pairwise (fun r r' => r.showsAppend = false → r'.showsAppend = false →
        Text.trim r.target ≠ Text.trim r'.target) ∧
      ∀ r ∈ rules, r.showsAppend = false → Text.trim r.target ∉ seen := by
  induction rules generalizing seen with
  | nil => exact ⟨.nil, fun _ hr => nomatch hr⟩
  | cons rule rules ih =>
      rw [checkFields] at h
      obtain ⟨_, _, h⟩ := bind_eq_ok_iff.1 h
      obtain ⟨_, _, h⟩ := bind_eq_ok_iff.1 h
      dsimp only at h
      split at h
      · rename_i happend
        obtain ⟨hpairs, hlater⟩ := ih h
        have hfalse : rule.showsAppend ≠ false := fun hnot => by
          rw [FieldRule.showsAppend, happend] at hnot
          cases hnot
        exact ⟨List.pairwise_cons.2 ⟨fun _ _ hnot => absurd hnot hfalse, hpairs⟩,
          List.forall_mem_cons.2 ⟨fun hnot => absurd hnot hfalse, hlater⟩⟩
      · obtain ⟨_, hnew, h⟩ := bind_eq_ok_iff.1 h
        obtain ⟨hpairs, hlater⟩ := ih h
        have hfresh : Text.trim rule.target ∉ seen := by
          simpa using eq_true_of_ensure hnew
        refine ⟨List.pairwise_cons.2 ⟨fun r hr _ hplain heq => ?_, hpairs⟩,
          List.forall_mem_cons.2 ⟨fun _ => hfresh, fun r hr hplain hmem => ?_⟩⟩
        · exact hlater r hr hplain (heq ▸ List.mem_cons_self)
        · exact hlater r hr hplain (List.mem_cons_of_mem _ hmem)

/-- Extraction rules that are accepted have texts that differ from each other and from those
before. -/
theorem distinct_of_checkResponse {location : String} {seen : List String}
    {rules : List ExtractionRule} (h : checkResponse location seen rules = .ok ()) :
    rules.Pairwise (fun r r' => Text.trim r.target ≠ Text.trim r'.target) ∧
      ∀ r ∈ rules, Text.trim r.target ∉ seen := by
  induction rules generalizing seen with
  | nil => exact ⟨.nil, fun _ hr => nomatch hr⟩
  | cons rule rules ih =>
      rw [checkResponse] at h
      obtain ⟨_, _, h⟩ := bind_eq_ok_iff.1 h
      obtain ⟨_, hnew, h⟩ := bind_eq_ok_iff.1 h
      obtain ⟨hpairs, hlater⟩ := ih h
      have hfresh : Text.trim rule.target ∉ seen := by
        simpa using eq_true_of_ensure hnew
      refine ⟨List.pairwise_cons.2 ⟨fun r hr heq => ?_, hpairs⟩,
        List.forall_mem_cons.2 ⟨hfresh, fun r hr hmem => ?_⟩⟩
      · exact hlater r hr (heq ▸ List.mem_cons_self)
      · exact hlater r hr (List.mem_cons_of_mem _ hmem)

/-! ## Rules that are compiled -/

theorem parse_of_compileTarget {target location : String} {t : Path.Target}
    (h : compileTarget target location = .ok t) : Path.Target.parse target = .ok t := by
  unfold compileTarget at h
  split at h
  · cases h
    assumption
  · cases h

theorem parse_of_compile_field {location : String} {r : FieldRule} {rule : Field}
    (h : r.compile location = .ok rule) : Path.Target.parse r.target = .ok rule.target := by
  obtain ⟨t, ht, h⟩ := bind_eq_ok_iff.1 h
  obtain ⟨_, _, h⟩ := bind_eq_ok_iff.1 h
  cases h
  exact parse_of_compileTarget ht

theorem parse_of_compile_extraction {location : String} {r : ExtractionRule} {rule : Extraction}
    (h : r.compile location = .ok rule) : Path.Target.parse r.target = .ok rule.target := by
  obtain ⟨t, ht, h⟩ := bind_eq_ok_iff.1 h
  obtain ⟨_, _, h⟩ := bind_eq_ok_iff.1 h
  cases h
  exact parse_of_compileTarget ht

/-- A rule that does not append shows no append either. -/
theorem showsAppend_of_compile {location : String} {r : FieldRule} {rule : Field}
    (h : r.compile location = .ok rule) (hplain : rule.target.appends = false) :
    r.showsAppend = false := by
  refine Bool.eq_false_iff.2 fun hshows => ?_
  rw [Path.appends_of_occursIn (parse_of_compile_field h) hshows] at hplain
  cases hplain

/-- The targets of a compiled mapping are told apart by their texts. -/
structure Mapping.TellsTargetsApart (m : Mapping) : Prop where
  fields : m.fields.Pairwise fun r r' =>
    r.target.appends = false → r'.target.appends = false → r.target.ToldApart r'.target
  response : m.response.Pairwise fun r r' => r.target.ToldApart r'.target

theorem tellsTargetsApart_of_checkMapping {location : String} {document : MappingDocument}
    {m : Mapping} (hchecked : checkMapping location document = .ok ())
    (hcompile : document.compile location = .ok m) : m.TellsTargetsApart := by
  obtain ⟨_, hfields, hchecked⟩ := bind_eq_ok_iff.1 hchecked
  obtain ⟨_, _, hresponse⟩ := bind_eq_ok_iff.1 hchecked
  obtain ⟨fields, hfieldRules, hcompile⟩ := bind_eq_ok_iff.1 hcompile
  obtain ⟨_, _, hcompile⟩ := bind_eq_ok_iff.1 hcompile
  obtain ⟨_, _, hcompile⟩ := bind_eq_ok_iff.1 hcompile
  obtain ⟨response, hresponseRules, hcompile⟩ := bind_eq_ok_iff.1 hcompile
  cases hcompile
  constructor
  · refine pairwise_of_mapM_ok (fun hr hr' hapart hplain hplain' => ?_) hfieldRules
      (distinct_of_checkFields hfields).1
    exact Path.toldApart_of_parse (parse_of_compile_field hr) (parse_of_compile_field hr')
      (hapart (showsAppend_of_compile hr hplain) (showsAppend_of_compile hr' hplain'))
  · refine pairwise_of_mapM_ok (fun hr hr' hapart => ?_) hresponseRules
      (distinct_of_checkResponse hresponse).1
    exact Path.toldApart_of_parse (parse_of_compile_extraction hr)
      (parse_of_compile_extraction hr') hapart

/-- Every mapping of a document with a compiled catalog is compiled, and its targets are told apart
by their texts. -/
theorem targets_of_compile {d : CatalogDocument} {c : Catalog} (h : d.compile = .ok c)
    {pd : ProviderDocument} (hpd : pd ∈ d.providers) {ed : EndpointDocument}
    (hed : ed ∈ pd.endpoints) :
    ∃ e, ed.compile pd.slug = .ok e ∧ e.mapping.TellsTargetsApart := by
  obtain ⟨hchecked, e, he⟩ := compile_of_mem_endpoints h hpd hed
  exact ⟨e, he, tellsTargetsApart_of_checkMapping (checkMapping_of_checkEndpoint hchecked)
    (compile_mapping_of_compile he)⟩

/-! ## An accepted mapping with one place twice -/

/-- An order with two lines in its payload, which are kept from the answer as well. -/
def twoLines (first second : String) : EndpointDocument where
  slug := "order"
  path := "/orders"
  mapping :=
    { fields := [⟨first, "model.item", false⟩, ⟨second, "model.gift", false⟩]
      response := [⟨first, "response.item"⟩, ⟨second, "response.gift"⟩] }

/-- The provider of one endpoint. -/
def providerOf (e : EndpointDocument) : ProviderDocument where
  slug := "shop"
  environments := [("live", { baseUrl := "http://[::1]" })]
  activeEnvironment := "live"
  endpoints := [e]

theorem targets_of_compile_twoLines :
    let ed := twoLines "lines[0]" "lines[ 1 ]"
    (CatalogDocument.compile ⟨[providerOf ed]⟩).toOption.isSome = true ∧
      ∃ e, ed.compile "shop" = .ok e ∧ e.mapping.TellsTargetsApart := by
  intro ed
  have hcompile : (CatalogDocument.compile ⟨[providerOf ed]⟩).toOption.isSome = true := by
    decide +kernel
  exact ⟨hcompile, targets_of_compile (eq_ok_get hcompile) List.mem_cons_self List.mem_cons_self⟩

/-- With a leading zero, both lines have the same place, and the document is accepted. -/
theorem sameTargets_respelled :
    let ed := twoLines "lines[0]" "lines[00]"
    let place : List Path.Segment := [.key "lines", .index 0]
    (CatalogDocument.compile ⟨[providerOf ed]⟩).toOption.isSome = true ∧
      (ed.compile "shop").toOption.map (fun e =>
          (e.mapping.fields.map (·.target.segments), e.mapping.response.map (·.target.segments))) =
        some ([place, place], [place, place]) := by
  decide +kernel

end Catalog

end ApiGateway
