import ApiGateway.Proofs.Catalog.Reading
import ApiGateway.Proofs.Expression.Values
import ApiGateway.Proofs.Path.Keys

/-! # Extraction rules that find their place taken

A rule whose write meets a conflict leaves the response as it was, and the rules behind it find the
same response without it. So the rule may be taken out of its mapping (`conflict_leaves_nothing`).
It is never the only rule: the first rule writes into an empty object, where nothing is in the way
of a path that begins with a key.
-/

set_option autoImplicit false

namespace ApiGateway.Catalog

open Expression (Context)

/-- The value that an extraction rule writes. -/
def Extraction.value (rule : Extraction) (c : Context) : Json :=
  match rule.expression.eval c with
  | .ok v => v
  | .error _ => .null

/-- The rule finds its place in a response taken. -/
def Extraction.Conflicts (rule : Extraction) (c : Context) (response : Json) : Prop :=
  (rule.target.write response (rule.value c)).2 = false

/-- The target and the expression of the rule were read from texts. -/
def Extraction.IsRead (rule : Extraction) : Prop := ∃ r : ExtractionRule, r.ReadAs rule

theorem isRead_of_compile {location : String} {document : MappingDocument} {m : Mapping}
    (h : document.compile location = .ok m) : ∀ rule ∈ m.response, rule.IsRead := by
  obtain ⟨fields, _, h⟩ := bind_eq_ok_iff.1 h
  obtain ⟨headers, _, h⟩ := bind_eq_ok_iff.1 h
  obtain ⟨formula, _, h⟩ := bind_eq_ok_iff.1 h
  obtain ⟨response, hresponse, h⟩ := bind_eq_ok_iff.1 h
  cases h
  intro rule hrule
  obtain ⟨r, _, hr⟩ := mem_of_mapM_ok hresponse hrule
  exact ⟨r, readAs_of_compile_extraction hr⟩

namespace Extraction.IsRead

variable {rule : Extraction} {c : Context}

theorem normal_value (h : rule.IsRead) (hc : c.Normal) : (rule.value c).Normal := by
  obtain ⟨r, hr⟩ := h
  unfold Extraction.value
  split
  · exact Expression.givesNormal_eval_of_parse hr.expression hc _ ‹_›
  · trivial

/-- Nothing in an empty object is in the way of a rule. -/
theorem not_conflicts_empty (h : rule.IsRead) : ¬ rule.Conflicts c (.obj []) := by
  obtain ⟨r, hr⟩ := h
  obtain ⟨name, rest, hsegments⟩ := Path.exists_key_of_parse hr.target
  intro hconflict
  have hblocked := Path.write_eq_false_iff.1 hconflict
  rw [hsegments] at hblocked
  rcases hblocked with ⟨_, hkind⟩ | hrest
  · exact hkind [] rfl
  · exact Path.not_blocked_null rest hrest

end Extraction.IsRead

namespace Mapping

variable {c : Context}

theorem fillResponse_cons (response : Json) (rule : Extraction) (rest : List Extraction) :
    fillResponse c response (rule :: rest) =
      fillResponse c (rule.target.write response (rule.value c)).1 rest := rfl

theorem fillResponse_append (response : Json) (earlier later : List Extraction) :
    fillResponse c response (earlier ++ later) =
      fillResponse c (fillResponse c response earlier) later := by
  induction earlier generalizing response with
  | nil => rfl
  | cons rule earlier ih => rw [List.cons_append, fillResponse_cons, fillResponse_cons, ih]

/-- Rules keep a response normal. -/
theorem normal_fillResponse (hc : c.Normal) {rules : List Extraction}
    (hrules : ∀ rule ∈ rules, rule.IsRead) {response : Json} (h : response.Normal) :
    (fillResponse c response rules).Normal := by
  induction rules generalizing response with
  | nil => exact h
  | cons rule rest ih =>
      obtain ⟨hrule, hrest⟩ := List.forall_mem_cons.1 hrules
      rw [fillResponse_cons]
      exact ih hrest (Path.normal_write _ h (hrule.normal_value hc))

/-- A rule that finds its place taken is passed over. -/
theorem fillResponse_of_conflicts {response : Json} (h : response.Normal) {rule : Extraction}
    (hconflict : rule.Conflicts c response) (rest : List Extraction) :
    fillResponse c response (rule :: rest) = fillResponse c response rest := by
  have hblocked := Path.write_eq_false_iff.1 hconflict
  rw [fillResponse_cons, Path.Target.write, Path.write_of_blocked h hblocked]

end Mapping

/-- A write that meets a conflict leaves the value as it was. A rule of a compiled mapping that
finds its place taken by the rules before it may therefore be taken out, and the mapping extracts
the same. -/
theorem conflict_leaves_nothing :
    (∀ (t : Path.Target) (root value : Json), root.Normal →
      (t.write root value).2 = false → (t.write root value).1 = root) ∧
    ∀ (location : String) (document : MappingDocument) (m : Mapping) (c : Context)
      (earlier later : List Extraction) (rule : Extraction),
      document.compile location = .ok m → c.Normal → m.response = earlier ++ rule :: later →
        rule.Conflicts c (Mapping.fillResponse c (.obj []) earlier) →
          { m with response := earlier ++ later }.extract c = m.extract c := by
  constructor
  · intro t root value hroot hconflict
    have hblocked := Path.write_eq_false_iff.1 hconflict
    exact congrArg Prod.fst (Path.write_of_blocked hroot hblocked value)
  · intro location document m c earlier later rule hcompile hc hsplit hconflict
    have hread := isRead_of_compile hcompile
    rw [hsplit] at hread
    obtain ⟨hearlier, hread⟩ := List.forall_mem_append.1 hread
    -- a rule that conflicts has others before it
    have hne : earlier ≠ [] := by
      rintro rfl
      exact (List.forall_mem_cons.1 hread).1.not_conflicts_empty hconflict
    have hnormal : (Mapping.fillResponse c (.obj []) earlier).Normal :=
      Mapping.normal_fillResponse hc hearlier ⟨List.Pairwise.nil, trivial⟩
    have hsame : Mapping.fillResponse c (.obj []) (earlier ++ rule :: later) =
        Mapping.fillResponse c (.obj []) (earlier ++ later) := by
      rw [Mapping.fillResponse_append, Mapping.fillResponse_append,
        Mapping.fillResponse_of_conflicts hnormal hconflict]
    unfold Mapping.extract
    rw [if_neg (by simp [hne]), hsplit, if_neg (by simp), hsame]

/-- Three rules, the second of which goes on below the number that the first one writes. -/
def orderRules : MappingDocument where
  response := [⟨"order.id", "response.body.id"⟩, ⟨"order.id.parts[2]", "response.body.part"⟩,
    ⟨"order.total", "response.body.total"⟩]

/-- The compiled rules of an order. -/
def orderMapping : Mapping := (orderRules.compile "shop/order").toOption.get (by decide +kernel)

/-- The second of them. -/
def partRule : Extraction := orderMapping.response.get ⟨1, by decide +kernel⟩

/-- The vendor has answered with an order. -/
def orderAnswered : Context where
  model := .null
  config := .obj []
  response := some (.obj [("body", .obj [("id", .int 7), ("part", .str "a"), ("total", .int 3)])])

/-- The response when it is the turn of that rule. -/
def orderSoFar : Json := .obj [("order", .obj [("id", .int 7)])]

/-- The part finds a number on its way, and the order comes out the same without its rule. -/
theorem conflict_leaves_nothing_order :
    orderRules.compile "shop/order" = .ok orderMapping ∧
      partRule.target.source = "order.id.parts[2]" ∧
      orderMapping.response =
        orderMapping.response.take 1 ++ partRule :: orderMapping.response.drop 2 ∧
      partRule.Conflicts orderAnswered
        (Mapping.fillResponse orderAnswered (.obj []) (orderMapping.response.take 1)) ∧
      (partRule.target.write orderSoFar (.str "a")).1 = orderSoFar ∧
      { orderMapping with
          response := orderMapping.response.take 1 ++ orderMapping.response.drop 2 }.extract
          orderAnswered = orderMapping.extract orderAnswered ∧
      orderMapping.extract orderAnswered =
        some (.obj [("order", .obj [("id", .int 7), ("total", .int 3)])]) := by
  have hcompile : orderRules.compile "shop/order" = .ok orderMapping := eq_ok_get _
  have hcontext : orderAnswered.Normal := by
    refine ⟨trivial, ⟨List.Pairwise.nil, trivial⟩, ?_⟩
    rintro v ⟨⟩
    simp only [Json.Normal, Json.NormalMembers, Json.Ascending, Json.int, and_true]
    decide +kernel
  have hroot : orderSoFar.Normal := by
    simp only [orderSoFar, Json.Normal, Json.NormalMembers, Json.Ascending, Json.int, and_true]
    decide +kernel
  have hsplit : orderMapping.response =
      orderMapping.response.take 1 ++ partRule :: orderMapping.response.drop 2 := by
    rw [partRule, List.get_eq_getElem, ← List.drop_eq_getElem_cons, List.take_append_drop]
  have hconflict : partRule.Conflicts orderAnswered
      (Mapping.fillResponse orderAnswered (.obj []) (orderMapping.response.take 1)) := by
    unfold Extraction.Conflicts
    decide +kernel
  exact ⟨hcompile, by decide +kernel, hsplit, hconflict,
    conflict_leaves_nothing.1 _ _ _ hroot (by decide +kernel),
    conflict_leaves_nothing.2 _ _ _ _ _ _ _ hcompile hcontext hsplit hconflict, by decide +kernel⟩

end ApiGateway.Catalog
