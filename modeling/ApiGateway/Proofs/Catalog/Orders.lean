import ApiGateway.Proofs.Catalog.Payloads
import ApiGateway.Proofs.Path.Apart

/-! # Field rules in any order

Rules without appends, none of which writes at or below the place of another (`Separate`), may stand
in any order: two neighbours may change places (`Fills.swap`), and so any two orders fill the same
payload (`Fills.perm`). When they do is no matter of order either (`exists_fills_iff`): each rule
has a value and a free place in the empty object, and no two of them need containers of different
kinds at one place. The error may be another one, that of the first rule with a fault.
-/

set_option autoImplicit false

namespace ApiGateway.Catalog

open Expression (Context)
open ApiGateway.Path (Apart Blocked Clash)

/-- The rule has a value that it may write. -/
def Field.Gives (rule : Field) (c : Context) (v : Json) : Prop :=
  rule.expression.eval c = .ok v ∧ (rule.required = true → SaysSomething v)

/-- No rule appends, and no target path begins with another. -/
structure Separate (rules : List Field) : Prop where
  plain : ∀ rule ∈ rules, rule.target.appends = false
  apart : rules.Pairwise fun rule rule' => Apart rule.target.segments rule'.target.segments

namespace Separate

variable {rule : Field} {rules rules' : List Field}

theorem tail (h : Separate (rule :: rules)) : Separate rules :=
  ⟨(List.forall_mem_cons.1 h.plain).2, (List.pairwise_cons.1 h.apart).2⟩

theorem apart_of_mem (h : Separate (rule :: rules)) {rule' : Field} (hrule' : rule' ∈ rules) :
    Apart rule.target.segments rule'.target.segments :=
  (List.pairwise_cons.1 h.apart).1 rule' hrule'

theorem append_not_mem (h : Separate rules) (hrule : rule ∈ rules) :
    .append ∉ rule.target.segments := by
  intro happend
  have hfalse := h.plain rule hrule
  rw [Path.Target.appends, List.contains_iff_mem.2 happend] at hfalse
  cases hfalse

theorem perm (hperm : rules.Perm rules') (h : Separate rules) : Separate rules' where
  plain rule hrule := h.plain rule (hperm.mem_iff.2 hrule)
  apart := (hperm.pairwise_iff fun hapart => hapart.symm).1 h.apart

end Separate

variable {c : Context} {payload last : Json} {rules rules' : List Field}

/-- The first two rules may change places. -/
theorem Fills.swap {rule rule' : Field} {rest : List Field}
    (hseparate : Separate (rule :: rule' :: rest))
    (h : Fills c payload (rule :: rule' :: rest) last) :
    Fills c payload (rule' :: rule :: rest) last := by
  have happend := hseparate.append_not_mem List.mem_cons_self
  have happend' := hseparate.tail.append_not_mem List.mem_cons_self
  have hapart := hseparate.apart_of_mem List.mem_cons_self
  cases h with
  | @cons _ _ v _ _ value required free later =>
      cases later with
      | @cons _ _ v' _ _ value' required' free' later =>
          rw [Path.Target.write, Path.blocked_write_iff happend happend' hapart free,
            not_or] at free'
          obtain ⟨hfree', hclash⟩ := free'
          refine .cons value' required' hfree' (.cons value required ?_ ?_)
          · rw [Path.Target.write, Path.blocked_write_iff happend' happend hapart.symm hfree']
            exact not_or.2 ⟨free, fun h => hclash h.symm⟩
          · unfold Path.Target.write at later ⊢
            rw [← Path.write_comm happend happend' hapart hclash free hfree']
            exact later

/-- Rules fill the same payload in any order. -/
theorem Fills.perm (hperm : rules.Perm rules') (hseparate : Separate rules)
    (h : Fills c payload rules last) : Fills c payload rules' last := by
  induction hperm generalizing payload with
  | nil => exact h
  | cons rule _ ih =>
      cases h with
      | cons value required free later =>
          exact .cons value required free (ih hseparate.tail later)
  | swap rule rule' rest => exact h.swap hseparate
  | trans hperm _ ih ih' => exact ih' (hseparate.perm hperm) (ih hseparate h)

/-- When rules fill a payload: each has a value and a free place in what is there before them, and
no two need containers of different kinds at one place. -/
theorem exists_fills_iff (hseparate : Separate rules) :
    (∃ last, Fills c payload rules last) ↔
      (∀ rule ∈ rules, (∃ v, rule.Gives c v) ∧ ¬ Blocked rule.target.segments payload) ∧
        rules.Pairwise fun rule rule' => ¬ Clash rule.target.segments rule'.target.segments := by
  induction rules generalizing payload with
  | nil => exact iff_of_true ⟨payload, .nil payload⟩ ⟨nofun, List.Pairwise.nil⟩
  | cons rule rest ih =>
      -- what the first rule leaves blocks those that clash with it
      have hblocked : ∀ rule' ∈ rest, ∀ v, ¬ Blocked rule.target.segments payload →
          (¬ Blocked rule'.target.segments (rule.target.write payload v).1 ↔
            ¬ Blocked rule'.target.segments payload ∧
              ¬ Clash rule.target.segments rule'.target.segments) := by
        intro rule' hrule' v hfree
        rw [Path.Target.write, Path.blocked_write_iff
          (hseparate.append_not_mem List.mem_cons_self) (hseparate.tail.append_not_mem hrule')
          (hseparate.apart_of_mem hrule') hfree, not_or]
      rw [List.forall_mem_cons, List.pairwise_cons]
      constructor
      · rintro ⟨last, h⟩
        cases h with
        | @cons _ _ v _ _ value required free later =>
            obtain ⟨hrest, hclash⟩ := (ih hseparate.tail).1 ⟨last, later⟩
            have hboth := fun rule' hrule' =>
              (hblocked rule' hrule' v free).1 (hrest rule' hrule').2
            exact ⟨⟨⟨⟨v, value, required⟩, free⟩,
              fun rule' hrule' => ⟨(hrest rule' hrule').1, (hboth rule' hrule').1⟩⟩,
              fun rule' hrule' => (hboth rule' hrule').2, hclash⟩
      · rintro ⟨⟨⟨⟨v, value, required⟩, free⟩, hrest⟩, hfirst, hclash⟩
        have hlater : ∃ last, Fills c (rule.target.write payload v).1 rest last :=
          (ih hseparate.tail).2 ⟨fun rule' hrule' => ⟨(hrest rule' hrule').1,
            (hblocked rule' hrule' v free).2 ⟨(hrest rule' hrule').2, hfirst rule' hrule'⟩⟩, hclash⟩
        obtain ⟨last, later⟩ := hlater
        exact ⟨last, .cons value required free later⟩

/-- What stands at a place apart from those of the rules stays there. -/
theorem Fills.at?_of_apart {rule : Field} {root v : Json} (hseparate : Separate (rule :: rules))
    (h : Fills c payload rules last) (hv : payload.at? (rule.place root) = some v) :
    last.at? (rule.place root) = some v := by
  induction h with
  | nil payload => exact hv
  | @cons payload last w rule' rest value required free later ih =>
      have hplain : ∀ other ∈ rule :: rest, other.target.appends = false := fun other hother =>
        hseparate.plain other (List.mem_cons.2 ((List.mem_cons.1 hother).imp_right
          (List.mem_cons_of_mem rule')))
      have hapart := List.pairwise_cons.1 hseparate.apart
      refine ih ⟨hplain, List.pairwise_cons.2 ⟨fun other hother =>
        hapart.1 other (List.mem_cons_of_mem rule' hother), hseparate.tail.tail.apart⟩⟩ ?_
      exact Path.at?_write_of_some (hseparate.tail.append_not_mem List.mem_cons_self)
        (hseparate.append_not_mem List.mem_cons_self)
        (hseparate.apart_of_mem List.mem_cons_self).symm hv

/-- In the end every rule has its value at its place. -/
theorem Fills.at?_place {rule : Field} {v : Json} (hseparate : Separate rules)
    (h : Fills c payload rules last) (hrule : rule ∈ rules)
    (hvalue : rule.expression.eval c = .ok v) (root : Json) :
    last.at? (rule.place root) = some v := by
  obtain ⟨earlier, later, rfl⟩ := List.append_of_mem hrule
  -- as if the rule had come first
  have hperm : (earlier ++ rule :: later).Perm (rule :: (earlier ++ later)) := List.perm_middle
  have hseparate' := hseparate.perm hperm
  cases h.perm hperm hseparate with
  | @cons _ _ w _ _ value required free later =>
      rw [hvalue] at value
      cases value
      refine later.at?_of_apart hseparate' ?_
      rw [Field.place, Path.place_eq (hseparate'.append_not_mem List.mem_cons_self) root payload]
      exact Path.at?_place_write (Path.write_eq_true_iff.2 free)

/-! ## Payloads -/

/-- A mapping has a payload if its rules can fill one; without rules it has none to fill. -/
theorem payload_eq_ok_iff {m : Mapping} {payload : Option Json} :
    m.payload c = .ok payload ↔
      ∃ last, Fills c (.obj []) m.fields last ∧
        payload = if m.fields = [] then none else some last := by
  unfold Mapping.payload
  by_cases hnone : m.fields = []
  · rw [hnone]
    constructor
    · intro h
      cases h
      exact ⟨_, .nil _, rfl⟩
    · rintro ⟨last, _, rfl⟩
      rfl
  · rw [if_neg (by simpa using hnone)]
    simp only [if_neg hnone, ← Mapping.fillFields_eq_ok_iff]
    constructor
    · intro h
      obtain ⟨last, hlast, rfl⟩ := exists_of_map_eq_ok h
      exact ⟨last, hlast, rfl⟩
    · rintro ⟨last, hlast, rfl⟩
      rw [hlast]
      rfl

/-- Field rules without appends, none of which writes at or below the place of another, give the
same payload in every order, or none in any order. They give one just if every rule has a value and
a free place, and no two need containers of different kinds at one place; then the value of every
rule stands at its place. -/
theorem payload_perm {m : Mapping} {fields : List Field} (hperm : m.fields.Perm fields)
    (happend : ∀ rule ∈ m.fields, rule.target.appends = false)
    (hapart : m.fields.Pairwise fun rule rule' =>
      Apart rule.target.segments rule'.target.segments) (c : Context) :
    (∀ payload, m.payload c = .ok payload ↔ { m with fields := fields }.payload c = .ok payload) ∧
      ((∃ payload, m.payload c = .ok payload) ↔
        (∀ rule ∈ m.fields,
          (∃ v, rule.Gives c v) ∧ ¬ Blocked rule.target.segments (.obj [])) ∧
        m.fields.Pairwise fun rule rule' => ¬ Clash rule.target.segments rule'.target.segments) ∧
      ∀ payload, m.payload c = .ok (some payload) → ∀ rule ∈ m.fields,
        ∃ v, rule.Gives c v ∧ payload.at? (rule.place (.obj [])) = some v := by
  have hseparate : Separate m.fields := ⟨happend, hapart⟩
  refine ⟨fun payload => ?_, ?_, fun payload h rule hrule => ?_⟩
  · have hnone : m.fields = [] ↔ fields = [] :=
      ⟨fun h => List.nil_perm.1 (h ▸ hperm), fun h => List.perm_nil.1 (h ▸ hperm)⟩
    simp only [payload_eq_ok_iff, hnone]
    exact exists_congr fun last => and_congr_left' ⟨fun h => h.perm hperm hseparate,
      fun h => h.perm hperm.symm (hseparate.perm hperm)⟩
  · rw [← exists_fills_iff hseparate]
    constructor
    · rintro ⟨payload, h⟩
      obtain ⟨last, hfills, _⟩ := payload_eq_ok_iff.1 h
      exact ⟨last, hfills⟩
    · rintro ⟨last, hfills⟩
      exact ⟨_, payload_eq_ok_iff.2 ⟨last, hfills, rfl⟩⟩
  · obtain ⟨last, hfills, hpayload⟩ := payload_eq_ok_iff.1 h
    rw [if_neg (List.ne_nil_of_mem hrule)] at hpayload
    cases hpayload
    obtain ⟨v, hgives⟩ := (((exists_fills_iff hseparate).1 ⟨payload, hfills⟩).1 rule hrule).1
    exact ⟨v, hgives, hfills.at?_place hseparate hrule hgives.1 _⟩

/-- The rules of a basket whose lines share an array. -/
def basketRules : MappingDocument where
  fields := [⟨"basket.lines[2].sku", "model.last", false⟩, ⟨"basket.lines[0]", "model.first", true⟩,
    ⟨"basket.lines[2].count", "2", false⟩, ⟨"basket.note", "config.note", false⟩]

/-- The compiled rules of the basket. -/
def basketMapping : Mapping := (basketRules.compile "shop/basket").toOption.get (by decide +kernel)

/-- Two articles and no note. -/
def basketContext : Context where
  model := .obj [("first", .str "tea"), ("last", .str "mug")]
  config := .obj []

/-- The payload for the basket, with nothing in its second line. -/
def basketPayload : Json :=
  .obj [("basket", .obj [
    ("lines", .arr [.str "tea", .null, .obj [("count", .int 2), ("sku", .str "mug")]]),
    ("note", .null)])]

/-- Whether the lines are filled from the first or from the last makes no difference. -/
theorem payload_perm_basket :
    basketRules.compile "shop/basket" = .ok basketMapping ∧
      basketMapping.payload basketContext = .ok (some basketPayload) ∧
      { basketMapping with fields := basketMapping.fields.reverse }.payload basketContext =
        .ok (some basketPayload) := by
  have hpayload : basketMapping.payload basketContext = .ok (some basketPayload) :=
    eq_ok_of_toOption (by decide +kernel)
  have hperm : basketMapping.fields.Perm basketMapping.fields.reverse :=
    (List.reverse_perm _).symm
  exact ⟨eq_ok_get _, hpayload, ((payload_perm hperm (by decide +kernel) (by decide +kernel)
    basketContext).1 _).1 hpayload⟩

end ApiGateway.Catalog
