import ApiGateway.Catalog.Mapping
import ApiGateway.Proofs.Failing
import ApiGateway.Proofs.Path.Writing

/-! # Payloads keep what their rules wrote

`Fills` says how field rules put their values into a payload, and `Fault` what is wrong with the
first rule that cannot. `payload_keeps` is about payloads as a whole: every write lets the payload
grow, so the value of every rule is still at its place in the end; and an error is that of the first
rule with a fault.
-/

set_option autoImplicit false

namespace ApiGateway.Catalog

open Expression (Context)
open Json (Step)
open ApiGateway.Path (Blocked)

/-- The place in a payload that a rule writes to. -/
def Field.place (rule : Field) (payload : Json) : List Step :=
  Path.place rule.target.segments payload

/-- Neither null, nor a blank string, nor an empty array or object. -/
structure SaysSomething (v : Json) : Prop where
  notNull : v ≠ .null
  notBlank : ∀ s, v = .str s → Text.isAllBlank s = false
  notEmptyArray : v ≠ .arr []
  notEmptyObject : v ≠ .obj []

theorem saysSomething_iff {v : Json} : SaysSomething v ↔ v.isMeaningful = true := by
  constructor
  · intro h
    cases v with
    | null => exact absurd rfl h.notNull
    | str s => simpa [Json.isMeaningful] using h.notBlank s rfl
    | arr items =>
        cases items with
        | nil => exact absurd rfl h.notEmptyArray
        | cons item items => rfl
    | obj members =>
        cases members with
        | nil => exact absurd rfl h.notEmptyObject
        | cons q members => rfl
    | _ => rfl
  · intro h
    constructor
    · rintro rfl
      cases h
    · rintro s rfl
      simpa [Json.isMeaningful] using h
    · rintro rfl
      cases h
    · rintro rfl
      cases h

/-! ## Rules one after another -/

/-- Rules put their values into a payload, which ends as `last`. -/
inductive Fills (c : Context) : (payload : Json) → List Field → (last : Json) → Prop where
  | nil (payload : Json) : Fills c payload [] payload
  | cons {payload last v : Json} {rule : Field} {rest : List Field}
      (value : rule.expression.eval c = .ok v)
      (required : rule.required = true → SaysSomething v)
      (free : ¬ Blocked rule.target.segments payload)
      (later : Fills c (rule.target.write payload v).1 rest last) :
      Fills c payload (rule :: rest) last

/-- What is wrong with a rule that meets a payload, and the error for it. -/
inductive Fault (c : Context) (payload : Json) (rule : Field) : ResolveError → Prop where
  | expression {cause : Expression.RuntimeError} (value : rule.expression.eval c = .error cause) :
      Fault c payload rule (.expression rule.target.source cause)
  | missing {v : Json} (value : rule.expression.eval c = .ok v) (required : rule.required = true)
      (nothing : ¬ SaysSomething v) :
      Fault c payload rule (.mapping rule.target.source ResolveError.valueMissing)
  | conflict {v : Json} (value : rule.expression.eval c = .ok v)
      (required : rule.required = true → SaysSomething v)
      (blocked : Blocked rule.target.segments payload) :
      Fault c payload rule (.mapping rule.target.source ResolveError.pathConflict)

variable {c : Context}

/-- The error for a fault names the target of its rule. -/
theorem Fault.field_eq {payload : Json} {rule : Field} {e : ResolveError}
    (h : Fault c payload rule e) : e.field = rule.target.source := by
  cases h <;> rfl

/-- A rule has a fault, or it has a value and nothing is in its way. -/
theorem fault_or_free (c : Context) (payload : Json) (rule : Field) :
    (∃ e, Fault c payload rule e) ∨
      ∃ v, rule.expression.eval c = .ok v ∧ (rule.required = true → SaysSomething v) ∧
        ¬ Blocked rule.target.segments payload := by
  cases hvalue : rule.expression.eval c with
  | error cause => exact Or.inl ⟨_, .expression hvalue⟩
  | ok v =>
      by_cases hrequired : rule.required = true → SaysSomething v
      · by_cases hblocked : Blocked rule.target.segments payload
        · exact Or.inl ⟨_, .conflict hvalue hrequired hblocked⟩
        · exact Or.inr ⟨v, rfl, hrequired, hblocked⟩
      · rw [Classical.not_imp] at hrequired
        exact Or.inl ⟨_, .missing hvalue hrequired.1 hrequired.2⟩

namespace Mapping

/-- Whether a required value is missing. -/
theorem missing_eq_false_iff {rule : Field} {v : Json} :
    (rule.required && !v.isMeaningful) = false ↔ (rule.required = true → SaysSomething v) := by
  rw [saysSomething_iff]
  cases rule.required <;> simp

/-- A pass over rules ends at a rule with a fault. -/
theorem fillFields_of_fault {payload : Json} {rule : Field} {e : ResolveError}
    (h : Fault c payload rule e) (rest : List Field) :
    fillFields c payload (rule :: rest) = .error e := by
  rw [fillFields]
  cases h with
  | expression hvalue => simp only [hvalue]
  | @missing v hvalue hrequired hnothing =>
      have hmissing : (rule.required && !v.isMeaningful) = true := by
        rw [← Bool.not_eq_false, missing_eq_false_iff]
        exact fun h => hnothing (h hrequired)
      simp only [hvalue, hmissing, if_true]
  | @conflict v hvalue hrequired hblocked =>
      have hwritten : (rule.target.write payload v).2 = false := Path.write_eq_false_iff.2 hblocked
      simp only [hvalue, missing_eq_false_iff.2 hrequired, hwritten, Bool.false_eq_true, if_false]

/-- It goes on behind a rule that has put its value into the payload. -/
theorem fillFields_of_free {payload v : Json} {rule : Field}
    (hvalue : rule.expression.eval c = .ok v) (hrequired : rule.required = true → SaysSomething v)
    (hfree : ¬ Blocked rule.target.segments payload) (rest : List Field) :
    fillFields c payload (rule :: rest) =
      fillFields c (rule.target.write payload v).1 rest := by
  have hwritten : (rule.target.write payload v).2 = true := Path.write_eq_true_iff.2 hfree
  rw [fillFields]
  simp only [hvalue, missing_eq_false_iff.2 hrequired, hwritten, Bool.false_eq_true, if_false,
    if_true]

/-- Behind rules that have filled the payload it goes on with what they left. -/
theorem fillFields_append {payload before : Json} {earlier : List Field}
    (h : Fills c payload earlier before) (later : List Field) :
    fillFields c payload (earlier ++ later) = fillFields c before later := by
  induction h with
  | nil payload => rfl
  | cons hvalue hrequired hfree _ ih =>
      rw [List.cons_append, fillFields_of_free hvalue hrequired hfree, ih]

/-- A pass over rules fills the payload, or ends at the first rule with a fault. -/
theorem fills_or_fault (c : Context) (payload : Json) (rules : List Field) :
    (∃ last, Fills c payload rules last) ∨
      ∃ e earlier rule later before, rules = earlier ++ rule :: later ∧
        Fills c payload earlier before ∧ Fault c before rule e := by
  induction rules generalizing payload with
  | nil => exact Or.inl ⟨payload, .nil payload⟩
  | cons rule rest ih =>
      rcases fault_or_free c payload rule with ⟨e, hfault⟩ | ⟨v, hvalue, hrequired, hfree⟩
      · exact Or.inr ⟨e, [], rule, rest, payload, rfl, .nil payload, hfault⟩
      · rcases ih (rule.target.write payload v).1 with
          ⟨last, hfills⟩ | ⟨e, earlier, rule', later, before, rfl, hfills, hfault⟩
        · exact Or.inl ⟨last, .cons hvalue hrequired hfree hfills⟩
        · exact Or.inr ⟨e, rule :: earlier, rule', later, before, rfl,
            .cons hvalue hrequired hfree hfills, hfault⟩

theorem fillFields_eq_ok_iff {payload last : Json} {rules : List Field} :
    fillFields c payload rules = .ok last ↔ Fills c payload rules last := by
  have hok : ∀ {last}, Fills c payload rules last → fillFields c payload rules = .ok last := by
    intro last h
    have happend := fillFields_append h []
    rw [List.append_nil] at happend
    exact happend
  constructor
  · intro h
    rcases fills_or_fault c payload rules with
      ⟨last', hfills⟩ | ⟨e, earlier, rule, later, before, rfl, hfills, hfault⟩
    · rw [hok hfills] at h
      cases h
      exact hfills
    · rw [fillFields_append hfills, fillFields_of_fault hfault] at h
      cases h
  · exact hok

theorem fillFields_eq_error_iff {payload : Json} {rules : List Field} {e : ResolveError} :
    fillFields c payload rules = .error e ↔
      ∃ earlier rule later before, rules = earlier ++ rule :: later ∧
        Fills c payload earlier before ∧ Fault c before rule e := by
  constructor
  · intro h
    rcases fills_or_fault c payload rules with
      ⟨last, hfills⟩ | ⟨e', earlier, rule, later, before, rfl, hfills, hfault⟩
    · rw [fillFields_eq_ok_iff.2 hfills] at h
      cases h
    · rw [fillFields_append hfills, fillFields_of_fault hfault] at h
      cases h
      exact ⟨earlier, rule, later, before, rfl, hfills, hfault⟩
  · rintro ⟨earlier, rule, later, before, rfl, hfills, hfault⟩
    rw [fillFields_append hfills, fillFields_of_fault hfault]

end Mapping

/-! ## What stays of a value -/

/-- The payload only grows. -/
theorem Fills.growsTo {payload last : Json} {rules : List Field}
    (h : Fills c payload rules last) : payload.GrowsTo last := by
  induction h with
  | nil payload => exact .refl payload
  | cons _ _ _ _ ih => exact .trans (Path.growsTo_write _ _ _) ih

/-- The rules behind some rules start from what these left. -/
theorem Fills.split {payload last : Json} {earlier later : List Field}
    (h : Fills c payload (earlier ++ later) last) :
    ∃ before, Fills c payload earlier before ∧ Fills c before later last := by
  induction earlier generalizing payload with
  | nil => exact ⟨payload, .nil payload, h⟩
  | cons rule earlier ih =>
      cases h with
      | cons hvalue hrequired hfree hlater =>
          obtain ⟨before, hearlier, hrest⟩ := ih hlater
          exact ⟨before, .cons hvalue hrequired hfree hearlier, hrest⟩

/-- The value of a rule that met the payload `before` is still in the payload `last`: at its place
stands what it has grown to, and every scalar in it is where it was. -/
structure Kept (rule : Field) (v before last : Json) : Prop where
  grown : ∃ w, last.at? (rule.place before) = some w ∧ v.GrowsTo w
  scalars : ∀ inner s, v.at? inner = some s → s.IsScalar →
    last.at? (rule.place before ++ inner) = some s

/-- What is written stays through all rules behind it. -/
theorem Fills.kept {before last v : Json} {rule : Field} {later : List Field}
    (hfree : ¬ Blocked rule.target.segments before)
    (h : Fills c (rule.target.write before v).1 later last) : Kept rule v before last := by
  have hwritten : (rule.target.write before v).1.at? (rule.place before) = some v :=
    Path.at?_place_write (Path.write_eq_true_iff.2 hfree)
  obtain ⟨w, hw, hgrows⟩ := h.growsTo.at? hwritten
  refine ⟨⟨w, hw, hgrows⟩, fun inner s hs hscalar => ?_⟩
  obtain ⟨s', hs', hgrows'⟩ := hgrows.at? hs
  rw [Json.at?_append, hw, Option.bind_some, hs', hgrows'.eq_of_isScalar hscalar]

/-- A payload keeps the value of every one of its rules at the place that the rule wrote, grown at
most, and the value of a required rule says something. Where there is no payload, the error is that
of the first rule with a fault. -/
theorem payload_keeps (m : Mapping) (c : Context) :
    (∀ payload, m.payload c = .ok (some payload) →
      ∀ earlier rule later, m.fields = earlier ++ rule :: later →
        ∃ before v, Mapping.fillFields c (.obj []) earlier = .ok before ∧
          rule.expression.eval c = .ok v ∧ Kept rule v before payload ∧
          (rule.required = true → SaysSomething v)) ∧
    ∀ e, m.payload c = .error e ↔
      ∃ earlier rule later before, m.fields = earlier ++ rule :: later ∧
        Mapping.fillFields c (.obj []) earlier = .ok before ∧ Fault c before rule e ∧
        e.field = rule.target.source := by
  have hpayload : m.fields ≠ [] →
      m.payload c = (Mapping.fillFields c (.obj []) m.fields).map some := by
    intro hne
    unfold Mapping.payload
    rw [if_neg (by simpa using hne)]
  constructor
  · intro payload h earlier rule later hsplit
    rw [hpayload (by simp [hsplit])] at h
    obtain ⟨last, hlast, hsome⟩ := exists_of_map_eq_ok h
    obtain rfl : last = payload := Option.some.inj hsome
    rw [hsplit, Mapping.fillFields_eq_ok_iff] at hlast
    obtain ⟨before, hearlier, hrest⟩ := hlast.split
    cases hrest with
    | @cons _ _ v _ _ hvalue hrequired hfree hlater =>
        exact ⟨before, v, Mapping.fillFields_eq_ok_iff.2 hearlier, hvalue, hlater.kept hfree,
          hrequired⟩
  · intro e
    constructor
    · intro h
      by_cases hne : m.fields = []
      · unfold Mapping.payload at h
        rw [hne] at h
        cases h
      · rw [hpayload hne] at h
        have herror : Mapping.fillFields c (.obj []) m.fields = .error e := by
          cases hfill : Mapping.fillFields c (.obj []) m.fields with
          | ok last =>
              rw [hfill] at h
              cases h
          | error e' =>
              rw [hfill] at h
              cases h
              rfl
        obtain ⟨earlier, rule, later, before, hsplit, hfills, hfault⟩ :=
          Mapping.fillFields_eq_error_iff.1 herror
        exact ⟨earlier, rule, later, before, hsplit, Mapping.fillFields_eq_ok_iff.2 hfills, hfault,
          hfault.field_eq⟩
    · rintro ⟨earlier, rule, later, before, hsplit, hearlier, hfault, -⟩
      rw [hpayload (by simp [hsplit]), Mapping.fillFields_eq_error_iff.2
        ⟨earlier, rule, later, before, hsplit, Mapping.fillFields_eq_ok_iff.1 hearlier, hfault⟩]
      rfl

/-! ## A customer who signs up -/

/-- The whole customer, whose name may still be missing. -/
def customerRule : Field where
  target := ⟨"customer", [.key "customer"]⟩
  expression := ⟨"model.customer", .member (.root .model) "customer"⟩
  required := true

/-- The name of the customer. -/
def nameRule : Field where
  target := ⟨"customer.name", [.key "customer", .key "name"]⟩
  expression := ⟨"model.name", .member (.root .model) "name"⟩
  required := true

/-- A further label. -/
def labelRule : Field where
  target := ⟨"labels[]", [.key "labels", .append]⟩
  expression := ⟨"'new'", .literal (.str "new")⟩
  required := false

/-- A mapping of field rules alone. -/
def mappingOf (fields : List Field) : Mapping := ⟨fields, [], none, []⟩

/-- The customer and the name apart. -/
def signupContext : Context where
  model := .obj [("customer", .obj [("name", .null), ("tier", .int 2)]), ("name", .str "Ann")]
  config := .obj []

/-- The payload for a customer with two labels. -/
def signupPayload : Json :=
  .obj [("customer", .obj [("name", .str "Ann"), ("tier", .int 2)]),
    ("labels", .arr [.str "new", .str "new"])]

/-- The customer is kept, and gets a name where there was none; the first of the two labels is the
first item. Behind the name the customer finds its place taken. -/
theorem payload_keeps_signup :
    (mappingOf [customerRule, labelRule, nameRule, labelRule]).payload signupContext =
        .ok (some signupPayload) ∧
      Kept customerRule (.obj [("name", .null), ("tier", .int 2)]) (.obj []) signupPayload ∧
      (∃ before, labelRule.place before = [.member "labels", .item 0] ∧
        Kept labelRule (.str "new") before signupPayload) ∧
      (mappingOf [nameRule, customerRule]).payload signupContext =
        .error (.mapping "customer" ResolveError.pathConflict) := by
  have hpayload : (mappingOf [customerRule, labelRule, nameRule, labelRule]).payload
      signupContext = .ok (some signupPayload) := rfl
  have hkept := (payload_keeps _ _).1 _ hpayload
  refine ⟨hpayload, ?_, ?_, ?_⟩
  · obtain ⟨before, v, hbefore, hv, hcustomer, -⟩ :=
      hkept [] customerRule [labelRule, nameRule, labelRule] rfl
    cases hbefore
    cases hv
    exact hcustomer
  · obtain ⟨before, v, hbefore, hv, hlabel, -⟩ :=
      hkept [customerRule] labelRule [nameRule, labelRule] rfl
    cases hbefore
    cases hv
    exact ⟨_, rfl, hlabel⟩
  · refine ((payload_keeps _ _).2 _).2 ⟨[nameRule], customerRule, [], _, rfl, rfl, ?_, rfl⟩
    exact .conflict rfl (fun _ => saysSomething_iff.2 rfl) (Or.inr nofun)

end ApiGateway.Catalog
