import ApiGateway.Proofs.Catalog.Payloads
import ApiGateway.Proofs.Headers
import ApiGateway.Proofs.Keyed

/-! # Headers hold what their rules give

`Header.Gives` says which text a header rule gives in a context, and a rule may give none. Rules
with names that differ up to case fill headers that are apart and hold just what the rules give
(`apart_fillHeaders`).
-/

set_option autoImplicit false

namespace ApiGateway.Catalog

open Expression (Context)

/-- The text that a rule gives to its header: that of its value, if the value says something. -/
inductive Header.Gives (c : Context) : Header → String → Prop where
  | fixed {name text : String} {required : Bool} (meaningful : Text.isAllBlank text = false) :
      Gives c ⟨name, .fixed text, required⟩ text
  | computed {name : String} {e : Expression} {v : Json} {required : Bool}
      (value : e.eval c = .ok v) (meaningful : SaysSomething v) :
      Gives c ⟨name, .computed e, required⟩ v.plain

namespace Mapping

variable {c : Context}

theorem gives_iff {rule : Header} {text : String} :
    rule.Gives c text ↔ ∃ v, headerValue c ("headers." ++ rule.name) rule.source = .ok v ∧
      v.isMeaningful = true ∧ v.plain = text := by
  constructor
  · intro h
    cases h with
    | fixed meaningful => exact ⟨_, rfl, by simpa [Json.isMeaningful] using meaningful, rfl⟩
    | computed value meaningful =>
        refine ⟨_, ?_, saysSomething_iff.1 meaningful, rfl⟩
        rw [headerValue, value]
        rfl
  · rintro ⟨v, hv, hsays, rfl⟩
    obtain ⟨name, source, required⟩ := rule
    cases source with
    | fixed text =>
        cases hv
        exact .fixed (by simpa [Json.isMeaningful] using hsays)
    | computed e =>
        rw [headerValue] at hv
        cases he : e.eval c with
        | error cause =>
            rw [he] at hv
            cases hv
        | ok w =>
            rw [he] at hv
            cases hv
            exact .computed he (saysSomething_iff.2 hsays)

/-- The first rule puts its text into the headers, or gives none. -/
theorem cases_of_fillHeaders {rule : Header} {rules : List Header} {headers last : Headers}
    (h : fillHeaders c headers (rule :: rules) = .ok last) :
    (∃ text, (∀ other, rule.Gives c other ↔ other = text) ∧
        fillHeaders c (Keyed.put rule.name text headers) rules = .ok last) ∨
      ((∀ text, ¬ rule.Gives c text) ∧ fillHeaders c headers rules = .ok last) := by
  rw [fillHeaders] at h
  obtain ⟨v, hv, h⟩ := bind_eq_ok_iff.1 h
  have hgives : ∀ text, rule.Gives c text ↔ v.isMeaningful = true ∧ v.plain = text := by
    intro text
    rw [gives_iff, hv]
    simp
  split at h
  · rename_i hsays
    exact Or.inl ⟨v.plain, fun other => by simp [hgives, hsays, eq_comm], h⟩
  · rename_i hsays
    split at h
    · cases h
    · exact Or.inr ⟨fun text hgiven => hsays ((hgives text).1 hgiven).1, h⟩

/-- The names of headers and, behind them, of rules, without their case. -/
def lowerNames (headers : Headers) (rules : List Header) : List String :=
  headers.map (fun h => Text.asciiLower h.1) ++ rules.map fun rule => Text.asciiLower rule.name

theorem lowerNames_cons (headers : Headers) (rule : Header) (rules : List Header) (text : String) :
    lowerNames headers (rule :: rules) = lowerNames (headers ++ [(rule.name, text)]) rules := by
  simp [lowerNames]

/-- A rule with a name of its own puts its header behind the others. -/
theorem put_of_nodup {headers : Headers} {rule : Header} {rules : List Header}
    (hnames : (lowerNames headers (rule :: rules)).Nodup) (text : String) :
    Keyed.put rule.name text headers = headers ++ [(rule.name, text)] := by
  refine Keyed.put_of_not_mem text fun hmem => ?_
  obtain ⟨h, hh, hname⟩ := List.mem_map.1 hmem
  have hlower : Text.asciiLower h.1 = Text.asciiLower rule.name := congrArg Text.asciiLower hname
  exact (List.nodup_append.1 hnames).2.2 _ (List.mem_map_of_mem hh) _ List.mem_cons_self hlower

/-- Rules whose names differ fill headers that are apart, with what the rules give and nothing
else. -/
theorem apart_fillHeaders {rules : List Header} {headers last : Headers}
    (hnames : (lowerNames headers rules).Nodup) (h : fillHeaders c headers rules = .ok last) :
    last.Apart ∧ ∀ q, q ∈ last ↔
      q ∈ headers ∨ ∃ rule ∈ rules, rule.name = q.1 ∧ rule.Gives c q.2 := by
  induction rules generalizing headers with
  | nil =>
      cases h
      rw [lowerNames, List.map_nil, List.append_nil] at hnames
      exact ⟨Headers.apart_iff_nodup.2 hnames, by simp⟩
  | cons rule rules ih =>
      rcases cases_of_fillHeaders h with ⟨text, hgives, h⟩ | ⟨hnone, h⟩
      · -- the header comes behind the others, and its name with it from the rules to the headers
        rw [put_of_nodup hnames] at h
        rw [lowerNames_cons _ _ _ text] at hnames
        obtain ⟨hapart, hmem⟩ := ih hnames h
        refine ⟨hapart, fun q => ?_⟩
        have hfirst : q = (rule.name, text) ↔ rule.name = q.1 ∧ rule.Gives c q.2 := by
          rw [hgives, Prod.ext_iff, eq_comm (a := rule.name)]
        simp only [hmem, List.mem_append, List.mem_cons, List.not_mem_nil, or_false, hfirst,
          or_assoc, exists_eq_or_imp]
      · -- the rule has nothing to say
        have hfewer : (lowerNames headers rules).Nodup :=
          hnames.sublist ((List.sublist_cons_self _ _).append_left _)
        obtain ⟨hapart, hmem⟩ := ih hfewer h
        refine ⟨hapart, fun q => ?_⟩
        simp [hmem, hnone]

end Mapping

end ApiGateway.Catalog
