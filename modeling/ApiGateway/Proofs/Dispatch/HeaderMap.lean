import ApiGateway.Proofs.Catalog.Acceptance
import ApiGateway.Proofs.Catalog.Headers
import ApiGateway.Proofs.Dispatch.Sending

/-! # The headers of a request are a map

Three rules keep the names of headers apart: validation refuses two rules with one name, building
puts each header under its own name, and the header of the strategy takes the place of all that have
its name. The first ignores case, the second does not, the third does again. `apart_requests` says
what they come to: the header of the strategy with its value, beside it what the rules of other
names give, and nothing else.
-/

set_option autoImplicit false

namespace ApiGateway.Dispatch

open Catalog (Provider Endpoint)
open Catalog.Mapping (fillHeaders lowerNames apart_fillHeaders)

variable {document : CatalogDocument} {g : Gateway} {p : Provider} {e : Endpoint} {id : RecordId}
  {now : Time.Instant} {script : Script} {cancel : Option Nat} {call : Call} {model : Json}
  {b : Built} {s : Seal} {out : OutboundRequest}

/-- The headers that a dispatch builds are apart, and are what the rules give. -/
theorem apart_built (hcompile : document.compile = .ok g.catalog)
    (huse : g.catalog.Usable call.provider call.endpoint p e) (hmodel : call.basis = .model model)
    (hb : built g p e call = .ok b) :
    b.headers.Apart ∧ ∀ q, q ∈ b.headers ↔
      ∃ rule ∈ e.mapping.headers, rule.name = q.1 ∧ rule.Gives (contextFor g p e call) q.2 := by
  have hnodup : (lowerNames [] e.mapping.headers).Nodup :=
    Catalog.nodup_headers_of_endpoint hcompile huse.provider huse.endpoint
  have hfill : fillHeaders (contextFor g p e call) [] e.mapping.headers = .ok b.headers :=
    (parts_of_built hmodel hb).2.1
  obtain ⟨hapart, hmem⟩ := apart_fillHeaders hnodup hfill
  refine ⟨hapart, fun q => ?_⟩
  rw [hmem]
  simp

/-- The outbound headers of a dispatch of a model form a map whose names ignore case: the header of
the strategy has the value that the strategy makes for the body that is sent, each rule whose value
says something has one header with its text unless the strategy sets one of the same name, and there
is no other header. -/
theorem apart_requests (hcompile : document.compile = .ok g.catalog)
    (huse : g.catalog.Usable call.provider call.endpoint p e) (hmodel : call.basis = .model model)
    (hsent : out ∈ (runOn g p e id now script cancel call).requests) :
    let c := contextFor g p e call
    out.headers.Apart ∧
    (∀ name ∈ p.auth.header?, ∃ value,
      p.auth.Seals (credentialsFor g p) e.mapping.signatureFormula c out.body
          (.header name value) ∧
        out.headers.named name = [(name, value)]) ∧
    (∀ rule ∈ e.mapping.headers, ∀ text, rule.Gives c text →
      (∀ name ∈ p.auth.header?, Text.equalIgnoringCase rule.name name = false) →
        out.headers.named rule.name = [(rule.name, text)]) ∧
    ∀ h ∈ out.headers, p.auth.header? = some h.1 ∨
      ∃ rule ∈ e.mapping.headers, rule.name = h.1 ∧ rule.Gives c h.2 := by
  intro c
  obtain ⟨b, s, hsends⟩ := sends_of_mem_requests hsent
  obtain ⟨hapart, hmem⟩ := apart_built hcompile huse hmodel hsends.built
  -- before the strategy has set its header, each rule that gives a text has one header
  have hgiven : ∀ rule ∈ e.mapping.headers, ∀ text, rule.Gives c text →
      b.headers.named rule.name = [(rule.name, text)] := by
    intro rule hrule text hgives
    exact hapart.named_eq ((hmem _).2 ⟨rule, hrule, rfl, hgives⟩)
  cases hname : p.auth.header? with
  | none =>
      -- the headers go out as they were built
      rw [hsends.headers_eq hname]
      refine ⟨hapart, nofun, fun rule hrule text hgives _ => ?_, fun h hh => ?_⟩
      · exact hgiven rule hrule text hgives
      · exact Or.inr ((hmem h).1 hh)
  | some name =>
      -- the header of the strategy takes the place of all that have its name
      obtain ⟨value, rfl, hheaders, hbody⟩ := hsends.header hname
      rw [hheaders, hbody]
      refine ⟨hapart.set name value, ?_, fun rule hrule text hgives hother => ?_, fun h hh => ?_⟩
      · rintro _ ⟨⟩
        exact ⟨value, hsends.sealed, Headers.named_set _ _ _⟩
      · rw [Headers.named_set_of_ne (hother name rfl)]
        exact hgiven rule hrule text hgives
      · rcases Headers.mem_set.1 hh with ⟨hh, _⟩ | rfl
        · exact Or.inr ((hmem h).1 hh)
        · exact Or.inl rfl

/-! ## An order with four header rules -/

/-- A rule with the name of the strategy's header, a fixed one, one whose value says nothing, and
one with a value of the model. -/
def keyedShop : CatalogDocument :=
  shop (.apiKey "X-Key" "key" (some "Key ")) "/orders"
    [{ name := "x-key", value := some "web" }, { name := "X-Client", value := some "web" },
      { name := "X-Note", value := some " " },
      { name := "X-Amount", expression := some "model.amount" }] none

/-- The catalog of the shop with four header rules. -/
def keyedCatalog : Catalog := keyedShop.compile.toOption.get (by decide +kernel)

/-- The endpoint with four header rules. -/
def keyedEndpoint : Provider × Endpoint :=
  (keyedCatalog.dispatchable "shop" "order").toOption.get (by decide +kernel)

/-- The source of the rule is this fixed text. -/
def fixes (text : String) : Catalog.HeaderSource → Bool
  | .fixed other => other == text
  | .computed _ => false

/-- The second rule gives its text. -/
theorem exists_gives_client :
    ∃ rule ∈ keyedEndpoint.2.mapping.headers, rule.name = "X-Client" ∧
      ∀ c, rule.Gives c "web" := by
  have hclient : keyedEndpoint.2.mapping.headers.any
      (fun rule => rule.name == "X-Client" && fixes "web" rule.source) = true := by
    decide +kernel
  obtain ⟨⟨name, source, required⟩, hrule, h⟩ := List.any_eq_true.1 hclient
  obtain ⟨hname, hsource⟩ := Bool.and_eq_true_iff.1 h
  cases source with
  | fixed text =>
      obtain rfl : text = "web" := eq_of_beq hsource
      exact ⟨_, hrule, eq_of_beq hname, fun c => .fixed (by decide)⟩
  | computed e => cases hsource

/-- Two headers were mapped to the order, and the one of the strategy has come in place of a third;
the fourth rule had nothing to say. -/
theorem apart_requests_order :
    let g := shopGateway keyedCatalog
    let out := orderRequest "http://[::1]/orders"
      [("X-Client", "web"), ("X-Amount", "3"), ("X-Key", "Key k-17")]
    keyedShop.compile = .ok g.catalog ∧
      g.catalog.Usable orderCall.provider orderCall.endpoint keyedEndpoint.1 keyedEndpoint.2 ∧
      out ∈ (runOn g keyedEndpoint.1 keyedEndpoint.2 firstId ⟨0, 0⟩ accepting none
        orderCall).requests ∧
      out.headers.Apart ∧ out.headers.named "X-Key" = [("X-Key", "Key k-17")] ∧
      out.headers.named "X-Client" = [("X-Client", "web")] := by
  intro g out
  have hcompile : keyedShop.compile = .ok g.catalog := eq_ok_get _
  have huse :
      g.catalog.Usable orderCall.provider orderCall.endpoint keyedEndpoint.1 keyedEndpoint.2 :=
    Catalog.dispatchable_eq_ok_iff.1 (eq_ok_get _)
  have hsent : out ∈ (runOn g keyedEndpoint.1 keyedEndpoint.2 firstId ⟨0, 0⟩ accepting none
      orderCall).requests := by
    decide +kernel
  obtain ⟨hapart, hkey, hrules, _⟩ := apart_requests hcompile huse rfl hsent
  have hheader : keyedEndpoint.1.auth.header? = some "X-Key" := by decide +kernel
  refine ⟨hcompile, huse, hsent, hapart, ?_, ?_⟩
  · obtain ⟨value, _, hnamed⟩ := hkey "X-Key" hheader
    have hvalue : ("X-Key", value) ∈ out.headers :=
      (List.mem_filter.1 (hnamed ▸ List.mem_singleton_self _)).1
    rw [hnamed]
    simpa [out, orderRequest] using hvalue
  · obtain ⟨rule, hrule, hname, hgives⟩ := exists_gives_client
    rw [← hname]
    refine hrules rule hrule "web" (hgives _) ?_
    rw [hheader, hname]
    rintro _ ⟨⟩
    decide

end ApiGateway.Dispatch
