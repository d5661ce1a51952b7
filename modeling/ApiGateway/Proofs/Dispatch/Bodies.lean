import ApiGateway.Proofs.Dispatch.Sending
import ApiGateway.Proofs.Path.Writing

/-! # Where the payload goes

The payload of a dispatch is sent as the query or as the body, as the method asks, and only a
signature with a place in the body is added to it (`carries_payload`). A request that is sent with a
query has no body for the signature to be added to, so that the signature becomes a body of its own;
the trace, which has the payload in the place of the body, then does not show what was sent
(`unshown_signature`).
-/

set_option autoImplicit false

namespace ApiGateway

open Catalog (AuthStrategy)

/-- What becomes of a body when a strategy signs a request: only a formula with a place in the body
changes it, and puts its value there. -/
inductive Catalog.AuthStrategy.Carries (formula : Option Expression) (c : Expression.Context)
    (body : Option Json) : AuthStrategy → Option Json → Prop where
  | unchanged {strategy : AuthStrategy} (elsewhere : ∀ path, strategy ≠ .formula (.body path)) :
      Carries formula c body strategy body
  | signed {path : String} {t : Path.Target} {f : Expression} {v signedBody : Json}
      (parsed : Path.Target.parse path = .ok t) (given : formula = some f)
      (value : f.eval c = .ok v) (not_null : v ≠ .null)
      (puts : Path.Puts t.segments (body.getD (.obj [])) v signedBody) :
      Carries formula c body (.formula (.body path)) (some signedBody)

/-- A sealed request carries the body that it had, or the one with the signature. -/
theorem Catalog.AuthStrategy.Seals.carries {strategy : AuthStrategy} {credentials : Credentials}
    {formula : Option Expression} {c : Expression.Context} {d : Draft} {s : Seal}
    (h : strategy.Seals credentials formula c d.body s) :
    strategy.Carries formula c d.body (d.place s).body := by
  cases h with
  | inBody parsed given value not_null written =>
      exact .signed parsed given value not_null (Path.puts_write written)
  | _ => exact .unchanged nofun

theorem Catalog.AuthStrategy.Carries.eq_none_iff {strategy : AuthStrategy}
    {formula : Option Expression} {c : Expression.Context} {body : Option Json}
    (h : strategy.Carries formula c none body) :
    body = none ↔ ∀ path, strategy ≠ .formula (.body path) := by
  cases h with
  | unchanged elsewhere => exact iff_of_true rfl elsewhere
  | signed => exact iff_of_false nofun fun h => h _ rfl

/-- A signature with a place in the body stands there. -/
theorem Catalog.AuthStrategy.Carries.exists_puts {strategy : AuthStrategy}
    {formula : Option Expression} {c : Expression.Context} {body body' : Option Json}
    {path : String} (h : strategy.Carries formula c body body')
    (hstrategy : strategy = .formula (.body path)) :
    ∃ t f v signedBody, Path.Target.parse path = .ok t ∧ formula = some f ∧ f.eval c = .ok v ∧
      v ≠ .null ∧ body' = some signedBody ∧
      Path.Puts t.segments (body.getD (.obj [])) v signedBody := by
  cases h with
  | unchanged elsewhere => exact absurd hstrategy (elsewhere path)
  | signed parsed given value not_null puts =>
      cases hstrategy
      exact ⟨_, _, _, _, parsed, given, value, not_null, rfl, puts⟩

namespace Dispatch

open Catalog (Provider Endpoint)

/-- The payload that is built from a basis: that of a mapping, which is missing just if there are no
field rules, or that of a record. -/
inductive Builds (e : Endpoint) (c : Expression.Context) : Basis → Option Json → Prop where
  | mapped {model : Json} {payload : Option Json} (built : e.mapping.payload c = .ok payload)
      (missing : payload = none ↔ e.mapping.fields = []) : Builds e c (.model model) payload
  | kept {payload : Json} {path : Option String} {headers : Headers} :
      Builds e c (.payload payload path headers) (some payload)

theorem payload_eq_none_iff {m : Catalog.Mapping} {c : Expression.Context} {payload : Option Json}
    (h : m.payload c = .ok payload) : payload = none ↔ m.fields = [] := by
  unfold Catalog.Mapping.payload at h
  cases hfields : m.fields with
  | nil =>
      rw [hfields] at h
      cases h
      exact iff_of_true rfl rfl
  | cons rule rules =>
      rw [hfields] at h
      obtain ⟨filled, _, rfl⟩ := exists_of_map_eq_ok h
      exact iff_of_false nofun nofun

variable {g : Gateway} {p : Provider} {e : Endpoint} {id : RecordId} {now : Time.Instant}
  {script : Script} {cancel : Option Nat} {call : Call} {b : Built} {out : OutboundRequest}

theorem builds_of_built (hb : built g p e call = .ok b) :
    Builds e (contextFor g p e call) call.basis b.payload := by
  cases hbasis : call.basis with
  | model model =>
      have hpayload := (parts_of_built hbasis hb).1
      exact .mapped hpayload (payload_eq_none_iff hpayload)
  | payload payload path headers =>
      rw [((built_of_payload hbasis).1 hb).1]
      exact .kept

theorem sendsQuery_iff : e.sendsQuery = true ↔ e.method ∈ ["GET", "DELETE", "HEAD"] := by
  unfold Catalog.Endpoint.sendsQuery
  rw [List.contains_iff_mem]

namespace Sends

variable {r : Run} {s : Seal}

theorem carries (h : Sends g p e call r out b s) :
    p.auth.Carries e.mapping.signatureFormula (contextFor g p e call) (draftOf p e b).body
      out.body := by
  rw [h.out]
  exact h.sealed.carries

theorem query (h : Sends g p e call r out b s) : out.query = (draftOf p e b).query := by
  rw [h.out]
  exact place_query _ _

/-- The trace shows the body that was sent, or in its place the payload of a query. -/
theorem shown_body (h : Sends g p e call r out b s) :
    r.trace.request.body = if e.sendsQuery then b.payload else out.body := by
  rw [h.request, h.out]
  rfl

end Sends

/-- A request with the method of a query has the payload as its query, and no body but a signature
that has its place there. Any other request has no query, and the payload as its body, to which at
most the signature is added. The trace shows the payload of the first and the body of the second, so
that nothing is hidden but the signature in the body of a query. -/
theorem carries_payload (hsent : out ∈ (runOn g p e id now script cancel call).requests) :
    let c := contextFor g p e call
    let shown := (runOn g p e id now script cancel call).trace.request
    shown.method = out.method ∧ shown.url = out.url ∧ shown.headers = out.headers ∧
    ∃ payload, Builds e c call.basis payload ∧
      (out.method ∈ ["GET", "DELETE", "HEAD"] →
        out.query = (payload.map queryPairs).getD [] ∧
        p.auth.Carries e.mapping.signatureFormula c none out.body ∧
        (out.body = none ↔ ∀ path, p.auth ≠ .formula (.body path)) ∧
        shown.body = payload) ∧
      (out.method ∉ ["GET", "DELETE", "HEAD"] →
        out.query = [] ∧
        p.auth.Carries e.mapping.signatureFormula c payload out.body ∧
        shown.body = out.body) := by
  intro c shown
  obtain ⟨b, s, hsends⟩ := sends_of_mem_requests hsent
  obtain ⟨hmethod, hurl, hheaders⟩ := hsends.shown
  have hcarries := hsends.carries
  have hbody := hsends.shown_body
  refine ⟨hmethod, hurl, hheaders, b.payload, builds_of_built hsends.built, fun hm => ?_,
    fun hm => ?_⟩
  · -- the payload went into the query, and there was no body to sign
    rw [hsends.method, ← sendsQuery_iff] at hm
    have hunsigned : (draftOf p e b).body = none := if_pos hm
    rw [hunsigned] at hcarries
    rw [if_pos hm] at hbody
    exact ⟨hsends.query.trans (if_pos hm), hcarries, hcarries.eq_none_iff, hbody⟩
  · rw [hsends.method, ← sendsQuery_iff] at hm
    have hunsigned : (draftOf p e b).body = b.payload := if_neg hm
    rw [hunsigned] at hcarries
    rw [if_neg hm] at hbody
    exact ⟨hsends.query.trans (if_neg hm), hcarries, hbody⟩

/-! ## A stamped order -/

/-- The shop whose orders have a stamp in the body, and are sent with some method. -/
def stampedShop (method : String) : CatalogDocument where
  providers :=
    (shop (.formula (.body "auth.stamp[1]")) "/orders" [] (some "model.id")).providers.map fun p =>
      { p with endpoints := p.endpoints.map fun e => { e with method := method } }

/-- The catalog of the shop whose orders have a stamp. -/
def stampedCatalog : Catalog := (stampedShop "post").compile.toOption.get (by decide +kernel)

/-- The endpoint for orders with a stamp. -/
def stampedEndpoint : Provider × Endpoint :=
  (stampedCatalog.dispatchable "shop" "order").toOption.get (by decide +kernel)

/-- What a stamp adds to the body of an order. -/
def stamp : String × Json := ("auth", .obj [("stamp", .arr [.null, .str "k-17"])])

theorem carries_payload_order :
    let r := runOn (shopGateway stampedCatalog) stampedEndpoint.1 stampedEndpoint.2 firstId ⟨0, 0⟩
      accepting none orderCall
    let c := contextFor (shopGateway stampedCatalog) stampedEndpoint.1 stampedEndpoint.2 orderCall
    let body : Json := .obj [("amount", .int 3), stamp]
    let out : OutboundRequest := ⟨"POST", "http://[::1]/orders", [], [], some body, 30000⟩
    out ∈ r.requests ∧ r.trace.request.body = some body ∧
      ∃ payload, Builds stampedEndpoint.2 c orderCall.basis payload ∧
        stampedEndpoint.1.auth.Carries stampedEndpoint.2.mapping.signatureFormula c payload
          (some body) := by
  intro r c body out
  have hsent : out ∈ r.requests := by decide +kernel
  obtain ⟨_, _, _, payload, hbuilds, _, hbody⟩ := carries_payload hsent
  obtain ⟨_, hcarries, hshown⟩ := hbody (by decide)
  exact ⟨hsent, hshown, payload, hbuilds, hcarries⟩

/-- The requests of an order, and the request that its record is made of. -/
def sentAndShown (document : CatalogDocument) : Option (List OutboundRequest × SentRequest) := do
  let catalog ← document.compile.toOption
  let (p, e) ← (catalog.dispatchable "shop" "order").toOption
  let r := runOn (shopGateway catalog) p e firstId ⟨0, 0⟩ accepting none orderCall
  return (r.requests, r.trace.request)

/-- With the method of a query, the stamp is sent as a body that the trace does not show. -/
theorem unshown_signature :
    sentAndShown (stampedShop "GET") =
      some ([⟨"GET", "http://[::1]/orders", [("amount", "3")], [], some (.obj [stamp]), 30000⟩],
        ⟨"GET", "http://[::1]/orders", [], some (.obj [("amount", .int 3)])⟩) := by
  decide +kernel

end Dispatch

end ApiGateway
