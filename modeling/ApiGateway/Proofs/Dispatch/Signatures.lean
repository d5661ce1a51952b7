import ApiGateway.Proofs.Dispatch.Resending
import ApiGateway.Proofs.Headers
import ApiGateway.Proofs.Json.Canonical

/-! # Keyed digests are made of the body that is sent

A strategy with a keyed digest signs the canonical text of a body, and the request carries that body
and no other (`signs_canonicalBody`). As canonical texts tell bodies apart, requests whose bodies
differ are signed over different texts.
-/

set_option autoImplicit false

namespace ApiGateway.Dispatch

open Catalog (Provider Endpoint)
open Json (Number SameValue canonicalBody)

/-- The run of a dispatch, or of a replay, to a provider that signs with a keyed digest. -/
structure SigningRun where
  gateway : Gateway
  provider : Provider
  endpoint : Endpoint
  id : RecordId
  now : Time.Instant
  script : Script
  cancel : Option Nat
  call : Call
  header : String
  secret : String
  encoding : Catalog.SignatureEncoding
  lead : Option String
  auth_eq : provider.auth = .hmac header secret encoding lead

namespace SigningRun

variable (s : SigningRun)

/-- The requests that are handed to the transport. -/
def requests : List OutboundRequest :=
  (runOn s.gateway s.provider s.endpoint s.id s.now s.script s.cancel s.call).requests

/-- The credentials of the environment. -/
def credentials : Credentials :=
  Credentials.resolve s.gateway.secrets s.gateway.vars s.provider.environment.credentials

/-- Of the headers with the name of the signature, a request has just the digest of a text. -/
def Signs (text : String) (q : OutboundRequest) : Prop :=
  ∃ key, s.credentials.get s.secret = .ok key ∧
    q.headers.filter (fun h => Text.equalIgnoringCase h.1 s.header) =
      [(s.header, s.lead.getD "" ++ hmacText s.encoding text key)]

end SigningRun

namespace SigningRun

variable {s : SigningRun}

/-- With its secret a draft gets the digest of its body. -/
theorem signed_eq_ok_iff {b : Built} {d : Draft} :
    signed s.gateway s.provider s.endpoint s.call b = .ok d ↔
      ∃ key, s.credentials.get s.secret = .ok key ∧
        d = (draftOf s.provider s.endpoint b).setHeader s.header (s.lead.getD "" ++
          hmacText s.encoding (canonicalBody (draftOf s.provider s.endpoint b).body) key) := by
  unfold signed
  rw [s.auth_eq]
  refine bind_eq_ok_iff.trans (exists_congr fun key => and_congr_right fun _ => ?_)
  constructor
  · intro h
    exact (Except.ok.inj h).symm
  · rintro rfl
    rfl

/-- A request is signed over the canonical text of its own body. -/
theorem signs_body {q : OutboundRequest} (hq : q ∈ s.requests) :
    s.Signs (canonicalBody q.body) q := by
  obtain ⟨b, d, _, hsigned, rfl⟩ := prepared_of_mem_requests hq
  obtain ⟨key, hkey, rfl⟩ := signed_eq_ok_iff.1 hsigned
  exact ⟨key, hkey, Headers.named_set _ _ _⟩

end SigningRun

/-- Canonical texts tell bodies apart, however deep they are and whatever their strings and keys,
and do not depend on the order of members; a request that is signed with a keyed digest is signed
over the canonical text of the body that it carries, so that requests whose bodies differ are never
signed over one text. -/
theorem signs_canonicalBody {P : Number → Prop} (hP : Number.ToldApart P) {a b : Option Json}
    (ha : ∀ v ∈ a, v.EachNumber P) (hb : ∀ v ∈ b, v.EachNumber P) :
    (canonicalBody a = canonicalBody b ↔ Option.Rel SameValue a b) ∧
      ((∀ v ∈ a, v.Normal) → (∀ v ∈ b, v.Normal) → canonicalBody a = canonicalBody b → a = b) ∧
      (∀ v w, SameValue v w → canonicalBody (some v) = canonicalBody (some w)) ∧
      ∀ s s' : SigningRun, ∀ q ∈ s.requests, ∀ q' ∈ s'.requests, q.body = a → q'.body = b →
        s.Signs (canonicalBody a) q ∧ s'.Signs (canonicalBody b) q' ∧
          (¬Option.Rel SameValue a b → canonicalBody a ≠ canonicalBody b) := by
  have hiff : canonicalBody a = canonicalBody b ↔ Option.Rel SameValue a b :=
    Json.canonicalBody_eq_iff hP ha hb
  refine ⟨hiff, ?_, fun v w h => h.canonical_eq, ?_⟩
  · intro hna hnb htext
    cases hiff.1 htext with
    | none => rfl
    | some hsame => rw [(Json.sameValue_iff_eq (hna _ rfl) (hnb _ rfl)).1 hsame]
  · intro s s' q hq q' hq' hbody hbody'
    subst hbody hbody'
    exact ⟨SigningRun.signs_body hq, SigningRun.signs_body hq',
      fun hne htext => hne (hiff.1 htext)⟩

/-! ## A body with a crafted string -/

/-- The catalog of a shop whose orders are signed with a keyed digest. -/
def signingCatalog : Catalog :=
  (shop (.hmac "X-Signature" "key" .hex (some "sha256=")) "/orders" [] none).compile.toOption.get
    (by decide +kernel)

/-- The endpoint for signed orders. -/
def signingEndpoint : Provider × Endpoint :=
  (signingCatalog.dispatchable "shop" "order").toOption.get (by decide +kernel)

/-- A run that sends a body as it stands. -/
def sending (body : Json) : SigningRun where
  gateway := shopGateway signingCatalog
  provider := signingEndpoint.1
  endpoint := signingEndpoint.2
  id := firstId
  now := ⟨0, 0⟩
  script := accepting
  cancel := none
  call := { provider := "shop", endpoint := "order", basis := .payload body (some "/orders") [] }
  header := "X-Signature"
  secret := "key"
  encoding := .hex
  lead := some "sha256="
  auth_eq := by decide +kernel

/-- The body is handed to the transport as it stands. -/
theorem exists_request_sending (body : Json) :
    ∃ q ∈ (sending body).requests, q.body = some body := by
  let b : Built := ⟨some body, "/orders", []⟩
  have hbuilt : built (sending body).gateway (sending body).provider (sending body).endpoint
      (sending body).call = .ok b := rfl
  have hbody : (draftOf signingEndpoint.1 signingEndpoint.2 b).body = some body := by
    have hquery : signingEndpoint.2.sendsQuery = false := by decide +kernel
    show (if signingEndpoint.2.sendsQuery then none else some body) = some body
    rw [hquery]
    rfl
  have hkey : ((sending .null).credentials.get "key").toOption.isSome = true := by decide +kernel
  obtain ⟨d, hsigned, hd⟩ : ∃ d, signed (sending body).gateway (sending body).provider
      (sending body).endpoint (sending body).call b = .ok d ∧ d.body = some body :=
    ⟨_, SigningRun.signed_eq_ok_iff.2 ⟨_, eq_ok_get hkey, rfl⟩, hbody⟩
  have hcalls :
      (send accepting signingEndpoint.2.retry signingEndpoint.2.timeout none).calls ≠ 0 := by
    decide +kernel
  refine ⟨outbound signingEndpoint.2 d, ?_, hd⟩
  show _ ∈ (runOn _ _ _ firstId ⟨0, 0⟩ accepting none _).requests
  rw [(runOn_of_signed hbuilt hsigned).1]
  exact List.mem_replicate.2 ⟨hcalls, rfl⟩

/-- An order of one article, whose name ends the text of the member and begins another, and an
order of the same article with a further member. -/
theorem signs_canonicalBody_crafted :
    let a : Json := .obj [("article", .str "x\",\"count\":\"1"), ("price", .int 7)]
    let b : Json := .obj [("article", .str "x"), ("count", .str "1"), ("price", .int 7)]
    (a.Normal ∧ b.Normal ∧ a ≠ b) ∧
      canonicalBody (some a) ≠ canonicalBody (some b) ∧
      canonicalBody (some (.obj [("price", .int 7), ("count", .str "1"), ("article", .str "x")])) =
        canonicalBody (some b) ∧
      ∃ q ∈ (sending a).requests, ∃ q' ∈ (sending b).requests,
        q.body = some a ∧ q'.body = some b ∧
          (sending a).Signs (canonicalBody (some a)) q ∧
          (sending b).Signs (canonicalBody (some b)) q' := by
  intro a b
  have hseven : (Number.int 7).InRange := by decide
  have hnumbers : (∀ v ∈ some a, v.EachNumber Number.IsInteger) ∧
      ∀ v ∈ some b, v.EachNumber Number.IsInteger := by
    constructor
    · intro v hv
      cases hv
      exact ⟨trivial, ⟨7, rfl, hseven⟩, trivial⟩
    · intro v hv
      cases hv
      exact ⟨trivial, trivial, ⟨7, rfl, hseven⟩, trivial⟩
  have ha : a.Normal := ⟨by unfold Json.Ascending; decide, trivial, trivial, trivial⟩
  have hb : b.Normal := ⟨by unfold Json.Ascending; decide, trivial, trivial, trivial, trivial⟩
  have hne : a ≠ b := by decide
  let price : String × Json := ("price", .int 7)
  let count : String × Json := ("count", .str "1")
  let article : String × Json := ("article", .str "x")
  have hfirst := SameValue.swap [] [article] price count (by decide)
  have hsecond := SameValue.swap [count] [] price article (by decide)
  have hthird := SameValue.swap [] [price] count article (by decide)
  obtain ⟨_, hinjective, hsame, hsigned⟩ :=
    signs_canonicalBody Number.toldApart_isInteger hnumbers.1 hnumbers.2
  obtain ⟨q, hq, hqa⟩ := exists_request_sending a
  obtain ⟨q', hq', hqb⟩ := exists_request_sending b
  obtain ⟨hsigns, hsigns', _⟩ := hsigned _ _ q hq q' hq' hqa hqb
  refine ⟨⟨ha, hb, hne⟩, fun h => hne ?_, hsame _ _ (hfirst.trans (hsecond.trans hthird)),
    q, hq, q', hq', hqa, hqb, hsigns, hsigns'⟩
  exact Option.some.inj (hinjective (fun | _, rfl => ha) (fun | _, rfl => hb) h)

end ApiGateway.Dispatch
