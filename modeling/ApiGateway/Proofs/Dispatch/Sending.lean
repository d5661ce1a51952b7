import ApiGateway.Proofs.Dispatch.Resending

/-! # What is sent and what is recorded of it

A run that sends has built a request and sealed it; `sends_of_mem_requests` takes it apart into
these two steps. The outbound request and the request of the trace come from the same draft, and
differ at most in the body.
-/

set_option autoImplicit false

namespace ApiGateway.Dispatch

open Catalog (Provider Endpoint)

/-- What the references of the active environment give. -/
def credentialsFor (g : Gateway) (p : Provider) : Credentials :=
  Credentials.resolve g.secrets g.vars p.environment.credentials

/-- The strategy makes this seal for what a dispatch has built. -/
def SealedBy (g : Gateway) (p : Provider) (e : Endpoint) (call : Call) (b : Built) (s : Seal) :
    Prop :=
  p.auth.Seals (credentialsFor g p) e.mapping.signatureFormula (contextFor g p e call)
    (draftOf p e b).body s

/-- The signed request of what a dispatch has built. -/
def sealed (p : Provider) (e : Endpoint) (b : Built) (s : Seal) : Draft := (draftOf p e b).place s

/-- How a request comes to be sent: something was built, the strategy made a seal for it, and the
signed request was traced and sent. -/
structure Sends (g : Gateway) (p : Provider) (e : Endpoint) (call : Call) (r : Run)
    (out : OutboundRequest) (b : Built) (s : Seal) : Prop where
  built : Dispatch.built g p e call = .ok b
  sealed : SealedBy g p e call b s
  out : out = outbound e (Dispatch.sealed p e b s)
  request : r.trace.request = sentRequest e b (Dispatch.sealed p e b s)
  masker : r.masker = maskerOf g.options p (credentialsFor g p)

variable {g : Gateway} {p : Provider} {e : Endpoint} {id : RecordId} {now : Time.Instant}
  {script : Script} {cancel : Option Nat} {call : Call} {out : OutboundRequest}

/-- Whatever is sent was built and sealed. -/
theorem sends_of_mem_requests
    (h : out ∈ (runOn g p e id now script cancel call).requests) :
    ∃ b s, Sends g p e call (runOn g p e id now script cancel call) out b s := by
  obtain ⟨b, d, hb, hd, rfl⟩ := prepared_of_mem_requests h
  -- signing is sealing and then placing the seal
  have hseal := hd
  rw [signed_eq] at hseal
  obtain ⟨s, hs, rfl⟩ := exists_of_map_eq_ok hseal
  obtain ⟨_, hrequest, _, hmasker⟩ := settle_keeps (e := e) (contextFor g p e call) _ _ _ _
  refine ⟨b, s, hb, strategySeal_eq_ok_iff.1 hs, rfl, ?_, ?_⟩
  · rw [runOn_eq_settle hb hd, hrequest]
    rfl
  · rw [runOn_eq_settle hb hd, hmasker]
    rfl

namespace Sends

variable {r : Run} {b : Built} {s : Seal}

theorem method (h : Sends g p e call r out b s) : out.method = e.method := by
  rw [h.out]
  exact place_method _ _

/-- The trace shows method, address and headers as they went out. -/
theorem shown (h : Sends g p e call r out b s) :
    r.trace.request.method = out.method ∧ r.trace.request.url = out.url ∧
      r.trace.request.headers = out.headers := by
  rw [h.request, h.out]
  exact ⟨rfl, rfl, rfl⟩

/-- The header of the strategy has taken the place of those of its name. -/
theorem header {name : String} (h : Sends g p e call r out b s)
    (hname : p.auth.header? = some name) :
    ∃ value, s = .header name value ∧ out.headers = b.headers.set name value ∧
      out.body = (draftOf p e b).body := by
  obtain ⟨value, rfl⟩ := Seal.eq_header_of_header? (h.sealed.header?.trans hname)
  rw [h.out]
  exact ⟨value, rfl, rfl, rfl⟩

/-- Without a header of the strategy the headers go out as they were built. -/
theorem headers_eq (h : Sends g p e call r out b s) (hnone : p.auth.header? = none) :
    out.headers = b.headers := by
  rw [h.out]
  exact place_headers_of_header?_eq_none (h.sealed.header?.trans hnone) _

end Sends

end ApiGateway.Dispatch
