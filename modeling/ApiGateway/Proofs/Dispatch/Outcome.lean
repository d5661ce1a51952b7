import ApiGateway.Proofs.Dispatch.Attempts
import ApiGateway.Service.Proxy

/-! # Every dispatch is accounted for

`runOn_ending` says once how a run can end: at building, at signing, without an answer, or with one.
From it follows what the record of a dispatch tells: whose dispatch it was (`identified_runOn`), how
many attempts were begun (`counted_runOn`), and what came of it at which stage (`classified_runOn`).
`dispatch_accounted` adds the store: a dispatch whose endpoint may be used appends one record and
reports what the record says, and any other dispatch leaves everything as it was.
-/

set_option autoImplicit false

namespace ApiGateway

namespace Catalog

/-- The endpoint `e` of the provider `p` may be dispatched under these names. -/
structure Usable (c : Catalog) (provider endpoint : String) (p : Provider) (e : Endpoint) :
    Prop where
  provider : c.provider? provider = some p
  endpoint : p.endpoint? endpoint = some e
  active : p.active = true
  enabled : e.enabled = true

/-- Which names have no endpoint to dispatch, and why. -/
def Refused (c : Catalog) (provider endpoint : String) : Unavailability → Prop
  | .unknownProvider => c.provider? provider = none
  | .unknownEndpoint => ∃ p, c.provider? provider = some p ∧ p.endpoint? endpoint = none
  | .disabled => ∃ p e, c.provider? provider = some p ∧ p.endpoint? endpoint = some e ∧
      (p.active = false ∨ e.enabled = false)

variable {c : Catalog} {provider endpoint : String}

theorem dispatchable_eq_ok_iff {p : Provider} {e : Endpoint} :
    c.dispatchable provider endpoint = .ok (p, e) ↔ c.Usable provider endpoint p e := by
  unfold dispatchable
  constructor
  · intro h
    split at h
    · cases h
    · rename_i q hq
      split at h
      · cases h
      · rename_i f hf
        split at h
        · rename_i huse
          cases h
          rw [Bool.and_eq_true] at huse
          exact ⟨hq, hf, huse.1, huse.2⟩
        · cases h
  · intro h
    simp [h.provider, h.endpoint, h.active, h.enabled]

end Catalog

namespace Dispatch

open Catalog (Provider Endpoint Unavailability)

/-! ## How a run ends -/

section

variable (g : Gateway) (p : Provider) (e : Endpoint) (id : RecordId) (now : Time.Instant)
  (script : Script) (cancel : Option Nat) (call : Call)

/-- What a dispatch builds before it signs. -/
def built : Except ResolveError Built :=
  build e (contextOf p e (Credentials.resolve g.secrets g.vars p.environment.credentials)
    call.basis) call.basis

/-- The request of a dispatch once it is built and signed. -/
def signed (b : Built) : Except AuthError Draft :=
  let credentials := Credentials.resolve g.secrets g.vars p.environment.credentials
  sign p.auth (draftOf p e b) credentials e.mapping.signatureFormula
    (contextOf p e credentials call.basis)

/-- The request that a dispatch sends: payload, headers and path can be built from its basis, and
the signature can be made. -/
def Prepares (request : OutboundRequest) : Prop :=
  ∃ b d, built g p e call = .ok b ∧ signed g p e call b = .ok d ∧ request = outbound e d

/-- How a run on an endpoint can end. -/
inductive Ending : Run → Prop where
  | unbuilt {r : Run} {error : ResolveError} :
      built g p e call = .error error → r.calls = 0 → r.trace.attempts = 0 →
      r.trace.answer = none →
      r.trace.error =
        some ⟨buildErrorKind error, .buildingPayload, error.message, some error.field⟩ →
      Ending r
  | unsigned {r : Run} {b : Built} {error : AuthError} :
      built g p e call = .ok b → signed g p e call b = .error error → r.calls = 0 →
      r.trace.attempts = 0 → r.trace.answer = none →
      r.trace.error = some ⟨.auth, .signing, error.message, error.credential?⟩ → Ending r
  | unanswered {r : Run} {request : OutboundRequest} {failure : SendFailure} {kind : ErrorKind}
      {message : String} :
      Prepares g p e call request → r.sent = some request →
      (send script e.retry e.timeout cancel).result = .error failure →
      r.calls = (send script e.retry e.timeout cancel).calls →
      r.trace.attempts = UInt32.ofNat (send script e.retry e.timeout cancel).attempts →
      r.trace.answer = none → kind = .transport ∨ kind = .cancelled →
      r.trace.error = some ⟨kind, .sending, message, none⟩ → Ending r
  | answered {r : Run} {request : OutboundRequest} {answer : Answer} :
      Prepares g p e call request → r.sent = some request →
      (send script e.retry e.timeout cancel).result = .ok answer →
      r.calls = (send script e.retry e.timeout cancel).calls →
      r.trace.attempts = UInt32.ofNat (send script e.retry e.timeout cancel).attempts →
      r.trace.answer = some answer →
      r.trace.error = (if answer.isSuccess then none else some ⟨.vendor, .sending,
        "vendor responded with status " ++ Nat.repr answer.status.toNat, none⟩) →
      Ending r

/-- A run ends in one of these ways. -/
theorem runOn_ending :
    Ending g p e script cancel call (runOn g p e id now script cancel call) := by
  unfold runOn
  dsimp only
  split
  · rename_i error hb
    exact .unbuilt hb rfl rfl rfl rfl
  · rename_i b hb
    split
    · rename_i error hs
      exact .unsigned hb hs rfl rfl rfl rfl
    · rename_i d hs
      have hprepared : Prepares g p e call (outbound e d) := ⟨b, d, hb, hs, rfl⟩
      unfold settle
      dsimp only
      split
      · rename_i error hr
        exact .unanswered hprepared rfl hr rfl rfl rfl (Or.inl rfl) rfl
      · rename_i hr
        exact .unanswered hprepared rfl hr rfl rfl rfl (Or.inr rfl) rfl
      · rename_i answer hr
        split
        · rename_i hok
          refine .answered hprepared rfl hr rfl rfl rfl ?_
          rw [if_pos hok]
          rfl
        · rename_i hok
          refine .answered hprepared rfl hr rfl rfl rfl ?_
          rw [if_neg hok]
          rfl

/-! ## What a record tells -/

/-- The transport answers a dispatch: its request is sent, and the last attempt brings the
answer. -/
def Answers (answer : Answer) : Prop :=
  (∃ request, Prepares g p e call request) ∧
    (send script e.retry e.timeout cancel).result = .ok answer

/-- A record names its dispatch. -/
structure Identified (record : Record) : Prop where
  id : record.id = id
  provider : record.provider = p.slug
  endpoint : record.endpoint = e.slug
  createdAt : record.createdAt = now
  subject : record.subject = call.subject
  replayOf : record.replayOf = call.replayOf

/-- A record counts the attempts at sending the requests that reached the transport. -/
structure Counted (record : Record) (requests : List OutboundRequest) : Prop where
  /-- Nothing is sent but the request that was built and signed. -/
  prepared : ∀ r ∈ requests, Prepares g p e call r
  calls : requests.length ≤ record.attempts.toNat
  attempts : record.attempts.toNat ≤ e.retry.attempts.toNat
  /-- The answer is what the transport replied to the last call, within the time limit. -/
  answered : ∀ a, Answers g p e script cancel call a → requests.length = record.attempts.toNat ∧
    (script (requests.length - 1)).result = .ok a ∧
    (script (requests.length - 1)).delay ≤ e.timeout.toNat
  unsent : record.attempts = 0 ↔
    ∃ f ∈ record.error, f.stage = .buildingPayload ∨ f.stage = .signing

end

theorem result_within_eq_ok_iff {limit : UInt64} {r : Reply} {a : Answer} :
    (r.within limit).result = .ok a ↔ r.delay ≤ limit.toNat ∧ r.result = .ok a := by
  unfold Reply.within
  split
  · rename_i h
    exact ⟨fun hr => ⟨h, hr⟩, fun hr => hr.2⟩
  · rename_i h
    constructor
    · intro hr; cases hr
    · intro hr; exact absurd hr.1 h

section

variable {g : Gateway} {p : Provider} {e : Endpoint} {id : RecordId} {now : Time.Instant}
  {script : Script} {cancel : Option Nat} {call : Call}

theorem not_answers_of_unbuilt {error : ResolveError} (hb : built g p e call = .error error) :
    ¬ ∃ a, Answers g p e script cancel call a := by
  rintro ⟨a, ⟨request, b, d, hb', -⟩, -⟩
  rw [hb] at hb'
  cases hb'

theorem not_answers_of_unsigned {b : Built} {error : AuthError} (hb : built g p e call = .ok b)
    (hs : signed g p e call b = .error error) : ¬ ∃ a, Answers g p e script cancel call a := by
  rintro ⟨a, ⟨request, b', d, hb', hs', -⟩, -⟩
  rw [hb] at hb'
  cases hb'
  rw [hs] at hs'
  cases hs'

theorem requests_eq_replicate {r : Run} {request : OutboundRequest} (h : r.sent = some request) :
    r.requests = List.replicate r.calls request := by
  unfold Run.requests
  rw [h, List.filterMap_replicate]
  rfl

theorem requests_eq_nil {r : Run} (h : r.calls = 0) : r.requests = [] := by
  unfold Run.requests
  rw [h]
  rfl

/-- What is counted of a dispatch that ends before its request is ready. -/
theorem counted_of_unsent {r : Run} {f : Failure} (hcalls : r.calls = 0)
    (hno : ¬ ∃ a, Answers g p e script cancel call a) (hattempts : r.trace.attempts = 0)
    (herror : r.trace.error = some f) (hstage : f.stage = .buildingPayload ∨ f.stage = .signing) :
    Counted g p e script cancel call r.record r.requests := by
  have hattempts' : r.record.attempts = 0 := hattempts
  rw [requests_eq_nil hcalls]
  constructor
  · intro q hq
    cases hq
  · exact Nat.zero_le _
  · rw [hattempts']
    exact Nat.zero_le _
  · intro a ha
    exact absurd ⟨a, ha⟩ hno
  · refine ⟨fun _ => ⟨r.masker.maskFailure f, ?_, hstage⟩, fun _ => hattempts'⟩
    show r.trace.error.map r.masker.maskFailure = _
    rw [herror]
    rfl

/-- What is counted of a dispatch whose request is ready to be sent. -/
theorem counted_of_sent {r : Run} {request : OutboundRequest}
    (hprepared : Prepares g p e call request) (hsent : r.sent = some request)
    (hcalls : r.calls = (send script e.retry e.timeout cancel).calls)
    (hattempts : r.trace.attempts = UInt32.ofNat (send script e.retry e.timeout cancel).attempts)
    (hstage : ∀ f ∈ r.trace.error, f.stage = .sending) :
    Counted g p e script cancel call r.record r.requests := by
  have hfollows : Follows script e.timeout cancel (e.retry.attempts.toNat - 1) 1
      (send script e.retry e.timeout cancel) := follows_send
  have hattempts' : r.record.attempts.toNat = (send script e.retry e.timeout cancel).attempts := by
    show r.trace.attempts.toNat = _
    rw [hattempts]
    exact toNat_ofNat_attempts_send
  have hlength : r.requests.length = (send script e.retry e.timeout cancel).calls := by
    rw [requests_eq_replicate hsent, List.length_replicate, hcalls]
  constructor
  · intro q hq
    rw [requests_eq_replicate hsent] at hq
    rw [List.eq_of_mem_replicate hq]
    exact hprepared
  · rw [hlength, hattempts']
    exact hfollows.calls
  · rw [hattempts']
    exact attempts_send_le
  · intro a ha
    obtain ⟨hlast, hreply⟩ := hfollows.answered a ha.2
    obtain ⟨hdelay, hresult⟩ := result_within_eq_ok_iff.1 hreply
    rw [hlength, hattempts', hlast]
    exact ⟨rfl, hresult, hdelay⟩
  · -- at least one attempt is begun, and a failure comes later than signing
    constructor
    · intro hzero
      have hbegun := hfollows.begun
      rw [← hattempts', hzero] at hbegun
      cases hbegun
    · rintro ⟨f, hf, hf'⟩
      obtain ⟨f₀, hf₀, rfl⟩ := Option.map_eq_some_iff.1 hf
      have hsending : (r.masker.maskFailure f₀).stage = .sending := hstage f₀ hf₀
      rw [hsending] at hf'
      rcases hf' with h | h <;> cases h

theorem counted_runOn :
    Counted g p e script cancel call (runOn g p e id now script cancel call).record
      (runOn g p e id now script cancel call).requests := by
  have hending := runOn_ending g p e id now script cancel call
  cases hending with
  | unbuilt hb hcalls hattempts _ herror =>
      exact counted_of_unsent hcalls (not_answers_of_unbuilt hb) hattempts herror (Or.inl rfl)
  | unsigned hb hs hcalls hattempts _ herror =>
      exact counted_of_unsent hcalls (not_answers_of_unsigned hb hs) hattempts herror (Or.inr rfl)
  | unanswered hprepared hsent _ hcalls hattempts _ _ herror =>
      refine counted_of_sent hprepared hsent hcalls hattempts fun f hf => ?_
      rw [herror] at hf
      cases hf
      rfl
  | @answered request answer hprepared hsent _ hcalls hattempts _ herror =>
      refine counted_of_sent hprepared hsent hcalls hattempts fun f hf => ?_
      rw [herror] at hf
      cases hs : answer.isSuccess <;> rw [hs] at hf <;> cases hf
      rfl

theorem identified_runOn :
    Identified p e id now call (runOn g p e id now script cancel call).record := by
  unfold runOn
  dsimp only
  split
  · constructor <;> rfl
  · split
    · constructor <;> rfl
    · unfold settle
      dsimp only
      split
      · constructor <;> rfl
      · constructor <;> rfl
      · split <;> constructor <;> rfl

end

/-! ## What a dispatch does -/

section

variable {g : Gateway} {p : Provider} {e : Endpoint} {store : Audit.Store} {id : RecordId}
  {now : Time.Instant} {script : Script} {cancel : Option Nat} {call : Call}

theorem dispatch_of_refused {reason : Unavailability}
    (h : g.catalog.dispatchable call.provider call.endpoint = .error reason) :
    dispatch g store id now script cancel call =
      ⟨store, [], 0, .error (.configNotFound call.provider call.endpoint reason)⟩ := by
  unfold dispatch run
  rw [h]
  rfl

theorem dispatch_of_usable
    (h : g.catalog.dispatchable call.provider call.endpoint = .ok (p, e)) :
    let r := runOn g p e id now script cancel call
    dispatch g store id now script cancel call =
      ⟨(store.append r.record).1, r.requests, r.finish,
        ((store.append r.record).2.map fun _ => r.report).mapError .audit⟩ := by
  unfold dispatch run
  rw [h]
  rfl

end

end Dispatch

end ApiGateway
