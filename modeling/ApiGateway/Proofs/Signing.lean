import ApiGateway.Proofs.Failing
import ApiGateway.Signing

/-! # What a signature does to a request

A strategy looks at nothing of a request but its body, and changes one thing at most: a header, or
the body. `sign_eq` takes `sign` apart into these two steps, the making of a `Seal` and its placing;
`Seals` says which seal a strategy makes of which credentials and formula.
-/

set_option autoImplicit false

namespace ApiGateway

open Catalog (AuthStrategy SignatureTarget)

/-- The header that a strategy sets. -/
def Catalog.AuthStrategy.header? : AuthStrategy → Option String
  | .anonymous => none
  | .bearerToken _ => some "Authorization"
  | .basic _ _ => some "Authorization"
  | .apiKey header _ _ => some header
  | .hmac header _ _ _ => some header
  | .formula (.header name) => some name
  | .formula (.body _) => none

/-- What a strategy adds to a request. -/
inductive Seal where
  | nothing
  | header (name value : String)
  | body (value : Json)

/-- The header that is added. -/
def Seal.header? : Seal → Option String
  | .header name _ => some name
  | _ => none

/-- The request with what a strategy adds. -/
def Draft.place (d : Draft) : Seal → Draft
  | .nothing => d
  | .header name value => d.setHeader name value
  | .body value => { d with body := some value }

/-- What a signature adds to a request with this body at its target. -/
def signatureSeal (target : SignatureTarget) (body : Option Json) (signature : Json) :
    Except AuthError Seal :=
  match target with
  | .header name => .ok (.header name signature.plain)
  | .body path =>
    match Path.Target.parse path with
    | .error message => .error (.formula message)
    | .ok t =>
      let (body, written) := t.write (body.getD (.obj [])) signature
      if written then .ok (.body body)
      else .error (.formula (ResolveError.mapping t.source ResolveError.pathConflict).message)

/-- What a strategy adds to a request with this body. -/
def strategySeal (strategy : AuthStrategy) (body : Option Json) (credentials : Credentials)
    (formula : Option Expression) (c : Expression.Context) : Except AuthError Seal :=
  match strategy with
  | .anonymous => .ok .nothing
  | .bearerToken token => do
    let token ← credentials.get token
    return .header "Authorization" ("Bearer " ++ token)
  | .basic username password => do
    let username ← credentials.get username
    let password ← credentials.get password
    let pair := Digest.base64 (Digest.utf8 (username ++ ":" ++ password))
    return .header "Authorization" ("Basic " ++ pair)
  | .apiKey header key lead => do
    let key ← credentials.get key
    return .header header (lead.getD "" ++ key)
  | .hmac header secret encoding lead => do
    let secret ← credentials.get secret
    return .header header
      (lead.getD "" ++ hmacText encoding (Json.canonicalBody body) secret)
  | .formula target => do signatureSeal target body (← formulaValue formula c)

@[simp]
theorem place_method (d : Draft) (s : Seal) : (d.place s).method = d.method := by
  cases s <;> rfl

@[simp]
theorem place_url (d : Draft) (s : Seal) : (d.place s).url = d.url := by
  cases s <;> rfl

@[simp]
theorem place_query (d : Draft) (s : Seal) : (d.place s).query = d.query := by
  cases s <;> rfl

theorem Seal.eq_header_of_header? {s : Seal} {name : String} (h : s.header? = some name) :
    ∃ value, s = .header name value := by
  cases s with
  | header n value =>
      cases h
      exact ⟨value, rfl⟩
  | _ => cases h

theorem place_headers_of_header?_eq_none {s : Seal} (h : s.header? = none) (d : Draft) :
    (d.place s).headers = d.headers := by
  cases s with
  | header => cases h
  | _ => rfl

theorem place_body_congr {d d' : Draft} (h : d'.body = d.body) (s : Seal) :
    (d'.place s).body = (d.place s).body := by
  cases s with
  | body value => rfl
  | _ => exact h

variable {credentials : Credentials} {formula : Option Expression} {c : Expression.Context}

theorem placeSignature_eq (target : SignatureTarget) (d : Draft) (signature : Json) :
    placeSignature target d signature = (signatureSeal target d.body signature).map d.place := by
  cases target with
  | header name => rfl
  | body path =>
      simp only [placeSignature, signatureSeal]
      cases Path.Target.parse path with
      | error message => rfl
      | ok t =>
          show (if (t.write (d.body.getD (.obj [])) signature).2 then _ else _) =
            Except.map d.place (if (t.write (d.body.getD (.obj [])) signature).2 then _ else _)
          split <;> rfl

/-- Signing looks at the body alone, and adds what it makes of it. -/
theorem sign_eq (strategy : AuthStrategy) (d : Draft) :
    sign strategy d credentials formula c =
      (strategySeal strategy d.body credentials formula c).map d.place := by
  cases strategy with
  | anonymous => rfl
  | bearerToken token =>
      simp only [sign, strategySeal]
      cases credentials.get token <;> rfl
  | basic username password =>
      simp only [sign, strategySeal]
      cases credentials.get username with
      | error e => rfl
      | ok u => cases credentials.get password <;> rfl
  | apiKey header key lead =>
      simp only [sign, strategySeal]
      cases credentials.get key <;> rfl
  | hmac header secret encoding lead =>
      simp only [sign, strategySeal]
      cases credentials.get secret <;> rfl
  | formula target =>
      simp only [sign, strategySeal]
      cases formulaValue formula c with
      | error e => rfl
      | ok v => exact placeSignature_eq target d v

/-! ## The seal of a strategy -/

/-- The seal that a strategy makes for a request with this body. -/
inductive Catalog.AuthStrategy.Seals (credentials : Credentials) (formula : Option Expression)
    (c : Expression.Context) (body : Option Json) : AuthStrategy → Seal → Prop where
  | anonymous : Seals credentials formula c body .anonymous .nothing
  | bearerToken {reference token : String} (held : credentials.get reference = .ok token) :
      Seals credentials formula c body (.bearerToken reference)
        (.header "Authorization" ("Bearer " ++ token))
  | basic {user pass username password : String}
      (username_held : credentials.get user = .ok username)
      (password_held : credentials.get pass = .ok password) :
      Seals credentials formula c body (.basic user pass)
        (.header "Authorization"
          ("Basic " ++ Digest.base64 (Digest.utf8 (username ++ ":" ++ password))))
  | apiKey {name reference key : String} {lead : Option String}
      (held : credentials.get reference = .ok key) :
      Seals credentials formula c body (.apiKey name reference lead)
        (.header name (lead.getD "" ++ key))
  | hmac {name reference secret : String} {encoding : Catalog.SignatureEncoding}
      {lead : Option String} (held : credentials.get reference = .ok secret) :
      Seals credentials formula c body (.hmac name reference encoding lead)
        (.header name (lead.getD "" ++ hmacText encoding (Json.canonicalBody body) secret))
  | inHeader {name : String} {f : Expression} {v : Json} (given : formula = some f)
      (value : f.eval c = .ok v) (not_null : v ≠ .null) :
      Seals credentials formula c body (.formula (.header name)) (.header name v.plain)
  | inBody {path : String} {t : Path.Target} {f : Expression} {v : Json}
      (parsed : Path.Target.parse path = .ok t) (given : formula = some f)
      (value : f.eval c = .ok v) (not_null : v ≠ .null)
      (written : (t.write (body.getD (.obj [])) v).2 = true) :
      Seals credentials formula c body (.formula (.body path))
        (.body (t.write (body.getD (.obj [])) v).1)

theorem formulaValue_eq_ok_iff {v : Json} :
    formulaValue formula c = .ok v ↔ ∃ f, formula = some f ∧ f.eval c = .ok v ∧ v ≠ .null := by
  unfold formulaValue
  cases formula with
  | none => simp
  | some f =>
      dsimp only
      cases hv : f.eval c with
      | error cause => simp [hv]
      | ok w => cases w <;> simp [hv] <;> rintro rfl <;> simp

theorem signatureSeal_body_eq_ok_iff {path : String} {body : Option Json} {v : Json} {s : Seal} :
    signatureSeal (.body path) body v = .ok s ↔
      ∃ t, Path.Target.parse path = .ok t ∧ (t.write (body.getD (.obj [])) v).2 = true ∧
        s = .body (t.write (body.getD (.obj [])) v).1 := by
  simp only [signatureSeal]
  cases Path.Target.parse path with
  | error message => simp
  | ok t =>
      dsimp only
      constructor
      · -- a write that is given up on the way makes no seal
        intro h
        split at h
        · rename_i hwritten
          exact ⟨t, rfl, hwritten, (Except.ok.inj h).symm⟩
        · cases h
      · rintro ⟨t', ht, hwritten, rfl⟩
        cases ht
        exact if_pos hwritten

/-- A strategy comes to a seal just as `Seals` says. -/
theorem strategySeal_eq_ok_iff {strategy : AuthStrategy} {body : Option Json} {s : Seal} :
    strategySeal strategy body credentials formula c = .ok s ↔
      strategy.Seals credentials formula c body s := by
  constructor
  · intro h
    cases strategy with
    | anonymous =>
        cases h
        exact .anonymous
    | bearerToken reference =>
        obtain ⟨token, htoken, h⟩ := bind_eq_ok_iff.1 h
        cases h
        exact .bearerToken htoken
    | basic user pass =>
        obtain ⟨username, husername, h⟩ := bind_eq_ok_iff.1 h
        obtain ⟨password, hpassword, h⟩ := bind_eq_ok_iff.1 h
        cases h
        exact .basic husername hpassword
    | apiKey name reference lead =>
        obtain ⟨key, hkey, h⟩ := bind_eq_ok_iff.1 h
        cases h
        exact .apiKey hkey
    | hmac name reference encoding lead =>
        obtain ⟨secret, hsecret, h⟩ := bind_eq_ok_iff.1 h
        cases h
        exact .hmac hsecret
    | formula target =>
        obtain ⟨v, hv, h⟩ := bind_eq_ok_iff.1 h
        obtain ⟨f, hf, hvalue, hnull⟩ := formulaValue_eq_ok_iff.1 hv
        cases target with
        | header name =>
            cases h
            exact .inHeader hf hvalue hnull
        | body path =>
            obtain ⟨t, ht, hwritten, rfl⟩ := signatureSeal_body_eq_ok_iff.1 h
            exact .inBody ht hf hvalue hnull hwritten
  · intro h
    cases h with
    | anonymous => rfl
    | bearerToken held | apiKey held | hmac held =>
        exact bind_eq_ok_iff.2 ⟨_, held, rfl⟩
    | basic husername hpassword =>
        exact bind_eq_ok_iff.2 ⟨_, husername, bind_eq_ok_iff.2 ⟨_, hpassword, rfl⟩⟩
    | inHeader hf hvalue hnull =>
        exact bind_eq_ok_iff.2 ⟨_, formulaValue_eq_ok_iff.2 ⟨_, hf, hvalue, hnull⟩, rfl⟩
    | inBody ht hf hvalue hnull hwritten =>
        exact bind_eq_ok_iff.2 ⟨_, formulaValue_eq_ok_iff.2 ⟨_, hf, hvalue, hnull⟩,
          signatureSeal_body_eq_ok_iff.2 ⟨_, ht, hwritten, rfl⟩⟩

/-- A strategy adds the header that it sets, and no other. -/
theorem Catalog.AuthStrategy.Seals.header? {strategy : AuthStrategy} {body : Option Json}
    {s : Seal} (h : strategy.Seals credentials formula c body s) :
    s.header? = strategy.header? := by
  cases h <;> rfl

/-- A formula with the same value in two contexts signs alike in both. -/
theorem strategySeal_congr {strategy : AuthStrategy} {body : Option Json} {d : Expression.Context}
    (h : ∀ target, strategy = .formula target → ∀ f ∈ formula, f.eval c = f.eval d) :
    strategySeal strategy body credentials formula c =
      strategySeal strategy body credentials formula d := by
  cases strategy with
  | formula target =>
      have hvalue : formulaValue formula c = formulaValue formula d := by
        unfold formulaValue
        cases formula with
        | none => rfl
        | some f => simp only [h target rfl f rfl]
      simp only [strategySeal, hvalue]
  | _ => rfl

/-- A draft and one that has no headers get the same headers just if the strategy sets every header
of the first. -/
theorem place_headers_eq_iff {d d' : Draft} {s : Seal} (hnone : d'.headers = []) :
    (d'.place s).headers = (d.place s).headers ↔
      ∀ h ∈ d.headers, ∃ name ∈ s.header?, Text.equalIgnoringCase h.1 name = true := by
  have hother : s.header? = none → ((∀ h ∈ d.headers, ∃ name ∈ s.header?,
      Text.equalIgnoringCase h.1 name = true) ↔ d.headers = []) := by
    intro hs
    rw [hs, List.eq_nil_iff_forall_not_mem]
    simp
  cases s with
  | nothing => rw [hother rfl, eq_comm, Draft.place, Draft.place, hnone]
  | body value =>
      show d'.headers = d.headers ↔ _
      rw [hother rfl, eq_comm, hnone]
  | header name value =>
      show d'.headers.filter _ ++ [(name, value)] = d.headers.filter _ ++ [(name, value)] ↔ _
      rw [hnone, List.filter_nil, List.append_left_inj, eq_comm, List.filter_eq_nil_iff]
      simp [Seal.header?]

end ApiGateway
