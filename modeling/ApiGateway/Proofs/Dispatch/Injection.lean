import ApiGateway.Proofs.Catalog.Acceptance
import ApiGateway.Proofs.Dispatch.Bodies
import ApiGateway.Proofs.Masking.Names
import ApiGateway.Proofs.Masking.Places
import ApiGateway.Proofs.Path.Keys
import ApiGateway.Proofs.Text.Classes

/-! # What a strategy writes is masked

A dispatch makes the names that its strategy writes to sensitive. For a header this is enough: its
name was accepted, so that it is not blank, and the record has the token in place of the value. For
a place in the body it is the last key of the path. `masks_injected` says what becomes of the member
under this key: unless the key is blank it is erased as a whole, with everything that the brackets
behind the key lead to. A blank key is no name that a masker knows, and then the signature is
recorded like any other value (`recorded_signature`).
-/

set_option autoImplicit false

namespace ApiGateway

open Json (Step SameBut)

/-- Of what stands at a place nothing is left when the value is masked: anything else in its place
is masked to the same value. And where masking keeps keys apart, the token stands there, or in place
of a member that encloses it. -/
structure Masker.Erases (m : Masker) (v : Json) (place : List Step) : Prop where
  unmarked : ∀ w, w ≠ .null →
    ∃ v', SameBut place v v' ∧ v'.at? place = some w ∧ m.maskValue v' = m.maskValue v
  token : m.KeepsKeys v place → ∃ front name, front ++ [.member name] <+: place ∧
    (m.maskValue v).at? ((front ++ [.member name]).map m.maskStep) = some (.str m.token)

theorem Masker.Covers.erases {m : Masker} {v u : Json} {place : List Step} (h : m.Covers place)
    (hat : v.at? place = some u) (hu : u ≠ .null) : m.Erases v place where
  unmarked w hw := by
    obtain ⟨v', hsame, hat'⟩ := Json.exists_sameBut hat hu hw
    exact ⟨v', hsame, hat', (maskValue_eq_of_covers hsame h).symm⟩
  token hkeys := by
    obtain ⟨front, name, hfront, _, htoken⟩ := exists_token_of_covers hkeys h hat hu
    exact ⟨front, name, hfront, htoken⟩

/-- A sensitive name erases what stands behind it together with its member. -/
theorem Masker.erases_member {m : Masker} {v u : Json} {front back : List Step} {key : String}
    (hcovers : m.isSensitive key = true ∨ m.Covers front)
    (hat : v.at? (front ++ .member key :: back) = some u) (hu : u ≠ .null) :
    m.Erases v (front ++ [.member key]) := by
  have hnone : ∀ step ∈ ([] : List Step), ∃ position, step = .item position := nofun
  have hcovered : m.Covers (front ++ [.member key]) := (covers_append_member hnone).2 hcovers
  rw [List.append_cons, Json.at?_append] at hat
  obtain ⟨member, hmember, hinside⟩ := Option.bind_eq_some_iff.1 hat
  exact hcovered.erases hmember (Json.ne_null_of_at? hinside hu)

/-! ## The last key of a path -/

theorem exists_split_of_lastKey? {t : Path.Target} {key : String} (h : lastKey? t = some key) :
    ∃ front back, t.segments = front ++ .key key :: back ∧ ∀ name, .key name ∉ back := by
  obtain ⟨before, segment, after, hsplit, hkey, hnone⟩ := List.findSome?_eq_some_iff.1 h
  have hsegment : segment = .key key := by
    cases segment with
    | key name => exact congrArg Path.Segment.key (Option.some.inj hkey)
    | _ => cases hkey
  -- the search runs from the end, so that what it has passed stands behind
  refine ⟨after.reverse, before.reverse, ?_, fun name hname => ?_⟩
  · rw [← List.reverse_reverse t.segments, hsplit, hsegment]
    simp
  · have hnot := hnone _ (List.mem_reverse.1 hname)
    cases hnot

/-- A target path has a last key, and its place goes on with items behind it. -/
theorem exists_lastKey?_of_parse {text : String} {t : Path.Target}
    (h : Path.Target.parse text = .ok t) (root : Json) :
    ∃ key front back, lastKey? t = some key ∧
      Path.place t.segments root = front ++ .member key :: back ∧
      ∀ step ∈ back, ∃ position, step = .item position := by
  obtain ⟨name, rest, hfirst⟩ := Path.exists_key_of_parse h
  cases hlast : lastKey? t with
  | none =>
      have hnone := List.findSome?_eq_none_iff.1 hlast (.key name) (by simp [hfirst])
      cases hnone
  | some key =>
      obtain ⟨front, back, hsplit, hback⟩ := exists_split_of_lastKey? hlast
      obtain ⟨inner, hplace⟩ := Path.place_append front (.key key :: back) root
      rw [hsplit, hplace]
      exact ⟨key, _, _, rfl, rfl, Path.exists_item_of_mem_place hback _⟩

namespace Dispatch

open Catalog (Provider Endpoint)

/-! ## The names of a dispatch -/

variable {o : Options} {p : Provider} {credentials : Credentials} {name : String}

theorem mem_fields_maskerOf {n : String} :
    n ∈ (maskerOf o p credentials).fields ↔ n ∈ Masker.defaultFields ∨
      ∃ name ∈ o.sensitiveFields ++ p.sensitiveFields ++ injectedNames p.auth,
        n = Masker.normalName name ∧ n ≠ "" := by
  unfold maskerOf
  rw [Masker.fields_addSecrets, Masker.mem_fields_addFields, Masker.mem_fields_addFields,
    Masker.mem_fields_addFields]
  simp only [Masker.new, List.mem_append, or_assoc, or_and_right, exists_or]

theorem token_maskerOf : (maskerOf o p credentials).token = o.maskToken := by
  unfold maskerOf
  rw [Masker.token_addSecrets, Masker.token_addFields, Masker.token_addFields,
    Masker.token_addFields]
  rfl

/-- A name that the strategy writes to is sensitive just if it is not blank. -/
theorem isSensitive_of_injected (h : name ∈ injectedNames p.auth) :
    (maskerOf o p credentials).isSensitive name = true ↔ Text.isAllBlank name = false := by
  rw [Masker.isSensitive_iff, mem_fields_maskerOf, ← Bool.not_eq_true,
    ← Masker.normalName_eq_empty_iff]
  constructor
  · -- no name that every masker knows is blank
    rintro (hdefault | ⟨_, _, _, hne⟩)
    · intro hempty
      rw [hempty] at hdefault
      exact absurd hdefault (by decide)
    · exact hne
  · intro hne
    exact Or.inr ⟨name, List.mem_append_right _ h, rfl, hne⟩

/-- The masker knows the last key of the path of a signature, unless the key is blank. -/
theorem isSensitive_lastKey {path key : String} {t : Path.Target}
    (hstrategy : p.auth = .formula (.body path)) (hparse : Path.Target.parse path = .ok t)
    (hlast : lastKey? t = some key) :
    (maskerOf o p credentials).isSensitive key = true ↔ Text.isAllBlank key = false := by
  refine isSensitive_of_injected ?_
  rw [hstrategy, injectedNames, hparse]
  simp [hlast]

theorem isBlank_eq_false_of_isTokenChar {c : Char} (h : Catalog.isTokenChar c = true) :
    Text.isBlank c = false := by
  have hall : ∀ n ∈ Text.blankCodes, Catalog.isTokenChar (Char.ofNat n) = false := by decide
  refine Bool.eq_false_iff.2 fun hblank => ?_
  have hc := hall c.toNat (Text.toNat_mem_blankCodes hblank)
  rw [Char.ofNat_toNat, h] at hc
  cases hc

/-- The header that an accepted strategy sets has a sensitive name. -/
theorem isSensitive_of_header? {provider : String} (h : Catalog.checkAuth provider p.auth = .ok ())
    (hname : p.auth.header? = some name) : (maskerOf o p credentials).isSensitive name = true := by
  have hinjected : name ∈ injectedNames p.auth := by
    cases hauth : p.auth with
    | anonymous => rw [hauth] at hname; cases hname
    | formula target =>
        cases target with
        | header => rw [hauth] at hname; cases hname; exact List.mem_singleton_self _
        | body => rw [hauth] at hname; cases hname
    | _ => rw [hauth] at hname; cases hname; exact List.mem_singleton_self _
  rw [isSensitive_of_injected hinjected]
  -- a name that was accepted is not empty, and has no blank
  obtain ⟨hne, htoken⟩ := Catalog.isTokenChar_of_header? h hname
  obtain ⟨c, cs, hcs⟩ :=
    List.exists_cons_of_ne_nil fun hnil => hne (String.toList_eq_nil_iff.1 hnil)
  have hc : c ∈ name.toList := hcs ▸ List.mem_cons_self
  rw [Text.isAllBlank, List.all_eq_false]
  exact ⟨c, hc, by simp [isBlank_eq_false_of_isTokenChar (htoken c hc)]⟩

/-! ## What the record has of it -/

variable {document : CatalogDocument} {g : Gateway} {e : Endpoint} {id : RecordId}
  {now : Time.Instant} {script : Script} {cancel : Option Nat} {call : Call}
  {out : OutboundRequest}

/-- The header of the strategy is recorded as the token. -/
theorem Sends.masked_header {r : Run} {b : Built} {s : Seal}
    (h : Sends g p e call r out b s) (hauth : Catalog.checkAuth p.slug p.auth = .ok ())
    (hname : p.auth.header? = some name) :
    r.record.request.headers.named name = [(name, g.options.maskToken)] := by
  obtain ⟨value, _, hheaders, _⟩ := h.header hname
  have hsensitive : r.masker.isSensitive name = true := by
    rw [h.masker]
    exact isSensitive_of_header? hauth hname
  have hrecorded : r.record.request.headers = r.masker.maskHeaders out.headers := by
    rw [← h.shown.2.2]
    rfl
  rw [hrecorded, Masker.named_maskHeaders, hheaders, Headers.named_set]
  show [(name, if r.masker.isSensitive name then r.masker.token else _)] = _
  rw [if_pos hsensitive, h.masker, token_maskerOf]

/-- The body of the record is the masked body that was sent. -/
theorem Sends.masked_body {r : Run} {b : Built} {s : Seal} (h : Sends g p e call r out b s)
    (hquery : e.sendsQuery = false) :
    r.record.request.body = out.body.map r.masker.maskValue := by
  show r.trace.request.body.map r.masker.maskValue = _
  rw [h.shown_body, hquery]
  rfl

/-- The value of a formula stands in a body: under the last key of the path, at what the brackets
behind the key lead to. -/
structure SignedAt (path : String) (formula : Option Expression) (c : Expression.Context)
    (payload : Option Json) (body : Json) (front : List Json.Step) (key : String)
    (back : List Json.Step) (signature : Json) : Prop where
  place : ∃ t, Path.Target.parse path = .ok t ∧ lastKey? t = some key ∧
    Path.place t.segments (payload.getD (.obj [])) = front ++ .member key :: back
  brackets : ∀ step ∈ back, ∃ position, step = .item position
  value : ∃ f, formula = some f ∧ f.eval c = .ok signature
  not_null : signature ≠ .null
  there : body.at? (front ++ .member key :: back) = some signature

/-- A signature with a place in the body stands behind the last key of its path. -/
theorem Sends.exists_signedAt {r : Run} {b : Built} {s : Seal} {path : String}
    (h : Sends g p e call r out b s) (hquery : e.sendsQuery = false)
    (hstrategy : p.auth = .formula (.body path)) :
    ∃ body front key back signature, out.body = some body ∧
      SignedAt path e.mapping.signatureFormula (contextFor g p e call) b.payload body front key back
        signature := by
  have hunsigned : (draftOf p e b).body = b.payload := by
    show (if e.sendsQuery then none else b.payload) = _
    rw [hquery]
    rfl
  obtain ⟨t, f, signature, body, hparse, hf, hvalue, hnull, hbody, hputs⟩ :=
    h.carries.exists_puts hstrategy
  rw [hunsigned] at hputs
  obtain ⟨key, front, back, hlast, hplace, hback⟩ :=
    exists_lastKey?_of_parse hparse (b.payload.getD (.obj []))
  refine ⟨body, front, key, back, signature, hbody, ?_⟩
  exact
    { place := ⟨t, hparse, hlast, hplace⟩
      brackets := hback
      value := ⟨f, hf, hvalue⟩
      not_null := hnull
      there := hplace ▸ hputs.there }

/-- What a strategy writes is not recorded. The header that it sets is recorded as the token. If it
puts a signature into the body, then the member under the last key of the path, with all that the
brackets behind the key lead to, is erased if the key is not blank or a name before it is sensitive.
Otherwise the signature is recorded, as far as it holds no secrets itself. -/
theorem masks_injected (hcompile : document.compile = .ok g.catalog)
    (huse : g.catalog.Usable call.provider call.endpoint p e)
    (hsent : out ∈ (runOn g p e id now script cancel call).requests) :
    let r := runOn g p e id now script cancel call
    let c := contextFor g p e call
    let m := r.masker
    (∀ name ∈ p.auth.header?, ∃ value,
      p.auth.Seals (credentialsFor g p) e.mapping.signatureFormula c out.body
          (.header name value) ∧
        out.headers.named name = [(name, value)] ∧
        r.record.request.headers.named name = [(name, g.options.maskToken)]) ∧
    ∀ path, p.auth = .formula (.body path) → out.method ∉ ["GET", "DELETE", "HEAD"] →
      ∃ payload body front key back signature, Builds e c call.basis payload ∧
        out.body = some body ∧
        SignedAt path e.mapping.signatureFormula c payload body front key back signature ∧
        m.token = g.options.maskToken ∧ r.record.request.body = some (m.maskValue body) ∧
        ((Text.isAllBlank key = false ∨ m.Covers front) →
          m.Erases body (front ++ [.member key])) ∧
        (¬ (Text.isAllBlank key = false ∨ m.Covers front) →
          m.KeepsKeys body (front ++ .member key :: back) →
          (m.maskValue body).at? ((front ++ .member key :: back).map m.maskStep) =
            some (m.maskValue signature)) := by
  intro r c m
  obtain ⟨b, s, hsends⟩ := sends_of_mem_requests hsent
  have hauth := Catalog.checkAuth_of_provider hcompile huse.provider
  constructor
  · intro name hname
    obtain ⟨value, rfl, hheaders, hbody⟩ := hsends.header hname
    refine ⟨value, ?_, ?_, hsends.masked_header hauth hname⟩
    · rw [hbody]
      exact hsends.sealed
    · rw [hheaders]
      exact Headers.named_set _ _ _
  · intro path hstrategy hmethod
    have hquery : e.sendsQuery = false := by
      rw [hsends.method, ← sendsQuery_iff] at hmethod
      exact Bool.eq_false_iff.2 hmethod
    obtain ⟨body, front, key, back, signature, hbody, hsigned⟩ :=
      hsends.exists_signedAt hquery hstrategy
    have hrecorded := hsends.masked_body hquery
    rw [hbody] at hrecorded
    have hmasker : m = maskerOf g.options p (credentialsFor g p) := hsends.masker
    have htoken : m.token = g.options.maskToken := by
      rw [hmasker]
      exact token_maskerOf
    -- the masker knows the key, unless it is blank
    have hkey : m.isSensitive key = true ↔ Text.isAllBlank key = false := by
      obtain ⟨t, hparse, hlast, _⟩ := hsigned.place
      rw [hmasker]
      exact isSensitive_lastKey hstrategy hparse hlast
    refine ⟨b.payload, body, front, key, back, signature, builds_of_built hsends.built, hbody,
      hsigned, htoken, hrecorded, fun hcovers => ?_, fun hcovers hkeys => ?_⟩
    · rw [← hkey] at hcovers
      exact Masker.erases_member hcovers hsigned.there hsigned.not_null
    · rw [← hkey, ← Masker.covers_append_member hsigned.brackets] at hcovers
      exact Masker.at?_maskValue hkeys hcovers hsigned.there

/-! ## A header, a stamp and a blank key -/

/-- The run of an order with a stamp in the body. -/
def stampedRun : Run :=
  runOn (shopGateway stampedCatalog) stampedEndpoint.1 stampedEndpoint.2 firstId ⟨0, 0⟩ accepting
    none orderCall

/-- The body of an order with a member beside its amount. -/
def amountAnd (q : String × Json) : Json := .obj [("amount", .int 3), q]

theorem masks_injected_order :
    (clientShop.compile = .ok clientCatalog ∧
      clientCatalog.Usable orderCall.provider orderCall.endpoint orderEndpoint.1 orderEndpoint.2 ∧
      orderRequest "http://[::1]/orders" [("X-Client", "web"), ("Authorization", "Bearer k-17")] ∈
        orderRun.requests ∧
      orderRun.record.request.headers.named "Authorization" = [("Authorization", "[MASKED]")]) ∧
    ((stampedShop "post").compile = .ok stampedCatalog ∧
      stampedCatalog.Usable orderCall.provider orderCall.endpoint stampedEndpoint.1
        stampedEndpoint.2 ∧
      ⟨"POST", "http://[::1]/orders", [], [], some (amountAnd stamp), 30000⟩ ∈
        stampedRun.requests ∧
      (∃ front, stampedRun.masker.Erases (amountAnd stamp) (front ++ [.member "stamp"])) ∧
      stampedRun.record.request.body =
        some (amountAnd ("auth", .obj [("stamp", .str "[MASKED]")]))) := by
  constructor
  · have hcompile : clientShop.compile = .ok (shopGateway clientCatalog).catalog := eq_ok_get _
    have huse : (shopGateway clientCatalog).catalog.Usable orderCall.provider orderCall.endpoint
        orderEndpoint.1 orderEndpoint.2 :=
      Catalog.dispatchable_eq_ok_iff.1 (eq_ok_get _)
    have hsent : orderRequest "http://[::1]/orders"
        [("X-Client", "web"), ("Authorization", "Bearer k-17")] ∈ orderRun.requests := by
      decide +kernel
    have hheader : orderEndpoint.1.auth.header? = some "Authorization" := by decide +kernel
    obtain ⟨_, _, _, hmasked⟩ := (masks_injected hcompile huse hsent).1 "Authorization" hheader
    exact ⟨hcompile, huse, hsent, hmasked⟩
  · have hcompile : (stampedShop "post").compile = .ok (shopGateway stampedCatalog).catalog :=
      eq_ok_get _
    have huse : (shopGateway stampedCatalog).catalog.Usable orderCall.provider orderCall.endpoint
        stampedEndpoint.1 stampedEndpoint.2 :=
      Catalog.dispatchable_eq_ok_iff.1 (eq_ok_get _)
    have hsent : (⟨"POST", "http://[::1]/orders", [], [], some (amountAnd stamp), 30000⟩ :
        OutboundRequest) ∈ stampedRun.requests := by
      decide +kernel
    have hstrategy : stampedEndpoint.1.auth = .formula (.body "auth.stamp[1]") := by
      decide +kernel
    have hparse : Path.Target.parse "auth.stamp[1]" =
        .ok ⟨"auth.stamp[1]", [.key "auth", .key "stamp", .index 1]⟩ := by
      decide +kernel
    obtain ⟨_, body, front, key, _, _, _, hbody, hsigned, _, _, herases, _⟩ :=
      (masks_injected hcompile huse hsent).2 _ hstrategy (by decide)
    obtain ⟨t, hparse', hlast, _⟩ := hsigned.place
    obtain rfl := Except.ok.inj (hparse.symm.trans hparse')
    obtain rfl : "stamp" = key := Option.some.inj hlast
    obtain rfl : amountAnd stamp = body := Option.some.inj hbody
    refine ⟨hcompile, huse, hsent, ⟨front, herases (Or.inl (by decide))⟩, ?_⟩
    decide +kernel

/-- The bodies of an order that are sent, and the one that is recorded. -/
def sentAndRecorded (document : CatalogDocument) : Option (List (Option Json) × Option Json) := do
  let catalog ← document.compile.toOption
  let (p, e) ← (catalog.dispatchable "shop" "order").toOption
  let r := runOn (shopGateway catalog) p e firstId ⟨0, 0⟩ accepting none orderCall
  return (r.requests.map (·.body), r.record.request.body)

/-- The path is accepted although its last key is blank, and the signature is recorded. -/
theorem recorded_signature :
    sentAndRecorded (shop (.formula (.body "meta. [0]")) "/orders" [] (some "'signed'")) =
      some ([some (amountAnd ("meta", .obj [(" ", .arr [.str "signed"])]))],
        some (amountAnd ("meta", .obj [(" ", .arr [.str "signed"])]))) := by
  decide +kernel

end Dispatch

end ApiGateway
