import ApiGateway.Dispatch.Trace
import Mathlib.Data.List.Forall2
import Mathlib.Data.Option.Basic

/-! # Records do not depend on what is masked

What stands under a sensitive name leaves no mark on a record. `Alike` relates two trees that differ
at most there, at any depth: a value that is not null may become any other value that is not null,
of whatever kind and size. Masking makes one tree of the two (`Alike.maskValue_eq`), so that traces
which differ in this way give records with the same request and the same response
(`recorded_alike`).

Only whether a value is null can be told from a record; this is why a null stands against null.
-/

set_option autoImplicit false

namespace ApiGateway.Masker

/-! ## Trees -/

mutual

/-- The trees are the same but for values under sensitive names, which are null in neither. -/
inductive Alike (m : Masker) : Json → Json → Prop where
  | refl (v : Json) : Alike m v v
  | arr {items items' : List Json} (inside : AlikeItems m items items') :
      Alike m (.arr items) (.arr items')
  | obj {members members' : List (String × Json)} (inside : AlikeMembers m members members') :
      Alike m (.obj members) (.obj members')

/-- Item by item, the trees are alike. -/
inductive AlikeItems (m : Masker) : List Json → List Json → Prop where
  | nil : AlikeItems m [] []
  | cons {v w : Json} {items items' : List Json} (first : Alike m v w)
      (rest : AlikeItems m items items') : AlikeItems m (v :: items) (w :: items')

/-- Key by key, the trees are alike, or hidden by a sensitive name. -/
inductive AlikeMembers (m : Masker) : List (String × Json) → List (String × Json) → Prop where
  | nil : AlikeMembers m [] []
  | shown {key : String} {v w : Json} {members members' : List (String × Json)}
      (first : Alike m v w) (rest : AlikeMembers m members members') :
      AlikeMembers m ((key, v) :: members) ((key, w) :: members')
  | hidden {key : String} {v w : Json} {members members' : List (String × Json)}
      (sensitive : m.isSensitive key = true) (left : v ≠ .null) (right : w ≠ .null)
      (rest : AlikeMembers m members members') :
      AlikeMembers m ((key, v) :: members) ((key, w) :: members')

end

/-- What the masker makes of a value under a name. -/
def maskMember (m : Masker) (key : String) (v : Json) : Json :=
  if m.isSensitive key && v != .null then .str m.token else m.maskValue v

variable {m : Masker}

theorem maskMembers_cons (key : String) (v : Json) (members : List (String × Json)) :
    m.maskMembers ((key, v) :: members) =
      (m.maskText key, m.maskMember key v) :: m.maskMembers members := rfl

theorem maskMember_of_sensitive {key : String} {v : Json} (h : m.isSensitive key = true)
    (hv : v ≠ .null) : m.maskMember key v = .str m.token := by
  unfold maskMember
  rw [if_pos]
  rw [h, Bool.true_and, bne_iff_ne]
  exact hv

theorem maskMember_of_not_sensitive {key : String} (h : m.isSensitive key = false) (v : Json) :
    m.maskMember key v = m.maskValue v := by
  unfold maskMember
  rw [h, Bool.false_and, if_neg Bool.false_ne_true]

/-- A tree that is like null is null. -/
theorem Alike.eq_null_iff {v w : Json} (h : m.Alike v w) : v = .null ↔ w = .null := by
  cases h with
  | refl => rfl
  | arr => exact ⟨nofun, nofun⟩
  | obj => exact ⟨nofun, nofun⟩

theorem Alike.maskMember_eq {v w : Json} (h : m.Alike v w)
    (heq : m.maskValue v = m.maskValue w) (key : String) :
    m.maskMember key v = m.maskMember key w := by
  cases hkey : m.isSensitive key with
  | false => rw [maskMember_of_not_sensitive hkey, maskMember_of_not_sensitive hkey, heq]
  | true =>
      -- a null is shown under any name, and stands against a null
      by_cases hv : v = .null
      · rw [hv, h.eq_null_iff.1 hv]
      · rw [maskMember_of_sensitive hkey hv,
          maskMember_of_sensitive hkey fun hw => hv (h.eq_null_iff.2 hw)]

mutual

/-- Masking makes one tree of two that are alike. -/
theorem Alike.maskValue_eq {v w : Json} : m.Alike v w → m.maskValue v = m.maskValue w
  | .refl _ => rfl
  | .arr inside => by rw [maskValue, maskValue, inside.maskItems_eq]
  | .obj inside => by rw [maskValue, maskValue, inside.maskMembers_eq]

theorem AlikeItems.maskItems_eq {items items' : List Json} :
    AlikeItems m items items' → m.maskItems items = m.maskItems items'
  | .nil => rfl
  | .cons first rest => by
      rw [maskItems, maskItems, first.maskValue_eq, rest.maskItems_eq]

theorem AlikeMembers.maskMembers_eq {members members' : List (String × Json)} :
    AlikeMembers m members members' → m.maskMembers members = m.maskMembers members'
  | .nil => rfl
  | @AlikeMembers.shown _ key _ _ _ _ first rest => by
      rw [maskMembers_cons, maskMembers_cons, first.maskMember_eq first.maskValue_eq key,
        rest.maskMembers_eq]
  | .hidden sensitive left right rest => by
      rw [maskMembers_cons, maskMembers_cons, maskMember_of_sensitive sensitive left,
        maskMember_of_sensitive sensitive right, rest.maskMembers_eq]

end

/-- Functions that agree on related values agree on what may be missing on both sides. -/
theorem map_eq_of_rel {α β γ : Type} {R : α → β → Prop} {f : α → γ} {g : β → γ}
    (hfg : ∀ a b, R a b → f a = g b) {x : Option α} {y : Option β} (h : Option.Rel R x y) :
    x.map f = y.map g := by
  cases h with
  | some h => exact congrArg some (hfg _ _ h)
  | none => rfl

theorem map_maskValue_eq {v w : Option Json} (h : Option.Rel m.Alike v w) :
    v.map m.maskValue = w.map m.maskValue := by
  refine map_eq_of_rel (fun a b hab => ?_) h
  exact hab.maskValue_eq

/-! ## Headers -/

/-- The same names in the same order, with the same values but for those of sensitive names. -/
def AlikeHeaders (m : Masker) : Headers → Headers → Prop :=
  List.Forall₂ fun h k => h.1 = k.1 ∧ (m.isSensitive h.1 = true ∨ h.2 = k.2)

theorem AlikeHeaders.maskHeaders_eq {headers headers' : Headers}
    (h : m.AlikeHeaders headers headers') : m.maskHeaders headers = m.maskHeaders headers' := by
  induction h with
  | nil => rfl
  | @cons h k headers headers' hk _ ih =>
      obtain ⟨name, value⟩ := h
      obtain ⟨name', value'⟩ := k
      obtain ⟨rfl, hvalue⟩ := hk
      refine congrArg₂ (List.cons · ·) ?_ ih
      rcases hvalue with hsensitive | rfl
      · exact congrArg (Prod.mk name) ((if_pos hsensitive).trans (if_pos hsensitive).symm)
      · rfl

/-! ## Traces -/

/-- The traces sent and received the same but for values under sensitive names: in the headers and
the body of the request, and in the headers and the value of the body of the answer. -/
structure AlikeTraces (m : Masker) (s t : Dispatch.Trace) : Prop where
  method : s.request.method = t.request.method
  url : s.request.url = t.request.url
  headers : m.AlikeHeaders s.request.headers t.request.headers
  body : Option.Rel m.Alike s.request.body t.request.body
  answer : Option.Rel (fun a b => a.status = b.status ∧ m.AlikeHeaders a.headers b.headers)
    s.answer t.answer
  answerBody : Option.Rel m.Alike s.body t.body

/-- The records of traces that are alike show the same request and the same response, whatever else
the traces hold: nothing about a value under a sensitive name reaches them, neither its kind nor its
size. -/
theorem recorded_alike {s t : Dispatch.Trace} (h : m.AlikeTraces s t) (latency latency' : UInt64) :
    (s.record m latency).request = (t.record m latency').request ∧
      (s.record m latency).response = (t.record m latency').response := by
  constructor
  · show m.maskRequest s.request = m.maskRequest t.request
    unfold maskRequest
    rw [h.method, h.url, h.headers.maskHeaders_eq, map_maskValue_eq h.body]
  · refine map_eq_of_rel (fun a b hanswer => ?_) h.answer
    obtain ⟨hstatus, hheaders⟩ := hanswer
    unfold maskAnswer
    rw [hstatus, hheaders.maskHeaders_eq, map_maskValue_eq h.answerBody]

/-! ## Two logins -/

/-- A masker with a name and a secret of its own. -/
def loginMasker : Masker := ((new defaultToken).addField "pin").addSecret "k-1789"

/-- A login: one sensitive name stands in an array, under a key that masking rewrites. -/
def loginBody (pin key : Json) : Json :=
  .obj [("accounts", .arr [.obj [("PIN ", pin), ("client k-1789", .obj [(" Api-Key", key)])]]),
    ("user", .str "ada")]

/-- The trace of a login. -/
def loginTrace (cookie : String) (body token : Json) : Dispatch.Trace where
  id := .ofMoment 0 1
  provider := "shop"
  endpoint := "login"
  environment := "live"
  createdAt := ⟨0, 0⟩
  subject := none
  replayOf := none
  stage := .sending
  request :=
    { method := "POST", url := "http://[::1]/login", headers := [("Cookie", cookie)],
      body := some body }
  answer := some ⟨200, [("Set-Cookie", cookie), ("Server", "shop")], ""⟩
  body := some (.obj [("token", token)])

theorem recorded_alike_login :
    let s := loginTrace "" (loginBody (.int 1234) (.str "k-1789")) (.bool true)
    let t := loginTrace "session=1" (loginBody (.arr []) (.obj [("a", .null)])) (.str "t-1")
    let masked : Json := .str "[MASKED]"
    loginMasker.AlikeTraces s t ∧
      (s.record loginMasker 0).request = (t.record loginMasker 1).request ∧
      (s.record loginMasker 0).response = (t.record loginMasker 1).response ∧
      (t.record loginMasker 1).request.body =
        some (.obj
          [("accounts",
              .arr [.obj [("PIN ", masked), ("client [MASKED]", .obj [(" Api-Key", masked)])]]),
            ("user", .str "ada")]) := by
  intro s t masked
  have hlogin : loginMasker.Alike (loginBody (.int 1234) (.str "k-1789"))
      (loginBody (.arr []) (.obj [("a", .null)])) := by
    have hclient : loginMasker.Alike (.obj [(" Api-Key", .str "k-1789")])
        (.obj [(" Api-Key", .obj [("a", .null)])]) :=
      .obj (.hidden (by decide +kernel) nofun nofun .nil)
    have haccount : loginMasker.Alike
        (.obj [("PIN ", .int 1234), ("client k-1789", .obj [(" Api-Key", .str "k-1789")])])
        (.obj [("PIN ", .arr []), ("client k-1789", .obj [(" Api-Key", .obj [("a", .null)])])]) :=
      .obj (.hidden (by decide +kernel) nofun nofun (.shown hclient .nil))
    exact .obj (.shown (.arr (.cons haccount .nil)) (.shown (.refl _) .nil))
  have hcookie : ∀ name, loginMasker.isSensitive name = true → ∀ headers : Headers,
      loginMasker.AlikeHeaders ((name, "") :: headers) ((name, "session=1") :: headers) :=
    fun name hname headers =>
      .cons ⟨rfl, Or.inl hname⟩ (List.forall₂_same.2 fun _ _ => ⟨rfl, Or.inr rfl⟩)
  have halike : loginMasker.AlikeTraces s t :=
    { method := rfl
      url := rfl
      headers := hcookie "Cookie" (by decide +kernel) []
      body := .some hlogin
      answer := .some ⟨rfl, hcookie "Set-Cookie" (by decide +kernel) _⟩
      answerBody := .some (.obj (.hidden (by decide +kernel) nofun nofun .nil)) }
  obtain ⟨hrequest, hresponse⟩ := recorded_alike halike 0 1
  exact ⟨halike, hrequest, hresponse, by decide +kernel⟩

end ApiGateway.Masker
