import ApiGateway.Dispatch.Trace
import ApiGateway.Proofs.Json.Values
import ApiGateway.Proofs.Text.Replacement

/-! # No secret gets past the masker

A masker replaces its secrets one after another, in a text that already holds tokens and the pieces
between them. As long as the token does not expose a secret (as none does that has characters, but
none of the secret), a replacement makes no new occurrence of it, so what one step has removed stays
away (`not_infix_maskWith_of_mem`). The secrets come longest first, which is why a secret that is
too short to be cut out of a text is not all of the text at the end either. `hides_record` carries
this to everything a record keeps.
-/

set_option autoImplicit false

namespace ApiGateway

namespace Masker

/-! ## Maskers as they are made -/

/-- The maskers that can be made: from a token, by adding names and secrets. -/
inductive Made : Masker → Prop where
  | new (token : String) : Made (new token)
  | addField {m : Masker} (name : String) : Made m → Made (m.addField name)
  | addSecret {m : Masker} (secret : String) : Made m → Made (m.addSecret secret)

theorem Made.addSecrets {m : Masker} (h : m.Made) (secrets : List String) :
    (m.addSecrets secrets).Made := by
  unfold Masker.addSecrets
  induction secrets generalizing m with
  | nil => exact h
  | cons s rest ih => exact ih (h.addSecret s)

/-- Of two secrets the one with more bytes comes first. -/
def LongestFirst (secrets : List String) : Prop :=
  secrets.Pairwise fun s t => t.utf8ByteSize ≤ s.utf8ByteSize

theorem mem_insertSecret {secret s : String} {secrets : List String} :
    s ∈ insertSecret secret secrets ↔ s = secret ∨ s ∈ secrets := by
  induction secrets with
  | nil => simp [insertSecret]
  | cons t rest ih =>
      unfold insertSecret
      split
      · rw [List.mem_cons, ih, List.mem_cons]
        tauto
      · rw [List.mem_cons]

theorem longestFirst_insertSecret (secret : String) {secrets : List String}
    (h : LongestFirst secrets) : LongestFirst (insertSecret secret secrets) := by
  induction secrets with
  | nil => exact List.pairwise_singleton _ _
  | cons t rest ih =>
      obtain ⟨ht, hrest⟩ := List.pairwise_cons.1 h
      unfold insertSecret
      split
      · rename_i hle
        refine List.pairwise_cons.2 ⟨fun s hs => ?_, ih hrest⟩
        rcases mem_insertSecret.1 hs with rfl | hs
        · exact hle
        · exact ht s hs
      · rename_i hlt
        refine List.pairwise_cons.2 ⟨fun s hs => ?_, h⟩
        rcases List.mem_cons.1 hs with rfl | hs
        · omega
        · have := ht s hs
          omega

theorem Made.longestFirst {m : Masker} (h : m.Made) : LongestFirst m.secrets := by
  induction h with
  | new token => exact List.Pairwise.nil
  | addField name _ ih =>
      dsimp only [Masker.addField]
      split <;> exact ih
  | addSecret secret _ ih =>
      unfold Masker.addSecret
      split
      · exact ih
      · exact longestFirst_insertSecret secret ih

theorem Made.ne_empty {m : Masker} (h : m.Made) : ∀ s ∈ m.secrets, s ≠ "" := by
  induction h with
  | new token => intro s hs; cases hs
  | addField name _ ih =>
      dsimp only [Masker.addField]
      split <;> exact ih
  | @addSecret m secret _ ih =>
      unfold Masker.addSecret
      split
      · exact ih
      · rename_i hnew
        intro s hs
        rcases mem_insertSecret.1 hs with rfl | hs
        · intro hempty
          simp [hempty] at hnew
        · exact ih s hs

/-! ## Texts -/

/-- A secret cannot be read off a text: it is not all of it, and with at least four bytes it does
not stand anywhere in it. -/
def Conceals (secret text : String) : Prop :=
  text ≠ secret ∧ (minPartBytes ≤ secret.utf8ByteSize → ¬ secret.toList <:+: text.toList)

theorem conceals_of_absent {secret text : String} (h : ¬ secret.toList <:+: text.toList) :
    Conceals secret text :=
  ⟨fun e => h (e ▸ List.infix_rfl), fun _ => h⟩

section

variable {token : String}

/-- A secret does not show in a token that does not expose it. -/
theorem conceals_token {secret : String} (hsecret : secret ≠ "")
    (h : ¬ Text.Exposes token.toList secret.toList) : Conceals secret token := by
  have hne : ¬ secret.toList <:+: [] := fun hi =>
    hsecret (String.toList_eq_nil_iff.1 (List.infix_nil.1 hi))
  exact conceals_of_absent fun hi => h ⟨[], [], by simpa using hi, hne, hne⟩

theorem replaceAll_eq_replaceFrom {pattern : List Char} (hpattern : pattern ≠ [])
    (replacement text : List Char) :
    Text.replaceAll pattern replacement text = Text.replaceFrom pattern replacement 0 text := by
  unfold Text.replaceAll
  rw [if_neg (by simpa using hpattern)]

/-- Masking a secret inside a text replaces its occurrences. -/
theorem replaced_replaceAll {secret : String} (hsecret : secret ≠ "")
    (replacement text : List Char) :
    Text.Replaced secret.toList replacement text
      (Text.replaceAll secret.toList replacement text) := by
  have hne : secret.toList ≠ [] := fun e => hsecret (String.toList_eq_nil_iff.1 e)
  rw [replaceAll_eq_replaceFrom hne]
  exact Text.replaced_replaceFrom hne replacement 0 text

/-- Masking makes no occurrence of a word that the token does not expose. -/
theorem not_infix_maskWith {word : List Char} (h : ¬ Text.Exposes token.toList word)
    {secrets : List String} (hsecrets : ∀ s ∈ secrets, s ≠ "") {text : String}
    (hno : ¬ word <:+: text.toList) : ¬ word <:+: (maskWith token secrets text).toList := by
  induction secrets generalizing text with
  | nil => exact hno
  | cons s rest ih =>
      obtain ⟨hs, hrest⟩ := List.forall_mem_cons.1 hsecrets
      unfold maskWith
      split
      · have hnil : ¬ word <:+: [] := fun hi => hno (hi.trans List.nil_infix)
        exact fun hi => h ⟨[], [], by simpa using hi, hnil, hnil⟩
      · split
        · refine ih hrest ?_
          rw [String.toList_ofList]
          exact fun hi => hno ((replaced_replaceAll hs _ _).infix_text h hi)
        · exact ih hrest hno

/-- A secret of at least four bytes that the token does not expose is in no masked text. -/
theorem not_infix_maskWith_of_mem {secrets : List String} (hsecrets : ∀ s ∈ secrets, s ≠ "")
    {secret : String} (hmem : secret ∈ secrets) (hlong : minPartBytes ≤ secret.utf8ByteSize)
    (h : ¬ Text.Exposes token.toList secret.toList) (text : String) :
    ¬ secret.toList <:+: (maskWith token secrets text).toList := by
  induction secrets generalizing text with
  | nil => cases hmem
  | cons t rest ih =>
      obtain ⟨ht, hrest⟩ := List.forall_mem_cons.1 hsecrets
      unfold maskWith
      split
      · exact (conceals_token (hsecrets secret hmem) h).2 hlong
      · rcases List.mem_cons.1 hmem with rfl | hmem
        · -- the secret is cut out, and no later step brings it back
          rw [if_pos hlong]
          refine not_infix_maskWith h hrest ?_
          rw [String.toList_ofList]
          exact (replaced_replaceAll ht _ _).absent h
        · split
          · exact ih hrest hmem _
          · exact ih hrest hmem text

/-- Secrets of less than four bytes leave a text alone or replace all of it. -/
theorem maskWith_of_short {secrets : List String}
    (h : ∀ s ∈ secrets, s.utf8ByteSize < minPartBytes) (text : String) :
    maskWith token secrets text = text ∨ maskWith token secrets text = token := by
  induction secrets with
  | nil => exact Or.inl rfl
  | cons s rest ih =>
      have hs : ¬ minPartBytes ≤ s.utf8ByteSize := by
        have := h s List.mem_cons_self
        omega
      unfold maskWith
      rw [if_neg hs]
      split
      · exact Or.inr rfl
      · exact ih fun t ht => h t (List.mem_cons_of_mem _ ht)

/-- A secret of less than four bytes that the token does not expose is not all of a masked text. -/
theorem maskWith_ne_of_short {secrets : List String} (horder : LongestFirst secrets)
    {secret : String} (hmem : secret ∈ secrets) (hshort : secret.utf8ByteSize < minPartBytes)
    (htoken : token ≠ secret) (text : String) : maskWith token secrets text ≠ secret := by
  induction secrets generalizing text with
  | nil => cases hmem
  | cons t rest ih =>
      obtain ⟨hlonger, hrest⟩ := List.pairwise_cons.1 horder
      unfold maskWith
      split
      · exact htoken
      · rename_i htext
        rcases List.mem_cons.1 hmem with rfl | hmem
        · -- all secrets that follow are short too
          have hshorter : ∀ u ∈ rest, u.utf8ByteSize < minPartBytes := fun u hu =>
            Nat.lt_of_le_of_lt (hlonger u hu) hshort
          rw [if_neg (Nat.not_le_of_lt hshort)]
          rcases maskWith_of_short hshorter text with e | e
          · rw [e]
            exact htext
          · rw [e]
            exact htoken
        · split
          · exact ih hrest hmem _
          · exact ih hrest hmem text

/-- After masking, no secret that the token does not expose can be read off a text. -/
theorem maskWith_hides {secrets : List String} (horder : LongestFirst secrets)
    (hsecrets : ∀ s ∈ secrets, s ≠ "") {secret : String} (hmem : secret ∈ secrets)
    (h : ¬ Text.Exposes token.toList secret.toList) (text : String) :
    Conceals secret (maskWith token secrets text) := by
  rcases Nat.lt_or_ge secret.utf8ByteSize minPartBytes with hshort | hlong
  · have htoken := (conceals_token (hsecrets secret hmem) h).1
    exact ⟨maskWith_ne_of_short horder hmem hshort htoken text,
      fun hlong => absurd hshort (Nat.not_lt_of_le hlong)⟩
  · exact conceals_of_absent (not_infix_maskWith_of_mem hsecrets hmem hlong h text)

end

/-! ## Trees -/

/-- None of the secrets of a masker can be read off a text. -/
def HidesIn (m : Masker) (text : String) : Prop := ∀ s ∈ m.secrets, Conceals s text

mutual

/-- None of the secrets can be read off a string or a key of a tree, and none is the text of a
number. -/
def HidesInTree (m : Masker) : Json → Prop
  | .null => True
  | .bool _ => True
  | .num n => ∀ s ∈ m.secrets, String.ofList n.text ≠ s
  | .str s => m.HidesIn s
  | .arr items => HidesInItems m items
  | .obj members => HidesInMembers m members

@[inherit_doc HidesInTree]
def HidesInItems (m : Masker) : List Json → Prop
  | [] => True
  | v :: rest => HidesInTree m v ∧ HidesInItems m rest

@[inherit_doc HidesInTree]
def HidesInMembers (m : Masker) : List (String × Json) → Prop
  | [] => True
  | (k, v) :: rest => m.HidesIn k ∧ HidesInTree m v ∧ HidesInMembers m rest

end

theorem hidesInMembers_iff {m : Masker} {members : List (String × Json)} :
    m.HidesInMembers members ↔ ∀ p ∈ members, m.HidesIn p.1 ∧ m.HidesInTree p.2 := by
  induction members with
  | nil => simp [HidesInMembers]
  | cons p rest ih =>
      obtain ⟨k, v⟩ := p
      rw [HidesInMembers, ih, List.forall_mem_cons, and_assoc]

/-- The token of a masker is not empty and has no character in common with a secret. -/
structure Apart (m : Masker) : Prop where
  made : m.Made
  token_ne_empty : m.token ≠ ""
  disjoint : ∀ s ∈ m.secrets, m.token.toList.Disjoint s.toList

variable {m : Masker}

namespace Apart

theorem not_exposes (h : m.Apart) {s : String} (hs : s ∈ m.secrets) :
    ¬ Text.Exposes m.token.toList s.toList :=
  Text.not_exposes_of_disjoint (fun e => h.token_ne_empty (String.toList_eq_nil_iff.1 e))
    (h.disjoint s hs)

theorem hidesIn_maskText (h : m.Apart) (text : String) : m.HidesIn (m.maskText text) :=
  fun _ hs => maskWith_hides h.made.longestFirst h.made.ne_empty hs (h.not_exposes hs) text

theorem hidesIn_token (h : m.Apart) : m.HidesIn m.token :=
  fun s hs => conceals_token (h.made.ne_empty s hs) (h.not_exposes hs)

mutual

/-- No secret can be read off what the masker makes of a tree. -/
theorem hidesInTree_maskValue (h : m.Apart) : (v : Json) → m.HidesInTree (m.maskValue v)
  | .null => trivial
  | .bool _ => trivial
  | .num n => by
      unfold maskValue
      split
      · exact h.hidesIn_token
      · rename_i hno
        intro s hs e
        rw [List.contains_iff_mem, e] at hno
        exact hno hs
  | .str s => h.hidesIn_maskText s
  | .arr items => hidesInItems_maskItems h items
  | .obj members => by
      refine hidesInMembers_iff.2 fun p hp => ?_
      rcases Json.mem_insertAll hp with hp | hp
      · exact hidesInMembers_iff.1 (hidesInMembers_maskMembers h members) p hp
      · cases hp

theorem hidesInItems_maskItems (h : m.Apart) :
    (items : List Json) → m.HidesInItems (m.maskItems items)
  | [] => trivial
  | v :: rest => ⟨hidesInTree_maskValue h v, hidesInItems_maskItems h rest⟩

theorem hidesInMembers_maskMembers (h : m.Apart) :
    (members : List (String × Json)) → m.HidesInMembers (m.maskMembers members)
  | [] => trivial
  | (k, v) :: rest => by
      refine ⟨h.hidesIn_maskText k, ?_, hidesInMembers_maskMembers h rest⟩
      split
      · exact h.hidesIn_token
      · exact hidesInTree_maskValue h v

end

theorem hidesIn_maskHeaders (h : m.Apart) {headers : Headers} :
    ∀ p ∈ m.maskHeaders headers, m.HidesIn p.2 := by
  intro p hp
  obtain ⟨⟨name, value⟩, _, rfl⟩ := List.mem_map.1 hp
  dsimp only
  split
  · exact h.hidesIn_token
  · exact h.hidesIn_maskText value

theorem hidesInTree_of_isClean (h : m.Apart) {v : Json} (hv : m.isClean v = true) :
    m.HidesInTree v := by
  have e : m.maskValue v = v := eq_of_beq hv
  rw [← e]
  exact h.hidesInTree_maskValue v

end Apart

/-! ## Records -/

/-- No secret can be read off what a record tells about the request, the answer and the failure of
its dispatch, nor off the inputs that it keeps. -/
structure HidesInRecord (m : Masker) (r : Record) : Prop where
  url : m.HidesIn r.request.url
  requestHeaders : ∀ h ∈ r.request.headers, m.HidesIn h.2
  requestBody : ∀ v ∈ r.request.body, m.HidesInTree v
  responseHeaders : ∀ a ∈ r.response, ∀ h ∈ a.headers, m.HidesIn h.2
  responseBody : ∀ a ∈ r.response, ∀ v ∈ a.body, m.HidesInTree v
  message : ∀ e ∈ r.error, m.HidesIn e.message
  model : ∀ v ∈ r.inputs.model, m.HidesInTree v
  payload : ∀ v ∈ r.inputs.payload, m.HidesInTree v
  path : ∀ s ∈ r.inputs.path, m.HidesIn s
  headers : ∀ hs ∈ r.inputs.headers, ∀ h ∈ hs, m.HidesIn h.2

/-- A masker whose token is not empty and shares no character with a secret hides its secrets from
the record of every trace. -/
theorem hides_record (hm : m.Made) (htoken : m.token ≠ "")
    (hdisjoint : ∀ s ∈ m.secrets, m.token.toList.Disjoint s.toList) (t : Dispatch.Trace)
    (latency : UInt64) : m.HidesInRecord (t.record m latency) := by
  have h : m.Apart := ⟨hm, htoken, hdisjoint⟩
  refine
    { url := h.hidesIn_maskText _
      requestHeaders := h.hidesIn_maskHeaders
      requestBody := ?requestBody
      responseHeaders := ?responseHeaders
      responseBody := ?responseBody
      message := ?message
      model := ?model
      payload := ?payload
      path := ?path
      headers := ?headers }
  case requestBody =>
    intro v hv
    obtain ⟨body, _, rfl⟩ := Option.map_eq_some_iff.1 hv
    exact h.hidesInTree_maskValue body
  case responseHeaders =>
    intro a ha
    obtain ⟨answer, _, rfl⟩ := Option.map_eq_some_iff.1 ha
    exact h.hidesIn_maskHeaders
  case responseBody =>
    intro a ha v hv
    obtain ⟨answer, _, rfl⟩ := Option.map_eq_some_iff.1 ha
    obtain ⟨body, _, rfl⟩ := Option.map_eq_some_iff.1 hv
    exact h.hidesInTree_maskValue body
  case message =>
    intro e he
    obtain ⟨failure, _, rfl⟩ := Option.map_eq_some_iff.1 he
    exact h.hidesIn_maskText failure.message
  case model =>
    intro v hv
    exact h.hidesInTree_of_isClean (Option.mem_filter_iff.1 hv).2
  case payload =>
    intro v hv
    exact h.hidesInTree_of_isClean (Option.mem_filter_iff.1 hv).2
  case path =>
    intro s hs
    have e : m.maskText s = s := eq_of_beq (Option.mem_filter_iff.1 hs).2
    rw [← e]
    exact h.hidesIn_maskText s
  case headers =>
    intro hs hkept
    have e : m.maskHeaders hs = hs := eq_of_beq (Option.mem_filter_iff.1 hkept).2
    rw [← e]
    exact h.hidesIn_maskHeaders

/-- Secrets that overlap and contain each other, one too short to be cut out of a text, and one of
digits. -/
def overlappingSecrets : Masker :=
  (new "[MASKED]").addSecrets ["bcde", "abcdef", "efghab", "cd", "4217"]

/-- A dispatch that holds secrets in its URL, headers and body, across one another and as a
number. -/
def leakyTrace : Dispatch.Trace where
  id := .ofMoment 0 0
  provider := "payments"
  endpoint := "charge"
  environment := "sandbox"
  createdAt := ⟨0, 0⟩
  subject := none
  replayOf := none
  stage := .sending
  request :=
    { method := "POST"
      url := "https://vendor.test/abcdefghabcde"
      headers := [("X-Trace", "bcdefghab"), ("Cookie", "cd")]
      body := some (.obj [("abcdef", .int 4217), ("cd", .arr [.str "cd", .str "xcdx"])]) }
  error := some ⟨.transport, .sending, "no route to efghabcdef", none⟩
  inputs := { model := some (.str "abcdefgh"), path := some "/bcdef" }

theorem hides_record_overlappingSecrets :
    overlappingSecrets.Made ∧ overlappingSecrets.token ≠ "" ∧
      (∀ s ∈ overlappingSecrets.secrets, overlappingSecrets.token.toList.Disjoint s.toList) ∧
      overlappingSecrets.HidesInRecord (leakyTrace.record overlappingSecrets 12) := by
  have hm : overlappingSecrets.Made := Made.addSecrets (.new _) _
  have htoken : overlappingSecrets.token ≠ "" := by decide
  have hdisjoint :
      ∀ s ∈ overlappingSecrets.secrets, overlappingSecrets.token.toList.Disjoint s.toList := by
    have hs : overlappingSecrets.secrets = ["abcdef", "efghab", "bcde", "4217", "cd"] := by decide
    have ht : overlappingSecrets.token = "[MASKED]" := by decide
    rw [hs, ht]
    simp [List.disjoint_left]
  exact ⟨hm, htoken, hdisjoint, hides_record hm htoken hdisjoint leakyTrace 12⟩

example : overlappingSecrets.maskText "cd-abcdefghabcde" = "cd-[MASKED]gha[MASKED]" := by decide

end Masker

end ApiGateway
