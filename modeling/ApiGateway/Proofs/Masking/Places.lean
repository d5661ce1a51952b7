import ApiGateway.Proofs.Json.Growth
import ApiGateway.Proofs.Json.Values
import ApiGateway.Proofs.Masking.Independence

/-! # What masking makes of a place

A place is covered if a name on the way to it is sensitive. What stands at a covered place leaves no
mark on the masked value (`maskValue_eq_of_covers`): a member on the way has become the token
(`exists_token_of_covers`). What stands at a place that is not covered stands there masked
(`at?_maskValue`).

Masking rewrites keys too, and two keys of one object may become one. The last two results therefore
ask that this does not happen on the way.
-/

set_option autoImplicit false

namespace ApiGateway.Masker

open Json (Step SameBut)

/-- The step leads to a member with a sensitive name. -/
def Hides (m : Masker) : Step → Prop
  | .member name => m.isSensitive name = true
  | .item _ => False

/-- Some step on the way to a place leads to a member with a sensitive name. -/
def Covers (m : Masker) (place : List Step) : Prop := ∃ step ∈ place, m.Hides step

/-- Masking keeps apart the keys of every object on the way to a place. -/
def KeepsKeys (m : Masker) (v : Json) (place : List Step) : Prop :=
  ∀ front members, front <+: place → v.at? front = some (.obj members) →
    (members.map fun q => m.maskText q.1).Nodup

/-- A step as masking leaves it. -/
def maskStep (m : Masker) : Step → Step
  | .member name => .member (m.maskText name)
  | .item position => .item position

variable {m : Masker}

theorem covers_cons {step : Step} {place : List Step} :
    m.Covers (step :: place) ↔ m.Hides step ∨ m.Covers place := by
  simp [Covers]

theorem Covers.of_prefix {front place : List Step} (h : m.Covers front)
    (hfront : front <+: place) : m.Covers place := by
  obtain ⟨step, hstep, hides⟩ := h
  exact ⟨step, hfront.subset hstep, hides⟩

/-- Steps to items behind a member cover nothing more. -/
theorem covers_append_member {front back : List Step} {key : String}
    (hback : ∀ step ∈ back, ∃ position, step = .item position) :
    m.Covers (front ++ .member key :: back) ↔ m.isSensitive key = true ∨ m.Covers front := by
  constructor
  · rintro ⟨step, hstep, hides⟩
    rcases List.mem_append.1 hstep with hstep | hstep
    · exact Or.inr ⟨step, hstep, hides⟩
    · rcases List.mem_cons.1 hstep with rfl | hstep
      · exact Or.inl hides
      · obtain ⟨position, rfl⟩ := hback step hstep
        exact hides.elim
  · rintro (hsensitive | hfront)
    · exact ⟨.member key, List.mem_append_right _ List.mem_cons_self, hsensitive⟩
    · exact hfront.of_prefix (List.prefix_append _ _)

/-! ## Covered places -/

theorem AlikeItems.refl (items : List Json) : AlikeItems m items items := by
  induction items with
  | nil => exact .nil
  | cons v items ih => exact .cons (.refl v) ih

theorem AlikeMembers.refl (members : List (String × Json)) : AlikeMembers m members members := by
  induction members with
  | nil => exact .nil
  | cons q members ih => exact .shown (.refl q.2) ih

theorem AlikeItems.append (before : List Json) {items items' : List Json}
    (h : AlikeItems m items items') : AlikeItems m (before ++ items) (before ++ items') := by
  induction before with
  | nil => exact h
  | cons v before ih => exact .cons (.refl v) ih

theorem AlikeMembers.append (before : List (String × Json))
    {members members' : List (String × Json)} (h : AlikeMembers m members members') :
    AlikeMembers m (before ++ members) (before ++ members') := by
  induction before with
  | nil => exact h
  | cons q before ih => exact .shown (.refl q.2) ih

/-- Values that differ at a covered place only are alike. -/
theorem alike_of_sameBut {place : List Step} {v w : Json} (h : SameBut place v w)
    (hcovers : m.Covers place) : m.Alike v w := by
  induction h with
  | here =>
      obtain ⟨step, hstep, _⟩ := hcovers
      cases hstep
  | @member name place v w before after _ inside ih =>
      refine .obj (.append before ?_)
      -- the name hides all that differs, or else the rest of the place is covered
      rcases covers_cons.1 hcovers with hsensitive | hcovers
      · exact .hidden hsensitive inside.ne_null.1 inside.ne_null.2 (.refl after)
      · exact .shown (ih hcovers) (.refl after)
  | @item place v w before after _ ih =>
      rcases covers_cons.1 hcovers with hfalse | hcovers
      · exact hfalse.elim
      · exact .arr (.append before (.cons (ih hcovers) (.refl after)))

/-- What stands at a covered place leaves no mark. -/
theorem maskValue_eq_of_covers {place : List Step} {v w : Json} (h : SameBut place v w)
    (hcovers : m.Covers place) : m.maskValue v = m.maskValue w :=
  (alike_of_sameBut h hcovers).maskValue_eq

/-! ## One step -/

theorem maskItems_eq_map (items : List Json) : m.maskItems items = items.map m.maskValue := by
  induction items with
  | nil => rfl
  | cons v items ih => rw [maskItems, ih, List.map_cons]

theorem find?_maskMembers {name : String} {u : Json} {members : List (String × Json)}
    (hkeys : (members.map fun q => m.maskText q.1).Nodup) (h : Json.find? name members = some u) :
    Json.find? (m.maskText name) (m.maskMembers members) = some (m.maskMember name u) := by
  induction members with
  | nil => cases h
  | cons q members ih =>
      obtain ⟨k, v⟩ := q
      obtain ⟨hk, hrest⟩ := List.nodup_cons.1 hkeys
      rw [Json.find?] at h
      rw [maskMembers_cons, Json.find?]
      split at h
      · rename_i heq
        cases h
        rw [heq, if_pos rfl]
      · -- the masked key of a member in front is not the masked name, which comes later
        have hmem : m.maskText name ∈ members.map fun q => m.maskText q.1 := by
          obtain ⟨before, after, _, rfl⟩ := Json.exists_of_find?_eq_some h
          exact List.mem_map.2 ⟨(name, u), List.mem_append_right _ List.mem_cons_self, rfl⟩
        have hne : m.maskText k ≠ m.maskText name := by
          intro heq
          rw [← heq] at hmem
          exact hk hmem
        rw [if_neg hne]
        exact ih hrest h

theorem names_maskMembers (members : List (String × Json)) :
    (m.maskMembers members).map (·.1) = members.map fun q => m.maskText q.1 := by
  induction members with
  | nil => rfl
  | cons q members ih => rw [maskMembers_cons, List.map_cons, List.map_cons, ih]

/-- A member stands under its masked key as the masker makes it. -/
theorem child?_member {name : String} {u : Json} {members : List (String × Json)}
    (hkeys : (members.map fun q => m.maskText q.1).Nodup) (h : Json.find? name members = some u) :
    (Step.member (m.maskText name)).child? (m.maskValue (.obj members)) =
      some (m.maskMember name u) := by
  have hnames : ((m.maskMembers members).map (·.1)).Nodup := by rwa [names_maskMembers]
  show Json.find? _ (Json.insertAll (m.maskMembers members) []) = _
  rw [Json.find?_insertAll hnames, find?_maskMembers hkeys h]
  rfl

/-- A step that is not to a sensitive name leads to the masked value. -/
theorem child?_maskValue {v u : Json} {step : Step}
    (hkeys : ∀ members, v = .obj members → (members.map fun q => m.maskText q.1).Nodup)
    (hshown : ¬ m.Hides step) (h : step.child? v = some u) :
    (m.maskStep step).child? (m.maskValue v) = some (m.maskValue u) := by
  cases step with
  | member name =>
      cases v with
      | obj members =>
          rw [← maskMember_of_not_sensitive (Bool.eq_false_iff.2 hshown) u]
          exact child?_member (hkeys members rfl) h
      | _ => cases h
  | item position =>
      cases v with
      | arr items =>
          show (m.maskItems items)[position]? = _
          rw [maskItems_eq_map, List.getElem?_map]
          exact congrArg (Option.map m.maskValue) h
      | _ => cases h

theorem KeepsKeys.root {v : Json} {place : List Step} (h : m.KeepsKeys v place) :
    ∀ members, v = .obj members → (members.map fun q => m.maskText q.1).Nodup :=
  fun members hv => h [] members List.nil_prefix (congrArg some hv)

theorem KeepsKeys.child {v u : Json} {step : Step} {place : List Step}
    (h : m.KeepsKeys v (step :: place)) (hu : step.child? v = some u) : m.KeepsKeys u place := by
  intro front members hfront hat
  refine h (step :: front) members (List.cons_prefix_cons.2 ⟨rfl, hfront⟩) ?_
  rw [Json.at?, hu]
  exact hat

/-! ## Whole places -/

/-- What stands at a place that is not covered stands there masked. -/
theorem at?_maskValue {place : List Step} {v w : Json} (hkeys : m.KeepsKeys v place)
    (hcovers : ¬ m.Covers place) (h : v.at? place = some w) :
    (m.maskValue v).at? (place.map m.maskStep) = some (m.maskValue w) := by
  induction place generalizing v with
  | nil =>
      cases h
      rfl
  | cons step place ih =>
      rw [covers_cons, not_or] at hcovers
      obtain ⟨hstep, hplace⟩ := hcovers
      obtain ⟨u, hu, h⟩ := Option.bind_eq_some_iff.1 h
      rw [List.map_cons, Json.at?, child?_maskValue hkeys.root hstep hu, Option.bind_some]
      exact ih (hkeys.child hu) hplace h

/-- On the way to a covered place a member has become the token. -/
theorem exists_token_of_covers {place : List Step} {v w : Json} (hkeys : m.KeepsKeys v place)
    (hcovers : m.Covers place) (h : v.at? place = some w) (hw : w ≠ .null) :
    ∃ front name, front ++ [.member name] <+: place ∧ m.isSensitive name = true ∧
      (m.maskValue v).at? ((front ++ [.member name]).map m.maskStep) = some (.str m.token) := by
  induction place generalizing v with
  | nil =>
      obtain ⟨step, hstep, _⟩ := hcovers
      cases hstep
  | cons step place ih =>
      obtain ⟨u, hu, hrest⟩ := Option.bind_eq_some_iff.1 h
      by_cases hstep : m.Hides step
      · -- the first name that is sensitive: below it nothing is masked any more
        cases step with
        | item position => exact hstep.elim
        | member name =>
            have hnull : u ≠ .null := Json.ne_null_of_at? hrest hw
            refine ⟨[], name, List.prefix_iff_exists_append_eq.2 ⟨place, rfl⟩, hstep, ?_⟩
            cases v with
            | obj members =>
                have hchild := child?_member (hkeys.root members rfl) hu
                rw [maskMember_of_sensitive hstep hnull] at hchild
                show ((Step.member (m.maskText name)).child? _).bind _ = _
                rw [hchild]
                rfl
            | _ => cases hu
      · -- the token stands further inside
        have hinside := (covers_cons.1 hcovers).resolve_left hstep
        obtain ⟨front, name, hfront, hsensitive, htoken⟩ := ih (hkeys.child hu) hinside hrest
        refine ⟨step :: front, name, List.cons_prefix_cons.2 ⟨rfl, hfront⟩, hsensitive, ?_⟩
        rw [List.cons_append, List.map_cons, Json.at?, child?_maskValue hkeys.root hstep hu]
        exact htoken

/-- Where two keys become one, the member behind takes the place of the token. -/
example :
    (((new "[MASKED]").addField "stamp").addSecrets ["stamp", "total"]).maskValue
        (.obj [("stamp", .str "signed"), ("total", .int 3)]) =
      .obj [("[MASKED]", .int 3)] := by
  decide +kernel

end ApiGateway.Masker
