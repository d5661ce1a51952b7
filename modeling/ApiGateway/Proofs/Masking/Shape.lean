import ApiGateway.Dispatch.Trace
import ApiGateway.Proofs.Json.Members
import ApiGateway.Proofs.Masking.Places

/-! # What masking makes of the shape of a value

Masking builds its objects anew, so that their keys ascend whatever order they came in
(`normal_maskValue`). A value that masking leaves alone is therefore normal too.

Masking keeps every item of an array. Since it rewrites keys, an object may lose members: of those
whose keys become one, only the last stays. The shape of a value is kept just if in every object
that is not under a sensitive name the masked keys differ (`maskValue_shape_accounted`).
-/

set_option autoImplicit false

namespace ApiGateway.Masker

open scoped List

/-! ## Keys that ascend -/

section Ascending

variable (m : Masker)

mutual

/-- What the masker makes of a tree is in normal form. -/
theorem normal_maskValue : (v : Json) → (m.maskValue v).Normal
  | .null | .bool _ | .str _ => trivial
  | .num n => by
      unfold maskValue
      split <;> trivial
  | .arr items => normal_maskItems items
  | .obj members => by
      refine ⟨Json.ascending_insertAll _ List.Pairwise.nil, Json.normalMembers_iff.2 fun p hp => ?_⟩
      rcases Json.mem_insertAll hp with hp | hp
      · exact Json.normalMembers_iff.1 (normal_maskMembers members) p hp
      · cases hp

theorem normal_maskItems : (items : List Json) → Json.NormalItems (m.maskItems items)
  | [] => trivial
  | v :: rest => ⟨normal_maskValue v, normal_maskItems rest⟩

theorem normal_maskMembers :
    (members : List (String × Json)) → Json.NormalMembers (m.maskMembers members)
  | [] => trivial
  | (k, v) :: rest => by
      refine ⟨?_, normal_maskMembers rest⟩
      split
      · trivial
      · exact normal_maskValue v

end

variable {m : Masker}

/-- A value that is left alone is in normal form. -/
theorem normal_of_isClean {v : Json} (h : m.isClean v = true) : v.Normal := by
  rw [← eq_of_beq h]
  exact m.normal_maskValue v

theorem names_maskHeaders (headers : Headers) :
    (m.maskHeaders headers).map (·.1) = headers.map (·.1) := by
  rw [maskHeaders, List.map_map]
  rfl

end Ascending

/-! ## The same shape -/

/-- The member is replaced as a whole. -/
def Covered (m : Masker) (key : String) (v : Json) : Prop := m.isSensitive key = true ∧ v ≠ .null

/-- The value is neither an array nor an object. -/
def IsLeaf : Json → Prop
  | .arr _ => False
  | .obj _ => False
  | _ => True

mutual

/-- The second value has the shape of the first one: as many items in each array, in order, and as
many members in each object, each under its masked key. A covered member has become the token. -/
inductive KeepsShape (m : Masker) : Json → Json → Prop where
  | leaf {v w : Json} : IsLeaf v → IsLeaf w → KeepsShape m v w
  | arr {items items' : List Json} :
      KeepsItems m items items' → KeepsShape m (.arr items) (.arr items')
  | obj {members kept members' : List (String × Json)} :
      KeepsMembers m members kept → kept ~ members' → KeepsShape m (.obj members) (.obj members')

/-- Items keep their shapes, one by one. -/
inductive KeepsItems (m : Masker) : List Json → List Json → Prop where
  | nil : KeepsItems m [] []
  | cons {v w : Json} {items items' : List Json} :
      KeepsShape m v w → KeepsItems m items items' → KeepsItems m (v :: items) (w :: items')

/-- Members that are not covered keep their shapes, one by one. -/
inductive KeepsMembers (m : Masker) : List (String × Json) → List (String × Json) → Prop where
  | nil : KeepsMembers m [] []
  | covered {k : String} {v : Json} {members kept : List (String × Json)} :
      m.Covered k v → KeepsMembers m members kept →
        KeepsMembers m ((k, v) :: members) ((m.maskText k, .str m.token) :: kept)
  | shown {k : String} {v w : Json} {members kept : List (String × Json)} :
      ¬m.Covered k v → KeepsShape m v w → KeepsMembers m members kept →
        KeepsMembers m ((k, v) :: members) ((m.maskText k, w) :: kept)

end

mutual

/-- The masked keys of every object differ, covered members apart. -/
def KeysApart (m : Masker) : Json → Prop
  | .arr items => m.KeysApartInItems items
  | .obj members => (members.map fun q => m.maskText q.1).Nodup ∧ m.KeysApartInMembers members
  | _ => True

/-- The masked keys of every object in the items differ. -/
def KeysApartInItems (m : Masker) : List Json → Prop
  | [] => True
  | v :: items => m.KeysApart v ∧ m.KeysApartInItems items

/-- The masked keys of every object in the members differ, covered members apart. -/
def KeysApartInMembers (m : Masker) : List (String × Json) → Prop
  | [] => True
  | (k, v) :: members => (¬m.Covered k v → m.KeysApart v) ∧ m.KeysApartInMembers members

end

variable {m : Masker}

theorem maskMember_of_covered {key : String} {v : Json} (h : m.Covered key v) :
    m.maskMember key v = .str m.token :=
  maskMember_of_sensitive h.1 h.2

theorem maskMember_of_not_covered {key : String} {v : Json} (h : ¬m.Covered key v) :
    m.maskMember key v = m.maskValue v := by
  unfold maskMember
  rw [if_neg]
  rw [Bool.and_eq_true, bne_iff_ne]
  exact h

theorem isLeaf_maskValue {v : Json} (h : IsLeaf v) : IsLeaf (m.maskValue v) := by
  cases v with
  | num n =>
      unfold maskValue
      split <;> trivial
  | arr items => exact h.elim
  | obj members => exact h.elim
  | _ => trivial

theorem maskMembers_eq_map (members : List (String × Json)) :
    m.maskMembers members = members.map fun q => (m.maskText q.1, m.maskMember q.1 q.2) := by
  induction members with
  | nil => rfl
  | cons q members ih => rw [maskMembers_cons, ih, List.map_cons]

/-- The masked members are those of the object just as far as their keys differ. -/
theorem maskMembers_perm {members : List (String × Json)}
    (h : (members.map fun q => m.maskText q.1).Nodup) :
    m.maskMembers members ~ Json.insertAll (m.maskMembers members) [] := by
  refine (Json.insertAll_perm ?_).symm
  rwa [names_maskMembers]

/-! ## Keys that differ -/

mutual

/-- The shape is kept where keys differ. -/
theorem keepsShape_of_keysApart : (v : Json) → m.KeysApart v → m.KeepsShape v (m.maskValue v)
  | .null, _ | .bool _, _ | .str _, _ => .leaf trivial trivial
  | .num n, _ => .leaf trivial (isLeaf_maskValue (v := .num n) trivial)
  | .arr items, h => .arr (keepsItems_of_keysApart items h)
  | .obj members, h => .obj (keepsMembers_of_keysApart members h.2) (maskMembers_perm h.1)

theorem keepsItems_of_keysApart :
    (items : List Json) → m.KeysApartInItems items → m.KeepsItems items (m.maskItems items)
  | [], _ => .nil
  | v :: items, h => .cons (keepsShape_of_keysApart v h.1) (keepsItems_of_keysApart items h.2)

theorem keepsMembers_of_keysApart : (members : List (String × Json)) →
    m.KeysApartInMembers members → m.KeepsMembers members (m.maskMembers members)
  | [], _ => .nil
  | (k, v) :: members, h => by
      have hrest := keepsMembers_of_keysApart members h.2
      rw [maskMembers_cons]
      by_cases hcovered : m.Covered k v
      · rw [maskMember_of_covered hcovered]
        exact .covered hcovered hrest
      · rw [maskMember_of_not_covered hcovered]
        exact .shown hcovered (keepsShape_of_keysApart v (h.1 hcovered)) hrest

end

/-! ## Shapes that are kept -/

theorem KeepsMembers.names {members kept : List (String × Json)} (h : m.KeepsMembers members kept) :
    kept.map (·.1) = members.map fun q => m.maskText q.1 := by
  induction members generalizing kept with
  | nil =>
      cases h
      rfl
  | cons q members ih =>
      cases h with
      | covered _ hrest => rw [List.map_cons, List.map_cons, ih hrest]
      | shown _ _ hrest => rw [List.map_cons, List.map_cons, ih hrest]

/-- Members in the same order under the same different names are the same. -/
theorem eq_of_perm {α β : Type} {kvs kvs' : List (α × β)} (hperm : kvs ~ kvs')
    (hnames : kvs.map (·.1) = kvs'.map (·.1)) (hnodup : (kvs.map (·.1)).Nodup) : kvs = kvs' := by
  induction kvs generalizing kvs' with
  | nil => exact hperm.nil_eq
  | cons q rest ih =>
      cases kvs' with
      | nil => exact absurd hperm.length_eq (Nat.succ_ne_zero _)
      | cons q' rest' =>
          obtain ⟨hfirst, hrest⟩ := List.cons.inj hnames
          obtain ⟨hq, hnodup⟩ := List.nodup_cons.1 hnodup
          -- the member under the first name is the first one of either list
          have hmem : q' ∈ q :: rest := hperm.mem_iff.2 List.mem_cons_self
          have heq : q' = q := by
            rcases List.mem_cons.1 hmem with heq | hin
            · exact heq
            · exact absurd (hfirst ▸ List.mem_map_of_mem hin) hq
          rw [heq] at hperm ⊢
          rw [ih hperm.cons_inv hrest hnodup]

/-- Where an object keeps its shape, its masked keys differ, and it has just the masked members. -/
theorem KeepsShape.members {members : List (String × Json)}
    (h : m.KeepsShape (.obj members) (m.maskValue (.obj members))) :
    (members.map fun q => m.maskText q.1).Nodup ∧
      m.KeepsMembers members (m.maskMembers members) := by
  have hout : m.maskValue (.obj members) =
      .obj (Json.insertAll (m.maskMembers members) []) := by rw [maskValue, Json.ofMembers]
  rw [hout] at h
  cases h with
  | leaf hv _ => exact hv.elim
  | @obj _ kept _ hkept hperm =>
      have hnodup : (kept.map (·.1)).Nodup :=
        (hperm.map _).nodup_iff.2 (Json.nodup_keys_insertAll _)
      have hkeys : (members.map fun q => m.maskText q.1).Nodup := by
        rw [← hkept.names]
        exact hnodup
      have heq : kept = m.maskMembers members := by
        refine eq_of_perm (hperm.trans (maskMembers_perm hkeys).symm) ?_ hnodup
        rw [hkept.names, names_maskMembers]
      rw [heq] at hkept
      exact ⟨hkeys, hkept⟩

mutual

/-- Where the shape is kept, keys differ. -/
theorem keysApart_of_keepsShape : (v : Json) → m.KeepsShape v (m.maskValue v) → m.KeysApart v
  | .null, _ | .bool _, _ | .str _, _ | .num _, _ => trivial
  | .arr items, h => by
      cases h with
      | leaf hv _ => exact hv.elim
      | arr hitems => exact keysApart_of_keepsItems items hitems
  | .obj members, h =>
      ⟨h.members.1, keysApart_of_keepsMembers members h.members.2⟩

theorem keysApart_of_keepsItems :
    (items : List Json) → m.KeepsItems items (m.maskItems items) → m.KeysApartInItems items
  | [], _ => trivial
  | v :: items, h => by
      cases h with
      | cons hfirst hrest =>
          exact ⟨keysApart_of_keepsShape v hfirst, keysApart_of_keepsItems items hrest⟩

theorem keysApart_of_keepsMembers : (members : List (String × Json)) →
    m.KeepsMembers members (m.maskMembers members) → m.KeysApartInMembers members
  | [], _ => trivial
  | (k, v) :: members, h => by
      rw [maskMembers_cons] at h
      generalize hw : m.maskMember k v = w at h
      cases h with
      | covered hcovered hrest =>
          exact ⟨fun hshown => absurd hcovered hshown, keysApart_of_keepsMembers members hrest⟩
      | shown hshown hfirst hrest =>
          rw [← hw, maskMember_of_not_covered hshown] at hfirst
          exact ⟨fun _ => keysApart_of_keepsShape v hfirst, keysApart_of_keepsMembers members hrest⟩

end

/-- **Which shapes masking keeps.** The shape of a value is kept just if the masked keys of its
objects differ. In any case an array keeps its length, and an object has one member for each of its
masked keys, the masked value of the last member with this key. -/
theorem maskValue_shape_accounted (m : Masker) :
    (∀ v, m.KeepsShape v (m.maskValue v) ↔ m.KeysApart v) ∧
    (∀ items, ∃ items', m.maskValue (.arr items) = .arr items' ∧ items'.length = items.length) ∧
    ∀ members, ∃ members', m.maskValue (.obj members) = .obj members' ∧
      members'.map (·.1) ~ (members.map fun q => m.maskText q.1).dedup ∧
      ∀ before k v after, members = before ++ (k, v) :: after →
        (∀ q ∈ after, m.maskText k ≠ m.maskText q.1) →
        (m.maskText k, m.maskMember k v) ∈ members' := by
  refine ⟨fun v => ⟨keysApart_of_keepsShape v, keepsShape_of_keysApart v⟩, fun items => ?_,
    fun members => ?_⟩
  · refine ⟨m.maskItems items, by rw [maskValue], ?_⟩
    rw [maskItems_eq_map, List.length_map]
  · refine ⟨Json.insertAll (m.maskMembers members) [], by rw [maskValue, Json.ofMembers], ?_, ?_⟩
    · rw [← names_maskMembers]
      exact Json.keys_insertAll_perm _
    · rintro before k v after rfl hlast
      rw [maskMembers_eq_map, List.map_append, List.map_cons]
      refine Json.mem_insertAll_of_last fun q hq => ?_
      obtain ⟨r, hr, rfl⟩ := List.mem_map.1 hq
      exact hlast r hr

/-! ### Two secret keys in one object -/

/-- The numbers of two accounts are secrets. -/
def accountNumbers : Masker := (new defaultToken).addSecrets ["acct-7731", "acct-9042"]

/-- Of two accounts whose numbers are secret, only the last one is left. -/
theorem maskValue_merges_accounts :
    accountNumbers.maskValue (.obj [("acct-7731", .obj [("balance", .int 10)]),
        ("acct-9042", .obj [("balance", .int 20)])]) =
      .obj [("[MASKED]", .obj [("balance", .int 20)])] := by
  decide

end ApiGateway.Masker
