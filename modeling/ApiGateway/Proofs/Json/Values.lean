import ApiGateway.Proofs.Json.Growth
import ApiGateway.Proofs.Json.Reading
import Mathlib.Tactic.WLOG

/-! # Normal values

A normal value is its own normal form (`normalize_of_normal`), and `ofMembers` makes normal objects
out of normal members in any order.
-/

set_option autoImplicit false

namespace ApiGateway.Json

theorem normalMembers_iff {members : List (String × Json)} :
    NormalMembers members ↔ ∀ p ∈ members, p.2.Normal := by
  induction members with
  | nil => simp [NormalMembers]
  | cons p rest ih =>
      obtain ⟨k, v⟩ := p
      rw [NormalMembers, ih, List.forall_mem_cons]

theorem normalItems_iff {items : List Json} : NormalItems items ↔ ∀ v ∈ items, v.Normal := by
  induction items with
  | nil => simp [NormalItems]
  | cons v rest ih => rw [NormalItems, ih, List.forall_mem_cons]

theorem normalItems_append {items items' : List Json} :
    NormalItems (items ++ items') ↔ NormalItems items ∧ NormalItems items' := by
  simp only [normalItems_iff, List.forall_mem_append]

theorem normalItems_nulls (count : Nat) : NormalItems (List.replicate count .null) := by
  refine normalItems_iff.2 fun v hv => ?_
  rw [List.eq_of_mem_replicate hv]
  trivial

/-! ## Members -/

theorem find?_eq_none_of_not_mem {key : String} {members : List (String × Json)}
    (h : key ∉ members.map (·.1)) : find? key members = none := by
  induction members with
  | nil => rfl
  | cons p rest ih =>
      obtain ⟨k, v⟩ := p
      rw [List.map_cons, List.mem_cons, not_or] at h
      rw [find?, if_neg (Ne.symm h.1), ih h.2]

theorem mem_insert {key : String} {value : Json} {members : List (String × Json)}
    {p : String × Json} (h : p ∈ insert key value members) : p = (key, value) ∨ p ∈ members := by
  induction members with
  | nil => exact Or.inl (List.mem_singleton.1 h)
  | cons q rest ih =>
      obtain ⟨k, v⟩ := q
      unfold insert at h
      split at h
      · exact List.mem_cons.1 h
      · split at h
        · rcases List.mem_cons.1 h with h | h
          · exact Or.inl h
          · exact Or.inr (List.mem_cons_of_mem _ h)
        · rcases List.mem_cons.1 h with h | h
          · exact Or.inr (List.mem_cons.2 (Or.inl h))
          · exact (ih h).imp_right (List.mem_cons_of_mem _)

/-- Every member of an object was given to it. -/
theorem mem_insertAll {members into : List (String × Json)} {p : String × Json}
    (h : p ∈ insertAll members into) : p ∈ members ∨ p ∈ into := by
  unfold insertAll at h
  induction members generalizing into with
  | nil => exact Or.inr h
  | cons q rest ih =>
      rcases ih h with h | h
      · exact Or.inl (List.mem_cons_of_mem _ h)
      · rcases mem_insert h with h | h
        · exact Or.inl (List.mem_cons.2 (Or.inl h))
        · exact Or.inr h

/-- Members with different keys are found as they were given, and others as they were before. -/
theorem find?_insertAll {members : List (String × Json)} (h : (members.map (·.1)).Nodup)
    (key : String) (into : List (String × Json)) :
    find? key (insertAll members into) = (find? key members).or (find? key into) := by
  induction members generalizing into with
  | nil => rfl
  | cons q rest ih =>
      obtain ⟨k, v⟩ := q
      obtain ⟨hk, hrest⟩ := List.nodup_cons.1 h
      show find? key (insertAll rest (insert k v into)) = _
      rw [ih hrest, find?]
      split
      · rename_i heq
        subst heq
        rw [find?_eq_none_of_not_mem hk, find?_insert_self]
        rfl
      · rename_i hne
        rw [find?_insert_of_ne (Ne.symm hne)]

theorem insert_insert (key : String) (v w : Json) (members : List (String × Json)) :
    insert key w (insert key v members) = insert key w members := by
  induction members with
  | nil => simp [insert]
  | cons q members ih =>
      obtain ⟨k, u⟩ := q
      by_cases hlt : key < k
      · simp [insert, hlt]
      · by_cases heq : key = k
        · simp [insert, heq]
        · simp only [insert, hlt, heq, if_false, ih]

/-- Members with different keys may be inserted in either order. -/
theorem insert_comm {key key' : String} (hne : key ≠ key') (v w : Json)
    (members : List (String × Json)) :
    insert key' w (insert key v members) = insert key v (insert key' w members) := by
  wlog hlt : key < key' generalizing key key' v w
  · have hgt : key' < key := by
      refine Classical.byContradiction fun hle => hne ?_
      exact String.le_antisymm (String.not_lt.1 hle) (String.not_lt.1 hlt)
    exact (this hne.symm w v hgt).symm
  have hnot : ¬ key' < key := String.lt_asymm hlt
  induction members with
  | nil => simp [insert, hlt, hnot, hne.symm]
  | cons q members ih =>
      obtain ⟨k, u⟩ := q
      by_cases hbefore : key < k
      · -- the first key stays ahead of whatever the second one becomes
        rw [insert, if_pos hbefore, insert, if_neg hnot, if_neg hne.symm]
        by_cases hbefore' : key' < k
        · simp [insert, hbefore', hlt]
        · by_cases heq' : key' = k
          · simp [insert, heq', hbefore]
          · simp [insert, hbefore', heq', hbefore]
      · have hkey' : ¬ key' < k := fun h => hbefore (String.lt_trans hlt h)
        by_cases heq : key = k
        · subst heq
          simp [insert, hnot, hne.symm]
        · have hne' : key' ≠ k := by
            rintro rfl
            exact hbefore hlt
          simp only [insert, hbefore, heq, hkey', hne', if_false, ih]

/-! ## Ascending members -/

theorem mem_keys_insert {key k : String} {value : Json} {members : List (String × Json)} :
    k ∈ (insert key value members).map (·.1) ↔ k = key ∨ k ∈ members.map (·.1) := by
  induction members with
  | nil => simp [insert]
  | cons p rest ih =>
      obtain ⟨l, v⟩ := p
      unfold insert
      split
      · simp
      · split
        · rename_i heq
          subst heq
          simp
        · rw [List.map_cons, List.mem_cons, ih, List.map_cons, List.mem_cons]
          exact or_left_comm

theorem ascending_insert (key : String) (value : Json) {members : List (String × Json)}
    (h : Ascending members) : Ascending (insert key value members) := by
  unfold Ascending at h ⊢
  induction members with
  | nil => simp [insert]
  | cons p rest ih =>
      obtain ⟨k, v⟩ := p
      obtain ⟨hhead, hrest⟩ := List.pairwise_cons.1 h
      unfold insert
      split
      · rename_i hlt
        refine List.pairwise_cons.2 ⟨?_, h⟩
        intro l hl
        rcases List.mem_cons.1 hl with rfl | hl
        · exact hlt
        · exact String.lt_trans hlt (hhead l hl)
      · rename_i hge
        split
        · rename_i heq
          subst heq
          exact h
        · rename_i hne
          refine List.pairwise_cons.2 ⟨?_, ih hrest⟩
          intro l hl
          rcases mem_keys_insert.1 hl with rfl | hl
          · refine Classical.byContradiction fun hle => hne ?_
            exact String.le_antisymm (String.not_lt.1 hle) (String.not_lt.1 hge)
          · exact hhead l hl

theorem ascending_insertAll (members : List (String × Json)) {into : List (String × Json)}
    (h : Ascending into) : Ascending (insertAll members into) := by
  unfold insertAll
  induction members generalizing into with
  | nil => exact h
  | cons p rest ih => exact ih (ascending_insert p.1 p.2 h)

/-- A key above all others goes to the end. -/
theorem insert_of_forall_lt {key : String} (value : Json) {members : List (String × Json)}
    (h : ∀ p ∈ members, p.1 < key) : insert key value members = members ++ [(key, value)] := by
  induction members with
  | nil => rfl
  | cons p rest ih =>
      obtain ⟨k, v⟩ := p
      have hk : k < key := h (k, v) List.mem_cons_self
      have hrest := ih fun q hq => h q (List.mem_cons_of_mem _ hq)
      rw [insert, if_neg (String.lt_asymm hk), if_neg (String.ne_of_lt hk).symm, hrest]
      rfl

/-- Ascending members are inserted as they stand. -/
theorem insertAll_of_ascending {members : List (String × Json)} (h : Ascending members) :
    insertAll members [] = members := by
  have key : ∀ (rest into : List (String × Json)), Ascending (into ++ rest) →
      insertAll rest into = into ++ rest := by
    intro rest
    induction rest with
    | nil =>
        intro into _
        exact (List.append_nil into).symm
    | cons p rest ih =>
        intro into hall
        have hbefore : ∀ q ∈ into, q.1 < p.1 := fun q hq => by
          unfold Ascending at hall
          rw [List.map_append, List.pairwise_append] at hall
          exact hall.2.2 q.1 (List.mem_map_of_mem hq) p.1 List.mem_cons_self
        show insertAll rest (insert p.1 p.2 into) = _
        rw [insert_of_forall_lt p.2 hbefore, ih _ (by simpa using hall)]
        simp
  exact key members [] h

/-! ## Inside a normal value -/

theorem mem_of_find?_eq_some {key : String} {v : Json} {members : List (String × Json)}
    (h : find? key members = some v) : (key, v) ∈ members := by
  induction members with
  | nil => cases h
  | cons p rest ih =>
      obtain ⟨k, w⟩ := p
      rw [find?] at h
      split at h
      · rename_i heq
        cases heq
        cases h
        exact List.mem_cons_self
      · exact List.mem_cons_of_mem _ (ih h)

theorem Normal.child? {v w : Json} (h : v.Normal) (step : Step) (hw : step.child? v = some w) :
    w.Normal := by
  cases step with
  | member name =>
      cases v with
      | obj members => exact normalMembers_iff.1 h.2 _ (mem_of_find?_eq_some hw)
      | _ => cases hw
  | item position =>
      cases v with
      | arr items => exact normalItems_iff.1 h w (List.mem_of_getElem? hw)
      | _ => cases hw

theorem Normal.insert {members : List (String × Json)} (h : (Json.obj members).Normal)
    (key : String) {value : Json} (hvalue : value.Normal) :
    (Json.obj (Json.insert key value members)).Normal := by
  refine ⟨ascending_insert key value h.1, normalMembers_iff.2 fun p hp => ?_⟩
  rcases mem_insert hp with rfl | hp
  · exact hvalue
  · exact normalMembers_iff.1 h.2 p hp

/-! ## Normal forms -/

mutual

/-- A normal value is its own normal form. -/
theorem normalize_of_normal : (v : Json) → v.Normal → v.normalize = v
  | .null, _ | .bool _, _ | .num _, _ | .str _, _ => by rw [normalize]; all_goals nofun
  | .arr items, h => by
      rw [normalize, normalizeItems_of_normal items h]
  | .obj members, h => by
      rw [normalize, normalizeMembers_of_normal members h.2, insertAll_of_ascending h.1]

theorem normalizeItems_of_normal :
    (items : List Json) → NormalItems items → normalizeItems items = items
  | [], _ => rfl
  | v :: items, h => by
      rw [normalizeItems, normalize_of_normal v h.1, normalizeItems_of_normal items h.2]

theorem normalizeMembers_of_normal :
    (members : List (String × Json)) → NormalMembers members → normalizeMembers members = members
  | [], _ => rfl
  | (k, v) :: members, h => by
      rw [normalizeMembers, normalize_of_normal v h.1, normalizeMembers_of_normal members h.2]

end

end ApiGateway.Json
