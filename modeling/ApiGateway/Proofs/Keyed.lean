import ApiGateway.Keyed

/-! # Looking up names

What a lookup in a list of pairs finds is in the list, and with no key twice everything in the list
is found. A keyed list holds nothing that was not put into it, and has no name twice.
-/

set_option autoImplicit false

namespace ApiGateway

section

variable {α β : Type} [BEq α] [LawfulBEq α]

theorem mem_of_lookup_eq_some {k : α} {v : β} {kvs : List (α × β)} (h : kvs.lookup k = some v) :
    (k, v) ∈ kvs := by
  obtain ⟨l, r, hk, _⟩ := List.lookup_eq_some_iff.1 h
  rw [hk]
  exact List.mem_append_right _ List.mem_cons_self

theorem lookup_eq_some_of_mem {k : α} {v : β} {kvs : List (α × β)}
    (hkeys : (kvs.map (·.1)).Nodup) (h : (k, v) ∈ kvs) : kvs.lookup k = some v := by
  induction kvs with
  | nil => cases h
  | cons kv kvs ih =>
      obtain ⟨k', v'⟩ := kv
      rw [List.map_cons, List.nodup_cons] at hkeys
      rw [List.lookup_cons]
      rcases List.mem_cons.1 h with heq | hmem
      · cases heq
        rw [beq_self_eq_true]
      · have hne : k ≠ k' := by
          rintro rfl
          exact hkeys.1 (List.mem_map.2 ⟨(k, v), hmem, rfl⟩)
        rw [beq_eq_false_iff_ne.2 hne]
        exact ih hkeys.2 hmem

theorem lookup_eq_none_iff_not_mem {k : α} {kvs : List (α × β)} :
    kvs.lookup k = none ↔ k ∉ kvs.map (·.1) := by
  rw [List.lookup_eq_none_iff]
  constructor
  · intro h hmem
    obtain ⟨kv, hkv, rfl⟩ := List.mem_map.1 hmem
    simpa using h kv hkv
  · intro h kv hkv
    refine bne_iff_ne.2 ?_
    rintro rfl
    exact h (List.mem_map.2 ⟨kv, hkv, rfl⟩)

theorem lookup_filter_fst (P : α → Bool) (kvs : List (α × β))
    (k : α) : (kvs.filter fun kv => P kv.1).lookup k = if P k then kvs.lookup k else none := by
  induction kvs with
  | nil => simp
  | cons kv kvs ih =>
      obtain ⟨k', v⟩ := kv
      rw [List.filter_cons, List.lookup_cons]
      by_cases hk : k = k'
      · subst hk
        cases hP : P k with
        | true => simp
        | false => simp [ih, hP]
      · have hbeq : (k == k') = false := beq_eq_false_iff_ne.2 hk
        rw [hbeq]
        split
        · rw [List.lookup_cons, hbeq, ih]
        · exact ih

end

namespace Keyed

variable {α : Type}

theorem mem_put {name : String} {value : α} {k : Keyed α} {q : String × α}
    (h : q ∈ put name value k) : q = (name, value) ∨ q ∈ k := by
  induction k with
  | nil => exact Or.inl (List.mem_singleton.1 h)
  | cons r rest ih =>
      obtain ⟨n, v⟩ := r
      unfold put at h
      split at h
      · rename_i hn
        rcases List.mem_cons.1 h with h | h
        · exact Or.inl (hn ▸ h)
        · exact Or.inr (List.mem_cons_of_mem _ h)
      · rcases List.mem_cons.1 h with h | h
        · exact Or.inr (List.mem_cons.2 (Or.inl h))
        · exact (ih h).imp_right (List.mem_cons_of_mem _)

/-- What is held under a name was given under it. -/
theorem mem_ofPairs {pairs : List (String × α)} {q : String × α} (h : q ∈ ofPairs pairs) :
    q ∈ pairs := by
  have key : ∀ (rest : List (String × α)) (k : Keyed α),
      q ∈ rest.foldl (fun acc r => put r.1 r.2 acc) k → q ∈ rest ∨ q ∈ k := by
    intro rest
    induction rest with
    | nil => exact fun k hk => Or.inr hk
    | cons r rest ih =>
        intro k hk
        rcases ih _ hk with hk | hk
        · exact Or.inl (List.mem_cons_of_mem _ hk)
        · rcases mem_put hk with hk | hk
          · exact Or.inl (List.mem_cons.2 (Or.inl hk))
          · exact Or.inr hk
  rcases key pairs [] h with h | h
  · exact h
  · cases h

theorem mem_names_put {name n : String} {value : α} {k : Keyed α} :
    n ∈ (put name value k).map (·.1) ↔ n = name ∨ n ∈ k.map (·.1) := by
  induction k with
  | nil => simp [put]
  | cons q rest ih =>
      obtain ⟨m, v⟩ := q
      unfold put
      split
      · rename_i hm
        subst hm
        simp
      · rw [List.map_cons, List.mem_cons, ih, List.map_cons, List.mem_cons, or_left_comm]

theorem nodup_names_put (name : String) (value : α) {k : Keyed α} (h : (k.map (·.1)).Nodup) :
    ((put name value k).map (·.1)).Nodup := by
  induction k with
  | nil => simp [put]
  | cons q rest ih =>
      obtain ⟨m, v⟩ := q
      obtain ⟨hm, hrest⟩ := List.nodup_cons.1 h
      unfold put
      split
      · exact h
      · rename_i hne
        refine List.nodup_cons.2 ⟨fun hmem => ?_, ih hrest⟩
        rcases mem_names_put.1 hmem with heq | hmem
        · exact hne heq
        · exact hm hmem

/-- No name is held twice. -/
theorem nodup_names_ofPairs (pairs : List (String × α)) : ((ofPairs pairs).map (·.1)).Nodup := by
  have key : ∀ (rest : List (String × α)) (k : Keyed α), (k.map (·.1)).Nodup →
      ((rest.foldl (fun acc r => put r.1 r.2 acc) k).map (·.1)).Nodup := by
    intro rest
    induction rest with
    | nil => exact fun k hk => hk
    | cons r rest ih => exact fun k hk => ih _ (nodup_names_put r.1 r.2 hk)
  exact key pairs [] List.nodup_nil

theorem put_of_not_mem {name : String} (value : α) {k : Keyed α} (h : name ∉ k.map (·.1)) :
    put name value k = k ++ [(name, value)] := by
  induction k with
  | nil => rfl
  | cons q rest ih =>
      obtain ⟨n, v⟩ := q
      rw [List.map_cons, List.mem_cons, not_or] at h
      rw [put, if_neg (Ne.symm h.1), ih h.2, List.cons_append]

/-- Names without repetition are put as they stand. -/
theorem ofPairs_of_nodup {pairs : List (String × α)} (h : (pairs.map (·.1)).Nodup) :
    ofPairs pairs = pairs := by
  have key : ∀ (rest : List (String × α)) (k : Keyed α), ((k ++ rest).map (·.1)).Nodup →
      rest.foldl (fun acc q => put q.1 q.2 acc) k = k ++ rest := by
    intro rest
    induction rest with
    | nil =>
        intro k _
        exact (List.append_nil k).symm
    | cons q rest ih =>
        intro k hall
        obtain ⟨n, v⟩ := q
        have hfresh : n ∉ k.map (·.1) := fun hmem => by
          rw [List.map_append, List.nodup_append] at hall
          exact hall.2.2 n hmem n List.mem_cons_self rfl
        rw [List.foldl_cons]
        show rest.foldl _ (put n v k) = _
        rw [put_of_not_mem v hfresh, ih _ (by simpa using hall)]
        simp
  exact key pairs [] h

end Keyed

end ApiGateway
