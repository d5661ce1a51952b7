import ApiGateway.Proofs.Audit.Ledger

/-! # Memory answers like its ledger

`Memory.Holds` says which ledger the partitions and the index of a memory stand for. Each operation
answers what the ledger answers, and the memory that it leaves stands for the ledger that is left.
-/

set_option autoImplicit false

namespace ApiGateway.Audit.Memory

/-- The records in memory are those of a ledger: the partitions have the records of each provider,
and the index has every record. -/
structure Holds (m : Memory) (l : Ledger) : Prop where
  distinct : l.Distinct
  indexes : Ledger.Indexes m.index l
  ascending : (m.partitions.map (·.1)).Pairwise (· < ·)
  partition : ∀ q ∈ m.partitions, q.2 = l.filter (·.provider = q.1)
  complete : ∀ r ∈ l, r.provider ∈ m.partitions.map (·.1)

theorem holds_empty : Holds {} [] where
  distinct := List.nodup_nil
  indexes := fun _ => rfl
  ascending := List.Pairwise.nil
  partition := fun _ hq => nomatch hq
  complete := fun _ hr => nomatch hr

variable {m : Memory} {l : Ledger}

/-! ## Reading -/

/-- The partition of a record has the records of its provider. -/
theorem Holds.lookup_partition (h : m.Holds l) {r : Record} (hr : r ∈ l) :
    m.partitions.lookup r.provider = some (l.filter (·.provider = r.provider)) := by
  obtain ⟨q, hq, hkey⟩ := List.mem_map.1 (h.complete r hr)
  refine lookup_eq_some_of_mem (Ledger.nodup_of_ascending h.ascending) ?_
  rw [← hkey, ← h.partition q hq]
  exact hq

theorem Holds.partitionOf_eq (h : m.Holds l) (id : RecordId) :
    m.partitionOf id = match l.find? (·.id = id) with
      | some r => .ok (r.provider, l.filter (·.provider = r.provider))
      | none => .error (.notFound id) := by
  unfold partitionOf
  rw [h.indexes id]
  cases hfind : l.find? (·.id = id) with
  | none => rfl
  | some r =>
      rw [Option.map_some, Option.bind_some,
        h.lookup_partition (Ledger.mem_of_find?_eq_some hfind).1]
      rfl

theorem Holds.find_eq (h : m.Holds l) (id : RecordId) : m.find id = l.find id := by
  unfold find Ledger.find
  rw [h.partitionOf_eq id]
  cases hfind : l.find? (·.id = id) with
  | none => rfl
  | some r =>
      show (match (l.filter (·.provider = r.provider)).find? (·.id = id) with
        | some r => Except.ok r
        | none => Except.error (StoreError.notFound id)) = _
      rw [h.distinct.find?_filter, hfind, Option.filter_some_pos (by simp)]

theorem Holds.byProvider_eq (h : m.Holds l) : l.byProvider = m.partitions.flatMap (·.2) := by
  rw [Ledger.byProvider_eq_flatMap h.ascending h.complete, List.flatMap_map]
  exact congrArg List.flatten (List.map_congr_left fun q hq => (h.partition q hq).symm)

theorem Holds.list_eq (h : m.Holds l) (f : Filter) : m.list f = l.list f := by
  unfold list Ledger.list
  dsimp only
  rw [h.byProvider_eq, List.filter_flatMap]
  refine congrArg f.page (Ledger.flatMap_filter_of_eq_nil fun q hq hother => ?_)
  -- a partition that is passed over has no record of the provider that is asked for
  rw [List.filter_eq_nil_iff]
  intro r hr haccepts
  rw [h.partition q hq, List.mem_filter, decide_eq_true_eq] at hr
  have hwanted := Ledger.provider_of_accepts haccepts
  rw [hr.2] at hwanted
  exact Bool.false_ne_true (hother.symm.trans hwanted)

/-! ## Appending -/

theorem mem_keys_add {r : Record} {ps : List (String × List Record)} {x : String} :
    x ∈ (add r ps).map (·.1) ↔ x = r.provider ∨ x ∈ ps.map (·.1) := by
  induction ps with
  | nil => simp [add]
  | cons q ps ih =>
      obtain ⟨p, records⟩ := q
      rw [add]
      split
      · simp
      · split
        · rename_i hp
          simp [hp]
        · rw [List.map_cons, List.mem_cons, ih, List.map_cons, List.mem_cons]
          exact or_left_comm

theorem ascending_add {r : Record} {ps : List (String × List Record)}
    (h : (ps.map (·.1)).Pairwise (· < ·)) : ((add r ps).map (·.1)).Pairwise (· < ·) := by
  induction ps with
  | nil => simp [add]
  | cons q ps ih =>
      obtain ⟨p, records⟩ := q
      rw [List.map_cons, List.pairwise_cons] at h
      rw [add]
      split
      · rename_i hlt
        rw [List.map_cons, List.pairwise_cons, List.map_cons, List.pairwise_cons]
        refine ⟨fun x hx => ?_, h⟩
        rcases List.mem_cons.1 hx with rfl | hx
        · exact hlt
        · exact String.lt_trans hlt (h.1 x hx)
      · split
        · rw [List.map_cons, List.pairwise_cons]
          exact h
        · rename_i hlt hne
          rw [List.map_cons, List.pairwise_cons]
          refine ⟨fun x hx => ?_, ih h.2⟩
          rcases mem_keys_add.1 hx with rfl | hx
          · refine Classical.byContradiction fun hge => hne ?_
            exact String.le_antisymm (String.not_lt.1 hge) (String.not_lt.1 hlt)
          · exact h.1 x hx

/-- Adding a record changes the partition of its provider only. -/
theorem mem_add {r : Record} {ps : List (String × List Record)}
    (h : (ps.map (·.1)).Pairwise (· < ·)) {q : String × List Record} (hq : q ∈ add r ps) :
    q = (r.provider, (ps.lookup r.provider).getD [] ++ [r]) ∨ q ∈ ps ∧ q.1 ≠ r.provider := by
  induction ps with
  | nil => exact Or.inl (List.mem_singleton.1 hq)
  | cons q' ps ih =>
      obtain ⟨p, records⟩ := q'
      rw [List.map_cons, List.pairwise_cons] at h
      have hafter : ∀ {q : String × List Record}, q ∈ ps → p < q.1 :=
        fun hq => h.1 _ (List.mem_map_of_mem hq)
      rw [add] at hq
      split at hq
      · rename_i hlt
        have hgreater : ∀ {q : String × List Record}, q ∈ (p, records) :: ps →
            r.provider < q.1 := by
          intro q hq
          rcases List.mem_cons.1 hq with rfl | hq
          · exact hlt
          · exact String.lt_trans hlt (hafter hq)
        rcases List.mem_cons.1 hq with rfl | hq
        · refine Or.inl ?_
          rw [lookup_eq_none_iff_not_mem.2]
          · rfl
          · intro hmem
            obtain ⟨q, hq, hkey⟩ := List.mem_map.1 hmem
            exact String.lt_irrefl _ (hkey ▸ hgreater hq)
        · exact Or.inr ⟨hq, ne_of_gt (hgreater hq)⟩
      · split at hq
        · rename_i hp
          rcases List.mem_cons.1 hq with rfl | hq
          · refine Or.inl ?_
            rw [hp, List.lookup_cons, beq_self_eq_true]
            rfl
          · exact Or.inr ⟨List.mem_cons_of_mem _ hq, ne_of_gt (hp ▸ hafter hq)⟩
        · rename_i hp
          rcases List.mem_cons.1 hq with rfl | hq
          · exact Or.inr ⟨List.mem_cons_self, Ne.symm hp⟩
          · rw [List.lookup_cons, beq_eq_false_iff_ne.2 hp]
            exact (ih h.2 hq).imp_right fun ⟨hmem, hne⟩ => ⟨List.mem_cons_of_mem _ hmem, hne⟩
where
  ne_of_gt {a b : String} (h : a < b) : b ≠ a := by
    rintro rfl
    exact String.lt_irrefl b h

/-- The partition of a provider has all of its records, none if there is no partition. -/
theorem Holds.getD_lookup (h : m.Holds l) (p : String) :
    (m.partitions.lookup p).getD [] = l.filter (·.provider = p) := by
  cases hlookup : m.partitions.lookup p with
  | some records => exact h.partition _ (mem_of_lookup_eq_some hlookup)
  | none =>
      rw [lookup_eq_none_iff_not_mem] at hlookup
      refine (List.filter_eq_nil_iff.2 fun r hr hp => hlookup ?_).symm
      have hprovider : r.provider = p := by simpa using hp
      exact hprovider ▸ h.complete r hr

theorem Holds.append (h : m.Holds l) (r : Record) :
    (m.append r).2 = (l.append r).2 ∧ (m.append r).1.Holds (l.append r).1 := by
  unfold Memory.append Ledger.append
  rw [h.indexes.isSome]
  cases hany : l.any (·.id = r.id) with
  | true => exact ⟨rfl, h⟩
  | false =>
      rw [if_neg Bool.false_ne_true, if_neg Bool.false_ne_true]
      refine ⟨rfl, Ledger.distinct_append_singleton h.distinct hany, h.indexes.append hany,
        ascending_add h.ascending, fun q hq => ?_, fun x hx => ?_⟩
      · rw [List.filter_append]
        rcases mem_add h.ascending hq with rfl | ⟨hq, hne⟩
        · rw [h.getD_lookup]
          simp
        · rw [h.partition q hq]
          simp [Ne.symm hne]
      · show x.provider ∈ (add r m.partitions).map (·.1)
        rw [mem_keys_add]
        rcases List.mem_append.1 hx with hx | hx
        · exact Or.inr (h.complete x hx)
        · exact Or.inl (by rw [List.mem_singleton.1 hx])

/-! ## Purging -/

/-- Changes of the records of partitions keep the names of the partitions. -/
theorem map_fst_changed (ps : List (String × List Record))
    (change : String × List Record → List Record) :
    (ps.map fun q => (q.1, change q)).map (·.1) = ps.map (·.1) := by
  rw [List.map_map]
  rfl

theorem Holds.purgeBefore (h : m.Holds l) (cutoff : Time.Instant) :
    (m.purgeBefore cutoff).2 = (l.purgeBefore cutoff).2 ∧
      (m.purgeBefore cutoff).1.Holds (l.purgeBefore cutoff).1 := by
  have hids : (m.records.filter (·.createdAt.isBefore cutoff)).map (·.id) =
      l.expiredIds cutoff := by
    unfold records Ledger.expiredIds
    rw [h.byProvider_eq]
  unfold Memory.purgeBefore
  dsimp only
  rw [hids]
  refine ⟨?_, h.distinct.filter _, h.indexes.purgeBefore h.distinct cutoff, ?_, fun q hq => ?_,
    fun r hr => ?_⟩
  · rw [← Ledger.length_expiredIds, ← hids, List.length_map]
  · exact (map_fst_changed m.partitions _).symm ▸ h.ascending
  · obtain ⟨q', hq', rfl⟩ := List.mem_map.1 hq
    unfold Ledger.purgeBefore
    dsimp only
    rw [h.partition q' hq', List.filter_filter, List.filter_filter]
    simp only [Bool.and_comm]
  · exact (map_fst_changed m.partitions _).symm ▸ h.complete r (List.mem_filter.1 hr).1

/-! ## Attaching -/

/-- With distinct identifiers the first record with an identifier is the only one. -/
theorem update_eq_map {l : Ledger} (h : l.Distinct) (earlier replay : RecordId) :
    update earlier (addReplay replay) l = l.map (Ledger.addReplay earlier replay) := by
  induction l with
  | nil => rfl
  | cons r l ih =>
      unfold Ledger.Distinct at h
      rw [List.map_cons, List.nodup_cons] at h
      rw [update, List.map_cons, Ledger.addReplay]
      split
      · rename_i hid
        refine congrArg (addReplay replay r :: ·) ?_
        refine ((List.map_congr_left fun x hx => ?_).trans (List.map_id l)).symm
        refine if_neg fun hx' => h.1 ?_
        rw [hid, ← hx']
        exact List.mem_map_of_mem hx
      · rw [ih h.2]

theorem filter_map_addReplay (l : Ledger) (earlier replay : RecordId) (p : String) :
    (l.map (Ledger.addReplay earlier replay)).filter (·.provider = p) =
      (l.filter (·.provider = p)).map (Ledger.addReplay earlier replay) := by
  rw [List.filter_map]
  refine congrArg (List.map _) (List.filter_congr fun r _ => ?_)
  simp

/-- Records with other identifiers stay as they are. -/
theorem map_addReplay_of_not_mem {l : Ledger} {earlier replay : RecordId}
    (h : ∀ r ∈ l, r.id ≠ earlier) : l.map (Ledger.addReplay earlier replay) = l :=
  (List.map_congr_left fun r hr => if_neg (h r hr)).trans (List.map_id l)

theorem Holds.attach (h : m.Holds l) (earlier replay : RecordId) :
    (m.attach earlier replay).2 = (l.attach earlier replay).2 ∧
      (m.attach earlier replay).1.Holds (l.attach earlier replay).1 := by
  unfold Memory.attach Ledger.attach
  rw [h.partitionOf_eq, Ledger.any_id]
  cases hfind : l.find? (·.id = earlier) with
  | none => exact ⟨rfl, h⟩
  | some r =>
      obtain ⟨hr, rfl⟩ := Ledger.mem_of_find?_eq_some hfind
      have hany : (l.filter (·.provider = r.provider)).any (·.id = r.id) = true := by
        simp only [List.any_eq_true, decide_eq_true_eq]
        exact ⟨r, List.mem_filter.2 ⟨hr, by simp⟩, rfl⟩
      dsimp only
      rw [if_pos hany, Option.isSome_some, if_pos rfl, update_eq_map (h.distinct.filter _)]
      refine ⟨rfl, ?_, h.indexes.attach r.id replay, ?_, fun q hq => ?_, fun x hx => ?_⟩
      · unfold Ledger.Distinct
        rw [Ledger.map_id_addReplay]
        exact h.distinct
      · exact (map_fst_changed m.partitions _).symm ▸ h.ascending
      · obtain ⟨q', hq', rfl⟩ := List.mem_map.1 hq
        dsimp only
        rw [filter_map_addReplay]
        split
        · rename_i hq
          rw [hq]
        · rename_i hq
          rw [h.partition q' hq', map_addReplay_of_not_mem]
          intro x hx hid
          -- the record with the identifier is that of another provider
          have hsame := h.distinct.find?_id (List.mem_filter.1 hx).1
          rw [hid, hfind] at hsame
          cases hsame
          have hprovider : r.provider = q'.1 := by simpa using (List.mem_filter.1 hx).2
          exact hq hprovider.symm
      · obtain ⟨x', hx', rfl⟩ := List.mem_map.1 hx
        rw [Ledger.provider_addReplay]
        exact (map_fst_changed m.partitions _).symm ▸ h.complete x' hx'

end ApiGateway.Audit.Memory
