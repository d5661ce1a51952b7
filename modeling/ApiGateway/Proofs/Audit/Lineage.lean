import ApiGateway.Proofs.Audit.Lines
import ApiGateway.Proofs.Keyed

/-! # The lineage of a journal

A journal holds the lineage by record, and its file has one line for each replay in the order in
which they came. `lineageOf` is the way from the file to the lineage. The file is written anew
record by record; `lineageOf_entriesOf` says that this gives back the same lineage.
-/

set_option autoImplicit false

namespace ApiGateway.Audit.Journal

/-- The lineage that the entries of its file make. -/
def lineageOf (entries : List (RecordId × RecordId)) : List (RecordId × List RecordId) :=
  entries.foldl addReplay []

/-- The entries of a lineage, record by record. -/
def entriesOf (lineage : List (RecordId × List RecordId)) : List (RecordId × RecordId) :=
  lineage.flatMap fun q => q.2.map (q.1, ·)

/-- Each record has one place in the lineage, and there its replays, each once. -/
structure WellFormed (lineage : List (RecordId × List RecordId)) : Prop where
  nodup_keys : (lineage.map (·.1)).Nodup
  nodup_replays : ∀ q ∈ lineage, q.2.Nodup
  replays_ne_nil : ∀ q ∈ lineage, q.2 ≠ []

variable {id : RecordId} {replays : List RecordId} {lineage : List (RecordId × List RecordId)}

/-! ## Setting replays -/

theorem mem_keys_setReplays {x : RecordId} :
    x ∈ (setReplays id replays lineage).map (·.1) ↔ x = id ∨ x ∈ lineage.map (·.1) := by
  induction lineage with
  | nil => simp [setReplays]
  | cons q lineage ih =>
      obtain ⟨i, rs⟩ := q
      rw [setReplays]
      split
      · rename_i hi
        simp [hi]
      · rw [List.map_cons, List.mem_cons, ih, List.map_cons, List.mem_cons]
        exact or_left_comm

theorem nodup_keys_setReplays (h : (lineage.map (·.1)).Nodup) :
    ((setReplays id replays lineage).map (·.1)).Nodup := by
  induction lineage with
  | nil => simp [setReplays]
  | cons q lineage ih =>
      obtain ⟨i, rs⟩ := q
      rw [List.map_cons, List.nodup_cons] at h
      rw [setReplays]
      split
      · rename_i hi
        rw [List.map_cons, List.nodup_cons, ← hi]
        exact h
      · rename_i hi
        rw [List.map_cons, List.nodup_cons, mem_keys_setReplays, not_or]
        exact ⟨⟨hi, h.1⟩, ih h.2⟩

theorem mem_of_mem_setReplays {q : RecordId × List RecordId}
    (h : q ∈ setReplays id replays lineage) : q = (id, replays) ∨ q ∈ lineage := by
  induction lineage with
  | nil => exact Or.inl (List.mem_singleton.1 h)
  | cons q' lineage ih =>
      obtain ⟨i, rs⟩ := q'
      rw [setReplays] at h
      split at h
      · exact (List.mem_cons.1 h).imp_right (List.mem_cons_of_mem _)
      · rcases List.mem_cons.1 h with h | h
        · exact Or.inr (List.mem_cons.2 (Or.inl h))
        · exact (ih h).imp_right (List.mem_cons_of_mem _)

theorem replaysIn_setReplays_self : replaysIn (setReplays id replays lineage) id = replays := by
  unfold replaysIn
  induction lineage with
  | nil => simp [setReplays]
  | cons q lineage ih =>
      obtain ⟨i, rs⟩ := q
      rw [setReplays]
      split
      · simp
      · rename_i hi
        rw [List.lookup_cons, beq_eq_false_iff_ne.2 (Ne.symm hi)]
        exact ih

theorem replaysIn_setReplays_of_ne {other : RecordId} (h : other ≠ id) :
    replaysIn (setReplays id replays lineage) other = replaysIn lineage other := by
  unfold replaysIn
  induction lineage with
  | nil =>
      rw [setReplays, List.lookup_cons, beq_eq_false_iff_ne.2 h]
  | cons q lineage ih =>
      obtain ⟨i, rs⟩ := q
      rw [setReplays]
      split
      · rename_i hi
        rw [List.lookup_cons, List.lookup_cons, hi, beq_eq_false_iff_ne.2 h]
      · rw [List.lookup_cons, List.lookup_cons]
        split
        · rfl
        · exact ih

theorem replaysIn_of_not_mem (h : id ∉ lineage.map (·.1)) : replaysIn lineage id = [] := by
  unfold replaysIn
  rw [lookup_eq_none_iff_not_mem.2 h]
  rfl

/-- A record that is not in a lineage comes behind it. -/
theorem setReplays_append_of_not_mem (h : id ∉ lineage.map (·.1))
    (rest : List (RecordId × List RecordId)) :
    setReplays id replays (lineage ++ rest) = lineage ++ setReplays id replays rest := by
  induction lineage with
  | nil => rfl
  | cons q lineage ih =>
      obtain ⟨i, rs⟩ := q
      rw [List.map_cons, List.mem_cons, not_or] at h
      rw [List.cons_append, setReplays, if_neg (Ne.symm h.1), ih h.2]
      rfl

/-! ## Adding replays -/

theorem addReplay_of_not_mem {replay : RecordId} (h : replay ∉ replaysIn lineage id) :
    addReplay lineage (id, replay) = setReplays id (replaysIn lineage id ++ [replay]) lineage := by
  unfold addReplay
  dsimp only
  rw [if_neg (by simpa using h)]

theorem nodup_replaysIn (h : WellFormed lineage) (id : RecordId) :
    (replaysIn lineage id).Nodup := by
  unfold replaysIn
  cases hlookup : lineage.lookup id with
  | none => exact List.nodup_nil
  | some replays => exact h.nodup_replays _ (mem_of_lookup_eq_some hlookup)

theorem WellFormed.addReplay (h : WellFormed lineage) (entry : RecordId × RecordId) :
    WellFormed (addReplay lineage entry) := by
  unfold Journal.addReplay
  dsimp only
  refine ⟨nodup_keys_setReplays h.nodup_keys, fun q hq => ?_, fun q hq => ?_⟩
  · rcases mem_of_mem_setReplays hq with rfl | hq
    · dsimp only
      split
      · exact nodup_replaysIn h _
      · rename_i hnew
        rw [List.nodup_append]
        refine ⟨nodup_replaysIn h _, by simp, fun x hx y hy heq => hnew ?_⟩
        rw [List.mem_singleton.1 hy] at heq
        simpa [heq] using hx
    · exact h.nodup_replays q hq
  · rcases mem_of_mem_setReplays hq with rfl | hq
    · dsimp only
      split
      · rename_i hold
        intro hnil
        rw [hnil] at hold
        cases hold
      · exact List.append_ne_nil_of_right_ne_nil _ (List.cons_ne_nil _ _)
    · exact h.replays_ne_nil q hq

theorem wellFormed_lineageOf (entries : List (RecordId × RecordId)) :
    WellFormed (lineageOf entries) := by
  have hfold : ∀ lineage, WellFormed lineage → WellFormed (entries.foldl addReplay lineage) := by
    induction entries with
    | nil => exact fun _ h => h
    | cons entry entries ih => exact fun lineage h => ih _ (h.addReplay entry)
  exact hfold [] ⟨List.nodup_nil, fun _ hq => (nomatch hq), fun _ hq => (nomatch hq)⟩

theorem WellFormed.filter (h : WellFormed lineage) (P : RecordId × List RecordId → Bool) :
    WellFormed (lineage.filter P) where
  nodup_keys := h.nodup_keys.sublist (List.filter_sublist.map _)
  nodup_replays := fun q hq => h.nodup_replays q (List.mem_filter.1 hq).1
  replays_ne_nil := fun q hq => h.replays_ne_nil q (List.mem_filter.1 hq).1

/-! ## Writing anew -/

/-- Entries of the last record of a lineage come behind its replays. -/
theorem foldl_addReplay_last {done rest : List RecordId} (hid : id ∉ lineage.map (·.1))
    (hnodup : (done ++ rest).Nodup) :
    (rest.map (id, ·)).foldl addReplay (lineage ++ [(id, done)]) =
      lineage ++ [(id, done ++ rest)] := by
  induction rest generalizing done with
  | nil => rw [List.append_nil]; rfl
  | cons replay rest ih =>
      have hdone : replaysIn (lineage ++ [(id, done)]) id = done := by
        unfold replaysIn
        rw [List.lookup_append, lookup_eq_none_iff_not_mem.2 hid]
        simp
      have hnew : replay ∉ done := by
        intro hmem
        exact (List.nodup_append.1 hnodup).2.2 _ hmem _ List.mem_cons_self rfl
      rw [List.map_cons, List.foldl_cons, addReplay_of_not_mem (hdone.symm ▸ hnew), hdone,
        setReplays_append_of_not_mem hid, setReplays, if_pos rfl, ih (by simpa using hnodup)]
      simp

/-- The entries of a lineage make it again. -/
theorem lineageOf_entriesOf (h : WellFormed lineage) : lineageOf (entriesOf lineage) = lineage := by
  -- by induction on the lineage, behind the records that were read before
  have hfold : ∀ before : List (RecordId × List RecordId),
      ((before ++ lineage).map (·.1)).Nodup →
      (entriesOf lineage).foldl addReplay before = before ++ lineage := by
    induction lineage with
    | nil => exact fun before _ => (List.append_nil before).symm
    | cons q lineage ih =>
        obtain ⟨id, replays⟩ := q
        intro before hnodup
        have hid : id ∉ before.map (·.1) := by
          rw [List.map_append, List.nodup_append] at hnodup
          exact fun hmem => hnodup.2.2 _ hmem _ List.mem_cons_self rfl
        obtain ⟨replay, rest, rfl⟩ :=
          List.exists_cons_of_ne_nil (h.replays_ne_nil _ List.mem_cons_self)
        -- the first entry gives the record its place, the others come behind
        have hfirst : addReplay before (id, replay) = before ++ [(id, [replay])] := by
          have hsplit : setReplays id [replay] (before ++ []) = before ++ [(id, [replay])] :=
            setReplays_append_of_not_mem hid []
          rw [List.append_nil] at hsplit
          rw [addReplay_of_not_mem (by simp [replaysIn_of_not_mem hid]), replaysIn_of_not_mem hid,
            List.nil_append, hsplit]
        have hrest : (rest.map (id, ·)).foldl addReplay (before ++ [(id, [replay])]) =
            before ++ [(id, [replay] ++ rest)] :=
          foldl_addReplay_last hid (h.nodup_replays _ List.mem_cons_self)
        have htail : WellFormed lineage :=
          ⟨(List.nodup_cons.1 h.nodup_keys).2,
            fun q hq => h.nodup_replays q (List.mem_cons_of_mem _ hq),
            fun q hq => h.replays_ne_nil q (List.mem_cons_of_mem _ hq)⟩
        unfold entriesOf at ih ⊢
        rw [List.flatMap_cons, List.foldl_append, List.map_cons, List.foldl_cons, hfirst, hrest,
          ih htail _ (by simpa using hnodup)]
        simp
  exact hfold [] h.nodup_keys

/-! ## The file -/

/-- The file of a lineage with some entries. -/
def lineageFile (entries : List (RecordId × RecordId)) : Entry :=
  .file (fileText (entries.map fun e => lineageLine e.1 e.2))

theorem lineageText_eq (lineage : List (RecordId × List RecordId)) :
    Entry.file (lineageText lineage) = lineageFile (entriesOf lineage) := by
  unfold lineageText lineageFile fileText entriesOf
  rw [List.map_map, List.map_flatMap]
  refine congrArg (fun ls => Entry.file (String.join (List.flatten ls))) ?_
  exact List.map_congr_left fun q _ => by rw [List.map_map]; rfl

theorem lines_lineageFile (entries : List (RecordId × RecordId)) :
    (lines (fileText (entries.map fun e => lineageLine e.1 e.2))).filterMap lineage? = entries := by
  rw [lines_fileText, List.filterMap_map]
  · induction entries with
    | nil => rfl
    | cons e entries ih =>
        rw [List.filterMap_cons, Function.comp, lineage?_lineageLine, ih]
  · intro line hline
    obtain ⟨e, _, rfl⟩ := List.mem_map.1 hline
    exact isLine_lineageLine e.1 e.2

end ApiGateway.Audit.Journal
