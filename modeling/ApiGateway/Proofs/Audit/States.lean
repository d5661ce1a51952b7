import ApiGateway.Proofs.Audit.Tail

/-! # The states of a store

A store starts in memory, or is opened on a folder with any files in it, and then performs
operations. `Store.Reached` says that a store comes of that, and `Store.Proper` what holds of every
such store: a memory has the records of a ledger, and the partitions of a journal can be read. A
record of a provider with the name of the lineage is in the file of the lineage; as long as the
index tells of such a record, the file ends with a whole line (`Journal.Proper.ended`), so that no
line that is added to it comes in the way of the record.
-/

set_option autoImplicit false

namespace ApiGateway.Audit

/-- A store as it is when a process begins to use it. -/
inductive Store.Opened : Store → Prop
  | memory : Opened (.memory {})
  | journal {folder : Folder} {j : Journal} :
      folder.Ascending → Journal.ofFolder folder = .ok j → Opened (.journal j)

/-- A store after any operations on an opened one. -/
def Store.Reached (s : Store) : Prop :=
  ∃ start ops, Opened start ∧ s = start.after ops

namespace Journal

/-! ## Folders -/

/-- The names of a folder ascend, and no folder stands in the place of a partition. -/
structure Tidy (folder : Folder) : Prop where
  ascending : folder.Ascending
  readable : ∀ name, (partition? name).isSome → IsReadable folder name

variable {folder : Folder} {j : Journal}

theorem IsReadable.put {other : String} (h : IsReadable folder other) (name text : String) :
    IsReadable (folder.put name (.file text)) other := by
  rw [isReadable_iff] at h ⊢
  intro entries
  by_cases heq : other = name
  · rw [heq, Folder.lookup_put_self]
    exact nofun
  · rw [Folder.lookup_put_of_ne heq]
    exact h entries

theorem IsReadable.remove {other : String} (h : IsReadable folder other) (name : String) :
    IsReadable (folder.remove name) other := by
  rw [isReadable_iff] at h ⊢
  intro entries
  by_cases heq : other = name
  · rw [heq, Folder.lookup_remove_self]
    exact nofun
  · rw [Folder.lookup_remove_of_ne heq]
    exact h entries

theorem Tidy.put (h : Tidy folder) (name text : String) :
    Tidy (folder.put name (.file text)) where
  ascending := h.ascending.put _ _
  readable := fun other hother => (h.readable other hother).put name text

theorem Tidy.remove (h : Tidy folder) (name : String) : Tidy (folder.remove name) where
  ascending := h.ascending.sublist (List.filter_sublist.map _)
  readable := fun other hother => (h.readable other hother).remove name

theorem Tidy.isReadable_of_mem (h : Tidy folder) {p : String} (hp : p ∈ partitions folder) :
    IsReadable folder (fileName p) := by
  refine h.readable _ ?_
  rw [(mem_partitions_iff.1 hp).2]
  rfl

/-- A folder that can be opened is tidy. -/
theorem tidy_of_ofFolder (hascending : folder.Ascending) (hopen : ofFolder folder = .ok j) :
    Tidy folder where
  ascending := hascending
  readable := by
    intro name hname
    obtain ⟨p, hp⟩ := Option.isSome_iff_exists.1 hname
    obtain ⟨rfl, _⟩ := eq_fileName_of_partition? hp
    by_cases hmem : fileName p ∈ folder.map (·.1)
    · exact (ofFolder_eq_ok.1 hopen).1 p (mem_partitions_iff.2 ⟨hmem, hp⟩)
    · rw [isReadable_iff, lookup_eq_none_iff_not_mem.2 hmem]
      exact fun _ => nofun

/-! ## Journals -/

/-- What every operation on a journal keeps, whatever is in its files. -/
structure Proper (j : Journal) : Prop where
  tidy : Tidy j.folder
  ended : "lineage" ∈ j.index.map (·.2) → tail (textOf lineageName j.folder) = []

theorem fileName_eq_lineageName_iff {p : String} : fileName p = lineageName ↔ p = "lineage" := by
  constructor
  · intro h
    exact fileName_injective (h.trans (rfl : lineageName = fileName "lineage"))
  · rintro rfl
    rfl

theorem ne_lineage_of_mem_partitions {p : String} (hp : p ∈ partitions folder) :
    p ≠ "lineage" := by
  rintro rfl
  have hnone : partition? (fileName "lineage") = none := by decide
  rw [(mem_partitions_iff.1 hp).2] at hnone
  cases hnone

/-- The index of an opened journal tells of no record in the file of the lineage. -/
theorem proper_of_ofFolder (hascending : folder.Ascending) (hopen : ofFolder folder = .ok j) :
    j.Proper := by
  have htidy := tidy_of_ofFolder hascending hopen
  obtain ⟨_, ls, _, rfl⟩ := ofFolder_eq_ok.1 hopen
  refine ⟨htidy, fun hmem => ?_⟩
  obtain ⟨⟨id, p⟩, hentry, rfl⟩ := List.mem_map.1 hmem
  obtain ⟨p, hp, hid⟩ := List.mem_flatMap.1 (List.mem_reverse.1 hentry)
  obtain ⟨_, _, heq⟩ := List.mem_map.1 hid
  cases heq
  exact absurd rfl (ne_lineage_of_mem_partitions hp)

/-- What an append does, if it does anything. -/
theorem append_eq_ok {r : Record} (h : (j.append r).2 = .ok r.id) :
    j.index.lookup r.id = none ∧ IsReadable j.folder (fileName (partitionName r.provider)) ∧
      (j.append r).1 = ⟨j.folder.put (fileName (partitionName r.provider))
          (.file (textOf (fileName (partitionName r.provider)) j.folder ++ lineOf r ++ "\n")),
        (r.id, partitionName r.provider) :: j.index, j.lineage⟩ := by
  unfold Journal.append at h ⊢
  dsimp only at h ⊢
  cases hlookup : j.index.lookup r.id with
  | some p =>
      rw [hlookup] at h
      cases h
  | none =>
      rw [hlookup] at h
      cases happend : appendLine (fileName (partitionName r.provider)) (lineOf r) j.folder with
      | error e =>
          rw [happend] at h
          cases h
      | ok folder =>
          obtain ⟨hreadable, rfl⟩ := appendLine_eq_ok_iff.1 happend
          exact ⟨rfl, hreadable, rfl⟩

/-- A refused append changes nothing. -/
theorem append_eq_self {r : Record} (h : (j.append r).2 ≠ .ok r.id) : (j.append r).1 = j := by
  unfold Journal.append at h ⊢
  dsimp only at h ⊢
  split
  · rfl
  · rename_i hnew
    rw [if_neg hnew] at h
    split
    · rfl
    · rename_i happend
      rw [happend] at h
      exact absurd rfl h

theorem Proper.append (h : j.Proper) (r : Record) : (j.append r).1.Proper := by
  by_cases hok : (j.append r).2 = .ok r.id
  · obtain ⟨_, _, hstate⟩ := append_eq_ok hok
    rw [hstate]
    refine ⟨h.tidy.put _ _, fun hmem => ?_⟩
    dsimp only
    by_cases hname : fileName (partitionName r.provider) = lineageName
    · rw [hname, textOf_put_self]
      exact tail_append_line (isLine_lineOf r) _
    · rw [textOf_put_of_ne (Ne.symm hname)]
      rcases List.mem_cons.1 hmem with heq | hmem
      · exact absurd (fileName_eq_lineageName_iff.2 heq.symm) hname
      · exact h.ended hmem
  · rw [append_eq_self hok]
    exact h

/-- What attaching a replay does: nothing if the record is not there or was told before, and
otherwise the lineage gets a line, unless a folder stands in its place. -/
theorem attach_cases (j : Journal) (earlier replay : RecordId) :
    (j.attach earlier replay).1 = j ∧
        ((j.attach earlier replay).2 = .ok () → replay ∈ replaysIn j.lineage earlier) ∨
      (j.attach earlier replay).2 ≠ .ok () ∧ (j.attach earlier replay).1 =
        { j with lineage := setReplays earlier (replaysIn j.lineage earlier) j.lineage } ∨
      IsReadable j.folder lineageName ∧ (j.attach earlier replay).1 =
        ⟨j.folder.put lineageName
            (.file (textOf lineageName j.folder ++ lineageLine earlier replay ++ "\n")),
          j.index, setReplays earlier (replaysIn j.lineage earlier ++ [replay]) j.lineage⟩ := by
  unfold Journal.attach
  split
  · exact Or.inl ⟨rfl, nofun⟩
  · dsimp only
    split
    · rename_i hold
      exact Or.inl ⟨rfl, fun _ => List.contains_iff_mem.1 hold⟩
    · split
      · exact Or.inr (Or.inl ⟨nofun, rfl⟩)
      · rename_i folder happend
        obtain ⟨hreadable, rfl⟩ := appendLine_eq_ok_iff.1 happend
        exact Or.inr (Or.inr ⟨hreadable, rfl⟩)

theorem Proper.attach (h : j.Proper) (earlier replay : RecordId) :
    (j.attach earlier replay).1.Proper := by
  rcases attach_cases j earlier replay with ⟨hstate, _⟩ | ⟨_, hstate⟩ | ⟨_, hstate⟩
  · rw [hstate]
    exact h
  · rw [hstate]
    exact ⟨h.tidy, h.ended⟩
  · rw [hstate]
    refine ⟨h.tidy.put _ _, fun _ => ?_⟩
    rw [textOf_put_self]
    exact tail_append_line (isLine_lineageLine earlier replay) _

/-! ## Purging -/

/-- A purge of a partition writes and removes files, but not that of the lineage. -/
theorem Tidy.purgePartition (h : Tidy folder) {p : String} (hp : p ≠ "lineage")
    (cutoff : Time.Instant) :
    Tidy (Journal.purgePartition cutoff p folder).1 ∧
      (Journal.purgePartition cutoff p folder).1.lookup lineageName =
        folder.lookup lineageName := by
  have hname : lineageName ≠ fileName p := fun heq => hp (fileName_eq_lineageName_iff.1 heq.symm)
  have hdraft : lineageName ≠ draftName (fileName p) :=
    Ne.symm (draftName_ne_fileName (fileName p) "lineage")
  unfold Journal.purgePartition
  dsimp only
  split
  · exact ⟨h, rfl⟩
  · exact ⟨h, rfl⟩
  · exact ⟨h.put _ _, Folder.lookup_put_of_ne hdraft _ _⟩
  · split
    · exact ⟨h.remove _, Folder.lookup_remove_of_ne hdraft _⟩
    · refine ⟨(h.remove _).put _ _, ?_⟩
      rw [Folder.lookup_put_of_ne hname, Folder.lookup_remove_of_ne hdraft]

theorem Tidy.purgePartitions (h : Tidy folder) {ps : List String} (hps : ∀ p ∈ ps, p ≠ "lineage")
    (cutoff : Time.Instant) (removed : List RecordId) :
    Tidy (Journal.purgePartitions cutoff removed ps folder).1 ∧
      (Journal.purgePartitions cutoff removed ps folder).1.lookup lineageName =
        folder.lookup lineageName := by
  induction ps generalizing folder removed with
  | nil => exact ⟨h, rfl⟩
  | cons p ps ih =>
      obtain ⟨htidy, hlineage⟩ := h.purgePartition (hps p List.mem_cons_self) cutoff
      rw [Journal.purgePartitions]
      generalize Journal.purgePartition cutoff p folder = purged at htidy hlineage
      obtain ⟨folder', answer⟩ := purged
      cases answer with
      | error e => exact ⟨htidy, hlineage⟩
      | ok ids =>
          obtain ⟨htidy', hlineage'⟩ := ih htidy (fun q hq => hps q (List.mem_cons_of_mem p hq))
            (removed ++ ids)
          exact ⟨htidy', hlineage'.trans hlineage⟩

theorem tail_lineageText (lineage : List (RecordId × List RecordId)) :
    tail (lineageText lineage) = [] := by
  have htext := lineageText_eq lineage
  unfold lineageFile at htext
  rw [Entry.file.inj htext]
  refine tail_fileText fun line hline => ?_
  obtain ⟨e, _, rfl⟩ := List.mem_map.1 hline
  exact isLine_lineageLine e.1 e.2

theorem Proper.pruneLineage (h : j.Proper) (removed : List RecordId) :
    (Journal.pruneLineage removed j).1.Proper := by
  have hdraft : lineageName ≠ draftName lineageName :=
    Ne.symm (draftName_ne_fileName lineageName "lineage")
  unfold Journal.pruneLineage
  dsimp only
  split
  · exact h
  · split
    · exact ⟨h.tidy, h.ended⟩
    · refine ⟨h.tidy.put _ _, fun hmem => ?_⟩
      rw [textOf_put_of_ne hdraft]
      exact h.ended hmem
    · refine ⟨(h.tidy.remove _).put _ _, fun _ => ?_⟩
      rw [textOf_put_self]
      exact tail_lineageText _

theorem Proper.purgeBefore (h : j.Proper) (cutoff : Time.Instant) :
    (j.purgeBefore cutoff).1.Proper := by
  obtain ⟨htidy, hlineage⟩ := h.tidy.purgePartitions
    (fun _ hp => ne_lineage_of_mem_partitions hp) cutoff []
  have htext : tail (textOf lineageName (Journal.purgePartitions cutoff [] (partitions j.folder)
      j.folder).1) = tail (textOf lineageName j.folder) := by
    unfold textOf
    rw [hlineage]
  unfold Journal.purgeBefore
  generalize Journal.purgePartitions cutoff [] (partitions j.folder) j.folder = purged
    at htidy htext
  obtain ⟨folder, answer⟩ := purged
  cases answer with
  | error e => exact ⟨htidy, fun hmem => htext.trans (h.ended hmem)⟩
  | ok removed =>
      refine Proper.pruneLineage (j := ⟨folder, _, j.lineage⟩) ⟨htidy, fun hmem => ?_⟩ removed
      obtain ⟨q, hq, hlineage⟩ := List.mem_map.1 hmem
      exact htext.trans (h.ended (List.mem_map.2 ⟨q, (List.mem_filter.1 hq).1, hlineage⟩))

end Journal

/-! ## Stores -/

namespace Store

/-- What holds of every store that a process can have. -/
def Proper : Store → Prop
  | .memory m => ∃ l, m.Holds l
  | .journal j => j.Proper

variable {s : Store}

theorem Opened.proper (h : s.Opened) : s.Proper := by
  cases h with
  | memory => exact ⟨[], Memory.holds_empty⟩
  | journal hascending hopen => exact Journal.proper_of_ofFolder hascending hopen

/-- Every operation on a store keeps it proper, also if it fails. -/
theorem Proper.perform (h : s.Proper) (op : Operation) : (s.perform op).1.Proper := by
  cases s with
  | memory m =>
      obtain ⟨l, hl⟩ := h
      cases op with
      | append r => exact ⟨_, (hl.append r).2⟩
      | find id => exact ⟨l, hl⟩
      | list f => exact ⟨l, hl⟩
      | purgeBefore cutoff => exact ⟨_, (hl.purgeBefore cutoff).2⟩
      | attach earlier replay => exact ⟨_, (hl.attach earlier replay).2⟩
      | reopen => exact ⟨l, hl⟩
  | journal j =>
      have hj : j.Proper := h
      cases op with
      | append r => exact hj.append r
      | find id => exact hj
      | list f => exact hj
      | purgeBefore cutoff => exact hj.purgeBefore cutoff
      | attach earlier replay => exact hj.attach earlier replay
      | reopen =>
          have hreopen : Store.reopen (.journal j) =
              (Journal.ofFolder j.folder).map .journal := rfl
          unfold Store.perform
          rw [hreopen]
          cases hopen : Journal.ofFolder j.folder with
          | error e => exact hj
          | ok j' => exact Journal.proper_of_ofFolder hj.tidy.ascending hopen

theorem Proper.append (h : s.Proper) (r : Record) : (s.append r).1.Proper :=
  h.perform (.append r)

theorem Proper.after (h : s.Proper) (ops : List Operation) : (s.after ops).Proper := by
  induction ops generalizing s with
  | nil => exact h
  | cons op ops ih => exact ih (h.perform op)

theorem Reached.proper (h : s.Reached) : s.Proper := by
  obtain ⟨start, ops, hstart, rfl⟩ := h
  exact hstart.proper.after ops

end Store

end ApiGateway.Audit
