import ApiGateway.Proofs.Audit.Lineage
import ApiGateway.Proofs.Audit.Partitions

/-! # A journal answers like its ledger

The files of a journal have its records as they came, and the lineage has the replays that were
attached to them since; `Journal.Holds` puts them together to the ledger that the journal stands
for. Each operation answers what the ledger answers and leaves a journal that stands for the ledger
that is left, and so does opening the folder anew.
-/

set_option autoImplicit false

namespace ApiGateway.Audit.Journal

/-- The file of the lineage of a folder has some entries; without entries there may be no file. -/
def LineageIn (folder : Folder) (entries : List (RecordId × RecordId)) : Prop :=
  folder.lookup lineageName = some (lineageFile entries) ∨
    folder.lookup lineageName = none ∧ entries = []

/-- A journal keeps records as they came and the entries of its lineage, which are about these
records only. -/
structure Keeps (j : Journal) (base : Ledger) (entries : List (RecordId × RecordId)) : Prop where
  distinct : base.Distinct
  indexes : Ledger.Indexes j.index base
  files : Files j.folder base
  lineage : j.lineage = lineageOf entries
  lineageIn : LineageIn j.folder entries
  known : ∀ id ∈ j.lineage.map (·.1), id ∈ base.map (·.id)

/-- The records of a journal with their replays are those of a ledger. -/
def Holds (j : Journal) (l : Ledger) : Prop :=
  ∃ base entries, j.Keeps base entries ∧ base.map j.withReplays = l

theorem holds_empty : Holds ⟨[], [], []⟩ [] :=
  ⟨[], [], {
    distinct := List.nodup_nil
    indexes := fun _ => rfl
    files := files_nil
    lineage := rfl
    lineageIn := Or.inr ⟨rfl, rfl⟩
    known := fun _ h => nomatch h }, rfl⟩

variable {j : Journal} {base l : Ledger} {entries : List (RecordId × RecordId)}

/-! ## Replays -/

/-- The replays of the lineage are attached to a record one after another. -/
theorem withReplays_eq_foldl (j : Journal) (r : Record) :
    j.withReplays r =
      (replaysIn j.lineage r.id).foldl (fun r replay => Memory.addReplay replay r) r := by
  have hfold : ∀ (replays : List RecordId) (r : Record),
      replays.foldl (fun r replay => Memory.addReplay replay r) r =
        { r with replays := replays.foldl (fun replays replay =>
          if replays.contains replay then replays else replays ++ [replay]) r.replays } := by
    intro replays
    induction replays with
    | nil => exact fun _ => rfl
    | cons replay replays ih =>
        intro r
        rw [List.foldl_cons, List.foldl_cons, ih, Memory.addReplay]
        split <;> rfl
  rw [hfold]
  rfl

theorem withReplays_congr {j j' : Journal} {r : Record}
    (h : replaysIn j.lineage r.id = replaysIn j'.lineage r.id) :
    j.withReplays r = j'.withReplays r := by
  rw [withReplays_eq_foldl, withReplays_eq_foldl, h]

theorem withReplays_of_not_mem {r : Record} (h : r.id ∉ j.lineage.map (·.1)) :
    j.withReplays r = r := by
  rw [withReplays_eq_foldl, replaysIn_of_not_mem h]
  rfl

theorem mem_replays_addReplay {x replay : RecordId} {r : Record}
    (h : x ∈ r.replays ∨ x = replay) : x ∈ (Memory.addReplay replay r).replays := by
  unfold Memory.addReplay
  split
  · rename_i hold
    rcases h with h | rfl
    · exact h
    · exact List.contains_iff_mem.1 hold
  · rw [List.mem_append, List.mem_singleton]
    exact h

/-- A record has all replays of the lineage. -/
theorem mem_replays_withReplays {replay : RecordId} {r : Record}
    (h : replay ∈ replaysIn j.lineage r.id) : replay ∈ (j.withReplays r).replays := by
  have hfold : ∀ (replays : List RecordId) (r : Record), replay ∈ replays ∨ replay ∈ r.replays →
      replay ∈ (replays.foldl (fun r replay => Memory.addReplay replay r) r).replays := by
    intro replays
    induction replays with
    | nil => exact fun r h => h.resolve_left List.not_mem_nil
    | cons first replays ih =>
        intro r h
        refine ih _ ?_
        rcases h with h | h
        · rcases List.mem_cons.1 h with rfl | h
          · exact Or.inr (mem_replays_addReplay (Or.inr rfl))
          · exact Or.inl h
        · exact Or.inr (mem_replays_addReplay (Or.inl h))
  rw [withReplays_eq_foldl]
  exact hfold _ r (Or.inl h)

/-- A new replay in the lineage is one more replay of its record. -/
theorem withReplays_setReplays {j' : Journal} {earlier replay : RecordId}
    (h : j'.lineage = setReplays earlier (replaysIn j.lineage earlier ++ [replay]) j.lineage)
    (r : Record) : j'.withReplays r = Ledger.addReplay earlier replay (j.withReplays r) := by
  have hid : (j.withReplays r).id = r.id := rfl
  unfold Ledger.addReplay
  rw [hid]
  split
  · rename_i hr
    rw [withReplays_eq_foldl, withReplays_eq_foldl, h, hr, replaysIn_setReplays_self,
      List.foldl_append]
    rfl
  · rename_i hr
    refine withReplays_congr ?_
    rw [h, replaysIn_setReplays_of_ne hr]

/-- A replay that the lineage has makes no difference. -/
theorem addReplay_withReplays {earlier replay : RecordId}
    (h : replay ∈ replaysIn j.lineage earlier) (r : Record) :
    Ledger.addReplay earlier replay (j.withReplays r) = j.withReplays r := by
  unfold Ledger.addReplay
  split
  · rename_i hr
    have hr' : r.id = earlier := hr
    unfold Memory.addReplay
    exact if_pos (List.contains_iff_mem.2 (mem_replays_withReplays (hr'.symm ▸ h)))
  · rfl

/-! ## Reading -/

theorem find?_lineOf {rs : List Record} (h : ∀ r ∈ rs, Storable r) (id : RecordId) :
    (rs.map lineOf).find? (fun line => id? line = some id) =
      (rs.find? (·.id = id)).map lineOf := by
  induction rs with
  | nil => rfl
  | cons r rs ih =>
      rw [List.map_cons, List.find?_cons, List.find?_cons, id?_lineOf (h r List.mem_cons_self),
        ih fun x hx => h x (List.mem_cons_of_mem r hx)]
      by_cases hr : r.id = id <;> simp [hr]

theorem find?_withReplays (j : Journal) (base : Ledger) (id : RecordId) :
    (base.map j.withReplays).find? (·.id = id) = (base.find? (·.id = id)).map j.withReplays := by
  rw [List.find?_map]
  rfl

theorem any_withReplays (j : Journal) (base : Ledger) (id : RecordId) :
    (base.map j.withReplays).any (·.id = id) = base.any (·.id = id) := by
  rw [List.any_map]
  rfl

theorem Holds.distinct (h : j.Holds l) : l.Distinct := by
  obtain ⟨base, entries, h, rfl⟩ := h
  unfold Ledger.Distinct
  rw [List.map_map]
  exact h.distinct

theorem Holds.find_eq (h : j.Holds l) (id : RecordId) : j.find id = l.find id := by
  obtain ⟨base, entries, h, rfl⟩ := h
  unfold find Ledger.find
  rw [h.indexes id, find?_withReplays]
  cases hfind : base.find? (·.id = id) with
  | none => rfl
  | some r =>
      have hr := (Ledger.mem_of_find?_eq_some hfind).1
      have hstorable := h.files.storable r hr
      have hpartition : ∀ x ∈ base.filter (·.provider = r.provider), Storable x :=
        fun x hx => h.files.storable x (List.mem_filter.1 hx).1
      have hline : ((base.filter (·.provider = r.provider)).map lineOf).find?
          (fun line => id? line = some id) = some (lineOf r) := by
        rw [find?_lineOf hpartition, h.distinct.find?_filter, hfind,
          Option.filter_some_pos (by simp)]
        rfl
      rw [Option.map_some, Option.map_some]
      dsimp only
      rw [h.files.linesOf_eq hstorable.isPartition]
      simp only [bind, Except.bind, hline, hstorable.readsBack]

theorem Keeps.matching_eq (h : j.Keeps base entries) (f : Filter) {ps : List String}
    (hps : ∀ p ∈ ps, IsPartition p) :
    j.matching f ps = (ps.flatMap fun p =>
      (base.filter (·.provider = p)).filter f.accepts).map fun r => .ok (j.withReplays r) := by
  induction ps with
  | nil => rfl
  | cons p ps ih =>
      rw [matching, h.files.linesOf_eq (hps p List.mem_cons_self)]
      dsimp only
      rw [filterMap_record?_lineOf fun r hr => h.files.storable r (List.mem_filter.1 hr).1,
        ih fun q hq => hps q (List.mem_cons_of_mem p hq), List.flatMap_cons, List.map_append]

/-- The partitions that a listing takes have all records that its filter accepts. -/
theorem Files.wanted_eq {folder : Folder} (h : Files folder base) (f : Filter) :
    (((partitions folder).filter fun p =>
        f.provider.all fun provider => partitionName provider = p).flatMap fun p =>
      (base.filter (·.provider = p)).filter f.accepts) = base.byProvider.filter f.accepts := by
  rw [Ledger.flatMap_filter_of_eq_nil, ← List.filter_flatMap, ← h.byProvider_eq]
  intro p hp hother
  -- a partition that is passed over has no record of the provider that is asked for
  rw [List.filter_eq_nil_iff]
  intro r hr haccepts
  have hprovider : r.provider = p := of_decide_eq_true (List.mem_filter.1 hr).2
  have hasks := Ledger.provider_of_accepts haccepts
  rw [hprovider] at hasks
  cases hasked : f.provider with
  | none =>
      rw [hasked] at hother
      cases hother
  | some q =>
      rw [hasked] at hasks hother
      have hq : q = p := of_decide_eq_true hasks
      rw [hq] at hother
      have hname := partitionName_of_isSlug (h.isPartition_of_mem hp).slug
      exact of_decide_eq_false hother hname

theorem Holds.list_eq (h : j.Holds l) (f : Filter) : j.list f = (l.list f).map .ok := by
  obtain ⟨base, entries, h, rfl⟩ := h
  have hprovider : ∀ r, (j.withReplays r).provider = r.provider := fun _ => rfl
  have haccepts : f.accepts ∘ j.withReplays = f.accepts := rfl
  calc j.list f
      = f.page ((base.byProvider.filter f.accepts).map fun r => .ok (j.withReplays r)) := by
        unfold list
        dsimp only
        rw [h.matching_eq f fun p hp => h.files.isPartition_of_mem (List.mem_filter.1 hp).1,
          h.files.wanted_eq]
    _ = f.page (((Ledger.byProvider (base.map j.withReplays)).filter f.accepts).map .ok) := by
        rw [Ledger.byProvider_map hprovider, List.filter_map, haccepts, List.map_map]
        rfl
    _ = (Ledger.list f (base.map j.withReplays)).map .ok := Ledger.page_map f _ _

/-! ## Appending -/

theorem Holds.append (h : j.Holds l) {r : Record} (hr : Storable r) :
    (j.append r).2 = (l.append r).2 ∧ (j.append r).1.Holds (l.append r).1 := by
  obtain ⟨base, entries, h, rfl⟩ := h
  unfold Journal.append Ledger.append
  dsimp only
  rw [h.indexes.isSome, any_withReplays, partitionName_of_isSlug hr.isPartition.slug]
  cases hany : base.any (·.id = r.id) with
  | true => exact ⟨rfl, base, entries, h, rfl⟩
  | false =>
      rw [if_neg Bool.false_ne_true, if_neg Bool.false_ne_true, h.files.appendLine_eq hr]
      -- nothing was attached to the record before, not even to a purged one with its identifier
      have hknown : r.id ∉ j.lineage.map (·.1) := by
        intro hmem
        obtain ⟨x, hx, hid⟩ := List.mem_map.1 (h.known _ hmem)
        rw [List.any_eq_false] at hany
        exact hany x hx (decide_eq_true hid)
      refine ⟨rfl, base ++ [r], entries, ?_, ?_⟩
      · exact {
          distinct := Ledger.distinct_append_singleton h.distinct hany
          indexes := h.indexes.append hany
          files := h.files.append hr
          lineage := h.lineage
          lineageIn := by
            unfold LineageIn
            dsimp only
            rw [Folder.lookup_put_of_ne hr.isPartition.fileName_ne_lineageName.symm]
            exact h.lineageIn
          known := fun id hid => by
            rw [List.map_append]
            exact List.mem_append_left _ (h.known id hid) }
      · rw [List.map_append, List.map_singleton]
        exact congrArg (base.map j.withReplays ++ [·]) (withReplays_of_not_mem hknown)

/-! ## Purging -/

theorem pruneLineage_eq {folder : Folder} (hfiles : Files folder base)
    (hin : LineageIn folder entries) (index : List (RecordId × String))
    (removed : List RecordId) :
    ∃ folder' entries', pruneLineage removed ⟨folder, index, lineageOf entries⟩ =
        (⟨folder', index, lineageOf entries'⟩, .ok ()) ∧
      Files folder' base ∧ LineageIn folder' entries' ∧
      lineageOf entries' = (lineageOf entries).filter fun q => !removed.contains q.1 := by
  unfold pruneLineage
  dsimp only
  split
  · -- nothing was taken out, and the file is not touched
    rename_i hlength
    refine ⟨folder, entries, rfl, hfiles, hin, ?_⟩
    exact (List.filter_eq_self.2 (List.length_filter_eq_length_iff.1 hlength)).symm
  · -- the file has the entries of the lineage that is left, record by record
    rw [hfiles.lookup_draftName, Folder.remove_of_lookup_eq_none (hfiles.lookup_draftName _),
      lineageText_eq]
    have hkept := (wellFormed_lineageOf entries).filter fun q => !removed.contains q.1
    refine ⟨_, entriesOf ((lineageOf entries).filter fun q => !removed.contains q.1), ?_,
      hfiles.putLineage _, Or.inl (Folder.lookup_put_self _ _ _), lineageOf_entriesOf hkept⟩
    rw [lineageOf_entriesOf hkept]
    rcases hin with hin | ⟨hin, _⟩
    · rw [hin]
      rfl
    · rw [hin]

/-- The lineage that a purge leaves is about records that stay. -/
theorem Keeps.known_purgeBefore (h : j.Keeps base entries) {cutoff : Time.Instant} {id : RecordId}
    (hid : id ∈ (j.lineage.filter fun q => !(base.expiredIds cutoff).contains q.1).map (·.1)) :
    id ∈ (base.purgeBefore cutoff).1.map (·.id) := by
  obtain ⟨q, hq, rfl⟩ := List.mem_map.1 hid
  obtain ⟨hq, hstays⟩ := List.mem_filter.1 hq
  obtain ⟨r, hr, hrid⟩ := List.mem_map.1 (h.known _ (List.mem_map_of_mem hq))
  rw [← hrid] at hstays
  refine List.mem_map.2 ⟨r, List.mem_filter.2 ⟨hr, ?_⟩, hrid⟩
  cases hbefore : r.createdAt.isBefore cutoff with
  | false => rfl
  | true =>
      rw [List.contains_iff_mem.2 ((h.distinct.mem_expiredIds_iff hr).2 hbefore)] at hstays
      cases hstays

/-- A purge does not touch the lineage of a record that stays. -/
theorem Keeps.replaysIn_purgeBefore (h : j.Keeps base entries) {cutoff : Time.Instant} {r : Record}
    (hr : r ∈ (base.purgeBefore cutoff).1) :
    replaysIn (j.lineage.filter fun q => !(base.expiredIds cutoff).contains q.1) r.id =
      replaysIn j.lineage r.id := by
  obtain ⟨hr, hafter⟩ := List.mem_filter.1 hr
  have hstays : (base.expiredIds cutoff).contains r.id = false := by
    rw [← Bool.not_eq_true, List.contains_iff_mem, h.distinct.mem_expiredIds_iff hr]
    simpa using hafter
  unfold replaysIn
  rw [lookup_filter_fst (fun id => !(base.expiredIds cutoff).contains id), hstays]
  rfl

theorem Holds.purgeBefore (h : j.Holds l) (cutoff : Time.Instant) :
    (j.purgeBefore cutoff).2 = .ok (l.purgeBefore cutoff).2 ∧
      (j.purgeBefore cutoff).1.Holds (l.purgeBefore cutoff).1 := by
  obtain ⟨base, entries, h, rfl⟩ := h
  obtain ⟨folder, hpurge, hfiles, hlookup⟩ := h.files.purge cutoff
  have hin : LineageIn folder entries := by
    unfold LineageIn
    rw [hlookup]
    exact h.lineageIn
  obtain ⟨folder', entries', hprune, hfiles', hin', hkept⟩ :=
    pruneLineage_eq hfiles hin (j.index.filter fun i => !(base.expiredIds cutoff).contains i.1)
      (base.expiredIds cutoff)
  rw [← h.lineage] at hkept
  have hstate : j.purgeBefore cutoff =
      (⟨folder', j.index.filter fun i => !(base.expiredIds cutoff).contains i.1,
        lineageOf entries'⟩, .ok (base.expiredIds cutoff).length) := by
    unfold Journal.purgeBefore
    rw [hpurge]
    dsimp only
    rw [h.lineage, hprune]
    rfl
  have hledger : Ledger.purgeBefore cutoff (base.map j.withReplays) =
      ((base.purgeBefore cutoff).1.map j.withReplays, (base.purgeBefore cutoff).2) := by
    unfold Ledger.purgeBefore
    dsimp only
    rw [List.filter_map, List.filter_map, List.length_map]
    rfl
  rw [hstate, hledger, Ledger.length_expiredIds]
  refine ⟨rfl, (base.purgeBefore cutoff).1, entries', ?_, ?_⟩
  · exact {
      distinct := h.distinct.filter _
      indexes := h.indexes.purgeBefore h.distinct cutoff
      files := hfiles'
      lineage := rfl
      lineageIn := hin'
      known := by
        rw [hkept]
        exact fun _ hid => h.known_purgeBefore hid }
  · refine List.map_congr_left fun r hr => withReplays_congr ?_
    rw [hkept]
    exact h.replaysIn_purgeBefore hr

/-! ## Attaching -/

theorem LineageIn.appendLine_eq {folder : Folder} (h : LineageIn folder entries)
    (earlier replay : RecordId) :
    appendLine lineageName (lineageLine earlier replay) folder =
      .ok (folder.put lineageName (lineageFile (entries ++ [(earlier, replay)]))) := by
  have hfile : lineageFile (entries ++ [(earlier, replay)]) =
      .file (fileText (entries.map fun e => lineageLine e.1 e.2) ++ lineageLine earlier replay ++
        "\n") := by
    unfold lineageFile
    rw [List.map_append, fileText_append, List.map_singleton, fileText_singleton,
      String.append_assoc]
  unfold appendLine
  rw [hfile]
  rcases h with h | ⟨h, rfl⟩
  · rw [h]
    rfl
  · rw [h, List.map_nil, fileText, List.map_nil, String.join_nil, String.empty_append]

theorem Holds.attach (h : j.Holds l) (earlier replay : RecordId) :
    (j.attach earlier replay).2 = (l.attach earlier replay).2 ∧
      (j.attach earlier replay).1.Holds (l.attach earlier replay).1 := by
  obtain ⟨base, entries, h, rfl⟩ := h
  unfold Journal.attach Ledger.attach
  dsimp only
  rw [any_withReplays, ← h.indexes.isSome, List.map_map]
  cases hlookup : j.index.lookup earlier with
  | none => exact ⟨rfl, base, entries, h, rfl⟩
  | some p =>
      rw [Option.isNone_some, if_neg Bool.false_ne_true, Option.isSome_some, if_pos rfl]
      split
      · -- the record has the replay already
        rename_i hold
        refine ⟨rfl, base, entries, h, List.map_congr_left fun r _ => ?_⟩
        exact (addReplay_withReplays (List.contains_iff_mem.1 hold) r).symm
      · rename_i hnew
        rw [h.lineageIn.appendLine_eq]
        refine ⟨rfl, base, entries ++ [(earlier, replay)], ?_, List.map_congr_left fun r _ => ?_⟩
        · exact {
            distinct := h.distinct
            indexes := h.indexes
            files := h.files.putLineage _
            lineage := by
              unfold lineageOf
              rw [List.foldl_append, List.foldl_cons, List.foldl_nil]
              show _ = addReplay (lineageOf entries) (earlier, replay)
              rw [← h.lineage]
              exact (addReplay_of_not_mem (by simpa using hnew)).symm
            lineageIn := Or.inl (Folder.lookup_put_self _ _ _)
            known := by
              intro id hid
              rcases mem_keys_setReplays.1 hid with rfl | hid
              · have hsome := h.indexes id
                rw [hlookup] at hsome
                cases hfind : base.find? (·.id = id) with
                | none =>
                    rw [hfind] at hsome
                    cases hsome
                | some r =>
                    obtain ⟨hr, hrid⟩ := Ledger.mem_of_find?_eq_some hfind
                    exact List.mem_map.2 ⟨r, hr, hrid⟩
              · exact h.known id hid }
        · exact withReplays_setReplays rfl r

/-! ## Opening -/

/-- The index of some partitions has their records, the latest first. -/
theorem Files.indexOf_eq {folder : Folder} (h : Files folder base) {ps : List String}
    (hps : ∀ p ∈ ps, IsPartition p) (index : List (RecordId × String)) :
    indexOf folder index ps = .ok (((ps.flatMap fun p =>
      base.filter (·.provider = p)).map fun r => (r.id, r.provider)).reverse ++ index) := by
  induction ps generalizing index with
  | nil => rfl
  | cons p ps ih =>
      have hfold : ∀ (ids : List RecordId) (index : List (RecordId × String)),
          ids.foldl (fun index id => (id, p) :: index) index =
            (ids.map (·, p)).reverse ++ index := by
        intro ids
        induction ids with
        | nil => exact fun _ => rfl
        | cons id ids ih => exact fun index => by simp [ih]
      have hids : ((base.filter (·.provider = p)).map (·.id)).map (·, p) =
          (base.filter (·.provider = p)).map fun r => (r.id, r.provider) := by
        rw [List.map_map]
        refine List.map_congr_left fun r hr => ?_
        rw [of_decide_eq_true (List.mem_filter.1 hr).2]
        rfl
      rw [indexOf, h.linesOf_eq (hps p List.mem_cons_self)]
      show indexOf folder (List.foldl _ index (List.filterMap id? _)) ps = _
      rw [filterMap_id?_lineOf fun r hr => h.storable r (List.mem_filter.1 hr).1, hfold, hids,
        ih fun q hq => hps q (List.mem_cons_of_mem p hq), List.flatMap_cons, List.map_append,
        List.reverse_append, List.append_assoc]

theorem LineageIn.exists_lines {folder : Folder} (h : LineageIn folder entries) :
    ∃ ls, linesOf lineageName folder = .ok ls ∧ ls.filterMap lineage? = entries := by
  unfold linesOf
  rcases h with h | ⟨h, rfl⟩
  · rw [h]
    exact ⟨_, rfl, lines_lineageFile entries⟩
  · rw [h]
    exact ⟨[], rfl, rfl⟩

/-- Opening the folder of a journal anew finds the same records. -/
theorem Holds.ofFolder (h : j.Holds l) : ∃ j', Journal.ofFolder j.folder = .ok j' ∧ j'.Holds l := by
  obtain ⟨base, entries, h, rfl⟩ := h
  obtain ⟨ls, hls, hentries⟩ := h.lineageIn.exists_lines
  have hindex := h.files.indexOf_eq (fun _ hp => h.files.isPartition_of_mem hp) []
  rw [← h.files.byProvider_eq, List.append_nil, ← List.map_reverse] at hindex
  have hperm : base.byProvider.reverse.Perm base :=
    (List.reverse_perm _).trans base.byProvider_perm
  refine ⟨⟨j.folder, base.byProvider.reverse.map fun r => (r.id, r.provider), lineageOf entries⟩,
    ?_, base, entries, ?_, ?_⟩
  · unfold Journal.ofFolder
    rw [hindex, hls, ← hentries]
    rfl
  · exact {
      distinct := h.distinct
      indexes := Ledger.indexes_of_perm h.distinct hperm
      files := h.files
      lineage := rfl
      lineageIn := h.lineageIn
      known := by
        rw [← h.lineage]
        exact h.known }
  · refine List.map_congr_left fun r _ => withReplays_congr ?_
    rw [h.lineage]

end ApiGateway.Audit.Journal
