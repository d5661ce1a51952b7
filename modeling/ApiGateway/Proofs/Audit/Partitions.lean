import ApiGateway.Catalog.Validation
import ApiGateway.Proofs.Audit.Ledger
import ApiGateway.Proofs.Audit.Lines
import ApiGateway.Proofs.Files
import Mathlib.Data.List.Basic

/-! # The partitions of a journal

The records of a provider stand in a file of their own, under the name of the provider; the files of
different providers never meet, nor do they meet the lineage or a draft. `Files` says which records
the files of a folder have. Reading the folder gives these records, and a purge takes the expired
ones out of every file.
-/

set_option autoImplicit false

namespace ApiGateway.Audit.Journal

/-! ## Names of files -/

/-- A provider whose records have a partition under its own name. -/
structure IsPartition (p : String) : Prop where
  slug : Catalog.isSlug p = true
  notLineage : p ≠ "lineage"

/-- A record that a journal keeps as it is: it has a partition, and its line reads back. -/
structure Storable (r : Record) : Prop where
  isPartition : IsPartition r.provider
  readsBack : record? (lineOf r) = some r

/-- A record whose numbers read back is read of its line if it is read of what its layout takes. -/
theorem record?_lineOf {r : Record} (hnumbers : r.toJson.Readable)
    (hfit : (r.toJson.toWritten.fit? Json.maxDepth Record.layout).bind Record.ofJson? = some r) :
    record? (lineOf r) = some r := by
  unfold record? lineOf
  rw [Json.readFields_render hnumbers]
  exact hfit

theorem isNameChar_of_isSlug {p : String} (h : Catalog.isSlug p = true) :
    ∀ c ∈ p.toList, isNameChar c = true := by
  have hstart : ∀ c, Catalog.isSlugStart c = true → isNameChar c = true := by
    intro c hc
    show ((((c.isUpper || c.isLower) || c.isDigit) || c == '-') || c == '_') = true
    rcases Bool.or_eq_true_iff.1 hc with hc | hc
    · simp [hc]
    · simp [hc]
  unfold Catalog.isSlug at h
  cases hp : p.toList with
  | nil =>
      intro c hc
      cases hc
  | cons c rest =>
      rw [hp] at h
      rw [Bool.and_eq_true, List.all_eq_true] at h
      intro d hd
      rcases List.mem_cons.1 hd with rfl | hd
      · exact hstart d h.1
      · have hd' := h.2 d hd
        rw [Bool.or_eq_true, Bool.or_eq_true] at hd'
        rcases hd' with (hd' | hd') | hd'
        · exact hstart d hd'
        · simp [isNameChar, hd']
        · simp [isNameChar, hd']

theorem toList_ne_nil_of_isSlug {p : String} (h : Catalog.isSlug p = true) : p.toList ≠ [] := by
  intro hp
  unfold Catalog.isSlug at h
  rw [hp] at h
  cases h

/-- The partition of a provider has its name. -/
theorem partitionName_of_isSlug {p : String} (h : Catalog.isSlug p = true) :
    partitionName p = p := by
  have hchars : (p.toList.map fun c => if isNameChar c then c else '_') = p.toList :=
    (List.map_congr_left fun c hc => if_pos (isNameChar_of_isSlug h c hc)).trans (List.map_id _)
  unfold partitionName
  rw [hchars, String.ofList_toList]

theorem toList_fileName (p : String) : (fileName p).toList = p.toList ++ '.' :: "jsonl".toList := by
  simp [fileName, extension]

theorem fileName_injective {p q : String} (h : fileName p = fileName q) : p = q := by
  have hchars := congrArg String.toList h
  rw [toList_fileName, toList_fileName] at hchars
  exact String.toList_inj.1 (List.append_cancel_right hchars)

theorem IsPartition.fileName_ne_lineageName {p : String} (h : IsPartition p) :
    fileName p ≠ lineageName :=
  fun heq => h.notLineage (fileName_injective (heq.trans (rfl : lineageName = fileName "lineage")))

/-- A draft never has the name of another file. -/
theorem draftName_ne_fileName (name p : String) : draftName name ≠ fileName p := by
  intro heq
  have hlast := congrArg (fun s : String => s.toList.getLast?) heq
  simp only [draftName, toList_fileName, String.toList_append] at hlast
  simp at hlast

theorem partition?_fileName {p : String} (h : IsPartition p) :
    partition? (fileName p) = some p := by
  have hname : fileName p = String.ofList (p.toList ++ '.' :: "jsonl".toList) := by
    rw [← toList_fileName, String.ofList_toList]
  have hstem : FilePath.stemAndExtension (fileName p) = (p, some extension) := by
    rw [hname, FilePath.stemAndExtension_append (toList_ne_nil_of_isSlug h.slug) (by decide)
      (by decide), String.ofList_toList, String.ofList_toList]
    rfl
  unfold partition?
  rw [hstem]
  exact if_pos ⟨rfl, h.fileName_ne_lineageName⟩

/-- Only the file of a partition stands for it. -/
theorem eq_fileName_of_partition? {name p : String} (h : partition? name = some p) :
    name = fileName p ∧ name ≠ lineageName := by
  unfold partition? at h
  dsimp only at h
  split at h
  · rename_i hname
    cases h
    have hstem : FilePath.stemAndExtension name =
        ((FilePath.stemAndExtension name).1, some extension) := Prod.ext rfl hname.1
    have hchars := FilePath.name_of_stemAndExtension hstem
    refine ⟨String.toList_inj.1 (hchars.trans ?_), hname.2⟩
    rw [toList_fileName]
    rfl
  · cases h

/-! ## Contents of files -/

/-- The file of a partition of a ledger. -/
def partitionFile (p : String) (l : Ledger) : Entry :=
  .file (fileText ((l.filter (·.provider = p)).map lineOf))

/-- The files beside the lineage have the records of a ledger, each file those of one provider. -/
structure Files (folder : Folder) (l : Ledger) : Prop where
  ascending : folder.Ascending
  storable : ∀ r ∈ l, Storable r
  file : ∀ name entry, folder.lookup name = some entry → name ≠ lineageName →
    ∃ p, IsPartition p ∧ name = fileName p ∧ entry = partitionFile p l
  complete : ∀ r ∈ l, (folder.lookup (fileName r.provider)).isSome

theorem files_nil : Files [] [] where
  ascending := List.Pairwise.nil
  storable := fun _ hr => nomatch hr
  file := fun _ _ h => nomatch h
  complete := fun _ hr => nomatch hr

variable {folder : Folder} {l : Ledger}

theorem Files.nodup (h : Files folder l) : (folder.map (·.1)).Nodup :=
  Ledger.nodup_of_ascending h.ascending

theorem Files.filter_eq_nil (h : Files folder l) {p : String}
    (hp : folder.lookup (fileName p) = none) : l.filter (·.provider = p) = [] := by
  rw [List.filter_eq_nil_iff]
  intro r hr hrp
  have hsome := h.complete r hr
  rw [of_decide_eq_true hrp, hp] at hsome
  cases hsome

theorem Files.eq_partitionFile (h : Files folder l) {p : String} (hp : IsPartition p)
    {entry : Entry} (hentry : folder.lookup (fileName p) = some entry) :
    entry = partitionFile p l := by
  obtain ⟨q, _, hname, rfl⟩ := h.file _ _ hentry hp.fileName_ne_lineageName
  rw [fileName_injective hname]

theorem Files.lookup_draftName (h : Files folder l) (name : String) :
    folder.lookup (draftName name) = none := by
  cases hentry : folder.lookup (draftName name) with
  | none => rfl
  | some entry =>
      obtain ⟨p, _, hname, _⟩ := h.file _ _ hentry (draftName_ne_fileName name "lineage")
      exact absurd hname (draftName_ne_fileName name p)

/-- The file of a partition takes the place of an old one. The other partitions stay. -/
theorem Files.put (h : Files folder l) {l' : Ledger} (hstorable : ∀ r ∈ l', Storable r)
    {p : String} (hp : IsPartition p)
    (hothers : ∀ q, q ≠ p → l'.filter (·.provider = q) = l.filter (·.provider = q)) :
    Files (folder.put (fileName p) (partitionFile p l')) l' where
  ascending := h.ascending.put _ _
  storable := hstorable
  file := by
    intro name entry hentry hname
    by_cases heq : name = fileName p
    · rw [heq, Folder.lookup_put_self] at hentry
      exact ⟨p, hp, heq, (Option.some.inj hentry).symm⟩
    · rw [Folder.lookup_put_of_ne heq] at hentry
      obtain ⟨q, hq, rfl, rfl⟩ := h.file name entry hentry hname
      refine ⟨q, hq, rfl, ?_⟩
      unfold partitionFile
      rw [hothers q fun hqp => heq (congrArg fileName hqp)]
  complete := by
    intro r hr
    by_cases hrp : r.provider = p
    · rw [hrp, Folder.lookup_put_self]
      rfl
    · rw [Folder.lookup_put_of_ne fun heq => hrp (fileName_injective heq)]
      have hr' : r ∈ l'.filter (·.provider = r.provider) := by simp [hr]
      rw [hothers r.provider hrp] at hr'
      exact h.complete r (List.mem_filter.1 hr').1

theorem partitionFile_append (r : Record) (l : Ledger) :
    partitionFile r.provider (l ++ [r]) =
      .file (fileText ((l.filter (·.provider = r.provider)).map lineOf) ++ lineOf r ++ "\n") := by
  have hlast : (l ++ [r]).filter (·.provider = r.provider) =
      l.filter (·.provider = r.provider) ++ [r] := by simp
  unfold partitionFile
  rw [hlast, List.map_append, fileText_append, List.map_singleton, fileText_singleton,
    String.append_assoc]

/-- The line of a new record comes behind the lines of its provider. -/
theorem Files.appendLine_eq (h : Files folder l) {r : Record} (hr : Storable r) :
    appendLine (fileName r.provider) (lineOf r) folder =
      .ok (folder.put (fileName r.provider) (partitionFile r.provider (l ++ [r]))) := by
  unfold appendLine
  rw [partitionFile_append]
  cases hentry : folder.lookup (fileName r.provider) with
  | none =>
      rw [h.filter_eq_nil hentry, List.map_nil, fileText, List.map_nil, String.join_nil,
        String.empty_append]
  | some entry =>
      rw [h.eq_partitionFile hr.isPartition hentry]
      rfl

theorem Files.append (h : Files folder l) {r : Record} (hr : Storable r) :
    Files (folder.put (fileName r.provider) (partitionFile r.provider (l ++ [r]))) (l ++ [r]) := by
  refine h.put (fun x hx => ?_) hr.isPartition fun q hq => ?_
  · rcases List.mem_append.1 hx with hx | hx
    · exact h.storable x hx
    · rw [List.mem_singleton.1 hx]
      exact hr
  · simp [Ne.symm hq]

/-- The lineage does not matter to the partitions. -/
theorem Files.putLineage (h : Files folder l) (entry : Entry) :
    Files (folder.put lineageName entry) l where
  ascending := h.ascending.put _ _
  storable := h.storable
  file := by
    intro name entry' hentry hname
    rw [Folder.lookup_put_of_ne hname] at hentry
    exact h.file name entry' hentry hname
  complete := by
    intro r hr
    rw [Folder.lookup_put_of_ne (h.storable r hr).isPartition.fileName_ne_lineageName]
    exact h.complete r hr

/-! ## Reading -/

theorem isLine_of_mem_map_lineOf {rs : List Record} : ∀ line ∈ rs.map lineOf, IsLine line := by
  intro line hline
  obtain ⟨r, _, rfl⟩ := List.mem_map.1 hline
  exact isLine_lineOf r

/-- The lines of a partition are those of the records of its provider. -/
theorem Files.linesOf_eq (h : Files folder l) {p : String} (hp : IsPartition p) :
    linesOf (fileName p) folder = .ok ((l.filter (·.provider = p)).map lineOf) := by
  unfold linesOf
  cases hentry : folder.lookup (fileName p) with
  | none =>
      rw [h.filter_eq_nil hentry]
      rfl
  | some entry =>
      rw [h.eq_partitionFile hp hentry]
      exact congrArg Except.ok (lines_fileText isLine_of_mem_map_lineOf)

theorem id?_lineOf {r : Record} (h : Storable r) : id? (lineOf r) = some r.id := by
  refine id?_of_record? ?_ h.readsBack
  obtain ⟨inside, htext⟩ := Json.toList_render_obj _
  exact congrArg List.head? htext

theorem filterMap_record?_lineOf {rs : List Record} (h : ∀ r ∈ rs, Storable r) :
    (rs.map lineOf).filterMap record? = rs := by
  rw [List.filterMap_map]
  refine (List.filterMap_congr fun r hr => ?_).trans List.filterMap_some
  exact (h r hr).readsBack

theorem filterMap_id?_lineOf {rs : List Record} (h : ∀ r ∈ rs, Storable r) :
    (rs.map lineOf).filterMap id? = rs.map (·.id) := by
  rw [List.filterMap_map, ← List.filterMap_eq_map]
  exact List.filterMap_congr fun r hr => id?_lineOf (h r hr)

theorem mem_partitions {p : String} :
    p ∈ partitions folder ↔ ∃ q ∈ folder, partition? q.1 = some p := by
  unfold partitions
  rw [List.mem_mergeSort, List.mem_filterMap]

theorem Files.isPartition_of_mem (h : Files folder l) {p : String} (hp : p ∈ partitions folder) :
    IsPartition p := by
  obtain ⟨⟨name, entry⟩, hq, hpartition⟩ := mem_partitions.1 hp
  obtain ⟨rfl, hne⟩ := eq_fileName_of_partition? hpartition
  obtain ⟨q, hq, hname, _⟩ := h.file _ entry (lookup_eq_some_of_mem h.nodup hq) hne
  exact fileName_injective hname ▸ hq

theorem Files.provider_mem_partitions (h : Files folder l) {r : Record} (hr : r ∈ l) :
    r.provider ∈ partitions folder := by
  obtain ⟨entry, hentry⟩ := Option.isSome_iff_exists.1 (h.complete r hr)
  exact mem_partitions.2 ⟨_, mem_of_lookup_eq_some hentry,
    partition?_fileName (h.storable r hr).isPartition⟩

/-- The partitions stand in the order of their names, which is not that of the files. -/
theorem Files.ascending_partitions (h : Files folder l) :
    (partitions folder).Pairwise (· < ·) := by
  have hsorted : (partitions folder).Pairwise fun a b => decide (a ≤ b) = true :=
    List.pairwise_mergeSort (by simpa using fun a b c => String.le_trans)
      (by simpa using fun a b => String.le_total a b) _
  have hnodup : (partitions folder).Nodup := by
    refine (List.mergeSort_perm _ _).nodup_iff.2 ?_
    refine List.Pairwise.filterMap _ ?_ (List.pairwise_map.1 h.nodup)
    rintro q q' hne p hp p' hp' rfl
    exact hne ((eq_fileName_of_partition? hp).1.trans (eq_fileName_of_partition? hp').1.symm)
  refine (hsorted.and hnodup).imp fun {p q} ⟨hle, hne⟩ => ?_
  refine Classical.byContradiction fun hge => hne ?_
  exact String.le_antisymm (of_decide_eq_true hle) (String.not_lt.1 hge)

/-- The records by ascending providers are those of one partition after another. -/
theorem Files.byProvider_eq (h : Files folder l) :
    l.byProvider = (partitions folder).flatMap fun p => l.filter (·.provider = p) :=
  Ledger.byProvider_eq_flatMap h.ascending_partitions fun _ hr => h.provider_mem_partitions hr

/-! ## Purging -/

/-- The records that a purge leaves if it is given some partitions only. -/
def keptOutside (cutoff : Time.Instant) (ps : List String) (l : Ledger) : Ledger :=
  l.filter fun r => !(ps.contains r.provider && r.createdAt.isBefore cutoff)

theorem keptOutside_cons (cutoff : Time.Instant) (p : String) (ps : List String) (l : Ledger) :
    keptOutside cutoff ps (keptOutside cutoff [p] l) = keptOutside cutoff (p :: ps) l := by
  unfold keptOutside
  rw [List.filter_filter]
  refine List.filter_congr fun r _ => ?_
  cases r.createdAt.isBefore cutoff <;> simp [Bool.and_comm]

/-- A purge of some partitions leaves the other ones as they are. -/
theorem filter_keptOutside {cutoff : Time.Instant} {ps : List String} {q : String} (hq : q ∉ ps)
    (l : Ledger) :
    (keptOutside cutoff ps l).filter (·.provider = q) = l.filter (·.provider = q) := by
  unfold keptOutside
  rw [List.filter_filter]
  refine List.filter_congr fun r _ => ?_
  by_cases hr : r.provider = q
  · simp [hr, hq]
  · simp [hr]

/-- The expired records of a provider. -/
def expiredOf (cutoff : Time.Instant) (p : String) (l : Ledger) : Ledger :=
  (l.filter (·.provider = p)).filter (·.createdAt.isBefore cutoff)

theorem expired?_lineOf {r : Record} (h : Storable r) (cutoff : Time.Instant) :
    expired? cutoff (lineOf r) = if r.createdAt.isBefore cutoff then some r else none := by
  unfold expired?
  rw [h.readsBack]
  rfl

theorem filterMap_expired?_lineOf {rs : List Record} (h : ∀ r ∈ rs, Storable r)
    (cutoff : Time.Instant) :
    ((rs.map lineOf).filterMap fun line => (expired? cutoff line).map (·.id)) =
      (rs.filter (·.createdAt.isBefore cutoff)).map (·.id) := by
  induction rs with
  | nil => rfl
  | cons r rs ih =>
      rw [List.map_cons, List.filterMap_cons, expired?_lineOf (h r List.mem_cons_self),
        ih fun x hx => h x (List.mem_cons_of_mem r hx)]
      by_cases hbefore : r.createdAt.isBefore cutoff = true <;> simp [hbefore]

theorem keptText_lineOf {rs : List Record} (h : ∀ r ∈ rs, Storable r) (cutoff : Time.Instant) :
    keptText cutoff (rs.map lineOf) =
      fileText ((rs.filter fun r => !r.createdAt.isBefore cutoff).map lineOf) := by
  have hline : ∀ r ∈ rs, (!Text.isAllBlank (lineOf r) && (expired? cutoff (lineOf r)).isNone) =
      !r.createdAt.isBefore cutoff := by
    intro r hr
    rw [not_isAllBlank_lineOf, expired?_lineOf (h r hr)]
    cases r.createdAt.isBefore cutoff <;> rfl
  have hkept : (rs.map lineOf).filter (fun line =>
        !Text.isAllBlank line && (expired? cutoff line).isNone) =
      (rs.filter fun r => !r.createdAt.isBefore cutoff).map lineOf := by
    rw [List.filter_map, Function.comp_def, List.filter_congr hline]
  unfold keptText fileText
  dsimp only
  rw [hkept]

theorem Files.purgePartition (h : Files folder l) {p : String} (hp : IsPartition p)
    (cutoff : Time.Instant) :
    ∃ folder', Journal.purgePartition cutoff p folder =
        (folder', .ok ((expiredOf cutoff p l).map (·.id))) ∧
      Files folder' (keptOutside cutoff [p] l) ∧
      folder'.lookup lineageName = folder.lookup lineageName := by
  have hstorable : ∀ r ∈ l.filter (·.provider = p), Storable r :=
    fun r hr => h.storable r (List.mem_filter.1 hr).1
  -- with nothing expired in the partition all records stay
  have hkept : expiredOf cutoff p l = [] → keptOutside cutoff [p] l = l := by
    intro hnone
    refine List.filter_eq_self.2 fun r hr => ?_
    unfold expiredOf at hnone
    rw [List.filter_filter, List.filter_eq_nil_iff] at hnone
    have hr' := hnone r hr
    simpa [imp_iff_not_or, or_comm] using hr'
  unfold Journal.purgePartition
  dsimp only
  rw [h.lookup_draftName]
  cases hentry : folder.lookup (fileName p) with
  | none =>
      have hnone : expiredOf cutoff p l = [] := by
        unfold expiredOf
        rw [h.filter_eq_nil hentry]
        rfl
      rw [hkept hnone, hnone]
      exact ⟨folder, rfl, h, rfl⟩
  | some entry =>
      rw [h.eq_partitionFile hp hentry]
      unfold partitionFile
      dsimp only
      rw [lines_fileText isLine_of_mem_map_lineOf, filterMap_expired?_lineOf hstorable,
        Folder.remove_of_lookup_eq_none (h.lookup_draftName _), keptText_lineOf hstorable]
      split
      · -- the file stays as it is if nothing in it has expired
        rename_i hempty
        have hnone : expiredOf cutoff p l = [] := by simpa [expiredOf] using hempty
        rw [hkept hnone, hnone]
        exact ⟨folder, rfl, h, rfl⟩
      · refine ⟨_, rfl, ?_, Folder.lookup_put_of_ne hp.fileName_ne_lineageName.symm _ _⟩
        have hfile : (l.filter (·.provider = p)).filter (fun r => !r.createdAt.isBefore cutoff) =
            (keptOutside cutoff [p] l).filter (·.provider = p) := by
          unfold keptOutside
          rw [List.filter_filter, List.filter_filter]
          refine List.filter_congr fun r _ => ?_
          by_cases hr : r.provider = p <;> simp [hr]
        rw [hfile]
        refine h.put (fun r hr => h.storable r (List.mem_filter.1 hr).1) hp fun q hq => ?_
        exact filter_keptOutside (by simpa using hq) l

/-- The partitions are purged one after another, and none of them touches the others. -/
theorem Files.purgePartitions (h : Files folder l) {ps : List String}
    (hps : ∀ p ∈ ps, IsPartition p) (hnodup : ps.Nodup) (cutoff : Time.Instant)
    (removed : List RecordId) :
    ∃ folder', Journal.purgePartitions cutoff removed ps folder =
        (folder', .ok (removed ++ ps.flatMap fun p => (expiredOf cutoff p l).map (·.id))) ∧
      Files folder' (keptOutside cutoff ps l) ∧
      folder'.lookup lineageName = folder.lookup lineageName := by
  induction ps generalizing folder l removed with
  | nil =>
      have hkept : keptOutside cutoff [] l = l := by simp [keptOutside]
      rw [List.flatMap_nil, List.append_nil, hkept]
      exact ⟨folder, rfl, h, rfl⟩
  | cons p ps ih =>
      rw [List.nodup_cons] at hnodup
      obtain ⟨folder₁, hpurge, hfiles, hlineage⟩ :=
        h.purgePartition (hps p List.mem_cons_self) cutoff
      obtain ⟨folder₂, hrest, hfiles', hlineage'⟩ :=
        ih hfiles (fun q hq => hps q (List.mem_cons_of_mem p hq)) hnodup.2
          (removed ++ (expiredOf cutoff p l).map (·.id))
      rw [keptOutside_cons] at hfiles'
      refine ⟨folder₂, ?_, hfiles', hlineage'.trans hlineage⟩
      have hothers : (ps.flatMap fun q =>
            (expiredOf cutoff q (keptOutside cutoff [p] l)).map (·.id)) =
          ps.flatMap fun q => (expiredOf cutoff q l).map (·.id) := by
        refine congrArg List.flatten (List.map_congr_left fun q hq => ?_)
        unfold expiredOf
        rw [filter_keptOutside]
        rintro hqp
        exact hnodup.1 (List.mem_singleton.1 hqp ▸ hq)
      rw [Journal.purgePartitions, hpurge]
      dsimp only
      rw [hrest, hothers, List.flatMap_cons, List.append_assoc]

/-- A purge of all partitions takes the expired records out. -/
theorem Files.purge (h : Files folder l) (cutoff : Time.Instant) :
    ∃ folder', Journal.purgePartitions cutoff [] (partitions folder) folder =
        (folder', .ok (l.expiredIds cutoff)) ∧
      Files folder' (l.purgeBefore cutoff).1 ∧
      folder'.lookup lineageName = folder.lookup lineageName := by
  obtain ⟨folder', hpurge, hfiles, hlineage⟩ :=
    h.purgePartitions (fun _ hp => h.isPartition_of_mem hp)
      (Ledger.nodup_of_ascending h.ascending_partitions) cutoff []
  have hremoved : ((partitions folder).flatMap fun p => (expiredOf cutoff p l).map (·.id)) =
      l.expiredIds cutoff := by
    unfold Ledger.expiredIds
    rw [h.byProvider_eq, List.filter_flatMap, List.map_flatMap]
    rfl
  have hkept : keptOutside cutoff (partitions folder) l = (l.purgeBefore cutoff).1 := by
    refine List.filter_congr fun r hr => ?_
    rw [List.contains_iff_mem.2 (h.provider_mem_partitions hr), Bool.true_and]
  rw [List.nil_append, hremoved] at hpurge
  exact ⟨folder', hpurge, hkept ▸ hfiles, hlineage⟩

end ApiGateway.Audit.Journal
