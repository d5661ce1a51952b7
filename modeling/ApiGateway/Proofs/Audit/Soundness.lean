import ApiGateway.Proofs.Audit.Agreement
import ApiGateway.Proofs.Audit.Opening
import ApiGateway.Proofs.Json.Members

/-! # Sound journals

`Sound` says what every operation on a journal keeps, whatever records it is given, of providers
with any slug: its partitions are files of whole lines of records, no identifier is in two of the
lines, and the index tells the partition of each. An append adds one line or none, a purge takes out
the lines that have expired, and nothing else touches a line.
-/

set_option autoImplicit false

namespace ApiGateway.Audit

namespace Journal

/-! ## The identifier of a line -/

/-- The identifier in the line of any record is that of the record, if one is read of it at all. -/
theorem eq_id_of_id?_lineOf {r : Record} {id : RecordId} (h : id? (lineOf r) = some id) :
    id = r.id := by
  have hline : ∃ rest, lineOf r = String.ofList
      (Json.textOf [.beginObj, .str "id", .colon, .str r.id.text, .comma] ++ rest) := by
    unfold lineOf Json.render
    exact ⟨_, congrArg String.ofList (Json.textOf_append [_, _, _, _, _] _)⟩
  obtain ⟨rest, hline⟩ := hline
  unfold id? at h
  rw [hline] at h
  obtain ⟨j, hj, h⟩ := Option.bind_eq_some_iff.1 h
  obtain ⟨members, rfl⟩ := Json.readFields_first rfl hj
  obtain ⟨f, hf, h⟩ := Option.bind_eq_some_iff.1 h
  have hfirst : Json.find? "id" f.given = some (.str r.id.text) := by
    unfold Json.Fields.ofJson? at hf
    dsimp only at hf
    split at hf
    · cases hf
      rfl
    · cases hf
  unfold Json.Fields.required at h
  rw [hfirst, Option.bind_some] at h
  have hid := RecordId.ofJson?_toJson r.id
  unfold RecordId.toJson at hid
  rw [hid] at h
  exact (Option.some.inj h).symm

/-- What is read of a line that is about to be found is the identifier of its record. -/
theorem id?_of_record?_lineOf {r x : Record} (h : record? (lineOf r) = some x) :
    id? (lineOf r) = some x.id := by
  obtain ⟨inside, htext⟩ := Json.toList_render_obj _
  exact id?_of_record? (congrArg List.head? htext) h

/-! ## Folders of whole lines -/

/-- The partitions of a folder are files of lines of records, and the lineage is a file. -/
structure Intact (folder : Folder) (ls : String → List String) : Prop where
  ascending : folder.Ascending
  isPartition : ∀ p, ls p ≠ [] → IsPartition p
  isRecord : ∀ p, ∀ line ∈ ls p, ∃ r, line = lineOf r
  file : ∀ name entry, folder.lookup name = some entry → name ≠ lineageName →
    ∃ p, IsPartition p ∧ name = fileName p ∧ entry = .file (fileText (ls p))
  complete : ∀ p, ls p ≠ [] → (folder.lookup (fileName p)).isSome
  lineage : ∀ entry, folder.lookup lineageName = some entry → ∃ text, entry = .file text

theorem intact_nil : Intact [] fun _ => [] where
  ascending := List.Pairwise.nil
  isPartition := fun _ h => absurd rfl h
  isRecord := fun _ _ h => nomatch h
  file := fun _ _ h => nomatch h
  complete := fun _ h => absurd rfl h
  lineage := fun _ h => nomatch h

variable {folder : Folder} {ls : String → List String}

theorem isLine_of_isRecord {lines : List String} (h : ∀ line ∈ lines, ∃ r, line = lineOf r) :
    ∀ line ∈ lines, IsLine line := by
  intro line hline
  obtain ⟨r, rfl⟩ := h line hline
  exact isLine_lineOf r

theorem Intact.lookup_eq (h : Intact folder ls) {p : String} (hp : IsPartition p) :
    folder.lookup (fileName p) = none ∧ ls p = [] ∨
      folder.lookup (fileName p) = some (.file (fileText (ls p))) := by
  cases hentry : folder.lookup (fileName p) with
  | none =>
      refine Or.inl ⟨rfl, Classical.byContradiction fun hne => ?_⟩
      have hsome := h.complete p hne
      rw [hentry] at hsome
      cases hsome
  | some entry =>
      obtain ⟨q, _, hname, rfl⟩ := h.file _ _ hentry hp.fileName_ne_lineageName
      rw [fileName_injective hname]
      exact Or.inr rfl

/-- The lines of a partition are those that were written to it. -/
theorem Intact.linesOf_eq (h : Intact folder ls) {p : String} (hp : IsPartition p) :
    linesOf (fileName p) folder = .ok (ls p) := by
  unfold linesOf
  rcases h.lookup_eq hp with ⟨hentry, hnil⟩ | hentry
  · rw [hentry, hnil]
  · rw [hentry]
    exact congrArg Except.ok (lines_fileText (isLine_of_isRecord (h.isRecord p)))

theorem Intact.isPartition_of_mem (h : Intact folder ls) {p : String}
    (hp : p ∈ partitions folder) : IsPartition p := by
  obtain ⟨hname, hpartition⟩ := mem_partitions_iff.1 hp
  obtain ⟨⟨_, entry⟩, hmem, rfl⟩ := List.mem_map.1 hname
  have hentry := lookup_eq_some_of_mem (Ledger.nodup_of_ascending h.ascending) hmem
  obtain ⟨q, hq, hname, _⟩ := h.file _ _ hentry (eq_fileName_of_partition? hpartition).2
  exact fileName_injective hname ▸ hq

theorem Intact.mem_partitions (h : Intact folder ls) {p line : String} (hline : line ∈ ls p) :
    p ∈ partitions folder := by
  have hne := List.ne_nil_of_mem hline
  obtain ⟨entry, hentry⟩ := Option.isSome_iff_exists.1 (h.complete p hne)
  refine mem_partitions_iff.2 ⟨?_, partition?_fileName (h.isPartition p hne)⟩
  exact List.mem_map_of_mem (mem_of_lookup_eq_some hentry)

theorem Intact.lookup_draftName (h : Intact folder ls) (name : String) :
    folder.lookup (draftName name) = none := by
  cases hentry : folder.lookup (draftName name) with
  | none => rfl
  | some entry =>
      obtain ⟨p, _, hname, _⟩ := h.file _ _ hentry (draftName_ne_fileName name "lineage")
      exact absurd hname (draftName_ne_fileName name p)

/-- The lines of one partition change. -/
theorem Intact.put (h : Intact folder ls) {p : String} (hp : IsPartition p) {new : List String}
    (hnew : ∀ line ∈ new, ∃ r, line = lineOf r) :
    Intact (folder.put (fileName p) (.file (fileText new))) (Function.update ls p new) where
  ascending := h.ascending.put _ _
  isPartition := by
    intro q hq
    by_cases hqp : q = p
    · exact hqp ▸ hp
    · rw [Function.update_of_ne hqp] at hq
      exact h.isPartition q hq
  isRecord := by
    intro q line hline
    by_cases hqp : q = p
    · rw [hqp, Function.update_self] at hline
      exact hnew line hline
    · rw [Function.update_of_ne hqp] at hline
      exact h.isRecord q line hline
  file := by
    intro name entry hentry hname
    by_cases heq : name = fileName p
    · rw [heq, Folder.lookup_put_self] at hentry
      refine ⟨p, hp, heq, ?_⟩
      rw [Function.update_self]
      exact (Option.some.inj hentry).symm
    · rw [Folder.lookup_put_of_ne heq] at hentry
      obtain ⟨q, hq, rfl, rfl⟩ := h.file name entry hentry hname
      refine ⟨q, hq, rfl, ?_⟩
      rw [Function.update_of_ne fun hqp => heq (congrArg fileName hqp)]
  complete := by
    intro q hq
    by_cases hqp : q = p
    · rw [hqp, Folder.lookup_put_self]
      rfl
    · rw [Function.update_of_ne hqp] at hq
      rw [Folder.lookup_put_of_ne fun hname => hqp (fileName_injective hname)]
      exact h.complete q hq
  lineage := by
    intro entry hentry
    rw [Folder.lookup_put_of_ne hp.fileName_ne_lineageName.symm] at hentry
    exact h.lineage entry hentry

/-- The lineage changes. -/
theorem Intact.putLineage (h : Intact folder ls) (text : String) :
    Intact (folder.put lineageName (.file text)) ls where
  ascending := h.ascending.put _ _
  isPartition := h.isPartition
  isRecord := h.isRecord
  file := by
    intro name entry hentry hname
    rw [Folder.lookup_put_of_ne hname] at hentry
    exact h.file name entry hentry hname
  complete := by
    intro p hp
    rw [Folder.lookup_put_of_ne (h.isPartition p hp).fileName_ne_lineageName]
    exact h.complete p hp
  lineage := by
    intro entry hentry
    rw [Folder.lookup_put_self] at hentry
    exact ⟨text, (Option.some.inj hentry).symm⟩

/-- A line is added to the lineage. -/
theorem Intact.appendLine_lineage (h : Intact folder ls) (line : String) :
    ∃ text, appendLine lineageName line folder =
      .ok (folder.put lineageName (.file text)) := by
  unfold appendLine
  cases hentry : folder.lookup lineageName with
  | none => exact ⟨_, rfl⟩
  | some entry =>
      obtain ⟨text, rfl⟩ := h.lineage entry hentry
      exact ⟨_, rfl⟩

/-- A line is added to a partition. -/
theorem Intact.appendLine_eq (h : Intact folder ls) {p : String} (hp : IsPartition p)
    (line : String) :
    appendLine (fileName p) line folder =
      .ok (folder.put (fileName p) (.file (fileText (ls p ++ [line])))) := by
  unfold appendLine
  rw [fileText_append, fileText_singleton]
  rcases h.lookup_eq hp with ⟨hentry, hnil⟩ | hentry
  · rw [hentry, hnil]
    simp [fileText]
  · rw [hentry, ← String.append_assoc]

/-! ## Sound journals -/

/-- The files of a journal are whole, and its index tells the one place of each identifier. -/
structure Sound (j : Journal) (ls : String → List String) : Prop where
  intact : Intact j.folder ls
  indexed : ∀ p, ∀ line ∈ ls p, ∀ id, id? line = some id → j.index.lookup id = some p
  once : ∀ p, ((ls p).filterMap id?).Nodup

theorem sound_empty : Sound ⟨[], [], []⟩ fun _ => [] where
  intact := intact_nil
  indexed := fun _ _ h => nomatch h
  once := fun _ => List.nodup_nil

variable {j : Journal}

/-- Two lines with one identifier are the same line. -/
theorem Sound.line_unique (h : j.Sound ls) {p line line' : String} {id : RecordId}
    (hline : line ∈ ls p) (hline' : line' ∈ ls p) (hid : id? line = some id)
    (hid' : id? line' = some id) : line = line' := by
  have hnodup := h.once p
  obtain ⟨front, behind, hsplit⟩ := List.append_of_mem hline
  rw [hsplit, List.filterMap_append, List.filterMap_cons, hid] at hnodup
  rw [hsplit] at hline'
  rcases List.mem_append.1 hline' with hmem | hmem
  · exact absurd rfl ((List.nodup_append.1 hnodup).2.2 id
      (List.mem_filterMap.2 ⟨line', hmem, hid'⟩) id List.mem_cons_self)
  · rcases List.mem_cons.1 hmem with rfl | hmem
    · rfl
    · have hbehind := (List.nodup_cons.1 (List.nodup_append.1 hnodup).2.1).1
      exact absurd (List.mem_filterMap.2 ⟨line', hmem, hid'⟩) hbehind

/-! ### Appending -/

theorem mem_update_append {p q line : String} {new : List String} (h : line ∈ ls q) :
    line ∈ Function.update ls p (ls p ++ new) q := by
  by_cases hqp : q = p
  · rw [hqp, Function.update_self]
    exact List.mem_append_left _ (hqp ▸ h)
  · rw [Function.update_of_ne hqp]
    exact h

/-- The line of a new record comes behind the lines of its provider. -/
theorem Sound.appendLine (h : j.Sound ls) {r : Record} (hp : IsPartition r.provider)
    (hnew : j.index.lookup r.id = none) (text : String)
    (htext : text = fileText (ls r.provider ++ [lineOf r])) :
    Sound ⟨j.folder.put (fileName r.provider) (.file text), (r.id, r.provider) :: j.index,
      j.lineage⟩ (Function.update ls r.provider (ls r.provider ++ [lineOf r])) := by
  subst htext
  -- the lines from before have other identifiers
  have hother : ∀ p, ∀ line ∈ ls p, ∀ id, id? line = some id → id ≠ r.id := by
    rintro p line hline id hid rfl
    have hsome := h.indexed p line hline _ hid
    rw [hnew] at hsome
    cases hsome
  have hlookup : ∀ p, ∀ line ∈ ls p, ∀ id, id? line = some id →
      ((r.id, r.provider) :: j.index).lookup id = some p := by
    intro p line hline id hid
    rw [List.lookup_cons, beq_eq_false_iff_ne.2 (hother p line hline id hid)]
    exact h.indexed p line hline id hid
  refine ⟨h.intact.put hp ?_, ?_, ?_⟩
  · intro line hline
    rcases List.mem_append.1 hline with hline | hline
    · exact h.intact.isRecord _ line hline
    · exact ⟨r, List.mem_singleton.1 hline⟩
  · intro p line hline id hid
    by_cases hpr : p = r.provider
    · rw [hpr, Function.update_self] at hline
      rcases List.mem_append.1 hline with hline | hline
      · exact hpr ▸ hlookup _ line hline id hid
      · rw [List.mem_singleton.1 hline] at hid
        rw [hpr, eq_id_of_id?_lineOf hid, List.lookup_cons_self]
    · rw [Function.update_of_ne hpr] at hline
      exact hlookup p line hline id hid
  · intro p
    by_cases hpr : p = r.provider
    · rw [hpr, Function.update_self, List.filterMap_append, List.nodup_append]
      refine ⟨h.once _, ?_, ?_⟩
      · rw [List.filterMap_cons]
        cases id? (lineOf r) <;> simp
      · intro id hid id' hid' heq
        obtain ⟨line, hline, hid⟩ := List.mem_filterMap.1 hid
        obtain ⟨line', hline', hid'⟩ := List.mem_filterMap.1 hid'
        rw [List.mem_singleton.1 hline'] at hid'
        exact hother _ line hline id hid (heq.trans (eq_id_of_id?_lineOf hid'))
    · rw [Function.update_of_ne hpr]
      exact h.once p

/-- A record of the name of the lineage goes to the lineage. -/
theorem Sound.appendLineage (h : j.Sound ls) {id : RecordId} (hnew : j.index.lookup id = none)
    (text : String) (p : String) (lineage : List (RecordId × List RecordId)) :
    Sound ⟨j.folder.put lineageName (.file text), (id, p) :: j.index, lineage⟩ ls where
  intact := h.intact.putLineage text
  indexed := by
    intro q line hline id' hid
    have hlookup := h.indexed q line hline id' hid
    have hne : id' ≠ id := by
      rintro rfl
      rw [hnew] at hlookup
      cases hlookup
    rw [List.lookup_cons, beq_eq_false_iff_ne.2 hne]
    exact hlookup
  once := h.once

/-- An append keeps all lines, and adds the one of a record that it accepts. -/
theorem Sound.append (h : j.Sound ls) {r : Record} (hr : Catalog.isSlug r.provider = true) :
    ∃ ls', (j.append r).1.Sound ls' ∧ (∀ p, ∀ line ∈ ls p, line ∈ ls' p) ∧
      ((j.append r).2 = .ok r.id → r.provider ≠ "lineage" → lineOf r ∈ ls' r.provider) := by
  unfold Journal.append
  dsimp only
  rw [partitionName_of_isSlug hr]
  cases hlookup : j.index.lookup r.id with
  | some p => exact ⟨ls, h, fun _ _ hline => hline, fun hok => nomatch hok⟩
  | none =>
      rw [Option.isSome_none, if_neg Bool.false_ne_true]
      by_cases hlineage : r.provider = "lineage"
      · obtain ⟨text, happend⟩ := h.intact.appendLine_lineage (lineOf r)
        rw [hlineage, show fileName "lineage" = lineageName from rfl, happend]
        exact ⟨ls, h.appendLineage hlookup text _ _, fun _ _ hline => hline,
          fun _ hne => absurd rfl hne⟩
      · rw [h.intact.appendLine_eq ⟨hr, hlineage⟩]
        refine ⟨_, h.appendLine ⟨hr, hlineage⟩ hlookup _ rfl,
          fun _ _ hline => mem_update_append hline, fun _ _ => ?_⟩
        rw [Function.update_self]
        exact List.mem_append_right _ (List.mem_singleton.2 rfl)

/-! ### Attaching -/

theorem Sound.attach (h : j.Sound ls) (earlier replay : RecordId) :
    (j.attach earlier replay).1.Sound ls := by
  unfold Journal.attach
  split
  · exact h
  · dsimp only
    split
    · exact h
    · obtain ⟨text, happend⟩ := h.intact.appendLine_lineage (lineageLine earlier replay)
      rw [happend]
      exact ⟨h.intact.putLineage text, h.indexed, h.once⟩

/-! ### Purging -/

/-- The lines that a purge leaves. -/
def unexpired (cutoff : Time.Instant) (lines : List String) : List String :=
  lines.filter fun line => (expired? cutoff line).isNone

/-- The identifiers that a purge removes are those of expired lines. -/
def FromExpired (cutoff : Time.Instant) (ls : String → List String) (ids : List RecordId) : Prop :=
  ∀ id ∈ ids, ∃ p, ∃ line ∈ ls p, ∃ x, expired? cutoff line = some x ∧ x.id = id

theorem keptText_eq {lines : List String} (h : ∀ line ∈ lines, ∃ r, line = lineOf r)
    (cutoff : Time.Instant) : keptText cutoff lines = fileText (unexpired cutoff lines) := by
  have hkept : ∀ line ∈ lines, (!Text.isAllBlank line && (expired? cutoff line).isNone) =
      (expired? cutoff line).isNone := by
    intro line hline
    obtain ⟨r, rfl⟩ := h line hline
    rw [not_isAllBlank_lineOf]
    rfl
  unfold keptText fileText unexpired
  dsimp only
  rw [List.filter_congr hkept]

theorem Intact.purgePartition (h : Intact folder ls) {p : String} (hp : IsPartition p)
    (cutoff : Time.Instant) :
    ∃ folder' ids, Journal.purgePartition cutoff p folder = (folder', .ok ids) ∧
      Intact folder' (Function.update ls p (unexpired cutoff (ls p))) ∧
      FromExpired cutoff ls ids := by
  unfold Journal.purgePartition
  dsimp only
  rw [h.lookup_draftName, Folder.remove_of_lookup_eq_none (h.lookup_draftName _)]
  rcases h.lookup_eq hp with ⟨hentry, hnil⟩ | hentry
  · have hsame : unexpired cutoff (ls p) = ls p := by rw [hnil]; rfl
    rw [hentry, hsame, Function.update_eq_self]
    exact ⟨folder, [], rfl, h, fun _ hid => nomatch hid⟩
  · rw [hentry]
    dsimp only
    rw [lines_fileText (isLine_of_isRecord (h.isRecord p)), keptText_eq (h.isRecord p)]
    split
    · -- without an expired line the file stays as it is
      rename_i hempty
      have hnone : ∀ line ∈ ls p, (expired? cutoff line).isNone := by
        intro line hline
        rw [List.isEmpty_iff, List.filterMap_eq_nil_iff] at hempty
        have hid := hempty line hline
        rw [Option.map_eq_none_iff] at hid
        rw [hid]
        rfl
      have hsame : unexpired cutoff (ls p) = ls p := List.filter_eq_self.2 hnone
      rw [hsame, Function.update_eq_self]
      exact ⟨folder, [], rfl, h, fun _ hid => nomatch hid⟩
    · refine ⟨_, _, rfl, h.put hp fun line hline => ?_, fun id hid => ?_⟩
      · exact h.isRecord p line (List.mem_filter.1 hline).1
      · obtain ⟨line, hline, hid⟩ := List.mem_filterMap.1 hid
        obtain ⟨x, hx, hid⟩ := Option.map_eq_some_iff.1 hid
        exact ⟨p, line, hline, x, hx, hid⟩

/-- The partitions are purged one after another. -/
theorem Intact.purgePartitions (h : Intact folder ls) {ps : List String}
    (hps : ∀ p ∈ ps, IsPartition p) (hnodup : ps.Nodup) (cutoff : Time.Instant)
    (removed : List RecordId) :
    ∃ folder' ids, Journal.purgePartitions cutoff removed ps folder =
        (folder', .ok (removed ++ ids)) ∧
      Intact folder' (fun p => if p ∈ ps then unexpired cutoff (ls p) else ls p) ∧
      FromExpired cutoff ls ids := by
  induction ps generalizing folder ls removed with
  | nil =>
      refine ⟨folder, [], ?_, by simpa using h, fun _ hid => nomatch hid⟩
      rw [Journal.purgePartitions, List.append_nil]
  | cons p ps ih =>
      rw [List.nodup_cons] at hnodup
      obtain ⟨folder₁, ids, hpurge, hintact, hfrom⟩ :=
        h.purgePartition (hps p List.mem_cons_self) cutoff
      obtain ⟨folder₂, ids', hrest, hintact', hfrom'⟩ :=
        ih hintact (fun q hq => hps q (List.mem_cons_of_mem p hq)) hnodup.2 (removed ++ ids)
      refine ⟨folder₂, ids ++ ids', ?_, ?_, ?_⟩
      · rw [Journal.purgePartitions, hpurge]
        dsimp only
        rw [hrest, List.append_assoc]
      · refine cast (congrArg (Intact folder₂) (funext fun q => ?_)) hintact'
        by_cases hqp : q = p
        · subst hqp
          rw [if_neg hnodup.1, Function.update_self, if_pos List.mem_cons_self]
        · rw [Function.update_of_ne hqp]
          simp [hqp]
      · intro id hid
        rcases List.mem_append.1 hid with hid | hid
        · exact hfrom id hid
        · obtain ⟨q, line, hline, x, hx, hid⟩ := hfrom' id hid
          refine ⟨q, line, ?_, x, hx, hid⟩
          by_cases hqp : q = p
          · rw [hqp, Function.update_self] at hline
            exact hqp ▸ (List.mem_filter.1 hline).1
          · rw [Function.update_of_ne hqp] at hline
            exact hline

theorem Intact.pruneLineage (h : Intact folder ls) (removed : List RecordId)
    (index : List (RecordId × String)) (lineage : List (RecordId × List RecordId)) :
    ∃ folder' lineage', Journal.pruneLineage removed ⟨folder, index, lineage⟩ =
        (⟨folder', index, lineage'⟩, .ok ()) ∧ Intact folder' ls := by
  unfold Journal.pruneLineage
  dsimp only
  split
  · exact ⟨folder, lineage, rfl, h⟩
  · rw [h.lookup_draftName, Folder.remove_of_lookup_eq_none (h.lookup_draftName _)]
    cases hentry : folder.lookup lineageName with
    | none => exact ⟨_, _, rfl, h.putLineage _⟩
    | some entry =>
        obtain ⟨text, rfl⟩ := h.lineage entry hentry
        exact ⟨_, _, rfl, h.putLineage _⟩

/-- A purge leaves the lines that have not expired. -/
theorem Sound.purgeBefore (h : j.Sound ls) (cutoff : Time.Instant) :
    (j.purgeBefore cutoff).1.Sound fun p => unexpired cutoff (ls p) := by
  obtain ⟨folder, removed, hpurge, hintact, hfrom⟩ := h.intact.purgePartitions
    (fun _ hp => h.intact.isPartition_of_mem hp)
    (Ledger.nodup_of_ascending (ascending_partitions h.intact.ascending)) cutoff []
  have hall : (fun p => if p ∈ partitions j.folder then unexpired cutoff (ls p) else ls p) =
      fun p => unexpired cutoff (ls p) := by
    funext p
    split
    · rfl
    · rename_i hp
      have hnil : ls p = [] := Classical.byContradiction fun hne =>
        hp (h.intact.mem_partitions (List.exists_mem_of_ne_nil _ hne).choose_spec)
      rw [hnil]
      rfl
  rw [hall] at hintact
  obtain ⟨folder', lineage', hprune, hintact'⟩ := hintact.pruneLineage removed
    (j.index.filter fun i => !removed.contains i.1) j.lineage
  have hstate : (j.purgeBefore cutoff).1 =
      ⟨folder', j.index.filter fun i => !removed.contains i.1, lineage'⟩ := by
    unfold Journal.purgeBefore
    rw [hpurge]
    dsimp only
    rw [List.nil_append, hprune]
  rw [hstate]
  refine ⟨hintact', fun p line hline id hid => ?_, fun p => ?_⟩
  · obtain ⟨hline, hstays⟩ := List.mem_filter.1 hline
    have hlookup := h.indexed p line hline id hid
    -- the one line with the identifier has not expired
    have hnot : id ∉ removed := by
      intro hremoved
      obtain ⟨q, line', hline', x, hx, rfl⟩ := hfrom id hremoved
      obtain ⟨r, rfl⟩ := h.intact.isRecord q line' hline'
      have hrecord := (Option.filter_eq_some_iff.1 hx).1
      have hid' := id?_of_record?_lineOf hrecord
      have hqp : some q = some p := (h.indexed q _ hline' _ hid').symm.trans hlookup
      cases hqp
      rw [h.line_unique hline hline' hid hid', hx] at hstays
      cases hstays
    rw [lookup_filter_fst (fun i => !removed.contains i)]
    simpa [hnot] using hlookup
  · exact (h.once p).sublist (List.filter_sublist.filterMap _)

/-! ### Opening -/

/-- A sound journal can be opened anew, and is sound then. -/
theorem Sound.ofFolder (h : j.Sound ls) :
    ∃ j', Journal.ofFolder j.folder = .ok j' ∧ j'.Sound ls := by
  have hreadable : ∀ p ∈ partitions j.folder, IsReadable j.folder (fileName p) :=
    fun p hp => ⟨_, h.intact.linesOf_eq (h.intact.isPartition_of_mem hp)⟩
  have hlineage : IsReadable j.folder lineageName := by
    unfold IsReadable linesOf
    cases hentry : j.folder.lookup lineageName with
    | none => exact ⟨_, rfl⟩
    | some entry =>
        obtain ⟨text, rfl⟩ := h.intact.lineage entry hentry
        exact ⟨_, rfl⟩
  obtain ⟨lines, hlines⟩ := hlineage
  refine ⟨_, ofFolder_eq_ok.2 ⟨hreadable, lines, hlines, rfl⟩, h.intact, ?_, h.once⟩
  intro p line hline id hid
  have hids : ∀ q ∈ partitions j.folder, idsIn j.folder q = (ls q).filterMap id? := fun q hq =>
    idsIn_of_linesOf (h.intact.linesOf_eq (h.intact.isPartition_of_mem hq))
  have hp := h.intact.mem_partitions hline
  refine lookup_index_eq_some hp ?_ fun q hq hid' => ?_
  · rw [hids p hp]
    exact List.mem_filterMap.2 ⟨line, hline, hid⟩
  · rw [hids q hq] at hid'
    obtain ⟨line', hline', hid'⟩ := List.mem_filterMap.1 hid'
    exact Option.some.inj ((h.indexed q line' hline' id hid').symm.trans
      (h.indexed p line hline id hid))

end Journal

end ApiGateway.Audit
