import ApiGateway.Proofs.Audit.Reading
import ApiGateway.Proofs.Audit.Recovery
import ApiGateway.Proofs.Audit.States
import ApiGateway.Proofs.Json.Trailing
import ApiGateway.Proofs.Path.Grammar
import Mathlib.Data.List.Forall2

/-! # What a purge takes out

The lines of a partition are arbitrary here: records, blank lines, and text of any other kind. A
purge takes out the lines that are read as a record from before the cutoff, and no others except
blank ones (`Purgeable.purgePartition`). It does so in all partitions, and takes the identifiers
out of the index and the lineage (`purgeBefore_accounted`). A second purge with a cutoff that is not
later finds nothing to do: what has not expired has not expired then either, not even if it loses
a carriage return at its end when it is read of the new file (`not_expired_dropReturn`).
-/

set_option autoImplicit false

namespace ApiGateway

/-! ## Instants -/

namespace Time.Instant

theorem isBefore_iff {a b : Instant} :
    a.isBefore b = true ↔ a.seconds < b.seconds ∨ a.seconds = b.seconds ∧ a.nanos < b.nanos := by
  unfold isBefore
  rw [Bool.or_eq_true, Bool.and_eq_true, decide_eq_true_iff, decide_eq_true_iff, beq_iff_eq]

/-- What comes before an instant comes before one that is not earlier. -/
theorem isBefore_of_not_isBefore {a b c : Instant} (h : a.isBefore c = true)
    (hle : ¬b.isBefore c = true) : a.isBefore b = true := by
  rw [isBefore_iff] at h hle ⊢
  omega

end Time.Instant

namespace Audit.Journal

/-! ## Expired lines -/

variable {cutoff cutoff' : Time.Instant} {line text p : String} {folder : Folder}

/-- A line is read as a record from before an instant. -/
def Expired (cutoff : Time.Instant) (line : String) : Prop :=
  ∃ r, record? line = some r ∧ r.createdAt.isBefore cutoff = true

/-- A line is read as a record with an identifier. -/
def Tells (line : String) (id : RecordId) : Prop := ∃ r, record? line = some r ∧ r.id = id

theorem expired?_eq_some_iff {r : Record} : expired? cutoff line = some r ↔
    record? line = some r ∧ r.createdAt.isBefore cutoff = true :=
  Option.filter_eq_some_iff

theorem isSome_expired?_iff : (expired? cutoff line).isSome = true ↔ Expired cutoff line := by
  rw [Option.isSome_iff_exists]
  exact exists_congr fun r => expired?_eq_some_iff

instance : DecidablePred (Expired cutoff) := fun _ => decidable_of_iff _ isSome_expired?_iff

/-- With a cutoff that is not later no more lines have expired. -/
theorem Expired.mono (h : Expired cutoff' line) (hle : ¬cutoff.isBefore cutoff' = true) :
    Expired cutoff line := by
  obtain ⟨r, hr, hbefore⟩ := h
  exact ⟨r, hr, Time.Instant.isBefore_of_not_isBefore hbefore hle⟩

theorem Expired.not_isAllBlank (h : Expired cutoff line) : ¬Text.isAllBlank line = true := by
  intro hblank
  rw [← isSome_expired?_iff, expired?_of_isAllBlank hblank] at h
  cases h

/-- A carriage return at the end of a line does not matter to the record in it. -/
theorem record?_dropReturn {r : Record} (h : record? (String.ofList (dropReturn line.toList)) =
    some r) : record? line = some r := by
  unfold dropReturn at h
  split at h
  · rename_i hreturn
    have hline : line = String.ofList (line.toList.dropLast ++ ['\r']) := by
      rw [List.dropLast_append_getLast? _ hreturn, String.ofList_toList]
    obtain ⟨j, hj, hr⟩ := Option.bind_eq_some_iff.1 h
    unfold record?
    rw [hline, Json.readFields_append_spaces rfl hj]
    exact hr
  · rwa [String.ofList_toList] at h

theorem not_expired_dropReturn (h : ¬Expired cutoff line) :
    ¬Expired cutoff (String.ofList (dropReturn line.toList)) := by
  rintro ⟨r, hr, hbefore⟩
  exact h ⟨r, record?_dropReturn hr, hbefore⟩

/-! ## Texts -/

/-- The lines of a text that a purge takes out. -/
def expiredLines (cutoff : Time.Instant) (text : String) : List String :=
  (lines text).filter fun line => decide (Expired cutoff line)

/-- The lines of a text that a purge keeps: all others that are not blank. -/
def keptLines (cutoff : Time.Instant) (text : String) : List String :=
  (lines text).filter fun line =>
    decide (¬Text.isAllBlank line = true ∧ ¬Expired cutoff line)

/-- The text that a purge leaves. Only if a line has expired the file is written anew, with the
lines that are kept. -/
def purgedText (cutoff : Time.Instant) (text : String) : String :=
  if expiredLines cutoff text = [] then text else fileText (keptLines cutoff text)

theorem keptText_lines (cutoff : Time.Instant) (text : String) :
    keptText cutoff (lines text) = fileText (keptLines cutoff text) := by
  rw [keptText_eq_fileText]
  refine congrArg fileText (List.filter_congr fun line _ => ?_)
  rw [Bool.eq_iff_iff, decide_eq_true_iff, ← isSome_expired?_iff]
  simp [keeps]

/-- One identifier is told for each expired line. -/
theorem forall₂_tells_expiredIn (cutoff : Time.Instant) (text : String) :
    List.Forall₂ Tells (expiredLines cutoff text) (expiredIn cutoff (lines text)) := by
  unfold expiredLines expiredIn
  induction lines text with
  | nil => exact .nil
  | cons line ls ih =>
      rw [List.filterMap_cons]
      cases hline : expired? cutoff line with
      | none =>
          have hnot : ¬Expired cutoff line := by
            rw [← isSome_expired?_iff, hline]
            exact Bool.false_ne_true
          rw [List.filter_cons, if_neg (mt of_decide_eq_true hnot)]
          exact ih
      | some r =>
          obtain ⟨hr, hbefore⟩ := expired?_eq_some_iff.1 hline
          have hexpired : Expired cutoff line := ⟨r, hr, hbefore⟩
          rw [List.filter_cons, if_pos (decide_eq_true hexpired)]
          exact .cons ⟨r, hr, rfl⟩ ih

theorem expiredIn_eq_nil_iff :
    expiredIn cutoff (lines text) = [] ↔ expiredLines cutoff text = [] := by
  have hlength := (forall₂_tells_expiredIn cutoff text).length_eq
  rw [← List.length_eq_zero_iff, ← List.length_eq_zero_iff, hlength]

theorem noLineEnd_of_mem_lines (h : line ∈ lines text) : '\n' ∉ line.toList := by
  have hdrop : ∀ part : List Char, '\n' ∉ part → '\n' ∉ dropReturn part := by
    intro part hpart hmem
    unfold dropReturn at hmem
    split at hmem
    · exact hpart (List.dropLast_subset part hmem)
    · exact hpart hmem
  unfold lines at h
  dsimp only at h
  obtain ⟨part, hpart, rfl⟩ := List.mem_map.1 h
  rw [String.toList_ofList]
  rcases List.mem_append.1 hpart with hpart | hpart
  · obtain ⟨whole, hwhole, rfl⟩ := List.mem_map.1 hpart
    exact hdrop whole (Text.not_mem_of_mem_splitOn (List.dropLast_subset _ hwhole))
  · split at hpart
    · cases hpart
    · have hne := Text.splitOn_ne_nil '\n' text.toList
      rw [List.mem_singleton.1 hpart, List.getLast?_eq_some_getLast hne]
      exact Text.not_mem_of_mem_splitOn (List.getLast_mem hne)

/-- What a purge leaves has no line that has expired by then. -/
theorem expiredLines_purgedText (hle : ¬cutoff.isBefore cutoff' = true) (text : String) :
    expiredLines cutoff' (purgedText cutoff text) = [] := by
  have hkept : ∀ line ∈ lines (purgedText cutoff text), ¬Expired cutoff line := by
    intro line hline
    unfold purgedText at hline
    split at hline
    · rename_i hnone
      rw [expiredLines, List.filter_eq_nil_iff] at hnone
      simpa using hnone line hline
    · have hends : ∀ l ∈ keptLines cutoff text, '\n' ∉ l.toList :=
        fun l hl => noLineEnd_of_mem_lines (List.mem_filter.1 hl).1
      rw [lines_fileText_eq hends] at hline
      obtain ⟨l, hl, rfl⟩ := List.mem_map.1 hline
      exact not_expired_dropReturn (of_decide_eq_true (List.mem_filter.1 hl).2).2
  rw [expiredLines, List.filter_eq_nil_iff]
  intro line hline hexpired
  exact hkept line hline ((of_decide_eq_true hexpired).mono hle)

/-! ## A partition -/

/-- A partition with its text, and with room for the draft of a new one. -/
structure Purgeable (folder : Folder) (p text : String) : Prop where
  file : folder.lookup (fileName p) = some (.file text)
  draft : ∀ entries, folder.lookup (draftName (fileName p)) ≠ some (.folder entries)

/-- What a purge does to a partition. -/
structure PartitionPurged (cutoff : Time.Instant) (p text : String) (folder folder' : Folder)
    (ids : List RecordId) : Prop where
  /-- The identifiers are those of the expired lines, one by one. -/
  removed : List.Forall₂ Tells (expiredLines cutoff text) ids
  file : folder'.lookup (fileName p) = some (.file (purgedText cutoff text))
  draft : folder'.lookup (draftName (fileName p)) = none
  others : ∀ name, name ≠ fileName p → name ≠ draftName (fileName p) →
    folder'.lookup name = folder.lookup name
  again : ∀ cutoff', ¬cutoff.isBefore cutoff' = true →
    purgePartition cutoff' p folder' = (folder', .ok [])

/-- A partition without expired lines and without a draft is left alone. -/
theorem purgePartition_eq_self (hfile : folder.lookup (fileName p) = some (.file text))
    (hdraft : folder.lookup (draftName (fileName p)) = none)
    (hnone : expiredLines cutoff text = []) :
    purgePartition cutoff p folder = (folder, .ok []) := by
  have hroom : ∀ entries, folder.lookup (draftName (fileName p)) ≠ some (.folder entries) := by
    rw [hdraft]
    exact fun _ => nofun
  rw [purgePartition_of_file hfile hroom, expiredIn_eq_nil_iff.2 hnone, closed,
    Folder.remove_of_lookup_eq_none hdraft]
  rfl

/-- A copy takes the place of its file or is dropped, and the draft is gone. -/
theorem lookup_closed (p copy : String) (gone : List RecordId) (folder : Folder) :
    (closed (fileName p) copy gone folder).lookup (fileName p) =
        (if gone = [] then folder.lookup (fileName p) else some (.file copy)) ∧
      (closed (fileName p) copy gone folder).lookup (draftName (fileName p)) = none ∧
      ∀ name, name ≠ fileName p → name ≠ draftName (fileName p) →
        (closed (fileName p) copy gone folder).lookup name = folder.lookup name := by
  have hne : draftName (fileName p) ≠ fileName p := draftName_ne_fileName _ _
  unfold closed
  cases gone with
  | nil =>
      exact ⟨Folder.lookup_remove_of_ne hne.symm _, Folder.lookup_remove_self _ _,
        fun name _ hdraft => Folder.lookup_remove_of_ne hdraft _⟩
  | cons id gone =>
      refine ⟨Folder.lookup_put_self _ _ _, ?_, fun name hname hdraft => ?_⟩
      · exact (Folder.lookup_put_of_ne hne _ _).trans (Folder.lookup_remove_self _ _)
      · exact (Folder.lookup_put_of_ne hname _ _).trans (Folder.lookup_remove_of_ne hdraft _)

theorem Purgeable.purgePartition (h : Purgeable folder p text) (cutoff : Time.Instant) :
    ∃ folder' ids, Journal.purgePartition cutoff p folder = (folder', .ok ids) ∧
      PartitionPurged cutoff p text folder folder' ids := by
  obtain ⟨hself, hdraft, hothers⟩ := lookup_closed p (keptText cutoff (lines text))
    (expiredIn cutoff (lines text)) folder
  have hfile : (closed (fileName p) (keptText cutoff (lines text))
      (expiredIn cutoff (lines text)) folder).lookup (fileName p) =
        some (.file (purgedText cutoff text)) := by
    rw [hself, h.file, keptText_lines, purgedText, if_congr expiredIn_eq_nil_iff rfl rfl]
    split <;> rfl
  exact ⟨_, _, purgePartition_of_file h.file h.draft, forall₂_tells_expiredIn cutoff text, hfile,
    hdraft, hothers,
    fun _ hle => purgePartition_eq_self hfile hdraft (expiredLines_purgedText hle text)⟩

/-! ## All partitions -/

theorem draftName_injective {a b : String} (h : draftName a = draftName b) : a = b := by
  have hchars := congrArg String.toList h
  unfold draftName at hchars
  rw [String.toList_append, String.toList_append] at hchars
  exact String.toList_inj.1 (List.append_cancel_right hchars)

/-- The expired lines of some partitions. -/
def expiredLinesIn (cutoff : Time.Instant) (ps : List String) (folder : Folder) : List String :=
  ps.flatMap fun p => expiredLines cutoff (textOf (fileName p) folder)

/-- What a purge does to some partitions. -/
structure PartitionsPurged (cutoff : Time.Instant) (ps : List String) (folder folder' : Folder)
    (ids : List RecordId) : Prop where
  removed : List.Forall₂ Tells (expiredLinesIn cutoff ps folder) ids
  file : ∀ p ∈ ps, folder'.lookup (fileName p) =
    some (.file (purgedText cutoff (textOf (fileName p) folder)))
  draft : ∀ p ∈ ps, folder'.lookup (draftName (fileName p)) = none
  others : ∀ name, (∀ p ∈ ps, name ≠ fileName p ∧ name ≠ draftName (fileName p)) →
    folder'.lookup name = folder.lookup name

variable {folder' : Folder} {ids : List RecordId} {q : String}

/-- Purging a partition leaves the files of the others alone. -/
theorem PartitionPurged.elsewhere (h : PartitionPurged cutoff p text folder folder' ids)
    (hne : q ≠ p) :
    folder'.lookup (fileName q) = folder.lookup (fileName q) ∧
      folder'.lookup (draftName (fileName q)) = folder.lookup (draftName (fileName q)) := by
  constructor
  · refine h.others _ (fun heq => hne ?_) (draftName_ne_fileName _ _).symm
    exact fileName_injective heq
  · refine h.others _ (draftName_ne_fileName _ _) (fun heq => hne ?_)
    exact fileName_injective (draftName_injective heq)

theorem PartitionPurged.textOf_eq (h : PartitionPurged cutoff p text folder folder' ids)
    (hne : q ≠ p) :
    textOf (fileName q) folder' = textOf (fileName q) folder := by
  unfold textOf
  rw [(h.elsewhere hne).1]

theorem PartitionPurged.purgeable (h : PartitionPurged cutoff p text folder folder' ids)
    (hne : q ≠ p) (hq : Purgeable folder q (textOf (fileName q) folder)) :
    Purgeable folder' q (textOf (fileName q) folder') := by
  obtain ⟨hfile, hdraft⟩ := h.elsewhere hne
  rw [h.textOf_eq hne]
  constructor
  · rw [hfile]
    exact hq.file
  · intro entries
    rw [hdraft]
    exact hq.draft entries

/-- One partition first, and then others. -/
theorem PartitionPurged.cons {folder₁ folder₂ : Folder} {ids' : List RecordId} {ps : List String}
    (hp : p ∉ ps)
    (hone : PartitionPurged cutoff p (textOf (fileName p) folder) folder folder₁ ids)
    (hall : PartitionsPurged cutoff ps folder₁ folder₂ ids') :
    PartitionsPurged cutoff (p :: ps) folder folder₂ (ids ++ ids') := by
  have hne : ∀ q ∈ ps, q ≠ p := by
    rintro q hq rfl
    exact hp hq
  -- the later partitions have none of the names of the first one
  have hfile : folder₂.lookup (fileName p) = folder₁.lookup (fileName p) := by
    refine hall.others _ fun q hq => ⟨fun heq => hne q hq ?_, (draftName_ne_fileName _ _).symm⟩
    exact (fileName_injective heq).symm
  have hdraft : folder₂.lookup (draftName (fileName p)) =
      folder₁.lookup (draftName (fileName p)) := by
    refine hall.others _ fun q hq => ⟨draftName_ne_fileName _ _, fun heq => hne q hq ?_⟩
    exact (fileName_injective (draftName_injective heq)).symm
  constructor
  case removed =>
    have hexpired : expiredLinesIn cutoff ps folder₁ = expiredLinesIn cutoff ps folder :=
      congrArg List.flatten (List.map_congr_left fun q hq => by rw [hone.textOf_eq (hne q hq)])
    have hids := hall.removed
    rw [hexpired] at hids
    exact List.rel_append hone.removed hids
  case file =>
    intro q hq
    rcases List.mem_cons.1 hq with rfl | hq
    · rw [hfile]
      exact hone.file
    · rw [hall.file q hq, hone.textOf_eq (hne q hq)]
  case draft =>
    intro q hq
    rcases List.mem_cons.1 hq with rfl | hq
    · rw [hdraft]
      exact hone.draft
    · exact hall.draft q hq
  case others =>
    intro name hname
    obtain ⟨hother, hothers⟩ := List.forall_mem_cons.1 hname
    calc folder₂.lookup name = folder₁.lookup name := hall.others name hothers
      _ = folder.lookup name := hone.others name hother.1 hother.2

/-- The partitions are purged one after another, and none of them touches the others. -/
theorem purgePartitions_accounted {ps : List String} (hnodup : ps.Nodup)
    (h : ∀ p ∈ ps, Purgeable folder p (textOf (fileName p) folder)) (cutoff : Time.Instant)
    (removed : List RecordId) :
    ∃ folder' ids, purgePartitions cutoff removed ps folder = (folder', .ok (removed ++ ids)) ∧
      PartitionsPurged cutoff ps folder folder' ids := by
  induction ps generalizing folder removed with
  | nil =>
      refine ⟨folder, [], ?_, .nil, nofun, nofun, fun _ _ => rfl⟩
      rw [purgePartitions, List.append_nil]
  | cons p ps ih =>
      obtain ⟨hp, hnodup⟩ := List.nodup_cons.1 hnodup
      obtain ⟨folder₁, ids, hpurge, hone⟩ := (h p List.mem_cons_self).purgePartition cutoff
      have hlater : ∀ q ∈ ps, Purgeable folder₁ q (textOf (fileName q) folder₁) := by
        intro q hq
        apply hone.purgeable
        · rintro rfl
          exact hp hq
        · exact h q (List.mem_cons_of_mem p hq)
      obtain ⟨folder₂, ids', hrest, hall⟩ := ih hnodup hlater (removed ++ ids)
      refine ⟨folder₂, ids ++ ids', ?_, hone.cons hp hall⟩
      rw [purgePartitions, hpurge]
      dsimp only
      rw [hrest, List.append_assoc]

theorem purgePartitions_eq_self {ps : List String} {removed : List RecordId}
    (h : ∀ p ∈ ps, purgePartition cutoff p folder = (folder, .ok [])) :
    purgePartitions cutoff removed ps folder = (folder, .ok removed) := by
  induction ps with
  | nil => rfl
  | cons p ps ih =>
      rw [purgePartitions, h p List.mem_cons_self]
      dsimp only
      rw [List.append_nil]
      exact ih fun q hq => h q (List.mem_cons_of_mem p hq)

/-! ## Journals -/

variable {j : Journal}

/-- No folder stands where a purge reads or writes a file. -/
structure Workable (folder : Folder) : Prop where
  tidy : Tidy folder
  lineage : IsReadable folder lineageName
  drafts : ∀ p entries, folder.lookup (draftName (fileName p)) ≠ some (.folder entries)

theorem Workable.purgeable (h : Workable folder) (hp : p ∈ partitions folder) :
    Purgeable folder p (textOf (fileName p) folder) := by
  refine ⟨?_, h.drafts p⟩
  have hreadable := isReadable_iff.1 (h.tidy.isReadable_of_mem hp)
  have hname := (mem_partitions_iff.1 hp).1
  unfold textOf
  cases hentry : folder.lookup (fileName p) with
  | none => exact absurd hname (lookup_eq_none_iff_not_mem.1 hentry)
  | some entry =>
      cases entry with
      | file text => rfl
      | folder entries => exact absurd hentry (hreadable entries)

theorem pruneLineage_accounted (hlineage : IsReadable j.folder lineageName)
    (hdraft : ∀ entries, j.folder.lookup (draftName lineageName) ≠ some (.folder entries))
    (removed : List RecordId) :
    ∃ folder', pruneLineage removed j =
        (⟨folder', j.index, j.lineage.filter fun e => !removed.contains e.1⟩, .ok ()) ∧
      ∀ name, name ≠ lineageName → name ≠ draftName lineageName →
        folder'.lookup name = j.folder.lookup name := by
  rw [isReadable_iff] at hlineage
  unfold pruneLineage
  dsimp only
  split
  · rename_i hlength
    have hsame : (j.lineage.filter fun e => !removed.contains e.1) = j.lineage :=
      List.filter_sublist.eq_of_length hlength
    rw [hsame]
    exact ⟨j.folder, rfl, fun _ _ _ => rfl⟩
  · split
    · rename_i entries hentry
      exact absurd hentry (hdraft entries)
    · rename_i entries hentry _
      exact absurd hentry (hlineage entries)
    · refine ⟨_, rfl, fun name hname hother => ?_⟩
      rw [Folder.lookup_put_of_ne hname, Folder.lookup_remove_of_ne hother]

/-- What a purge does to a journal. -/
structure Purged (cutoff : Time.Instant) (j j' : Journal) (ids : List RecordId) : Prop where
  /-- The identifiers are those of the expired lines, one by one. -/
  removed : List.Forall₂ Tells (expiredLinesIn cutoff (partitions j.folder) j.folder) ids
  file : ∀ p ∈ partitions j.folder, j'.folder.lookup (fileName p) =
    some (.file (purgedText cutoff (textOf (fileName p) j.folder)))
  others : ∀ name, name ≠ lineageName → name ≠ draftName lineageName →
    (∀ p ∈ partitions j.folder, name ≠ fileName p ∧ name ≠ draftName (fileName p)) →
      j'.folder.lookup name = j.folder.lookup name
  index : ∀ id, j'.index.lookup id = if id ∈ ids then none else j.index.lookup id
  lineage : ∀ id, j'.lineage.lookup id = if id ∈ ids then none else j.lineage.lookup id
  again : ∀ cutoff', ¬cutoff.isBefore cutoff' = true → j'.purgeBefore cutoff' = (j', .ok 0)

theorem lookup_filter_not_contains {α : Type} (ids : List RecordId)
    (entries : List (RecordId × α)) (id : RecordId) :
    (entries.filter fun e => !ids.contains e.1).lookup id =
      if id ∈ ids then none else entries.lookup id := by
  rw [lookup_filter_fst fun i => !ids.contains i]
  by_cases hid : id ∈ ids
  · simp [hid]
  · simp [hid]

/-- A purge that finds nothing to take out leaves the journal as it is. -/
theorem purgeBefore_eq_self
    (h : ∀ p ∈ partitions j.folder, purgePartition cutoff p j.folder = (j.folder, .ok [])) :
    j.purgeBefore cutoff = (j, .ok 0) := by
  have hall : ∀ {α : Type} (entries : List (RecordId × α)),
      (entries.filter fun e => !([] : List RecordId).contains e.1) = entries :=
    fun entries => List.filter_eq_self.2 fun _ _ => rfl
  have hprune : pruneLineage [] j = (j, .ok ()) := by
    unfold pruneLineage
    rw [hall, if_pos rfl]
  unfold purgeBefore
  rw [purgePartitions_eq_self h]
  dsimp only
  rw [hall, hprune]
  rfl

theorem draftName_ne_lineageName (name : String) : draftName name ≠ lineageName :=
  draftName_ne_fileName name "lineage"

theorem fileName_ne_lineageName (hp : p ∈ partitions folder) : fileName p ≠ lineageName :=
  mt fileName_eq_lineageName_iff.1 (ne_lineage_of_mem_partitions hp)

theorem draftName_ne_of_mem (hp : p ∈ partitions folder) :
    draftName (fileName p) ≠ draftName lineageName :=
  fun heq => fileName_ne_lineageName hp (draftName_injective heq)

/-- Whether there is a partition depends on its file alone. -/
theorem mem_partitions_of_lookup_eq (h : folder'.lookup (fileName p) = folder.lookup (fileName p))
    (hp : p ∈ partitions folder') : p ∈ partitions folder := by
  obtain ⟨hname, hpartition⟩ := mem_partitions_iff.1 hp
  refine mem_partitions_iff.2 ⟨?_, hpartition⟩
  by_contra hnot
  rw [← lookup_eq_none_iff_not_mem, ← h, lookup_eq_none_iff_not_mem] at hnot
  exact hnot hname

theorem Workable.purged (h : Workable j.folder) (cutoff : Time.Instant) :
    ∃ j' ids, j.purgeBefore cutoff = (j', .ok ids.length) ∧ Purged cutoff j j' ids := by
  obtain ⟨folder₁, ids, hpurge, hall⟩ := purgePartitions_accounted
    (Ledger.nodup_of_ascending (ascending_partitions h.tidy.ascending))
    (fun p hp => h.purgeable hp) cutoff []
  rw [List.nil_append] at hpurge
  -- the lineage is none of the partitions
  have hlineage : folder₁.lookup lineageName = j.folder.lookup lineageName :=
    hall.others _ fun p hp =>
      ⟨(fileName_ne_lineageName hp).symm, (draftName_ne_lineageName _).symm⟩
  have hdraft : folder₁.lookup (draftName lineageName) = j.folder.lookup (draftName lineageName) :=
    hall.others _ fun p hp => ⟨draftName_ne_fileName _ _, (draftName_ne_of_mem hp).symm⟩
  have hreadable : IsReadable folder₁ lineageName := by
    have hbefore := h.lineage
    rw [isReadable_iff] at hbefore ⊢
    rwa [hlineage]
  obtain ⟨folder₂, hprune, hrest⟩ := pruneLineage_accounted
    (j := ⟨folder₁, j.index.filter fun e => !ids.contains e.1, j.lineage⟩) hreadable
    (fun entries heq => h.drafts "lineage" entries (hdraft.symm.trans heq)) ids
  dsimp only at hprune hrest
  have hfiles : ∀ p ∈ partitions j.folder, folder₂.lookup (fileName p) =
      some (.file (purgedText cutoff (textOf (fileName p) j.folder))) := fun p hp =>
    (hrest _ (fileName_ne_lineageName hp) (draftName_ne_fileName _ _).symm).trans (hall.file p hp)
  have hgone : ∀ p ∈ partitions j.folder, folder₂.lookup (draftName (fileName p)) = none :=
    fun p hp => (hrest _ (draftName_ne_lineageName _) (draftName_ne_of_mem hp)).trans
      (hall.draft p hp)
  -- no partition has come to the ones that were there
  have hnonew : ∀ p ∈ partitions folder₂, p ∈ partitions j.folder := by
    intro p hp
    by_contra hnew
    refine hnew (mem_partitions_of_lookup_eq ?_ hp)
    calc folder₂.lookup (fileName p) = folder₁.lookup (fileName p) :=
          hrest _ (fileName_ne_lineageName hp) (draftName_ne_fileName _ _).symm
      _ = j.folder.lookup (fileName p) := hall.others _ fun q hq =>
          ⟨fun heq => hnew (fileName_injective heq ▸ hq), (draftName_ne_fileName _ _).symm⟩
  have hstate : j.purgeBefore cutoff = (⟨folder₂, j.index.filter fun e => !ids.contains e.1,
      j.lineage.filter fun e => !ids.contains e.1⟩, .ok ids.length) := by
    unfold purgeBefore
    rw [hpurge]
    dsimp only
    rw [hprune]
    rfl
  refine ⟨_, ids, hstate, hall.removed, hfiles, fun name hname hother hnone => ?_,
    lookup_filter_not_contains ids j.index, lookup_filter_not_contains ids j.lineage,
    fun cutoff' hle => ?_⟩
  · calc folder₂.lookup name = folder₁.lookup name := hrest name hname hother
      _ = j.folder.lookup name := hall.others name hnone
  · refine purgeBefore_eq_self fun p hp => ?_
    have hp' := hnonew p hp
    exact purgePartition_eq_self (hfiles p hp') (hgone p hp') (expiredLines_purgedText hle _)

/-- **What a purge takes out.** From a partition, whatever its lines are, exactly those that are
read as a record from before the cutoff; from the index and the lineage, exactly the identifiers of
these records, whose number it answers. A second purge with a cutoff that is not later takes out
nothing. -/
theorem purgeBefore_accounted (h : Workable j.folder) (cutoff : Time.Instant) :
    (∀ p ∈ partitions j.folder, ∃ folder' ids,
        purgePartition cutoff p j.folder = (folder', .ok ids) ∧
          PartitionPurged cutoff p (textOf (fileName p) j.folder) j.folder folder' ids) ∧
      ∃ j' ids, j.purgeBefore cutoff = (j', .ok ids.length) ∧ Purged cutoff j j' ids :=
  ⟨fun _ hp => (h.purgeable hp).purgePartition cutoff, h.purged cutoff⟩

/-! ### A shop with lines of all kinds -/

/-- Lines behind which a text ends within one more. -/
theorem lines_fileText_append {ls : List String} (h : ∀ l ∈ ls, IsLine l) {part : List Char}
    (hpart : '\n' ∉ part) (hne : part ≠ []) :
    lines (fileText ls ++ String.ofList part) = ls ++ [String.ofList part] := by
  induction ls with
  | nil =>
      have hempty : fileText [] ++ String.ofList part = String.ofList part := by simp [fileText]
      rw [hempty, lines_eq, endedLines_of_noLineEnd hpart, tail_of_noLineEnd hpart,
        if_neg (mt List.isEmpty_iff.1 hne)]
  | cons l ls ih =>
      obtain ⟨hl, hls⟩ := List.forall_mem_cons.1 h
      have hfirst : fileText (l :: ls) ++ String.ofList part =
          String.ofList (l.toList ++ '\n' :: (fileText ls ++ String.ofList part).toList) := by
        refine String.toList_inj.1 ?_
        simp [fileText_cons]
      rw [hfirst, lines_cons hl.noLineEnd, String.ofList_toList, ih hls, dropReturn_toList hl,
        String.ofList_toList]
      rfl

/-- An order of the shop ten minutes later. -/
def laterOrder : Record := amountOrder "shop" secondOrder ⟨1700000600, 0⟩

/-- Two orders with a blank line and other text between them, and the beginning of a line. -/
def mixedText : String :=
  fileText [lineOf shopOrder, " ", "out of space", lineOf laterOrder] ++ "\x7b"

/-- No folder stands in the shop. -/
theorem workable_shopFolder (text : String) : Workable (shopFolder text) where
  tidy := ⟨List.pairwise_singleton _ _, fun _ _ => ⟨_, linesOf_shopFolder _ _⟩⟩
  lineage := ⟨_, linesOf_shopFolder _ _⟩
  drafts := by
    intro p entries hentry
    have heq := List.mem_singleton.1 (mem_of_lookup_eq_some hentry)
    exact absurd (congrArg Prod.snd heq) nofun

theorem lines_mixedText :
    lines mixedText = [lineOf shopOrder, " ", "out of space", lineOf laterOrder, "\x7b"] := by
  have hpart : '\n' ∉ ['\x7b'] := by decide
  refine lines_fileText_append (fun line hline => ?_) hpart (List.cons_ne_nil _ _)
  simp only [List.mem_cons, List.not_mem_nil, or_false] at hline
  rcases hline with rfl | rfl | rfl | rfl
  · exact isLine_lineOf _
  · exact ⟨by decide, by decide⟩
  · exact ⟨by decide, by decide⟩
  · exact isLine_lineOf _

/-- The later order comes from the cutoff itself, and stays. -/
theorem purged_mixedText :
    expiredLines ⟨1700000600, 0⟩ mixedText = [lineOf shopOrder] ∧
      keptLines ⟨1700000600, 0⟩ mixedText = ["out of space", lineOf laterOrder, "\x7b"] := by
  have hreads : ∀ r, record? (lineOf r) = some r →
      (Expired ⟨1700000600, 0⟩ (lineOf r) ↔ r.createdAt.isBefore ⟨1700000600, 0⟩ = true) := by
    intro r hr
    unfold Expired
    rw [hr]
    simp
  have hshop := (hreads shopOrder record?_lineOf_shopOrder).2 (by decide)
  have hlater : ¬Expired ⟨1700000600, 0⟩ (lineOf laterOrder) := by
    rw [hreads laterOrder
      (record?_lineOf_amountOrder _ _ ⟨by decide, by decide, by decide, by decide⟩)]
    decide
  have hblank : ¬Expired ⟨1700000600, 0⟩ " " := fun h => h.not_isAllBlank (by decide)
  have hother : ¬Expired ⟨1700000600, 0⟩ "out of space" := by
    have hlex : Json.lex "out of space".toList = none := Json.lex_cons_of_none rfl rfl
    rintro ⟨r, hr, _⟩
    unfold record? Json.readFields at hr
    rw [hlex] at hr
    cases hr
  have hpart : ¬Expired ⟨1700000600, 0⟩ "\x7b" := by
    have hlex : Json.lex ['\x7b'] = some [.beginObj] := by
      rw [Json.lex_cons rfl rfl, Json.lex]
      rfl
    rintro ⟨r, hr, _⟩
    unfold record? Json.readFields at hr
    rw [show "\x7b".toList = ['\x7b'] from rfl, hlex] at hr
    cases hr
  have hspace : Text.isAllBlank " " = true := by decide
  have htext : Text.isAllBlank "out of space" = false ∧ Text.isAllBlank "\x7b" = false := by decide
  unfold expiredLines keptLines
  rw [lines_mixedText]
  constructor
  · simp [hshop, hlater, hblank, hother, hpart]
  · simp [hshop, hlater, hother, hpart, hspace, htext, not_isAllBlank_lineOf]

/-- Of lines of all kinds one is taken out. -/
theorem purgeBefore_accounted_mixedText :
    Workable (shopFolder mixedText) ∧
      ∃ j', purgeBefore ⟨1700000600, 0⟩ ⟨shopFolder mixedText,
          [(secondOrder, "shop"), (firstOrder, "shop")], [(firstOrder, [secondOrder])]⟩ =
          (j', .ok 1) ∧
        j'.folder.lookup (fileName "shop") =
          some (.file (fileText ["out of space", lineOf laterOrder, "\x7b"])) ∧
        j'.index.lookup firstOrder = none ∧ j'.index.lookup secondOrder = some "shop" := by
  obtain ⟨hexpired, hkept⟩ := purged_mixedText
  obtain ⟨-, j', ids, hpurge, hpurged⟩ := purgeBefore_accounted
    (j := ⟨shopFolder mixedText, [(secondOrder, "shop"), (firstOrder, "shop")],
      [(firstOrder, [secondOrder])]⟩) (workable_shopFolder mixedText) ⟨1700000600, 0⟩
  have hpartitions : partitions (shopFolder mixedText) = ["shop"] := List.mergeSort_singleton _
  have htext : textOf (fileName "shop") (shopFolder mixedText) = mixedText := rfl
  have hids : ids = [firstOrder] := by
    have hremoved := hpurged.removed
    dsimp only at hremoved
    rw [hpartitions, expiredLinesIn, List.flatMap_singleton, htext, hexpired] at hremoved
    obtain ⟨id, rest, ⟨r, hr, hid⟩, hrest, rfl⟩ := List.forall₂_cons_left_iff.1 hremoved
    have hshop : r = shopOrder := Option.some.inj (hr.symm.trans record?_lineOf_shopOrder)
    rw [List.forall₂_nil_left_iff.1 hrest, ← hid, hshop]
    rfl
  have hfile := hpurged.file "shop" (hpartitions ▸ List.mem_cons_self)
  dsimp only at hfile
  rw [htext, purgedText, hexpired, if_neg (List.cons_ne_nil _ _), hkept] at hfile
  rw [hids] at hpurge
  refine ⟨workable_shopFolder _, j', hpurge, hfile, ?_, ?_⟩
  · rw [hpurged.index, hids]
    rfl
  · rw [hpurged.index, hids]
    rfl

end Audit.Journal

end ApiGateway
