import ApiGateway.Proofs.Audit.Reading

/-! # What readers rely on

A reader that holds no lock may meet a file that is written to or replaced. `Serves` is what it can
rely on, whatever step another task takes: a file that it has opened only grows, a line that was
ahead of it in the file of a partition is still ahead of it in the file that now has the name, and
the lines that mention a record do not change once there is one.
-/

set_option autoImplicit false

namespace ApiGateway.Audit

open Journal (partitionName fileName draftName lineOf endedLines tail textOf mentions keeps
  keptText Ahead IsLine)

namespace Shared

variable {s s' : Shared} {name other draft p : String}

/-! ## Files under a name -/

/-- The text of a partition; without a file it is empty. -/
def text (s : Shared) (p : String) : String := Journal.textOf (fileName p) s.journal.folder

theorem text_of_file {t : String} (h : s.entryAt (fileName p) = some (.file t)) : s.text p = t := by
  unfold entryAt at h
  unfold text Journal.textOf
  rw [h]

theorem text_of_absent (h : s.entryAt (fileName p) = none) : s.text p = "" := by
  unfold entryAt at h
  unfold text Journal.textOf
  rw [h]

/-- Only a file has a text that is not empty. -/
theorem entryAt_of_text (h : s.text p ≠ "") : s.entryAt (fileName p) = some (.file (s.text p)) := by
  unfold text Journal.textOf at h ⊢
  unfold entryAt
  split at h
  · assumption
  · exact absurd rfl h

theorem eq_handle {file : Handle} (hname : file.name = name) (hage : file.age = s.age name) :
    file = s.handle name := by
  obtain ⟨n, a⟩ := file
  obtain rfl : n = name := hname
  obtain rfl : a = s.age n := hage
  rfl

theorem text?_handle {t : String} (h : s.entryAt name = some (.file t)) :
    s.text? (s.handle name) = some t := by
  have hage : (s.handle name).age = s.age (s.handle name).name := rfl
  have hentry : s.entryAt (s.handle name).name = some (.file t) := h
  rw [text?, if_pos hage, hentry]

theorem text?_handle_of_absent (h : s.entryAt name = none) : s.text? (s.handle name) = none := by
  have hage : (s.handle name).age = s.age (s.handle name).name := rfl
  have hentry : s.entryAt (s.handle name).name = none := h
  rw [text?, if_pos hage, hentry]

theorem text?_handle_of_folder {entries : Folder} (h : s.entryAt name = some (.folder entries)) :
    s.text? (s.handle name) = none := by
  have hage : (s.handle name).age = s.age (s.handle name).name := rfl
  have hentry : s.entryAt (s.handle name).name = some (.folder entries) := h
  rw [text?, if_pos hage, hentry]

theorem text?_of_age_ne {file : Handle} (h : file.age ≠ s.age file.name) :
    s.text? file = some (s.replaced file) := if_neg h

/-- Nothing has happened to the files that have a name or had it. -/
structure Same (name : String) (s s' : Shared) : Prop where
  age_eq : s'.age name = s.age name
  entryAt_eq : s'.entryAt name = s.entryAt name
  replaced_eq : ∀ file, file.name = name → s'.replaced file = s.replaced file

theorem Same.text_eq (h : Same (fileName p) s s') : s'.text p = s.text p := by
  have hentry := h.entryAt_eq
  unfold entryAt at hentry
  unfold text Journal.textOf
  rw [hentry]

theorem Same.handle_eq (h : Same name s s') : s'.handle name = s.handle name := by
  unfold handle
  rw [h.age_eq]

theorem Same.text?_eq {file : Handle} (h : Same file.name s s') : s'.text? file = s.text? file := by
  unfold text?
  rw [h.age_eq, h.entryAt_eq, h.replaced_eq file rfl]

theorem same_refl (name : String) (s : Shared) : Same name s s := ⟨rfl, rfl, fun _ _ => rfl⟩

theorem same_put (h : other ≠ name) (t : String) : Same other s (s.put name t) :=
  ⟨rfl, Folder.lookup_put_of_ne h _ _, fun _ _ => rfl⟩

theorem same_remove (h : other ≠ name) : Same other s (s.remove name) :=
  ⟨rfl, Folder.lookup_remove_of_ne h _, fun _ _ => rfl⟩

theorem same_write {file : Handle} (h : other ≠ file.name) (chunk : List Char) :
    Same other s (s.write file chunk) := by
  unfold write
  split
  · split
    · exact same_put h _
    · exact same_refl _ _
  · refine ⟨rfl, rfl, fun f hf => if_neg ?_⟩
    rintro rfl
    exact h hf.symm

theorem same_replace (hname : other ≠ name) (hdraft : other ≠ draft) (t : String) :
    Same other s (s.replace name draft t) := by
  refine ⟨if_neg hname, ?_, fun f hf => if_neg ?_⟩
  · exact (Folder.lookup_put_of_ne hname _ _).trans (Folder.lookup_remove_of_ne hdraft _)
  · rintro rfl
    exact hname hf.symm

theorem entryAt_put_self (name t : String) : (s.put name t).entryAt name = some (.file t) :=
  Folder.lookup_put_self _ _ _

theorem text_put_self (p t : String) : (s.put (fileName p) t).text p = t :=
  text_of_file (entryAt_put_self _ _)

/-- What is written to the file that has the name stands behind its text. -/
theorem write_handle {t : String} (h : s.entryAt name = some (.file t)) (chunk : List Char) :
    s.write (s.handle name) chunk = s.put name (t ++ String.ofList chunk) := by
  have hage : (s.handle name).age = s.age (s.handle name).name := rfl
  have hentry : s.entryAt (s.handle name).name = some (.file t) := h
  unfold write
  rw [if_pos hage, hentry]
  rfl

/-- A file keeps its text when another one takes its name. -/
theorem text?_replace {file : Handle} (hname : file.name = name) (hage : file.age ≤ s.age name)
    {t : String} (ht : s.text? file = some t) (draft new : String) :
    (s.replace name draft new).text? file = some t := by
  have hold : file.age ≠ (s.replace name draft new).age file.name := by
    have hnext : (s.replace name draft new).age file.name = s.age name + 1 := if_pos hname
    omega
  rw [text?_of_age_ne hold]
  by_cases hfile : file = s.handle name
  · have hkept : (s.replace name draft new).replaced file = (s.text? file).getD "" := if_pos hfile
    rw [hkept, ht]
    rfl
  · have hkept : (s.replace name draft new).replaced file = s.replaced file := if_neg hfile
    have hage : file.age ≠ s.age file.name := fun h => hfile (eq_handle hname (hname ▸ h))
    rw [hkept, ← text?_of_age_ne hage, ht]

theorem text_replace_self (p draft t : String) : (s.replace (fileName p) draft t).text p = t :=
  text_of_file (Folder.lookup_put_self _ _ _)

end Shared

/-- A partition has one line that mentions a record, the line of the record. -/
structure OnOneLine (s : Shared) (r : Record) : Prop where
  endedLines_eq : (endedLines (s.text (partitionName r.provider))).filter (mentions r.id) =
    [lineOf r]
  lines_eq : s.owner (partitionName r.provider) = none →
    (Journal.lines (s.text (partitionName r.provider))).filter (mentions r.id) = [lineOf r]

namespace Journal

/-- The file of a partition has whole lines, and a record is on none of them. -/
structure Lacks (folder : Folder) (id : RecordId) (p : String) : Prop where
  tail_eq_nil : tail (textOf (fileName p) folder) = []
  isLine : ∀ line ∈ endedLines (textOf (fileName p) folder), IsLine line
  mentions_eq_false : ∀ line ∈ endedLines (textOf (fileName p) folder), mentions id line = false

/-- A journal does not know a record that no file has. -/
theorem lookup_eq_none_of_lacks {folder : Folder} {j : Journal}
    (h : ofFolder folder = .ok j) {id : RecordId}
    (hlacks : ∀ p, p ≠ "lineage" → Lacks folder id p) :
    j.folder = folder ∧ j.index.lookup id = none := by
  obtain ⟨hreadable, _, _, rfl⟩ := ofFolder_eq_ok.1 h
  refine ⟨rfl, Option.eq_none_iff_forall_ne_some.2 fun p hp => ?_⟩
  obtain ⟨hp, hid⟩ := mem_of_lookup_index hp
  have hname : p ≠ "lineage" := by
    rintro rfl
    exact (eq_fileName_of_partition? (mem_partitions_iff.1 hp).2).2 rfl
  rw [idsIn_of_linesOf (hreadable p hp).linesOf_eq,
    lines_of_tail_eq_nil (hlacks p hname).tail_eq_nil] at hid
  obtain ⟨line, hline, hid⟩ := List.mem_filterMap.1 hid
  exact id?_ne_of_mentions ((hlacks p hname).mentions_eq_false line hline) hid

end Journal

/-! ## One record among all -/

/-- What is followed through a run: the lines that mention a record, in some partitions, while
records from before some instants are purged. -/
structure Watch where
  id : RecordId
  guards : String → Prop
  cutoffs : Time.Instant → Prop

namespace Watch

variable (v : Watch)

/-- The lines of a text that mention the record. -/
def found (text : String) : List String := (endedLines text).filter (mentions v.id)

/-- No purge takes a line out. -/
def Spares (line : String) : Prop := ∀ cutoff, v.cutoffs cutoff → keeps cutoff line = true

/-- A text that ends in a line end, of which no purge takes a line out that mentions the record. -/
structure Whole (text : String) : Prop where
  tail_eq_nil : tail text = []
  isLine : ∀ line ∈ endedLines text, IsLine line
  spares : ∀ line ∈ v.found text, v.Spares line

/-- What readers of a partition rely on. -/
structure Serves (p : String) (s s' : Shared) : Prop where
  age_le : s.age (fileName p) ≤ s'.age (fileName p)
  grows : ∀ {file : Handle} {t : String}, file.name = fileName p →
    file.age ≤ s.age (fileName p) → s.text? file = some t →
      ∃ more, s'.text? file = some (t ++ more)
  ahead : ∀ {r : Record} {left : Nat}, v.Spares (lineOf r) →
    Ahead r left (s.text p).toList → Ahead r left (s'.text p).toList
  found_eq : v.found (s.text p) ≠ [] → v.found (s'.text p) = v.found (s.text p)

variable {v} {s s' : Shared} {p : String} {t : String}

/-! ## Lines of texts -/

theorem found_empty : v.found "" = [] := rfl

theorem whole_empty : v.Whole "" where
  tail_eq_nil := rfl
  isLine := fun _ h => nomatch h
  spares := fun _ h => nomatch h

theorem found_append_part {part : List Char} (h : '\n' ∉ part) (t : String) :
    v.found (t ++ String.ofList part) = v.found t := by
  unfold found
  rw [Journal.endedLines_append_part h]

theorem Whole.found_append_line (h : v.Whole t) (r : Record) :
    v.found (t ++ lineOf r ++ "\n") =
      v.found t ++ if r.id = v.id then [lineOf r] else [] := by
  unfold found
  rw [Journal.endedLines_append_line h.tail_eq_nil (Journal.isLine_lineOf r), List.filter_append]
  refine congrArg _ ?_
  split
  · rename_i hid
    exact List.filter_cons_of_pos (hid ▸ Journal.mentions_lineOf r)
  · rename_i hid
    exact List.filter_cons_of_neg fun hmentions => hid (Journal.eq_id_of_mentions hmentions).symm

theorem Whole.append_line (h : v.Whole t) {r : Record} (hr : r.id = v.id → v.Spares (lineOf r)) :
    v.Whole (t ++ lineOf r ++ "\n") where
  tail_eq_nil := Journal.tail_append_line (Journal.isLine_lineOf r) t
  isLine := by
    rw [Journal.endedLines_append_line h.tail_eq_nil (Journal.isLine_lineOf r)]
    intro line hline
    rcases List.mem_append.1 hline with hline | hline
    · exact h.isLine line hline
    · rw [List.mem_singleton.1 hline]
      exact Journal.isLine_lineOf r
  spares := by
    rw [h.found_append_line]
    intro line hline
    rcases List.mem_append.1 hline with hline | hline
    · exact h.spares line hline
    · split at hline
      · rename_i hid
        rw [List.mem_singleton.1 hline]
        exact hr hid
      · cases hline

section

variable {cutoff : Time.Instant}

theorem Whole.lines_eq (h : v.Whole t) : Journal.lines t = endedLines t :=
  Journal.lines_of_tail_eq_nil h.tail_eq_nil

theorem Whole.endedLines_keptText (h : v.Whole t) :
    endedLines (keptText cutoff (Journal.lines t)) = (endedLines t).filter (keeps cutoff) := by
  have hlines : ∀ line ∈ (endedLines t).filter (keeps cutoff), IsLine line :=
    fun line hline => h.isLine line (List.mem_filter.1 hline).1
  rw [Journal.keptText_eq_fileText, h.lines_eq,
    ← Journal.lines_of_tail_eq_nil (Journal.tail_fileText hlines), Journal.lines_fileText hlines]

/-- A purge does not touch the lines that mention the record. -/
theorem Whole.found_keptText (h : v.Whole t) (hcutoff : v.cutoffs cutoff) :
    v.found (keptText cutoff (Journal.lines t)) = v.found t := by
  unfold found
  rw [h.endedLines_keptText, List.filter_filter, List.filter_congr]
  intro line hline
  cases hmentions : mentions v.id line with
  | false => rfl
  | true => exact h.spares line (List.mem_filter.2 ⟨hline, hmentions⟩) cutoff hcutoff

theorem Whole.keptText (h : v.Whole t) (hcutoff : v.cutoffs cutoff) :
    v.Whole (keptText cutoff (Journal.lines t)) where
  tail_eq_nil := by
    rw [Journal.keptText_eq_fileText, h.lines_eq]
    exact Journal.tail_fileText fun line hline => h.isLine line (List.mem_filter.1 hline).1
  isLine := by
    rw [h.endedLines_keptText]
    exact fun line hline => h.isLine line (List.mem_filter.1 hline).1
  spares := by
    rw [h.found_keptText hcutoff]
    exact h.spares

/-- A record that a purge takes out is another one. -/
theorem Whole.id_ne_of_expired? (h : v.Whole t) (hcutoff : v.cutoffs cutoff) {line : String}
    {r : Record} (hline : line ∈ Journal.lines t) (hr : Journal.expired? cutoff line = some r) :
    r.id ≠ v.id := by
  intro hid
  have hrecord : Journal.record? line = some r := (Option.filter_eq_some_iff.1 hr).1
  have hmentions := hid ▸ Journal.mentions_of_record? hrecord
  have hkeeps := h.spares line (List.mem_filter.2 ⟨h.lines_eq ▸ hline, hmentions⟩) cutoff hcutoff
  simp [keeps, hr] at hkeeps

end

/-! ## Steps that serve readers -/

theorem serves_of_same (h : Shared.Same (fileName p) s s') : v.Serves p s s' where
  age_le := Nat.le_of_eq h.age_eq.symm
  grows {file t} hname _ ht := by
    refine ⟨"", ?_⟩
    rw [← hname] at h
    rw [h.text?_eq, ht, String.append_empty]
  ahead _ hahead := h.text_eq.symm ▸ hahead
  found_eq _ := by rw [h.text_eq]

/-- A file that grows, and in which a further line mentions the record only if none did before. -/
theorem serves_put {more : String}
    (hentry : s.entryAt (fileName p) = none ∨ s.entryAt (fileName p) = some (.file (s.text p)))
    (hfound : v.found (s.text p) ≠ [] → v.found (s.text p ++ more) = v.found (s.text p)) :
    v.Serves p s (s.put (fileName p) (s.text p ++ more)) where
  age_le := Nat.le_refl _
  grows {file t} hname hage ht := by
    by_cases hcurrent : file.age = s.age file.name
    · have hfile := Shared.eq_handle hname (hname ▸ hcurrent)
      rw [hfile] at ht ⊢
      rcases hentry with hentry | hentry
      · rw [Shared.text?_handle_of_absent hentry] at ht
        cases ht
      · rw [Shared.text?_handle hentry] at ht
        cases ht
        exact ⟨more, Shared.text?_handle (Shared.entryAt_put_self _ _)⟩
    · refine ⟨"", ?_⟩
      rw [Shared.text?_of_age_ne hcurrent] at ht
      rw [Shared.text?_of_age_ne (s := s.put _ _) hcurrent, String.append_empty]
      exact ht
  ahead _ hahead := by
    rw [Shared.text_put_self, String.toList_append]
    exact hahead.append _
  found_eq hne := by
    rw [Shared.text_put_self]
    exact hfound hne

/-- A file that is replaced by what a purge leaves of it. -/
theorem serves_replace {cutoff : Time.Instant} (hcutoff : v.cutoffs cutoff)
    (hwhole : v.Whole (s.text p)) :
    v.Serves p s (s.replace (fileName p) (draftName (fileName p))
      (keptText cutoff (Journal.lines (s.text p)))) where
  age_le := by
    have hnext : (s.replace (fileName p) (draftName (fileName p))
        (keptText cutoff (Journal.lines (s.text p)))).age (fileName p) =
      s.age (fileName p) + 1 := if_pos rfl
    omega
  grows {file t} hname hage ht := by
    refine ⟨"", ?_⟩
    rw [Shared.text?_replace hname hage ht, String.append_empty]
  ahead hspares hahead := by
    rw [Shared.text_replace_self]
    have hlines : ∀ line ∈ endedLines (String.ofList (s.text p).toList), IsLine line := by
      rw [String.ofList_toList]
      exact hwhole.isLine
    have hkept := hahead.purge hlines (hspares cutoff hcutoff)
    rwa [String.ofList_toList] at hkept
  found_eq _ := by
    rw [Shared.text_replace_self]
    exact hwhole.found_keptText hcutoff

end Watch

end ApiGateway.Audit
