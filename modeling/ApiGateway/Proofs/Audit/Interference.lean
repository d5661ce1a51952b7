import ApiGateway.Proofs.Audit.Locks
import ApiGateway.Proofs.Audit.Readers

/-! # What tasks rely on and guarantee

`Watch.Holds` says for each stage of a task what is true of the files while the task is there. A
step of the task leads to what holds at its next stage (`Watch.Holds.move`), and is one of those
that all other tasks can live with (`Watch.Guarantee`): what holds for them holds still
(`Watch.Holds.stable`). So all of it holds in every run (`Watch.invariant_of_run`).
-/

set_option autoImplicit false

namespace ApiGateway.Audit

open Journal (partitionName fileName draftName lineOf lineageName endedLines keeps keptText
  expired?)

namespace Watch

variable (v : Watch)

/-- A request that is expected: records that are followed are not purged, and purges do not work on
the file of the lineage as on that of a partition. -/
def Expects : Request → Prop
  | .append r => r.id = v.id → v.Spares (lineOf r)
  | .find _ => True
  | .purgeBefore cutoff => v.cutoffs cutoff ∧ ∀ p, v.guards p ↔ p ≠ "lineage"

/-! ## What holds at a stage -/

/-- The state of a partition that no task is at work on. -/
structure Clean (s : Shared) (p : String) : Prop where
  whole : v.Whole (s.text p)
  indexed : v.found (s.text p) ≠ [] → s.journal.index.lookup v.id ≠ none

/-- A part of the line of a record stands behind a clean text. -/
structure Partly (r : Record) (s : Shared) (file : Handle) (rest : List Char) : Prop where
  file_eq : file = s.handle (fileName (partitionName r.provider))
  rest_ne_nil : rest ≠ []
  exists_base : ∃ base written, v.Whole base ∧
    s.entryAt (fileName (partitionName r.provider)) =
      some (.file (base ++ String.ofList written)) ∧
    written ++ rest = (lineOf r ++ "\n").toList ∧ (r.id = v.id → v.found base = []) ∧
    (v.found base ≠ [] → s.journal.index.lookup v.id ≠ none)

/-- The line of a record is there, but its identifier not yet in the index. -/
structure Written (r : Record) (s : Shared) : Prop where
  whole : v.Whole (s.text (partitionName r.provider))
  found_eq : r.id = v.id → v.found (s.text (partitionName r.provider)) = [lineOf r]
  indexed : r.id ≠ v.id → v.found (s.text (partitionName r.provider)) ≠ [] →
    s.journal.index.lookup v.id ≠ none

/-- The record that is followed is in the index and has one line. -/
structure Landed (r : Record) (s : Shared) : Prop where
  indexed : s.journal.index.lookup v.id ≠ none
  found_eq : v.guards (partitionName r.provider) →
    v.found (s.text (partitionName r.provider)) = [lineOf r]

/-- What holds while an append is at a stage. -/
def HoldsAppend (r : Record) (s : Shared) : AppendStage → Prop
  | .waiting => True
  | .checking => v.guards (partitionName r.provider) → v.Clean s (partitionName r.provider)
  | .opening => v.guards (partitionName r.provider) → v.Clean s (partitionName r.provider) ∧
      (r.id = v.id → v.found (s.text (partitionName r.provider)) = [])
  | .writing file rest => file.name = fileName (partitionName r.provider) ∧
      (v.guards (partitionName r.provider) → v.Partly r s file rest)
  | .enrolling => v.guards (partitionName r.provider) → v.Written r s
  | .leaving result =>
      (v.guards (partitionName r.provider) → v.Clean s (partitionName r.provider)) ∧
      ∀ id, result = .ok id → r.id = v.id → v.Landed r s
  | .finished result => ∀ id, result = .ok id → r.id = v.id → v.Landed r s

/-- What holds while a search is at a stage. -/
def HoldsFind (s : Shared) (stage : FindStage) : Prop :=
  ∀ p, stage.locked = some p → v.guards p → v.Clean s p

/-- A purge is at work on a partition. -/
structure Rewrites (w : Rewrite) (s : Shared) : Prop where
  spares : v.id ∉ w.removed
  todo : ∀ p ∈ w.todo, v.guards p
  guards : v.guards w.partition
  clean : v.Clean s w.partition

/-- What holds while a purge is at a stage. -/
def HoldsPurge (cutoff : Time.Instant) (s : Shared) : PurgeStage → Prop
  | .waiting removed todo => v.id ∉ removed ∧ ∀ p ∈ todo, v.guards p
  | .opening w => v.Rewrites w s
  | .creating w file => v.Rewrites w s ∧ file = s.handle (fileName w.partition)
  | .copying w file position copy gone => v.Rewrites w s ∧
      file = s.handle (fileName w.partition) ∧ v.id ∉ gone ∧
      ∃ done, Journal.lines (s.text w.partition) = done ++
          Journal.lines (String.ofList ((s.text w.partition).toList.drop position)) ∧
        copy = keptText cutoff done
  | .saving w copy gone | .closing w copy gone => v.Rewrites w s ∧ v.id ∉ gone ∧
      copy = keptText cutoff (Journal.lines (s.text w.partition))
  | .leaving w result => v.Rewrites w s ∧ ∀ gone, result = .ok gone → v.id ∉ gone
  | .forgetting removed => v.id ∉ removed
  | _ => True

/-- What holds while a task is at its stage. -/
def Holds (s : Shared) : Task → Prop
  | .append r stage => v.HoldsAppend r s stage
  | .find _ stage => v.HoldsFind s stage
  | .purge cutoff stage => v.HoldsPurge cutoff s stage

/-! ## What a step leaves to others -/

/-- What the step of a task leaves to the other ones. -/
structure Guarantee (me : Nat) (s s' : Shared) : Prop where
  same : ∀ p, v.guards p → s.owner p ≠ some me → Shared.Same (fileName p) s s'
  serves : ∀ p, v.guards p → v.Serves p s s'
  indexed : s.journal.index.lookup v.id ≠ none → s'.journal.index.lookup v.id ≠ none

variable {v} {me : Nat} {s s' : Shared} {r : Record} {p : String}

theorem guarantee_of_same (h : ∀ p, v.guards p → Shared.Same (fileName p) s s')
    (hindex : s.journal.index.lookup v.id ≠ none → s'.journal.index.lookup v.id ≠ none) :
    v.Guarantee me s s' where
  same p hp _ := h p hp
  serves p hp := serves_of_same (h p hp)
  indexed := hindex

/-- A step in which the owner of a lock changes a file of this partition. -/
theorem guarantee_of_owner (howner : s.owner p = some me)
    (h : ∀ q, q ≠ p → Shared.Same (fileName q) s s') (hserves : v.guards p → v.Serves p s s')
    (hindex : s'.journal.index = s.journal.index) : v.Guarantee me s s' where
  same q _ hq := h q (by rintro rfl; exact hq howner)
  serves q hq := by
    by_cases hqp : q = p
    · rw [hqp] at hq ⊢
      exact hserves hq
    · exact serves_of_same (h q hqp)
  indexed h := by rwa [hindex]

theorem guarantee_of_eq (hfiles : s'.journal.folder = s.journal.folder) (hage : s'.age = s.age)
    (hreplaced : s'.replaced = s.replaced)
    (hindex : s.journal.index.lookup v.id ≠ none → s'.journal.index.lookup v.id ≠ none) :
    v.Guarantee me s s' := by
  refine guarantee_of_same (fun p _ => ⟨?_, ?_, fun file _ => ?_⟩) hindex
  · rw [hage]
  · unfold Shared.entryAt
    rw [hfiles]
  · rw [hreplaced]

theorem guarantee_of_put {name : String} (h : ∀ p, v.guards p → fileName p ≠ name) (t : String) :
    v.Guarantee me s (s.put name t) :=
  guarantee_of_same (fun p hp => Shared.same_put (h p hp) t) fun h => h

theorem guarantee_of_remove {name : String} (h : ∀ p, v.guards p → fileName p ≠ name) :
    v.Guarantee me s (s.remove name) :=
  guarantee_of_same (fun p hp => Shared.same_remove (h p hp)) fun h => h

/-! ## Steps of other tasks -/

theorem Clean.stable (h : v.Clean s p) (hsame : Shared.Same (fileName p) s s')
    (hindex : s.journal.index.lookup v.id ≠ none → s'.journal.index.lookup v.id ≠ none) :
    v.Clean s' p where
  whole := hsame.text_eq.symm ▸ h.whole
  indexed hfound := by
    rw [hsame.text_eq] at hfound
    exact hindex (h.indexed hfound)

theorem Landed.stable (h : v.Landed r s) (hg : v.Guarantee me s s') : v.Landed r s' where
  indexed := hg.indexed h.indexed
  found_eq hp := by
    have hfound := h.found_eq hp
    rw [(hg.serves _ hp).found_eq (by rw [hfound]; exact List.cons_ne_nil _ _), hfound]

theorem Partly.stable {file : Handle} {rest : List Char} (h : v.Partly r s file rest)
    (hg : v.Guarantee me s s')
    (hsame : Shared.Same (fileName (partitionName r.provider)) s s') :
    v.Partly r s' file rest := by
  obtain ⟨base, written, hbase, hentry, hline, hfound, hindexed⟩ := h.exists_base
  exact {
    file_eq := by rw [hsame.handle_eq, h.file_eq]
    rest_ne_nil := h.rest_ne_nil
    exists_base := ⟨base, written, hbase, by rw [hsame.entryAt_eq, hentry], hline, hfound,
      fun hne => hg.indexed (hindexed hne)⟩ }

theorem HoldsAppend.stable {stage : AppendStage} (h : v.HoldsAppend r s stage)
    (hg : v.Guarantee me s s')
    (howner : stage.locks = true → s.owner (partitionName r.provider) ≠ some me) :
    v.HoldsAppend r s' stage := by
  cases stage with
  | waiting => trivial
  | checking =>
      intro hp
      exact (h hp).stable (hg.same _ hp (howner rfl)) hg.indexed
  | opening =>
      intro hp
      have hsame := hg.same _ hp (howner rfl)
      refine ⟨(h hp).1.stable hsame hg.indexed, fun hid => ?_⟩
      rw [hsame.text_eq]
      exact (h hp).2 hid
  | writing file rest =>
      refine ⟨h.1, fun hp => ?_⟩
      exact (h.2 hp).stable hg (hg.same _ hp (howner rfl))
  | enrolling =>
      intro hp
      have hsame := hg.same _ hp (howner rfl)
      exact {
        whole := hsame.text_eq.symm ▸ (h hp).whole
        found_eq := hsame.text_eq.symm ▸ (h hp).found_eq
        indexed := fun hid hfound => by
          rw [hsame.text_eq] at hfound
          exact hg.indexed ((h hp).indexed hid hfound) }
  | leaving result =>
      refine ⟨fun hp => (h.1 hp).stable (hg.same _ hp (howner rfl)) hg.indexed, ?_⟩
      exact fun id hresult hid => (h.2 id hresult hid).stable hg
  | finished result => exact fun id hresult hid => (h id hresult hid).stable hg

theorem Rewrites.stable_of_same {w : Rewrite} (h : v.Rewrites w s)
    (hsame : Shared.Same (fileName w.partition) s s')
    (hindex : s.journal.index.lookup v.id ≠ none → s'.journal.index.lookup v.id ≠ none) :
    v.Rewrites w s' where
  spares := h.spares
  todo := h.todo
  guards := h.guards
  clean := h.clean.stable hsame hindex

theorem Rewrites.stable {w : Rewrite} (h : v.Rewrites w s) (hg : v.Guarantee me s s')
    (howner : s.owner w.partition ≠ some me) : v.Rewrites w s' :=
  h.stable_of_same (hg.same _ h.guards howner) hg.indexed

theorem HoldsPurge.stable {cutoff : Time.Instant} {stage : PurgeStage}
    (h : v.HoldsPurge cutoff s stage) (hg : v.Guarantee me s s')
    (howner : ∀ p, stage.locked = some p → s.owner p ≠ some me) :
    v.HoldsPurge cutoff s' stage := by
  cases stage with
  | opening w => exact Rewrites.stable h hg (howner _ rfl)
  | creating w file =>
      have hsame := hg.same _ h.1.guards (howner _ rfl)
      exact ⟨h.1.stable hg (howner _ rfl), h.2.trans hsame.handle_eq.symm⟩
  | copying w file position copy gone =>
      obtain ⟨hw, hfile, hgone, done, hlines, hcopy⟩ := h
      have hsame := hg.same _ hw.guards (howner _ rfl)
      refine ⟨hw.stable hg (howner _ rfl), hfile.trans hsame.handle_eq.symm, hgone, done, ?_, hcopy⟩
      rw [hsame.text_eq]
      exact hlines
  | saving w copy gone | closing w copy gone =>
      obtain ⟨hw, hgone, hcopy⟩ := h
      have hsame := hg.same _ hw.guards (howner _ rfl)
      refine ⟨hw.stable hg (howner _ rfl), hgone, ?_⟩
      rw [hsame.text_eq]
      exact hcopy
  | leaving w result => exact ⟨h.1.stable hg (howner _ rfl), h.2⟩
  | _ => exact h

/-- A step of another task changes nothing of what holds for a task. -/
theorem Holds.stable {t : Task} (h : v.Holds s t) (hg : v.Guarantee me s s')
    (howner : ∀ p, t.locked = some p → s.owner p ≠ some me) : v.Holds s' t := by
  cases t with
  | append r stage =>
      exact HoldsAppend.stable h hg fun hlocks => howner _ (if_pos hlocks)
  | find id stage =>
      intro p hp hguards
      exact (h p hp hguards).stable (hg.same p hguards (howner p hp)) hg.indexed
  | purge cutoff stage => exact HoldsPurge.stable h hg howner

/-! ## Steps of an append -/

/-- What is written of a line before its end has no line end in it. -/
theorem not_mem_of_append_eq_line {line : String} (hline : Journal.IsLine line)
    {written rest : List Char} (h : written ++ rest = (line ++ "\n").toList) (hrest : rest ≠ []) :
    '\n' ∉ written := by
  have hline := hline.noLineEnd
  rw [String.toList_append] at h
  rcases List.append_eq_append_iff.1 h with ⟨more, hmore, _⟩ | ⟨more, hmore, hend⟩
  · rw [hmore] at hline
    exact fun hmem => hline (List.mem_append_left _ hmem)
  · -- as something is left of the line end, nothing of it is written
    have hlength : 1 = more.length + rest.length := by simpa using congrArg List.length hend
    have hpos := List.length_pos_iff.2 hrest
    rw [List.eq_nil_of_length_eq_zero (by omega : more.length = 0), List.append_nil] at hmore
    exact hmore ▸ hline

/-- Some more of the line is written. -/
theorem Partly.write {file : Handle} {rest : List Char} (h : v.Partly r s file rest) {n : Nat}
    (hn : n < rest.length) :
    v.found ((s.write file (rest.take n)).text (partitionName r.provider)) =
        v.found (s.text (partitionName r.provider)) ∧
      v.Serves (partitionName r.provider) s (s.write file (rest.take n)) ∧
      v.Partly r (s.write file (rest.take n)) file (rest.drop n) := by
  obtain ⟨base, written, hbase, hentry, hline, hfound, hindexed⟩ := h.exists_base
  have hwritten := not_mem_of_append_eq_line (Journal.isLine_lineOf r) hline h.rest_ne_nil
  have hrest : rest.drop n ≠ [] := List.ne_nil_of_length_pos (by rw [List.length_drop]; omega)
  have hmore : written ++ rest.take n ++ rest.drop n = (lineOf r ++ "\n").toList := by
    rw [List.append_assoc, List.take_append_drop, hline]
  have hpart := not_mem_of_append_eq_line (Journal.isLine_lineOf r) hmore hrest
  have htext := Shared.text_of_file hentry
  have htext' : s.text (partitionName r.provider) ++ String.ofList (rest.take n) =
      base ++ String.ofList (written ++ rest.take n) := by
    rw [htext, String.ofList_append, String.append_assoc]
  have hwrite : s.write file (rest.take n) =
      s.put (fileName (partitionName r.provider))
        (s.text (partitionName r.provider) ++ String.ofList (rest.take n)) := by
    rw [h.file_eq, Shared.write_handle hentry, htext]
  have hsame : v.found (s.text (partitionName r.provider) ++ String.ofList (rest.take n)) =
      v.found (s.text (partitionName r.provider)) := by
    rw [htext', htext, found_append_part hpart, found_append_part hwritten]
  rw [hwrite]
  refine ⟨?_, serves_put (.inr (htext ▸ hentry)) fun _ => hsame, ?_⟩
  · rw [Shared.text_put_self, hsame]
  · exact {
      file_eq := h.file_eq
      rest_ne_nil := hrest
      exists_base := ⟨base, written ++ rest.take n, hbase,
        htext' ▸ Shared.entryAt_put_self _ _, hmore, hfound, hindexed⟩ }

/-- The rest of the line is written. -/
theorem Partly.writeLast {file : Handle} {rest : List Char} (h : v.Partly r s file rest)
    (hspares : r.id = v.id → v.Spares (lineOf r)) :
    (r.id ≠ v.id → v.found ((s.write file rest).text (partitionName r.provider)) =
        v.found (s.text (partitionName r.provider))) ∧
      v.Serves (partitionName r.provider) s (s.write file rest) ∧
      v.Written r (s.write file rest) := by
  obtain ⟨base, written, hbase, hentry, hline, hfound, hindexed⟩ := h.exists_base
  have hwritten := not_mem_of_append_eq_line (Journal.isLine_lineOf r) hline h.rest_ne_nil
  have htext := Shared.text_of_file hentry
  have htext' : s.text (partitionName r.provider) ++ String.ofList rest =
      base ++ lineOf r ++ "\n" := by
    rw [htext, String.append_assoc, ← String.ofList_append, hline, String.ofList_toList,
      String.append_assoc]
  have hold : v.found (s.text (partitionName r.provider)) = v.found base := by
    rw [htext, found_append_part hwritten]
  have hwrite : s.write file rest =
      s.put (fileName (partitionName r.provider))
        (s.text (partitionName r.provider) ++ String.ofList rest) := by
    rw [h.file_eq, Shared.write_handle hentry, htext]
  have hother : r.id ≠ v.id → v.found (base ++ lineOf r ++ "\n") = v.found base := by
    intro hid
    rw [hbase.found_append_line, if_neg hid, List.append_nil]
  have hnew := Shared.text_put_self (s := s) (partitionName r.provider)
    (s.text (partitionName r.provider) ++ String.ofList rest)
  rw [hwrite]
  refine ⟨fun hid => ?_, serves_put (.inr (htext ▸ hentry)) fun hne => ?_, ?_⟩
  · rw [hnew, htext', hold, hother hid]
  · rw [hold] at hne
    rw [htext', hold, hother fun hid => hne (hfound hid)]
  · rw [htext'] at hnew ⊢
    exact {
      whole := by
        rw [hnew]
        exact hbase.append_line hspares
      found_eq := fun hid => by
        rw [hnew, hbase.found_append_line, if_pos hid, hfound hid, List.nil_append]
      indexed := fun hid hne => by
        rw [hnew, hother hid] at hne
        exact hindexed hne }

theorem HoldsAppend.move {stage stage' : AppendStage} (h : v.HoldsAppend r s stage)
    (hmove : stage.Move me r s s' stage') (hspares : r.id = v.id → v.Spares (lineOf r))
    (hclean : ∀ p, v.guards p → s.owner p = none → v.Clean s p)
    (howner : stage.locks = true → s.owner (partitionName r.provider) = some me) :
    v.Guarantee me s s' ∧ v.HoldsAppend r s' stage' := by
  have hname : ∀ q, q ≠ partitionName r.provider →
      fileName q ≠ fileName (partitionName r.provider) :=
    fun q hq heq => hq (Journal.fileName_injective heq)
  cases hmove with
  | lock hfree =>
      refine ⟨guarantee_of_eq rfl rfl rfl fun h => h, fun hp => ?_⟩
      exact (hclean _ hp hfree).stable ⟨rfl, rfl, fun _ _ => rfl⟩ fun h => h
  | refuse hknown => exact ⟨guarantee_of_eq rfl rfl rfl fun h => h, h, nofun⟩
  | pass hnew =>
      refine ⟨guarantee_of_eq rfl rfl rfl fun h => h, fun hp => ⟨h hp, fun hid => ?_⟩⟩
      exact Classical.byContradiction fun hne => (h hp).indexed hne (hid ▸ hnew)
  | create habsent =>
      have hempty := Shared.text_of_absent habsent
      have hput : s.put (fileName (partitionName r.provider)) "" =
          s.put (fileName (partitionName r.provider))
            (s.text (partitionName r.provider) ++ "") := by
        rw [hempty]
        rfl
      refine ⟨guarantee_of_owner (howner rfl) (fun q hq => Shared.same_put (hname q hq) _)
        (fun _ => ?_) rfl, rfl, fun hp => ?_⟩
      · rw [hput]
        exact serves_put (.inl habsent) fun _ => by rw [String.append_empty]
      · exact {
          file_eq := rfl
          rest_ne_nil := by simp
          exists_base := ⟨"", [], whole_empty, Shared.entryAt_put_self _ _, List.nil_append _,
            fun _ => found_empty, fun hne => absurd found_empty hne⟩ }
  | @reopen text hpresent =>
      refine ⟨guarantee_of_eq rfl rfl rfl fun h => h, rfl, fun hp => ?_⟩
      have htext := Shared.text_of_file hpresent
      obtain ⟨hclean, hnew⟩ := h hp
      exact {
        file_eq := rfl
        rest_ne_nil := by simp
        exists_base := ⟨text, [], htext ▸ hclean.whole, by simpa using hpresent, List.nil_append _,
          htext ▸ hnew, htext ▸ hclean.indexed⟩ }
  | fail hfolder =>
      exact ⟨guarantee_of_eq rfl rfl rfl fun h => h, fun hp => (h hp).1, nofun⟩
  | @write file rest n hpart hpos =>
      obtain ⟨hfile, h⟩ := h
      refine ⟨guarantee_of_owner (howner rfl)
        (fun q hq => Shared.same_write (hfile ▸ hname q hq) _)
        (fun hp => ((h hp).write hpart).2.1) (s.index_write file _), hfile, fun hp => ?_⟩
      exact ((h hp).write hpart).2.2
  | @writeLast file rest =>
      obtain ⟨hfile, h⟩ := h
      refine ⟨guarantee_of_owner (howner rfl)
        (fun q hq => Shared.same_write (hfile ▸ hname q hq) _)
        (fun hp => ((h hp).writeLast hspares).2.1) (s.index_write file _), fun hp => ?_⟩
      exact ((h hp).writeLast hspares).2.2
  | enroll =>
      have hindex : s.journal.index.lookup v.id ≠ none →
          ((r.id, partitionName r.provider) :: s.journal.index).lookup v.id ≠ none := by
        intro hne
        rw [List.lookup_cons]
        split
        · nofun
        · exact hne
      have hself : r.id = v.id →
          ((r.id, partitionName r.provider) :: s.journal.index).lookup v.id ≠ none := by
        intro hid
        rw [hid, List.lookup_cons_self]
        nofun
      refine ⟨guarantee_of_eq rfl rfl rfl hindex, fun hp => ?_, fun _ _ hid => ?_⟩
      · refine ⟨(h hp).whole, fun hne => ?_⟩
        by_cases hid : r.id = v.id
        · exact hself hid
        · exact hindex ((h hp).indexed hid hne)
      · exact ⟨hself hid, fun hp => (h hp).found_eq hid⟩
  | leave =>
      refine ⟨guarantee_of_eq rfl rfl rfl fun h => h, fun id hresult hid => ?_⟩
      exact ⟨(h.2 id hresult hid).indexed, (h.2 id hresult hid).found_eq⟩

/-! ## Steps of a search -/

theorem HoldsFind.move {id : RecordId} {stage stage' : FindStage} (h : v.HoldsFind s stage)
    (hmove : stage.Move me id s s' stage')
    (hclean : ∀ p, v.guards p → s.owner p = none → v.Clean s p) :
    v.Guarantee me s s' ∧ v.HoldsFind s' stage' := by
  cases hmove with
  | @lock p hfree =>
      refine ⟨guarantee_of_eq rfl rfl rfl fun h => h, fun q hq hguards => ?_⟩
      cases hq
      exact (hclean p hguards hfree).stable ⟨rfl, rfl, fun _ _ => rfl⟩ fun h => h
  | @measure p => exact ⟨guarantee_of_eq rfl rfl rfl fun h => h, fun q hq => h q hq⟩
  | read =>
      refine ⟨guarantee_of_eq rfl rfl rfl fun h => h, fun q hq => ?_⟩
      rw [FindStage.locked_reads] at hq
      cases hq
  | _ => exact ⟨guarantee_of_eq rfl rfl rfl fun h => h, nofun⟩

/-! ## Steps of a purge -/

section

variable {w : Rewrite} {cutoff : Time.Instant}

/-- A purge goes through the lines of the file one by one. -/
theorem HoldsPurge.copies {file : Handle} {position : Nat} {copy : String} {gone : List RecordId}
    (h : v.HoldsPurge cutoff s (.copying w file position copy gone))
    (hcutoff : v.cutoffs cutoff) :
    v.HoldsPurge cutoff s
      (PurgeStage.copies cutoff w file position copy gone (s.text? file)) := by
  obtain ⟨hw, rfl, hgone, done, hlines, rfl⟩ := h
  cases hentry : s.entryAt (fileName w.partition) with
  | none =>
      rw [Shared.text?_handle_of_absent hentry]
      exact ⟨hw, nofun⟩
  | some entry =>
      cases entry with
      | folder entries =>
          rw [Shared.text?_handle_of_folder hentry]
          exact ⟨hw, nofun⟩
      | file text =>
          rw [Shared.text?_handle hentry]
          rw [Shared.text_of_file hentry] at hlines
          unfold PurgeStage.copies
          dsimp only
          rcases Journal.readLine_eq (text.toList.drop position) with
            ⟨hrest, hread⟩ | ⟨line, taken, _, hread, hline⟩
          · -- nothing is left to read
            rw [hread]
            refine ⟨hw, hgone, ?_⟩
            rw [hrest] at hlines
            rw [Shared.text_of_file hentry, hlines]
            exact congrArg _ (List.append_nil _).symm
          · rw [hread]
            have hdone : Journal.lines text =
                (done ++ [line]) ++ Journal.lines (String.ofList (text.toList.drop
                  (position + taken))) := by
              rw [hlines, hline, List.drop_drop, List.append_assoc]
              rfl
            have hmem : line ∈ Journal.lines text := by
              rw [hdone]
              simp
            have hnext : ∀ gone', v.id ∉ gone' → v.HoldsPurge cutoff s
                (.copying w (s.handle (fileName w.partition)) (position + taken)
                  (keptText cutoff done ++ if keeps cutoff line then line ++ "\n" else "")
                  gone') := by
              intro gone' hgone'
              refine ⟨hw, rfl, hgone', done ++ [line], ?_, (Journal.keptText_concat ..).symm⟩
              rw [Shared.text_of_file hentry]
              exact hdone
            dsimp only
            split
            · rename_i hblank
              rw [if_neg (by simp [keeps, hblank]), String.append_empty] at hnext
              exact hnext gone hgone
            · rename_i hblank
              split
              · rename_i x hexpired
                rw [if_neg (by simp [keeps, hexpired]), String.append_empty] at hnext
                refine hnext (gone ++ [x.id]) ?_
                rw [List.mem_append, List.mem_singleton, not_or]
                refine ⟨hgone, Ne.symm ?_⟩
                exact hw.clean.whole.id_ne_of_expired? hcutoff
                  (Shared.text_of_file hentry ▸ hmem) hexpired
              · rename_i hstays
                rw [if_pos (by simp [keeps, hstays, hblank])] at hnext
                exact hnext gone hgone

theorem HoldsPurge.move {stage stage' : PurgeStage} (h : v.HoldsPurge cutoff s stage)
    (hmove : stage.Move me cutoff s s' stage') (hcutoff : v.cutoffs cutoff)
    (hguards : ∀ p, v.guards p ↔ p ≠ "lineage")
    (hclean : ∀ p, v.guards p → s.owner p = none → v.Clean s p)
    (howner : ∀ p, stage.locked = some p → s.owner p = some me) :
    v.Guarantee me s s' ∧ v.HoldsPurge cutoff s' stage' := by
  have hdraft : ∀ name p, v.guards p → fileName p ≠ draftName name :=
    fun name p _ => (Journal.draftName_ne_fileName name p).symm
  have hlineage : ∀ p, v.guards p → fileName p ≠ lineageName :=
    fun p hp heq => (hguards p).1 hp (Journal.fileName_injective heq)
  have hrefl : v.Guarantee me s s := guarantee_of_eq rfl rfl rfl fun h => h
  cases hmove with
  | list hfound =>
      refine ⟨hrefl, List.not_mem_nil, fun p hp => (hguards p).2 ?_⟩
      rintro rfl
      have hname := of_decide_eq_true (Bool.and_eq_true_iff.1 (hfound _ hp)).1
      exact (Journal.eq_fileName_of_partition? hname).2 rfl
  | done => exact ⟨hrefl, h.1⟩
  | lock hfree =>
      obtain ⟨hp, htodo⟩ := List.forall_mem_cons.1 h.2
      refine ⟨guarantee_of_eq rfl rfl rfl fun h => h, h.1, htodo, hp, ?_⟩
      exact (hclean _ hp hfree).stable ⟨rfl, rfl, fun _ _ => rfl⟩ fun h => h
  | absent => exact ⟨hrefl, h, fun gone hgone => by cases hgone; exact List.not_mem_nil⟩
  | «open» => exact ⟨hrefl, h, rfl⟩
  | draftFails => exact ⟨hrefl, h.1, nofun⟩
  | @create w file =>
      have hsame := Shared.same_put (s := s) (hdraft (fileName w.partition) _ h.1.guards) ""
      refine ⟨guarantee_of_put (hdraft _) _, h.1.stable_of_same hsame fun h => h, h.2,
        List.not_mem_nil, [], ?_, rfl⟩
      simp
  | copy => exact ⟨hrefl, h.copies hcutoff⟩
  | @save w copy gone =>
      obtain ⟨hw, hgone, hcopy⟩ := h
      have hsame := Shared.same_put (s := s) (hdraft (fileName w.partition) _ hw.guards) copy
      refine ⟨guarantee_of_put (hdraft _) _, hw.stable_of_same hsame fun h => h, hgone, ?_⟩
      rw [hsame.text_eq]
      exact hcopy
  | @keep w copy =>
      have hsame := Shared.same_remove (s := s) (hdraft (fileName w.partition) _ h.1.guards)
      refine ⟨guarantee_of_remove (hdraft _), h.1.stable_of_same hsame fun h => h, ?_⟩
      exact fun gone hgone => by cases hgone; exact List.not_mem_nil
  | @replace w copy gone _ =>
      obtain ⟨hw, hgone, rfl⟩ := h
      refine ⟨guarantee_of_owner (howner _ rfl) (fun q hq => Shared.same_replace
        (fun heq => hq (Journal.fileName_injective heq))
        (Journal.draftName_ne_fileName _ q).symm _)
        (fun _ => serves_replace hcutoff hw.clean.whole) rfl, ?_, ?_⟩
      · refine ⟨hw.spares, hw.todo, hw.guards, ?_, fun hfound => ?_⟩
        · rw [Shared.text_replace_self]
          exact hw.clean.whole.keptText hcutoff
        · rw [Shared.text_replace_self, hw.clean.whole.found_keptText hcutoff] at hfound
          exact hw.clean.indexed hfound
      · exact fun gone' heq => by cases heq; exact hgone
  | fail => exact ⟨guarantee_of_eq rfl rfl rfl fun h => h, trivial⟩
  | leave =>
      refine ⟨guarantee_of_eq rfl rfl rfl fun h => h, ?_, h.1.todo⟩
      rw [List.mem_append, not_or]
      exact ⟨h.1.spares, h.2 _ rfl⟩
  | @forget removed =>
      have hspared : v.id ∉ removed := h
      refine ⟨guarantee_of_eq rfl rfl rfl fun hne => ?_, trivial⟩
      rw [Shared.lookup_index_forget, if_neg (by simpa using hspared)]
      exact hne
  | spare => exact ⟨hrefl, trivial⟩
  | prune => exact ⟨guarantee_of_eq rfl rfl rfl fun h => h, trivial⟩
  | lineageFails => exact ⟨hrefl, trivial⟩
  | saveLineage => exact ⟨guarantee_of_put (hdraft _) _, trivial⟩
  | replaceFails => exact ⟨hrefl, trivial⟩
  | replaceLineage =>
      refine ⟨guarantee_of_same (fun p hp => Shared.same_replace (hlineage p hp)
        (hdraft _ p hp) _) fun h => h, trivial⟩
  | leaveLineage => exact ⟨guarantee_of_eq rfl rfl rfl fun h => h, trivial⟩

end

/-! ## Steps of any task -/

theorem Holds.move {t t' : Task} (h : v.Holds s t) (hmove : t.Move me s s' t')
    (hexpects : v.Expects t.request)
    (hclean : ∀ p, v.guards p → s.owner p = none → v.Clean s p)
    (howner : ∀ p, s.owner p = some me ↔ t.locked = some p) :
    v.Guarantee me s s' ∧ v.Holds s' t' := by
  cases hmove with
  | append hmove =>
      exact HoldsAppend.move h hmove hexpects hclean fun hlocks => (howner _).2 (if_pos hlocks)
  | find hmove => exact HoldsFind.move h hmove hclean
  | purge hmove =>
      exact HoldsPurge.move h hmove hexpects.1 hexpects.2 hclean fun p => (howner p).2

/-- A lock is given back on a clean partition. -/
theorem Holds.clean_of_given {t t' : Task} (h : v.Holds s t) (hmove : t.Move me s s' t')
    (ht : t.locked = some p) (ht' : t'.locked ≠ some p) (hp : v.guards p) : v.Clean s' p := by
  have hkeep : ∀ {q}, v.Clean s q → v.Clean (s.unlock q) q :=
    fun hq => ⟨hq.whole, hq.indexed⟩
  cases hmove with
  | append hmove =>
      cases hmove with
      | leave =>
          cases ht
          exact hkeep (h.1 hp)
      | lock => cases ht
      | _ => exact absurd ht ht'
  | find hmove =>
      cases hmove with
      | leave =>
          cases ht
          exact hkeep (h _ rfl hp)
      | leaveAbsent =>
          cases ht
          exact hkeep (h _ rfl hp)
      | measure => exact absurd ht ht'
      | _ => cases ht
  | purge hmove =>
      cases hmove with
      | leave =>
          cases ht
          exact hkeep h.1.clean
      | fail =>
          cases ht
          exact hkeep h.1.clean
      | copy => exact absurd ((PurgeStage.locked_copies ..).trans ht) ht'
      | absent | «open» | draftFails | create | save | keep | replace => exact absurd ht ht'
      | _ => cases ht

/-! ## Runs -/

variable (v) in
/-- What holds of a system at every time. -/
structure Invariant (s : System) : Prop where
  exclusive : s.Exclusive
  expects : ∀ (i : Nat) (t : Task), s.tasks[i]? = some t → v.Expects t.request
  holds : ∀ (i : Nat) (t : Task), s.tasks[i]? = some t → v.Holds s.shared t
  clean : ∀ p, v.guards p → s.shared.owner p = none → v.Clean s.shared p

/-- What is said of the tasks one by one is said of them after one was changed. -/
theorem forall_set {P : Nat → Task → Prop} {tasks : List Task} {i : Nat} {t' : Task}
    (hself : P i t') (h : ∀ k, k ≠ i → ∀ t, tasks[k]? = some t → P k t) :
    ∀ k t, (tasks.set i t')[k]? = some t → P k t := by
  intro k t ht
  by_cases hk : k = i
  · rw [hk, List.getElem?_set_self'] at ht
    obtain ⟨_, _, rfl⟩ := Option.map_eq_some_iff.1 ht
    exact hk ▸ hself
  · rw [List.getElem?_set_ne (Ne.symm hk)] at ht
    exact h k hk t ht

theorem Invariant.move {s : System} {i : Nat} {t t' : Task} {s' : Shared} (h : v.Invariant s)
    (ht : s.tasks[i]? = some t) (hmove : t.Move i s.shared s' t') :
    v.Guarantee i s.shared s' ∧ v.Invariant ⟨s', s.tasks.set i t'⟩ := by
  obtain ⟨hg, hnext⟩ := (h.holds i t ht).move hmove (h.expects i t ht) h.clean
    (h.exclusive.owner_iff_locked ht)
  refine ⟨hg, h.exclusive.move ht hmove, ?_, ?_, ?_⟩
  · exact forall_set (hmove.request_eq.symm ▸ h.expects i t ht) fun k _ => h.expects k
  · refine forall_set hnext fun k hk u hu => (h.holds k u hu).stable hg fun p hp howner => hk ?_
    have hlocked := (h.exclusive.owner_iff_locked hu p).2 hp
    exact Option.some.inj (hlocked.symm.trans howner)
  · intro p hp hfree
    have hlock := hmove.lockMove p
    have hheld := h.exclusive.owner_iff_locked ht p
    generalize howner : s.shared.owner p = owner at hlock hheld
    generalize howner' : s'.owner p = owner' at hlock hfree
    cases hlock with
    | same =>
        rw [hfree] at howner
        refine (h.clean p hp howner).stable (hg.same p hp ?_) hg.indexed
        rw [howner]
        nofun
    | taken => cases hfree
    | given hholds hgiven => exact (h.holds i t ht).clean_of_given hmove hholds hgiven hp

theorem clean_of_lacks {j : Journal} {p : String} (h : Journal.Lacks j.folder v.id p) :
    v.Clean { journal := j } p := by
  have hfound : v.found (Shared.text { journal := j } p) = [] :=
    List.filter_eq_nil_iff.2 fun line hline => by
      rw [h.mentions_eq_false line hline]
      exact Bool.false_ne_true
  exact {
    whole := {
      tail_eq_nil := h.tail_eq_nil
      isLine := h.isLine
      spares := fun line hline => by rw [hfound] at hline; cases hline }
    indexed := fun hne => absurd hfound hne }

/-- At the start nothing is under way. -/
theorem invariant_start {j : Journal} {requests : List Request}
    (hexpects : ∀ q ∈ requests, v.Expects q)
    (hclean : ∀ p, v.guards p → v.Clean { journal := j } p) :
    v.Invariant (System.start j requests) where
  exclusive := System.exclusive_start j requests
  expects i t ht := by
    obtain ⟨q, hq, rfl⟩ := System.exists_request_of_start ht
    have hrequest : q.task.request = q := by cases q <;> rfl
    rw [hrequest]
    exact hexpects q (List.mem_of_getElem? hq)
  holds i t ht := by
    obtain ⟨q, -, rfl⟩ := System.exists_request_of_start ht
    cases q with
    | append r => trivial
    | find id => exact fun p hp => nomatch hp
    | purgeBefore cutoff => trivial
  clean p hp _ := hclean p hp

end Watch

end ApiGateway.Audit
