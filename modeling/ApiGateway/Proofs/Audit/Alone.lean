import ApiGateway.Proofs.Audit.Readers
import ApiGateway.Proofs.Audit.Steps

/-! # Operations without interference

A task that takes all its steps while no other one takes any, and all locks are free, does to the
journal what the operation does as a whole, and gives the same answer: `append_runs`, `find_runs`
and `purge_runs`.
-/

set_option autoImplicit false

namespace ApiGateway

namespace Folder

theorem put_put (name : String) (entry entry' : Entry) (folder : Folder) :
    (folder.put name entry).put name entry' = folder.put name entry' := by
  induction folder with
  | nil => simp [put]
  | cons q folder ih =>
      obtain ⟨n, e⟩ := q
      rw [put, put]
      split
      · simp [put]
      · split
        · simp [put]
        · rename_i hlt hne
          rw [put, if_neg hlt, if_neg hne, ih]

theorem remove_put (name : String) (entry : Entry) (folder : Folder) :
    (folder.put name entry).remove name = folder.remove name := by
  induction folder with
  | nil => simp [put, remove]
  | cons q folder ih =>
      obtain ⟨n, e⟩ := q
      rw [put]
      split
      · simp [remove]
      · split
        · rename_i hn
          simp [remove, hn]
        · unfold remove at ih ⊢
          rw [List.filter_cons, List.filter_cons, ih]

end Folder

namespace Audit

open Journal (partitionName fileName draftName lineOf lineageName linesOf keptText expired?)

/-- A task goes on from here to there, and no other one meanwhile. -/
inductive Task.Runs (i : Nat) : Shared → Task → Shared → Task → Prop where
  | refl {s : Shared} {t : Task} : Runs i s t s t
  | step {s s₁ s' : Shared} {t t₁ t' : Task} (c : Choice) (first : t.step i c s = some (s₁, t₁))
      (rest : Runs i s₁ t₁ s' t') : Runs i s t s' t'

theorem Task.Runs.trans {i : Nat} {s s₁ s' : Shared} {t t₁ t' : Task} (h : Runs i s t s₁ t₁)
    (h' : Runs i s₁ t₁ s' t') : Runs i s t s' t' := by
  induction h with
  | refl => exact h'
  | step c hfirst _ ih => exact .step c hfirst (ih h')

/-- One more step at the end. -/
theorem Task.Runs.next {i : Nat} {s s₁ s' : Shared} {t t₁ t' : Task} (h : Runs i s t s₁ t₁)
    (c : Choice) (hlast : t₁.step i c s₁ = some (s', t')) : Runs i s t s' t' :=
  h.trans (.step c hlast .refl)

/-- A task of a system goes on alone. -/
theorem System.exists_run_of_runs {s : System} {i : Nat} {t t' : Task} {s' : Shared}
    (ht : s.tasks[i]? = some t) (h : t.Runs i s.shared s' t') :
    ∃ steps, s.run steps = some ⟨s', s.tasks.set i t'⟩ := by
  generalize hshared : s.shared = shared at h
  induction h generalizing s with
  | refl =>
      obtain ⟨hlt, rfl⟩ := List.getElem?_eq_some_iff.1 ht
      exact ⟨[], by rw [List.set_getElem_self, ← hshared]; rfl⟩
  | @step _ s₁ s' t t₁ t' c hfirst _ ih =>
      obtain ⟨hlt, -⟩ := List.getElem?_eq_some_iff.1 ht
      obtain ⟨steps, hrun⟩ := ih (s := ⟨s₁, s.tasks.set i t₁⟩) (List.getElem?_set_self hlt) rfl
      have hstep : s.step i c = some ⟨s₁, s.tasks.set i t₁⟩ := by
        rw [System.step, ht]
        show (t.step i c s.shared >>= _) = _
        rw [hshared, hfirst]
        rfl
      refine ⟨(i, c) :: steps, ?_⟩
      rw [System.run, hstep]
      show System.run _ steps = _
      rw [hrun, List.set_set]

variable {i : Nat} {s : Shared}

theorem Shared.unlock_lock {p : String} (hfree : s.owner p = none) : (s.lock p i).unlock p = s := by
  have howner : (fun q => if q = p then none else (s.lock p i).owner q) = s.owner := by
    funext q
    split
    · rename_i hq
      rw [hq, hfree]
    · rename_i hq
      exact s.owner_lock_of_ne hq i
  unfold Shared.unlock
  rw [howner]
  rfl

/-! ## Appending -/

section

variable {r : Record}

/-- A line is written in one go and enrolled. -/
theorem runs_of_writing {text : String}
    (hentry : s.entryAt (fileName (partitionName r.provider)) = some (.file text)) :
    (Task.append r (.writing (s.handle (fileName (partitionName r.provider)))
      (lineOf r ++ "\n").toList)).Runs i s
      ((s.put (fileName (partitionName r.provider)) (text ++ lineOf r ++ "\n")).setIndex
        ((r.id, partitionName r.provider) :: s.journal.index))
      (.append r (.leaving (.ok r.id))) := by
  have hlength : (lineOf r ++ "\n").toList.length ≤ (lineOf r ++ "\n").toList.length + 1 :=
    Nat.le_succ _
  have htext : text ++ String.ofList (lineOf r ++ "\n").toList = text ++ lineOf r ++ "\n" := by
    rw [String.ofList_toList, String.append_assoc]
  have hwrite : (Task.append r (.writing (s.handle (fileName (partitionName r.provider)))
        (lineOf r ++ "\n").toList)).step i ⟨(lineOf r ++ "\n").toList.length, []⟩ s =
      some (s.put (fileName (partitionName r.provider)) (text ++ lineOf r ++ "\n"),
        .append r .enrolling) := by
    simp only [Task.step, AppendStage.step, if_pos hlength, List.take_of_length_le hlength,
      Shared.write_handle hentry, htext, Option.map_some]
  exact .step _ hwrite (.step {} rfl .refl)

theorem runs_of_appendLine {folder : Folder}
    (h : Journal.appendLine (fileName (partitionName r.provider)) (lineOf r) s.journal.folder =
      .ok folder) :
    (Task.append r .opening).Runs i s
      ((s.setFolder folder).setIndex ((r.id, partitionName r.provider) :: s.journal.index))
      (.append r (.leaving (.ok r.id))) := by
  unfold Journal.appendLine at h
  cases hentry : s.entryAt (fileName (partitionName r.provider)) with
  | none =>
      have hlookup : s.journal.folder.lookup _ = none := hentry
      rw [hlookup] at h
      cases h
      have hput : (s.put (fileName (partitionName r.provider)) "").put
          (fileName (partitionName r.provider)) ("" ++ lineOf r ++ "\n") =
          s.put (fileName (partitionName r.provider)) (lineOf r ++ "\n") := by
        unfold Shared.put Shared.setFolder
        rw [Folder.put_put, String.empty_append]
      have hwrite := runs_of_writing (i := i) (r := r)
        (Shared.entryAt_put_self (s := s) (fileName (partitionName r.provider)) "")
      rw [hput] at hwrite
      refine .step {} ?_ hwrite
      simp only [Task.step, AppendStage.step, hentry]
      rfl
  | some entry =>
      have hlookup : s.journal.folder.lookup _ = some entry := hentry
      rw [hlookup] at h
      cases entry with
      | file text =>
          cases h
          refine .step {} ?_ (runs_of_writing hentry)
          simp only [Task.step, AppendStage.step, hentry]
          rfl
      | folder entries => cases h

theorem runs_of_appendLine_error {e : StoreError}
    (h : Journal.appendLine (fileName (partitionName r.provider)) (lineOf r) s.journal.folder =
      .error e) :
    (Task.append r .opening).Runs i s s (.append r (.leaving (.error e))) := by
  unfold Journal.appendLine at h
  split at h
  · cases h
  · cases h
  · rename_i entries hlookup
    cases h
    have hentry : s.entryAt (fileName (partitionName r.provider)) = some (.folder entries) :=
      hlookup
    refine .step {} ?_ .refl
    simp only [Task.step, AppendStage.step, hentry]
    rfl

/-- What an append leaves that has passed the check. -/
def Shared.appended (s : Shared) (r : Record) : Shared :=
  ((s.put (fileName (partitionName r.provider))
    (s.text (partitionName r.provider) ++ lineOf r ++ "\n")).setIndex
      ((r.id, partitionName r.provider) :: s.journal.index)).unlock (partitionName r.provider)

theorem Shared.text_appended_self (s : Shared) (r : Record) :
    (s.appended r).text (partitionName r.provider) =
      s.text (partitionName r.provider) ++ lineOf r ++ "\n" :=
  Shared.text_put_self _ _

theorem Shared.text_appended_of_ne {p : String} (h : p ≠ partitionName r.provider) (s : Shared) :
    (s.appended r).text p = s.text p :=
  (Shared.same_put (fun heq => h (Journal.fileName_injective heq)) _).text_eq

/-- An append that has passed the check goes on to its end. -/
theorem runs_of_passed
    (hreadable : Journal.IsReadable s.journal.folder (fileName (partitionName r.provider))) :
    (Task.append r .opening).Runs i s (s.appended r) (.append r (.finished (.ok r.id))) :=
  (runs_of_appendLine (hreadable.appendLine_eq _)).next {} rfl

theorem step_waiting (hfree : s.owner (partitionName r.provider) = none) :
    (Task.append r .waiting).step i {} s =
      some (s.lock (partitionName r.provider) i, .append r .checking) := by
  simp only [Task.step, AppendStage.step, hfree, Option.isNone_none, if_true, Option.map_some]

/-- A new record passes the check. -/
theorem runs_of_new (hfree : s.owner (partitionName r.provider) = none)
    (hnew : s.journal.index.lookup r.id = none) :
    (Task.append r .waiting).Runs i s (s.lock (partitionName r.provider) i)
      (.append r .opening) := by
  refine .step {} (step_waiting hfree) (.step {} ?_ .refl)
  simp only [Task.step, AppendStage.step, Shared.journal_lock, hnew, Option.isSome_none,
    Bool.false_eq_true, if_false, Option.map_some]

/-- An append alone is the append of the journal. -/
theorem append_runs (r : Record) (hfree : s.owner (partitionName r.provider) = none) :
    (Task.append r .waiting).Runs i s { s with journal := (s.journal.append r).1 }
      (.append r (.finished (s.journal.append r).2)) := by
  unfold Journal.append
  dsimp only
  cases hknown : s.journal.index.lookup r.id with
  | some p =>
      have hcheck : (Task.append r .checking).step i {} (s.lock (partitionName r.provider) i) =
          some (s.lock (partitionName r.provider) i,
            .append r (.leaving (.error (.duplicate r.id)))) := by
        simp only [Task.step, AppendStage.step, Shared.journal_lock, hknown, Option.isSome_some,
          if_true, Option.map_some]
      refine .step {} (step_waiting hfree) (.step {} hcheck (.step {} ?_ .refl))
      simp only [Task.step, AppendStage.step, Shared.unlock_lock hfree, Option.map_some,
        Option.isSome_some, if_true]
  | none =>
      refine (runs_of_new hfree hknown).trans ?_
      simp only [Option.isSome_none, Bool.false_eq_true, if_false]
      cases hline : Journal.appendLine (fileName (partitionName r.provider)) (lineOf r)
          s.journal.folder with
      | error e =>
          refine (runs_of_appendLine_error (s := s.lock (partitionName r.provider) i)
            hline).next {} ?_
          simp only [Task.step, AppendStage.step, Shared.unlock_lock hfree, Option.map_some]
      | ok folder =>
          refine (runs_of_appendLine (s := s.lock (partitionName r.provider) i)
            hline).next {} ?_
          have hunlock := congrArg (fun x : Shared => { x with
            journal := ⟨folder, (r.id, partitionName r.provider) :: s.journal.index,
              s.journal.lineage⟩ }) (Shared.unlock_lock (i := i) hfree)
          exact congrArg (fun x => some (x, Task.append r (.finished (.ok r.id)))) hunlock

end

/-! ## Finding -/

section

variable {id : RecordId}

/-- What a search answers that finds these lines. -/
def Journal.answerIn (j : Journal) (id : RecordId) (lines : List String) :
    Except StoreError Record :=
  match lines.find? fun line => Journal.id? line = some id with
  | none => .error (.notFound id)
  | some line =>
    match Journal.record? line with
    | some r => .ok (j.withReplays r)
    | none => .error .serialization

theorem Journal.find_eq_of_lookup {j : Journal} {p : String} (h : j.index.lookup id = some p) :
    j.find id = (linesOf (fileName p) j.folder).bind (j.answerIn id) := by
  unfold Journal.find
  rw [h]
  rfl

/-- A search reads the lines of a file up to one with the identifier. -/
theorem runs_of_reading (id : RecordId) {file : Handle} {text : String}
    (htext : s.text? file = some text) (hlineage : s.lineageOwner = none) (position : Nat) :
    (Task.find id (.reading file position
      (Text.byteLength (text.toList.drop position)))).Runs i s s
      (.find id (.finished (s.journal.answerIn id
        (Journal.lines (String.ofList (text.toList.drop position)))))) := by
  generalize hlength : (text.toList.drop position).length = n
  induction n using Nat.strongRecOn generalizing position with
  | ind n ih =>
      have hstep : (Task.find id (.reading file position
          (Text.byteLength (text.toList.drop position)))).step i {} s =
          some (s, .find id (FindStage.reads id file position
            (Text.byteLength (text.toList.drop position)) (some text))) := by
        simp only [Task.step, FindStage.step, htext, Option.map_some]
      refine .step {} hstep ?_
      rcases Journal.readLine_eq (text.toList.drop position) with
        ⟨hrest, hread⟩ | ⟨line, taken, hless, hread, hlines⟩
      · simp only [FindStage.reads, hread]
        rw [hrest]
        exact .refl
      · simp only [FindStage.reads, hread]
        rw [hlines]
        by_cases hid : Journal.id? line = some id
        · have hanswer : s.journal.answerIn id (line :: Journal.lines
              (String.ofList ((text.toList.drop position).drop taken))) =
              match Journal.record? line with
              | some r => .ok (s.journal.withReplays r)
              | none => .error .serialization := by
            unfold Journal.answerIn
            rw [List.find?_cons_of_pos (by simpa using hid)]
          rw [if_pos hid, hanswer]
          cases hrecord : Journal.record? line with
          | none => exact .refl
          | some r =>
              refine .step {} ?_ .refl
              simp only [Task.step, FindStage.step, hlineage, Option.isNone_none, if_true,
                Option.map_some]
        · have hanswer : ∀ ls, s.journal.answerIn id (line :: ls) = s.journal.answerIn id ls := by
            intro ls
            unfold Journal.answerIn
            rw [List.find?_cons_of_neg (by simpa using hid)]
          rw [if_neg hid, hanswer, List.drop_drop]
          rw [List.drop_drop, hlength] at hless
          exact ih _ hless (position + taken) rfl

/-- A search alone is the search of the journal. -/
theorem find_runs (id : RecordId) (hfree : ∀ p, s.owner p = none)
    (hlineage : s.lineageOwner = none) :
    (Task.find id .looking).Runs i s s (.find id (.finished (s.journal.find id))) := by
  cases hlookup : s.journal.index.lookup id with
  | none =>
      refine .step {} ?_ .refl
      simp only [Task.step, FindStage.step, hlookup, Option.map_some, Journal.find]
  | some p =>
      have hlook : (Task.find id .looking).step i {} s = some (s, .find id (.waiting p)) := by
        simp only [Task.step, FindStage.step, hlookup, Option.map_some]
      have hlock : (Task.find id (.waiting p)).step i {} s =
          some (s.lock p i, .find id (.measuring p)) := by
        simp only [Task.step, FindStage.step, hfree p, Option.isNone_none, if_true,
          Option.map_some]
      have hmeasure : (Task.find id (.measuring p)).step i {} (s.lock p i) =
          some (s.lock p i, .find id (.leaving p (s.length? (fileName p)))) := rfl
      refine .step {} hlook (.step {} hlock (.step {} hmeasure ?_))
      rw [Journal.find_eq_of_lookup hlookup]
      unfold linesOf
      cases hentry : s.entryAt (fileName p) with
      | none =>
          have hfolder : s.journal.folder.lookup (fileName p) = none := hentry
          rw [hfolder, Shared.length?, hentry]
          refine .step {} ?_ .refl
          simp only [Task.step, FindStage.step, Option.map_none, Shared.unlock_lock (hfree p),
            Option.map_some]
          rfl
      | some entry =>
          have hfolder : s.journal.folder.lookup (fileName p) = some entry := hentry
          obtain ⟨length, hlength⟩ : ∃ length, s.length? (fileName p) = some length := by
            unfold Shared.length?
            rw [hentry]
            exact ⟨_, rfl⟩
          have hleave : (Task.find id (.leaving p (some length))).step i {} (s.lock p i) =
              some (s, .find id (.opening p length)) := by
            simp only [Task.step, FindStage.step, Shared.unlock_lock (hfree p), Option.map_some]
          have hopen : (Task.find id (.opening p length)).step i {} s =
              some (s, .find id (.reading (s.handle (fileName p)) 0 length)) := by
            simp only [Task.step, FindStage.step, hentry, Option.map_some]
          rw [hlength]
          refine .step {} hleave (.step {} hopen ?_)
          rw [hfolder]
          cases entry with
          | folder entries =>
              refine .step {} ?_ .refl
              simp only [Task.step, FindStage.step, Shared.text?_handle_of_folder hentry,
                FindStage.reads, Option.map_some]
              rfl
          | file text =>
              have hlength' : length = Text.byteLength (text.toList.drop 0) := by
                unfold Shared.length? at hlength
                rw [hentry] at hlength
                exact (Option.some.inj hlength).symm
              have hread := runs_of_reading (i := i) id (Shared.text?_handle hentry)
                hlineage 0
              rw [hlength']
              rw [List.drop_zero, String.ofList_toList] at hread
              exact hread

end

/-! ## Purging -/

section

variable {cutoff : Time.Instant}

theorem Journal.expiredIn_concat (cutoff : Time.Instant) (done : List String) (line : String) :
    expiredIn cutoff (done ++ [line]) =
      expiredIn cutoff done ++ ((expired? cutoff line).map (·.id)).toList := by
  unfold expiredIn
  rw [List.filterMap_append, List.filterMap_cons, List.filterMap_nil]
  cases (expired? cutoff line) <;> rfl

/-- A purge goes through the lines of a file up to its end. -/
theorem runs_of_copying (cutoff : Time.Instant) (w : Rewrite) {file : Handle} {text : String}
    (htext : s.text? file = some text) (position : Nat) (done : List String) :
    (Task.purge cutoff (.copying w file position (keptText cutoff done)
      (Journal.expiredIn cutoff done))).Runs i s s
      (.purge cutoff (.saving w
        (keptText cutoff (done ++ Journal.lines (String.ofList (text.toList.drop position))))
        (Journal.expiredIn cutoff
          (done ++ Journal.lines (String.ofList (text.toList.drop position)))))) := by
  generalize hlength : (text.toList.drop position).length = n
  induction n using Nat.strongRecOn generalizing position done with
  | ind n ih =>
      have hstep : (Task.purge cutoff (.copying w file position (keptText cutoff done)
          (Journal.expiredIn cutoff done))).step i {} s =
          some (s, .purge cutoff (PurgeStage.copies cutoff w file position
            (keptText cutoff done) (Journal.expiredIn cutoff done) (some text))) := by
        simp only [Task.step, PurgeStage.step, htext, Option.map_some]
      refine .step {} hstep ?_
      unfold PurgeStage.copies
      dsimp only
      rcases Journal.readLine_eq (text.toList.drop position) with
        ⟨hrest, hread⟩ | ⟨line, taken, hless, hread, hlines⟩
      · rw [hread, hrest]
        have hnone : Journal.lines (String.ofList []) = [] := rfl
        rw [hnone, List.append_nil]
        exact .refl
      · rw [hread]
        rw [List.drop_drop, hlength] at hless
        have hnext := ih _ hless (position + taken) (done ++ [line]) rfl
        have hdone : done ++ [line] ++
            Journal.lines (String.ofList (text.toList.drop (position + taken))) =
            done ++ Journal.lines (String.ofList (text.toList.drop position)) := by
          rw [hlines, List.drop_drop, List.append_assoc]
          rfl
        rw [hdone, Journal.keptText_concat, Journal.expiredIn_concat] at hnext
        dsimp only
        by_cases hblank : Text.isAllBlank line = true
        · rw [if_pos hblank]
          rw [Journal.expired?_of_isAllBlank hblank, if_neg (by simp [Journal.keeps, hblank]),
            String.append_empty] at hnext
          simpa using hnext
        · rw [if_neg hblank]
          cases hexpired : expired? cutoff line with
          | some r =>
              rw [hexpired, if_neg (by simp [Journal.keeps, hexpired]),
                String.append_empty] at hnext
              exact hnext
          | none =>
              rw [hexpired, if_pos (by simp [Journal.keeps, hexpired, hblank])] at hnext
              simpa using hnext

section

variable {folder : Folder} {p : String}

theorem Journal.closed_put_draft (name copy : String) (gone : List RecordId) (entry : Entry)
    (folder : Folder) :
    closed name copy gone (folder.put (draftName name) entry) = closed name copy gone folder := by
  unfold closed
  rw [Folder.remove_put]

theorem Journal.purgePartition_of_folder {entries : Folder}
    (hentry : folder.lookup (fileName p) = some (.folder entries))
    (hdraft : ∀ entries, folder.lookup (draftName (fileName p)) ≠ some (.folder entries)) :
    purgePartition cutoff p folder =
      (folder.put (draftName (fileName p)) (.file ""), .error .io) := by
  unfold purgePartition
  dsimp only
  rw [hentry]
  cases hblocked : folder.lookup (draftName (fileName p)) with
  | none => rfl
  | some entry =>
      cases entry with
      | file _ => rfl
      | folder entries => exact absurd hblocked (hdraft entries)

end

/-- A complete copy is saved and takes the place of the file. -/
theorem runs_of_saving (cutoff : Time.Instant) (w : Rewrite) (copy : String)
    (gone : List RecordId) (s : Shared) :
    ∃ s', (Task.purge cutoff (.saving w copy gone)).Runs i s s'
        (.purge cutoff (.leaving w (.ok gone))) ∧
      s'.journal = { s.journal with
        folder := Journal.closed (fileName w.partition) copy gone s.journal.folder } ∧
      s'.owner = s.owner ∧ s'.lineageOwner = s.lineageOwner := by
  have hsave : (Task.purge cutoff (.saving w copy gone)).step i {} s =
      some (s.put (draftName (fileName w.partition)) copy,
        .purge cutoff (.closing w copy gone)) := rfl
  rw [← Journal.closed_put_draft _ _ _ (.file copy)]
  cases gone with
  | nil => exact ⟨_, .step {} hsave (.step {} rfl .refl), rfl, rfl, rfl⟩
  | cons id gone => exact ⟨_, .step {} hsave (.step {} rfl .refl), rfl, rfl, rfl⟩

/-- What a purge does to a partition once it has its lock. -/
theorem runs_of_opening (cutoff : Time.Instant) (w : Rewrite) (s : Shared) :
    ∃ s', (Task.purge cutoff (.opening w)).Runs i s s'
        (.purge cutoff (.leaving w
          (Journal.purgePartition cutoff w.partition s.journal.folder).2)) ∧
      s'.journal = { s.journal with
        folder := (Journal.purgePartition cutoff w.partition s.journal.folder).1 } ∧
      s'.owner = s.owner ∧ s'.lineageOwner = s.lineageOwner := by
  have hne := (Journal.draftName_ne_fileName (fileName w.partition) w.partition).symm
  cases hentry : s.entryAt (fileName w.partition) with
  | none =>
      have hfolder : s.journal.folder.lookup (fileName w.partition) = none := hentry
      unfold Journal.purgePartition
      dsimp only
      rw [hfolder]
      refine ⟨s, .step {} ?_ .refl, rfl, rfl, rfl⟩
      simp only [Task.step, PurgeStage.step, hentry, Option.map_some]
  | some entry =>
      have hfolder : s.journal.folder.lookup (fileName w.partition) = some entry := hentry
      have hopen : (Task.purge cutoff (.opening w)).step i {} s = some (s,
          .purge cutoff (.creating w (s.handle (fileName w.partition)))) := by
        simp only [Task.step, PurgeStage.step, hentry, Option.map_some]
      by_cases hblocked : ∃ entries, s.entryAt (draftName (fileName w.partition)) =
          some (.folder entries)
      · obtain ⟨entries, hblocked⟩ := hblocked
        have hdraft : s.journal.folder.lookup (draftName (fileName w.partition)) =
          some (.folder entries) := hblocked
        unfold Journal.purgePartition
        dsimp only
        rw [hfolder, hdraft]
        refine ⟨s, .step {} hopen (.step {} ?_ .refl), rfl, rfl, rfl⟩
        simp only [Task.step, PurgeStage.step, hblocked, Option.map_some]
      · have hdraft : ∀ entries, s.journal.folder.lookup (draftName (fileName w.partition)) ≠
          some (.folder entries) := fun entries h => hblocked ⟨entries, h⟩
        have hcreate : (Task.purge cutoff
            (.creating w (s.handle (fileName w.partition)))).step i {} s =
            some (s.put (draftName (fileName w.partition)) "", .purge cutoff
              (.copying w (s.handle (fileName w.partition)) 0 "" [])) := by
          simp only [Task.step, PurgeStage.step]
          split
          · exact absurd ‹_› (hdraft _)
          · rfl
        have hsame := Shared.same_put (s := s) hne ""
        have hentry' := hsame.entryAt_eq.trans hentry
        cases entry with
        | folder entries =>
            rw [Journal.purgePartition_of_folder hfolder hdraft]
            refine ⟨s.put (draftName (fileName w.partition)) "",
              .step {} hopen (.step {} hcreate (.step {} ?_ .refl)), rfl, rfl, rfl⟩
            rw [← hsame.handle_eq]
            simp only [Task.step, PurgeStage.step, Shared.text?_handle_of_folder hentry',
              PurgeStage.copies, Option.map_some]
        | file text =>
            have hcopy := runs_of_copying (i := i) cutoff w (Shared.text?_handle hentry') 0 []
            rw [hsame.handle_eq, List.drop_zero, String.ofList_toList, List.nil_append] at hcopy
            obtain ⟨s', hsave, hjournal, howner, hlineage⟩ := runs_of_saving (i := i) cutoff w
              (keptText cutoff (Journal.lines text)) (Journal.expiredIn cutoff (Journal.lines text))
              (s.put (draftName (fileName w.partition)) "")
            rw [Journal.purgePartition_of_file hfolder hdraft]
            refine ⟨s', .step {} hopen (.step {} hcreate (hcopy.trans hsave)), ?_, howner, hlineage⟩
            rw [hjournal]
            exact congrArg (fun folder => ({ s.journal with folder := folder } : Journal))
              (Journal.closed_put_draft _ _ _ _ _)

/-- How a purge goes on when it has gone through all partitions. -/
def PurgeStage.afterPartitions : Except StoreError (List RecordId) → PurgeStage
  | .ok removed => .forgetting removed
  | .error e => .finished (.error e)

/-- The partitions are purged one after another. -/
theorem runs_of_waiting (cutoff : Time.Instant) (removed : List RecordId) (ps : List String)
    (s : Shared) (hfree : ∀ p, s.owner p = none) :
    ∃ s', (Task.purge cutoff (.waiting removed ps)).Runs i s s' (.purge cutoff
        (.afterPartitions (Journal.purgePartitions cutoff removed ps s.journal.folder).2)) ∧
      s'.journal = { s.journal with
        folder := (Journal.purgePartitions cutoff removed ps s.journal.folder).1 } ∧
      s'.owner = s.owner ∧ s'.lineageOwner = s.lineageOwner := by
  induction ps generalizing removed s with
  | nil => exact ⟨s, .step {} rfl .refl, rfl, rfl, rfl⟩
  | cons p ps ih =>
      have hlock : (Task.purge cutoff (.waiting removed (p :: ps))).step i {} s =
          some (s.lock p i, .purge cutoff (.opening ⟨removed, p, ps⟩)) := by
        simp only [Task.step, PurgeStage.step, hfree p, Option.isNone_none, if_true,
          Option.map_some]
      obtain ⟨s₁, hrun, hjournal, howner, hlineage⟩ :=
        runs_of_opening (i := i) cutoff ⟨removed, p, ps⟩ (s.lock p i)
      rw [Shared.journal_lock] at hrun hjournal
      have hunlocked : (s₁.unlock p).owner = s.owner := by
        have hsame := congrArg Shared.owner (Shared.unlock_lock (i := i) (hfree p))
        unfold Shared.unlock at hsame ⊢
        rw [← howner] at hsame
        exact hsame
      rw [Journal.purgePartitions]
      cases hpurge : Journal.purgePartition cutoff p s.journal.folder with
      | mk folder result =>
          rw [hpurge] at hrun hjournal
          cases result with
          | error e =>
              refine ⟨s₁.unlock p, (Task.Runs.step {} hlock hrun).next {} rfl, hjournal, hunlocked,
                hlineage⟩
          | ok ids =>
              obtain ⟨s', hrest, hjournal', howner', hlineage'⟩ :=
                ih (removed ++ ids) (s₁.unlock p) (fun q => by rw [hunlocked, hfree])
              have hfolder : (s₁.unlock p).journal = { s.journal with folder := folder } := hjournal
              rw [hfolder] at hrest hjournal'
              refine ⟨s', ((Task.Runs.step {} hlock hrun).next {} rfl).trans hrest, hjournal',
                howner'.trans hunlocked, hlineage'.trans hlineage⟩

/-- The lineage is pruned. -/
theorem runs_of_pruning (cutoff : Time.Instant) (removed : List RecordId) (s : Shared)
    (hfree : s.lineageOwner = none) :
    ∃ s', (Task.purge cutoff (.pruning removed)).Runs i s s' (.purge cutoff
        (.finished ((Journal.pruneLineage removed s.journal).2.map fun _ => removed.length))) ∧
      s'.journal = (Journal.pruneLineage removed s.journal).1 ∧ s'.owner = s.owner ∧
      s'.lineageOwner = none := by
  have hne : lineageName ≠ draftName lineageName :=
    (Journal.draftName_ne_fileName lineageName "lineage").symm
  generalize hpruned : Journal.pruneLineage removed s.journal = pruned
  unfold Journal.pruneLineage at hpruned
  dsimp only at hpruned
  split at hpruned
  · rename_i hsame
    subst hpruned
    refine ⟨s, .step {} ?_ .refl, rfl, rfl, hfree⟩
    simp only [Task.step, PurgeStage.step, hfree, Option.isNone_none, if_true, hsame,
      Option.map_some]
    rfl
  · rename_i hless
    generalize hkept : (s.journal.lineage.filter fun q => !removed.contains q.1) = kept
      at hless hpruned
    have hprune : (Task.purge cutoff (.pruning removed)).step i {} s =
        some (s.pruneLineage kept i,
          .purge cutoff (.savingLineage removed.length (Journal.lineageText kept))) := by
      simp only [Task.step, PurgeStage.step, hfree, Option.isNone_none, if_true, hkept,
        if_neg hless, Option.map_some]
    have hsave : (∀ entries, (s.pruneLineage kept i).entryAt (draftName lineageName) ≠
          some (.folder entries)) →
        (Task.purge cutoff (.pruning removed)).Runs i s
          ((s.pruneLineage kept i).put (draftName lineageName) (Journal.lineageText kept))
          (.purge cutoff (.closingLineage removed.length (Journal.lineageText kept))) := by
      intro hdraft
      refine .step {} hprune (.step {} ?_ .refl)
      simp only [Task.step, PurgeStage.step]
      rfl
    have hentry : ((s.pruneLineage kept i).put (draftName lineageName)
        (Journal.lineageText kept)).entryAt lineageName = s.journal.folder.lookup lineageName :=
      Folder.lookup_put_of_ne hne _ _
    split at hpruned
    · rename_i hdraft
      subst hpruned
      have hdraft : (s.pruneLineage kept i).entryAt (draftName lineageName) = _ := hdraft
      have hfail : (Task.purge cutoff (.savingLineage removed.length
            (Journal.lineageText kept))).step i {} (s.pruneLineage kept i) =
          some (s.pruneLineage kept i, .purge cutoff (.leavingLineage (.error .io))) := by
        simp only [Task.step, PurgeStage.step, hdraft, Option.map_some]
      exact ⟨_, .step {} hprune (.step {} hfail (.step {} rfl .refl)), rfl, rfl, rfl⟩
    · rename_i hblocked hdraft
      subst hpruned
      rw [hblocked] at hentry
      have hfail : (Task.purge cutoff (.closingLineage removed.length
            (Journal.lineageText kept))).step i {} ((s.pruneLineage kept i).put
              (draftName lineageName) (Journal.lineageText kept)) =
          some ((s.pruneLineage kept i).put (draftName lineageName) (Journal.lineageText kept),
            .purge cutoff (.leavingLineage (.error .io))) := by
        simp only [Task.step, PurgeStage.step, hentry, Option.map_some]
      exact ⟨_, (hsave hdraft).trans (.step {} hfail (.step {} rfl .refl)), rfl, rfl, rfl⟩
    · rename_i hdraft hfile
      subst hpruned
      have hreplace : (Task.purge cutoff (.closingLineage removed.length
            (Journal.lineageText kept))).step i {} ((s.pruneLineage kept i).put
              (draftName lineageName) (Journal.lineageText kept)) =
          some (((s.pruneLineage kept i).put (draftName lineageName)
            (Journal.lineageText kept)).replace lineageName (draftName lineageName)
              (Journal.lineageText kept),
            .purge cutoff (.leavingLineage (.ok removed.length))) := by
        simp only [Task.step, PurgeStage.step, hentry]
        rfl
      refine ⟨_, (hsave hdraft).trans (.step {} hreplace (.step {} rfl .refl)), ?_, rfl, rfl⟩
      unfold Shared.unlockLineage Shared.replace Shared.remove Shared.put Shared.setFolder
      dsimp only
      rw [Folder.remove_put]
      rfl

/-- A purge alone is the purge of the journal. -/
theorem purge_runs (cutoff : Time.Instant) (hfree : ∀ p, s.owner p = none)
    (hlineage : s.lineageOwner = none) :
    ∃ s', (Task.purge cutoff .listing).Runs i s s'
        (.purge cutoff (.finished (s.journal.purgeBefore cutoff).2)) ∧
      s'.journal = (s.journal.purgeBefore cutoff).1 ∧ s'.owner = s.owner ∧
      s'.lineageOwner = none := by
  have hlisted : (Task.purge cutoff .listing).step i ⟨0, Journal.partitions s.journal.folder⟩ s =
      some (s, .purge cutoff (.waiting [] (Journal.partitions s.journal.folder))) := by
    have hall : (Journal.partitions s.journal.folder).all s.lists = true := by
      refine List.all_eq_true.2 fun p hp => ?_
      obtain ⟨hname, hpartition⟩ := Journal.mem_partitions_iff.1 hp
      have hsome : (s.entryAt (fileName p)).isSome = true := by
        unfold Shared.entryAt
        rw [Option.isSome_iff_ne_none]
        exact fun hnone => lookup_eq_none_iff_not_mem.1 hnone hname
      exact Bool.and_eq_true_iff.2 ⟨decide_eq_true hpartition, hsome⟩
    simp only [Task.step, PurgeStage.step, hall, if_true, Option.map_some]
  obtain ⟨s₁, hrun, hjournal, howner, hlineage₁⟩ :=
    runs_of_waiting (i := i) cutoff [] (Journal.partitions s.journal.folder) s hfree
  unfold Journal.purgeBefore
  cases hpurge : Journal.purgePartitions cutoff [] (Journal.partitions s.journal.folder)
      s.journal.folder with
  | mk folder result =>
      rw [hpurge] at hrun hjournal
      cases result with
      | error e => exact ⟨s₁, .step _ hlisted hrun, hjournal, howner, hlineage₁.trans hlineage⟩
      | ok removed =>
          have hforget : (Task.purge cutoff (.forgetting removed)).step i {} s₁ =
              some (s₁.forget removed, .purge cutoff (.pruning removed)) := rfl
          obtain ⟨s', hprune, hjournal', howner', hlineage'⟩ := runs_of_pruning (i := i) cutoff
            removed (s₁.forget removed) (hlineage₁.trans hlineage)
          have hforgot : (s₁.forget removed).journal =
              ⟨folder, (s.forget removed).journal.index, s.journal.lineage⟩ := by
            unfold Shared.forget Shared.setIndex
            rw [hjournal]
          rw [hforgot] at hprune hjournal'
          exact ⟨s', .step _ hlisted ((hrun.next {} hforget).trans hprune), hjournal',
            howner'.trans howner, hlineage'⟩

end

end Audit

end ApiGateway
