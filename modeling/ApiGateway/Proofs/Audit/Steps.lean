import ApiGateway.Audit.Interleaving
import ApiGateway.Proofs.Keyed

/-! # What a step does

`Task.Move` lists what a step of a task can be, with what it needs and what it leaves. What is said
of all runs follows from it by `System.run_induction`.
-/

set_option autoImplicit false

namespace ApiGateway.Audit

open Journal (partitionName fileName draftName lineOf lineageName lineageText expired?)

/-! ## Locks and the index -/

namespace Shared

variable (s : Shared)

/-- Writing to a file changes files only. -/
theorem write_frame (file : Handle) (chunk : List Char) :
    (s.write file chunk).owner = s.owner ∧
      (s.write file chunk).lineageOwner = s.lineageOwner ∧
      (s.write file chunk).journal.index = s.journal.index := by
  unfold write
  split
  · split <;> exact ⟨rfl, rfl, rfl⟩
  · exact ⟨rfl, rfl, rfl⟩

@[simp] theorem owner_write (file : Handle) (chunk : List Char) :
    (s.write file chunk).owner = s.owner := (s.write_frame file chunk).1

@[simp] theorem lineageOwner_write (file : Handle) (chunk : List Char) :
    (s.write file chunk).lineageOwner = s.lineageOwner := (s.write_frame file chunk).2.1

@[simp] theorem index_write (file : Handle) (chunk : List Char) :
    (s.write file chunk).journal.index = s.journal.index := (s.write_frame file chunk).2.2

theorem lookup_index_forget (removed : List RecordId) (id : RecordId) :
    (s.forget removed).journal.index.lookup id =
      if removed.contains id then none else s.journal.index.lookup id := by
  refine (lookup_filter_fst (fun id => !removed.contains id) s.journal.index id).trans ?_
  cases removed.contains id <;> rfl

@[simp] theorem journal_lock (p : String) (me : Nat) : (s.lock p me).journal = s.journal := rfl

theorem owner_lock_self (p : String) (me : Nat) : (s.lock p me).owner p = some me := if_pos rfl

theorem owner_lock_of_ne {p q : String} (h : q ≠ p) (me : Nat) :
    (s.lock p me).owner q = s.owner q := if_neg h

theorem owner_unlock_self (p : String) : (s.unlock p).owner p = none := if_pos rfl

theorem owner_unlock_of_ne {p q : String} (h : q ≠ p) : (s.unlock p).owner q = s.owner q :=
  if_neg h

end Shared

/-! ## Steps of an append -/

/-- What a step of an append does. -/
inductive AppendStage.Move (me : Nat) (r : Record) (s : Shared) :
    AppendStage → Shared → AppendStage → Prop where
  | lock (free : s.owner (partitionName r.provider) = none) :
      Move me r s .waiting (s.lock (partitionName r.provider) me) .checking
  | refuse (known : (s.journal.index.lookup r.id).isSome) :
      Move me r s .checking s (.leaving (.error (.duplicate r.id)))
  | pass (new : s.journal.index.lookup r.id = none) : Move me r s .checking s .opening
  | create (absent : s.entryAt (fileName (partitionName r.provider)) = none) :
      Move me r s .opening (s.put (fileName (partitionName r.provider)) "")
        (.writing (s.handle (fileName (partitionName r.provider))) (lineOf r ++ "\n").toList)
  | reopen {text : String}
      (present : s.entryAt (fileName (partitionName r.provider)) = some (.file text)) :
      Move me r s .opening s
        (.writing (s.handle (fileName (partitionName r.provider))) (lineOf r ++ "\n").toList)
  | fail {entries : Folder}
      (folder : s.entryAt (fileName (partitionName r.provider)) = some (.folder entries)) :
      Move me r s .opening s (.leaving (.error .io))
  | write {file : Handle} {rest : List Char} {n : Nat} (part : n < rest.length) (some : 0 < n) :
      Move me r s (.writing file rest) (s.write file (rest.take n)) (.writing file (rest.drop n))
  | writeLast {file : Handle} {rest : List Char} :
      Move me r s (.writing file rest) (s.write file rest) .enrolling
  | enroll :
      Move me r s .enrolling
        (s.setIndex ((r.id, partitionName r.provider) :: s.journal.index)) (.leaving (.ok r.id))
  | leave {result : Except StoreError RecordId} :
      Move me r s (.leaving result) (s.unlock (partitionName r.provider)) (.finished result)

theorem AppendStage.move_of_step {me count : Nat} {r : Record} {s s' : Shared}
    {stage stage' : AppendStage} (h : stage.step me count r s = some (s', stage')) :
    Move me r s stage s' stage' := by
  cases stage with
  | waiting =>
      simp only [step] at h
      split at h
      · rename_i hfree
        cases h
        exact .lock (Option.isNone_iff_eq_none.1 hfree)
      · cases h
  | checking =>
      simp only [step] at h
      split at h
      · rename_i hknown
        cases h
        exact .refuse hknown
      · rename_i hnew
        cases h
        exact .pass (Option.not_isSome_iff_eq_none.1 hnew)
  | opening =>
      simp only [step] at h
      split at h
      · rename_i habsent
        cases h
        exact .create habsent
      · rename_i text hpresent
        cases h
        exact .reopen hpresent
      · rename_i entries hfolder
        cases h
        exact .fail hfolder
  | writing file rest =>
      simp only [step] at h
      split at h
      · rename_i hlast
        cases h
        rw [List.take_of_length_le hlast]
        exact .writeLast
      · rename_i hmore
        cases h
        exact .write (Nat.lt_of_not_le hmore) (Nat.succ_pos count)
  | enrolling =>
      cases h
      exact .enroll
  | leaving result =>
      cases h
      exact .leave
  | finished result => cases h

/-! ## Steps of a search -/

/-- What a step of a search does. -/
inductive FindStage.Move (me : Nat) (id : RecordId) (s : Shared) :
    FindStage → Shared → FindStage → Prop where
  | miss (unknown : s.journal.index.lookup id = none) :
      Move me id s .looking s (.finished (.error (.notFound id)))
  | hit {p : String} (known : s.journal.index.lookup id = some p) :
      Move me id s .looking s (.waiting p)
  | lock {p : String} (free : s.owner p = none) :
      Move me id s (.waiting p) (s.lock p me) (.measuring p)
  | measure {p : String} :
      Move me id s (.measuring p) s (.leaving p (s.length? (fileName p)))
  | leaveAbsent {p : String} :
      Move me id s (.leaving p none) (s.unlock p) (.finished (.error (.notFound id)))
  | leave {p : String} {length : Nat} :
      Move me id s (.leaving p (some length)) (s.unlock p) (.opening p length)
  | fail {p : String} {length : Nat} (absent : s.entryAt (fileName p) = none) :
      Move me id s (.opening p length) s (.finished (.error .io))
  | «open» {p : String} {length : Nat} {entry : Entry}
      (present : s.entryAt (fileName p) = some entry) :
      Move me id s (.opening p length) s (.reading (s.handle (fileName p)) 0 length)
  | read {file : Handle} {position left : Nat} :
      Move me id s (.reading file position left) s (reads id file position left (s.text? file))
  | attach {r : Record} (free : s.lineageOwner = none) :
      Move me id s (.attaching r) s (.finished (.ok (s.journal.withReplays r)))

theorem FindStage.move_of_step {me : Nat} {id : RecordId} {s s' : Shared}
    {stage stage' : FindStage} (h : stage.step me id s = some (s', stage')) :
    Move me id s stage s' stage' := by
  cases stage with
  | looking =>
      simp only [step] at h
      split at h
      · rename_i hunknown
        cases h
        exact .miss hunknown
      · rename_i p hknown
        cases h
        exact .hit hknown
  | waiting p =>
      simp only [step] at h
      split at h
      · rename_i hfree
        cases h
        exact .lock (Option.isNone_iff_eq_none.1 hfree)
      · cases h
  | measuring p =>
      cases h
      exact .measure
  | leaving p length =>
      cases length with
      | none =>
          cases h
          exact .leaveAbsent
      | some length =>
          cases h
          exact .leave
  | opening p length =>
      simp only [step] at h
      split at h
      · rename_i habsent
        cases h
        exact .fail habsent
      · rename_i entry hpresent
        cases h
        exact .open hpresent
  | reading file position left =>
      cases h
      exact .read
  | attaching r =>
      simp only [step] at h
      split at h
      · rename_i hfree
        cases h
        exact .attach (Option.isNone_iff_eq_none.1 hfree)
      · cases h
  | finished result => cases h

/-! ## Steps of a purge -/

/-- What a step of a purge does. -/
inductive PurgeStage.Move (me : Nat) (cutoff : Time.Instant) (s : Shared) :
    PurgeStage → Shared → PurgeStage → Prop where
  | list {listed : List String} (found : ∀ p ∈ listed, s.lists p) :
      Move me cutoff s .listing s (.waiting [] listed)
  | done {removed : List RecordId} :
      Move me cutoff s (.waiting removed []) s (.forgetting removed)
  | lock {removed : List RecordId} {p : String} {todo : List String} (free : s.owner p = none) :
      Move me cutoff s (.waiting removed (p :: todo)) (s.lock p me) (.opening ⟨removed, p, todo⟩)
  | absent {w : Rewrite} (absent : s.entryAt (fileName w.partition) = none) :
      Move me cutoff s (.opening w) s (.leaving w (.ok []))
  | «open» {w : Rewrite} {entry : Entry} (present : s.entryAt (fileName w.partition) = some entry) :
      Move me cutoff s (.opening w) s (.creating w (s.handle (fileName w.partition)))
  | draftFails {w : Rewrite} {file : Handle} :
      Move me cutoff s (.creating w file) s (.leaving w (.error .io))
  | create {w : Rewrite} {file : Handle} :
      Move me cutoff s (.creating w file) (s.put (draftName (fileName w.partition)) "")
        (.copying w file 0 "" [])
  | copy {w : Rewrite} {file : Handle} {position : Nat} {copy : String} {gone : List RecordId} :
      Move me cutoff s (.copying w file position copy gone) s
        (copies cutoff w file position copy gone (s.text? file))
  | save {w : Rewrite} {copy : String} {gone : List RecordId} :
      Move me cutoff s (.saving w copy gone) (s.put (draftName (fileName w.partition)) copy)
        (.closing w copy gone)
  | keep {w : Rewrite} {copy : String} :
      Move me cutoff s (.closing w copy []) (s.remove (draftName (fileName w.partition)))
        (.leaving w (.ok []))
  | replace {w : Rewrite} {copy : String} {gone : List RecordId} (some : gone ≠ []) :
      Move me cutoff s (.closing w copy gone)
        (s.replace (fileName w.partition) (draftName (fileName w.partition)) copy)
        (.leaving w (.ok gone))
  | fail {w : Rewrite} {e : StoreError} :
      Move me cutoff s (.leaving w (.error e)) (s.unlock w.partition) (.finished (.error e))
  | leave {w : Rewrite} {gone : List RecordId} :
      Move me cutoff s (.leaving w (.ok gone)) (s.unlock w.partition)
        (.waiting (w.removed ++ gone) w.todo)
  | forget {removed : List RecordId} :
      Move me cutoff s (.forgetting removed) (s.forget removed) (.pruning removed)
  | spare {removed : List RecordId} (free : s.lineageOwner = none) :
      Move me cutoff s (.pruning removed) s (.finished (.ok removed.length))
  | prune {removed : List RecordId} {kept : List (RecordId × List RecordId)}
      (free : s.lineageOwner = none) :
      Move me cutoff s (.pruning removed) (s.pruneLineage kept me)
        (.savingLineage removed.length (lineageText kept))
  | lineageFails {count : Nat} {text : String} :
      Move me cutoff s (.savingLineage count text) s (.leavingLineage (.error .io))
  | saveLineage {count : Nat} {text : String} :
      Move me cutoff s (.savingLineage count text) (s.put (draftName lineageName) text)
        (.closingLineage count text)
  | replaceFails {count : Nat} {text : String} :
      Move me cutoff s (.closingLineage count text) s (.leavingLineage (.error .io))
  | replaceLineage {count : Nat} {text : String} :
      Move me cutoff s (.closingLineage count text)
        (s.replace lineageName (draftName lineageName) text) (.leavingLineage (.ok count))
  | leaveLineage {result : Except StoreError Nat} :
      Move me cutoff s (.leavingLineage result) s.unlockLineage (.finished result)

theorem PurgeStage.move_of_step {me : Nat} {listed : List String} {cutoff : Time.Instant}
    {s s' : Shared} {stage stage' : PurgeStage}
    (h : stage.step me listed cutoff s = some (s', stage')) : Move me cutoff s stage s' stage' := by
  cases stage with
  | listing =>
      simp only [step] at h
      split at h
      · rename_i hfound
        cases h
        exact .list (List.all_eq_true.1 hfound)
      · cases h
  | waiting removed todo =>
      cases todo with
      | nil =>
          cases h
          exact .done
      | cons p todo =>
          simp only [step] at h
          split at h
          · rename_i hfree
            cases h
            exact .lock (Option.isNone_iff_eq_none.1 hfree)
          · cases h
  | opening w =>
      simp only [step] at h
      split at h
      · rename_i habsent
        cases h
        exact .absent habsent
      · rename_i entry hpresent
        cases h
        exact .open hpresent
  | creating w file =>
      simp only [step] at h
      split at h
      · cases h
        exact .draftFails
      · cases h
        exact .create
  | copying w file position copy gone =>
      cases h
      exact .copy
  | saving w copy gone =>
      cases h
      exact .save
  | closing w copy gone =>
      simp only [step] at h
      split at h
      · rename_i hnone
        cases h
        rw [List.isEmpty_iff.1 hnone]
        exact .keep
      · rename_i hsome
        cases h
        exact .replace (mt List.isEmpty_iff.2 hsome)
  | leaving w gone =>
      cases gone with
      | error e =>
          cases h
          exact .fail
      | ok gone =>
          cases h
          exact .leave
  | forgetting removed =>
      cases h
      exact .forget
  | pruning removed =>
      simp only [step] at h
      split at h
      · rename_i hfree
        have hfree := Option.isNone_iff_eq_none.1 hfree
        split at h
        · cases h
          exact .spare hfree
        · cases h
          exact .prune hfree
      · cases h
  | savingLineage count text =>
      simp only [step] at h
      split at h
      · cases h
        exact .lineageFails
      · cases h
        exact .saveLineage
  | closingLineage count text =>
      simp only [step] at h
      split at h
      · cases h
        exact .replaceFails
      · cases h
        exact .replaceLineage
  | leavingLineage result =>
      cases h
      exact .leaveLineage
  | finished result => cases h

/-! ## Steps of a task -/

/-- What a step of a task does. -/
inductive Task.Move (me : Nat) (s : Shared) : Task → Shared → Task → Prop where
  | append {r : Record} {stage stage' : AppendStage} {s' : Shared}
      (move : stage.Move me r s s' stage') : Move me s (.append r stage) s' (.append r stage')
  | find {id : RecordId} {stage stage' : FindStage} {s' : Shared}
      (move : stage.Move me id s s' stage') : Move me s (.find id stage) s' (.find id stage')
  | purge {cutoff : Time.Instant} {stage stage' : PurgeStage} {s' : Shared}
      (move : stage.Move me cutoff s s' stage') :
      Move me s (.purge cutoff stage) s' (.purge cutoff stage')

theorem Task.move_of_step {me : Nat} {c : Choice} {s s' : Shared} {t t' : Task}
    (h : t.step me c s = some (s', t')) : Move me s t s' t' := by
  cases t with
  | append r stage =>
      obtain ⟨⟨shared, stage'⟩, hstep, heq⟩ := Option.map_eq_some_iff.1 h
      cases heq
      exact .append (AppendStage.move_of_step hstep)
  | find id stage =>
      obtain ⟨⟨shared, stage'⟩, hstep, heq⟩ := Option.map_eq_some_iff.1 h
      cases heq
      exact .find (FindStage.move_of_step hstep)
  | purge cutoff stage =>
      obtain ⟨⟨shared, stage'⟩, hstep, heq⟩ := Option.map_eq_some_iff.1 h
      cases heq
      exact .purge (PurgeStage.move_of_step hstep)

/-- The request that a task is about. -/
def Task.request : Task → Request
  | .append r _ => .append r
  | .find id _ => .find id
  | .purge cutoff _ => .purgeBefore cutoff

theorem Task.Move.request_eq {me : Nat} {s s' : Shared} {t t' : Task} (h : t.Move me s s' t') :
    t'.request = t.request := by
  cases h <;> rfl

/-- A step of a system is a step of one of its tasks. -/
theorem System.exists_move_of_step {s s' : System} {i : Nat} {c : Choice}
    (h : s.step i c = some s') : ∃ t t', s.tasks[i]? = some t ∧
      t.Move i s.shared s'.shared t' ∧ s'.tasks = s.tasks.set i t' := by
  obtain ⟨t, ht, h⟩ := Option.bind_eq_some_iff.1 h
  obtain ⟨⟨shared, t'⟩, hstep, h⟩ := Option.bind_eq_some_iff.1 h
  cases h
  exact ⟨t, t', ht, Task.move_of_step hstep, rfl⟩

theorem System.run_append (s : System) (steps later : List (Nat × Choice)) :
    s.run (steps ++ later) = (s.run steps).bind fun s' => s'.run later := by
  induction steps generalizing s with
  | nil => rfl
  | cons step steps ih =>
      obtain ⟨i, c⟩ := step
      rw [List.cons_append, run, run, Option.bind_assoc]
      exact congrArg (s.step i c).bind (funext ih)

/-- A run that goes on from where another one has come to. -/
theorem System.exists_run_trans {s s₁ s' : System} (h : ∃ steps, s.run steps = some s₁)
    (h' : ∃ steps, s₁.run steps = some s') : ∃ steps, s.run steps = some s' := by
  obtain ⟨steps, hrun⟩ := h
  obtain ⟨later, hlater⟩ := h'
  refine ⟨steps ++ later, ?_⟩
  rw [run_append, hrun, Option.bind_some, hlater]

/-- What holds at the start and is kept by each step holds after every run. -/
theorem System.run_induction {P : System → Prop}
    (hstep : ∀ s i t t' s', P s → s.tasks[i]? = some t → t.Move i s.shared s' t' →
      P ⟨s', s.tasks.set i t'⟩) {s s' : System} (h : P s) {steps : List (Nat × Choice)}
    (hrun : s.run steps = some s') : P s' := by
  induction steps generalizing s with
  | nil =>
      cases hrun
      exact h
  | cons step steps ih =>
      obtain ⟨i, c⟩ := step
      obtain ⟨next, hnext, hrun⟩ := Option.bind_eq_some_iff.1 hrun
      obtain ⟨t, t', ht, hmove, htasks⟩ := System.exists_move_of_step hnext
      have hnext := hstep s i t t' next.shared h ht hmove
      rw [← htasks] at hnext
      exact ih hnext hrun

/-! ## Requests -/

/-- What the tasks of a system are about. -/
def System.requests (s : System) : List Request := s.tasks.map Task.request

theorem System.requests_start (j : Journal) (requests : List Request) :
    (start j requests).requests = requests := by
  have hrequest : Task.request ∘ Request.task = fun q : Request => q :=
    funext fun q => by cases q <;> rfl
  unfold System.requests start
  rw [List.map_map, hrequest, List.map_id']

theorem System.requests_move {s : System} {i : Nat} {t t' : Task} {s' : Shared}
    (ht : s.tasks[i]? = some t) (hmove : t.Move i s.shared s' t') :
    System.requests ⟨s', s.tasks.set i t'⟩ = s.requests := by
  have hget : (s.tasks.map Task.request)[i]? = some t.request := by
    rw [List.getElem?_map, ht]
    rfl
  obtain ⟨hlt, hget⟩ := List.getElem?_eq_some_iff.1 hget
  unfold System.requests
  rw [List.map_set, hmove.request_eq, ← hget, List.set_getElem_self]

theorem System.getElem?_requests {s : System} {i : Nat} {t : Task} (ht : s.tasks[i]? = some t) :
    s.requests[i]? = some t.request := by
  unfold System.requests
  rw [List.getElem?_map, ht]
  rfl

end ApiGateway.Audit
