import ApiGateway.Proofs.Audit.Alone
import ApiGateway.Proofs.Audit.Progress
import ApiGateway.Proofs.Audit.States

/-! # Appends at the same time

An append checks the index, writes its line and enters the record into the index while it holds the
lock of its partition. Of several appends of one identifier to one partition at most one therefore
passes the check (`System.Races.apart`), a line with the identifier is there only once an append has
written it (`System.Races.source`), and the index has the identifier only once an append has entered
it (`System.Races.placed`).
-/

set_option autoImplicit false

namespace ApiGateway.Audit

open Journal (partitionName fileName lineOf lineageName endedLines mentions Lacks IsReadable)

/-! ## Stages of an append -/

namespace AppendStage

/-- The check has not found the identifier in the index. -/
def passed : AppendStage → Bool
  | .opening | .writing _ _ | .enrolling | .leaving (.ok _) | .finished (.ok _) => true
  | _ => false

/-- The line of the record is written. -/
def landed : AppendStage → Bool
  | .enrolling | .leaving (.ok _) | .finished (.ok _) => true
  | _ => false

/-- The record is in the index. -/
def entered : AppendStage → Bool
  | .leaving (.ok _) | .finished (.ok _) => true
  | _ => false

/-- The check has found the identifier in the index, or is still to come. -/
def refusable : AppendStage → Bool
  | .waiting | .checking | .leaving (.error (.duplicate _)) | .finished (.error (.duplicate _)) =>
    true
  | _ => false

/-- An append answers that it has succeeded, or that the index has the identifier. -/
def Answers (id : RecordId) (s : Shared) : AppendStage → Prop
  | .leaving result | .finished result => result = .ok id ∨
      result = .error (.duplicate id) ∧ s.journal.index.lookup id ≠ none
  | _ => True

variable {me : Nat} {r : Record} {s s' : Shared} {stage stage' : AppendStage}

theorem Move.landed (h : stage.Move me r s s' stage') (hlanded : stage.landed = true) :
    stage'.landed = true := by
  cases h with
  | @leave result =>
      cases result with
      | ok id => rfl
      | error e => cases hlanded
  | enroll => rfl
  | _ => cases hlanded

theorem Move.entered (h : stage.Move me r s s' stage') (hentered : stage.entered = true) :
    stage'.entered = true := by
  cases h with
  | @leave result =>
      cases result with
      | ok id => rfl
      | error e => cases hentered
  | _ => cases hentered

theorem Move.passed (h : stage.Move me r s s' stage') (hpassed : stage'.passed = true) :
    stage.passed = true ∨ stage = .checking ∧ s.journal.index.lookup r.id = none := by
  cases h with
  | pass hnew => exact .inr ⟨rfl, hnew⟩
  | @leave result =>
      cases result with
      | ok id => exact .inl rfl
      | error e => cases hpassed
  | create | reopen | write | writeLast | enroll => exact .inl rfl
  | _ => cases hpassed

theorem Move.refusable (h : stage.Move me r s s' stage') (hrefusable : stage.refusable = true)
    (hknown : s.journal.index.lookup r.id ≠ none) : stage'.refusable = true := by
  cases h with
  | lock | refuse => rfl
  | pass hnew => exact absurd hnew hknown
  | @leave result =>
      cases result with
      | ok id => cases hrefusable
      | error e => cases e <;> first | rfl | cases hrefusable
  | _ => cases hrefusable

/-- An identifier comes into the index when an append of it enters it. -/
theorem Move.enrolls {id : RecordId} (h : stage.Move me r s s' stage')
    (hbefore : s.journal.index.lookup id = none) (hafter : s'.journal.index.lookup id ≠ none) :
    r.id = id ∧ stage' = .leaving (.ok r.id) := by
  cases h with
  | enroll =>
      have hafter : ((r.id, partitionName r.provider) :: s.journal.index).lookup id ≠ none := hafter
      rw [List.lookup_cons] at hafter
      split at hafter
      · rename_i heq
        exact ⟨(eq_of_beq heq).symm, rfl⟩
      · exact absurd hbefore hafter
  | write | writeLast =>
      rw [Shared.index_write] at hafter
      exact absurd hbefore hafter
  | _ => exact absurd hbefore hafter

/-- No append fails for a folder where there is none. -/
theorem Move.answers {id : RecordId} (h : stage.Move me r s s' stage')
    (hanswers : stage.Answers id s) (hid : r.id = id)
    (hreadable : IsReadable s.journal.folder (fileName (partitionName r.provider))) :
    stage'.Answers id s' := by
  cases h with
  | refuse hknown =>
      refine .inr ⟨by rw [hid], ?_⟩
      rw [← hid]
      exact Option.isSome_iff_ne_none.1 hknown
  | fail hfolder => exact absurd hfolder (Journal.isReadable_iff.1 hreadable _)
  | enroll => exact .inl (by rw [hid])
  | leave => exact hanswers
  | _ => trivial

theorem Answers.stable {id : RecordId} (h : stage.Answers id s)
    (hindex : s.journal.index.lookup id ≠ none → s'.journal.index.lookup id ≠ none) :
    stage.Answers id s' := by
  cases stage with
  | leaving result | finished result => exact h.imp_right fun h => ⟨h.1, hindex h.2⟩
  | _ => trivial

theorem landed_of_entered (h : stage.entered = true) : stage.landed = true := by
  cases stage with
  | leaving result | finished result =>
      cases result with
      | ok id => rfl
      | error e => cases h
  | _ => cases h

theorem passed_of_landed (h : stage.landed = true) : stage.passed = true := by
  cases stage with
  | enrolling => rfl
  | leaving result | finished result =>
      cases result with
      | ok id => rfl
      | error e => cases h
  | _ => cases h

theorem entered_of_passed (hpassed : stage.passed = true) (hlocks : stage.locks = false) :
    ∃ id, stage = .finished (.ok id) := by
  cases stage with
  | finished result =>
      cases result with
      | ok id => exact ⟨id, rfl⟩
      | error e => cases hpassed
  | waiting => cases hpassed
  | _ => cases hlocks

end AppendStage

/-- The task of an append stays one, and what its steps keep of its stage stays true. -/
theorem exists_stage_of_move {P : AppendStage → Prop} {tasks : List Task} {i k : Nat} {r : Record}
    {stage : AppendStage} {t t' : Task} {s s' : Shared}
    (hP : ∀ stage', stage.Move i r s s' stage' → P stage → P stage')
    (hk : tasks[k]? = some (.append r stage)) (h : P stage) (ht : tasks[i]? = some t)
    (hmove : t.Move i s s' t') :
    ∃ stage', (tasks.set i t')[k]? = some (.append r stage') ∧ P stage' := by
  by_cases hki : i = k
  · rw [← hki, ht] at hk
    cases hk
    cases hmove with
    | @append _ _ stage' _ hmove =>
        obtain ⟨hlt, -⟩ := List.getElem?_eq_some_iff.1 ht
        exact ⟨stage', hki ▸ List.getElem?_set_self hlt, hP stage' hmove h⟩
  · exact ⟨stage, (List.getElem?_set_ne hki).trans hk, h⟩

/-- An append puts no folder in the place of a file. -/
theorem AppendStage.Move.isReadable {me : Nat} {r : Record} {s s' : Shared}
    {stage stage' : AppendStage} (h : stage.Move me r s s' stage') {name : String}
    (hreadable : IsReadable s.journal.folder name) : IsReadable s'.journal.folder name := by
  have hwrite : ∀ file chunk, IsReadable (s.write file chunk).journal.folder name := by
    intro file chunk
    unfold Shared.write
    split
    · split
      · exact hreadable.put _ _
      · exact hreadable
    · exact hreadable
  cases h with
  | create => exact hreadable.put _ _
  | write => exact hwrite _ _
  | writeLast => exact hwrite _ _
  | _ => exact hreadable

namespace Watch

variable {v : Watch} {me : Nat} {r : Record} {s s' : Shared}

/-- If a partition has a line with the identifier after a step of an append, then it had one before,
or this step has written it. -/
theorem HoldsAppend.found_of_move {stage stage' : AppendStage} (h : v.HoldsAppend r s stage)
    (hmove : stage.Move me r s s' stage') (hspares : r.id = v.id → v.Spares (lineOf r)) {q : String}
    (hq : v.guards q) (hfound : v.found (s'.text q) ≠ []) :
    v.found (s.text q) ≠ [] ∨
      stage'.landed = true ∧ r.id = v.id ∧ q = partitionName r.provider := by
  have hother : q ≠ partitionName r.provider → ∀ file chunk,
      file.name = fileName (partitionName r.provider) →
        (s.write file chunk).text q = s.text q := by
    intro hne file chunk hfile
    refine (Shared.same_write (fun heq => hne ?_) chunk).text_eq
    exact Journal.fileName_injective (heq.trans hfile)
  cases hmove with
  | create =>
      by_cases hqp : q = partitionName r.provider
      · rw [hqp, Shared.text_put_self] at hfound
        exact absurd found_empty hfound
      · have hsame := (Shared.same_put (s := s)
          (fun heq => hqp (Journal.fileName_injective heq)) "").text_eq
        rw [hsame] at hfound
        exact .inl hfound
  | write hpart =>
      by_cases hqp : q = partitionName r.provider
      · rw [hqp] at hq hfound ⊢
        rw [((h.2 hq).write hpart).1] at hfound
        exact .inl hfound
      · rw [hother hqp _ _ h.1] at hfound
        exact .inl hfound
  | writeLast =>
      by_cases hqp : q = partitionName r.provider
      · by_cases hid : r.id = v.id
        · exact .inr ⟨rfl, hid, hqp⟩
        · rw [hqp] at hq hfound ⊢
          rw [((h.2 hq).writeLast hspares).1 hid] at hfound
          exact .inl hfound
      · rw [hother hqp _ _ h.1] at hfound
        exact .inl hfound
  | _ => exact .inl hfound

end Watch

/-! ## Appends only -/

namespace System

/-- A record is followed, if nothing but appends are asked for, by its identifier in the partitions
that did not have it before. -/
def racing (folder : Folder) (id : RecordId) : Watch where
  id := id
  guards p := Lacks folder id p
  cutoffs _ := False

theorem spares_racing (folder : Folder) (id : RecordId) (line : String) :
    (racing folder id).Spares line := fun _ h => h.elim

/-- A task appends a record and is at a stage. -/
def AppendAt (s : System) (i : Nat) (r : Record) (stage : AppendStage) : Prop :=
  s.tasks[i]? = some (.append r stage)

/-- What is true at all times of appends of one identifier, while only appends are asked for. -/
structure Races (folder : Folder) (requests : List Request) (id : RecordId) (s : System) :
    Prop where
  invariant : (racing folder id).Invariant s
  requests_eq : s.requests = requests
  readable : ∀ r, .append r ∈ requests → r.id = id →
    IsReadable s.shared.journal.folder (fileName (partitionName r.provider))
  answers : ∀ i r stage, s.AppendAt i r stage → r.id = id → stage.Answers id s.shared
  apart : ∀ i k r r' stage stage', s.AppendAt i r stage → s.AppendAt k r' stage' →
    r.id = id → r'.id = id → partitionName r.provider = partitionName r'.provider →
    stage.passed = true → stage'.passed = true → i = k
  placed : s.shared.journal.index.lookup id ≠ none →
    ∃ i r stage, s.AppendAt i r stage ∧ r.id = id ∧ stage.entered = true
  source : ∀ p, Lacks folder id p →
    (endedLines (s.shared.text p)).filter (mentions id) ≠ [] →
      ∃ i r stage, s.AppendAt i r stage ∧ r.id = id ∧ partitionName r.provider = p ∧
        stage.landed = true

variable {folder : Folder} {requests : List Request} {id : RecordId} {s : System} {i k : Nat}
  {r r' : Record} {stage stage' : AppendStage} {s' : Shared}

/-- While an append has the lock of its partition, no other one there has passed the check unless it
has entered its record. -/
theorem Races.eq_of_locks (h : Races folder requests id s) (hi : s.AppendAt i r stage)
    (hk : s.AppendAt k r' stage') (hid' : r'.id = id)
    (hp : partitionName r.provider = partitionName r'.provider) (hlocks : stage.locks = true)
    (hpassed : stage'.passed = true) (hnew : s.shared.journal.index.lookup id = none) :
    i = k := by
  cases hlocks' : stage'.locks with
  | true =>
      refine h.invariant.exclusive.eq_of_locked hi hk (p := partitionName r.provider) ?_ ?_
      · exact if_pos hlocks
      · rw [hp]
        exact if_pos hlocks'
  | false =>
      -- then it has finished, and the index would have the identifier
      obtain ⟨answer, rfl⟩ := AppendStage.entered_of_passed hpassed hlocks'
      exact absurd hnew (h.invariant.holds k _ hk answer rfl hid').indexed

theorem Races.eq_of_move (h : Races folder requests id s) {before after : AppendStage}
    (hi : s.AppendAt i r before) (hmove : before.Move i r s.shared s' after)
    (hk : s.AppendAt k r' stage') (hid : r.id = id) (hid' : r'.id = id)
    (hp : partitionName r.provider = partitionName r'.provider) (hpassed : after.passed = true)
    (hpassed' : stage'.passed = true) : i = k := by
  rcases hmove.passed hpassed with hbefore | ⟨rfl, hnew⟩
  · exact h.apart i k r r' before stage' hi hk hid hid' hp hbefore hpassed'
  · exact h.eq_of_locks hi hk hid' hp rfl hpassed' (hid ▸ hnew)

/-- After a step of an append, another task is where it was, and this one at its next stage. -/
theorem appendAt_set {tasks : List Task} {m : Nat} {y : Record} {before after : AppendStage}
    (hm : tasks[m]? = some (.append y before))
    (h : AppendAt ⟨s', tasks.set m (.append y after)⟩ i r stage) :
    i = m ∧ r = y ∧ stage = after ∨ i ≠ m ∧ tasks[i]? = some (.append r stage) := by
  unfold AppendAt at h
  by_cases him : i = m
  · obtain ⟨hlt, -⟩ := List.getElem?_eq_some_iff.1 hm
    rw [him, List.getElem?_set_self hlt] at h
    cases h
    exact .inl ⟨him, rfl, rfl⟩
  · rw [List.getElem?_set_ne (Ne.symm him)] at h
    exact .inr ⟨him, h⟩

theorem Races.move {t t' : Task} {m : Nat} (h : Races folder requests id s)
    (happends : ∀ q ∈ requests, ∃ r, q = .append r) (ht : s.tasks[m]? = some t)
    (hmove : t.Move m s.shared s' t') : Races folder requests id ⟨s', s.tasks.set m t'⟩ := by
  obtain ⟨hg, hinvariant⟩ := h.invariant.move ht hmove
  have hrequest : t.request ∈ requests := by
    have hget := getElem?_requests ht
    rw [h.requests_eq] at hget
    exact List.mem_of_getElem? hget
  obtain ⟨x, hx⟩ := happends _ hrequest
  cases hmove with
  | find hmove => cases hx
  | purge hmove => cases hx
  | @append y before after _ hstage =>
      cases hx
      have hmove := Task.Move.append hstage
      refine ⟨hinvariant, (requests_move ht hmove).trans h.requests_eq, ?_, ?_, ?_, ?_, ?_⟩
      · exact fun r hr hid => hstage.isReadable (h.readable r hr hid)
      · intro i r stage hi hid
        rcases appendAt_set ht hi with ⟨rfl, rfl, rfl⟩ | ⟨-, hi⟩
        · exact hstage.answers (h.answers i r before ht hid) hid (h.readable r hrequest hid)
        · exact (h.answers i r stage hi hid).stable hg.indexed
      · intro i k r r' stage stage' hi hk hid hid' hp hpassed hpassed'
        rcases appendAt_set ht hi with ⟨rfl, rfl, rfl⟩ | ⟨-, hi'⟩
        · rcases appendAt_set ht hk with ⟨rfl, -, -⟩ | ⟨-, hk'⟩
          · rfl
          · exact h.eq_of_move ht hstage hk' hid hid' hp hpassed hpassed'
        · rcases appendAt_set ht hk with ⟨rfl, rfl, rfl⟩ | ⟨-, hk'⟩
          · exact (h.eq_of_move ht hstage hi' hid' hid hp.symm hpassed' hpassed).symm
          · exact h.apart i k r r' stage stage' hi' hk' hid hid' hp hpassed hpassed'
      · intro hknown
        by_cases hbefore : s.shared.journal.index.lookup id = none
        · -- the identifier has come into the index with this step
          obtain ⟨hid, rfl⟩ := hstage.enrolls hbefore hknown
          obtain ⟨hlt, -⟩ := List.getElem?_eq_some_iff.1 ht
          exact ⟨m, x, _, List.getElem?_set_self hlt, hid, rfl⟩
        · obtain ⟨i, r, stage, hi, hid, hentered⟩ := h.placed hbefore
          obtain ⟨stage', hi', hentered'⟩ := exists_stage_of_move
            (P := fun stage => stage.entered = true) (fun _ => AppendStage.Move.entered) hi
            hentered ht hmove
          exact ⟨i, r, stage', hi', hid, hentered'⟩
      · intro p hp hfound
        rcases (h.invariant.holds m _ ht).found_of_move hstage
          (fun _ => spares_racing folder id _) hp hfound with hbefore | ⟨hlanded, hid, rfl⟩
        · obtain ⟨i, r, stage, hi, hid, hpart, hlanded⟩ := h.source p hp hbefore
          obtain ⟨stage', hi', hlanded'⟩ := exists_stage_of_move
            (P := fun stage => stage.landed = true) (fun _ => AppendStage.Move.landed) hi
            hlanded ht hmove
          exact ⟨i, r, stage', hi', hid, hpart, hlanded'⟩
        · obtain ⟨hlt, -⟩ := List.getElem?_eq_some_iff.1 ht
          exact ⟨m, x, _, List.getElem?_set_self hlt, hid, rfl, hlanded⟩

end System

end ApiGateway.Audit
