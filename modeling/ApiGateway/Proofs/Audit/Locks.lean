import ApiGateway.Proofs.Audit.Steps

/-! # Locks exclude

A task knows from its stage which locks it holds. `System.Exclusive` says that these are the locks
that have the task for their owner; so no two tasks hold one lock.
-/

set_option autoImplicit false

namespace ApiGateway.Audit

open Journal (partitionName)

/-- An append holds the lock of its partition until it has an answer. -/
def AppendStage.locks : AppendStage → Bool
  | .waiting | .finished _ => false
  | _ => true

/-- The partition that a search has locked. -/
def FindStage.locked : FindStage → Option String
  | .measuring p | .leaving p _ => some p
  | _ => none

/-- The partition that a purge has locked. -/
def PurgeStage.locked : PurgeStage → Option String
  | .opening w | .creating w _ | .copying w _ _ _ _ | .saving w _ _ | .closing w _ _
  | .leaving w _ => some w.partition
  | _ => none

/-- A purge holds the lock of the lineage while it writes its file. -/
def PurgeStage.locksLineage : PurgeStage → Bool
  | .savingLineage _ _ | .closingLineage _ _ | .leavingLineage _ => true
  | _ => false

namespace Task

/-- The partition that a task has locked. -/
def locked : Task → Option String
  | .append r stage => if stage.locks then some (partitionName r.provider) else none
  | .find _ stage => stage.locked
  | .purge _ stage => stage.locked

/-- A task holds the lock of the lineage. -/
def locksLineage : Task → Bool
  | .purge _ stage => stage.locksLineage
  | _ => false

end Task

theorem FindStage.locked_reads (id : RecordId) (file : Handle) (position left : Nat)
    (text : Option String) : (FindStage.reads id file position left text).locked = none := by
  unfold reads
  split
  · rfl
  · split
    · rfl
    · rfl
    · split
      · split <;> rfl
      · rfl

theorem PurgeStage.locked_copies (cutoff : Time.Instant) (w : Rewrite) (file : Handle)
    (position : Nat) (copy : String) (gone : List RecordId) (text : Option String) :
    (PurgeStage.copies cutoff w file position copy gone text).locked = some w.partition := by
  unfold copies
  split
  · rfl
  · dsimp only
    split
    · rfl
    · rfl
    · split
      · rfl
      · split <;> rfl

theorem PurgeStage.locksLineage_copies (cutoff : Time.Instant) (w : Rewrite)
    (file : Handle) (position : Nat) (copy : String) (gone : List RecordId)
    (text : Option String) :
    (PurgeStage.copies cutoff w file position copy gone text).locksLineage = false := by
  unfold copies
  split
  · rfl
  · dsimp only
    split
    · rfl
    · rfl
    · split
      · rfl
      · split <;> rfl

/-- What becomes of one lock in a step of a task, which held it or not. -/
inductive LockMove (me : Nat) : Option Nat → Prop → Option Nat → Prop → Prop where
  | same {owner : Option Nat} {held held' : Prop} (iff : held' ↔ held) :
      LockMove me owner held owner held'
  | taken {held held' : Prop} (free : ¬held) (holds : held') :
      LockMove me none held (some me) held'
  | given {owner : Option Nat} {held held' : Prop} (holds : held) (free : ¬held') :
      LockMove me owner held none held'

namespace LockMove

variable {me : Nat} {owner owner' : Option Nat} {held held' : Prop}

theorem owner_iff (h : LockMove me owner held owner' held') (hheld : owner = some me ↔ held) :
    owner' = some me ↔ held' := by
  cases h with
  | same hiff => exact hheld.trans hiff.symm
  | taken _ hholds => exact iff_of_true rfl hholds
  | given _ hfree => exact iff_of_false nofun hfree

theorem owner_iff_of_ne (h : LockMove me owner held owner' held') (hheld : owner = some me ↔ held)
    {k : Nat} (hk : k ≠ me) : owner' = some k ↔ owner = some k := by
  cases h with
  | same => exact Iff.rfl
  | taken => exact iff_of_false (fun heq => hk (Option.some.inj heq).symm) nofun
  | given hholds =>
      rw [hheld.2 hholds]
      exact iff_of_false nofun fun heq => hk (Option.some.inj heq).symm

end LockMove

namespace Task.Move

variable {me : Nat} {s s' : Shared} {t t' : Task}

theorem lockMove_of_lock {p : String} (hfree : s.owner p = none) (ht : t.locked = none)
    (ht' : t'.locked = some p) (q : String) :
    LockMove me (s.owner q) (t.locked = some q) ((s.lock p me).owner q) (t'.locked = some q) := by
  rw [ht, ht']
  by_cases hq : q = p
  · rw [hq, hfree, Shared.owner_lock_self]
    exact .taken nofun rfl
  · rw [Shared.owner_lock_of_ne s hq]
    exact .same (iff_of_false (fun heq => hq (Option.some.inj heq).symm) nofun)

theorem lockMove_of_unlock {p : String} (ht : t.locked = some p) (ht' : t'.locked = none)
    (q : String) :
    LockMove me (s.owner q) (t.locked = some q) ((s.unlock p).owner q) (t'.locked = some q) := by
  rw [ht, ht']
  by_cases hq : q = p
  · rw [hq, Shared.owner_unlock_self]
    exact .given rfl nofun
  · rw [Shared.owner_unlock_of_ne s hq]
    exact .same (iff_of_false nofun fun heq => hq (Option.some.inj heq).symm)

theorem lockMove_of_same (howner : s'.owner = s.owner) (ht : t'.locked = t.locked) (q : String) :
    LockMove me (s.owner q) (t.locked = some q) (s'.owner q) (t'.locked = some q) := by
  rw [howner, ht]
  exact .same Iff.rfl

/-- A step takes or gives back one lock of a partition at most. -/
theorem lockMove (h : Move me s t s' t') (q : String) :
    LockMove me (s.owner q) (t.locked = some q) (s'.owner q) (t'.locked = some q) := by
  cases h with
  | append h =>
      cases h with
      | lock hfree => exact lockMove_of_lock hfree rfl rfl q
      | leave => exact lockMove_of_unlock rfl rfl q
      | write => exact lockMove_of_same (Shared.owner_write _ _ _) rfl q
      | writeLast => exact lockMove_of_same (Shared.owner_write _ _ _) rfl q
      | _ => exact lockMove_of_same rfl rfl q
  | find h =>
      cases h with
      | lock hfree => exact lockMove_of_lock hfree rfl rfl q
      | leave => exact lockMove_of_unlock rfl rfl q
      | leaveAbsent => exact lockMove_of_unlock rfl rfl q
      | read =>
          refine lockMove_of_same rfl ?_ q
          exact FindStage.locked_reads ..
      | _ => exact lockMove_of_same rfl rfl q
  | purge h =>
      cases h with
      | lock hfree => exact lockMove_of_lock hfree rfl rfl q
      | leave => exact lockMove_of_unlock rfl rfl q
      | fail => exact lockMove_of_unlock rfl rfl q
      | copy =>
          refine lockMove_of_same rfl ?_ q
          exact PurgeStage.locked_copies ..
      | _ => exact lockMove_of_same rfl rfl q

/-- A step takes the lock of the lineage, or gives it back, or does neither. -/
theorem lineageLockMove (h : Move me s t s' t') :
    LockMove me s.lineageOwner t.locksLineage s'.lineageOwner t'.locksLineage := by
  cases h with
  | append h =>
      cases h with
      | write =>
          rw [Shared.lineageOwner_write]
          exact .same Iff.rfl
      | writeLast =>
          rw [Shared.lineageOwner_write]
          exact .same Iff.rfl
      | _ => exact .same Iff.rfl
  | find h => cases h <;> exact .same Iff.rfl
  | purge h =>
      cases h with
      | prune hfree =>
          rw [hfree]
          exact .taken nofun rfl
      | leaveLineage => exact .given rfl nofun
      | copy =>
          refine .same (iff_of_eq (congrArg (· = true) ?_))
          exact PurgeStage.locksLineage_copies ..
      | _ => exact .same Iff.rfl

end Task.Move

namespace System

/-- The owners of the locks are the tasks that hold them. -/
structure Exclusive (s : System) : Prop where
  owner_iff : ∀ p i, s.shared.owner p = some i ↔
    ∃ t, s.tasks[i]? = some t ∧ t.locked = some p
  lineageOwner_iff : ∀ i, s.shared.lineageOwner = some i ↔
    ∃ t, s.tasks[i]? = some t ∧ t.locksLineage

variable {s : System} {i k : Nat} {t t' : Task} {s' : Shared}

theorem locked_task (request : Request) :
    request.task.locked = none ∧ request.task.locksLineage = false := by
  cases request <;> exact ⟨rfl, rfl⟩

theorem exists_request_of_start {j : Journal} {requests : List Request}
    (ht : (start j requests).tasks[i]? = some t) :
    ∃ request, requests[i]? = some request ∧ request.task = t := by
  unfold start at ht
  rw [List.getElem?_map] at ht
  exact Option.map_eq_some_iff.1 ht

theorem exclusive_start (j : Journal) (requests : List Request) :
    (start j requests).Exclusive where
  owner_iff p i := by
    refine iff_of_false nofun ?_
    rintro ⟨t, ht, hlocked⟩
    obtain ⟨request, _, rfl⟩ := exists_request_of_start ht
    rw [(locked_task request).1] at hlocked
    cases hlocked
  lineageOwner_iff i := by
    refine iff_of_false nofun ?_
    rintro ⟨t, ht, hlocked⟩
    obtain ⟨request, _, rfl⟩ := exists_request_of_start ht
    rw [(locked_task request).2] at hlocked
    cases hlocked

/-- A task holds the locks that it owns. -/
theorem Exclusive.owner_iff_locked (h : s.Exclusive) (ht : s.tasks[i]? = some t) (p : String) :
    s.shared.owner p = some i ↔ t.locked = some p := by
  rw [h.owner_iff]
  exact ⟨fun ⟨_, hget, hlocked⟩ => Option.some.inj (ht.symm.trans hget) ▸ hlocked,
    fun hlocked => ⟨t, ht, hlocked⟩⟩

/-- One task was changed, and one lock at most with it. -/
theorem owner_iff_of_lockMove {owner owner' : Option Nat} {held : Task → Prop}
    (ht : s.tasks[i]? = some t) (hmove : LockMove i owner (held t) owner' (held t'))
    (h : ∀ k, owner = some k ↔ ∃ t, s.tasks[k]? = some t ∧ held t) (k : Nat) :
    owner' = some k ↔ ∃ t, (s.tasks.set i t')[k]? = some t ∧ held t := by
  have hheld : owner = some i ↔ held t := by
    rw [h]
    exact ⟨fun ⟨_, hget, hheld⟩ => Option.some.inj (ht.symm.trans hget) ▸ hheld,
      fun hheld => ⟨t, ht, hheld⟩⟩
  by_cases hk : k = i
  · obtain ⟨hlt, _⟩ := List.getElem?_eq_some_iff.1 ht
    rw [hk, hmove.owner_iff hheld, List.getElem?_set_self hlt]
    simp
  · rw [hmove.owner_iff_of_ne hheld hk, h, List.getElem?_set_ne (Ne.symm hk)]

theorem Exclusive.move (h : s.Exclusive) (ht : s.tasks[i]? = some t)
    (hmove : t.Move i s.shared s' t') : Exclusive ⟨s', s.tasks.set i t'⟩ where
  owner_iff p := owner_iff_of_lockMove ht (hmove.lockMove p) (h.owner_iff p)
  lineageOwner_iff := owner_iff_of_lockMove ht hmove.lineageLockMove h.lineageOwner_iff

/-- The lock of a partition is held by one task at most. -/
theorem Exclusive.eq_of_locked (h : s.Exclusive) {u : Task} (ht : s.tasks[i]? = some t)
    (hu : s.tasks[k]? = some u) {p : String} (htp : t.locked = some p) (hup : u.locked = some p) :
    i = k := by
  have hi := (h.owner_iff p i).2 ⟨t, ht, htp⟩
  have hk := (h.owner_iff p k).2 ⟨u, hu, hup⟩
  exact Option.some.inj (hi.symm.trans hk)

/-- In every run no two tasks hold the lock of one partition. -/
theorem exclusive_of_run {j : Journal} {requests : List Request} {steps : List (Nat × Choice)}
    (h : (start j requests).run steps = some s) : s.Exclusive :=
  run_induction (P := Exclusive) (fun _ _ _ _ _ hs ht hmove => hs.move ht hmove)
    (exclusive_start j requests) h

end System

end ApiGateway.Audit
