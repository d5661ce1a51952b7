import ApiGateway.Proofs.Audit.Interference
import Mathlib.Data.Prod.Lex
import Mathlib.Logic.Hydra

/-! # All requests are answered

Each task has a rank that its own steps lower and no step of another task changes: as long as a task
reads a file to its end, it holds the lock of the file. So no run goes on for ever
(`Watch.Invariant.acc`). Nor does one get stuck: who waits, waits for a lock, and who holds a lock
waits for nothing (`Watch.Invariant.exists_next`). From every state that is reached all requests
can therefore be answered (`Watch.Invariant.settles`).
-/

set_option autoImplicit false

namespace ApiGateway.Audit

open Journal (partitionName fileName)

/-! ## The rank of a task -/

/-- What is still to be done: whether the partitions are still to be listed, the stages to come, and
what is left to read or to write at this stage. -/
abbrev Rank := ℕ ×ₗ ℕ ×ₗ ℕ

namespace Rank

/-- At a stage, with so much left. -/
def ofStage (stage left : ℕ) : Rank := toLex (0, toLex (stage, left))

/-- Before anything is known. -/
def start : Rank := toLex (1, toLex (0, 0))

theorem ofStage_lt_start (stage left : ℕ) : Rank.ofStage stage left < start :=
  Prod.Lex.toLex_lt_toLex.2 (.inl Nat.zero_lt_one)

theorem ofStage_lt_of_stage {m n : ℕ} (h : m < n) (left left' : ℕ) :
    Rank.ofStage m left' < Rank.ofStage n left :=
  Prod.Lex.toLex_lt_toLex.2 (.inr ⟨rfl, Prod.Lex.toLex_lt_toLex.2 (.inl h)⟩)

theorem ofStage_lt_of_left (stage : ℕ) {left left' : ℕ} (h : left' < left) :
    Rank.ofStage stage left' < Rank.ofStage stage left :=
  Prod.Lex.toLex_lt_toLex.2 (.inr ⟨rfl, Prod.Lex.toLex_lt_toLex.2 (.inr ⟨rfl, h⟩)⟩)

end Rank

def AppendStage.rank : AppendStage → Rank
  | .waiting => .ofStage 6 0
  | .checking => .ofStage 5 0
  | .opening => .ofStage 4 0
  | .writing _ rest => .ofStage 3 rest.length
  | .enrolling => .ofStage 2 0
  | .leaving _ => .ofStage 1 0
  | .finished _ => .ofStage 0 0

def FindStage.rank : FindStage → Rank
  | .looking => .ofStage 7 0
  | .waiting _ => .ofStage 6 0
  | .measuring _ => .ofStage 5 0
  | .leaving _ _ => .ofStage 4 0
  | .opening _ _ => .ofStage 3 0
  | .reading _ _ left => .ofStage 2 left
  | .attaching _ => .ofStage 1 0
  | .finished _ => .ofStage 0 0

/-- How much there is behind a place in an open file. -/
def Shared.behind (s : Shared) (file : Handle) (position : ℕ) : ℕ :=
  ((s.text? file).getD "").toList.length - position

/-- Each partition that is to come has seven stages. -/
def PurgeStage.rank (s : Shared) : PurgeStage → Rank
  | .listing => .start
  | .waiting _ todo => .ofStage (6 + 7 * todo.length) 0
  | .opening w => .ofStage (12 + 7 * w.todo.length) 0
  | .creating w _ => .ofStage (11 + 7 * w.todo.length) 0
  | .copying w file position _ _ => .ofStage (10 + 7 * w.todo.length) (s.behind file position)
  | .saving w _ _ => .ofStage (9 + 7 * w.todo.length) 0
  | .closing w _ _ => .ofStage (8 + 7 * w.todo.length) 0
  | .leaving w _ => .ofStage (7 + 7 * w.todo.length) 0
  | .forgetting _ => .ofStage 5 0
  | .pruning _ => .ofStage 4 0
  | .savingLineage _ _ => .ofStage 3 0
  | .closingLineage _ _ => .ofStage 2 0
  | .leavingLineage _ => .ofStage 1 0
  | .finished _ => .ofStage 0 0

def Task.rank (s : Shared) : Task → Rank
  | .append _ stage => stage.rank
  | .find _ stage => stage.rank
  | .purge _ stage => stage.rank s

/-! ## Steps lower the rank -/

/-- A reader that takes a line takes something. -/
theorem left_lt_of_readLine {left : ℕ} {done cs : List Char} {line : String} {taken rest : ℕ}
    (h : readLine left done cs = .line line taken rest) :
    rest ≤ left ∧ (done = [] → rest < left) := by
  induction cs generalizing left done with
  | nil =>
      rw [readLine] at h
      split at h
      · cases h
      · rename_i hdone
        cases h
        exact ⟨Nat.le_refl _, fun hnil => absurd (List.isEmpty_iff.2 hnil) hdone⟩
  | cons c cs ih =>
      have hsize := c.utf8Size_pos
      rw [readLine] at h
      split at h
      · split at h
        · cases h
        · split at h
          · cases h
          · rename_i hdone
            cases h
            exact ⟨Nat.le_refl _, fun hnil => absurd (List.isEmpty_iff.2 hnil) hdone⟩
      · split at h
        · cases h
          omega
        · have hrest := (ih h).1
          omega

theorem FindStage.rank_reads_lt (id : RecordId) (file : Handle) (position left : ℕ)
    (text : Option String) :
    (FindStage.reads id file position left text).rank <
      (FindStage.reading file position left).rank := by
  have hlow : ∀ stage < 2, Rank.ofStage stage 0 < Rank.ofStage 2 left :=
    fun stage h => Rank.ofStage_lt_of_stage h _ _
  unfold reads
  split
  · exact hlow 0 (by decide)
  · rename_i text
    cases hread : readLine left [] (text.toList.drop position) with
    | ended => exact hlow 0 (by decide)
    | cut => exact hlow 0 (by decide)
    | line line taken rest =>
        dsimp only
        split
        · split
          · exact hlow 0 (by decide)
          · exact hlow 1 (by decide)
        · exact Rank.ofStage_lt_of_left 2 ((left_lt_of_readLine hread).2 rfl)

theorem PurgeStage.rank_copies_lt (s : Shared) (cutoff : Time.Instant) (w : Rewrite)
    (file : Handle) (position : ℕ) (copy : String) (gone : List RecordId) :
    (PurgeStage.copies cutoff w file position copy gone (s.text? file)).rank s <
      (PurgeStage.copying w file position copy gone).rank s := by
  have hlow : ∀ n < 10, Rank.ofStage (n + 7 * w.todo.length) 0 <
      Rank.ofStage (10 + 7 * w.todo.length) (s.behind file position) :=
    fun n h => Rank.ofStage_lt_of_stage (by omega) _ _
  unfold copies
  split
  · exact hlow 7 (by decide)
  · rename_i text htext
    dsimp only
    cases hread : readLine (Text.byteLength (text.toList.drop position)) []
        (text.toList.drop position) with
    | ended => exact hlow 9 (by decide)
    | cut => exact hlow 7 (by decide)
    | line line taken left =>
        have hnext : Rank.ofStage (10 + 7 * w.todo.length) (s.behind file (position + taken)) <
            Rank.ofStage (10 + 7 * w.todo.length) (s.behind file position) := by
          refine Rank.ofStage_lt_of_left _ ?_
          unfold Shared.behind
          rw [htext, Option.getD_some]
          rcases Journal.readLine_eq (text.toList.drop position) with
            ⟨-, hended⟩ | ⟨_, _, hless, hline, -⟩
          · rw [hread] at hended
            cases hended
          · rw [hread] at hline
            cases hline
            rw [List.drop_drop, List.length_drop, List.length_drop] at hless
            exact hless
        dsimp only
        split
        · exact hnext
        · split <;> exact hnext

section

variable {me : Nat} {s s' : Shared}

theorem AppendStage.Move.rank_lt {r : Record} {stage stage' : AppendStage}
    (h : stage.Move me r s s' stage') : stage'.rank < stage.rank := by
  cases h with
  | write hpart hpos =>
      refine Rank.ofStage_lt_of_left 3 ?_
      rw [List.length_drop]
      omega
  | _ => exact Rank.ofStage_lt_of_stage (by decide) _ _

theorem FindStage.Move.rank_lt {id : RecordId} {stage stage' : FindStage}
    (h : stage.Move me id s s' stage') : stage'.rank < stage.rank := by
  cases h with
  | read => exact rank_reads_lt ..
  | _ => exact Rank.ofStage_lt_of_stage (by decide) _ _

theorem PurgeStage.Move.rank_lt {cutoff : Time.Instant} {stage stage' : PurgeStage}
    (h : stage.Move me cutoff s s' stage') : stage'.rank s' < stage.rank s := by
  cases h with
  | list => exact Rank.ofStage_lt_start _ _
  | copy => exact rank_copies_lt ..
  | @lock removed p todo =>
      refine Rank.ofStage_lt_of_stage (m := 12 + 7 * todo.length) ?_ _ _
      rw [List.length_cons]
      omega
  | _ => exact Rank.ofStage_lt_of_stage (by omega) _ _

theorem Task.Move.rank_lt {t t' : Task} (h : t.Move me s s' t') : t'.rank s' < t.rank s := by
  cases h with
  | append h => exact h.rank_lt
  | find h => exact h.rank_lt
  | purge h => exact h.rank_lt

/-- The steps of another task do not change what there is to do. -/
theorem Watch.Holds.rank_eq {v : Watch} {t : Task} (h : v.Holds s t) (hg : v.Guarantee me s s')
    (howner : ∀ p, t.locked = some p → s.owner p ≠ some me) : t.rank s' = t.rank s := by
  cases t with
  | append r stage => rfl
  | find id stage => rfl
  | purge cutoff stage =>
      cases stage with
      | copying w file position copy gone =>
          obtain ⟨hw, hfile, -⟩ := h
          have hsame := hg.same _ hw.guards (howner _ rfl)
          have hname : file.name = fileName w.partition := by
            rw [hfile]
            rfl
          have htext : s'.text? file = s.text? file := Shared.Same.text?_eq (hname ▸ hsame)
          simp only [Task.rank, PurgeStage.rank, Shared.behind, htext]
      | _ => rfl

end

/-! ## No run goes on for ever -/

namespace System

/-- What is still to be done by all tasks. -/
def ranks (s : System) : Multiset Rank := s.tasks.map (Task.rank s.shared)

/-- A system comes next after another one. -/
def Next (s' s : System) : Prop := ∃ i c, s.step i c = some s'

end System

theorem coe_set_add {α : Type} {l : List α} {i : ℕ} {a : α} (h : l[i]? = some a) (b : α) :
    (↑(l.set i b) + {a} : Multiset α) = ↑l + {b} := by
  induction l generalizing i with
  | nil => cases h
  | cons x l ih =>
      cases i with
      | zero =>
          cases h
          rw [List.set_cons_zero, ← Multiset.cons_coe, ← Multiset.cons_coe,
            ← Multiset.singleton_add, ← Multiset.singleton_add, add_right_comm,
            add_comm ({b} : Multiset α), add_right_comm]
      | succ i =>
          rw [List.set_cons_succ, ← Multiset.cons_coe, ← Multiset.cons_coe, Multiset.cons_add,
            Multiset.cons_add, ih h]

namespace Watch

variable {v : Watch} {s s' : System}

theorem Invariant.next (h : v.Invariant s) (hnext : s'.Next s) : v.Invariant s' := by
  obtain ⟨i, c, hstep⟩ := hnext
  obtain ⟨t, t', ht, hmove, htasks⟩ := System.exists_move_of_step hstep
  have hinv := (h.move ht hmove).2
  rwa [← htasks] at hinv

theorem Invariant.cutExpand (h : v.Invariant s) (hnext : s'.Next s) :
    Relation.CutExpand (· < ·) s'.ranks s.ranks := by
  obtain ⟨i, c, hstep⟩ := hnext
  obtain ⟨t, t', ht, hmove, htasks⟩ := System.exists_move_of_step hstep
  have hg := (h.move ht hmove).1
  refine ⟨{t'.rank s'.shared}, t.rank s.shared, ?_, ?_⟩
  · intro rank hrank
    rw [Multiset.mem_singleton.1 hrank]
    exact hmove.rank_lt
  · -- all other tasks have the rank that they had
    have hother : s'.tasks.map (Task.rank s'.shared) =
        (s.tasks.map (Task.rank s.shared)).set i (t'.rank s'.shared) := by
      rw [htasks]
      refine List.ext_getElem? fun k => ?_
      by_cases hk : k = i
      · rw [hk, List.getElem?_map, List.getElem?_set_self', List.getElem?_set_self',
          List.getElem?_map, ht]
        rfl
      · rw [List.getElem?_map, List.getElem?_set_ne (Ne.symm hk),
          List.getElem?_set_ne (Ne.symm hk), List.getElem?_map]
        cases hu : s.tasks[k]? with
        | none => rfl
        | some u =>
            refine congrArg some ((h.holds k u hu).rank_eq hg fun p hp howner => hk ?_)
            have hlocked := (h.exclusive.owner_iff_locked hu p).2 hp
            exact Option.some.inj (hlocked.symm.trans howner)
    unfold System.ranks
    rw [hother]
    refine coe_set_add ?_ _
    rw [List.getElem?_map, ht]
    rfl

/-- There is no run without an end. -/
theorem Invariant.acc (h : v.Invariant s) : Acc System.Next s := by
  have hwf : WellFounded (Relation.CutExpand (α := Rank) (· < ·)) :=
    WellFounded.cutExpand wellFounded_lt
  generalize hranks : s.ranks = ranks
  induction ranks using hwf.induction generalizing s with
  | _ ranks ih =>
      refine Acc.intro s fun s' hnext => ih s'.ranks ?_ (h.next hnext) rfl
      exact hranks ▸ h.cutExpand hnext

end Watch

/-! ## No run gets stuck -/

/-- A task has given its answer. -/
def Task.IsFinished : Task → Prop
  | .append _ stage => ∃ result, stage = .finished result
  | .find _ stage => ∃ result, stage = .finished result
  | .purge _ stage => ∃ result, stage = .finished result

/-- A finished task holds no lock. -/
theorem Task.IsFinished.locks_nothing {t : Task} (h : t.IsFinished) :
    t.locked = none ∧ t.locksLineage = false := by
  cases t <;> obtain ⟨result, rfl⟩ := h <;> exact ⟨rfl, rfl⟩

/-- An append that holds no lock waits for one at most. -/
theorem AppendStage.exists_step {stage : AppendStage} (h : ∀ result, stage ≠ .finished result)
    {s : Shared} (me : Nat) (r : Record)
    (hfree : stage.locks = false → s.owner (partitionName r.provider) = none) :
    ∃ next, stage.step me 0 r s = some next := by
  cases stage with
  | waiting => exact ⟨_, if_pos (by rw [hfree rfl]; rfl)⟩
  | checking =>
      simp only [step]
      split <;> exact ⟨_, rfl⟩
  | opening =>
      simp only [step]
      split <;> exact ⟨_, rfl⟩
  | writing file rest =>
      simp only [step]
      split <;> exact ⟨_, rfl⟩
  | enrolling => exact ⟨_, rfl⟩
  | leaving result => exact ⟨_, rfl⟩
  | finished result => exact absurd rfl (h result)

theorem FindStage.exists_step {stage : FindStage} (h : ∀ result, stage ≠ .finished result)
    {s : Shared} (me : Nat) (id : RecordId)
    (hfree : stage.locked = none → (∀ p, s.owner p = none) ∧ s.lineageOwner = none) :
    ∃ next, stage.step me id s = some next := by
  cases stage with
  | looking =>
      simp only [step]
      split <;> exact ⟨_, rfl⟩
  | waiting p => exact ⟨_, if_pos (by rw [(hfree rfl).1]; rfl)⟩
  | measuring p => exact ⟨_, rfl⟩
  | leaving p length => cases length <;> exact ⟨_, rfl⟩
  | opening p length =>
      simp only [step]
      split <;> exact ⟨_, rfl⟩
  | reading file position left => exact ⟨_, rfl⟩
  | attaching r => exact ⟨_, if_pos (by rw [(hfree rfl).2]; rfl)⟩
  | finished result => exact absurd rfl (h result)

theorem PurgeStage.exists_step {stage : PurgeStage} (h : ∀ result, stage ≠ .finished result)
    {s : Shared} (me : Nat) (cutoff : Time.Instant)
    (hfree : stage.locked = none → stage.locksLineage = false →
      (∀ p, s.owner p = none) ∧ s.lineageOwner = none) :
    ∃ next, stage.step me [] cutoff s = some next := by
  cases stage with
  | listing => exact ⟨_, rfl⟩
  | waiting removed todo =>
      cases todo with
      | nil => exact ⟨_, rfl⟩
      | cons p todo => exact ⟨_, if_pos (by rw [(hfree rfl rfl).1]; rfl)⟩
  | opening w =>
      simp only [step]
      split <;> exact ⟨_, rfl⟩
  | creating w file =>
      simp only [step]
      split <;> exact ⟨_, rfl⟩
  | copying w file position copy gone => exact ⟨_, rfl⟩
  | saving w copy gone => exact ⟨_, rfl⟩
  | closing w copy gone =>
      simp only [step]
      split <;> exact ⟨_, rfl⟩
  | leaving w result => cases result <;> exact ⟨_, rfl⟩
  | forgetting removed => exact ⟨_, rfl⟩
  | pruning removed =>
      simp only [step, (hfree rfl rfl).2, Option.isNone_none, if_true]
      split <;> exact ⟨_, rfl⟩
  | savingLineage count text =>
      simp only [step]
      split <;> exact ⟨_, rfl⟩
  | closingLineage count text =>
      simp only [step]
      split <;> exact ⟨_, rfl⟩
  | leavingLineage result => exact ⟨_, rfl⟩
  | finished result => exact absurd rfl (h result)

theorem Task.exists_step {t : Task} (h : ¬t.IsFinished) {s : Shared} (me : Nat)
    (hfree : t.locked = none → t.locksLineage = false →
      (∀ p, s.owner p = none) ∧ s.lineageOwner = none) :
    ∃ next, t.step me {} s = some next := by
  cases t with
  | append r stage =>
      obtain ⟨next, hnext⟩ := AppendStage.exists_step (not_exists.1 h) me r fun hlocks =>
        (hfree (if_neg (by rw [hlocks]; exact Bool.false_ne_true)) rfl).1 _
      exact ⟨_, congrArg (Option.map _) hnext⟩
  | find id stage =>
      obtain ⟨next, hnext⟩ := FindStage.exists_step (not_exists.1 h) me id fun hlocked =>
        hfree hlocked rfl
      exact ⟨_, congrArg (Option.map _) hnext⟩
  | purge cutoff stage =>
      obtain ⟨next, hnext⟩ := PurgeStage.exists_step (not_exists.1 h) me cutoff hfree
      exact ⟨_, congrArg (Option.map _) hnext⟩

theorem System.next_of_step {s : System} {i : Nat} {t : Task} (ht : s.tasks[i]? = some t)
    (h : ∃ next, t.step i {} s.shared = some next) : ∃ s', System.Next s' s := by
  obtain ⟨⟨shared, t'⟩, hstep⟩ := h
  refine ⟨⟨shared, s.tasks.set i t'⟩, i, {}, ?_⟩
  rw [System.step, ht]
  show (t.step i {} s.shared >>= _) = _
  rw [hstep]
  rfl

namespace Watch

variable {v : Watch} {s s' : System}

/-- Until all requests are answered some task can take a step. -/
theorem Invariant.exists_next (h : v.Invariant s) {t : Task} (ht : t ∈ s.tasks)
    (hopen : ¬t.IsFinished) : ∃ s', System.Next s' s := by
  have hbusy : ∀ (k : Nat) (u : Task), s.tasks[k]? = some u →
      (u.locked ≠ none ∨ u.locksLineage ≠ false) → ∃ s', System.Next s' s := by
    intro k u hu hlocks
    refine System.next_of_step hu (Task.exists_step (fun hfinished => ?_) k fun hnone hfalse => ?_)
    · exact hlocks.elim (· hfinished.locks_nothing.1) (· hfinished.locks_nothing.2)
    · exact absurd hlocks (by simp [hnone, hfalse])
  by_cases hall : (∀ p, s.shared.owner p = none) ∧ s.shared.lineageOwner = none
  · obtain ⟨i, ht⟩ := List.mem_iff_getElem?.1 ht
    exact System.next_of_step ht (Task.exists_step hopen i fun _ _ => hall)
  · rw [not_and_or, not_forall] at hall
    rcases hall with ⟨p, hp⟩ | hlineage
    · obtain ⟨k, hk⟩ := Option.ne_none_iff_exists'.1 hp
      obtain ⟨u, hu, hlocked⟩ := (h.exclusive.owner_iff p k).1 hk
      exact hbusy k u hu (.inl (by rw [hlocked]; nofun))
    · obtain ⟨k, hk⟩ := Option.ne_none_iff_exists'.1 hlineage
      obtain ⟨u, hu, hlocks⟩ := (h.exclusive.lineageOwner_iff k).1 hk
      exact hbusy k u hu (.inr (by rw [hlocks]; nofun))

/-- Whatever has happened so far, all requests can be answered. -/
theorem Invariant.settles (h : v.Invariant s) :
    ∃ steps s', s.run steps = some s' ∧ ∀ t ∈ s'.tasks, t.IsFinished := by
  have hacc := h.acc
  induction hacc with
  | intro s _ ih =>
      by_cases hall : ∀ t ∈ s.tasks, t.IsFinished
      · exact ⟨[], s, rfl, hall⟩
      · rw [not_forall] at hall
        obtain ⟨t, ht⟩ := hall
        rw [Classical.not_imp] at ht
        obtain ⟨next, hnext⟩ := h.exists_next ht.1 ht.2
        obtain ⟨steps, s', hrun, hfinished⟩ := ih next hnext (h.next hnext)
        obtain ⟨i, c, hstep⟩ := hnext
        refine ⟨(i, c) :: steps, s', ?_, hfinished⟩
        rw [System.run, hstep]
        exact hrun

end Watch

end ApiGateway.Audit
