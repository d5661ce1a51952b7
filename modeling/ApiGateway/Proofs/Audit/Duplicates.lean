import ApiGateway.Proofs.Audit.Races
import ApiGateway.Proofs.Audit.Recovery
import ApiGateway.Proofs.Audit.Survival

/-! # Appends of one identifier

What several appends of one identifier have come to, at any time and whatever the order of their
steps (`System.OnePerPartition`): of the appends to one partition at most one succeeds, and the
others are told of a duplicate. If all of them go to one partition, then exactly one succeeds
(`appended_once`). If not, one for each partition can succeed (`both_appended`).
-/

set_option autoImplicit false

namespace ApiGateway.Audit

open Journal (partitionName fileName lineOf mentions Lacks IsReadable textOf shopOrder)

/-! ## What appends come to -/

namespace System

/-- An append has succeeded. -/
def Succeeded (s : System) (i : Nat) (r : Record) : Prop :=
  s.AppendAt i r (.finished (.ok r.id))

/-- An append was refused, as there is a record of the same identifier. -/
def Refused (s : System) (i : Nat) (r : Record) : Prop :=
  s.AppendAt i r (.finished (.error (.duplicate r.id)))

/-- The appends of an identifier: at most one for each partition succeeds, and at least one in all;
the others are refused, and the lines with the identifier are those of the ones that succeed. -/
structure OnePerPartition (folder : Folder) (id : RecordId) (s : System) : Prop where
  answers : ∀ i r result, s.AppendAt i r (.finished result) → r.id = id →
    s.Succeeded i r ∨ s.Refused i r
  unique : ∀ i k r r', s.Succeeded i r → s.Succeeded k r' → r.id = id → r'.id = id →
    partitionName r.provider = partitionName r'.provider → i = k
  onOneLine : ∀ i r, s.Succeeded i r → r.id = id → Lacks folder id (partitionName r.provider) →
    OnOneLine s.shared r
  onNoLine : ∀ p, Lacks folder id p → s.shared.owner p = none →
    (∀ i r, s.Succeeded i r → r.id = id → partitionName r.provider ≠ p) →
      (Journal.lines (s.shared.text p)).filter (mentions id) = []
  exists_succeeded : (∀ t ∈ s.tasks, t.IsFinished) → ∀ i r stage, s.AppendAt i r stage →
    r.id = id → ∃ k r', s.Succeeded k r' ∧ r'.id = id

variable {folder : Folder} {requests : List Request} {id : RecordId} {s s' : System} {i k : Nat}
  {r r' : Record}

theorem Races.answers_of_finished (h : Races folder requests id s)
    {result : Except StoreError RecordId} (hi : s.AppendAt i r (.finished result))
    (hid : r.id = id) : s.Succeeded i r ∨ s.Refused i r := by
  subst hid
  rcases h.answers i r _ hi rfl with rfl | ⟨rfl, -⟩
  · exact .inl hi
  · exact .inr hi

/-- An append that has written its line and gives its lock back has succeeded. -/
theorem Races.succeeded_of_landed (h : Races folder requests id s) {stage : AppendStage}
    (hi : s.AppendAt i r stage) (hid : r.id = id) (hlanded : stage.landed = true)
    (hlocks : stage.locks = false) : s.Succeeded i r := by
  obtain ⟨answer, rfl⟩ :=
    AppendStage.entered_of_passed (AppendStage.passed_of_landed hlanded) hlocks
  rcases h.answers_of_finished hi hid with hsucceeded | hrefused
  · exact hsucceeded
  · cases hi.symm.trans hrefused

theorem Races.landed (h : Races folder requests id s) (hi : s.Succeeded i r) (hid : r.id = id) :
    (racing folder id).Landed r s.shared :=
  h.invariant.holds i _ hi r.id rfl hid

theorem Races.onePerPartition (h : Races folder requests id s) : s.OnePerPartition folder id where
  answers _ _ _ hi hid := h.answers_of_finished hi hid
  unique i k r r' hi hk hid hid' hp := h.apart i k r r' _ _ hi hk hid hid' hp rfl rfl
  onOneLine i r hi hid hlacks := by
    have hfound := (h.landed hi hid).found_eq hlacks
    subst hid
    refine ⟨hfound, fun hfree => ?_⟩
    rw [(h.invariant.clean _ hlacks hfree).whole.lines_eq]
    exact hfound
  onNoLine p hlacks hfree hnone := by
    rw [(h.invariant.clean p hlacks hfree).whole.lines_eq]
    refine Classical.byContradiction fun hfound => ?_
    obtain ⟨i, r, stage, hi, hid, rfl, hlanded⟩ := h.source p hlacks hfound
    refine hnone i r (h.succeeded_of_landed hi hid hlanded ?_) hid rfl
    -- the append would hold the lock of the partition
    refine Bool.eq_false_iff.2 fun hlocks => ?_
    have howner := (h.invariant.exclusive.owner_iff_locked hi (partitionName r.provider)).2
      (if_pos hlocks)
    rw [hfree] at howner
    cases howner
  exists_succeeded hfinished i r stage hi hid := by
    obtain ⟨result, rfl⟩ := hfinished _ (List.mem_of_getElem? hi)
    rcases h.answers i r _ hi hid with rfl | ⟨-, hknown⟩
    · exact ⟨i, r, by subst hid; exact hi, hid⟩
    · obtain ⟨k, r', stage', hk, hid', hentered⟩ := h.placed hknown
      obtain ⟨result', rfl⟩ := hfinished _ (List.mem_of_getElem? hk)
      refine ⟨k, r', h.succeeded_of_landed hk hid' ?_ rfl, hid'⟩
      exact AppendStage.landed_of_entered hentered

/-! ## One after another -/

/-- The index has an identifier, and an append of it has not passed the check. -/
structure Late (folder : Folder) (requests : List Request) (id : RecordId) (k : Nat) (r : Record)
    (s : System) : Prop where
  races : Races folder requests id s
  known : s.shared.journal.index.lookup id ≠ none
  refusable : ∃ stage, s.AppendAt k r stage ∧ stage.refusable = true

theorem Late.move {shared : Shared} {t t' : Task} {m : Nat} (h : Late folder requests id k r s)
    (happends : ∀ q ∈ requests, ∃ r, q = .append r) (hid : r.id = id) (ht : s.tasks[m]? = some t)
    (hmove : t.Move m s.shared shared t') :
    Late folder requests id k r ⟨shared, s.tasks.set m t'⟩ where
  races := h.races.move happends ht hmove
  known := (h.races.invariant.move ht hmove).1.indexed h.known
  refusable := by
    obtain ⟨stage, hk, hrefusable⟩ := h.refusable
    refine exists_stage_of_move (P := fun stage => stage.refusable = true) ?_ hk hrefusable ht hmove
    exact fun stage' hstage hrefusable => hstage.refusable hrefusable (hid ▸ h.known)

/-- Of an append that begins after another one of the same identifier has succeeded. -/
theorem Races.refused_of_waiting (h : Races folder requests id s)
    (happends : ∀ q ∈ requests, ∃ r, q = .append r) (hi : s.Succeeded i r) (hid : r.id = id)
    (hk : s.AppendAt k r' .waiting) (hid' : r'.id = id) {later : List (Nat × Choice)}
    (hrun : s.run later = some s') {result : Except StoreError RecordId}
    (hresult : s'.AppendAt k r' (.finished result)) : s'.Refused k r' := by
  have hlate : Late folder requests id k r' s' :=
    run_induction (P := Late folder requests id k r')
      (fun _ _ _ _ _ hx ht hmove => hx.move happends hid' ht hmove)
      ⟨h, (h.landed hi hid).indexed, .waiting, hk, rfl⟩ hrun
  obtain ⟨stage, hstage, hrefusable⟩ := hlate.refusable
  cases hresult.symm.trans hstage
  rcases hlate.races.answers_of_finished hresult hid' with hsucceeded | hrefused
  · cases hsucceeded.symm.trans hresult
    cases hrefusable
  · exact hrefused

/-! ## From the start -/

theorem stage_of_start {j : Journal} {stage : AppendStage}
    (h : (start j requests).AppendAt i r stage) : stage = .waiting := by
  obtain ⟨q, -, hq⟩ := exists_request_of_start h
  cases q with
  | append r' =>
      cases hq
      rfl
  | find id => cases hq
  | purgeBefore cutoff => cases hq

variable {j : Journal}

theorem races_start (happends : ∀ q ∈ requests, ∃ r, q = .append r)
    (hnew : j.index.lookup id = none)
    (hreadable : ∀ r, .append r ∈ requests → r.id = id →
      IsReadable j.folder (fileName (partitionName r.provider))) :
    Races j.folder requests id (start j requests) where
  invariant := by
    refine Watch.invariant_start (fun q hq => ?_) fun p hp => Watch.clean_of_lacks hp
    obtain ⟨r, rfl⟩ := happends q hq
    exact fun _ => spares_racing _ _ _
  requests_eq := requests_start _ _
  readable := hreadable
  answers i r stage hi _ := by
    rw [stage_of_start hi]
    trivial
  apart i k r r' stage stage' hi _ _ _ _ hpassed := by
    rw [stage_of_start hi] at hpassed
    cases hpassed
  placed hknown := absurd hnew hknown
  source p hlacks hfound := by
    refine absurd (List.filter_eq_nil_iff.2 fun line hline => ?_) hfound
    rw [hlacks.mentions_eq_false line hline]
    exact Bool.false_ne_true

theorem races_of_run (happends : ∀ q ∈ requests, ∃ r, q = .append r)
    (hnew : j.index.lookup id = none)
    (hreadable : ∀ r, .append r ∈ requests → r.id = id →
      IsReadable j.folder (fileName (partitionName r.provider)))
    {steps : List (Nat × Choice)} (hrun : (start j requests).run steps = some s) :
    Races j.folder requests id s :=
  run_induction (P := Races j.folder requests id)
    (fun _ _ _ _ _ hx ht hmove => hx.move happends ht hmove)
    (races_start happends hnew hreadable) hrun

/-- Appends to a journal that does not have an identifier, in any order of their steps. Of the ones
with the identifier at most one for each partition succeeds, an append that begins after one has
succeeded is refused, and in the end, to which it can always come, one has succeeded. -/
theorem appends_race (happends : ∀ q ∈ requests, ∃ r, q = .append r)
    (hnew : j.index.lookup id = none)
    (hreadable : ∀ r, .append r ∈ requests → r.id = id →
      IsReadable j.folder (fileName (partitionName r.provider)))
    {steps : List (Nat × Choice)} (hrun : (start j requests).run steps = some s) :
    s.OnePerPartition j.folder id ∧
      (∀ i r, s.Succeeded i r → r.id = id → ∀ k r', s.AppendAt k r' .waiting → r'.id = id →
        ∀ later s' result, s.run later = some s' → s'.AppendAt k r' (.finished result) →
          s'.Refused k r') ∧
      ∃ rest s', s.run rest = some s' ∧ (∀ t ∈ s'.tasks, t.IsFinished) ∧
        s'.OnePerPartition j.folder id := by
  have hraces := races_of_run happends hnew hreadable hrun
  refine ⟨hraces.onePerPartition, ?_, ?_⟩
  · intro i r hi hid k r' hk hid' later s' result hlater hresult
    exact hraces.refused_of_waiting happends hi hid hk hid' hlater hresult
  · obtain ⟨rest, s', hrest, hfinished⟩ := hraces.invariant.settles
    have hraces' : Races j.folder requests id s' :=
      run_induction (P := Races j.folder requests id)
        (fun _ _ _ _ _ hx ht hmove => hx.move happends ht hmove) hraces hrest
    exact ⟨rest, s', hrest, hfinished, hraces'.onePerPartition⟩

/-- An order of another provider with the identifier of the order of the shop. -/
def twinOrder : Record := amountOrder "acme" firstOrder ⟨1700000000, 0⟩

/-- Behind the order of the shop its twin is refused, whatever comes between. -/
theorem appends_race_twins :
    ∃ steps s, (start ⟨[], [], []⟩ [.append shopOrder, .append twinOrder]).run steps = some s ∧
      s.Succeeded 0 shopOrder ∧ s.OnePerPartition [] shopOrder.id ∧
      ∀ later s' result, s.run later = some s' → s'.AppendAt 1 twinOrder (.finished result) →
        s'.Refused 1 twinOrder := by
  have hruns : (Task.append shopOrder .waiting).Runs 0 { journal := ⟨[], [], []⟩ }
      { journal := (Journal.append shopOrder ⟨[], [], []⟩).1 }
      (.append shopOrder (.finished (.ok shopOrder.id))) := append_runs shopOrder rfl
  obtain ⟨steps, hrun⟩ := exists_run_of_runs (i := 0)
    (s := start ⟨[], [], []⟩ [.append shopOrder, .append twinOrder]) rfl hruns
  have happends : ∀ q ∈ [Request.append shopOrder, .append twinOrder], ∃ r, q = .append r := by
    simp
  obtain ⟨hone, hlate, -⟩ := appends_race (j := ⟨[], [], []⟩) happends rfl
    (fun _ _ _ => ⟨[], rfl⟩) hrun
  exact ⟨steps, _, hrun, rfl, hone,
    fun later s' result => hlate 0 shopOrder rfl rfl 1 twinOrder rfl rfl later s' result⟩

/-! ## One partition -/

theorem exists_appendAt_of_mem (h : .append r ∈ s.requests) :
    ∃ i stage, s.AppendAt i r stage := by
  obtain ⟨t, ht, hrequest⟩ := List.mem_map.1 h
  obtain ⟨i, hi⟩ := List.mem_iff_getElem?.1 ht
  cases t with
  | append r' stage =>
      cases hrequest
      exact ⟨i, stage, hi⟩
  | find id stage => cases hrequest
  | purge cutoff stage => cases hrequest

theorem Exclusive.owner_eq_none (h : s.Exclusive) (hfinished : ∀ t ∈ s.tasks, t.IsFinished)
    (p : String) : s.shared.owner p = none := by
  refine Option.eq_none_iff_forall_ne_some.2 fun k hk => ?_
  obtain ⟨t, ht, hlocked⟩ := (h.owner_iff p k).1 hk
  rw [(hfinished t (List.mem_of_getElem? ht)).locks_nothing.1] at hlocked
  cases hlocked

/-- If all appends of a new identifier go to one partition, then one of them succeeds, the others
are refused, and there is one line with the identifier in all partitions. -/
theorem appended_once (happends : ∀ q ∈ requests, ∃ r, q = .append r)
    (hnew : j.index.lookup id = none) (hlacks : ∀ p, Lacks j.folder id p) {p : String}
    (hreadable : IsReadable j.folder (fileName p))
    (hsame : ∀ r, .append r ∈ requests → r.id = id → partitionName r.provider = p)
    (hasked : .append r ∈ requests) (hid : r.id = id)
    {steps : List (Nat × Choice)} (hrun : (start j requests).run steps = some s)
    (hfinished : ∀ t ∈ s.tasks, t.IsFinished) :
    ∃ i x, s.Succeeded i x ∧ x.id = id ∧
      (∀ k r' stage, s.AppendAt k r' stage → r'.id = id → k ≠ i → s.Refused k r') ∧
      (Journal.lines (s.shared.text p)).filter (mentions id) = [lineOf x] ∧
      ∀ q, q ≠ p → (Journal.lines (s.shared.text q)).filter (mentions id) = [] := by
  have hraces := races_of_run happends hnew
    (fun r hr hid => (hsame r hr hid).symm ▸ hreadable) hrun
  have hone := hraces.onePerPartition
  have hfree := hraces.invariant.exclusive.owner_eq_none hfinished
  have hpart : ∀ k r' stage, s.AppendAt k r' stage → r'.id = id →
      partitionName r'.provider = p := by
    intro k r' stage hk hid'
    have hget := getElem?_requests hk
    rw [hraces.requests_eq] at hget
    exact hsame r' (List.mem_of_getElem? hget) hid'
  obtain ⟨k, stage, hk⟩ := exists_appendAt_of_mem (s := s) (r := r) (hraces.requests_eq ▸ hasked)
  obtain ⟨i, x, hi, hxid⟩ := hone.exists_succeeded hfinished k r stage hk hid
  refine ⟨i, x, hi, hxid, ?_, ?_, fun q hq => ?_⟩
  · intro k r' stage hk hid' hne
    obtain ⟨result, rfl⟩ := hfinished _ (List.mem_of_getElem? hk)
    refine (hone.answers k r' result hk hid').resolve_left fun hsucceeded => hne ?_
    exact hone.unique k i r' x hsucceeded hi hid' hxid
      ((hpart k r' _ hk hid').trans (hpart i x _ hi hxid).symm)
  · have hline := (hone.onOneLine i x hi hxid (hlacks _)).lines_eq (hfree _)
    rwa [hpart i x _ hi hxid, hxid] at hline
  · refine hone.onNoLine q (hlacks q) (hfree q) fun m y hm hyid hyq => hq ?_
    exact hyq.symm.trans (hpart m y _ hm hyid)

/-! ## Two partitions -/

/-- Two appends of one identifier to two partitions both succeed, if both pass the check before one
of them has entered its record. -/
theorem both_appended (r' : Record) (hid : r'.id = r.id)
    (hne : partitionName r.provider ≠ partitionName r'.provider)
    (hnew : j.index.lookup r.id = none)
    (hreadable : IsReadable j.folder (fileName (partitionName r.provider)))
    (hreadable' : IsReadable j.folder (fileName (partitionName r'.provider))) :
    ∃ steps s, (start j [.append r, .append r']).run steps = some s ∧ s.Succeeded 0 r ∧
      s.Succeeded 1 r' ∧
      s.shared.text (partitionName r.provider) =
        textOf (fileName (partitionName r.provider)) j.folder ++ lineOf r ++ "\n" ∧
      s.shared.text (partitionName r'.provider) =
        textOf (fileName (partitionName r'.provider)) j.folder ++ lineOf r' ++ "\n" := by
  -- both take their locks and pass the check
  have hpass := exists_run_of_runs (s := start j [.append r, .append r']) (i := 0) rfl
    (runs_of_new (r := r) rfl hnew)
  have hpass' := exists_run_of_runs (i := 1)
    (s := ⟨Shared.lock { journal := j } (partitionName r.provider) 0,
      [.append r .opening, .append r' .waiting]⟩) rfl
    (runs_of_new (r := r') (Shared.owner_lock_of_ne _ hne.symm _) (hid ▸ hnew))
  -- and then each of them writes its line
  have hwrite := exists_run_of_runs (i := 0)
    (s := ⟨(Shared.lock { journal := j } (partitionName r.provider) 0).lock
      (partitionName r'.provider) 1, [.append r .opening, .append r' .opening]⟩) rfl
    (runs_of_passed hreadable)
  have hwrite' := exists_run_of_runs (i := 1)
    (s := ⟨((Shared.lock { journal := j } (partitionName r.provider) 0).lock
      (partitionName r'.provider) 1).appended r,
      [.append r (.finished (.ok r.id)), .append r' .opening]⟩) rfl
    (runs_of_passed (hreadable'.put _ _))
  obtain ⟨steps, hrun⟩ := exists_run_trans hpass <| exists_run_trans hpass' <|
    exists_run_trans hwrite hwrite'
  refine ⟨steps, _, hrun, rfl, rfl, ?_, ?_⟩
  · exact (Shared.text_appended_of_ne hne _).trans (Shared.text_appended_self _ r)
  · refine (Shared.text_appended_self _ r').trans ?_
    exact congrArg (· ++ lineOf r' ++ "\n") (Shared.text_appended_of_ne hne.symm _)

/-- The order of the shop and its twin are both accepted, and each has its line. -/
theorem appended_twice :
    ∃ steps s, Journal.ofFolder [] = .ok ⟨[], [], []⟩ ∧
      (start ⟨[], [], []⟩ [.append shopOrder, .append twinOrder]).run steps = some s ∧
      twinOrder.id = shopOrder.id ∧ s.Succeeded 0 shopOrder ∧ s.Succeeded 1 twinOrder ∧
      Journal.lines (s.shared.text "shop") = [lineOf shopOrder] ∧
      Journal.lines (s.shared.text "acme") = [lineOf twinOrder] := by
  obtain ⟨steps, s, hrun, hshop, htwin, hline, hline'⟩ :=
    both_appended (j := ⟨[], [], []⟩) twinOrder (r := shopOrder) rfl (by decide) rfl
      ⟨[], rfl⟩ ⟨[], rfl⟩
  have hlines : ∀ r, Journal.lines ("" ++ lineOf r ++ "\n") = [lineOf r] := fun r => by
    have htail : Journal.tail "" = [] := rfl
    have hended : Journal.endedLines "" = [] := rfl
    rw [Journal.lines_append (Journal.isLine_lineOf r) (Journal.lineOf_ne_empty r), htail, hended,
      List.nil_append, List.nil_append, String.ofList_toList]
  refine ⟨steps, s, Journal.ofFolder_nil, hrun, rfl, hshop, htwin, ?_, ?_⟩
  · rw [← hlines shopOrder]
    exact congrArg Journal.lines hline
  · rw [← hlines twinOrder]
    exact congrArg Journal.lines hline'

end System

end ApiGateway.Audit
