import ApiGateway.Proofs.Audit.Alone
import ApiGateway.Proofs.Audit.Progress
import ApiGateway.Proofs.Audit.Recovery
import ApiGateway.Proofs.Audit.Survival

/-! # Records stay in sight

A record whose append has succeeded is on one line of its partition as long as no purge is asked to
take it out, and every search for it that begins then comes to it, whatever else is under way: in
each stage of the search the line of the record is ahead of it (`Watch.Sees`), and no step of
another task changes this.
-/

set_option autoImplicit false

namespace ApiGateway.Audit

open Journal (partitionName fileName lineOf endedLines mentions keeps Ahead Extends shopFolder
  shopOrder)

namespace Watch

variable {v : Watch} {me : Nat} {s s' : Shared} {r : Record}

/-! ## A search under way -/

/-- The line of a record is still to come for a search, or the search has come to it. -/
def Sees (r : Record) (s : Shared) : FindStage → Prop
  | .looking => True
  | .waiting p | .measuring p => p = partitionName r.provider
  | .leaving p length => p = partitionName r.provider ∧
      ∃ n, length = some n ∧ Ahead r n (s.text p).toList
  | .opening p length => p = partitionName r.provider ∧ Ahead r length (s.text p).toList
  | .reading file position left => file.name = fileName (partitionName r.provider) ∧
      file.age ≤ s.age (fileName (partitionName r.provider)) ∧
      ∃ text, s.text? file = some text ∧ Ahead r left (text.toList.drop position)
  | .attaching x => x = r
  | .finished result => ∃ r', result = .ok r' ∧ Extends r r'

/-- More text behind a place moves no line that is ahead of it. -/
theorem Ahead.drop_append {left position : ℕ} {text : String}
    (h : Ahead r left (text.toList.drop position)) (more : String) :
    Ahead r left ((text ++ more).toList.drop position) := by
  have hlt : position ≤ text.toList.length := by
    refine Nat.le_of_not_lt fun hlt => h.ne_nil ?_
    exact List.drop_eq_nil_of_le (Nat.le_of_lt hlt)
  rw [String.toList_append, List.drop_append_of_le_length hlt]
  exact h.append _

theorem Sees.stable {stage : FindStage} (h : Sees r s stage) (hg : v.Guarantee me s s')
    (hguards : v.guards (partitionName r.provider)) (hspares : v.Spares (lineOf r)) :
    Sees r s' stage := by
  have hserves := hg.serves _ hguards
  cases stage with
  | leaving p length =>
      obtain ⟨rfl, n, rfl, hahead⟩ := h
      exact ⟨rfl, n, rfl, hserves.ahead hspares hahead⟩
  | opening p length =>
      obtain ⟨rfl, hahead⟩ := h
      exact ⟨rfl, hserves.ahead hspares hahead⟩
  | reading file position left =>
      obtain ⟨hname, hage, text, htext, hahead⟩ := h
      obtain ⟨more, hmore⟩ := hserves.grows hname hage htext
      exact ⟨hname, Nat.le_trans hage hserves.age_le, _, hmore, Ahead.drop_append hahead more⟩
  | _ => exact h

theorem Sees.move {stage stage' : FindStage} (h : Sees r s stage)
    (hmove : stage.Move me r.id s s' stage') (hreads : Journal.record? (lineOf r) = some r)
    (hindex : s.journal.index.lookup r.id = some (partitionName r.provider))
    (hfound : (endedLines (s.text (partitionName r.provider))).filter (mentions r.id) =
      [lineOf r]) : Sees r s' stage' := by
  cases hmove with
  | miss hunknown =>
      rw [hindex] at hunknown
      cases hunknown
  | hit hknown =>
      rw [hindex] at hknown
      exact (Option.some.inj hknown).symm
  | lock => exact h
  | measure =>
      obtain rfl := h
      have hahead : Ahead r (Text.byteLength (s.text (partitionName r.provider)).toList)
          (s.text (partitionName r.provider)).toList := by
        refine Journal.ahead_of_filter ?_
        rw [String.ofList_toList]
        exact hfound
      have hentry := Shared.entryAt_of_text (s := s) (p := partitionName r.provider)
        fun hempty => hahead.ne_nil (by rw [hempty]; rfl)
      refine ⟨rfl, _, ?_, hahead⟩
      unfold Shared.length?
      rw [hentry]
      rfl
  | leaveAbsent =>
      obtain ⟨-, n, hn, -⟩ := h
      cases hn
  | leave =>
      obtain ⟨rfl, n, hn, hahead⟩ := h
      cases hn
      exact ⟨rfl, hahead⟩
  | fail habsent =>
      obtain ⟨rfl, hahead⟩ := h
      exact absurd (by rw [Shared.text_of_absent habsent]; rfl) hahead.ne_nil
  | «open» =>
      obtain ⟨rfl, hahead⟩ := h
      have hentry := Shared.entryAt_of_text (s := s) (p := partitionName r.provider)
        fun hempty => hahead.ne_nil (by rw [hempty]; rfl)
      exact ⟨rfl, Nat.le_refl _, _, Shared.text?_handle hentry, hahead⟩
  | read =>
      obtain ⟨hname, hage, text, htext, hahead⟩ := h
      obtain ⟨line, taken, rest, hread, hline⟩ := hahead.read
      unfold FindStage.reads
      rw [htext]
      dsimp only
      rw [hread]
      dsimp only
      rcases hline with rfl | ⟨hother, hahead⟩
      · rw [if_pos (Journal.id?_of_record?_lineOf hreads), hreads]
        rfl
      · rw [if_neg hother]
        rw [List.drop_drop] at hahead
        exact ⟨hname, hage, text, htext, hahead⟩
  | attach =>
      obtain rfl := h
      exact ⟨_, rfl, Journal.extends_withReplays _ _⟩

/-! ## A record that has landed -/

/-- If the index has a record, it has the partition of the record. -/
def Points (r : Record) (s : Shared) : Prop :=
  ∀ p, s.journal.index.lookup r.id = some p → p = partitionName r.provider

/-- Only the append of a record points to it. -/
theorem Points.move {t t' : Task} (h : Points r s) (hmove : t.Move me s s' t')
    (honly : ∀ r', t.request = .append r' → r'.id = r.id → r' = r) : Points r s' := by
  cases hmove with
  | @append r' stage stage' _ hmove =>
      cases hmove with
      | enroll =>
          intro p hp
          by_cases hid : r'.id = r.id
          · obtain rfl := honly r' rfl hid
            have hself : ((r'.id, partitionName r'.provider) :: s.journal.index).lookup r'.id =
              some p := hp
            rw [List.lookup_cons_self] at hself
            exact (Option.some.inj hself).symm
          · have hother : ((r'.id, partitionName r'.provider) :: s.journal.index).lookup r.id =
              some p := hp
            rw [List.lookup_cons, beq_eq_false_iff_ne.2 (Ne.symm hid)] at hother
            exact h p hother
      | write =>
          intro p hp
          rw [Shared.index_write] at hp
          exact h p hp
      | writeLast =>
          intro p hp
          rw [Shared.index_write] at hp
          exact h p hp
      | _ => exact h
  | find hmove => cases hmove <;> exact h
  | purge hmove =>
      cases hmove with
      | @forget removed =>
          intro p hp
          rw [Shared.lookup_index_forget] at hp
          split at hp
          · cases hp
          · exact h p hp
      | _ => exact h

/-- A record is followed that is appended once, and in the partitions of a journal. -/
def following (r : Record) (requests : List Request) : Watch where
  id := r.id
  guards p := p ≠ "lineage"
  cutoffs cutoff := .purgeBefore cutoff ∈ requests

variable {requests : List Request} {x x' : System} {i k : Nat}

/-- What is true at all times of a record that is followed. -/
structure Follows (r : Record) (requests : List Request) (s : System) : Prop where
  invariant : (following r requests).Invariant s
  requests_eq : s.requests = requests
  points : Points r s.shared

theorem Follows.move {t t' : Task} (h : Follows r requests x) (ht : x.tasks[k]? = some t)
    (hmove : t.Move k x.shared s' t')
    (honly : ∀ r', .append r' ∈ requests → r'.id = r.id → r' = r) :
    Follows r requests ⟨s', x.tasks.set k t'⟩ where
  invariant := (h.invariant.move ht hmove).2
  requests_eq := (System.requests_move ht hmove).trans h.requests_eq
  points := h.points.move hmove fun r' hr' => honly r' <| by
    have hget := System.getElem?_requests ht
    rw [h.requests_eq, hr'] at hget
    exact List.mem_of_getElem? hget

/-- The append of a record has succeeded, and a search for it has begun since. -/
structure Searches (r : Record) (requests : List Request) (i k : Nat) (s : System) : Prop where
  follows : Follows r requests s
  appended : s.tasks[i]? = some (.append r (.finished (.ok r.id)))
  search : ∃ stage, s.tasks[k]? = some (.find r.id stage) ∧ Sees r s.shared stage

/-- The line of a record whose append has succeeded, and its place in the index. -/
theorem Follows.landed (h : Follows r requests x)
    (happended : x.tasks[i]? = some (.append r (.finished (.ok r.id)))) :
    (following r requests).Landed r x.shared ∧
      x.shared.journal.index.lookup r.id = some (partitionName r.provider) := by
  have hlanded := h.invariant.holds i _ happended r.id rfl rfl
  refine ⟨hlanded, ?_⟩
  obtain ⟨p, hp⟩ := Option.ne_none_iff_exists'.1 hlanded.indexed
  exact hp.trans (congrArg some (h.points p hp))

theorem Searches.move {m : Nat} {t t' : Task} (h : Searches r requests i k x)
    (ht : x.tasks[m]? = some t) (hmove : t.Move m x.shared s' t')
    (honly : ∀ r', .append r' ∈ requests → r'.id = r.id → r' = r)
    (hname : partitionName r.provider ≠ "lineage")
    (hspares : (following r requests).Spares (lineOf r))
    (hreads : Journal.record? (lineOf r) = some r) :
    Searches r requests i k ⟨s', x.tasks.set m t'⟩ where
  follows := h.follows.move ht hmove honly
  appended := by
    by_cases hm : m = i
    · -- an append that has finished takes no step
      rw [hm, h.appended] at ht
      cases ht
      cases hmove with
      | append hmove => cases hmove
    · rw [← h.appended]
      exact List.getElem?_set_ne hm
  search := by
    obtain ⟨stage, hstage, hsees⟩ := h.search
    obtain ⟨hlanded, hindex⟩ := h.follows.landed h.appended
    by_cases hm : m = k
    · rw [hm] at ht
      rw [ht] at hstage
      cases hstage
      cases hmove with
      | @find _ _ stage' _ hmove =>
          refine ⟨stage', ?_, hsees.move hmove hreads hindex (hlanded.found_eq hname)⟩
          obtain ⟨hlt, -⟩ := List.getElem?_eq_some_iff.1 ht
          rw [hm]
          exact List.getElem?_set_self hlt
    · refine ⟨stage, ?_, hsees.stable (h.follows.invariant.move ht hmove).1 hname hspares⟩
      rw [← hstage]
      exact List.getElem?_set_ne hm

theorem Searches.of_run {later : List (Nat × Choice)} (h : Searches r requests i k x)
    (hlater : x.run later = some x')
    (honly : ∀ r', .append r' ∈ requests → r'.id = r.id → r' = r)
    (hname : partitionName r.provider ≠ "lineage")
    (hspares : (following r requests).Spares (lineOf r))
    (hreads : Journal.record? (lineOf r) = some r) : Searches r requests i k x' :=
  System.run_induction (P := Searches r requests i k)
    (fun _ _ _ _ _ hx ht hmove => hx.move ht hmove honly hname hspares hreads) h hlater

/-- No purge takes out the line of a record that is not older than its instant. -/
theorem spares_following (hreads : Journal.record? (lineOf r) = some r)
    (hafter : ∀ cutoff, .purgeBefore cutoff ∈ requests → r.createdAt.isBefore cutoff = false) :
    (following r requests).Spares (lineOf r) := by
  intro cutoff hcutoff
  have hexpired : Journal.expired? cutoff (lineOf r) = none := by
    unfold Journal.expired?
    rw [hreads, Option.filter_some, hafter cutoff hcutoff]
    rfl
  unfold keeps
  rw [hexpired, Journal.not_isAllBlank_lineOf]
  rfl

theorem follows_start {folder : Folder} {j : Journal} (hopen : Journal.ofFolder folder = .ok j)
    (hlacks : ∀ p, p ≠ "lineage" → Journal.Lacks folder r.id p)
    (honly : ∀ r', .append r' ∈ requests → r'.id = r.id → r' = r)
    (hspares : (following r requests).Spares (lineOf r)) :
    Follows r requests (System.start j requests) := by
  obtain ⟨hfolder, hunknown⟩ := Journal.lookup_eq_none_of_lacks hopen hlacks
  refine ⟨invariant_start (fun q hq => ?_) fun p hp => ?_, System.requests_start _ _, ?_⟩
  · cases q with
    | append r' =>
        intro hid
        rw [honly r' hq hid]
        exact hspares
    | find id => trivial
    | purgeBefore cutoff => exact ⟨hq, fun p => Iff.rfl⟩
  · exact clean_of_lacks (hfolder ▸ hlacks p hp)
  · intro p hp
    have hp : j.index.lookup r.id = some p := hp
    rw [hunknown] at hp
    cases hp

end Watch

open Watch

/-- A record that was appended with success, and that no purge is asked to take out, is on one line
of its partition, and each search for it that begins then can be run to its end and finds it,
whatever other tasks do. The files of the folder have to end in line ends, the record has to be one
that is read from its line as it was, and its provider must not be named like the lineage. -/
theorem visible_of_appended {folder : Folder} {j : Journal}
    (hopen : Journal.ofFolder folder = .ok j) {requests : List Request} {i : Nat} {r : Record}
    (happend : requests[i]? = some (.append r))
    (honce : ∀ k r', requests[k]? = some (.append r') → r'.id = r.id → k = i)
    (hreads : Journal.record? (lineOf r) = some r)
    (hname : partitionName r.provider ≠ "lineage")
    (hlacks : ∀ p, p ≠ "lineage" → Journal.Lacks folder r.id p)
    (hafter : ∀ cutoff, .purgeBefore cutoff ∈ requests → r.createdAt.isBefore cutoff = false)
    {steps : List (Nat × Choice)} {s : System}
    (hrun : (System.start j requests).run steps = some s)
    (hok : s.tasks[i]? = some (.append r (.finished (.ok r.id)))) :
    OnOneLine s.shared r ∧
      ∀ k : Nat, s.tasks[k]? = some (.find r.id .looking) →
        ∀ (later : List (Nat × Choice)) (s' : System), s.run later = some s' →
          (∀ result, s'.tasks[k]? = some (.find r.id (.finished result)) →
            ∃ r', result = .ok r' ∧ Extends r r') ∧
          ∃ (rest : List (Nat × Choice)) (s'' : System) (r' : Record), s'.run rest = some s'' ∧
            s''.tasks[k]? = some (.find r.id (.finished (.ok r'))) ∧ Extends r r' := by
  have honly : ∀ r', .append r' ∈ requests → r'.id = r.id → r' = r := by
    intro r' hr' hid
    obtain ⟨k, hk⟩ := List.mem_iff_getElem?.1 hr'
    rw [honce k r' hk hid, happend] at hk
    cases hk
    rfl
  have hspares := spares_following hreads hafter
  have hfollows : Follows r requests s :=
    System.run_induction (P := Follows r requests)
      (fun _ _ _ _ _ hx ht hmove => hx.move ht hmove honly)
      (follows_start hopen hlacks honly hspares) hrun
  have hfound := (hfollows.landed hok).1.found_eq hname
  refine ⟨⟨hfound, fun hfree => ?_⟩, fun k hk later s' hlater => ?_⟩
  · rw [(hfollows.invariant.clean _ hname hfree).whole.lines_eq]
    exact hfound
  · have hsearches : Searches r requests i k s' :=
      Searches.of_run ⟨hfollows, hok, .looking, hk, trivial⟩ hlater honly hname hspares hreads
    refine ⟨fun result hresult => ?_, ?_⟩
    · obtain ⟨stage, hstage, hsees⟩ := hsearches.search
      rw [hresult] at hstage
      cases hstage
      exact hsees
    · obtain ⟨rest, s'', hrest, hfinished⟩ := hsearches.follows.invariant.settles
      have hend := hsearches.of_run hrest honly hname hspares hreads
      obtain ⟨stage, hstage, hsees⟩ := hend.search
      obtain ⟨result, rfl⟩ := hfinished _ (List.mem_of_getElem? hstage)
      obtain ⟨r', rfl, hextends⟩ := hsees
      exact ⟨rest, s'', r', hrest, hstage, hextends⟩

/-- An order, a search for it, and a purge of what came long before. -/
def shopRequests : List Request :=
  [.append shopOrder, .find shopOrder.id, .purgeBefore ⟨1600000000, 0⟩]

/-- In an empty folder the order of the shop is seen once its append has succeeded. -/
theorem visible_of_appended_shop :
    ∃ steps s, (System.start ⟨[], [], []⟩ shopRequests).run steps = some s ∧
      s.tasks[0]? = some (.append shopOrder (.finished (.ok shopOrder.id))) ∧
      OnOneLine s.shared shopOrder ∧
      ∀ later s' result, s.run later = some s' →
        s'.tasks[1]? = some (.find shopOrder.id (.finished result)) →
          ∃ r', result = .ok r' ∧ Extends shopOrder r' := by
  have hruns : (Task.append shopOrder .waiting).Runs 0 { journal := ⟨[], [], []⟩ }
      { journal := (Journal.append shopOrder ⟨[], [], []⟩).1 }
      (.append shopOrder (.finished (.ok shopOrder.id))) := append_runs shopOrder rfl
  obtain ⟨steps, hrun⟩ := System.exists_run_of_runs (i := 0)
    (s := System.start ⟨[], [], []⟩ shopRequests) rfl hruns
  have honce : ∀ (k : Nat) (r' : Record), shopRequests[k]? = some (.append r') →
      r'.id = shopOrder.id → k = 0
    | 0, _, _, _ => rfl
    | 1, _, h, _ => nomatch h
    | 2, _, h, _ => nomatch h
    | _ + 3, _, h, _ => nomatch h
  have hlacks : ∀ p, p ≠ "lineage" → Journal.Lacks [] shopOrder.id p :=
    fun p _ => ⟨rfl, nofun, nofun⟩
  have hafter : ∀ cutoff, .purgeBefore cutoff ∈ shopRequests →
      shopOrder.createdAt.isBefore cutoff = false := by
    intro cutoff hcutoff
    have hcutoff : cutoff = ⟨1600000000, 0⟩ := by simpa [shopRequests] using hcutoff
    rw [hcutoff]
    decide
  obtain ⟨hline, hsearch⟩ := visible_of_appended Journal.ofFolder_nil rfl honce
    Journal.record?_lineOf_shopOrder (by decide) hlacks hafter hrun rfl
  exact ⟨steps, _, hrun, rfl, hline,
    fun later s' result hlater => (hsearch 1 rfl later s' hlater).1 result⟩

/-- Behind a line that was cut off after its first character a record is not found, though its
append has succeeded. -/
theorem unseen_append_cutLine :
    ∃ j steps s later s', Journal.ofFolder (shopFolder "\x7b") = .ok j ∧
      Journal.record? (lineOf shopOrder) = some shopOrder ∧
      (System.start j [.append shopOrder, .find shopOrder.id]).run steps = some s ∧
      s.tasks = [.append shopOrder (.finished (.ok shopOrder.id)),
        .find shopOrder.id .looking] ∧
      s.run later = some s' ∧
      s'.tasks[1]? = some (.find shopOrder.id (.finished (.error (.notFound shopOrder.id)))) := by
  have hid : Journal.id? "\x7b" = none := by
    have hlex : Json.lex ['\x7b'] = some [.beginObj] := by
      rw [Json.lex_cons rfl rfl, Json.lex]
      rfl
    unfold Journal.id? Json.readFields
    rw [show "\x7b".toList = ['\x7b'] from rfl, hlex]
    rfl
  have hnone : (Journal.lines "\x7b").filterMap Journal.id? = [] := by
    rw [show Journal.lines "\x7b" = ["\x7b"] by decide, List.filterMap_cons, hid]
    rfl
  have hopen := Journal.ofFolder_shopFolder hnone
  have happend := Journal.append_eq_of_ofFolder hopen Journal.isPartition_shopOrder
    (r := shopOrder) rfl
  generalize hk : (⟨Journal.appended shopOrder (shopFolder "\x7b"), _, _⟩ : Journal) = k at happend
  have hlost : k.find shopOrder.id = .error (.notFound shopOrder.id) := by
    refine Journal.find_of_not_spaces (j := ⟨shopFolder "\x7b", [], []⟩)
      (Journal.id?_lineOf_of_readable (readable_amountOrder _ _))
      (Journal.isReadable_of_ofFolder hopen Journal.isPartition_shopOrder) (by decide) ?_
      (hk ▸ rfl) ?_
    · intro hmem
      rw [Journal.idsIn_shopFolder hnone] at hmem
      cases hmem
    · rw [← hk]
      exact (Journal.finds_append _ shopOrder).only
  have hruns := append_runs (i := 0) (s := { journal := ⟨shopFolder "\x7b", [], []⟩ }) shopOrder rfl
  rw [happend] at hruns
  obtain ⟨steps, hrun⟩ := System.exists_run_of_runs (i := 0)
    (s := System.start ⟨shopFolder "\x7b", [], []⟩ [.append shopOrder, .find shopOrder.id]) rfl
    hruns
  have hfind := find_runs (i := 1) (s := { journal := k }) shopOrder.id (fun _ => rfl) rfl
  rw [hlost] at hfind
  obtain ⟨later, hlater⟩ := System.exists_run_of_runs (i := 1)
    (s := ⟨{ journal := k }, [.append shopOrder (.finished (.ok shopOrder.id)),
      .find shopOrder.id .looking]⟩) rfl hfind
  exact ⟨_, steps, _, later, _, hopen, Journal.record?_lineOf_shopOrder, hrun, rfl, hlater, rfl⟩

end ApiGateway.Audit
