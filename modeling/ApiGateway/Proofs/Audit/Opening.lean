import ApiGateway.Proofs.Audit.Lineage
import ApiGateway.Proofs.Audit.Partitions
import Mathlib.Data.List.Induction

/-! # Opening any folder

What is in the files of a folder is arbitrary here. The folder can be opened if its partitions and
its lineage can be read (`ofFolder_eq_ok`), and the index then tells of an identifier the last
partition that has a line with it (`lookup_index`).
-/

set_option autoImplicit false

namespace ApiGateway.Audit.Journal

variable {folder : Folder}

/-! ## Partitions -/

/-- Lists that ascend strictly are equal if they have the same members. -/
theorem eq_of_ascending {ps qs : List String} (hps : ps.Pairwise (· < ·))
    (hqs : qs.Pairwise (· < ·)) (h : ∀ p, p ∈ ps ↔ p ∈ qs) : ps = qs := by
  have hperm : ps.Perm qs := (List.perm_ext_iff_of_nodup (Ledger.nodup_of_ascending hps)
    (Ledger.nodup_of_ascending hqs)).2 h
  exact hperm.eq_of_pairwise (fun _ _ _ _ hlt hgt => absurd hgt (String.lt_asymm hlt)) hps hqs

/-- The partitions of a folder ascend strictly. -/
theorem ascending_partitions (h : folder.Ascending) : (partitions folder).Pairwise (· < ·) := by
  have hnames : (folder.map (·.1)).Nodup := Ledger.nodup_of_ascending h
  have hsorted : (partitions folder).Pairwise fun a b => decide (a ≤ b) = true :=
    List.pairwise_mergeSort (by simpa using fun a b c => String.le_trans)
      (by simpa using fun a b => String.le_total a b) _
  have hnodup : (partitions folder).Nodup := by
    refine (List.mergeSort_perm _ _).nodup_iff.2 ?_
    refine List.Pairwise.filterMap _ ?_ (List.pairwise_map.1 hnames)
    rintro q q' hne p hp p' hp' rfl
    exact hne ((eq_fileName_of_partition? hp).1.trans (eq_fileName_of_partition? hp').1.symm)
  refine (hsorted.and hnodup).imp fun {p q} ⟨hle, hne⟩ => ?_
  refine Classical.byContradiction fun hge => hne ?_
  exact String.le_antisymm (of_decide_eq_true hle) (String.not_lt.1 hge)

theorem mem_partitions_iff {p : String} :
    p ∈ partitions folder ↔ fileName p ∈ folder.map (·.1) ∧ partition? (fileName p) = some p := by
  rw [mem_partitions, List.mem_map]
  constructor
  · rintro ⟨q, hq, hname⟩
    have heq := (eq_fileName_of_partition? hname).1
    exact ⟨⟨q, hq, heq⟩, heq ▸ hname⟩
  · rintro ⟨⟨q, hq, hname⟩, hp⟩
    exact ⟨q, hq, hname ▸ hp⟩

/-- A file of the folder adds at most its own partition. -/
theorem mem_partitions_put {p q : String} {entry : Entry} (hp : IsPartition p) :
    q ∈ partitions (folder.put (fileName p) entry) ↔ q = p ∨ q ∈ partitions folder := by
  rw [mem_partitions_iff, mem_partitions_iff, Folder.mem_names_put]
  constructor
  · rintro ⟨hname | hname, hq⟩
    · exact Or.inl (fileName_injective hname)
    · exact Or.inr ⟨hname, hq⟩
  · rintro (rfl | ⟨hname, hq⟩)
    · exact ⟨Or.inl rfl, partition?_fileName hp⟩
    · exact ⟨Or.inr hname, hq⟩

/-! ## The index -/

/-- The identifiers in the lines of a partition; one that cannot be read has none. -/
def idsIn (folder : Folder) (p : String) : List RecordId :=
  match linesOf (fileName p) folder with
  | .ok ls => ls.filterMap id?
  | .error _ => []

/-- The file of a partition can be read. -/
def IsReadable (folder : Folder) (name : String) : Prop := ∃ ls, linesOf name folder = .ok ls

theorem idsIn_of_linesOf {p : String} {ls : List String}
    (h : linesOf (fileName p) folder = .ok ls) : idsIn folder p = ls.filterMap id? := by
  unfold idsIn
  rw [h]

/-- The entries of the index in the order of the lines. -/
def indexEntries (folder : Folder) (ps : List String) : List (RecordId × String) :=
  ps.flatMap fun p => (idsIn folder p).map (·, p)

theorem foldl_cons_index (p : String) (ids : List RecordId) (index : List (RecordId × String)) :
    ids.foldl (fun index id => (id, p) :: index) index = (ids.map (·, p)).reverse ++ index := by
  induction ids generalizing index with
  | nil => rfl
  | cons id ids ih => simp [ih]

/-- The index has the latest line first. -/
theorem indexOf_eq_ok {ps : List String} {index index' : List (RecordId × String)} :
    indexOf folder index ps = .ok index' ↔
      (∀ p ∈ ps, IsReadable folder (fileName p)) ∧
        index' = (indexEntries folder ps).reverse ++ index := by
  induction ps generalizing index with
  | nil =>
      rw [indexOf, Except.ok.injEq]
      exact ⟨fun h => ⟨fun _ hp => (nomatch hp), h.symm⟩, fun h => h.2.symm⟩
  | cons p ps ih =>
      rw [indexOf]
      cases hls : linesOf (fileName p) folder with
      | error e =>
          refine ⟨fun h => (nomatch h), fun h => ?_⟩
          obtain ⟨ls, hls'⟩ := h.1 p List.mem_cons_self
          rw [hls] at hls'
          cases hls'
      | ok ls =>
          have hentries : indexEntries folder (p :: ps) =
              (ls.filterMap id?).map (·, p) ++ indexEntries folder ps := by
            unfold indexEntries
            rw [List.flatMap_cons, idsIn_of_linesOf hls]
          show indexOf folder (List.foldl _ index (List.filterMap id? ls)) ps = .ok index' ↔ _
          rw [foldl_cons_index, ih, hentries, List.reverse_append, List.append_assoc,
            List.forall_mem_cons]
          exact and_congr_left fun _ => ⟨fun h => ⟨⟨ls, hls⟩, h⟩, fun h => h.2⟩

/-- The index tells of an identifier the last partition that has it. -/
theorem lookup_index (folder : Folder) (ps : List String) (id : RecordId) :
    (indexEntries folder ps).reverse.lookup id =
      (ps.filter fun p => (idsIn folder p).contains id).getLast? := by
  induction ps using List.reverseRecOn with
  | nil => rfl
  | append_singleton ps p ih =>
      have hlast : ((idsIn folder p).map (·, p)).reverse.lookup id =
          if (idsIn folder p).contains id then some p else none := by
        rw [← List.map_reverse]
        have hcontains : (idsIn folder p).contains id = (idsIn folder p).reverse.contains id := by
          rw [Bool.eq_iff_iff]
          simp
        rw [hcontains]
        induction (idsIn folder p).reverse with
        | nil => rfl
        | cons i ids ih =>
            rw [List.map_cons, List.lookup_cons, List.contains_cons, ih]
            cases id == i <;> rfl
      unfold indexEntries at ih ⊢
      rw [List.flatMap_append, List.flatMap_singleton, List.reverse_append, List.lookup_append,
        hlast, ih, List.filter_append, List.getLast?_append, List.filter_singleton]
      cases (idsIn folder p).contains id <;> rfl

/-- So it tells of an identifier the only partition that has it. -/
theorem lookup_index_eq_some {ps : List String} {p : String} {id : RecordId} (hp : p ∈ ps)
    (hid : id ∈ idsIn folder p) (honly : ∀ q ∈ ps, id ∈ idsIn folder q → q = p) :
    (indexEntries folder ps).reverse.lookup id = some p := by
  have hmem : p ∈ ps.filter fun q => (idsIn folder q).contains id :=
    List.mem_filter.2 ⟨hp, List.contains_iff_mem.2 hid⟩
  rw [lookup_index, List.getLast?_eq_some_getLast (List.ne_nil_of_mem hmem)]
  obtain ⟨hlast, hcontains⟩ := List.mem_filter.1 (List.getLast_mem (List.ne_nil_of_mem hmem))
  exact congrArg some (honly _ hlast (List.contains_iff_mem.1 hcontains))

/-- What it tells of an identifier is a partition that has it. -/
theorem mem_of_lookup_index {ps : List String} {p : String} {id : RecordId}
    (h : (indexEntries folder ps).reverse.lookup id = some p) : p ∈ ps ∧ id ∈ idsIn folder p := by
  rw [lookup_index] at h
  obtain ⟨hp, hcontains⟩ := List.mem_filter.1 (List.mem_of_getLast? h)
  exact ⟨hp, List.contains_iff_mem.1 hcontains⟩

/-- A folder is opened if its files can be read. -/
theorem ofFolder_eq_ok {j : Journal} :
    ofFolder folder = .ok j ↔
      (∀ p ∈ partitions folder, IsReadable folder (fileName p)) ∧
        ∃ ls, linesOf lineageName folder = .ok ls ∧
          j = ⟨folder, (indexEntries folder (partitions folder)).reverse,
            lineageOf (ls.filterMap lineage?)⟩ := by
  unfold ofFolder
  cases hindex : indexOf folder [] (partitions folder) with
  | error e =>
      refine ⟨fun h => (nomatch h), fun h => ?_⟩
      rw [indexOf_eq_ok.2 ⟨h.1, rfl⟩] at hindex
      cases hindex
  | ok index =>
      obtain ⟨hreadable, rfl⟩ := indexOf_eq_ok.1 hindex
      rw [List.append_nil]
      cases hls : linesOf lineageName folder with
      | error e =>
          refine ⟨fun h => (nomatch h), fun h => ?_⟩
          obtain ⟨ls, heq, _⟩ := h.2
          cases heq
      | ok ls =>
          constructor
          · intro h
            cases h
            exact ⟨hreadable, ls, rfl, rfl⟩
          · rintro ⟨_, ls', heq, rfl⟩
            cases heq
            rfl

/-! ## Listings -/

theorem matching_eq_of_linesOf {j : Journal} {ls : String → List String} {ps : List String}
    (h : ∀ p ∈ ps, linesOf (fileName p) j.folder = .ok (ls p)) :
    j.matching {} ps = (ps.flatMap fun p => (ls p).filterMap record?).map fun r =>
      .ok (j.withReplays r) := by
  have hall : ∀ r : Record, ({} : Filter).accepts r = true := fun _ => rfl
  induction ps with
  | nil => rfl
  | cons p ps ih =>
      rw [matching, h p List.mem_cons_self]
      dsimp only
      rw [ih fun q hq => h q (List.mem_cons_of_mem p hq), List.flatMap_cons, List.map_append,
        List.filter_eq_self.2 fun r _ => hall r]

/-- A listing without a filter has the records of all partitions. -/
theorem list_eq_of_linesOf {j : Journal} {ls : String → List String}
    (h : ∀ p ∈ partitions j.folder, linesOf (fileName p) j.folder = .ok (ls p)) :
    j.list {} = ((partitions j.folder).flatMap fun p => (ls p).filterMap record?).map fun r =>
      .ok (j.withReplays r) := by
  have hpage : ∀ items : List (Except StoreError Record), ({} : Filter).page items = items :=
    fun _ => rfl
  have hwanted : (partitions j.folder).filter (fun p =>
      ({} : Filter).provider.all fun provider => partitionName provider = p) =
        partitions j.folder := List.filter_eq_self.2 fun _ _ => rfl
  unfold list
  dsimp only
  rw [hpage, hwanted, matching_eq_of_linesOf h]

end ApiGateway.Audit.Journal
