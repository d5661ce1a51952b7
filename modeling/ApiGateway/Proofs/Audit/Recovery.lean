import ApiGateway.Proofs.Audit.Tail
import ApiGateway.Proofs.Record.Lines

/-! # Appending to any file

`recovers_append_iff` says what becomes of a record that is appended to a file with any text: if
nothing but spaces stand behind the last line end, then what is read of its line is found, and so
are all other records; otherwise it is lost.
-/

set_option autoImplicit false

namespace ApiGateway.Audit.Journal

/-! ## Appending -/

/-- A journal has a record beside all records that another one has. -/
structure Recovers (j : Journal) (r : Record) (k : Journal) : Prop where
  found : k.find r.id = .ok (j.withReplays r)
  others : ∀ id ≠ r.id, k.find id = j.find id
  records : ∃ ls ls', linesOf (fileName r.provider) j.folder = .ok ls ∧
    linesOf (fileName r.provider) k.folder = .ok ls' ∧
    ls'.filterMap record? = ls.filterMap record? ++ [r]

/-- The folder behind an append. -/
def appended (r : Record) (folder : Folder) : Folder :=
  folder.put (fileName r.provider)
    (.file (textOf (fileName r.provider) folder ++ lineOf r ++ "\n"))

variable {folder : Folder} {j : Journal} {r : Record}

theorem linesOf_appended (r : Record) (folder : Folder) :
    linesOf (fileName r.provider) (appended r folder) =
      .ok (endedLines (textOf (fileName r.provider) folder) ++
        [glued (tail (textOf (fileName r.provider) folder)) r]) := by
  unfold linesOf appended
  rw [Folder.lookup_put_self]
  exact congrArg Except.ok (lines_append (isLine_lineOf r) (lineOf_ne_empty r) _)

theorem linesOf_appended_of_ne {name : String} (h : name ≠ fileName r.provider)
    (folder : Folder) : linesOf name (appended r folder) = linesOf name folder := by
  unfold linesOf appended
  rw [Folder.lookup_put_of_ne h]

theorem withReplays_of_lineage_eq {k : Journal} (h : k.lineage = j.lineage) (x : Record) :
    k.withReplays x = j.withReplays x :=
  withReplays_congr (by rw [h])

/-- The line of a new record is found by its identifier if only spaces stand before it. -/
theorem find?_appended_self (hid : id? (lineOf r) = some r.id) {text : String}
    (hended : ∀ line ∈ endedLines text, id? line ≠ some r.id) :
    (endedLines text ++ [glued (tail text) r]).find? (fun line => id? line = some r.id) =
      if (tail text).all Json.isSpace then some (glued (tail text) r) else none := by
  rw [List.find?_append, List.find?_eq_none.2 (by simpa using hended), Option.none_or]
  split
  · rename_i hspaces
    rw [List.find?_cons_of_pos (by simp [id?_glued hid, hspaces])]
  · rename_i hspaces
    rw [List.find?_cons_of_neg (by simp [id?_glued hid, hspaces]), List.find?_nil]

/-- Behind a tail of spaces it does not come in the way of other identifiers. -/
theorem find?_appended_of_ne (hid : id? (lineOf r) = some r.id) {text : String}
    (hspaces : (tail text).all Json.isSpace = true) {id : RecordId} (hne : id ≠ r.id) :
    (endedLines text ++ [glued (tail text) r]).find? (fun line => id? line = some id) =
      (lines text).find? fun line => id? line = some id := by
  rw [find?_lines (by simp [id?_spaces hspaces]), List.find?_append,
    List.find?_cons_of_neg (by simp [id?_glued hid, hspaces, Ne.symm hne]), List.find?_nil,
    Option.or_none]

theorem ne_of_mem_endedLines (hreadable : IsReadable j.folder (fileName r.provider))
    (hnew : r.id ∉ idsIn j.folder r.provider) :
    ∀ line ∈ endedLines (textOf (fileName r.provider) j.folder), id? line ≠ some r.id := by
  intro line hline hid
  refine hnew ?_
  rw [idsIn_of_linesOf hreadable.linesOf_eq, lines_eq]
  exact List.mem_filterMap.2 ⟨line, List.mem_append_left _ hline, hid⟩

/-- Behind a tail of spaces what is found of the new record is what is read of its line. -/
theorem find_of_spaces (hid : id? (lineOf r) = some r.id)
    (hreadable : IsReadable j.folder (fileName r.provider))
    (hspaces : (tail (textOf (fileName r.provider) j.folder)).all Json.isSpace = true)
    (hnew : r.id ∉ idsIn j.folder r.provider) {k : Journal}
    (hfolder : k.folder = appended r j.folder) (hlineage : k.lineage = j.lineage)
    (hself : k.index.lookup r.id = some r.provider) :
    k.find r.id = ((record? (lineOf r)).map j.withReplays).elim (.error .serialization) .ok := by
  have hfind := find?_appended_self hid (ne_of_mem_endedLines hreadable hnew)
  rw [if_pos hspaces] at hfind
  unfold find
  rw [hself, hfolder]
  dsimp only
  rw [linesOf_appended]
  simp only [bind, Except.bind, hfind, record?_glued hid, if_pos hspaces]
  cases record? (lineOf r) with
  | none => rfl
  | some x => exact congrArg Except.ok (withReplays_of_lineage_eq hlineage x)

/-- Behind a tail of spaces whatever else was found is found again. -/
theorem find_of_spaces_of_ne (hid : id? (lineOf r) = some r.id)
    (hreadable : IsReadable j.folder (fileName r.provider))
    (hspaces : (tail (textOf (fileName r.provider) j.folder)).all Json.isSpace = true)
    {k : Journal} (hfolder : k.folder = appended r j.folder) (hlineage : k.lineage = j.lineage)
    {id : RecordId} (hne : id ≠ r.id) (hindex : k.index.lookup id = j.index.lookup id) :
    k.find id = j.find id := by
  unfold find
  rw [hindex, hfolder]
  cases j.index.lookup id with
  | none => rfl
  | some p =>
      dsimp only
      by_cases hp : fileName p = fileName r.provider
      · rw [hp, linesOf_appended, hreadable.linesOf_eq]
        simp only [bind, Except.bind, find?_appended_of_ne hid hspaces hne,
          withReplays_of_lineage_eq hlineage]
      · rw [linesOf_appended_of_ne hp]
        simp only [withReplays_of_lineage_eq hlineage]

/-- Behind a tail of spaces what is read of the new line comes behind the records from before. -/
theorem filterMap_record?_appended (hid : id? (lineOf r) = some r.id) {text : String}
    (hspaces : (tail text).all Json.isSpace = true) :
    (endedLines text ++ [glued (tail text) r]).filterMap record? =
      (lines text).filterMap record? ++ (record? (lineOf r)).toList := by
  rw [List.filterMap_append, filterMap_lines (record?_spaces hspaces), List.filterMap_cons,
    record?_glued hid, if_pos hspaces]
  cases record? (lineOf r) <;> rfl

/-- Behind a tail of spaces a record that reads back is found, and so are the ones from before. -/
theorem recovers_of_spaces (hid : id? (lineOf r) = some r.id)
    (hreads : record? (lineOf r) = some r)
    (hreadable : IsReadable j.folder (fileName r.provider))
    (hspaces : (tail (textOf (fileName r.provider) j.folder)).all Json.isSpace = true)
    (hnew : r.id ∉ idsIn j.folder r.provider) {k : Journal}
    (hfolder : k.folder = appended r j.folder) (hlineage : k.lineage = j.lineage)
    (hself : k.index.lookup r.id = some r.provider)
    (hindex : ∀ id ≠ r.id, k.index.lookup id = j.index.lookup id) : j.Recovers r k where
  found := by
    rw [find_of_spaces hid hreadable hspaces hnew hfolder hlineage hself, hreads]
    rfl
  others := fun id hne =>
    find_of_spaces_of_ne hid hreadable hspaces hfolder hlineage hne (hindex id hne)
  records := by
    refine ⟨_, _, hreadable.linesOf_eq, hfolder ▸ linesOf_appended r j.folder, ?_⟩
    rw [filterMap_record?_appended hid hspaces, hreads]
    rfl

/-- Behind any other tail the record is nowhere to be found. -/
theorem find_of_not_spaces (hid : id? (lineOf r) = some r.id)
    (hreadable : IsReadable j.folder (fileName r.provider))
    (hspaces : (tail (textOf (fileName r.provider) j.folder)).all Json.isSpace = false)
    (hnew : r.id ∉ idsIn j.folder r.provider) {k : Journal}
    (hfolder : k.folder = appended r j.folder)
    (honly : ∀ p, k.index.lookup r.id = some p → p = r.provider) :
    k.find r.id = .error (.notFound r.id) := by
  have hfind := find?_appended_self hid (ne_of_mem_endedLines hreadable hnew)
  rw [hspaces, if_neg Bool.false_ne_true] at hfind
  unfold find
  cases hlookup : k.index.lookup r.id with
  | none => rfl
  | some p =>
      rw [honly p hlookup, hfolder]
      dsimp only
      rw [linesOf_appended]
      simp only [bind, Except.bind, hfind]

/-! ## Opening before and after -/

theorem isReadable_of_ofFolder (h : ofFolder folder = .ok j) {p : String} (hp : IsPartition p) :
    IsReadable folder (fileName p) := by
  by_cases hmem : p ∈ partitions folder
  · exact (ofFolder_eq_ok.1 h).1 p hmem
  · -- without its file a partition has no lines
    have hname : fileName p ∉ folder.map (·.1) := fun hname =>
      hmem (mem_partitions_iff.2 ⟨hname, partition?_fileName hp⟩)
    refine ⟨[], ?_⟩
    unfold linesOf
    rw [lookup_eq_none_iff_not_mem.2 hname]

theorem idsIn_appended_of_ne {q : String} (h : q ≠ r.provider) (folder : Folder) :
    idsIn (appended r folder) q = idsIn folder q := by
  unfold idsIn
  rw [linesOf_appended_of_ne fun hname => h (fileName_injective hname)]

/-- A partition with an identifier has a file. -/
theorem mem_partitions_of_mem_idsIn {p : String} (hp : IsPartition p) {id : RecordId}
    (hid : id ∈ idsIn folder p) : p ∈ partitions folder := by
  refine mem_partitions_iff.2 ⟨?_, partition?_fileName hp⟩
  refine Classical.byContradiction fun hname => ?_
  unfold idsIn linesOf at hid
  rw [lookup_eq_none_iff_not_mem.2 hname] at hid
  cases hid

/-- An identifier that the opened index does not tell is in no line. -/
theorem not_mem_idsIn_of_ofFolder (h : ofFolder folder = .ok j) {id : RecordId}
    (hnone : j.index.lookup id = none) : ∀ p ∈ partitions folder, id ∉ idsIn folder p := by
  intro p hp hid
  obtain ⟨_, ls, _, rfl⟩ := ofFolder_eq_ok.1 h
  dsimp only at hnone
  rw [lookup_index, List.getLast?_eq_none_iff, List.filter_eq_nil_iff] at hnone
  exact hnone p hp (List.contains_iff_mem.2 hid)

/-- The folder behind an append is opened with the same lineage. -/
theorem ofFolder_appended (hopen : ofFolder folder = .ok j) (hp : IsPartition r.provider) :
    ∃ k, ofFolder (appended r folder) = .ok k ∧ k.folder = appended r folder ∧
      k.lineage = j.lineage ∧
      k.index = (indexEntries (appended r folder) (partitions (appended r folder))).reverse := by
  obtain ⟨hreadable, ls, hls, rfl⟩ := ofFolder_eq_ok.1 hopen
  refine ⟨_, ofFolder_eq_ok.2 ⟨fun q hq => ?_, ls, ?_, rfl⟩, rfl, rfl, rfl⟩
  · by_cases hqp : q = r.provider
    · exact hqp ▸ ⟨_, linesOf_appended r folder⟩
    · obtain ⟨ls, hls⟩ := hreadable q ((mem_partitions_put hp).1 hq |>.resolve_left hqp)
      exact ⟨ls, (linesOf_appended_of_ne (fun h => hqp (fileName_injective h)) folder).trans hls⟩
  · rw [linesOf_appended_of_ne hp.fileName_ne_lineageName.symm, hls]

theorem idsIn_appended_self (hid : id? (lineOf r) = some r.id)
    (hreadable : IsReadable folder (fileName r.provider))
    (hspaces : (tail (textOf (fileName r.provider) folder)).all Json.isSpace = true) :
    idsIn (appended r folder) r.provider = idsIn folder r.provider ++ [r.id] := by
  rw [idsIn_of_linesOf (linesOf_appended r folder), idsIn_of_linesOf hreadable.linesOf_eq,
    filterMap_lines (id?_spaces hspaces), List.filterMap_append, List.filterMap_cons,
    id?_glued hid, if_pos hspaces]
  rfl

theorem mem_partitions_appended {q : String} (hp : IsPartition r.provider) :
    q ∈ partitions (appended r folder) ↔ q = r.provider ∨ q ∈ partitions folder :=
  mem_partitions_put hp

/-- No other partition has the identifier of the new record. -/
theorem eq_provider_of_mem_idsIn_appended (hp : IsPartition r.provider)
    (hids : ∀ q ∈ partitions folder, r.id ∉ idsIn folder q) {q : String}
    (hq : q ∈ partitions (appended r folder)) (hid : r.id ∈ idsIn (appended r folder) q) :
    q = r.provider := by
  refine Classical.byContradiction fun hne => ?_
  rw [idsIn_appended_of_ne hne] at hid
  exact hids q (((mem_partitions_appended hp).1 hq).resolve_left hne) hid

/-- Opened anew, the index tells no other partition of the new record. -/
theorem eq_provider_of_lookup_index_appended (hp : IsPartition r.provider)
    (hids : ∀ q ∈ partitions folder, r.id ∉ idsIn folder q) {q : String}
    (h : (indexEntries (appended r folder) (partitions (appended r folder))).reverse.lookup r.id =
      some q) : q = r.provider := by
  obtain ⟨hq, hid⟩ := mem_of_lookup_index h
  exact eq_provider_of_mem_idsIn_appended hp hids hq hid

theorem lookup_index_appended_self (hp : IsPartition r.provider)
    (hids : ∀ q ∈ partitions folder, r.id ∉ idsIn folder q)
    (hself : r.id ∈ idsIn (appended r folder) r.provider) :
    (indexEntries (appended r folder) (partitions (appended r folder))).reverse.lookup r.id =
      some r.provider :=
  lookup_index_eq_some ((mem_partitions_appended hp).2 (Or.inl rfl)) hself fun _ =>
    eq_provider_of_mem_idsIn_appended hp hids

/-- Of all other identifiers it tells what it told before. -/
theorem lookup_index_appended_of_ne (hascending : folder.Ascending) (hp : IsPartition r.provider)
    (hids : idsIn (appended r folder) r.provider = idsIn folder r.provider ++ [r.id])
    {id : RecordId} (hid : id ≠ r.id) :
    (indexEntries (appended r folder) (partitions (appended r folder))).reverse.lookup id =
      (indexEntries folder (partitions folder)).reverse.lookup id := by
  have hcontains : ∀ q, (idsIn (appended r folder) q).contains id =
      (idsIn folder q).contains id := by
    intro q
    by_cases hq : q = r.provider
    · subst hq
      rw [hids]
      simp [hid]
    · rw [idsIn_appended_of_ne hq]
  rw [lookup_index, lookup_index]
  -- a partition that the append makes has no identifier but the new one
  refine congrArg List.getLast? (eq_of_ascending ?_ ?_ fun q => ?_)
  · exact (ascending_partitions (hascending.put _ _)).filter _
  · exact (ascending_partitions hascending).filter _
  · simp only [List.mem_filter, mem_partitions_appended hp, hcontains,
      List.contains_iff_mem]
    constructor
    · rintro ⟨rfl | hq, hmem⟩
      · exact ⟨mem_partitions_of_mem_idsIn hp hmem, hmem⟩
      · exact ⟨hq, hmem⟩
    · exact fun ⟨hq, hmem⟩ => ⟨Or.inr hq, hmem⟩

/-! ## The journal behind an append -/

/-- What an append to an opened journal gives. -/
theorem append_eq_of_ofFolder (hopen : ofFolder folder = .ok j) (hp : IsPartition r.provider)
    (hnew : j.index.lookup r.id = none) :
    j.append r = (⟨appended r folder, (r.id, r.provider) :: j.index, j.lineage⟩, .ok r.id) := by
  have hreadable := isReadable_of_ofFolder hopen hp
  obtain ⟨_, ls, _, rfl⟩ := ofFolder_eq_ok.1 hopen
  dsimp only at hnew
  unfold Journal.append
  dsimp only
  rw [hnew, partitionName_of_isSlug hp.slug, hreadable.appendLine_eq]
  rfl

/-- The index behind an append finds the record in its own partition or not at all, and nothing
else in there; also if it is made anew. -/
structure Finds (j : Journal) (r : Record) (k : Journal) : Prop where
  folder : k.folder = appended r j.folder
  lineage : k.lineage = j.lineage
  only : ∀ p, k.index.lookup r.id = some p → p = r.provider
  found : r.id ∈ idsIn (appended r j.folder) r.provider → k.index.lookup r.id = some r.provider
  others : idsIn (appended r j.folder) r.provider = idsIn j.folder r.provider ++ [r.id] →
    ∀ id ≠ r.id, k.index.lookup id = j.index.lookup id

theorem finds_append (j : Journal) (r : Record) :
    j.Finds r ⟨appended r j.folder, (r.id, r.provider) :: j.index, j.lineage⟩ where
  folder := rfl
  lineage := rfl
  only p hp := by
    rw [List.lookup_cons_self] at hp
    exact (Option.some.inj hp).symm
  found _ := List.lookup_cons_self
  others _ id hne := by rw [List.lookup_cons, beq_eq_false_iff_ne.2 hne]

theorem finds_ofFolder (hascending : folder.Ascending) (hopen : ofFolder folder = .ok j)
    (hp : IsPartition r.provider) (hids : ∀ q ∈ partitions folder, r.id ∉ idsIn folder q) :
    ∃ k, ofFolder (appended r folder) = .ok k ∧ j.Finds r k := by
  obtain ⟨k, hopen', hfolder, hlineage, hindex⟩ := ofFolder_appended hopen hp
  obtain ⟨_, ls, _, rfl⟩ := ofFolder_eq_ok.1 hopen
  refine ⟨k, hopen', hfolder, hlineage, ?_, ?_, ?_⟩
  · rw [hindex]
    exact fun q => eq_provider_of_lookup_index_appended hp hids
  · rw [hindex]
    exact lookup_index_appended_self hp hids
  · rw [hindex]
    exact fun hids' id => lookup_index_appended_of_ne hascending hp hids'

theorem Finds.recovers_iff {k : Journal} (h : j.Finds r k)
    (hregular : r.Regular) (hvalues : ∀ v ∈ r.values, v.Readable)
    (hreadable : IsReadable j.folder (fileName r.provider))
    (hnew : r.id ∉ idsIn j.folder r.provider) :
    j.Recovers r k ↔
      (tail (textOf (fileName r.provider) j.folder)).all Json.isSpace = true ∧ r.Lossless := by
  have hid := id?_lineOf_of_readable hvalues
  by_cases hspaces : (tail (textOf (fileName r.provider) j.folder)).all Json.isSpace = true
  · rw [and_iff_right hspaces]
    have hids := idsIn_appended_self hid hreadable hspaces
    have hself := h.found (by rw [hids]; simp)
    constructor
    · intro hrecovers
      have hfound := hrecovers.found
      rw [find_of_spaces hid hreadable hspaces hnew h.folder h.lineage hself] at hfound
      cases hx : record? (lineOf r) with
      | none =>
          rw [hx] at hfound
          cases hfound
      | some x =>
          rw [hx] at hfound
          exact lossless_of_record?_lineOf hregular hvalues hx (Except.ok.inj hfound)
    · intro hlossless
      exact recovers_of_spaces hid ((record?_lineOf_iff hregular hvalues).2 hlossless) hreadable
        hspaces hnew h.folder h.lineage hself (h.others hids)
  · refine iff_of_false (fun hrecovers => ?_) fun hboth => hspaces hboth.1
    have hfind := find_of_not_spaces hid hreadable (Bool.eq_false_iff.2 hspaces) hnew h.folder
      h.only
    rw [hrecovers.found] at hfind
    cases hfind

/-- A record of a new identifier is appended to an opened journal, which can be opened again
behind that. The record and all others are then found, before and after it is opened again, exactly
if there are only spaces behind the last line end of the file to which the record was appended, and
nothing of the record is lost in its line. -/
theorem recovers_append_iff (hascending : folder.Ascending) (hopen : ofFolder folder = .ok j)
    (hp : IsPartition r.provider) (hregular : r.Regular) (hvalues : ∀ v ∈ r.values, v.Readable)
    (hnew : j.index.lookup r.id = none) :
    ∃ k k', j.append r = (k, .ok r.id) ∧ ofFolder k.folder = .ok k' ∧
      ∀ journal ∈ [k, k'], j.Recovers r journal ↔
        (tail (textOf (fileName r.provider) folder)).all Json.isSpace = true ∧ r.Lossless := by
  have hfolder : j.folder = folder := by
    obtain ⟨_, ls, _, rfl⟩ := ofFolder_eq_ok.1 hopen
    rfl
  have hreadable := isReadable_of_ofFolder hopen hp
  have hids := not_mem_idsIn_of_ofFolder hopen hnew
  have hself : r.id ∉ idsIn folder r.provider := fun hmem =>
    hids _ (mem_partitions_of_mem_idsIn hp hmem) hmem
  obtain ⟨k', hopen', hfinds'⟩ := finds_ofFolder hascending hopen hp hids
  subst hfolder
  refine ⟨_, k', append_eq_of_ofFolder hopen hp hnew, hopen', fun journal hjournal => ?_⟩
  have hfinds : j.Finds r journal := by
    rcases List.mem_cons.1 hjournal with rfl | hjournal
    · exact finds_append j r
    · exact List.mem_singleton.1 hjournal ▸ hfinds'
  exact hfinds.recovers_iff hregular hvalues hreadable hself

/-! ## A shop after a crash -/

/-- A folder with one partition. -/
def shopFolder (text : String) : Folder := [("shop.jsonl", .file text)]

/-- An order of the shop. -/
def shopOrder : Record := amountOrder "shop" firstOrder ⟨1700000000, 0⟩

theorem isPartition_shopOrder : IsPartition shopOrder.provider := ⟨by decide, by decide⟩

theorem regular_shopOrder : shopOrder.Regular :=
  regular_amountOrder _ _ ⟨by decide, by decide, by decide, by decide⟩

theorem record?_lineOf_shopOrder : record? (lineOf shopOrder) = some shopOrder :=
  record?_lineOf_amountOrder _ _ regular_shopOrder.createdAt

theorem linesOf_shopFolder (name text : String) :
    linesOf name (shopFolder text) = .ok (if name = "shop.jsonl" then lines text else []) := by
  unfold linesOf shopFolder
  rw [List.lookup_cons]
  by_cases h : name = "shop.jsonl"
  · rw [if_pos h, h, beq_self_eq_true]
  · rw [if_neg h, beq_eq_false_iff_ne.2 h]
    rfl

theorem idsIn_shopFolder {text : String} (h : (lines text).filterMap id? = []) (p : String) :
    idsIn (shopFolder text) p = [] := by
  rw [idsIn_of_linesOf (linesOf_shopFolder _ _)]
  split
  · exact h
  · rfl

/-- A partition without records is opened as an empty journal. -/
theorem ofFolder_shopFolder {text : String} (h : (lines text).filterMap id? = []) :
    ofFolder (shopFolder text) = .ok ⟨shopFolder text, [], []⟩ := by
  have hindex : ∀ ps, indexEntries (shopFolder text) ps = [] := by
    intro ps
    refine List.flatMap_eq_nil_iff.2 fun p _ => ?_
    rw [idsIn_shopFolder h]
    rfl
  refine ofFolder_eq_ok.2 ⟨fun p _ => ⟨_, linesOf_shopFolder _ _⟩, [], rfl, ?_⟩
  rw [hindex]
  rfl

/-- Behind a whole line that nobody can read an order is kept. -/
theorem recovers_append_unreadableLine :
    ∃ k k', Journal.append shopOrder ⟨shopFolder "out of space\n", [], []⟩ =
        (k, .ok shopOrder.id) ∧
      ofFolder k.folder = .ok k' ∧
      ∀ journal ∈ [k, k'],
        Recovers ⟨shopFolder "out of space\n", [], []⟩ shopOrder journal := by
  have hid : id? "out of space" = none := by
    have hlex : Json.lex "out of space".toList = none := Json.lex_cons_of_none rfl rfl
    unfold id? Json.readFields
    rw [hlex]
    rfl
  have hlines : lines "out of space\n" = ["out of space"] := by decide
  have hopen : ofFolder (shopFolder "out of space\n") =
      .ok ⟨shopFolder "out of space\n", [], []⟩ := by
    refine ofFolder_shopFolder ?_
    rw [hlines, List.filterMap_cons, hid]
    rfl
  have hascending : (shopFolder "out of space\n").Ascending := by
    simp [Folder.Ascending, shopFolder]
  obtain ⟨k, k', happend, hopen', hiff⟩ := recovers_append_iff hascending hopen
    isPartition_shopOrder regular_shopOrder (readable_amountOrder _ _) rfl
  exact ⟨k, k', happend, hopen', fun journal hjournal =>
    (hiff journal hjournal).2 ⟨by decide, lossless_amountOrder _ _⟩⟩

/-- Behind half a line an order is lost, though the append succeeds. -/
theorem lost_append_halfLine :
    ∃ j k k', ofFolder (shopFolder "\x7b\"id\":") = .ok j ∧
      IsPartition shopOrder.provider ∧ record? (lineOf shopOrder) = some shopOrder ∧
      j.index.lookup shopOrder.id = none ∧
      j.append shopOrder = (k, .ok shopOrder.id) ∧ ofFolder k.folder = .ok k' ∧
      k.find shopOrder.id = .error (.notFound shopOrder.id) ∧
      k'.find shopOrder.id = .error (.notFound shopOrder.id) := by
  have hid : id? "\x7b\"id\":" = none := by
    have hlex : Json.lex "\x7b\"id\":".toList = some [.beginObj, .str "id", .colon] := by
      have hend : Json.lex [':'] = some [.colon] := by
        rw [Json.lex_cons rfl rfl, Json.lex]
        rfl
      have hkey : Json.lex ['"', 'i', 'd', '"', ':'] = some [.str "id", .colon] := by
        rw [Json.lex_cons (t := .str "id") rfl rfl, hend]
        rfl
      exact (Json.lex_cons rfl rfl).trans (congrArg (Option.map _) hkey)
    unfold id? Json.readFields
    rw [hlex]
    rfl
  have hnone : (lines "\x7b\"id\":").filterMap id? = [] := by
    rw [show lines "\x7b\"id\":" = ["\x7b\"id\":"] by decide, List.filterMap_cons, hid]
    rfl
  have hids : ∀ p, shopOrder.id ∉ idsIn (shopFolder "\x7b\"id\":") p := by
    intro p hmem
    rw [idsIn_shopFolder hnone] at hmem
    cases hmem
  have hopen := ofFolder_shopFolder hnone
  have hshop := isPartition_shopOrder
  have hreadable := isReadable_of_ofFolder hopen hshop
  have hascending : (shopFolder "\x7b\"id\":").Ascending := by
    simp [Folder.Ascending, shopFolder]
  have hlost (k : Journal) (h : Finds ⟨shopFolder "\x7b\"id\":", [], []⟩ shopOrder k) :
      k.find shopOrder.id = .error (.notFound shopOrder.id) :=
    find_of_not_spaces (id?_lineOf_of_readable (readable_amountOrder _ _)) hreadable (by decide)
      (hids _) h.folder h.only
  obtain ⟨k', hopen', hfinds'⟩ := finds_ofFolder hascending hopen hshop fun q _ => hids q
  exact ⟨_, _, k', hopen, hshop,
    record?_lineOf_shopOrder, rfl, append_eq_of_ofFolder hopen hshop rfl, hopen', hlost _ (finds_append _ _),
    hlost k' hfinds'⟩

end ApiGateway.Audit.Journal
