import ApiGateway.Proofs.Audit.Recovery
import ApiGateway.Proofs.Audit.States
import ApiGateway.Proofs.Failing

/-! # What a replay leaves in a store

A replay appends its own record and then tells the earlier record of it. `Store.Adds` says that a
store has one record more, `Store.Tells` that a record was told of a replay, and in both nothing
else differs; together they are `Store.Replays`. Telling always does what it says
(`Store.Proper.tells_attach`). An append adds its record just if the store retains the record, which
memory always does. A journal retains it if the record is not of the provider with the name of the
lineage, the file of its provider does not end within a line, and none of its values is too deep
for the reader of lines (`Journal.Retains`).
-/

set_option autoImplicit false

namespace ApiGateway.Audit

/-! ## One record more -/

namespace Store

/-- A store has one record more than before. -/
structure Adds (before after : Store) (x : Record) : Prop where
  new : before.find x.id = .error (.notFound x.id)
  added : after.find x.id = .ok x
  others : ∀ id ≠ x.id, after.find id = before.find id
  listed : (after.list {}).Perm (.ok x :: before.list {})

/-- The record with an identifier was told of a replay. -/
structure Tells (before after : Store) (earlier replay : RecordId) : Prop where
  found : ∀ id, after.find id = (before.find id).map (Ledger.addReplay earlier replay)
  listed : after.list {} = (before.list {}).map (Except.map (Ledger.addReplay earlier replay))

/-- A store has one record more than before, which is a replay of an earlier one. The earlier one
differs by being told of it once, and all others are as they were. -/
structure Replays (before after : Store) (earlier : RecordId) (original replay : Record) :
    Prop where
  new : before.find replay.id = .error (.notFound replay.id)
  added : after.find replay.id = .ok replay
  untold : replay.id ∉ original.replays
  told : after.find earlier = .ok { original with replays := original.replays ++ [replay.id] }
  others : ∀ id ≠ replay.id, id ≠ earlier → after.find id = before.find id
  listed : (after.list {}).Perm
    (.ok replay :: (before.list {}).map (Except.map (Ledger.addReplay earlier replay.id)))

end Store

theorem Ledger.addReplay_of_ne {earlier replay : RecordId} {r : Record} (h : r.id ≠ earlier) :
    Ledger.addReplay earlier replay r = r :=
  if_neg h

theorem Ledger.addReplay_of_not_mem {replay : RecordId} {r : Record} (h : replay ∉ r.replays) :
    Ledger.addReplay r.id replay r = { r with replays := r.replays ++ [replay] } := by
  unfold Ledger.addReplay Memory.addReplay
  rw [if_pos rfl, if_neg (by simpa using h)]

namespace Journal

/-! ## What is found in a journal -/

variable {j k : Journal} {id : RecordId}

/-- The record that is found for an identifier, as it stands in its line. -/
def stored (id : RecordId) (j : Journal) : Except StoreError Record :=
  match j.index.lookup id with
  | none => .error (.notFound id)
  | some p => do
    match (← linesOf (fileName p) j.folder).find? fun line => id? line = some id with
    | none => .error (.notFound id)
    | some line =>
      match record? line with
      | some r => .ok r
      | none => .error .serialization

theorem find_eq_map_stored (id : RecordId) (j : Journal) :
    j.find id = (j.stored id).map j.withReplays := by
  unfold find stored
  cases j.index.lookup id with
  | none => rfl
  | some p =>
      dsimp only
      cases linesOf (fileName p) j.folder with
      | error e => rfl
      | ok ls =>
          simp only [bind, Except.bind]
          cases ls.find? fun line => id? line = some id with
          | none => rfl
          | some line =>
              dsimp only
              cases record? line <;> rfl

/-- What is found has a line. -/
theorem exists_line_of_stored {r : Record} (h : j.stored id = .ok r) :
    ∃ line, id? line = some id ∧ record? line = some r := by
  unfold stored at h
  split at h
  · cases h
  · obtain ⟨ls, _, h⟩ := bind_eq_ok_iff.1 h
    split at h
    · cases h
    · rename_i line hline
      split at h
      · rename_i hr
        cases h
        exact ⟨line, by simpa using List.find?_some hline, hr⟩
      · cases h

theorem exists_line_of_find {r : Record} (h : j.find id = .ok r) :
    ∃ line x, id? line = some id ∧ record? line = some x ∧ j.withReplays x = r := by
  rw [find_eq_map_stored] at h
  obtain ⟨x, hx, rfl⟩ := exists_of_map_eq_ok h
  obtain ⟨line, hid, hr⟩ := exists_line_of_stored hx
  exact ⟨line, x, hid, hr, rfl⟩

theorem id_of_find {r : Record} (h : j.find id = .ok r) : r.id = id := by
  obtain ⟨line, x, hid, hr, rfl⟩ := exists_line_of_find h
  have hx : x.id = id := id_of_record? hid hr
  exact hx

theorem Proper.list_eq (h : j.Proper) :
    j.list {} = ((partitions j.folder).flatMap fun p =>
      (lines (textOf (fileName p) j.folder)).filterMap record?).map fun r =>
        .ok (j.withReplays r) :=
  list_eq_of_linesOf fun _ hp => (h.tidy.isReadable_of_mem hp).linesOf_eq

/-! ## Telling -/

theorem partitions_put_lineageName (entry : Entry) (folder : Folder) :
    partitions (folder.put lineageName entry) = partitions folder := by
  have hnone : partition? lineageName = none := by decide
  have hnames : (folder.put lineageName entry).filterMap (fun q => partition? q.1) =
      folder.filterMap fun q => partition? q.1 := by
    induction folder with
    | nil =>
        rw [Folder.put, List.filterMap_cons, hnone]
    | cons q folder ih =>
        obtain ⟨name, e⟩ := q
        rw [Folder.put]
        split
        · rw [List.filterMap_cons, hnone]
        · split
          · rename_i hname
            rw [List.filterMap_cons, List.filterMap_cons, ← hname, hnone]
          · rw [List.filterMap_cons, List.filterMap_cons, ih]
  unfold partitions
  exact congrArg (List.mergeSort · _) hnames

/-- The folder with one more line in the lineage. -/
def extended (earlier replay : RecordId) (folder : Folder) : Folder :=
  folder.put lineageName
    (.file (textOf lineageName folder ++ lineageLine earlier replay ++ "\n"))

/-- A line of the lineage does not come in the way of a record. -/
theorem stored_extended (h : j.Proper) (hreadable : IsReadable j.folder lineageName)
    (earlier replay : RecordId) (lineage : List (RecordId × List RecordId)) (id : RecordId) :
    stored id ⟨extended earlier replay j.folder, j.index, lineage⟩ = j.stored id := by
  have hline : lineageLine earlier replay ≠ "" := by
    intro hempty
    obtain ⟨inside, htext⟩ := Json.toList_render_obj
      [("original", earlier.toJson), ("replay", replay.toJson)]
    have hnil : (lineageLine earlier replay).toList = [] := by rw [hempty]; rfl
    rw [lineageLine, htext] at hnil
    cases hnil
  unfold stored
  dsimp only
  cases hlookup : j.index.lookup id with
  | none => rfl
  | some p =>
      dsimp only
      by_cases hp : fileName p = lineageName
      · -- the record is of the provider with the name of the lineage
        have hended : tail (textOf lineageName j.folder) = [] :=
          h.ended (List.mem_map.2 ⟨_, mem_of_lookup_eq_some hlookup,
            fileName_eq_lineageName_iff.1 hp⟩)
        have hlines : linesOf lineageName (extended earlier replay j.folder) =
            .ok (lines (textOf lineageName j.folder) ++ [lineageLine earlier replay]) := by
          unfold linesOf extended
          rw [Folder.lookup_put_self]
          show Except.ok (lines _) = _
          rw [lines_append (isLine_lineageLine earlier replay) hline, lines_of_tail_eq_nil hended,
            hended, List.nil_append, String.ofList_toList]
        rw [hp, hlines, hreadable.linesOf_eq]
        simp only [bind, Except.bind]
        rw [List.find?_append, List.find?_cons_of_neg (by simp [id?_lineageLine]), List.find?_nil,
          Option.or_none]
      · have hsame : linesOf (fileName p) (extended earlier replay j.folder) =
            linesOf (fileName p) j.folder := by
          unfold linesOf extended
          rw [Folder.lookup_put_of_ne hp]
        rw [hsame]

theorem find_of_stored_eq {f : Record → Record} (hstored : k.stored id = j.stored id)
    (hreplays : ∀ r, k.withReplays r = f (j.withReplays r)) : k.find id = (j.find id).map f := by
  rw [find_eq_map_stored, find_eq_map_stored, hstored]
  cases j.stored id with
  | error e => rfl
  | ok r => exact congrArg Except.ok (hreplays r)

theorem list_of_lines_eq {f : Record → Record} (hj : j.Proper) (hk : k.Proper)
    (hpartitions : partitions k.folder = partitions j.folder)
    (htext : ∀ p ∈ partitions j.folder,
      textOf (fileName p) k.folder = textOf (fileName p) j.folder)
    (hreplays : ∀ r, k.withReplays r = f (j.withReplays r)) :
    k.list {} = (j.list {}).map (Except.map f) := by
  have hlines : ((partitions j.folder).flatMap fun p =>
        (lines (textOf (fileName p) k.folder)).filterMap record?) =
      (partitions j.folder).flatMap fun p =>
        (lines (textOf (fileName p) j.folder)).filterMap record? :=
    congrArg List.flatten (List.map_congr_left fun p hp => by rw [htext p hp])
  rw [hk.list_eq, hj.list_eq, hpartitions, hlines, List.map_map]
  exact List.map_congr_left fun r _ => congrArg Except.ok (hreplays r)

theorem textOf_put_lineageName {p : String} (hp : p ∈ partitions j.folder) (entry : Entry) :
    textOf (fileName p) (j.folder.put lineageName entry) = textOf (fileName p) j.folder :=
  textOf_put_of_ne (fun hname =>
    ne_lineage_of_mem_partitions hp (fileName_eq_lineageName_iff.1 hname)) entry j.folder

/-- Attaching a replay tells the record of it. -/
theorem Proper.tells_attach (h : j.Proper) {earlier replay : RecordId}
    (hok : (j.attach earlier replay).2 = .ok ()) :
    Store.Tells (.journal j) (.journal (j.attach earlier replay).1) earlier replay := by
  have hk := h.attach earlier replay
  rcases attach_cases j earlier replay with ⟨hstate, hold⟩ | ⟨hfailed, _⟩ | ⟨hreadable, hstate⟩
  · -- the record was told of the replay before
    have hreplays : ∀ r, j.withReplays r = Ledger.addReplay earlier replay (j.withReplays r) :=
      fun r => (addReplay_withReplays (hold hok) r).symm
    rw [hstate]
    exact ⟨fun id => find_of_stored_eq rfl hreplays,
      list_of_lines_eq h h rfl (fun _ _ => rfl) hreplays⟩
  · exact absurd hok hfailed
  · rw [hstate] at hk ⊢
    have hreplays : ∀ r, withReplays ⟨extended earlier replay j.folder, j.index,
        setReplays earlier (replaysIn j.lineage earlier ++ [replay]) j.lineage⟩ r =
          Ledger.addReplay earlier replay (j.withReplays r) := withReplays_setReplays rfl
    refine ⟨fun id => find_of_stored_eq (stored_extended h hreadable _ _ _ id) hreplays, ?_⟩
    exact list_of_lines_eq h hk (partitions_put_lineageName _ _)
      (fun p hp => textOf_put_lineageName hp _) hreplays

/-! ## Adding -/

/-- What is appended of a record can be found and listed again. -/
structure Retains (j : Journal) (r : Record) : Prop where
  notLineage : r.provider ≠ "lineage"
  ended : (tail (textOf (fileName r.provider) j.folder)).all Json.isSpace = true
  depth : ∀ v ∈ r.values, v.depth ≤ 125

variable {r : Record}

theorem append_eq_of_isSlug (hslug : Catalog.isSlug r.provider = true)
    (hok : (j.append r).2 = .ok r.id) :
    j.index.lookup r.id = none ∧ IsReadable j.folder (fileName r.provider) ∧
      (j.append r).1 = ⟨appended r j.folder, (r.id, r.provider) :: j.index, j.lineage⟩ := by
  have hstate := append_eq_ok hok
  rw [partitionName_of_isSlug hslug] at hstate
  exact hstate

theorem flatMap_perm_of_mem {α β : Type} [DecidableEq α] {as : List α} {a : α} (h : a ∈ as)
    (f : α → List β) : (as.flatMap f).Perm (f a ++ (as.erase a).flatMap f) := by
  rw [← List.flatMap_cons]
  exact (List.perm_cons_erase h).flatMap_right f

/-- The listing behind an append has what is read of the new line beside all records from before. -/
theorem records_appended_perm {folder : Folder} (hascending : folder.Ascending)
    (hp : IsPartition r.provider) {g g' : String → List Record} {new : List Record}
    (hself : g' r.provider = g r.provider ++ new)
    (hothers : ∀ p, p ≠ r.provider → g' p = g p)
    (hnone : r.provider ∉ partitions folder → g r.provider = []) :
    ((partitions (appended r folder)).flatMap g').Perm
      (new ++ (partitions folder).flatMap g) := by
  have hnodup : (partitions folder).Nodup :=
    Ledger.nodup_of_ascending (ascending_partitions hascending)
  have hnodup' : (partitions (appended r folder)).Nodup :=
    Ledger.nodup_of_ascending (ascending_partitions (hascending.put _ _))
  have hmem : r.provider ∈ partitions (appended r folder) :=
    (mem_partitions_appended hp).2 (Or.inl rfl)
  -- both folders have the same partitions beside that of the record
  have herase : ((partitions (appended r folder)).erase r.provider).Perm
      ((partitions folder).erase r.provider) := by
    rw [List.perm_ext_iff_of_nodup (hnodup'.erase _) (hnodup.erase _)]
    intro q
    rw [hnodup'.mem_erase_iff, hnodup.mem_erase_iff, mem_partitions_appended hp]
    tauto
  have hrest : ((partitions folder).erase r.provider).flatMap g' =
      ((partitions folder).erase r.provider).flatMap g :=
    congrArg List.flatten (List.map_congr_left fun q hq =>
      hothers q (hnodup.mem_erase_iff.1 hq).1)
  have hbefore : ((partitions folder).flatMap g).Perm
      (g r.provider ++ ((partitions folder).erase r.provider).flatMap g) := by
    by_cases hold : r.provider ∈ partitions folder
    · exact flatMap_perm_of_mem hold g
    · rw [hnone hold, List.erase_of_not_mem hold, List.nil_append]
  calc List.Perm ((partitions (appended r folder)).flatMap g')
        (g' r.provider ++ ((partitions (appended r folder)).erase r.provider).flatMap g') :=
      flatMap_perm_of_mem hmem g'
    List.Perm _ (g' r.provider ++ ((partitions folder).erase r.provider).flatMap g') :=
      (herase.flatMap_right g').append_left _
    List.Perm _ (new ++ (g r.provider ++ ((partitions folder).erase r.provider).flatMap g)) := by
      rw [hself, hrest, ← List.append_assoc]
      exact List.perm_append_comm.append_right _
    List.Perm _ (new ++ (partitions folder).flatMap g) := hbefore.symm.append_left new

theorem lines_appended (r : Record) (folder : Folder) :
    lines (textOf (fileName r.provider) (appended r folder)) =
      endedLines (textOf (fileName r.provider) folder) ++
        [glued (tail (textOf (fileName r.provider) folder)) r] := by
  unfold appended
  rw [textOf_put_self]
  exact lines_append (isLine_lineOf r) (lineOf_ne_empty r) _

theorem textOf_of_not_mem_partitions {folder : Folder} {p : String} (hp : IsPartition p)
    (h : p ∉ partitions folder) : textOf (fileName p) folder = "" := by
  have hname : fileName p ∉ folder.map (·.1) := fun hmem =>
    h (mem_partitions_iff.2 ⟨hmem, partition?_fileName hp⟩)
  unfold textOf
  rw [lookup_eq_none_iff_not_mem.2 hname]

/-- A record that goes to the lineage is not listed. -/
theorem Proper.list_append_lineage (h : j.Proper) (hlineage : r.provider = "lineage")
    (hok : (j.append r).2 = .ok r.id) : (j.append r).1.list {} = j.list {} := by
  have hname : fileName (partitionName r.provider) = lineageName := by
    rw [hlineage]
    rfl
  have hk := h.append r
  obtain ⟨_, _, hstate⟩ := append_eq_ok hok
  rw [hstate, hname] at hk ⊢
  have hlist := list_of_lines_eq (f := id) h hk (partitions_put_lineageName _ _)
    (fun p hp => textOf_put_lineageName hp _) fun _ => rfl
  rw [hlist]
  exact (List.map_congr_left fun answer _ => by cases answer <;> rfl).trans (List.map_id _)

/-- A record with a new identifier is appended if its file can be read. -/
theorem append_ok (hnew : j.index.lookup r.id = none)
    (hreadable : IsReadable j.folder (fileName (partitionName r.provider))) :
    (j.append r).2 = .ok r.id := by
  unfold Journal.append
  dsimp only
  rw [hnew, hreadable.appendLine_eq]
  rfl

/-- A record that is there is told of a replay if the lineage can be read. -/
theorem attach_ok {earlier replay : RecordId} (hknown : j.index.lookup earlier ≠ none)
    (hreadable : IsReadable j.folder lineageName) : (j.attach earlier replay).2 = .ok () := by
  obtain ⟨p, hp⟩ := Option.ne_none_iff_exists'.1 hknown
  unfold Journal.attach
  dsimp only
  rw [hp, hreadable.appendLine_eq, Option.isNone_some, if_neg Bool.false_ne_true]
  split <;> rfl

section

variable (h : j.Proper) (hslug : Catalog.isSlug r.provider = true) (hregular : r.Regular)
  (hvalues : ∀ v ∈ r.values, v.Readable) (hunwritten : r.id ∉ idsIn j.folder r.provider)
  (hok : (j.append r).2 = .ok r.id)
include h hslug hregular hvalues hunwritten hok

/-- A record that a journal retains is there behind its append. -/
theorem Proper.adds_append (hretains : j.Retains r) :
    Store.Adds (.journal j) (.journal (j.append r).1) (j.withReplays r.withoutNulls) := by
  have hp : IsPartition r.provider := ⟨hslug, hretains.notLineage⟩
  have hid := id?_lineOf_of_readable hvalues
  have hread : record? (lineOf r) = some r.withoutNulls := by
    rw [record?_lineOf_eq hregular hvalues, if_pos hretains.depth]
  obtain ⟨hnew, hreadable, hstate⟩ := append_eq_of_isSlug hslug hok
  have hk := h.append r
  rw [hstate] at hk ⊢
  refine ⟨?new, ?added, fun id hne => ?others, ?listed⟩
  case new =>
    show j.find r.id = _
    unfold find
    rw [hnew]
    rfl
  case added =>
    have hfound := find_of_spaces hid hreadable hretains.ended hunwritten
      (finds_append j r).folder (finds_append j r).lineage List.lookup_cons_self
    rw [hread] at hfound
    exact hfound
  case others =>
    have hother : id ≠ r.id := hne
    have hindex : ((r.id, r.provider) :: j.index).lookup id = j.index.lookup id := by
      rw [List.lookup_cons, beq_eq_false_iff_ne.2 hother]
    exact find_of_spaces_of_ne hid hreadable hretains.ended (finds_append j r).folder
      (finds_append j r).lineage hother hindex
  case listed =>
    have hrecords : ((partitions (appended r j.folder)).flatMap fun p =>
          (lines (textOf (fileName p) (appended r j.folder))).filterMap record?).Perm
        ([r.withoutNulls] ++ (partitions j.folder).flatMap fun p =>
          (lines (textOf (fileName p) j.folder)).filterMap record?) := by
      refine records_appended_perm h.tidy.ascending hp ?_ (fun p hne => ?_) fun hnone => ?_
      · rw [lines_appended, filterMap_record?_appended hid hretains.ended, hread]
        rfl
      · unfold appended
        rw [textOf_put_of_ne fun hname => hne (fileName_injective hname)]
      · rw [textOf_of_not_mem_partitions hp hnone]
        rfl
    show (list {} _).Perm (_ :: list {} j)
    rw [hk.list_eq, h.list_eq]
    exact hrecords.map fun x => Except.ok (j.withReplays x)

/-- A record that a journal does not retain is not there behind its append. -/
theorem Proper.lost_append (hnot : ¬j.Retains r) :
    (∃ e, (Store.journal (j.append r).1).find r.id = .error e) ∨
      ((Store.journal (j.append r).1).list {}).length = ((Store.journal j).list {}).length := by
  have hid := id?_lineOf_of_readable hvalues
  obtain ⟨_, hreadable, hstate⟩ := append_eq_of_isSlug hslug hok
  rw [hstate]
  by_cases hlineage : r.provider = "lineage"
  · refine Or.inr ?_
    show (list {} _).length = (list {} j).length
    rw [← hstate, h.list_append_lineage hlineage hok]
  · by_cases hspaces : (tail (textOf (fileName r.provider) j.folder)).all Json.isSpace = true
    · -- the line cannot be read, because a value is too deep
      have hdeep : ¬∀ v ∈ r.values, v.depth ≤ 125 := fun hdepth =>
        hnot ⟨hlineage, hspaces, hdepth⟩
      have hfind := find_of_spaces hid hreadable hspaces hunwritten (finds_append j r).folder
        (finds_append j r).lineage List.lookup_cons_self
      rw [record?_lineOf_eq hregular hvalues, if_neg hdeep] at hfind
      exact Or.inl ⟨_, hfind⟩
    · exact Or.inl ⟨_, find_of_not_spaces hid hreadable (Bool.eq_false_iff.2 hspaces) hunwritten
        (finds_append j r).folder (finds_append j r).only⟩

end

end Journal

/-! ## Ledgers and memory -/

namespace Ledger

theorem find_map_addReplay (l : Ledger) (earlier replay id : RecordId) :
    Ledger.find id (l.map (addReplay earlier replay)) =
      (l.find id).map (addReplay earlier replay) := by
  have hid : (fun r : Record => decide (r.id = id)) ∘ addReplay earlier replay =
      fun r => decide (r.id = id) := by
    funext r
    simp
  unfold Ledger.find
  rw [List.find?_map, hid]
  cases l.find? fun r => r.id = id <;> rfl

/-- Without a filter all records are listed. -/
theorem list_eq_byProvider (l : Ledger) : l.list {} = l.byProvider := by
  have hall : l.byProvider.filter ({} : Filter).accepts = l.byProvider :=
    List.filter_eq_self.2 fun _ _ => rfl
  unfold list
  rw [hall]
  rfl

end Ledger

namespace Memory

variable {m : Memory} {l : Ledger}

theorem Holds.tells_attach (h : m.Holds l) {earlier replay : RecordId}
    (hok : (m.attach earlier replay).2 = .ok ()) :
    Store.Tells (.memory m) (.memory (m.attach earlier replay).1) earlier replay := by
  obtain ⟨hanswer, hleft⟩ := h.attach earlier replay
  have hstate : (l.attach earlier replay).1 = l.map (Ledger.addReplay earlier replay) := by
    unfold Ledger.attach at hanswer ⊢
    split
    · rfl
    · rename_i hnone
      rw [hok, if_neg hnone] at hanswer
      cases hanswer
  rw [hstate] at hleft
  constructor
  · intro id
    show Memory.find id _ = (Memory.find id m).map _
    rw [hleft.find_eq, h.find_eq, Ledger.find_map_addReplay]
  · show (Memory.list {} _).map _ = ((Memory.list {} m).map _).map _
    rw [hleft.list_eq, h.list_eq, Ledger.list_eq_byProvider, Ledger.list_eq_byProvider,
      Ledger.byProvider_map (Ledger.provider_addReplay earlier replay), List.map_map, List.map_map]
    rfl

theorem Holds.adds_append (h : m.Holds l) {r : Record} (hok : (m.append r).2 = .ok r.id) :
    Store.Adds (.memory m) (.memory (m.append r).1) r := by
  obtain ⟨hanswer, hleft⟩ := h.append r
  have hnew : l.any (·.id = r.id) = false := by
    cases hany : l.any (·.id = r.id) with
    | false => rfl
    | true =>
        unfold Ledger.append at hanswer
        rw [hok, if_pos hany] at hanswer
        cases hanswer
  have hstate : (l.append r).1 = l ++ [r] := by
    unfold Ledger.append
    rw [hnew]
    rfl
  rw [hstate] at hleft
  have hnone : l.find? (·.id = r.id) = none := by
    rw [Ledger.any_id, Option.isSome_eq_false_iff, Option.isNone_iff_eq_none] at hnew
    exact hnew
  refine ⟨?new, ?added, fun id hne => ?others, ?listed⟩
  case new =>
    show Memory.find r.id m = _
    rw [h.find_eq, Ledger.find, hnone]
  case added =>
    show Memory.find r.id _ = _
    rw [hleft.find_eq, Ledger.find, Ledger.find?_append_singleton, hnone, if_pos rfl]
    rfl
  case others =>
    show Memory.find id _ = Memory.find id m
    rw [hleft.find_eq, h.find_eq, Ledger.find, Ledger.find, Ledger.find?_append_singleton,
      if_neg (Ne.symm hne), Option.or_none]
  case listed =>
    show ((Memory.list {} _).map Except.ok).Perm (Except.ok r :: (Memory.list {} m).map Except.ok)
    rw [hleft.list_eq, h.list_eq, Ledger.list_eq_byProvider, Ledger.list_eq_byProvider,
      ← List.map_cons]
    have hperm : (Ledger.byProvider (l ++ [r])).Perm (r :: l.byProvider) :=
      (Ledger.byProvider_perm _).trans
        ((List.perm_append_singleton r l).trans (l.byProvider_perm.symm.cons r))
    exact hperm.map Except.ok

theorem id_of_find {id : RecordId} {r : Record} (h : m.find id = .ok r) : r.id = id := by
  unfold find at h
  obtain ⟨⟨p, records⟩, _, h⟩ := bind_eq_ok_iff.1 h
  dsimp only at h
  split at h
  · rename_i hfind
    cases h
    simpa using List.find?_some hfind
  · cases h

end Memory

/-! ## Stores -/

namespace Store

variable {s s₁ s₂ : Store} {earlier replay id : RecordId} {original r x : Record}

/-- An identifier that was never used: no record was told of a replay with it, and no line of a
partition has it. -/
structure Unused (s : Store) (id : RecordId) : Prop where
  untold : ∀ other r, s.find other = .ok r → id ∉ r.replays
  unwritten : ∀ j, s = .journal j → ∀ p, id ∉ Journal.idsIn j.folder p

/-- What is appended of a record can be found and listed again. -/
def Retains (s : Store) (r : Record) : Prop :=
  match s with
  | .memory _ => True
  | .journal j => j.Retains r

/-- Where a record is written to a file, the numbers in it read back. -/
def Legible (s : Store) (r : Record) : Prop :=
  match s with
  | .memory _ => True
  | .journal _ => ∀ v ∈ r.values, v.Readable

theorem id_of_find (h : s.find id = .ok r) : r.id = id := by
  cases s with
  | memory m => exact Memory.id_of_find h
  | journal j => exact Journal.id_of_find h

/-- An append answers the identifier of its record. -/
theorem id_of_append (h : (s.append r).2 = .ok id) : id = r.id := by
  cases s with
  | memory m =>
      have hm : (m.append r).2 = .ok id := h
      unfold Memory.append at hm
      split at hm
      · cases hm
      · exact (Except.ok.inj hm).symm
  | journal j =>
      have hj : (j.append r).2 = .ok id := h
      unfold Journal.append at hj
      dsimp only at hj
      split at hj
      · cases hj
      · split at hj
        · cases hj
        · exact (Except.ok.inj hj).symm

/-- Attaching a replay tells the record of it, and does nothing else. -/
theorem Proper.tells_attach (h : s.Proper) (hok : (s.attach earlier replay).2 = .ok ()) :
    Tells s (s.attach earlier replay).1 earlier replay := by
  cases s with
  | memory m =>
      obtain ⟨l, hl⟩ := h
      exact hl.tells_attach hok
  | journal j => exact Journal.Proper.tells_attach h hok

/-- An append of a replay and the telling of the earlier record make a replay in the store. -/
theorem Adds.replays (hadds : Adds s s₁ x) (htells : Tells s₁ s₂ earlier x.id)
    (hfound : s.find earlier = .ok original) (huntold : x.id ∉ original.replays) :
    Replays s s₂ earlier original x := by
  have hne : x.id ≠ earlier := by
    intro heq
    have hnew := hadds.new
    rw [heq, hfound] at hnew
    cases hnew
  have hsame : Ledger.addReplay earlier x.id x = x := Ledger.addReplay_of_ne hne
  refine ⟨hadds.new, ?added, huntold, ?told, fun id hid hearlier => ?others, ?listed⟩
  case added =>
    rw [htells.found, hadds.added]
    exact congrArg Except.ok hsame
  case told =>
    have hid : original.id = earlier := id_of_find hfound
    rw [htells.found, hadds.others earlier (Ne.symm hne), hfound]
    refine congrArg Except.ok ?_
    rw [← hid]
    exact Ledger.addReplay_of_not_mem huntold
  case others =>
    rw [htells.found, hadds.others id hid]
    cases hfind : s.find id with
    | error e => rfl
    | ok y =>
        have hy : y.id ≠ earlier := (id_of_find hfind).symm ▸ hearlier
        exact congrArg Except.ok (Ledger.addReplay_of_ne hy)
  case listed =>
    rw [htells.listed]
    have hlisted := hadds.listed.map (Except.map (Ledger.addReplay earlier x.id))
    rw [List.map_cons] at hlisted
    rw [show Except.map (Ledger.addReplay earlier x.id) (Except.ok x) =
      (Except.ok x : Except StoreError Record) from congrArg Except.ok hsame] at hlisted
    exact hlisted

/-- Without the record of the replay there is none in the store. -/
theorem Tells.not_replays (htells : Tells s₁ s₂ earlier replay)
    (hlost : (∃ e, s₁.find replay = .error e) ∨ (s₁.list {}).length = (s.list {}).length)
    (hid : x.id = replay) : ¬Replays s s₂ earlier original x := by
  subst hid
  intro hreplays
  rcases hlost with ⟨e, hlost⟩ | hlength
  · have hadded := hreplays.added
    rw [htells.found, hlost] at hadded
    cases hadded
  · have hlisted := hreplays.listed.length_eq
    rw [htells.listed, List.length_map, hlength, List.length_cons, List.length_map] at hlisted
    omega

end Store

end ApiGateway.Audit
