import ApiGateway.Audit.Journal
import ApiGateway.Proofs.Json.Characters
import ApiGateway.Proofs.Json.Layouts
import ApiGateway.Proofs.Json.Reading
import ApiGateway.Proofs.Record.Id
import ApiGateway.Proofs.Text.Classes

/-! # The lines of a journal

A file of lines with line ends is read as these lines (`lines_fileText`), provided that no line
holds a line end or ends in a carriage return; the lines of records and of replays are such lines.
The line of a replay reads back, and the identifier that is read of the line of a record at first is
that of the record.
-/

set_option autoImplicit false

namespace ApiGateway

namespace Audit.Journal

/-! ## Files of lines -/

/-- A line that stays as it is in a file of lines. -/
structure IsLine (line : String) : Prop where
  noLineEnd : '\n' ∉ line.toList
  noReturn : line.toList.getLast? ≠ some '\r'

/-- The text of a file with these lines. -/
def fileText (ls : List String) : String := String.join (ls.map (· ++ "\n"))

theorem fileText_append (ls ms : List String) :
    fileText (ls ++ ms) = fileText ls ++ fileText ms := by
  unfold fileText
  rw [List.map_append, String.join_append]

theorem fileText_singleton (line : String) : fileText [line] = line ++ "\n" := by
  simp [fileText]

theorem splitOn_fileText {ls : List String} (h : ∀ l ∈ ls, '\n' ∉ l.toList) :
    Text.splitOn '\n' (fileText ls).toList = ls.map String.toList ++ [[]] := by
  induction ls with
  | nil => rfl
  | cons l ls ih =>
      have htext : (fileText (l :: ls)).toList = l.toList ++ '\n' :: (fileText ls).toList := by
        simp [fileText]
      rw [htext, Text.splitOn_append_cons (h l List.mem_cons_self),
        ih fun l' hl' => h l' (List.mem_cons_of_mem l hl')]
      rfl

theorem dropReturn_toList {line : String} (h : IsLine line) :
    dropReturn line.toList = line.toList :=
  if_neg h.noReturn

/-- A file of texts without line ends is read as these texts, but for a carriage return at their
end. -/
theorem lines_fileText_eq {ls : List String} (h : ∀ l ∈ ls, '\n' ∉ l.toList) :
    lines (fileText ls) = ls.map fun l => String.ofList (dropReturn l.toList) := by
  unfold lines
  -- the last part is the empty one behind the last line end, and is no line
  rw [splitOn_fileText h]
  dsimp only
  rw [List.dropLast_concat, List.getLast?_concat]
  simp

/-- A file of lines is read as its lines. -/
theorem lines_fileText {ls : List String} (h : ∀ l ∈ ls, IsLine l) : lines (fileText ls) = ls := by
  rw [lines_fileText_eq fun l hl => (h l hl).noLineEnd]
  refine (List.map_congr_left fun l hl => ?_).trans (List.map_id ls)
  rw [dropReturn_toList (h l hl), String.ofList_toList]
  rfl

/-! ## Lines of objects -/

/-- The text of an object is a line, and not a blank one. -/
theorem isLine_render_obj (members : List (String × Json)) :
    IsLine (Json.obj members).render := by
  constructor
  · exact (Json.noControl_render _).not_mem (by decide)
  · obtain ⟨inside, htext⟩ := Json.toList_render_obj members
    rw [htext, ← List.cons_append, List.getLast?_concat]
    decide

theorem not_isAllBlank_render_obj (members : List (String × Json)) :
    Text.isAllBlank (Json.obj members).render = false := by
  obtain ⟨inside, htext⟩ := Json.toList_render_obj members
  unfold Text.isAllBlank
  rw [htext]
  rfl

theorem isLine_lineOf (r : Record) : IsLine (lineOf r) := isLine_render_obj _

theorem not_isAllBlank_lineOf (r : Record) : Text.isAllBlank (lineOf r) = false :=
  not_isAllBlank_render_obj _

theorem isLine_lineageLine (earlier replay : RecordId) : IsLine (lineageLine earlier replay) :=
  isLine_render_obj _

/-- The line of a replay reads back. -/
theorem lineage?_lineageLine (earlier replay : RecordId) :
    lineage? (lineageLine earlier replay) = some (earlier, replay) := by
  have hreadable : (Json.obj [("original", earlier.toJson), ("replay", replay.toJson)]).Readable :=
    ⟨trivial, trivial, trivial⟩
  have hread : Json.readFields (.ofNames lineageNames []) (lineageLine earlier replay) =
      some (.obj [("original", earlier.toJson), ("replay", replay.toJson)]) := by
    unfold lineageLine
    rw [Json.readFields_render hreadable]
    rfl
  have hfields : Json.Fields.ofJson? lineageNames
      (.obj [("original", earlier.toJson), ("replay", replay.toJson)]) =
      some ⟨[("original", earlier.toJson), ("replay", replay.toJson)]⟩ := rfl
  unfold lineage?
  rw [hread]
  simp [hfields, Json.Fields.required, Json.find?, RecordId.ofJson?_toJson]

/-- A line of a replay has no identifier. -/
theorem id?_lineageLine (earlier replay : RecordId) : id? (lineageLine earlier replay) = none := by
  have hreadable : (Json.obj [("original", earlier.toJson), ("replay", replay.toJson)]).Readable :=
    ⟨trivial, trivial, trivial⟩
  have hread : Json.readFields (.ofNames headNames []) (lineageLine earlier replay) =
      some (.obj []) := by
    unfold lineageLine
    rw [Json.readFields_render hreadable]
    rfl
  unfold id?
  rw [hread]
  rfl

theorem id?_of_readFields {line : String} {members : List (String × Json)} {r : Record}
    (hread : Json.readFields Record.layout line = some (.obj members))
    (h : record? line = some r) : id? line = some r.id := by
  have hle : ∀ key inner, (Json.Layout.ofNames headNames []).member? key = some inner →
      Record.layout.member? key = some inner := by
    intro key inner hinner
    have hkey := Json.isSome_member?_ofNames headNames [] key
    rw [hinner] at hkey
    have hid : key = "id" := by simpa [headNames] using hkey.symm
    subst hid
    exact hinner
  obtain ⟨j, hj, hr⟩ := Option.bind_eq_some_iff.1 h
  cases hread.symm.trans hj
  have hfewer := Json.readFields_of_le hle hread
  obtain ⟨f, hf, hid, _⟩ := Record.fields_of_ofJson? hr
  have hnames : ∀ name ∈ headNames, name ∈ Record.fieldNames := by decide
  obtain ⟨f', hf', hfind⟩ := Json.Fields.ofJson?_filter hnames hf
  simp only [Json.isSome_member?_ofNames] at hfewer
  have hid' : f'.required "id" RecordId.ofJson? = some r.id := by
    unfold Json.Fields.required at hid ⊢
    rw [hfind "id" (by decide), hid]
  unfold id?
  rw [hfewer]
  show (Json.Fields.ofJson? headNames _ >>= _) = _
  rw [hf']
  exact hid'

/-- The line of a record that is read as a record has its identifier at first sight. -/
theorem id?_of_record? {line : String} {r : Record} (hbrace : line.toList.head? = some '\x7b')
    (h : record? line = some r) : id? line = some r.id := by
  obtain ⟨j, hj, _⟩ := Option.bind_eq_some_iff.1 h
  obtain ⟨members, rfl⟩ := Json.obj_of_readFields hbrace hj
  exact id?_of_readFields hj h

/-- An array of at most one item is no record. -/
theorem ofJson?_arr_of_length_le {items : List Json} (h : items.length ≤ 1) :
    Record.ofJson? (.arr items) = none := by
  refine Option.eq_none_iff_forall_ne_some.2 fun r hr => ?_
  obtain ⟨f, hf, _, hprovider, _⟩ := Record.fields_of_ofJson? hr
  unfold Json.Fields.ofJson? at hf
  dsimp only at hf
  rw [if_pos (Nat.le_trans h (by decide))] at hf
  cases hf
  match items with
  | [] => cases hprovider
  | [item] => cases hprovider
  | _ :: _ :: _ => simp at h

/-- What is read of any line as a record has the identifier that is read of it at first. -/
theorem id_of_record? {line : String} {id : RecordId} {r : Record} (hid : id? line = some id)
    (h : record? line = some r) : r.id = id := by
  obtain ⟨j, hj, hr⟩ := Option.bind_eq_some_iff.1 h
  obtain ⟨f, hf, _⟩ := Record.fields_of_ofJson? hr
  cases j with
  | obj members => exact Option.some.inj ((id?_of_readFields hj h).symm.trans hid)
  | arr items =>
      -- as an array a line cannot be read for its identifier alone and as a whole record
      obtain ⟨head, hhead, hfields⟩ := Option.bind_eq_some_iff.1 hid
      obtain ⟨items', rfl, hlength⟩ := Json.readFields_arr hj hhead
      obtain ⟨f', hf', _⟩ := Option.bind_eq_some_iff.1 hfields
      unfold Json.Fields.ofJson? at hf'
      dsimp only at hf'
      split at hf'
      · rename_i hshort
        rw [ofJson?_arr_of_length_le (hlength ▸ hshort)] at hr
        cases hr
      · cases hf'
  | _ => cases hf

end Audit.Journal

end ApiGateway
