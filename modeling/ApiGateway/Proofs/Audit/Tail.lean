import ApiGateway.Proofs.Audit.Agreement
import ApiGateway.Proofs.Audit.Opening
import ApiGateway.Proofs.Json.Fronts

/-! # Files that end within a line

A file may end within a line, if a process came to its end while it wrote. The next line then comes
directly behind the text of the tail and not on a line of its own (`lines_append`). What becomes of
it is read as a record just if nothing but spaces stand in the tail (`record?_glued`).
-/

set_option autoImplicit false

namespace ApiGateway

namespace Audit.Journal

/-! ## The tail of a file -/

/-- The lines of a text that have a line end. -/
def endedLines (text : String) : List String :=
  ((Text.splitOn '\n' text.toList).dropLast.map dropReturn).map String.ofList

/-- What stands behind the last line end of a text. -/
def tail (text : String) : List Char := (Text.splitOn '\n' text.toList).getLast?.getD []

theorem lines_eq (text : String) :
    lines text = endedLines text ++
      if (tail text).isEmpty then [] else [String.ofList (tail text)] := by
  unfold lines endedLines tail
  dsimp only
  rw [List.map_append]
  split <;> rfl

theorem splitOn_append_line {line : String} (h : IsLine line) (text : String) :
    Text.splitOn '\n' (text ++ line ++ "\n").toList =
      (Text.splitOn '\n' text.toList).dropLast ++ [tail text ++ line.toList] ++ [[]] := by
  rw [String.toList_append, String.toList_append]
  show Text.splitOn '\n' (text.toList ++ line.toList ++ ['\n']) = _
  rw [Text.splitOn_concat, Text.splitOn_append _ h.noLineEnd]
  rfl

/-- Behind a whole line nothing is left over. -/
theorem tail_append_line {line : String} (h : IsLine line) (text : String) :
    tail (text ++ line ++ "\n") = [] := by
  rw [tail, splitOn_append_line h, List.getLast?_concat]
  rfl

theorem tail_fileText {ls : List String} (h : ∀ l ∈ ls, IsLine l) : tail (fileText ls) = [] := by
  rw [tail, splitOn_fileText fun l hl => (h l hl).noLineEnd, List.getLast?_concat]
  rfl

/-- A text that ends in a line end is read line by line. -/
theorem lines_of_tail_eq_nil {text : String} (h : tail text = []) :
    lines text = endedLines text := by
  rw [lines_eq, h]
  exact List.append_nil _

/-- A line comes behind the tail of the text to which it is added. -/
theorem lines_append {line : String} (h : IsLine line) (hne : line ≠ "") (text : String) :
    lines (text ++ line ++ "\n") =
      endedLines text ++ [String.ofList (tail text ++ line.toList)] := by
  have hchars : line.toList ≠ [] := fun hnil => hne (String.toList_eq_nil_iff.1 hnil)
  have hreturn : dropReturn (tail text ++ line.toList) = tail text ++ line.toList := by
    unfold dropReturn
    rw [List.getLast?_append_of_ne_nil _ hchars, if_neg h.noReturn]
  rw [lines_of_tail_eq_nil (tail_append_line h text)]
  unfold endedLines
  rw [splitOn_append_line h, List.dropLast_concat, List.map_append, List.map_singleton, hreturn,
    List.map_append, List.map_singleton]

/-- The text of a file; a file that is not there has none. -/
def textOf (name : String) (folder : Folder) : String :=
  match folder.lookup name with
  | some (.file text) => text
  | _ => ""

variable {folder : Folder}

/-- A file can be read unless a folder stands in its place. -/
theorem isReadable_iff {name : String} :
    IsReadable folder name ↔ ∀ entries, folder.lookup name ≠ some (.folder entries) := by
  unfold IsReadable linesOf
  cases folder.lookup name with
  | none => simp
  | some entry => cases entry <;> simp

theorem IsReadable.linesOf_eq {name : String} (h : IsReadable folder name) :
    linesOf name folder = .ok (lines (textOf name folder)) := by
  rw [isReadable_iff] at h
  unfold linesOf textOf
  cases hentry : folder.lookup name with
  | none => rfl
  | some entry =>
      cases entry with
      | file text => rfl
      | folder entries => exact absurd hentry (h entries)

theorem IsReadable.appendLine_eq {name : String} (h : IsReadable folder name) (line : String) :
    appendLine name line folder =
      .ok (folder.put name (.file (textOf name folder ++ line ++ "\n"))) := by
  rw [isReadable_iff] at h
  unfold appendLine textOf
  cases hentry : folder.lookup name with
  | none => simp
  | some entry =>
      cases entry with
      | file text => rfl
      | folder entries => exact absurd hentry (h entries)

/-- A line is added to a file that can be read. -/
theorem appendLine_eq_ok_iff {name line : String} {folder' : Folder} :
    appendLine name line folder = .ok folder' ↔ IsReadable folder name ∧
      folder' = folder.put name (.file (textOf name folder ++ line ++ "\n")) := by
  constructor
  · intro h
    have hreadable : IsReadable folder name := by
      rw [isReadable_iff]
      intro entries hentry
      unfold appendLine at h
      rw [hentry] at h
      cases h
    rw [hreadable.appendLine_eq] at h
    exact ⟨hreadable, (Except.ok.inj h).symm⟩
  · rintro ⟨hreadable, rfl⟩
    exact hreadable.appendLine_eq line

theorem textOf_put_self (name text : String) (folder : Folder) :
    textOf name (folder.put name (.file text)) = text := by
  unfold textOf
  rw [Folder.lookup_put_self]

theorem textOf_put_of_ne {name other : String} (h : other ≠ name) (entry : Entry)
    (folder : Folder) : textOf other (folder.put name entry) = textOf other folder := by
  unfold textOf
  rw [Folder.lookup_put_of_ne h]

/-! ## Lines behind a tail -/

theorem opensObject_lineOf (r : Record) : Json.OpensObject (lineOf r).toList := by
  have hid : ∀ cs : List Char, Json.lex ('i' :: cs) = none :=
    fun cs => Json.lex_cons_of_none rfl rfl
  unfold lineOf Record.toJson Json.render
  rw [String.toList_ofList]
  exact ⟨_, rfl, hid _⟩

theorem lineOf_ne_empty (r : Record) : lineOf r ≠ "" := by
  intro hempty
  obtain ⟨behind, hline, _⟩ := opensObject_lineOf r
  rw [hempty] at hline
  cases hline

/-- Spaces are no line of anything. -/
theorem readFields_spaces {spaces : List Char} (h : spaces.all Json.isSpace = true)
    (layout : Json.Layout) : Json.readFields layout (String.ofList spaces) = none := by
  have hlex : Json.lex spaces = some [] := by
    have hend := Json.lex_spaces_append h []
    rw [List.append_nil] at hend
    rw [hend, Json.lex]
  unfold Json.readFields
  rw [String.toList_ofList, hlex]
  rfl

/-- The line of a record behind the text of a tail. -/
def glued (front : List Char) (r : Record) : String := String.ofList (front ++ (lineOf r).toList)

section

variable {r : Record} {front : List Char}

/-- Nothing is read of the line of a record behind other text than spaces. -/
theorem readFields_glued (h : id? (lineOf r) = some r.id) (layout : Json.Layout) :
    Json.readFields layout (glued front r) =
      if front.all Json.isSpace then Json.readFields layout (lineOf r) else none := by
  obtain ⟨j, hj, _⟩ := Option.bind_eq_some_iff.1 h
  have hline : String.ofList (lineOf r).toList = lineOf r := String.ofList_toList
  unfold glued
  rw [Json.readFields_append (opensObject_lineOf r) (hline.symm ▸ hj), hline]

theorem record?_glued (h : id? (lineOf r) = some r.id) :
    record? (glued front r) = if front.all Json.isSpace then record? (lineOf r) else none := by
  unfold record?
  rw [readFields_glued h]
  split <;> rfl

theorem id?_glued (h : id? (lineOf r) = some r.id) :
    id? (glued front r) = if front.all Json.isSpace then some r.id else none := by
  unfold id? at h ⊢
  rw [readFields_glued h]
  split
  · exact h
  · rfl

theorem id?_spaces (h : front.all Json.isSpace = true) : id? (String.ofList front) = none := by
  unfold id?
  rw [readFields_spaces h]
  rfl

theorem record?_spaces (h : front.all Json.isSpace = true) :
    record? (String.ofList front) = none := by
  unfold record?
  rw [readFields_spaces h]
  rfl

end

/-- What is read of the lines of a text does not come from a tail of which nothing is read. -/
theorem filterMap_lines {α : Type} {read : String → Option α} {text : String}
    (h : read (String.ofList (tail text)) = none) :
    (lines text).filterMap read = (endedLines text).filterMap read := by
  rw [lines_eq, List.filterMap_append]
  split
  · simp
  · simp [h]

/-- Nor is a line of which nothing is wanted found in the tail. -/
theorem find?_lines {P : String → Bool} {text : String}
    (h : P (String.ofList (tail text)) = false) :
    (lines text).find? P = (endedLines text).find? P := by
  rw [lines_eq, List.find?_append]
  split
  · exact Option.or_none
  · rw [List.find?_cons_of_neg (by simp [h]), List.find?_nil, Option.or_none]

end Audit.Journal

end ApiGateway
