import ApiGateway.Audit.Interleaving
import ApiGateway.Proofs.Audit.Soundness
import ApiGateway.Proofs.Audit.Tail
import ApiGateway.Proofs.Json.Uniqueness
import ApiGateway.Proofs.Record.Id
import ApiGateway.Proofs.Text.Classes

/-! # Reading a file up to a length

A reader of a partition goes through the lines of a file, of which it takes no more than the length
that it has measured before. `Ahead` says that the line of a record is still to come within this
length. It comes to the line then (`Ahead.read`), whether or not more is written to the file
meanwhile (`Ahead.append`), and also in the file that a purge puts in the place of the one that was
measured: as lines are only taken out, the line has moved to the front at most (`Ahead.purge`).
-/

set_option autoImplicit false

namespace ApiGateway

namespace Text

theorem byteLength_line (raw back : List Char) :
    byteLength (raw ++ '\n' :: back) = byteLength raw + 1 + byteLength back := by
  have hsize : ('\n' : Char).utf8Size = 1 := by decide
  rw [byteLength_append, byteLength_cons, hsize]
  omega

/-- A text has no line end, or begins with a line. -/
theorem noLineEnd_or_exists (cs : List Char) :
    '\n' ∉ cs ∨ ∃ raw back, cs = raw ++ '\n' :: back ∧ '\n' ∉ raw := by
  by_cases h : '\n' ∈ cs
  · obtain ⟨raw, back, rfl, hraw⟩ := List.eq_append_cons_of_mem h
    exact .inr ⟨raw, back, rfl, hraw⟩
  · exact .inl h

end Text

namespace Json

/-- No token begins with a blank character. -/
theorem scanToken_of_isBlank {c : Char} (h : Text.isBlank c = true) (cs : List Char) :
    scanToken c cs = none := by
  have hdigit : c.isDigit = false := by
    cases hc : c.isDigit with
    | false => rfl
    | true =>
        rw [Text.isBlank_eq_false_of_isDigit hc] at h
        cases h
  unfold scanToken
  split
  case h_11 =>
    have hminus : takeMinus (c :: cs) = (false, c :: cs) := by
      unfold takeMinus
      split
      · rename_i heq
        cases heq
        exact absurd h (by decide)
      · rfl
    have hnumber : scanNumber (c :: cs) = none := by
      simp [scanNumber, hminus, Decimal.spanDigits, hdigit]
    rw [hnumber]
    rfl
  all_goals exact absurd h (by decide)

/-- A blank line is no line of anything. -/
theorem readFields_of_isAllBlank {line : String} (h : Text.isAllBlank line = true)
    (layout : Layout) : readFields layout line = none := by
  have hlex : ∀ cs : List Char, cs.all Text.isBlank = true → lex cs = none ∨ lex cs = some [] := by
    intro cs hcs
    induction cs with
    | nil => exact .inr (by rw [lex])
    | cons c cs ih =>
        rw [List.all_cons, Bool.and_eq_true] at hcs
        cases hspace : isSpace c with
        | true =>
            have hskip : lex ([c] ++ cs) = lex cs := lex_spaces_append (by simp [hspace]) cs
            exact hskip ▸ ih hcs.2
        | false => exact .inl (lex_cons_of_none hspace (scanToken_of_isBlank hcs.1 cs))
  unfold readFields
  rcases hlex _ h with hnone | hnil
  · rw [hnone]
    rfl
  · rw [hnil]
    rfl

end Json

namespace Audit.Journal

/-! ## Lines of a text -/

theorem lines_cons {raw : List Char} (h : '\n' ∉ raw) (back : List Char) :
    lines (String.ofList (raw ++ '\n' :: back)) =
      String.ofList (dropReturn raw) :: lines (String.ofList back) := by
  unfold lines
  obtain ⟨part, parts, hparts⟩ := List.exists_cons_of_ne_nil (Text.splitOn_ne_nil '\n' back)
  simp only [String.toList_ofList, Text.splitOn_append_cons h, hparts, List.getLast?_cons_cons,
    List.dropLast_cons_cons, List.map_cons, List.cons_append]

theorem endedLines_cons {raw : List Char} (h : '\n' ∉ raw) (back : List Char) :
    endedLines (String.ofList (raw ++ '\n' :: back)) =
      String.ofList (dropReturn raw) :: endedLines (String.ofList back) := by
  unfold endedLines
  obtain ⟨part, parts, hparts⟩ := List.exists_cons_of_ne_nil (Text.splitOn_ne_nil '\n' back)
  simp only [String.toList_ofList, Text.splitOn_append_cons h, hparts, List.dropLast_cons_cons,
    List.map_cons]

theorem endedLines_of_noLineEnd {cs : List Char} (h : '\n' ∉ cs) :
    endedLines (String.ofList cs) = [] := by
  rw [endedLines, String.toList_ofList, Text.splitOn_of_not_mem h]
  rfl

theorem tail_of_noLineEnd {cs : List Char} (h : '\n' ∉ cs) : tail (String.ofList cs) = cs := by
  rw [tail, String.toList_ofList, Text.splitOn_of_not_mem h]
  rfl

/-- A text without line ends behind another one adds no line to it. -/
theorem endedLines_append_part {part : List Char} (h : '\n' ∉ part) (text : String) :
    endedLines (text ++ String.ofList part) = endedLines text := by
  unfold endedLines
  rw [String.toList_append, String.toList_ofList, Text.splitOn_append _ h, List.dropLast_concat]

/-- A line behind whole lines is one more line. -/
theorem endedLines_append_line {text line : String} (h : tail text = []) (hline : IsLine line) :
    endedLines (text ++ line ++ "\n") = endedLines text ++ [line] := by
  unfold endedLines
  rw [splitOn_append_line hline, List.dropLast_concat, h, List.nil_append, List.map_append,
    List.map_append, List.map_singleton, List.map_singleton, dropReturn_toList hline,
    String.ofList_toList]

/-! ## Lines of a reader -/

theorem readLine_append {raw : List Char} (h : '\n' ∉ raw) {left : Nat}
    (hfits : Text.byteLength raw + 1 ≤ left) (done back : List Char) :
    readLine left done (raw ++ '\n' :: back) =
      .line (String.ofList (dropReturn (done.reverse ++ raw))) (done.length + raw.length + 1)
        (left - (Text.byteLength raw + 1)) := by
  have hsize : ('\n' : Char).utf8Size = 1 := by decide
  induction raw generalizing left done with
  | nil =>
      rw [Text.byteLength_nil] at hfits
      rw [List.nil_append, readLine, if_neg (by omega), if_pos rfl, hsize]
      simp
  | cons c raw ih =>
      rw [List.mem_cons, not_or] at h
      rw [Text.byteLength_cons] at hfits
      rw [List.cons_append, readLine, if_neg (by omega), if_neg (Ne.symm h.1),
        ih h.2 (by omega), Text.byteLength_cons]
      simp only [List.reverse_cons, List.append_assoc, List.singleton_append, List.length_cons,
        Reading.line.injEq, true_and]
      omega

/-- A reader that may take a whole line takes it. -/
theorem readLine_line {raw : List Char} (h : '\n' ∉ raw) {left : Nat}
    (hfits : Text.byteLength raw + 1 ≤ left) (back : List Char) :
    readLine left [] (raw ++ '\n' :: back) =
      .line (String.ofList (dropReturn raw)) (raw.length + 1)
        (left - (Text.byteLength raw + 1)) := by
  rw [readLine_append h hfits]
  simp

theorem drop_line (raw back : List Char) :
    (raw ++ '\n' :: back).drop (raw.length + 1) = back := by
  simp

/-- A reader that may take everything takes what stands behind the last line end. -/
theorem readLine_of_noLineEnd {cs : List Char} (h : '\n' ∉ cs) (done : List Char) :
    readLine (Text.byteLength cs) done cs =
      if (done.reverse ++ cs).isEmpty then .ended
      else .line (String.ofList (done.reverse ++ cs)) (done.length + cs.length) 0 := by
  induction cs generalizing done with
  | nil => cases done <;> simp [readLine]
  | cons c cs ih =>
      rw [List.mem_cons, not_or] at h
      rw [readLine, Text.byteLength_cons, if_neg (by omega), if_neg (Ne.symm h.1),
        Nat.add_sub_cancel_left, ih h.2]
      simp only [List.reverse_cons, List.append_assoc, List.singleton_append, List.length_cons]
      congr 2
      omega

/-- A reader that may take everything reads the lines of a text one by one. -/
theorem readLine_eq (cs : List Char) :
    (cs = [] ∧ readLine (Text.byteLength cs) [] cs = .ended) ∨
      ∃ line taken, (cs.drop taken).length < cs.length ∧
        readLine (Text.byteLength cs) [] cs =
          .line line taken (Text.byteLength (cs.drop taken)) ∧
        lines (String.ofList cs) = line :: lines (String.ofList (cs.drop taken)) := by
  rcases Text.noLineEnd_or_exists cs with h | ⟨raw, back, rfl, h⟩
  · have hread := readLine_of_noLineEnd h []
    cases cs with
    | nil => exact .inl ⟨rfl, hread⟩
    | cons c cs =>
        have hdrop : (c :: cs).drop (c :: cs).length = [] := List.drop_length
        refine .inr ⟨String.ofList (c :: cs), (c :: cs).length, ?_, ?_, ?_⟩
        · rw [hdrop]
          exact Nat.succ_pos _
        · rw [hread, hdrop]
          simp
        · rw [hdrop, lines_eq, endedLines_of_noLineEnd h, tail_of_noLineEnd h]
          simp [lines, Text.splitOn]
  · have hfits : Text.byteLength raw + 1 ≤ Text.byteLength (raw ++ '\n' :: back) := by
      rw [Text.byteLength_line]
      omega
    refine .inr ⟨String.ofList (dropReturn raw), raw.length + 1, ?_, ?_, ?_⟩
    · rw [drop_line, List.length_append, List.length_cons]
      omega
    · rw [readLine_line h hfits, drop_line, Text.byteLength_line, Nat.add_sub_cancel_left]
    · rw [lines_cons h, drop_line]

/-! ## A line that is to come -/

/-- Within so many bytes of a text stands the line of a record, and no line before it has the
identifier of the record. -/
inductive Ahead (r : Record) : (left : Nat) → List Char → Prop where
  | here {raw back : List Char} {left : Nat} (noLineEnd : '\n' ∉ raw)
      (line_eq : String.ofList (dropReturn raw) = lineOf r)
      (fits : Text.byteLength raw + 1 ≤ left) : Ahead r left (raw ++ '\n' :: back)
  | behind {raw back : List Char} {left : Nat} (noLineEnd : '\n' ∉ raw)
      (other : id? (String.ofList (dropReturn raw)) ≠ some r.id)
      (fits : Text.byteLength raw + 1 ≤ left)
      (later : Ahead r (left - (Text.byteLength raw + 1)) back) : Ahead r left (raw ++ '\n' :: back)

variable {r : Record} {left : Nat} {cs : List Char}

theorem Ahead.mono (h : Ahead r left cs) {more : Nat} (hle : left ≤ more) : Ahead r more cs := by
  induction h generalizing more with
  | here hraw hline hfits => exact .here hraw hline (by omega)
  | behind hraw hother hfits _ ih => exact .behind hraw hother (by omega) (ih (by omega))

/-- What is written behind it does not move a line. -/
theorem Ahead.append (h : Ahead r left cs) (more : List Char) : Ahead r left (cs ++ more) := by
  induction h with
  | here hraw hline hfits =>
      rw [List.append_assoc, List.cons_append]
      exact .here hraw hline hfits
  | behind hraw hother hfits _ ih =>
      rw [List.append_assoc, List.cons_append]
      exact .behind hraw hother hfits ih

theorem Ahead.ne_nil (h : Ahead r left cs) : cs ≠ [] := by
  cases h <;> simp

/-- The reader comes to the line, or to another one before it. -/
theorem Ahead.read (h : Ahead r left cs) :
    ∃ line taken rest, readLine left [] cs = .line line taken rest ∧
      (line = lineOf r ∨ id? line ≠ some r.id ∧ Ahead r rest (cs.drop taken)) := by
  cases h with
  | here hraw hline hfits =>
      exact ⟨_, _, _, readLine_line hraw hfits _, .inl hline⟩
  | behind hraw hother hfits hlater =>
      refine ⟨_, _, _, readLine_line hraw hfits _, .inr ⟨hother, ?_⟩⟩
      rw [drop_line]
      exact hlater

/-! ## Lines that mention a record -/

/-- How the line of a record begins. -/
def opening (id : RecordId) : List Char := "\x7b\"id\":".toList ++ Json.quote id.text.toList

theorem exists_lineOf_eq (r : Record) : ∃ rest, (lineOf r).toList = opening r.id ++ rest := by
  have hopening : Json.textOf [.beginObj, .str "id", .colon, .str r.id.text] = opening r.id := by
    refine (Json.textOf_append [.beginObj, .str "id", .colon] [.str r.id.text]).trans ?_
    refine congr (congrArg _ rfl) ?_
    exact List.append_nil _
  rw [← hopening]
  unfold lineOf Json.render
  rw [String.toList_ofList]
  exact ⟨_, Json.textOf_append [_, _, _, _] _⟩

/-- A line that begins like that of a record, or from which the identifier of the record is read,
at first sight or as that of a record. -/
def mentions (id : RecordId) (line : String) : Bool :=
  (opening id).isPrefixOf line.toList || id? line = some id ||
    (record? line).any fun r => r.id = id

theorem id?_ne_of_mentions {id : RecordId} {line : String} (h : mentions id line = false) :
    id? line ≠ some id := by
  intro heq
  simp [mentions, heq] at h

theorem mentions_of_record? {line : String} (h : record? line = some r) :
    mentions r.id line = true := by
  simp [mentions, h]

theorem mentions_lineOf (r : Record) : mentions r.id (lineOf r) = true := by
  obtain ⟨rest, hline⟩ := exists_lineOf_eq r
  have hfront : (opening r.id).isPrefixOf (lineOf r).toList = true := by
    rw [hline, List.isPrefixOf_iff_prefix]
    exact List.prefix_append _ _
  simp [mentions, hfront]

theorem eq_id_of_opening {id : RecordId} (h : opening id <+: (lineOf r).toList) : id = r.id := by
  obtain ⟨rest, hrest⟩ := h
  obtain ⟨rest', hline⟩ := exists_lineOf_eq r
  rw [hline] at hrest
  unfold opening at hrest
  generalize "\x7b\"id\":".toList = front at hrest
  rw [List.append_assoc, List.append_assoc] at hrest
  have hquote := List.append_cancel_left hrest
  have htext := String.toList_inj.1 (Json.eq_of_quote_append hquote).1
  have hparse := RecordId.parse?_text id
  rw [htext, RecordId.parse?_text] at hparse
  exact (Option.some.inj hparse).symm

/-- The line of a record mentions no other one. -/
theorem eq_id_of_mentions {id : RecordId} (h : mentions id (lineOf r) = true) : id = r.id := by
  rw [mentions, Bool.or_eq_true, Bool.or_eq_true, List.isPrefixOf_iff_prefix,
    decide_eq_true_eq] at h
  rcases h with (h | h) | h
  · exact eq_id_of_opening h
  · exact eq_id_of_id?_lineOf h
  · cases hread : record? (lineOf r) with
    | none =>
        rw [hread] at h
        cases h
    | some x =>
        rw [hread] at h
        have hid : x.id = id := by simpa using h
        rw [← hid]
        exact eq_id_of_id?_lineOf (id?_of_record?_lineOf hread)

/-- If one line of a text mentions a record and it is the line of the record, then it is ahead of a
reader of the whole text. -/
theorem ahead_of_filter
    (h : (endedLines (String.ofList cs)).filter (mentions r.id) = [lineOf r]) :
    Ahead r (Text.byteLength cs) cs := by
  generalize hlength : cs.length = n
  induction n using Nat.strongRecOn generalizing cs with
  | ind n ih =>
      rcases Text.noLineEnd_or_exists cs with hraw | ⟨raw, back, rfl, hraw⟩
      · rw [endedLines_of_noLineEnd hraw] at h
        cases h
      · have hbytes := Text.byteLength_line raw back
        rw [endedLines_cons hraw] at h
        by_cases hline : mentions r.id (String.ofList (dropReturn raw)) = true
        · rw [List.filter_cons_of_pos hline] at h
          exact .here hraw (List.cons.inj h).1 (by omega)
        · rw [List.filter_cons_of_neg hline] at h
          refine .behind hraw (id?_ne_of_mentions (Bool.not_eq_true _ ▸ hline)) (by omega) ?_
          rw [hbytes, Nat.add_sub_cancel_left]
          refine ih back.length ?_ h rfl
          rw [← hlength, List.length_append, List.length_cons]
          omega

/-! ## Purged files -/

/-- A line that a purge keeps. -/
def keeps (cutoff : Time.Instant) (line : String) : Bool :=
  !Text.isAllBlank line && (expired? cutoff line).isNone

/-- A blank line is not kept for its record. -/
theorem expired?_of_isAllBlank {line : String} (h : Text.isAllBlank line = true)
    (cutoff : Time.Instant) : expired? cutoff line = none := by
  unfold expired? record?
  rw [Json.readFields_of_isAllBlank h]
  rfl

theorem keptText_eq_fileText (cutoff : Time.Instant) (ls : List String) :
    keptText cutoff ls = fileText (ls.filter (keeps cutoff)) := rfl

theorem fileText_cons (line : String) (ls : List String) :
    fileText (line :: ls) = line ++ "\n" ++ fileText ls := by
  simp [fileText]

theorem keptText_concat (cutoff : Time.Instant) (done : List String) (line : String) :
    keptText cutoff (done ++ [line]) =
      keptText cutoff done ++ if keeps cutoff line then line ++ "\n" else "" := by
  rw [keptText_eq_fileText, keptText_eq_fileText, List.filter_append, fileText_append]
  refine congrArg _ ?_
  split
  · rename_i hkeeps
    rw [List.filter_cons_of_pos hkeeps]
    exact fileText_singleton line
  · rename_i hkeeps
    rw [List.filter_cons_of_neg hkeeps]
    rfl

theorem byteLength_dropReturn_le (raw : List Char) :
    Text.byteLength (dropReturn raw) ≤ Text.byteLength raw := by
  unfold dropReturn
  split
  · rcases List.eq_nil_or_concat raw with rfl | ⟨front, c, rfl⟩
    · simp
    · simp
  · exact Nat.le_refl _

/-- A line that is kept has not moved away from a reader of the file that was measured. -/
theorem Ahead.purge (h : Ahead r left cs) {cutoff : Time.Instant}
    (hlines : ∀ line ∈ endedLines (String.ofList cs), IsLine line)
    (hkept : keeps cutoff (lineOf r) = true) :
    Ahead r left (keptText cutoff (lines (String.ofList cs))).toList := by
  rw [keptText_eq_fileText]
  induction h with
  | @here raw back left hraw hline hfits =>
      rw [lines_cons hraw, hline, List.filter_cons_of_pos hkept, fileText_cons,
        String.toList_append, String.toList_append, List.append_assoc]
      refine .here (isLine_lineOf r).noLineEnd ?_ ?_
      · rw [dropReturn_toList (isLine_lineOf r), String.ofList_toList]
      · have hle := byteLength_dropReturn_le raw
        have heq : (lineOf r).toList = dropReturn raw := by rw [← hline, String.toList_ofList]
        rw [heq]
        omega
  | @behind raw back left hraw hother hfits _ ih =>
      rw [endedLines_cons hraw] at hlines
      obtain ⟨hfirst, hlater⟩ := List.forall_mem_cons.1 hlines
      have hrest := ih hlater
      rw [lines_cons hraw]
      by_cases hkeep : keeps cutoff (String.ofList (dropReturn raw)) = true
      · rw [List.filter_cons_of_pos hkeep, fileText_cons, String.toList_append,
          String.toList_append, List.append_assoc, String.toList_ofList]
        have hle := byteLength_dropReturn_le raw
        have hsame : dropReturn (dropReturn raw) = dropReturn raw := by
          have hline := dropReturn_toList hfirst
          rwa [String.toList_ofList] at hline
        have hnone : '\n' ∉ dropReturn raw := by
          have hline := hfirst.noLineEnd
          rwa [String.toList_ofList] at hline
        exact .behind hnone (hsame.symm ▸ hother) (by omega) (hrest.mono (by omega))
      · rw [List.filter_cons_of_neg hkeep]
        exact hrest.mono (by omega)

/-- What the records of lines from before an instant are called. -/
def expiredIn (cutoff : Time.Instant) (lines : List String) : List RecordId :=
  lines.filterMap fun line => (expired? cutoff line).map (·.id)

/-- The folder once the copy of a file is complete: it takes the place of the file only if something
was left out. -/
def closed (name copy : String) (gone : List RecordId) (folder : Folder) : Folder :=
  if gone.isEmpty then folder.remove (draftName name)
  else (folder.remove (draftName name)).put name (.file copy)

theorem purgePartition_of_file {folder : Folder} {p text : String} {cutoff : Time.Instant}
    (hentry : folder.lookup (fileName p) = some (.file text))
    (hdraft : ∀ entries, folder.lookup (draftName (fileName p)) ≠ some (.folder entries)) :
    purgePartition cutoff p folder =
      (closed (fileName p) (keptText cutoff (lines text)) (expiredIn cutoff (lines text)) folder,
        .ok (expiredIn cutoff (lines text))) := by
  have hrewrite : purgePartition cutoff p folder =
      if (expiredIn cutoff (lines text)).isEmpty then
        (folder.remove (draftName (fileName p)), .ok [])
      else ((folder.remove (draftName (fileName p))).put (fileName p)
        (.file (keptText cutoff (lines text))), .ok (expiredIn cutoff (lines text))) := by
    unfold purgePartition
    dsimp only
    rw [hentry]
    cases hblocked : folder.lookup (draftName (fileName p)) with
    | none => rfl
    | some entry =>
        cases entry with
        | file _ => rfl
        | folder entries => exact absurd hblocked (hdraft entries)
  rw [hrewrite]
  unfold closed
  cases expiredIn cutoff (lines text) <;> rfl

end Audit.Journal

end ApiGateway
