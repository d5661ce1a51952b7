import ApiGateway.Proofs.Expression.Stacks
import ApiGateway.Proofs.Expression.Numerals
import ApiGateway.Proofs.Failing

/-! # Offsets

Tokens and faults are reported at byte offsets. A cursor keeps its offset and what remains of the
text, and the two fit together: in front of what remains are as many bytes as the offset says
(`Cursor.StandsIn`). Every step of the scanner keeps this. So tokens begin at characters, one behind
another, and a fault is reported at a boundary between characters (`stands_scanFrom`). The parser
remembers offsets of tokens only, and reports its faults there (`Remembers.run`).
-/

set_option autoImplicit false

namespace ApiGateway.Expression

variable {text : List Char} {offset : Nat} {rest : List Char} {c : Char}

/-! ## Cursors -/

/-- The cursor stands in the text: in front of what remains are as many bytes as its offset says. -/
def Cursor.StandsIn (text : List Char) (cursor : Cursor) : Prop :=
  ∃ front, text = front ++ cursor.rest ∧ cursor.offset = Text.byteLength front

/-- Some cursor with this offset stands in the text. -/
def Boundary (text : List Char) (offset : Nat) : Prop :=
  ∃ rest, Cursor.StandsIn text ⟨offset, rest⟩

theorem Cursor.standsIn_start (text : List Char) : Cursor.StandsIn text ⟨0, text⟩ := ⟨[], rfl, rfl⟩

namespace Cursor.StandsIn

theorem boundary {cursor : Cursor} (h : cursor.StandsIn text) : Boundary text cursor.offset :=
  ⟨cursor.rest, h⟩

theorem pass {taken : List Char} (h : StandsIn text ⟨offset, taken ++ rest⟩) :
    StandsIn text ⟨offset + Text.byteLength taken, rest⟩ := by
  obtain ⟨front, htext, hoffset⟩ := h
  refine ⟨front ++ taken, ?_, ?_⟩
  · rw [htext, List.append_assoc]
  · rw [Text.byteLength_append, ← hoffset]

theorem next (h : StandsIn text ⟨offset, c :: rest⟩) :
    StandsIn text ⟨offset + c.utf8Size, rest⟩ := by
  have hfirst : StandsIn text ⟨offset, [c] ++ rest⟩ := h
  exact hfirst.pass

theorem le_byteLength {cursor : Cursor} (h : cursor.StandsIn text) :
    cursor.offset ≤ Text.byteLength text := by
  obtain ⟨front, htext, hoffset⟩ := h
  rw [hoffset, htext, Text.byteLength_append]
  exact Nat.le_add_right _ _

/-- Of two cursors the one with less text behind it has the greater offset. -/
theorem offset_lt {cursor cursor' : Cursor} (h : cursor.StandsIn text) (h' : cursor'.StandsIn text)
    (hlength : cursor'.rest.length < cursor.rest.length) : cursor.offset < cursor'.offset := by
  obtain ⟨front, rfl, hoffset⟩ := h
  obtain ⟨front', htext, hoffset'⟩ := h'
  rw [hoffset, hoffset']
  rcases List.append_eq_append_iff.1 htext with ⟨between, rfl, hrest⟩ | ⟨between, -, hrest⟩
  · cases between with
    | nil =>
        rw [List.nil_append] at hrest
        rw [hrest] at hlength
        exact absurd hlength (Nat.lt_irrefl _)
    | cons d between =>
        have hpos := d.utf8Size_pos
        rw [Text.byteLength_append, Text.byteLength_cons]
        omega
  · rw [hrest, List.length_append] at hlength
    omega

end Cursor.StandsIn

/-! ## Lexemes -/

/-- A result that fits the text: a cursor that stands in it, or a fault at a boundary. -/
def Stands {α : Type} (text : List Char) : Except (Located LexicalFault) (α × Cursor) → Prop
  | .ok (_, cursor) => cursor.StandsIn text
  | .error fault => Boundary text fault.offset

/-- The backslash of an escape that has begun stands at a boundary. -/
def StringMode.Stands (text : List Char) : StringMode → Prop
  | .plain => True
  | .escape start | .brace start | .digits start _ => Boundary text start

theorem stands_scanString {quote : Char} {start : Nat} {mode : StringMode} {done : List Char}
    (hstart : Boundary text start) (hmode : mode.Stands text)
    (h : Cursor.StandsIn text ⟨offset, rest⟩) :
    Stands text (scanString quote start mode done offset rest) := by
  induction rest generalizing mode done offset with
  | nil =>
      cases mode with
      | plain => exact hstart
      | escape _ | brace _ | digits _ _ => exact hmode
  | cons c rest ih =>
      have hnext := h.next
      cases mode with
      | plain =>
          rw [scanString]
          split
          · exact hnext
          split
          · exact ih h.boundary hnext
          · exact ih trivial hnext
      | escape start =>
          rw [scanString]
          split
          · exact ih hmode hnext
          split
          · exact ih trivial hnext
          · exact hmode
      | brace start =>
          rw [scanString]
          split
          · exact ih hmode hnext
          · exact hmode
      | digits start read =>
          rw [scanString]
          split
          · split
            · exact ih trivial hnext
            · exact hmode
          split
          · exact ih hmode hnext
          · exact hmode

theorem spanFraction_append (cs : List Char) : (spanFraction cs).1 ++ (spanFraction cs).2 = cs := by
  unfold spanFraction
  split
  · split
    · simp [Decimal.spanDigits]
    · rfl
  · rfl

theorem spanSign_append_self (cs : List Char) : (spanSign cs).1 ++ (spanSign cs).2 = cs := by
  unfold spanSign
  split <;> rfl

theorem spanExponent_append (cs : List Char) : (spanExponent cs).1 ++ (spanExponent cs).2 = cs := by
  unfold spanExponent
  split
  · rfl
  · rename_i e cs
    split
    · dsimp only
      split
      · rfl
      · have hsign := spanSign_append_self cs
        simp only [Decimal.spanDigits, List.cons_append, List.append_assoc,
          List.takeWhile_append_dropWhile, hsign]
    · rfl

theorem spanNumber_append (cs : List Char) : (spanNumber cs).1 ++ (spanNumber cs).2.2 = cs := by
  unfold spanNumber
  dsimp only
  rw [List.append_assoc, spanExponent_append, List.append_assoc, spanFraction_append]
  exact List.takeWhile_append_dropWhile

/-- The second character of a mark takes up one byte. -/
theorem utf8Size_of_doubleMark? {d : Char} {m : Mark} (h : doubleMark? c d = some m) :
    d.utf8Size = 1 := by
  unfold doubleMark? at h
  split at h
  case h_8 => cases h
  all_goals rfl

theorem stands_scanLexeme (h : Cursor.StandsIn text ⟨offset, c :: rest⟩) :
    Stands text (scanLexeme offset c rest) := by
  have hnext := h.next
  unfold scanLexeme
  dsimp only
  split
  · -- a mark of two characters
    rename_i m hmark
    obtain ⟨d, hhead, hd⟩ := Option.bind_eq_some_iff.1 hmark
    obtain ⟨behind, rfl⟩ := List.head?_eq_some_iff.1 hhead
    have hbehind := hnext.next
    rwa [utf8Size_of_doubleMark? hd] at hbehind
  split
  · exact h.boundary
  split
  · exact hnext
  split
  · exact h.boundary
  split
  · have hstring : Stands text (scanString c offset .plain [] (offset + c.utf8Size) rest) :=
      stands_scanString h.boundary trivial hnext
    cases hread : scanString c offset .plain [] (offset + c.utf8Size) rest with
    | error fault =>
        rw [hread] at hstring
        exact hstring
    | ok read =>
        rw [hread] at hstring
        exact hstring
  split
  · split
    · have hdigits : Cursor.StandsIn text
          ⟨offset, (spanNumber (c :: rest)).1 ++ (spanNumber (c :: rest)).2.2⟩ := by
        rwa [spanNumber_append]
      exact hdigits.pass
    · exact h.boundary
  split
  · have hname : Cursor.StandsIn text
        ⟨offset + c.utf8Size, rest.takeWhile continuesName ++ rest.dropWhile continuesName⟩ := by
      rwa [List.takeWhile_append_dropWhile]
    exact hname.pass
  · exact h.boundary

/-! ## Tokens -/

/-- Tokens from an offset on: each begins at a character, behind the one in front of it, and the
last one is the stop at the end of the text. -/
inductive Row (text : List Char) : Nat → List Token → Prop where
  | stop {least : Nat} (le_end : least ≤ Text.byteLength text) :
      Row text least [⟨.stop, Text.byteLength text⟩]
  | cons {least offset : Nat} {lexeme : Lexeme} {c : Char} {rest : List Char} {tokens : List Token}
      (goes_on : lexeme ≠ .stop) (le_offset : least ≤ offset)
      (begins : Cursor.StandsIn text ⟨offset, c :: rest⟩) (behind : Row text (offset + 1) tokens) :
      Row text least (⟨lexeme, offset⟩ :: tokens)

namespace Row

variable {least : Nat} {tokens : List Token}

theorem mono (h : Row text least tokens) {least' : Nat} (hle : least' ≤ least) :
    Row text least' tokens := by
  cases h with
  | stop hend => exact .stop (Nat.le_trans hle hend)
  | cons hlexeme hoffset hbegins hbehind =>
      exact .cons hlexeme (Nat.le_trans hle hoffset) hbegins hbehind

theorem le_offset (h : Row text least tokens) : ∀ token ∈ tokens, least ≤ token.offset := by
  induction h with
  | stop hend =>
      intro token htoken
      rwa [List.mem_singleton.1 htoken]
  | cons _ hoffset _ _ ih =>
      intro token htoken
      rcases List.mem_cons.1 htoken with rfl | htoken
      · exact hoffset
      · exact Nat.le_trans (Nat.le_trans hoffset (Nat.le_succ _)) (ih token htoken)

theorem ascending (h : Row text least tokens) :
    tokens.Pairwise fun first second => first.offset < second.offset := by
  induction h with
  | stop => exact List.pairwise_singleton _ _
  | cons _ _ _ hbehind ih => exact List.pairwise_cons.2 ⟨hbehind.le_offset, ih⟩

theorem exists_eq_append (h : Row text least tokens) :
    ∃ front, tokens = front ++ [⟨.stop, Text.byteLength text⟩] ∧ ∀ token ∈ front,
      token.lexeme ≠ .stop ∧ ∃ c rest, Cursor.StandsIn text ⟨token.offset, c :: rest⟩ := by
  induction h with
  | stop => exact ⟨[], rfl, nofun⟩
  | cons hlexeme _ hbegins _ ih =>
      obtain ⟨front, rfl, hfront⟩ := ih
      refine ⟨_ :: front, rfl, fun token htoken => ?_⟩
      rcases List.mem_cons.1 htoken with rfl | htoken
      · exact ⟨hlexeme, _, _, hbegins⟩
      · exact hfront token htoken

theorem boundary (h : Row text least tokens) : ∀ token ∈ tokens, Boundary text token.offset := by
  induction h with
  | stop =>
      intro token htoken
      rw [List.mem_singleton.1 htoken]
      exact ⟨[], text, (List.append_nil text).symm, rfl⟩
  | cons _ _ hbegins _ ih =>
      intro token htoken
      rcases List.mem_cons.1 htoken with rfl | htoken
      · exact hbegins.boundary
      · exact ih token htoken

end Row

theorem ne_stop_of_scanLexeme {lexeme : Lexeme} {cursor : Cursor}
    (h : scanLexeme offset c rest = .ok (lexeme, cursor)) : lexeme ≠ .stop := by
  obtain ⟨_, rfl⟩ | ⟨_, rfl⟩ | ⟨_, ⟨_, rfl, _⟩, _⟩ | ⟨_, rfl⟩ := scanLexeme_cases h <;> exact nofun

theorem stands_scanFrom (h : Cursor.StandsIn text ⟨offset, rest⟩) :
    match scanFrom offset rest with
    | .ok tokens => Row text offset tokens
    | .error fault => Boundary text fault.offset := by
  fun_induction scanFrom offset rest with
  | case1 offset =>
      obtain ⟨front, htext, hoffset⟩ := h
      rw [List.append_nil] at htext
      subst htext
      dsimp only at hoffset ⊢
      rw [hoffset]
      exact .stop (Nat.le_refl _)
  | case2 offset c rest hblank ih =>
      have hnext := ih h.next
      split at hnext
      · exact hnext.mono (Nat.le_add_right _ _)
      · exact hnext
  | case3 offset c rest hblank fault hfault =>
      have hlexeme := stands_scanLexeme h
      rw [hfault] at hlexeme
      exact hlexeme
  | case4 offset c rest hblank lexeme cursor hscan hle ih =>
      have hlexeme := stands_scanLexeme h
      rw [hscan] at hlexeme
      have hbehind := ih hlexeme
      have hlt : offset < cursor.offset := h.offset_lt hlexeme (Nat.lt_succ_of_le hle)
      cases hrest : scanFrom cursor.offset cursor.rest with
      | error fault =>
          rw [hrest] at hbehind
          exact hbehind
      | ok tokens =>
          rw [hrest] at hbehind
          exact .cons (ne_stop_of_scanLexeme hscan) (Nat.le_refl _) h (hbehind.mono hlt)

/-! ## The parser -/

/-- An offset that a frame remembers has a property. -/
def Frame.Remembers (P : Nat → Prop) : Frame → Prop
  | .arguments _ offset _ => P offset
  | _ => True

/-- All offsets that a state remembers have a property. -/
def ParseState.Remembers (P : Nat → Prop) : ParseState → Prop
  | .operand stack _ | .field stack _ | .complete stack _ => ∀ frame ∈ stack, frame.Remembers P
  | .named stack _ offset => (∀ frame ∈ stack, frame.Remembers P) ∧ P offset
  | .finished _ => True

/-- A step leads to a state that remembers offsets with a property, or reports a fault at one. -/
def Step.Keeps (P : Nat → Prop) : Step → Prop
  | .ok state => state.Remembers P
  | .error fault => P fault.offset

variable {P : Nat → Prop} {stack : List Frame} {t : Tree} {token : Token}

theorem settle_suffix (power : Nat) (stack : List Frame) (t : Tree) :
    (settle power stack t).1 <:+ stack := by
  fun_induction settle power stack t with
  | case1 _ _ _ _ ih => exact ih.trans (List.suffix_cons _ _)
  | case3 _ _ _ _ _ ih => exact ih.trans (List.suffix_cons _ _)
  | case5 _ _ _ _ _ ih => exact ih.trans (List.suffix_cons _ _)
  | _ => exact List.suffix_refl _

theorem remembers_settle (h : ∀ frame ∈ stack, frame.Remembers P) (power : Nat) (t : Tree) :
    ∀ frame ∈ (settle power stack t).1, frame.Remembers P :=
  fun frame hframe => h frame ((settle_suffix power stack t).subset hframe)

theorem keeps_finishCall {f : Function} {done : List Tree}
    (h : ∀ frame ∈ stack, frame.Remembers P) (hoffset : P offset) :
    Step.Keeps P (finishCall stack f offset done) := by
  unfold finishCall
  split
  · exact h
  · exact hoffset

theorem keeps_close (h : ∀ frame ∈ stack, frame.Remembers P) (htoken : P token.offset) :
    Step.Keeps P (close stack t token) := by
  unfold close
  split
  · -- a group
    obtain ⟨-, hstack⟩ := List.forall_mem_cons.1 h
    split
    · exact hstack
    · exact htoken
  · -- an index
    obtain ⟨-, hstack⟩ := List.forall_mem_cons.1 h
    split
    · exact hstack
    · exact htoken
  · -- a branch of a conditional
    obtain ⟨-, hstack⟩ := List.forall_mem_cons.1 h
    split
    · exact List.forall_mem_cons.2 ⟨trivial, hstack⟩
    · exact htoken
  · -- an argument
    obtain ⟨hcall, hstack⟩ := List.forall_mem_cons.1 h
    split
    · exact List.forall_mem_cons.2 ⟨hcall, hstack⟩
    split
    · exact keeps_finishCall hstack hcall
    · exact htoken
  · split
    · trivial
    · exact htoken

theorem keeps_afterOperand (h : ∀ frame ∈ stack, frame.Remembers P) (htoken : P token.offset) :
    Step.Keeps P (afterOperand stack t token) := by
  have hsettled := remembers_settle h
  unfold afterOperand
  split
  · exact h
  · exact List.forall_mem_cons.2 ⟨trivial, h⟩
  · exact List.forall_mem_cons.2 ⟨trivial, hsettled _ _⟩
  · split
    · exact List.forall_mem_cons.2 ⟨trivial, hsettled _ _⟩
    · exact keeps_close (hsettled _ _) htoken
  · exact keeps_close (hsettled _ _) htoken

theorem keeps_startOperand {mayClose : Bool} (h : ∀ frame ∈ stack, frame.Remembers P)
    (htoken : P token.offset) : Step.Keeps P (startOperand stack mayClose token) := by
  unfold startOperand
  split
  · exact h
  · exact h
  · split
    · exact h
    · exact ⟨h, htoken⟩
  · exact List.forall_mem_cons.2 ⟨trivial, h⟩
  · exact List.forall_mem_cons.2 ⟨trivial, h⟩
  · exact List.forall_mem_cons.2 ⟨trivial, h⟩
  · obtain ⟨hcall, hstack⟩ := List.forall_mem_cons.1 h
    exact keeps_finishCall hstack hcall
  · exact htoken

namespace ParseState.Remembers

theorem step {state : ParseState} (h : state.Remembers P) (htoken : P token.offset) :
    Step.Keeps P (state.step token) := by
  cases state with
  | operand stack mayClose => exact keeps_startOperand h htoken
  | named stack name offset =>
      obtain ⟨hstack, hoffset⟩ := h
      rw [ParseState.step]
      split
      · split
        · exact List.forall_mem_cons.2 ⟨hoffset, hstack⟩
        · exact hoffset
      · split
        · exact keeps_afterOperand hstack htoken
        · exact hoffset
  | field stack target =>
      rw [ParseState.step]
      split
      · exact h
      · exact htoken
  | complete stack t => exact keeps_afterOperand h htoken
  | finished t => exact htoken

theorem run {state : ParseState} (h : state.Remembers P) {tokens : List Token}
    (htokens : ∀ token ∈ tokens, P token.offset) : Step.Keeps P (state.run tokens) := by
  induction tokens generalizing state with
  | nil => exact h
  | cons token tokens ih =>
      obtain ⟨htoken, htokens⟩ := List.forall_mem_cons.1 htokens
      have hstep := h.step htoken
      rw [ParseState.run]
      split
      · rename_i hstate
        rw [hstate] at hstep
        exact ih hstep htokens
      · rename_i hfault
        rw [hfault] at hstep
        exact hstep

end ParseState.Remembers

theorem boundary_of_parse {source : String} {fault : Located SyntaxFault}
    (h : Tree.parse source = .error fault) : Boundary source.toList fault.offset := by
  have hscan := stands_scanFrom (Cursor.standsIn_start source.toList)
  unfold Tree.parse Token.scan at h
  split at h
  · rename_i tokens htokens
    rw [htokens] at hscan
    have hstart : (ParseState.operand [] false).Remembers (Boundary source.toList) := nofun
    have hrun := hstart.run hscan.boundary
    unfold Tree.ofTokens at h
    split at h
    · cases h
    · cases h
      exact (Cursor.standsIn_start _).boundary
    · rename_i hfault
      cases h
      rw [hfault] at hrun
      exact hrun
  · rename_i hfault
    rw [hfault] at hscan
    cases h
    exact hscan

/-! ## Offsets in texts -/

theorem byteLength_toList (s : String) : Text.byteLength s.toList = s.utf8ByteSize := by
  have hbytes : ∀ cs : List Char, (String.ofList cs).utf8ByteSize = Text.byteLength cs := by
    intro cs
    induction cs with
    | nil => rfl
    | cons c cs ih =>
        rw [String.ofList_cons, String.utf8ByteSize_append, String.utf8ByteSize_singleton, ih,
          Text.byteLength_cons]
  rw [← hbytes, String.ofList_toList]

/-- The boundaries of a text are the offsets at which it can be cut. -/
theorem boundary_iff {source : String} :
    Boundary source.toList offset ↔ String.Pos.Raw.IsValid source ⟨offset⟩ := by
  rw [String.Pos.Raw.isValid_iff_exists_append]
  constructor
  · rintro ⟨rest, front, hsource, hoffset⟩
    refine ⟨String.ofList front, String.ofList rest, ?_, ?_⟩
    · rw [← String.ofList_append, ← hsource, String.ofList_toList]
    · rw [String.Pos.Raw.ext_iff]
      show offset = (String.ofList front).utf8ByteSize
      rw [← byteLength_toList, String.toList_ofList]
      exact hoffset
  · rintro ⟨front, rest, rfl, hoffset⟩
    refine ⟨rest.toList, front.toList, String.toList_append, ?_⟩
    rw [byteLength_toList]
    exact String.Pos.Raw.ext_iff.1 hoffset

/-- Tokens begin at characters, one behind another, and end with one stop at the end of the text; a
text that is no expression is refused at a boundary between its characters. -/
theorem offsets_accounted (text : String) :
    (∀ tokens, Token.scan text = .ok tokens →
      tokens.Pairwise (fun first second => first.offset < second.offset) ∧
        ∃ front, tokens = front ++ [⟨.stop, text.utf8ByteSize⟩] ∧ ∀ token ∈ front,
          token.lexeme ≠ .stop ∧ token.offset < text.utf8ByteSize ∧
            String.Pos.Raw.IsValid text ⟨token.offset⟩) ∧
      ∀ error, parse text = .error error → unwrap text ≠ "" →
        error.source = unwrap text ∧ error.offset ≤ error.source.utf8ByteSize ∧
          String.Pos.Raw.IsValid error.source ⟨error.offset⟩ := by
  constructor
  · intro tokens hscan
    have hrow := stands_scanFrom (Cursor.standsIn_start text.toList)
    unfold Token.scan at hscan
    rw [hscan] at hrow
    obtain ⟨front, htokens, hfront⟩ := hrow.exists_eq_append
    refine ⟨hrow.ascending, front, ?_, ?_⟩
    · rw [htokens, byteLength_toList]
    · intro token htoken
      obtain ⟨hlexeme, c, rest, hbegins⟩ := hfront token htoken
      -- the character at the token lies in front of the end
      have hlt := hbegins.next.le_byteLength
      have hpos := c.utf8Size_pos
      rw [byteLength_toList] at hlt
      dsimp only at hlt
      exact ⟨hlexeme, by omega, boundary_iff.1 hbegins.boundary⟩
  · intro error hparse hsome
    unfold parse at hparse
    dsimp only at hparse
    rw [if_neg (by simpa using hsome)] at hparse
    split at hparse
    · cases hparse
    · rename_i fault hfault
      cases hparse
      have hvalid := boundary_iff.1 (boundary_of_parse hfault)
      exact ⟨rfl, hvalid.le_utf8ByteSize, hvalid⟩

/-- A text with characters of one, two and three bytes, and a name that is no root. -/
def greek : String := "'日本' + π"

theorem offsets_accounted_greek :
    (∃ tokens, Token.scan greek = .ok tokens ∧ tokens.map Token.offset = [0, 9, 11, 13] ∧
      tokens.Pairwise fun first second => first.offset < second.offset) ∧
    unwrap greek ≠ "" ∧ ∃ error, parse greek = .error error ∧
      error.source = unwrap greek ∧ String.Pos.Raw.IsValid error.source ⟨error.offset⟩ := by
  have hscan : Token.scan greek =
      .ok [⟨.text "日本", 0⟩, ⟨.mark .plus, 9⟩, ⟨.name "π", 11⟩, ⟨.stop, 13⟩] :=
    eq_ok_of_toOption (by decide +kernel)
  have hsome : unwrap greek ≠ "" := by decide
  obtain ⟨error, hparse⟩ := exists_error_of_toOption (x := parse greek)
    (Option.isNone_iff_eq_none.1 (by decide +kernel))
  obtain ⟨htokens, herrors⟩ := offsets_accounted greek
  obtain ⟨hsource, -, hvalid⟩ := herrors error hparse hsome
  exact ⟨⟨_, hscan, rfl, (htokens _ hscan).1⟩, hsome, error, hparse, hsource, hvalid⟩

end ApiGateway.Expression
