import ApiGateway.Proofs.Expression.Grammar
import ApiGateway.Proofs.Text.Classes

/-! # Scanned tokens

`Scans` says of a text that the scanner splits it off in front of other text as certain lexemes.
A mark and a name are split off whole if the text behind them does not go on with them, and a quoted
string always is.
-/

set_option autoImplicit false

namespace ApiGateway.Expression

open Json (Number)

/-! ## Texts and lexemes -/

/-- The scanner splits a text in front of other text off as lexemes. -/
def Scans (cs : List Char) (ls : List Lexeme) (rest : List Char) : Prop :=
  ∀ offset, ∃ (tokens : List Token) (next : Nat), tokens.map Token.lexeme = ls ∧
    scanFrom offset (cs ++ rest) = (scanFrom next rest).map (tokens ++ ·)

theorem Scans.nil (rest : List Char) : Scans [] [] rest := fun offset => by
  refine ⟨[], offset, rfl, ?_⟩
  cases h : scanFrom offset rest <;> simp [h, Except.map]

theorem Scans.append {cs ds rest : List Char} {ls ms : List Lexeme} (h : Scans cs ls (ds ++ rest))
    (hds : Scans ds ms rest) : Scans (cs ++ ds) (ls ++ ms) rest := fun offset => by
  obtain ⟨ts, middle, hts, hscan⟩ := h offset
  obtain ⟨us, next, hus, hscan'⟩ := hds middle
  refine ⟨ts ++ us, next, by rw [List.map_append, hts, hus], ?_⟩
  rw [List.append_assoc, hscan, hscan']
  cases scanFrom next rest <;> simp [Except.map]

theorem scanFrom_blank {c : Char} (hc : Text.isBlank c = true) (offset : Nat) (cs : List Char) :
    scanFrom offset (c :: cs) = scanFrom (offset + c.utf8Size) cs := by
  rw [scanFrom.eq_def]
  exact if_pos hc

/-- A blank is skipped. -/
theorem Scans.blank {c : Char} {cs rest : List Char} {ls : List Lexeme}
    (hc : Text.isBlank c = true) (h : Scans cs ls rest) : Scans (c :: cs) ls rest :=
  fun offset => by
    obtain ⟨ts, next, hts, hscan⟩ := h (offset + c.utf8Size)
    refine ⟨ts, next, hts, ?_⟩
    rw [List.cons_append, scanFrom_blank hc, hscan]

/-- So are all blanks in front of a text. -/
theorem Scans.blanks {blanks cs rest : List Char} {ls : List Lexeme}
    (hblanks : ∀ c ∈ blanks, Text.isBlank c = true) (h : Scans cs ls rest) :
    Scans (blanks ++ cs) ls rest := by
  induction blanks with
  | nil => exact h
  | cons c blanks ih =>
      obtain ⟨hc, hblanks⟩ := List.forall_mem_cons.1 hblanks
      exact .blank hc (ih hblanks)

theorem scanFrom_cons {c : Char} {cs rest : List Char} {l : Lexeme} {offset next : Nat}
    (hc : Text.isBlank c = false) (h : scanLexeme offset c cs = .ok (l, ⟨next, rest⟩)) :
    scanFrom offset (c :: cs) = (scanFrom next rest).map (⟨l, offset⟩ :: ·) := by
  rw [scanFrom.eq_def]
  dsimp only
  rw [if_neg (by simp [hc])]
  split
  · rename_i heq
    rw [h] at heq
    cases heq
  · rename_i heq
    rw [h] at heq
    cases heq
    rfl

/-- A lexeme that is scanned at the front of a text. -/
theorem Scans.lexeme {c : Char} {cs rest : List Char} {l : Lexeme} (hc : Text.isBlank c = false)
    (h : ∀ offset, ∃ next, scanLexeme offset c (cs ++ rest) = .ok (l, ⟨next, rest⟩)) :
    Scans (c :: cs) [l] rest := fun offset => by
  obtain ⟨next, hlexeme⟩ := h offset
  exact ⟨[⟨l, offset⟩], next, rfl, scanFrom_cons hc hlexeme⟩

/-! ## Marks -/

/-- No mark of two characters ends in the first character of the text. -/
def EndsMark (rest : List Char) : Prop :=
  ∀ c, rest.head? = some c → c ≠ '=' ∧ c ≠ '&' ∧ c ≠ '|' ∧ c ≠ '?'

theorem doubleMark?_eq_none (c : Char) {d : Char} (h : d ≠ '=' ∧ d ≠ '&' ∧ d ≠ '|' ∧ d ≠ '?') :
    doubleMark? c d = none := by
  obtain ⟨hequal, hand, hor, hquestion⟩ := h
  unfold doubleMark?
  split
  case h_8 => rfl
  all_goals contradiction

theorem EndsMark.bind_doubleMark? {rest : List Char} (h : EndsMark rest) (c : Char) :
    rest.head?.bind (doubleMark? c) = none := by
  cases hhead : rest.head? with
  | none => rfl
  | some d => exact doubleMark?_eq_none c (h d hhead)

/-- A mark of one character is split off unless the next character belongs to it, or to a number
that would begin with a point. -/
theorem Scans.singleMark {c : Char} {m : Mark} {rest : List Char} (hm : singleMark? c = some m)
    (hblank : Text.isBlank c = false) (h : EndsMark rest)
    (hdot : c = '.' → rest.head?.any Char.isDigit = false) : Scans [c] [.mark m] rest := by
  refine .lexeme hblank fun offset => ⟨offset + c.utf8Size, ?_⟩
  have hguard : ¬(c = '.' ∧ rest.head?.any Char.isDigit = true) := fun ⟨hc, hdigit⟩ => by
    rw [hdot hc] at hdigit
    cases hdigit
  unfold scanLexeme
  simp only [List.nil_append, h.bind_doubleMark?, if_neg hguard, hm]

/-- In front of a blank every mark is split off. -/
theorem Scans.mark_blank (m : Mark) (rest : List Char) :
    Scans m.text.toList [.mark m] (' ' :: rest) := by
  have hspace : EndsMark (' ' :: rest) := by
    rintro c h
    cases h
    decide
  cases m with
  | equal => exact .lexeme (by decide) fun _ => ⟨_, rfl⟩
  | notEqual => exact .lexeme (by decide) fun _ => ⟨_, rfl⟩
  | lessEqual => exact .lexeme (by decide) fun _ => ⟨_, rfl⟩
  | greaterEqual => exact .lexeme (by decide) fun _ => ⟨_, rfl⟩
  | and => exact .lexeme (by decide) fun _ => ⟨_, rfl⟩
  | or => exact .lexeme (by decide) fun _ => ⟨_, rfl⟩
  | coalesce => exact .lexeme (by decide) fun _ => ⟨_, rfl⟩
  | _ => exact .singleMark rfl (by decide) hspace fun _ => rfl

/-- A mark between blanks is split off. -/
theorem Scans.spaced (m : Mark) {cs rest : List Char} {ls : List Lexeme} (h : Scans cs ls rest) :
    Scans (' ' :: (m.text.toList ++ ' ' :: cs)) (.mark m :: ls) rest :=
  .blank (by decide) (.append (.mark_blank m (cs ++ rest)) (.blank (by decide) h))

/-! ## Names -/

/-- The text does not go on with a name or a number. -/
def EndsWord (rest : List Char) : Prop :=
  (∀ c, rest.head? = some c → continuesName c = false) ∧
    ∀ c cs, rest = '.' :: c :: cs → c.isDigit = false

theorem isBlank_eq_false_of_startsName {c : Char} (h : startsName c = true) :
    Text.isBlank c = false := by
  cases hblank : Text.isBlank c with
  | false => rfl
  | true =>
      rw [startsName, Text.isAlphabetic_eq_false_of_isBlank hblank, Bool.false_or, beq_iff_eq] at h
      subst h
      exact absurd hblank (by decide)

/-- A name and a number end where a blank stands. -/
theorem EndsWord.blank {c : Char} (h : Text.isBlank c = true) (rest : List Char) :
    EndsWord (c :: rest) := by
  have hne : ∀ d, Text.isBlank d = false → c ≠ d := by
    rintro d hd rfl
    rw [h] at hd
    cases hd
  refine ⟨?_, fun d cs heq => absurd (List.cons.inj heq).1 (hne '.' (by decide))⟩
  rintro d hd
  cases hd
  rw [continuesName, Text.isAlphanumeric, Text.isAlphabetic_eq_false_of_isBlank h,
    Text.isNumeric_eq_false_of_isBlank h]
  simp [hne '_' (by decide)]

theorem isDigit_eq_false_of_startsName {c : Char} (h : startsName c = true) :
    c.isDigit = false := by
  cases hdigit : c.isDigit with
  | false => rfl
  | true =>
      rw [startsName, Text.isAlphabetic_eq_false_of_isDigit hdigit, Bool.false_or,
        beq_iff_eq] at h
      subst h
      exact absurd hdigit (by decide)

/-- A digit or the first character of a name begins no mark and no string. -/
theorem scanLexeme_word {c : Char} (h : c.isDigit = true ∨ startsName c = true) (offset : Nat)
    (cs : List Char) :
    scanLexeme offset c cs =
      if c.isDigit then
        match numberOf? (spanNumber (c :: cs)).1 (spanNumber (c :: cs)).2.1 with
        | some n => .ok (.number n,
            ⟨offset + Text.byteLength (spanNumber (c :: cs)).1, (spanNumber (c :: cs)).2.2⟩)
        | none => .error ⟨offset, .invalidNumber (String.ofList (spanNumber (c :: cs)).1)⟩
      else if startsName c then
        .ok (.name (String.ofList (c :: cs.takeWhile continuesName)),
          ⟨offset + c.utf8Size + Text.byteLength (cs.takeWhile continuesName),
            cs.dropWhile continuesName⟩)
      else .error ⟨offset, .unexpectedCharacter c⟩ := by
  have hne : ∀ d : Char, ¬(d.isDigit = true ∨ startsName d = true) → c ≠ d :=
    fun d hd heq => hd (heq ▸ h)
  have hdouble : cs.head?.bind (doubleMark? c) = none := by
    cases cs.head? with
    | none => rfl
    | some d =>
        show doubleMark? c d = none
        unfold doubleMark?
        split
        case h_8 => rfl
        all_goals exact absurd h (by decide)
  have hsingle : singleMark? c = none := by
    unfold singleMark?
    split
    case h_17 => rfl
    all_goals exact absurd h (by decide)
  unfold scanLexeme
  simp only [hdouble, hsingle]
  rw [if_neg (fun hdot => hne '.' (by decide) hdot.1), if_neg (hne '=' (by decide))]
  exact if_neg (by simp [hne '\'' (by decide), hne '"' (by decide)])

/-- The scanner takes the name whole that a character begins. -/
theorem scanLexeme_name {c : Char} (h : startsName c = true) (offset : Nat) (cs : List Char) :
    scanLexeme offset c cs = .ok (.name (String.ofList (c :: cs.takeWhile continuesName)),
      ⟨offset + c.utf8Size + Text.byteLength (cs.takeWhile continuesName),
        cs.dropWhile continuesName⟩) := by
  rw [scanLexeme_word (.inr h), if_neg (by simp [isDigit_eq_false_of_startsName h]), if_pos h]

theorem Scans.name {name : String} {rest : List Char} (h : IsIdentifier name)
    (hrest : EndsWord rest) : Scans name.toList [.name name] rest := by
  obtain ⟨c, cs, hname, hc, hcs⟩ := h
  rw [hname]
  refine .lexeme (isBlank_eq_false_of_startsName hc) fun offset =>
    ⟨offset + c.utf8Size + Text.byteLength cs, ?_⟩
  obtain ⟨htake, hdrop⟩ := Text.takeWhile_append_of_stop (List.all_eq_true.1 hcs) hrest.1
  rw [scanLexeme_name hc, htake, hdrop, ← hname, String.ofList_toList]

/-! ## Strings -/

/-- The characters that write a character in a string with double quotes. -/
def escape (c : Char) : List Char :=
  if c = '\\' ∨ c = '"' then ['\\', c]
  else if c = '\n' then ['\\', 'n']
  else if c = '\t' then ['\\', 't']
  else if c = '\r' then ['\\', 'r']
  else [c]

/-- A string literal: the escaped text in double quotes. -/
def quoted (text : String) : List Char := '"' :: (text.toList.flatMap escape ++ ['"'])

theorem scanString_escape (c : Char) (start offset : Nat) (done cs : List Char) :
    ∃ next, scanString '"' start .plain done offset (escape c ++ cs) =
      scanString '"' start .plain (c :: done) next cs := by
  have hshort : ∀ {e d : Char}, unescape? e = some d → e ≠ 'u' → ∃ next,
      scanString '"' start .plain done offset ('\\' :: e :: cs) =
        scanString '"' start .plain (d :: done) next cs := fun {e d} he hu => by
    refine ⟨offset + '\\'.utf8Size + e.utf8Size, ?_⟩
    rw [scanString, if_neg (by decide), if_pos rfl, scanString, if_neg hu, he]
  unfold escape
  split
  · rename_i h
    rcases h with rfl | rfl
    · exact hshort rfl (by decide)
    · exact hshort rfl (by decide)
  split
  · rename_i h
    rw [h]
    exact hshort rfl (by decide)
  split
  · rename_i h
    rw [h]
    exact hshort rfl (by decide)
  split
  · rename_i h
    rw [h]
    exact hshort rfl (by decide)
  · rename_i hspecial _ _ _
    refine ⟨offset + c.utf8Size, ?_⟩
    rw [List.singleton_append, scanString, if_neg fun h => hspecial (.inr h),
      if_neg fun h => hspecial (.inl h)]

/-- An escaped text is scanned as the text. -/
theorem scanString_escaped (text : List Char) (start offset : Nat) (done rest : List Char) :
    ∃ next, scanString '"' start .plain done offset (text.flatMap escape ++ '"' :: rest) =
      .ok (String.ofList (done.reverse ++ text), ⟨next, rest⟩) := by
  induction text generalizing done offset with
  | nil =>
      refine ⟨offset + '"'.utf8Size, ?_⟩
      rw [List.flatMap_nil, List.nil_append, scanString, if_pos rfl, List.append_nil]
  | cons c text ih =>
      rw [List.flatMap_cons, List.append_assoc]
      obtain ⟨middle, hfirst⟩ := scanString_escape c start offset done
        (text.flatMap escape ++ '"' :: rest)
      obtain ⟨next, hothers⟩ := ih middle (c :: done)
      refine ⟨next, ?_⟩
      rw [hfirst, hothers, List.reverse_cons, List.append_assoc, List.singleton_append]

theorem Scans.quoted (text : String) (rest : List Char) :
    Scans (quoted text) [.text text] rest := by
  refine .lexeme (by decide) fun offset => ?_
  have hquote : scanLexeme offset '"' (text.toList.flatMap escape ++ ['"'] ++ rest) =
      (scanString '"' offset .plain [] (offset + '"'.utf8Size)
        (text.toList.flatMap escape ++ ['"'] ++ rest)).bind fun q =>
          .ok (.text q.1, q.2) := by
    have hdouble : ∀ d, doubleMark? '"' d = none := fun d => by
      unfold doubleMark?
      split
      case h_8 => rfl
      all_goals contradiction
    unfold scanLexeme
    cases hhead : (text.toList.flatMap escape ++ ['"'] ++ rest).head? with
    | none => rfl
    | some d =>
        simp only [Option.bind_some, hdouble]
        rfl
  rw [hquote, List.append_assoc, List.singleton_append]
  obtain ⟨next, hscan⟩ :=
    scanString_escaped text.toList offset (offset + '"'.utf8Size) [] rest
  refine ⟨next, ?_⟩
  rw [hscan]
  simp [Except.bind]

end ApiGateway.Expression
