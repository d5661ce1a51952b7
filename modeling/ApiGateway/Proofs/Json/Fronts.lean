import ApiGateway.Proofs.Json.Reading

/-! # Text in front of an object

Text in front of an object is split into tokens as it is on its own, unless a string of it is still
open where the object begins (`lex_append`). Behind at least one token a whole object never ends a
text, because what is open before it stays open (`ofTokens?_append`). So nothing is read of an
object behind other text than spaces: `readFields_append`.
-/

set_option autoImplicit false

namespace ApiGateway.Json

/-! ## Numbers -/

/-- A text in front of which a number ends. -/
def EndsNumber (cs : List Char) : Prop :=
  ∀ c ∈ cs.head?, c.isDigit = false ∧ c ∉ ['-', '+', '.', 'e', 'E']

variable {front cs : List Char}

theorem EndsNumber.ne_cons (h : EndsNumber cs) {c : Char} (hc : c ∈ ['-', '+', '.', 'e', 'E'])
    (rest : List Char) : cs ≠ c :: rest := by
  rintro rfl
  exact (h c rfl).2 hc

theorem EndsNumber.spanDigits (h : EndsNumber cs) (front : List Char) :
    Decimal.spanDigits (front ++ cs) =
      ((Decimal.spanDigits front).1, (Decimal.spanDigits front).2 ++ cs) := by
  unfold Decimal.spanDigits
  induction front with
  | nil =>
      cases cs with
      | nil => rfl
      | cons c cs => simp [(h c rfl).1]
  | cons c front ih =>
      rw [Prod.mk.injEq] at ih ⊢
      rw [List.cons_append, List.takeWhile_cons, List.takeWhile_cons, List.dropWhile_cons,
        List.dropWhile_cons]
      split
      · exact ⟨congrArg (c :: ·) ih.1, ih.2⟩
      · exact ⟨rfl, rfl⟩

theorem EndsNumber.takeSign (h : EndsNumber cs) (front : List Char) :
    Decimal.takeSign (front ++ cs) =
      ((Decimal.takeSign front).1, (Decimal.takeSign front).2 ++ cs) := by
  unfold Decimal.takeSign
  cases front with
  | nil =>
      split
      · rename_i heq
        exact absurd heq (h.ne_cons (by decide) _)
      · rename_i heq
        exact absurd heq (h.ne_cons (by decide) _)
      · rfl
  | cons c front => split <;> simp_all

theorem EndsNumber.takeMinus (h : EndsNumber cs) (front : List Char) :
    Json.takeMinus (front ++ cs) =
      ((Json.takeMinus front).1, (Json.takeMinus front).2 ++ cs) := by
  unfold Json.takeMinus
  cases front with
  | nil =>
      split
      · rename_i heq
        exact absurd heq (h.ne_cons (by decide) _)
      · rfl
  | cons c front => split <;> simp_all

theorem EndsNumber.scanFraction? (h : EndsNumber cs) (front : List Char) :
    Json.scanFraction? (front ++ cs) =
      (Json.scanFraction? front).map fun q => (q.1, q.2 ++ cs) := by
  cases front with
  | nil =>
      unfold Json.scanFraction?
      split
      · rename_i heq
        exact absurd heq (h.ne_cons (by decide) _)
      · rfl
  | cons c front =>
      by_cases hdot : c = '.'
      · subst hdot
        rw [List.cons_append, Json.scanFraction?, Json.scanFraction?, h.spanDigits]
        dsimp only
        split <;> rfl
      · unfold Json.scanFraction?
        split
        · simp_all
        · split
          · simp_all
          · rfl

theorem EndsNumber.scanExponent? (h : EndsNumber cs) (front : List Char) :
    Json.scanExponent? (front ++ cs) =
      (Json.scanExponent? front).map fun q => (q.1, q.2 ++ cs) := by
  cases front with
  | nil =>
      cases cs with
      | nil => rfl
      | cons c cs =>
          have hmark : ¬(c = 'e' ∨ c = 'E') := by
            have hc := (h c rfl).2
            simp only [List.mem_cons, not_or] at hc
            exact not_or.2 ⟨hc.2.2.2.1, hc.2.2.2.2.1⟩
          simp [Json.scanExponent?, hmark]
  | cons c front =>
      rw [List.cons_append, Json.scanExponent?, Json.scanExponent?, h.takeSign]
      dsimp only
      rw [h.spanDigits]
      split
      · dsimp only
        split <;> rfl
      · rfl

theorem EndsNumber.scanNumber (h : EndsNumber cs) (front : List Char) :
    Json.scanNumber (front ++ cs) = (Json.scanNumber front).map fun q => (q.1, q.2 ++ cs) := by
  unfold Json.scanNumber
  rw [h.takeMinus]
  dsimp only
  rw [h.spanDigits]
  dsimp only
  split
  · rfl
  · rw [h.scanFraction?]
    cases Json.scanFraction? (Decimal.spanDigits (Json.takeMinus front).2).2 with
    | none => rfl
    | some q =>
        simp only [Option.map_some, Option.bind_eq_bind, Option.bind_some]
        rw [h.scanExponent?]
        cases Json.scanExponent? q.2 with
        | none => rfl
        | some q' =>
            simp only [Option.map_some, Option.bind_some]
            split <;> rfl

/-! ## Tokens

Behind an opening brace and the quote of a key no token begins, because a key is a word. So the
quote may open a string, but it may not close one.
-/

/-- The text of an object with a key behind whose opening quote no token begins. -/
def OpensObject (cs : List Char) : Prop :=
  ∃ behind, cs = '\x7b' :: '"' :: behind ∧ lex behind = none

/-- A number in front of an object ends before the object. -/
theorem OpensObject.endsNumber (h : OpensObject cs) : EndsNumber cs := by
  obtain ⟨behind, rfl, _⟩ := h
  rintro c ⟨⟩
  decide

/-- So does a word. -/
theorem OpensObject.dropWord? (h : OpensObject cs) {word : List Char} (hword : '\x7b' ∉ word)
    (front : List Char) :
    Json.dropWord? word (front ++ cs) = (Json.dropWord? word front).map (· ++ cs) := by
  obtain ⟨behind, rfl, _⟩ := h
  unfold Json.dropWord?
  induction word generalizing front with
  | nil => simp
  | cons w word ih =>
      rw [List.mem_cons, not_or] at hword
      cases front with
      | nil =>
          have hbrace : (w == '\x7b') = false := beq_eq_false_iff_ne.2 (Ne.symm hword.1)
          simp [List.isPrefixOf, hbrace]
      | cons c front =>
          have hrest := ih hword.2 front
          cases hw : w == c with
          | false => simp [List.isPrefixOf, hw]
          | true => simpa [List.isPrefixOf, hw] using hrest

theorem scanPieces_unit_brace {cs : List Char} (h : '\x7b' ∈ cs.take 4) :
    Json.scanPieces ('\\' :: 'u' :: cs) = none := by
  match cs with
  | [] | [_] | [_, _] | [_, _, _] => rfl
  | a :: b :: c :: d :: cs =>
      have hdigits : Text.hexNumber? [a, b, c, d] = none := by
        have hbrace : Text.hexValue? '\x7b' = none := by decide
        simp only [List.take_succ_cons, List.take_zero, List.mem_cons, List.not_mem_nil,
          or_false] at h
        rcases h with rfl | rfl | rfl | rfl <;> simp [Text.hexNumber?, hbrace]
      rw [Json.scanPieces, hdigits]
      rfl

/-- A scan of a string with an object behind it: the string ends before the object as it does on its
own, or no token begins where it ends. -/
def EndsBefore (cs : List Char) (own both : Option (List Piece × List Char)) : Prop :=
  both = own.map (fun q => (q.1, q.2 ++ cs)) ∨
    ∀ ps after, both = some (ps, after) → lex after = none

theorem EndsBefore.cons {own both : Option (List Piece × List Char)} (h : EndsBefore cs own both)
    (p : Piece) :
    EndsBefore cs (own.bind fun q => some (p :: q.1, q.2))
      (both.bind fun q => some (p :: q.1, q.2)) := by
  rcases h with rfl | hnone
  · left
    cases own <;> rfl
  · right
    intro ps after hboth
    obtain ⟨⟨ps', after'⟩, hscan, heq⟩ := Option.bind_eq_some_iff.1 hboth
    cases heq
    exact hnone ps' after' hscan

/-- A string in front of an object ends before the object, or it is closed by the quote behind the
brace of the object, or never. -/
theorem OpensObject.scanPieces (h : OpensObject cs) (front : List Char) :
    EndsBefore cs (Json.scanPieces front) (Json.scanPieces (front ++ cs)) := by
  obtain ⟨behind, rfl, hbehind⟩ := h
  fun_induction Json.scanPieces front with
  | case1 =>
      refine Or.inr fun ps after hscan => ?_
      have hopen : Json.scanPieces ('\x7b' :: '"' :: behind) =
          some ([.char '\x7b'], behind) := by
        rw [Json.scanPieces.eq_def]
        rfl
      rw [List.nil_append, hopen] at hscan
      cases hscan
      exact hbehind
  | case2 rest => exact Or.inl rfl
  | case3 a b c d rest ih =>
      simp only [List.cons_append, Json.scanPieces]
      cases Text.hexNumber? [a, b, c, d] with
      | none => exact Or.inl rfl
      | some n => exact ih.cons (.unit n)
  | case4 e rest hu ih =>
      by_cases he : e = 'u'
      · -- fewer than four characters follow, so that the brace would be a digit
        subst he
        refine Or.inr fun ps after hscan => ?_
        rw [List.cons_append, List.cons_append, scanPieces_unit_brace] at hscan
        · cases hscan
        · rcases rest with _ | ⟨a, _ | ⟨b, _ | ⟨c, _ | ⟨d, rest⟩⟩⟩⟩
          iterate 4 · simp
          exact (hu a b c d rest rfl rfl).elim
      · rw [List.cons_append, List.cons_append, Json.scanPieces]
        · cases unescape? e with
          | none => exact Or.inl rfl
          | some c => exact ih.cons (.char c)
        · exact fun a b c d rest' heq => absurd heq he
  | case5 c rest hquote hunit hescape hc =>
      refine Or.inr fun ps after hscan => ?_
      by_cases hslash : c = '\\'
      · -- the backslash is the last character, and a brace cannot be escaped
        subst hslash
        cases rest with
        | nil =>
            rw [List.cons_append, List.nil_append, Json.scanPieces] at hscan
            · cases hscan
            · exact fun a b c d rest' heq => absurd heq (by decide)
        | cons e rest => exact (hescape e rest rfl rfl).elim
      · rw [List.cons_append, Json.scanPieces, if_pos hc] at hscan
        · cases hscan
        · exact hquote
        · exact fun a b c d rest' heq => absurd heq hslash
        · exact fun e rest' heq => absurd heq hslash
  | case6 c rest hquote hunit hescape hc ih =>
      have hslash : c ≠ '\\' := fun heq => hc (Or.inr heq)
      rw [List.cons_append, Json.scanPieces, if_neg hc]
      · exact ih.cons (.char c)
      · exact hquote
      · exact fun a b c d rest' heq => absurd heq hslash
      · exact fun e rest' heq => absurd heq hslash

/-- The token in front of an object is the one that the text has on its own, or the text behind it
is no text of tokens. -/
theorem OpensObject.scanToken (h : OpensObject cs) (c : Char) (front : List Char) :
    Json.scanToken c (front ++ cs) =
        (Json.scanToken c front).map (fun q => (q.1, q.2 ++ cs)) ∨
      ∀ t after, Json.scanToken c (front ++ cs) = some (t, after) → lex after = none := by
  unfold Json.scanToken
  split
  case h_10 =>
    rcases h.scanPieces front with hown | hnone
    · left
      rw [hown]
      cases Json.scanPieces front <;> rfl
    · right
      intro t after hscan
      obtain ⟨⟨ps, after'⟩, hpieces, heq⟩ := Option.bind_eq_some_iff.1 hscan
      cases heq
      exact hnone ps after hpieces
  case h_11 =>
    left
    rw [← List.cons_append, h.endsNumber.scanNumber]
    cases Json.scanNumber (c :: front) <;> rfl
  case h_7 | h_8 | h_9 =>
    left
    rw [h.dropWord? (by decide), Option.map_map, Option.map_map]
    rfl
  all_goals exact Or.inl rfl

theorem lex_cons_of_none {c : Char} {cs : List Char} (hspace : isSpace c = false)
    (h : scanToken c cs = none) : lex (c :: cs) = none := by
  rw [lex, if_neg (by simp [hspace])]
  split
  · rfl
  · rename_i hscan
    rw [h] at hscan
    cases hscan

/-- Text in front of an object is split as it is on its own, if the whole is split at all. -/
theorem OpensObject.lex_append (h : OpensObject cs) {front : List Char} {ts : List Token}
    (hts : lex (front ++ cs) = some ts) :
    ∃ own, lex front = some own ∧ some ts = (lex cs).map (own ++ ·) := by
  -- on the length of the text, of which every token takes a part
  induction hlength : front.length using Nat.strongRecOn generalizing front ts with
  | ind n ih =>
      cases front with
      | nil => exact ⟨[], lex.eq_1, by rw [List.nil_append] at hts; simp [hts]⟩
      | cons c front =>
          rw [List.length_cons] at hlength
          rw [List.cons_append] at hts
          cases hspace : isSpace c with
          | true =>
              rw [lex, if_pos hspace] at hts ⊢
              exact ih front.length (by omega) hts rfl
          | false =>
              cases hscan : Json.scanToken c (front ++ cs) with
              | none =>
                  rw [lex_cons_of_none hspace hscan] at hts
                  cases hts
              | some q =>
                  obtain ⟨t, after⟩ := q
                  rw [lex_cons hspace hscan] at hts
                  obtain ⟨us, hus, rfl⟩ := Option.map_eq_some_iff.1 hts
                  rcases h.scanToken c front with hown | hnone
                  · rw [hown] at hscan
                    obtain ⟨⟨t', rest⟩, hscan', heq⟩ := Option.map_eq_some_iff.1 hscan
                    cases heq
                    have hle := length_scanToken_le hscan'
                    obtain ⟨own, hlex, heq⟩ := ih rest.length (by omega) hus rfl
                    refine ⟨t' :: own, ?_, ?_⟩
                    · rw [lex_cons hspace hscan', hlex]
                      rfl
                    · obtain ⟨vs, hvs, rfl⟩ := Option.map_eq_some_iff.1 heq.symm
                      rw [hvs]
                      rfl
                  · rw [hnone t after hscan] at hus
                    cases hus

/-- Only spaces have no tokens. -/
theorem all_isSpace_of_lex {cs : List Char} (h : lex cs = some []) : cs.all isSpace = true := by
  induction cs with
  | nil => rfl
  | cons c cs ih =>
      cases hspace : isSpace c with
      | true =>
          rw [lex, if_pos hspace] at h
          rw [List.all_cons, hspace, ih h]
          rfl
      | false =>
          rw [lex, if_neg (by simp [hspace])] at h
          split at h
          · cases h
          · obtain ⟨_, _, heq⟩ := Option.map_eq_some_iff.1 h
            cases heq

/-- Spaces in front of a text do not matter. -/
theorem lex_spaces_append {spaces : List Char} (h : spaces.all isSpace = true) (cs : List Char) :
    lex (spaces ++ cs) = lex cs := by
  induction spaces with
  | nil => rfl
  | cons c spaces ih =>
      rw [List.all_cons, Bool.and_eq_true] at h
      rw [List.cons_append, lex, if_pos h.1, ih h.2]

/-! ## The machine -/

namespace ReadState

/-- The reader has taken a token, so that no value is complete without what is open. -/
def Begun : ReadState → Prop
  | value stack _ => stack ≠ []
  | _ => True

theorem begun_step {s s' : ReadState} {t : Token} (h : s.step t = some s') : s'.Begun := by
  unfold step at h
  split at h <;> cases h <;> simp [Begun]

/-- A reader with more containers open below. -/
def above (below : List Frame) : ReadState → ReadState
  | value stack mayClose => value (stack ++ below) mayClose
  | key stack done mayClose => key (stack ++ below) done mayClose
  | colon stack done k => colon (stack ++ below) done k
  | after stack v => after (stack ++ below) v

/-- What is open below does not matter to a step. -/
theorem step_above {s s' : ReadState} {t : Token} (h : s.step t = some s') (below : List Frame) :
    (s.above below).step t = some (s'.above below) := by
  unfold step at h
  split at h <;> cases h <;> rfl

theorem run_above {s s' : ReadState} {ts : List Token} (h : s.run ts = some s')
    (below : List Frame) : (s.above below).run ts = some (s'.above below) := by
  induction ts generalizing s with
  | nil =>
      cases h
      rfl
  | cons t ts ih =>
      obtain ⟨s₁, hstep, hrun⟩ := Option.bind_eq_some_iff.1 h
      rw [run_cons (step_above hstep below)]
      exact ih hrun

theorem run_append (s : ReadState) (ts us : List Token) :
    s.run (ts ++ us) = (s.run ts).bind (·.run us) := by
  induction ts generalizing s with
  | nil => rfl
  | cons t ts ih =>
      rw [List.cons_append, run, run]
      cases s.step t with
      | none => rfl
      | some s' => exact ih s'

theorem begun_run {s s' : ReadState} {t : Token} {ts : List Token}
    (h : s.run (t :: ts) = some s') : s'.Begun := by
  induction ts generalizing s t with
  | nil =>
      obtain ⟨s₁, hstep, hrun⟩ := Option.bind_eq_some_iff.1 h
      cases hrun
      exact begun_step hstep
  | cons u ts ih =>
      obtain ⟨s₁, _, hrun⟩ := Option.bind_eq_some_iff.1 h
      exact ih hrun

end ReadState

/-- Behind a token a whole object does not end a text. -/
theorem ofTokens?_append {us : List Token} {v : Written} (hv : ofTokens? (.beginObj :: us) = some v)
    (t : Token) (ts : List Token) : ofTokens? (t :: ts ++ .beginObj :: us) = none := by
  have hobject : (ReadState.key [] [] true).run us = some (.after [] v) := by
    unfold ofTokens? at hv
    split at hv
    · rename_i hrun
      cases hv
      exact hrun
    · cases hv
  unfold ofTokens?
  rw [ReadState.run_append]
  cases hrun : (ReadState.value [] false).run (t :: ts) with
  | none => rfl
  | some s =>
      have hbegun := ReadState.begun_run hrun
      rw [Option.bind_some]
      cases s with
      | value stack mayClose =>
          have habove : (ReadState.key stack [] true).run us = some (.after stack v) :=
            ReadState.run_above hobject stack
          rw [ReadState.run_cons rfl, habove]
          cases stack with
          | nil => exact absurd rfl hbegun
          | cons frame stack => rfl
      | key | colon => rfl
      | after stack w =>
          -- behind a value only a comma or a closing bracket may come
          have hstep : (ReadState.after stack w).step .beginObj = none := by
            cases stack with
            | nil => rfl
            | cons frame stack => cases frame <;> rfl
          rw [ReadState.run, hstep]
          rfl

/-- Of an object behind other text than spaces nothing is read. -/
theorem readFields_append {front line : List Char} (hline : OpensObject line) {more : Layout}
    {j : Json} (h : readFields more (String.ofList line) = some j) (layout : Layout) :
    readFields layout (String.ofList (front ++ line)) =
      if front.all isSpace then readFields layout (String.ofList line) else none := by
  unfold readFields at h ⊢
  simp only [String.toList_ofList, Option.bind_eq_bind] at h ⊢
  obtain ⟨us, hus, h⟩ := Option.bind_eq_some_iff.1 h
  obtain ⟨v, hv, _⟩ := Option.bind_eq_some_iff.1 h
  split
  · rename_i hspaces
    rw [lex_spaces_append hspaces]
  · rename_i hspaces
    cases hlex : lex (front ++ line) with
    | none => rfl
    | some ts =>
        obtain ⟨own, hown, heq⟩ := hline.lex_append hlex
        rw [hus] at heq
        cases heq
        -- the text in front has a token, because it is not all spaces
        obtain ⟨t, own, rfl⟩ := List.exists_cons_of_ne_nil (l := own) fun hnil =>
          hspaces (all_isSpace_of_lex (hnil ▸ hown))
        obtain ⟨us, rfl⟩ : ∃ vs, us = .beginObj :: vs := by
          obtain ⟨behind, rfl, _⟩ := hline
          rw [lex_cons rfl rfl] at hus
          obtain ⟨vs, _, rfl⟩ := Option.map_eq_some_iff.1 hus
          exact ⟨vs, rfl⟩
        rw [Option.bind_some, ofTokens?_append hv]
        rfl

end ApiGateway.Json
