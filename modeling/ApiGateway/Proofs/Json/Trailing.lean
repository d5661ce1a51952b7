import ApiGateway.Proofs.Json.Fronts

/-! # Spaces behind a document

The tokens of a text stay the same with spaces behind it: a string ends at its quote, a word with
its last letter, and a number where no character of a number follows. So a document that is read of
a text is read of it with spaces behind it too: `readFields_append_spaces`.
-/

set_option autoImplicit false

namespace ApiGateway.Json

variable {cs more rest : List Char}

/-- A string ends at its quote, whatever comes behind it. -/
theorem scanPieces_append {ps : List Piece} (h : scanPieces cs = some (ps, rest))
    (more : List Char) : scanPieces (cs ++ more) = some (ps, rest ++ more) := by
  fun_induction scanPieces cs generalizing ps with
  | case1 => cases h
  | case2 rest' =>
      cases h
      rfl
  | case3 a b c d rest' ih =>
      obtain ⟨n, hn, h⟩ := Option.bind_eq_some_iff.1 h
      obtain ⟨⟨ps', after⟩, hscan, heq⟩ := Option.bind_eq_some_iff.1 h
      cases heq
      simp only [List.cons_append, scanPieces, hn, ih hscan]
      rfl
  | case4 e rest' hu ih =>
      obtain ⟨c, hc, h⟩ := Option.bind_eq_some_iff.1 h
      obtain ⟨⟨ps', after⟩, hscan, heq⟩ := Option.bind_eq_some_iff.1 h
      cases heq
      have he : e ≠ 'u' := by
        rintro rfl
        cases hc
      rw [List.cons_append, List.cons_append, scanPieces, hc, ih hscan]
      · rfl
      · exact fun a b c d rest' heq => absurd heq he
  | case5 => cases h
  | case6 c rest' hquote hunit hescape hc ih =>
      obtain ⟨⟨ps', after⟩, hscan, heq⟩ := Option.bind_eq_some_iff.1 h
      cases heq
      have hslash : c ≠ '\\' := fun heq => hc (Or.inr heq)
      rw [List.cons_append, scanPieces, if_neg hc, ih hscan]
      · rfl
      · exact hquote
      · exact fun a b c d rest' heq => absurd heq hslash
      · exact fun e rest' heq => absurd heq hslash

theorem dropWord?_append {word : List Char} (h : dropWord? word cs = some rest)
    (more : List Char) : dropWord? word (cs ++ more) = some (rest ++ more) := by
  unfold dropWord? at h ⊢
  split at h
  · rename_i hprefix
    rw [List.isPrefixOf_iff_prefix] at hprefix
    obtain ⟨behind, rfl⟩ := hprefix
    cases h
    rw [List.append_assoc, if_pos (List.isPrefixOf_iff_prefix.2 (List.prefix_append _ _)),
      List.drop_left, List.drop_left]
  · cases h

/-- A token stays the same if no number goes on behind the text. -/
theorem scanToken_append (hmore : EndsNumber more) {c : Char} {t : Token}
    (h : scanToken c cs = some (t, rest)) :
    scanToken c (cs ++ more) = some (t, rest ++ more) := by
  unfold scanToken at h ⊢
  split at h
  case h_7 | h_8 | h_9 =>
    obtain ⟨after, hdrop, heq⟩ := Option.map_eq_some_iff.1 h
    cases heq
    rw [dropWord?_append hdrop]
    rfl
  case h_10 =>
    obtain ⟨⟨ps, after⟩, hscan, heq⟩ := Option.bind_eq_some_iff.1 h
    cases heq
    dsimp only
    rw [scanPieces_append hscan]
    rfl
  case h_11 =>
    obtain ⟨⟨n, after⟩, hscan, heq⟩ := Option.bind_eq_some_iff.1 h
    cases heq
    rw [← List.cons_append, hmore.scanNumber, hscan]
    rfl
  all_goals
    cases h
    rfl

theorem endsNumber_spaces {spaces : List Char} (h : spaces.all isSpace = true) :
    EndsNumber spaces := by
  intro c hc
  have hspace : isSpace c = true := List.all_eq_true.1 h c (List.mem_of_mem_head? hc)
  unfold isSpace at hspace
  rw [Bool.or_eq_true, Bool.or_eq_true, Bool.or_eq_true] at hspace
  rcases hspace with ((heq | heq) | heq) | heq <;> (rw [eq_of_beq heq]; decide)

/-- Spaces behind a text have no tokens. -/
theorem lex_append_spaces {spaces : List Char} (hspaces : spaces.all isSpace = true)
    {ts : List Token} (h : lex cs = some ts) : lex (cs ++ spaces) = some ts := by
  -- on the length of the text, of which every token takes a part
  induction hlength : cs.length using Nat.strongRecOn generalizing cs ts with
  | ind n ih =>
      cases cs with
      | nil =>
          have hnil := lex_spaces_append hspaces []
          rw [List.append_nil] at hnil
          rw [List.nil_append, hnil, h]
      | cons c cs =>
          rw [List.length_cons] at hlength
          rw [List.cons_append]
          cases hspace : isSpace c with
          | true =>
              rw [lex, if_pos hspace] at h ⊢
              exact ih cs.length (by omega) h rfl
          | false =>
              cases hscan : scanToken c cs with
              | none =>
                  rw [lex_cons_of_none hspace hscan] at h
                  cases h
              | some q =>
                  obtain ⟨t, rest⟩ := q
                  have hle := length_scanToken_le hscan
                  rw [lex_cons hspace hscan] at h
                  obtain ⟨us, hus, rfl⟩ := Option.map_eq_some_iff.1 h
                  rw [lex_cons hspace (scanToken_append (endsNumber_spaces hspaces) hscan),
                    ih rest.length (by omega) hus rfl]
                  rfl

/-- What is read of a text is read of it with spaces behind it too. -/
theorem readFields_append_spaces {spaces : List Char} (hspaces : spaces.all isSpace = true)
    {layout : Layout} {j : Json} (h : readFields layout (String.ofList cs) = some j) :
    readFields layout (String.ofList (cs ++ spaces)) = some j := by
  unfold readFields at h ⊢
  rw [String.toList_ofList] at h ⊢
  obtain ⟨ts, hts, h⟩ := Option.bind_eq_some_iff.1 h
  rw [lex_append_spaces hspaces hts]
  exact h

end ApiGateway.Json
