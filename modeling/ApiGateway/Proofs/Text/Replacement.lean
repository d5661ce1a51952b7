import ApiGateway.Text.Occurrence
import Mathlib.Data.List.Infix

/-! # What a replacement leaves behind

`replaceFrom` cuts a text at the occurrences of a pattern and puts a replacement in their places
(`Replaced`). A word in the result stood in the text before, unless it needs characters of a
replacement, or reaches over one from its left to its right. A replacement that admits neither does
not `Exposes` the word: then each occurrence of the word in the result was one in the text
(`Replaced.infix_text`), and of the pattern itself there is none (`Replaced.absent`). A
replacement that has characters, but none of the word, is of this kind (`not_exposes_of_disjoint`).
-/

set_option autoImplicit false

namespace ApiGateway.Text

/-! ## Words that a replacement brings about -/

/-- A word occurs in some text around the replacement, but not on either side of it. -/
def Exposes (replacement word : List Char) : Prop :=
  ∃ before after, word <:+: before ++ (replacement ++ after) ∧
    ¬ word <:+: before ∧ ¬ word <:+: after

section

variable {replacement word : List Char}

theorem ne_nil_of_absent {text : List Char} (h : ¬ word <:+: text) : word ≠ [] := by
  rintro rfl
  exact h List.nil_infix

/-- Of what stands before a place, a word that reaches the place needs a beginning of its own. -/
theorem exists_take_of_occurs {before rest : List Char} (h : word <:+: before ++ rest)
    (hbefore : ¬ word <:+: before) : ∃ i < word.length, word <:+: word.take i ++ rest := by
  rcases List.infix_append_iff.1 h with hin | hin | ⟨first, second, rfl, hfirst, hsecond⟩
  · exact absurd hin hbefore
  · exact ⟨0, List.length_pos_of_ne_nil (ne_nil_of_absent hbefore), hin⟩
  · refine ⟨first.length, ?_, ?_⟩
    · have hne : second ≠ [] := by
        rintro rfl
        rw [List.append_nil] at hbefore
        exact hbefore hfirst.isInfix
      have hpos := List.length_pos_of_ne_nil hne
      rw [List.length_append]
      omega
    · rw [List.take_left]
      exact ((List.prefix_append_right_inj first).2 hsecond).isInfix

/-- Of what stands behind a place, it needs an end of its own. -/
theorem exists_drop_of_occurs {rest after : List Char} (h : word <:+: rest ++ after)
    (hafter : ¬ word <:+: after) : ∃ j < word.length, word <:+: rest ++ word.drop (j + 1) := by
  have hpos := List.length_pos_of_ne_nil (ne_nil_of_absent hafter)
  rcases List.infix_append_iff.1 h with hin | hin | ⟨first, second, rfl, hfirst, hsecond⟩
  · refine ⟨word.length - 1, Nat.sub_lt hpos Nat.one_pos, ?_⟩
    rw [Nat.sub_add_cancel hpos, List.drop_length, List.append_nil]
    exact hin
  · exact absurd hin hafter
  · have hne : first ≠ [] := by
      rintro rfl
      exact hafter hsecond.isInfix
    have hlength := List.length_pos_of_ne_nil hne
    refine ⟨first.length - 1, ?_, ?_⟩
    · rw [List.length_append]
      omega
    · rw [Nat.sub_add_cancel hlength, List.drop_left]
      exact ((List.suffix_append_inj_of_length_eq rfl).2 ⟨hfirst, rfl⟩).isInfix

/-- To see whether a replacement exposes a word, it is enough to look between beginnings and ends of
the word. -/
theorem exposes_iff :
    Exposes replacement word ↔
      ∃ i < word.length, ∃ j < word.length,
        word <:+: word.take i ++ (replacement ++ word.drop (j + 1)) := by
  constructor
  · rintro ⟨before, after, h, hbefore, hafter⟩
    obtain ⟨i, hi, h⟩ := exists_take_of_occurs h hbefore
    rw [← List.append_assoc] at h
    obtain ⟨j, hj, h⟩ := exists_drop_of_occurs h hafter
    rw [List.append_assoc] at h
    exact ⟨i, hi, j, hj, h⟩
  · rintro ⟨i, hi, j, hj, h⟩
    refine ⟨_, _, h, fun hoccurs => ?_, fun hoccurs => ?_⟩
    · have hle := hoccurs.length_le
      rw [List.length_take] at hle
      omega
    · have hle := hoccurs.length_le
      rw [List.length_drop] at hle
      omega

instance : Decidable (Exposes replacement word) := decidable_of_iff _ exposes_iff.symm

/-- A replacement does not expose a word that it has no character in common with. -/
theorem not_exposes_of_disjoint (hreplacement : replacement ≠ [])
    (h : replacement.Disjoint word) : ¬ Exposes replacement word := by
  rintro ⟨before, after, hoccurs, hbefore, hafter⟩
  obtain ⟨w, ws, rfl⟩ := List.exists_cons_of_ne_nil (ne_nil_of_absent hbefore)
  rcases List.infix_append_iff.1 hoccurs with hin | hin | ⟨first, second, heq, hfirst, hsecond⟩
  · exact hbefore hin
  · rcases List.infix_append_iff.1 hin with hin | hin | ⟨first, second, heq, hfirst, hsecond⟩
    · exact h (hin.subset List.mem_cons_self) List.mem_cons_self
    · exact hafter hin
    · cases first with
      | nil => exact hafter (heq ▸ hsecond.isInfix)
      | cons c cs =>
          obtain ⟨rfl, -⟩ := List.cons.inj heq
          exact h (hfirst.subset List.mem_cons_self) List.mem_cons_self
  · cases second with
    | nil =>
        rw [List.append_nil] at heq
        exact hbefore (heq ▸ hfirst.isInfix)
    | cons c cs =>
        obtain ⟨r, rs, rfl⟩ := List.exists_cons_of_ne_nil hreplacement
        rw [List.cons_append, List.cons_prefix_cons] at hsecond
        refine h (List.mem_cons_self) ?_
        rw [← hsecond.1, heq]
        exact List.mem_append_right _ List.mem_cons_self

end

/-! ## Cutting -/

section

variable {pattern replacement : List Char}

/-- The text is cut at occurrences of the pattern, and between them and behind the last one there is
none. -/
inductive Replaced (pattern replacement : List Char) : (text result : List Char) → Prop where
  | uncut {text : List Char} (none : ¬ pattern <:+: text) : Replaced pattern replacement text text
  | cut {before after result : List Char} (none : ¬ pattern <:+: before)
      (later : Replaced pattern replacement after result) :
      Replaced pattern replacement (before ++ (pattern ++ after))
        (before ++ (replacement ++ result))

/-- A character where no occurrence begins stays. -/
theorem Replaced.cons {c : Char} {cs result : List Char}
    (h : Replaced pattern replacement cs result) (hno : ¬ pattern <+: c :: cs) :
    Replaced pattern replacement (c :: cs) (c :: result) := by
  cases h with
  | uncut hnone =>
      refine .uncut fun hoccurs => ?_
      rcases List.infix_cons_iff.1 hoccurs with hfront | hoccurs
      · exact hno hfront
      · exact hnone hoccurs
  | @cut before after result hnone later =>
      refine @Replaced.cut _ _ (c :: before) _ _ (fun hoccurs => ?_) later
      rcases List.infix_cons_iff.1 hoccurs with hfront | hoccurs
      · refine hno (hfront.trans ?_)
        exact (List.prefix_cons_inj c).2 (List.prefix_append _ _)
      · exact hnone hoccurs

theorem replaced_replaceFrom (hpattern : pattern ≠ []) (replacement : List Char) (skip : Nat)
    (text : List Char) :
    Replaced pattern replacement (text.drop skip)
      (replaceFrom pattern replacement skip text) := by
  induction text generalizing skip with
  | nil =>
      rw [List.drop_nil]
      cases skip <;> exact .uncut fun h => hpattern (List.infix_nil.1 h)
  | cons c cs ih =>
      cases skip with
      | succ skip => exact ih skip
      | zero =>
          unfold replaceFrom
          split
          · rename_i hfront
            obtain ⟨rest, hrest⟩ := List.isPrefixOf_iff_prefix.1 hfront
            have hskip : cs.drop (pattern.length - 1) = rest := by
              obtain ⟨p, ps, rfl⟩ := List.exists_cons_of_ne_nil hpattern
              obtain ⟨-, rfl⟩ := List.cons.inj hrest
              simp
            rw [List.drop_zero, ← hrest, ← hskip]
            exact @Replaced.cut _ _ [] _ _ (fun h => hpattern (List.infix_nil.1 h)) (ih _)
          · rename_i hno
            exact (ih 0).cons fun h => hno (List.isPrefixOf_iff_prefix.2 h)

namespace Replaced

variable {text result word : List Char}

/-- A word that the replacement does not expose occurs in the result only if it did in the text. -/
theorem infix_text (h : Replaced pattern replacement text result)
    (hexposes : ¬ Exposes replacement word) (hoccurs : word <:+: result) : word <:+: text := by
  induction h with
  | uncut _ => exact hoccurs
  | @cut before after result _ _ ih =>
      by_cases hbefore : word <:+: before
      · exact hbefore.trans (List.prefix_append _ _).isInfix
      · by_cases hresult : word <:+: result
        · exact (ih hresult).trans
            ((List.suffix_append _ _).trans (List.suffix_append _ _)).isInfix
        · exact absurd ⟨before, result, hoccurs, hbefore, hresult⟩ hexposes

/-- A pattern that the replacement does not expose does not occur in the result. -/
theorem absent (h : Replaced pattern replacement text result)
    (hexposes : ¬ Exposes replacement pattern) : ¬ pattern <:+: result := by
  induction h with
  | uncut hnone => exact hnone
  | @cut before after result hnone _ ih =>
      exact fun hoccurs => hexposes ⟨before, result, hoccurs, hnone, ih⟩

/-- A text without the pattern stays as it is. -/
theorem eq_of_absent (h : Replaced pattern replacement text result)
    (hno : ¬ pattern <:+: text) : result = text := by
  cases h with
  | uncut _ => rfl
  | @cut before after _ _ _ => exact absurd ⟨before, after, List.append_assoc _ _ _⟩ hno

end Replaced

/-! ## The first occurrence -/

/-- What stands before the first occurrence stays. -/
theorem replaceFrom_append {before rest : List Char}
    (h : ∀ u, u ≠ [] → u <:+ before → ¬ pattern <+: u ++ rest) :
    replaceFrom pattern replacement 0 (before ++ rest) =
      before ++ replaceFrom pattern replacement 0 rest := by
  induction before with
  | nil => rfl
  | cons c cs ih =>
      have hno := h (c :: cs) (List.cons_ne_nil c cs) List.suffix_rfl
      rw [← List.isPrefixOf_iff_prefix] at hno
      rw [List.cons_append, replaceFrom, ← List.cons_append, if_neg hno,
        ih fun u hu hsuffix => h u hu (hsuffix.trans (List.suffix_cons c cs)), List.cons_append]

/-- Characters that belong to an occurrence are passed over. -/
theorem replaceFrom_skip (passed rest : List Char) :
    replaceFrom pattern replacement passed.length (passed ++ rest) =
      replaceFrom pattern replacement 0 rest := by
  induction passed with
  | nil => rfl
  | cons c cs ih => exact ih

/-- An occurrence at the front is replaced. -/
theorem replaceFrom_pattern_append (hpattern : pattern ≠ []) (rest : List Char) :
    replaceFrom pattern replacement 0 (pattern ++ rest) =
      replacement ++ replaceFrom pattern replacement 0 rest := by
  obtain ⟨c, cs, rfl⟩ := List.exists_cons_of_ne_nil hpattern
  rw [List.cons_append, replaceFrom, if_pos, List.length_cons, Nat.add_sub_cancel,
    replaceFrom_skip]
  exact List.isPrefixOf_iff_prefix.2 (List.prefix_append (c :: cs) rest)

end

end ApiGateway.Text
