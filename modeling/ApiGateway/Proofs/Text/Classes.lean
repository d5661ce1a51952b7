import ApiGateway.Text.Blank
import ApiGateway.Text.Letter
import ApiGateway.Text.Occurrence
import Mathlib.Data.List.TakeWhile

/-! # Classes of characters

Digits, letters and blanks exclude each other, and a span of one class ends where the text goes on
with a character of another.

Trimming takes off whole spans of blanks: it stops at the first character from either end that is
not blank, so a text is its trimmed text between blanks (`exists_trimChars`), and nothing is left
of it just if all of it is blank (`trimChars_eq_nil_iff`).

A text is divided at each separator as lists are (`splitOn_eq`). No part has a separator, the parts
with a separator in front of each make up the text, and more text at the end goes to the last part.
-/

set_option autoImplicit false

namespace ApiGateway.Text

/-! ## Digits -/

theorem isDigit_iff_mem_range' {c : Char} : c.isDigit = true ↔ c.toNat ∈ List.range' 48 10 := by
  have hbounds : c.isDigit = true ↔ 48 ≤ c.toNat ∧ c.toNat ≤ 57 := Char.isDigit_iff_toNat
  rw [hbounds, List.mem_range'_1]
  omega

/-- What holds of the ten digits holds of every digit. -/
theorem eq_of_isDigit {p : Char → Bool} {b : Bool}
    (h : ∀ n ∈ List.range' 48 10, p (Char.ofNat n) = b) {c : Char} (hc : c.isDigit = true) :
    p c = b := by
  have hp := h c.toNat (isDigit_iff_mem_range'.1 hc)
  rwa [Char.ofNat_toNat] at hp

theorem isBlank_eq_false_of_isDigit {c : Char} : c.isDigit = true → isBlank c = false :=
  eq_of_isDigit (p := isBlank) (by decide)

theorem isAlphabetic_eq_false_of_isDigit {c : Char} :
    c.isDigit = true → isAlphabetic c = false :=
  eq_of_isDigit (p := isAlphabetic) (by decide)

theorem isNumeric_of_isDigit {c : Char} : c.isDigit = true → isNumeric c = true :=
  eq_of_isDigit (p := isNumeric) (by decide)

/-! ## Blanks -/

/-- The code points with the Unicode property *White_Space*. -/
def blankCodes : List Nat :=
  [9, 10, 11, 12, 13, 0x20, 0x85, 0xA0, 0x1680, 0x2000, 0x2001, 0x2002, 0x2003, 0x2004, 0x2005,
    0x2006, 0x2007, 0x2008, 0x2009, 0x200A, 0x2028, 0x2029, 0x202F, 0x205F, 0x3000]

theorem toNat_mem_blankCodes {c : Char} (h : isBlank c = true) : c.toNat ∈ blankCodes := by
  simp only [isBlank, Bool.or_eq_true, Bool.and_eq_true, decide_eq_true_eq, beq_iff_eq] at h
  simp only [blankCodes, List.mem_cons, List.not_mem_nil, or_false]
  omega

/-- A table searched as a list, which evaluates faster. -/
theorem has_eq_any_toList (table : Ranges) (n : Nat) :
    table.has n = table.toList.any fun (first, last) => first ≤ n && n ≤ last := by
  rw [Array.any_toList, Ranges.has]

/-- A class has no blank if it has none of the code points of blanks. -/
theorem class_eq_false_of_isBlank (ascii : Char → Bool) (table : Ranges)
    (hall : ∀ n ∈ blankCodes, (if n < 128 then ascii (Char.ofNat n)
      else table.toList.any fun (first, last) => first ≤ n && n ≤ last) = false)
    {c : Char} (h : isBlank c = true) :
    (if c.toNat < 128 then ascii c else table.has c.toNat) = false := by
  have hfalse := hall c.toNat (toNat_mem_blankCodes h)
  rwa [Char.ofNat_toNat, ← has_eq_any_toList] at hfalse

/-- No blank is a letter. -/
theorem isAlphabetic_eq_false_of_isBlank {c : Char} (h : isBlank c = true) :
    isAlphabetic c = false :=
  class_eq_false_of_isBlank Char.isAlpha alphabeticRanges (by decide +kernel) h

/-- No blank is a number. -/
theorem isNumeric_eq_false_of_isBlank {c : Char} (h : isBlank c = true) : isNumeric c = false :=
  class_eq_false_of_isBlank Char.isDigit numericRanges (by decide +kernel) h

/-! ## Spans -/

/-- A span ends where the text goes on with something else. -/
theorem takeWhile_append_of_stop {α : Type} {p : α → Bool} {xs rest : List α}
    (hall : ∀ x ∈ xs, p x = true) (hstop : ∀ x, rest.head? = some x → p x = false) :
    (xs ++ rest).takeWhile p = xs ∧ (xs ++ rest).dropWhile p = rest := by
  rw [List.takeWhile_append_of_pos hall, List.dropWhile_append_of_pos hall]
  cases rest with
  | nil => simp
  | cons x rest => simp [hstop x rfl]

/-! ## Trimming -/

/-- Trimming the front stops at a character that is not blank. -/
theorem trimStart_cons {c : Char} (h : isBlank c = false) (rest : List Char) :
    trimStart (c :: rest) = c :: rest :=
  List.dropWhile_cons_of_neg (by simp [h])

/-- So does trimming the end. -/
theorem trimEnd_append_cons {c : Char} (hc : isBlank c = false) (front cs : List Char) :
    trimEnd (front ++ c :: cs) = front ++ c :: trimEnd cs := by
  have hsplit : (front ++ c :: cs).reverse = cs.reverse ++ c :: front.reverse := by simp
  rw [trimEnd, hsplit, List.dropWhile_append]
  split
  · rename_i hempty
    rw [trimEnd, List.isEmpty_iff.1 hempty, List.dropWhile_cons_of_neg (by simp [hc])]
    simp
  · simp [trimEnd]

/-- A text is its trimmed text between blanks. -/
theorem exists_trimChars (cs : List Char) : ∃ front back, cs = front ++ trimChars cs ++ back ∧
    (∀ c ∈ front, isBlank c = true) ∧ ∀ c ∈ back, isBlank c = true := by
  have hfront : cs = cs.takeWhile isBlank ++ trimStart cs := List.takeWhile_append_dropWhile.symm
  have hback : trimStart cs =
      trimChars cs ++ ((trimStart cs).reverse.takeWhile isBlank).reverse := by
    rw [trimChars, trimEnd, ← List.reverse_append, List.takeWhile_append_dropWhile,
      List.reverse_reverse]
  refine ⟨cs.takeWhile isBlank, ((trimStart cs).reverse.takeWhile isBlank).reverse, ?_,
    fun c hc => ?_, fun c hc => ?_⟩
  · rw [List.append_assoc, ← hback]
    exact hfront
  · exact List.all_eq_true.1 List.all_takeWhile c hc
  · exact List.all_eq_true.1 List.all_takeWhile c (List.mem_reverse.1 hc)

/-- Without the blanks at its end a text has the trimmed text behind the blanks at its front. -/
theorem exists_trimEnd {cs : List Char} (h : trimChars cs ≠ []) :
    ∃ front, (∀ c ∈ front, isBlank c = true) ∧ trimEnd cs = front ++ trimChars cs := by
  have hcs : cs.takeWhile isBlank ++ trimStart cs = cs := List.takeWhile_append_dropWhile
  refine ⟨cs.takeWhile isBlank, fun c hc => List.all_eq_true.1 List.all_takeWhile c hc, ?_⟩
  cases hstart : trimStart cs with
  | nil => exact absurd (by rw [trimChars, hstart]; rfl) h
  | cons c rest =>
      have hc : isBlank c = false := by
        have hhead := List.head?_dropWhile_not isBlank cs
        rw [← trimStart, hstart] at hhead
        simpa using hhead
      have hend := trimEnd_append_cons hc [] rest
      rw [List.nil_append, List.nil_append] at hend
      rw [trimChars, hstart, hend, ← trimEnd_append_cons hc, ← hstart, hcs]

/-- Trimming leaves nothing of a text just if all of it is blank. -/
theorem trimChars_eq_nil_iff {cs : List Char} :
    trimChars cs = [] ↔ ∀ c ∈ cs, isBlank c = true := by
  have hend : ∀ ds, trimEnd ds = [] ↔ ∀ c ∈ ds, isBlank c = true := by
    intro ds
    simp [trimEnd, List.dropWhile_eq_nil_iff]
  rw [trimChars, hend, trimStart]
  constructor
  · -- a character is blank at the front, where it was dropped, or in the rest, where all are
    intro hrest c hc
    rw [← List.takeWhile_append_dropWhile (p := isBlank) (l := cs), List.mem_append] at hc
    rcases hc with hc | hc
    · exact List.mem_takeWhile_imp hc
    · exact hrest c hc
  · intro hall c hc
    exact hall c ((List.dropWhile_sublist _).subset hc)

/-- Blanks around a text that neither begins nor ends with one are trimmed. -/
theorem trimChars_append {front cs back : List Char} (hfront : ∀ c ∈ front, isBlank c = true)
    (hback : ∀ c ∈ back, isBlank c = true) (hne : cs ≠ [])
    (hcs : ∀ c ∈ cs, isBlank c = false) : trimChars (front ++ cs ++ back) = cs := by
  have hfirst : ∀ c, (cs ++ back).head? = some c → isBlank c = false := by
    obtain ⟨d, cs, rfl⟩ := List.exists_cons_of_ne_nil hne
    rintro c hc
    cases hc
    exact hcs _ List.mem_cons_self
  have hlast : ∀ c, cs.reverse.head? = some c → isBlank c = false := fun c hc =>
    hcs c (List.mem_reverse.1 (List.mem_of_mem_head? hc))
  have hreverse : ∀ c ∈ back.reverse, isBlank c = true := fun c hc =>
    hback c (List.mem_reverse.1 hc)
  rw [List.append_assoc, trimChars, trimStart, (takeWhile_append_of_stop hfront hfirst).2, trimEnd,
    List.reverse_append, (takeWhile_append_of_stop hreverse hlast).2, List.reverse_reverse]

/-! ## Parts between separators -/

section

variable {sep : Char} {cs part : List Char}

theorem splitOn_eq (sep : Char) (cs : List Char) : splitOn sep cs = cs.splitOn sep := by
  induction cs with
  | nil => exact (List.splitOn_nil sep).symm
  | cons c cs ih =>
      obtain ⟨part, parts, hparts⟩ := List.exists_cons_of_ne_nil (List.splitOn_ne_nil sep cs)
      rw [splitOn, ih, List.splitOn_cons_eq_if_modifyHead, hparts]
      by_cases hc : c = sep
      · simp [hc]
      · simp [hc]

/-- A text is made of its parts, with a separator in front of each but the first. -/
theorem flatMap_splitOn (sep : Char) (cs : List Char) :
    (splitOn sep cs).flatMap (sep :: ·) = sep :: cs := by
  induction cs with
  | nil => rfl
  | cons c cs ih =>
      rw [splitOn]
      split
      · rename_i hc
        rw [List.flatMap_cons, ih, hc]
        rfl
      · obtain ⟨part, parts, hparts⟩ := List.exists_cons_of_ne_nil (splitOn_ne_nil sep cs)
        rw [hparts, List.flatMap_cons] at ih
        rw [hparts, List.flatMap_cons]
        exact congrArg (fun rest => sep :: c :: rest) (List.cons.inj ih).2

/-- No part has the separator. -/
theorem not_mem_of_mem_splitOn (h : part ∈ splitOn sep cs) : sep ∉ part := by
  induction cs generalizing part with
  | nil =>
      rw [List.mem_singleton.1 h]
      exact List.not_mem_nil
  | cons c cs ih =>
      rw [splitOn] at h
      split at h
      · rcases List.mem_cons.1 h with rfl | h
        · exact List.not_mem_nil
        · exact ih h
      · rename_i hc
        obtain ⟨first, parts, hparts⟩ := List.exists_cons_of_ne_nil (splitOn_ne_nil sep cs)
        rw [hparts] at h ih
        rcases List.mem_cons.1 h with rfl | h
        · exact List.not_mem_cons_of_ne_of_not_mem (Ne.symm hc) (ih List.mem_cons_self)
        · exact ih (List.mem_cons_of_mem first h)

/-- A part without the separator is split off in front of one. -/
theorem splitOn_append_cons (h : sep ∉ part) (rest : List Char) :
    splitOn sep (part ++ sep :: rest) = part :: splitOn sep rest := by
  rw [splitOn_eq, splitOn_eq, List.splitOn_append_cons_self_of_not_mem h]

theorem splitOn_of_not_mem (h : sep ∉ cs) : splitOn sep cs = [cs] := by
  rw [splitOn_eq, List.splitOn_eq_singleton h]

/-- A separator at the end has an empty part behind it. -/
theorem splitOn_concat (sep : Char) (cs : List Char) :
    splitOn sep (cs ++ [sep]) = splitOn sep cs ++ [[]] := by
  rw [splitOn_eq, splitOn_eq, List.splitOn_append_cons_self, List.splitOn_nil]

/-- The last part of a text grows by what comes behind it without a separator. -/
theorem splitOn_append (cs : List Char) (h : sep ∉ part) :
    splitOn sep (cs ++ part) =
      (splitOn sep cs).dropLast ++ [(splitOn sep cs).getLast?.getD [] ++ part] := by
  induction cs with
  | nil => exact splitOn_of_not_mem h
  | cons c cs ih =>
      rw [List.cons_append, splitOn, splitOn]
      obtain ⟨first, parts, hparts⟩ := List.exists_cons_of_ne_nil (splitOn_ne_nil sep cs)
      rw [ih, hparts]
      split
      · rfl
      · cases parts <;> rfl

end

end ApiGateway.Text
