/-! # Occurrences of one text in another

`occursIn` and `replaceAll` search from the left and never look at a character twice once it
belongs to an occurrence. Both work on characters; since UTF-8 is self-synchronising, the same
occurrences are found byte by byte.
-/

set_option autoImplicit false

namespace ApiGateway.Text

/-- `pattern` is a contiguous part of the text. -/
def occursIn (pattern : List Char) : List Char → Bool
  | [] => pattern.isEmpty
  | c :: cs => pattern.isPrefixOf (c :: cs) || occursIn pattern cs

/-- Replaces the occurrences of a non-empty pattern, passing over `skip` characters that belong
to the occurrence just replaced. -/
def replaceFrom (pattern replacement : List Char) : Nat → List Char → List Char
  | _, [] => []
  | skip + 1, _ :: cs => replaceFrom pattern replacement skip cs
  | 0, c :: cs =>
    if pattern.isPrefixOf (c :: cs) then
      replacement ++ replaceFrom pattern replacement (pattern.length - 1) cs
    else c :: replaceFrom pattern replacement 0 cs

/-- Replaces every occurrence of `pattern`, left to right and without overlap. An empty pattern
occurs before every character and at the end. -/
def replaceAll (pattern replacement text : List Char) : List Char :=
  if pattern.isEmpty then replacement ++ text.flatMap (fun c => c :: replacement)
  else replaceFrom pattern replacement 0 text

/-- The parts of a text between the characters `sep`; a text without one is a single part. -/
def splitOn (sep : Char) : List Char → List (List Char)
  | [] => [[]]
  | c :: cs =>
    if c = sep then [] :: splitOn sep cs
    else
      match splitOn sep cs with
      | [] => [[c]]
      | part :: parts => (c :: part) :: parts

/-- The text before and after the first `sep`, if there is one. -/
def cutAt (sep : Char) : List Char → Option (List Char × List Char)
  | [] => none
  | c :: cs =>
    if c = sep then some ([], cs)
    else (cutAt sep cs).map fun (before, after) => (c :: before, after)

/-- A text is cut at the first separator. -/
theorem cutAt_eq_some_iff {sep : Char} {cs before after : List Char} :
    cutAt sep cs = some (before, after) ↔ cs = before ++ sep :: after ∧ sep ∉ before := by
  induction cs generalizing before with
  | nil => simp [cutAt]
  | cons c cs ih =>
    rw [cutAt]
    split
    · rename_i hc
      subst hc
      cases before with
      | nil => simp
      | cons d before =>
        constructor
        · intro h
          cases h
        · rintro ⟨h, hsep⟩
          cases h
          exact absurd List.mem_cons_self hsep
    · rename_i hc
      cases before with
      | nil =>
        constructor
        · intro h
          obtain ⟨_, _, h⟩ := Option.map_eq_some_iff.1 h
          cases h
        · rintro ⟨h, _⟩
          exact absurd (List.cons.inj h).1 hc
      | cons d before =>
        constructor
        · intro h
          obtain ⟨⟨front, back⟩, hcut, h⟩ := Option.map_eq_some_iff.1 h
          cases h
          obtain ⟨rfl, hsep⟩ := ih.1 hcut
          exact ⟨rfl, List.not_mem_cons_of_ne_of_not_mem (Ne.symm hc) hsep⟩
        · rintro ⟨h, hsep⟩
          obtain ⟨rfl, rfl⟩ := List.cons.inj h
          have hcut := ih.2 ⟨rfl, List.not_mem_of_not_mem_cons hsep⟩
          rw [hcut]
          rfl

theorem cutAt_eq_none_iff {sep : Char} {cs : List Char} : cutAt sep cs = none ↔ sep ∉ cs := by
  induction cs with
  | nil => simp [cutAt]
  | cons c cs ih =>
    rw [cutAt]
    split
    · rename_i hc
      simp [hc]
    · rename_i hc
      rw [Option.map_eq_none_iff, ih, List.mem_cons, not_or, and_iff_right (Ne.symm hc)]

theorem length_lt_of_cutAt {sep : Char} {cs before after : List Char}
    (h : cutAt sep cs = some (before, after)) : after.length < cs.length := by
  rw [(cutAt_eq_some_iff.1 h).1, List.length_append, List.length_cons]
  omega

/-- The number of bytes of a text in UTF-8. -/
def byteLength (cs : List Char) : Nat := (cs.map Char.utf8Size).foldr (· + ·) 0

@[simp] theorem byteLength_nil : byteLength [] = 0 := rfl

@[simp] theorem byteLength_cons (c : Char) (cs : List Char) :
    byteLength (c :: cs) = c.utf8Size + byteLength cs := rfl

@[simp] theorem byteLength_append (cs ds : List Char) :
    byteLength (cs ++ ds) = byteLength cs + byteLength ds := by
  induction cs with
  | nil => simp
  | cons c cs ih => simp [ih, Nat.add_assoc]

theorem splitOn_ne_nil (sep : Char) (cs : List Char) : splitOn sep cs ≠ [] := by
  cases cs with
  | nil => simp [splitOn]
  | cons c cs =>
    unfold splitOn
    split
    · simp
    · split <;> simp

end ApiGateway.Text
