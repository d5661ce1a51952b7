import ApiGateway.Secrets
import Mathlib.Data.List.Infix
import Mathlib.Data.List.TakeWhile

/-! # References

The text of a reference is divided at its placeholders in one way only (`exists_divides_iff`): no
placeholder begins within another, since a dollar stands only at the front of one. A reference with
placeholders is resolved to its text with their values in their places, whatever the values look
like, or to the error of the first placeholder that has no value (`resolve_accounted`).
-/

set_option autoImplicit false

namespace ApiGateway.Secrets

/-! ## Placeholders -/

/-- Where the value of a placeholder comes from. -/
inductive Source where
  | environment
  | secrets

/-- The text of a placeholder up to its name. -/
def Source.opening : Source → List Char
  | .environment => '$' :: '\x7b' :: "env:".toList
  | .secrets => '$' :: '\x7b' :: "secret:".toList

/-- The piece for a name. -/
def Source.piece : Source → String → Piece
  | .environment => .variable
  | .secrets => .secret

/-- A placeholder: a source and a name in it. -/
structure Placeholder where
  source : Source
  name : String
  isName : ∀ c ∈ name.toList, isNameChar c = true

namespace Placeholder

/-- The text of a placeholder. -/
def text (p : Placeholder) : List Char := p.source.opening ++ p.name.toList ++ ['\x7d']

/-- The piece that a placeholder is. -/
def piece (p : Placeholder) : Piece := p.source.piece p.name

/-- What a placeholder stands for. -/
def value (p : Placeholder) (store : Store) (vars : Keyed String) : Except SecretError String :=
  match p.source with
  | .environment =>
    match vars.lookup p.name with
    | some value => .ok value
    | none => .error (.missingVariable p.name)
  | .secrets => store.get p.name

end Placeholder

variable {p : Placeholder} {name : String} {cs gap tail : List Char}

theorem Placeholder.exists_text_eq_cons (p : Placeholder) :
    ∃ cs, p.text = '$' :: cs ∧ '$' ∉ cs := by
  have hname : '$' ∉ p.name.toList := fun h => absurd (p.isName _ h) (by decide)
  obtain ⟨source, name, _⟩ := p
  cases source
  · exact ⟨'\x7b' :: "env:".toList ++ name.toList ++ ['\x7d'], rfl, by simpa using hname⟩
  · exact ⟨'\x7b' :: "secret:".toList ++ name.toList ++ ['\x7d'], rfl, by simpa using hname⟩

theorem nameUntilBrace_eq_some_iff :
    nameUntilBrace cs = some name ↔
      (∀ c ∈ name.toList, isNameChar c = true) ∧ ∃ rest, cs = name.toList ++ '\x7d' :: rest := by
  unfold nameUntilBrace
  constructor
  · intro h
    dsimp only at h
    split at h
    · rename_i hbrace
      obtain ⟨rest, hrest⟩ := List.head?_eq_some_iff.1 hbrace
      cases h
      rw [String.toList_ofList]
      exact ⟨fun c hc => List.mem_takeWhile_imp hc, rest, by
        rw [← hrest, List.takeWhile_append_dropWhile]⟩
    · cases h
  · rintro ⟨hname, rest, rfl⟩
    have hbrace : isNameChar '\x7d' = false := by decide
    rw [List.takeWhile_append_of_pos hname, List.dropWhile_append_of_pos hname,
      List.takeWhile_cons_of_neg (by simp [hbrace]), List.dropWhile_cons_of_neg (by simp [hbrace])]
    simp

theorem placeholder?_opening (source : Source) (cs : List Char) :
    placeholder? (source.opening ++ cs) = (nameUntilBrace cs).map fun name =>
      (source.piece name, name.length + (source.opening.length + 1)) := by
  cases source <;> simp [placeholder?, Source.opening, Source.piece]

theorem exists_opening_of_placeholder? (h : placeholder? cs ≠ none) :
    ∃ (source : Source) (rest : List Char), cs = source.opening ++ rest := by
  unfold placeholder? at h
  dsimp only at h
  split at h
  · rename_i hfront
    obtain ⟨rest, hrest⟩ := List.isPrefixOf_iff_prefix.1 hfront
    exact ⟨.environment, rest, hrest.symm⟩
  · split at h
    · rename_i hfront
      obtain ⟨rest, hrest⟩ := List.isPrefixOf_iff_prefix.1 hfront
      exact ⟨.secrets, rest, hrest.symm⟩
    · exact absurd rfl h

theorem placeholder?_text (p : Placeholder) (rest : List Char) :
    placeholder? (p.text ++ rest) = some (p.piece, p.text.length) := by
  have hname : nameUntilBrace (p.name.toList ++ '\x7d' :: rest) = some p.name :=
    nameUntilBrace_eq_some_iff.2 ⟨p.isName, rest, rfl⟩
  have htext : p.text ++ rest = p.source.opening ++ (p.name.toList ++ '\x7d' :: rest) := by
    simp [Placeholder.text]
  rw [htext, placeholder?_opening, hname]
  simp only [Option.map_some, Placeholder.text, Placeholder.piece, List.length_append,
    List.length_singleton, String.length_toList, Nat.add_left_comm, Nat.add_assoc]

/-- What is found at the front of a text is a placeholder that stands there. -/
theorem exists_text_of_placeholder? (h : placeholder? cs ≠ none) :
    ∃ (p : Placeholder) (rest : List Char), cs = p.text ++ rest := by
  obtain ⟨source, behind, rfl⟩ := exists_opening_of_placeholder? h
  rw [placeholder?_opening, ne_eq, Option.map_eq_none_iff] at h
  obtain ⟨name, hname⟩ := Option.ne_none_iff_exists'.1 h
  obtain ⟨hchars, rest, rfl⟩ := nameUntilBrace_eq_some_iff.1 hname
  exact ⟨⟨source, name, hchars⟩, rest, by simp [Placeholder.text]⟩

/-! ## Divisions -/

/-- A text in parts: placeholders, each with the text in front of it, and the text behind them. -/
structure Division where
  parts : List (List Char × Placeholder)
  rest : List Char

/-- No placeholder stands in the text. -/
def Bare (cs : List Char) : Prop := ∀ p : Placeholder, ¬ p.text <:+: cs

namespace Division

/-- The text with something in the places of the placeholders. -/
def fill (d : Division) (f : Placeholder → List Char) : List Char :=
  d.parts.flatMap (fun part => part.1 ++ f part.2) ++ d.rest

/-- The placeholders, from the left to the right. -/
def placeholders (d : Division) : List Placeholder := d.parts.map (·.2)

/-- The division takes the text apart at all of its placeholders. -/
structure Divides (d : Division) (cs : List Char) : Prop where
  text : d.fill Placeholder.text = cs
  front : ∀ part ∈ d.parts, Bare part.1
  rest : Bare d.rest

/-- The pieces of a divided text. -/
def pieces (d : Division) : List Piece :=
  d.parts.flatMap (fun part => part.1.map .char ++ [part.2.piece]) ++ d.rest.map .char

/-- The division with one more character in front. -/
def cons (c : Char) : Division → Division
  | ⟨[], rest⟩ => ⟨[], c :: rest⟩
  | ⟨(front, p) :: parts, rest⟩ => ⟨(c :: front, p) :: parts, rest⟩

end Division

/-! ### The pieces of a division -/

theorem piecesFrom_eq_drop (skip : Nat) (cs : List Char) :
    piecesFrom skip cs = piecesFrom 0 (cs.drop skip) := by
  induction cs generalizing skip with
  | nil =>
      rw [List.drop_nil]
      cases skip <;> rfl
  | cons c cs ih =>
      cases skip with
      | zero => rfl
      | succ skip => exact ih skip

theorem piecesFrom_text (p : Placeholder) (rest : List Char) :
    piecesFrom 0 (p.text ++ rest) = p.piece :: piecesFrom 0 rest := by
  have hfront := placeholder?_text p rest
  obtain ⟨cs, hcs, -⟩ := p.exists_text_eq_cons
  rw [hcs, List.cons_append] at hfront ⊢
  rw [piecesFrom, hfront]
  dsimp only
  rw [piecesFrom_eq_drop, List.length_cons, Nat.add_sub_cancel, List.drop_left]

theorem bare_nil : Bare [] := by
  intro p hp
  obtain ⟨cs, hcs, -⟩ := p.exists_text_eq_cons
  rw [hcs] at hp
  cases List.infix_nil.1 hp

theorem Bare.of_cons {c : Char} (h : Bare (c :: cs)) : Bare cs :=
  fun p hp => h p (hp.trans (List.suffix_cons c cs).isInfix)

/-- No placeholder is found in front of a text that has none, even if one stands behind the text: it
would reach into that one, and a dollar stands only at the front of a placeholder. -/
theorem Bare.placeholder?_eq_none {c : Char} (h : Bare (c :: gap))
    (htail : tail = [] ∨ ∃ (p : Placeholder) (rest : List Char), tail = p.text ++ rest) :
    placeholder? (c :: (gap ++ tail)) = none := by
  by_contra hfound
  obtain ⟨q, behind, hq⟩ := exists_text_of_placeholder? hfound
  rw [← List.cons_append, List.append_eq_append_iff] at hq
  rcases hq with ⟨more, hmore, htail'⟩ | ⟨more, hmore, -⟩
  · -- the placeholder would reach into the next one
    cases more with
    | nil => exact h q (by rw [hmore, List.append_nil])
    | cons d more =>
        rcases htail with rfl | ⟨p, rest, rfl⟩
        · cases htail'
        · obtain ⟨inside, hinside, -⟩ := p.exists_text_eq_cons
          obtain ⟨inner, hinner, hdollar⟩ := q.exists_text_eq_cons
          rw [hinside, List.cons_append, List.cons_append] at htail'
          rw [hinner, List.cons_append] at hmore
          rw [(List.cons.inj hmore).2, (List.cons.inj htail').1] at hdollar
          exact hdollar (List.mem_append_right _ List.mem_cons_self)
  · exact h q (hmore ▸ (List.prefix_append _ _).isInfix)

theorem piecesFrom_bare (h : Bare gap)
    (htail : tail = [] ∨ ∃ (p : Placeholder) (rest : List Char), tail = p.text ++ rest) :
    piecesFrom 0 (gap ++ tail) = gap.map .char ++ piecesFrom 0 tail := by
  induction gap with
  | nil => rfl
  | cons c gap ih =>
      rw [List.cons_append, piecesFrom, h.placeholder?_eq_none htail]
      dsimp only
      rw [ih h.of_cons, List.map_cons, List.cons_append]

namespace Division

theorem piecesFrom_of_divides {d : Division} (h : d.Divides cs) : piecesFrom 0 cs = d.pieces := by
  obtain ⟨parts, rest⟩ := d
  obtain ⟨rfl, hfront, hrest⟩ := h
  induction parts with
  | nil =>
      have hpieces := piecesFrom_bare hrest (.inl rfl)
      rw [List.append_nil] at hpieces
      simpa [fill, pieces, piecesFrom] using hpieces
  | cons part parts ih =>
      obtain ⟨gap, p⟩ := part
      have hbare : Bare gap := hfront _ List.mem_cons_self
      have hnext := ih (fun part hpart => hfront part (List.mem_cons_of_mem _ hpart)) hrest
      have hfill : fill ⟨(gap, p) :: parts, rest⟩ Placeholder.text =
          gap ++ (p.text ++ fill ⟨parts, rest⟩ Placeholder.text) := by
        simp [fill]
      rw [hfill, piecesFrom_bare hbare (.inr ⟨p, _, rfl⟩), piecesFrom_text, hnext]
      simp [pieces]

end Division

/-! ### One division of a text -/

theorem Placeholder.isPlaceholder_piece (p : Placeholder) : p.piece.isPlaceholder = true := by
  obtain ⟨source, name, _⟩ := p
  cases source <;> rfl

theorem Placeholder.piece_ne_char (p : Placeholder) (c : Char) : p.piece ≠ .char c := by
  intro h
  have hpiece := p.isPlaceholder_piece
  rw [h] at hpiece
  cases hpiece

theorem Placeholder.piece_injective : Function.Injective Placeholder.piece := by
  rintro ⟨source, name, _⟩ ⟨source', name', _⟩ h
  cases source <;> cases source' <;> cases h <;> rfl

/-- The characters in front of a placeholder are those up to the first piece that is one. -/
theorem chars_append_piece_inj {front front' : List Char} {p p' : Placeholder}
    {rest rest' : List Piece}
    (h : front.map .char ++ p.piece :: rest = front'.map .char ++ p'.piece :: rest') :
    front = front' ∧ p = p' ∧ rest = rest' := by
  induction front generalizing front' with
  | nil =>
      cases front' with
      | nil =>
          obtain ⟨hpiece, hrest⟩ := List.cons.inj h
          exact ⟨rfl, Placeholder.piece_injective hpiece, hrest⟩
      | cons c front' => exact absurd (List.cons.inj h).1 (p.piece_ne_char c)
  | cons c front ih =>
      cases front' with
      | nil => exact absurd (List.cons.inj h).1.symm (p'.piece_ne_char c)
      | cons c' front' =>
          obtain ⟨hchar, hrest⟩ := List.cons.inj h
          obtain ⟨rfl, hp, hrest⟩ := ih hrest
          exact ⟨by cases hchar; rfl, hp, hrest⟩

theorem chars_ne_append_piece {front cs : List Char} {p : Placeholder} {rest : List Piece} :
    cs.map .char ≠ front.map .char ++ p.piece :: rest := by
  intro h
  have hmem : p.piece ∈ cs.map Piece.char := by
    rw [h]
    exact List.mem_append_right _ List.mem_cons_self
  obtain ⟨c, -, hc⟩ := List.mem_map.1 hmem
  exact p.piece_ne_char c hc.symm

namespace Division

theorem pieces_cons (front : List Char) (p : Placeholder) (parts : List (List Char × Placeholder))
    (rest : List Char) : pieces ⟨(front, p) :: parts, rest⟩ =
      front.map .char ++ p.piece :: pieces ⟨parts, rest⟩ := by
  simp [pieces]

theorem pieces_injective : Function.Injective pieces := by
  rintro ⟨parts, rest⟩ ⟨parts', rest'⟩ h
  induction parts generalizing parts' with
  | nil =>
      cases parts' with
      | nil =>
          have hinj : Function.Injective Piece.char := fun _ _ h => by cases h; rfl
          exact congrArg (mk []) (List.map_injective_iff.2 hinj h)
      | cons part parts' => exact absurd (h.trans (pieces_cons ..)) chars_ne_append_piece
  | cons part parts ih =>
      cases parts' with
      | nil => exact absurd (h.symm.trans (pieces_cons ..)) chars_ne_append_piece
      | cons part' parts' =>
          rw [pieces_cons, pieces_cons] at h
          obtain ⟨hfront, hp, hrest⟩ := chars_append_piece_inj h
          cases ih _ hrest
          rw [Prod.ext hfront hp]

theorem Divides.cons {d : Division} {c : Char} (h : d.Divides cs)
    (hnone : placeholder? (c :: cs) = none) : (d.cons c).Divides (c :: cs) := by
  have hbare : ∀ {front behind : List Char}, Bare front → c :: cs = c :: (front ++ behind) →
      Bare (c :: front) := by
    intro front behind hfront heq p hp
    rcases List.infix_cons_iff.1 hp with ⟨more, hmore⟩ | hinside
    · rw [heq, ← List.cons_append, ← hmore, List.append_assoc, placeholder?_text] at hnone
      cases hnone
    · exact hfront p hinside
  obtain ⟨parts, rest⟩ := d
  obtain ⟨rfl, hfront, hrest⟩ := h
  cases parts with
  | nil => exact ⟨rfl, nofun, hbare hrest (List.append_nil _).symm⟩
  | cons part parts =>
      refine ⟨rfl, fun q hq => ?_, hrest⟩
      rcases List.mem_cons.1 hq with rfl | hq
      · exact hbare (hfront _ List.mem_cons_self) (by simp [fill]; rfl)
      · exact hfront q (List.mem_cons_of_mem _ hq)

theorem Divides.placeholder {d : Division} (h : d.Divides cs) (p : Placeholder) :
    Divides ⟨([], p) :: d.parts, d.rest⟩ (p.text ++ cs) := by
  refine ⟨?_, fun q hq => ?_, h.rest⟩
  · rw [← h.text]
    simp [fill]
  · rcases List.mem_cons.1 hq with rfl | hq
    · exact bare_nil
    · exact h.front q hq

theorem exists_divides (cs : List Char) : ∃ d : Division, d.Divides cs := by
  -- on the length, since a placeholder takes more than one character
  induction hlength : cs.length using Nat.strongRecOn generalizing cs with
  | ind n ih =>
      cases cs with
      | nil => exact ⟨⟨[], []⟩, rfl, nofun, bare_nil⟩
      | cons c cs =>
          by_cases hnone : placeholder? (c :: cs) = none
          · obtain ⟨d, hd⟩ := ih _ (by rw [← hlength]; exact Nat.lt_succ_self _) cs rfl
            exact ⟨d.cons c, hd.cons hnone⟩
          · obtain ⟨p, rest, hp⟩ := exists_text_of_placeholder? hnone
            obtain ⟨inside, hinside, -⟩ := p.exists_text_eq_cons
            have hlt : rest.length < n := by
              rw [← hlength, hp, List.length_append, hinside, List.length_cons]
              omega
            obtain ⟨d, hd⟩ := ih _ hlt rest rfl
            exact ⟨_, hp ▸ hd.placeholder p⟩

/-- A text is divided in one way. -/
theorem exists_divides_iff (cs : List Char) :
    ∃ d : Division, ∀ d' : Division, d'.Divides cs ↔ d' = d := by
  obtain ⟨d, hd⟩ := exists_divides cs
  refine ⟨d, fun d' => ⟨fun hd' => ?_, fun h => h ▸ hd⟩⟩
  exact pieces_injective ((piecesFrom_of_divides hd').symm.trans (piecesFrom_of_divides hd))

theorem any_isPlaceholder_pieces {d : Division} :
    d.pieces.any Piece.isPlaceholder = true ↔ d.placeholders ≠ [] := by
  obtain ⟨parts, rest⟩ := d
  cases parts with
  | nil => simp [pieces, placeholders, Piece.isPlaceholder]
  | cons part parts => simp [pieces, placeholders, part.2.isPlaceholder_piece]

end Division

/-! ## Values -/

variable {store : Store} {vars : Keyed String}

theorem Placeholder.value_piece (p : Placeholder) :
    p.piece.value store vars = (p.value store vars).map String.toList := by
  obtain ⟨source, name, _⟩ := p
  cases source with
  | environment =>
      simp only [piece, value, Source.piece, Piece.value]
      cases vars.lookup name <;> rfl
  | secrets => rfl

theorem values_chars (cs : List Char) : values store vars (cs.map .char) = .ok cs := by
  induction cs with
  | nil => rfl
  | cons c cs ih =>
      rw [List.map_cons, values, ih]
      rfl

theorem values_chars_append (cs : List Char) (ps : List Piece) :
    values store vars (cs.map .char ++ ps) = (values store vars ps).map (cs ++ ·) := by
  induction cs with
  | nil => cases h : values store vars ps <;> simp [h, Except.map]
  | cons c cs ih =>
      rw [List.map_cons, List.cons_append, values, ih]
      cases values store vars ps <;> rfl

namespace Division

/-- All placeholders have values, and the text is that of the reference with the values in their
places. -/
def HasValue (d : Division) (store : Store) (vars : Keyed String) (text : String) : Prop :=
  ∃ value : Placeholder → String,
    (∀ p ∈ d.placeholders, p.value store vars = .ok (value p)) ∧
      text.toList = d.fill fun p => (value p).toList

/-- The error is that of the first placeholder that has no value. -/
def HasError (d : Division) (store : Store) (vars : Keyed String) (e : SecretError) : Prop :=
  ∃ before p after, d.placeholders = before ++ p :: after ∧
    (∀ q ∈ before, ∃ value, q.value store vars = .ok value) ∧ p.value store vars = .error e

theorem values_cons (front : List Char) (p : Placeholder) (parts : List (List Char × Placeholder))
    (rest : List Char) :
    values store vars (pieces ⟨(front, p) :: parts, rest⟩) = do
      let value ← p.value store vars
      let others ← values store vars (pieces ⟨parts, rest⟩)
      return front ++ value.toList ++ others := by
  rw [pieces_cons, values_chars_append, values, p.value_piece]
  cases p.value store vars with
  | error e => rfl
  | ok value =>
      cases values store vars (pieces ⟨parts, rest⟩) with
      | error e => rfl
      | ok others => exact congrArg Except.ok (List.append_assoc ..).symm

theorem values_eq_ok {d : Division} {text : String} (h : d.HasValue store vars text) :
    values store vars d.pieces = .ok text.toList := by
  obtain ⟨value, hvalue, htext⟩ := h
  obtain ⟨parts, rest⟩ := d
  rw [htext]
  clear htext
  induction parts with
  | nil => exact values_chars rest
  | cons part parts ih =>
      obtain ⟨front, p⟩ := part
      have hp : p.value store vars = .ok (value p) := hvalue p List.mem_cons_self
      have hrest := ih fun q hq => hvalue q (List.mem_cons_of_mem _ hq)
      rw [values_cons, hp, hrest]
      exact congrArg Except.ok (by simp [fill])

theorem values_eq_error {d : Division} {e : SecretError} (h : d.HasError store vars e) :
    values store vars d.pieces = .error e := by
  obtain ⟨parts, rest⟩ := d
  obtain ⟨before, p, after, hsplit, hbefore, hp⟩ := h
  induction parts generalizing before with
  | nil => simp [placeholders] at hsplit
  | cons part parts ih =>
      obtain ⟨front, q⟩ := part
      rw [values_cons]
      cases before with
      | nil =>
          obtain ⟨rfl, -⟩ := List.cons.inj hsplit
          rw [hp]
          rfl
      | cons r before =>
          obtain ⟨rfl, hrest⟩ := List.cons.inj hsplit
          obtain ⟨value, hvalue⟩ := hbefore _ List.mem_cons_self
          rw [hvalue, ih before hrest fun r hr => hbefore r (List.mem_cons_of_mem _ hr)]
          rfl

/-- All placeholders have values, or there is a first one that has none. -/
theorem hasValue_or_hasError (d : Division) (store : Store) (vars : Keyed String) :
    (∃ text, d.HasValue store vars text) ∨ ∃ e, d.HasError store vars e := by
  have hlist : ∀ ps : List Placeholder, (∀ p ∈ ps, ∃ value, p.value store vars = .ok value) ∨
      ∃ e before p after, ps = before ++ p :: after ∧
        (∀ q ∈ before, ∃ value, q.value store vars = .ok value) ∧
          p.value store vars = .error e := by
    intro ps
    induction ps with
    | nil => exact .inl nofun
    | cons p ps ih =>
        cases hp : p.value store vars with
        | error e => exact .inr ⟨e, [], p, ps, rfl, nofun, hp⟩
        | ok value =>
            rcases ih with hall | ⟨e, before, q, after, rfl, hbefore, hq⟩
            · exact .inl (List.forall_mem_cons.2 ⟨⟨value, hp⟩, hall⟩)
            · exact .inr ⟨e, p :: before, q, after, rfl,
                List.forall_mem_cons.2 ⟨⟨value, hp⟩, hbefore⟩, hq⟩
  rcases hlist d.placeholders with hall | herror
  · let value (p : Placeholder) : String := (p.value store vars).toOption.getD ""
    refine .inl ⟨String.ofList (d.fill fun p => (value p).toList), value, fun p hp => ?_,
      String.toList_ofList⟩
    obtain ⟨text, htext⟩ := hall p hp
    rw [htext]
    exact congrArg Except.ok (by simp only [value, htext]; rfl)
  · exact .inr herror

variable {d : Division} {text : String} {e : SecretError}

theorem map_values_eq_ok_iff :
    (values store vars d.pieces).map String.ofList = .ok text ↔ d.HasValue store vars text := by
  refine ⟨fun h => ?_, fun h => by rw [values_eq_ok h, Except.map, String.ofList_toList]⟩
  rcases d.hasValue_or_hasError store vars with ⟨text', h'⟩ | ⟨e, he⟩
  · rw [values_eq_ok h', Except.map, String.ofList_toList] at h
    cases h
    exact h'
  · rw [values_eq_error he] at h
    cases h

theorem map_values_eq_error_iff :
    (values store vars d.pieces).map String.ofList = .error e ↔ d.HasError store vars e := by
  refine ⟨fun h => ?_, fun h => by rw [values_eq_error h, Except.map]⟩
  rcases d.hasValue_or_hasError store vars with ⟨text, htext⟩ | ⟨e', he⟩
  · rw [values_eq_ok htext] at h
    cases h
  · rw [values_eq_error he] at h
    cases h
    exact he

end Division

/-- What a reference is resolved to. Its text, without the blanks around it, is divided in one way.
If there are placeholders, the value is the text with their values in their places, and the error
that of the first one that has no value. A text without placeholders is the name of a secret, unless
nothing is left of it. -/
theorem resolve_accounted (store : Store) (vars : Keyed String) (reference : String) :
    ∃ d : Division, (∀ d' : Division, d'.Divides (Text.trim reference).toList ↔ d' = d) ∧
      (d.placeholders ≠ [] →
        (∀ text, resolve store vars reference = .ok text ↔ d.HasValue store vars text) ∧
          ∀ e, resolve store vars reference = .error e ↔ d.HasError store vars e) ∧
      (d.placeholders = [] → resolve store vars reference =
        if Text.trim reference = "" then .error (.missing "" "empty credential reference" .absent)
        else store.get (Text.trim reference)) := by
  obtain ⟨d, hd⟩ := Division.exists_divides_iff (Text.trim reference).toList
  have hpieces : pieces (Text.trim reference) = d.pieces :=
    Division.piecesFrom_of_divides ((hd d).2 rfl)
  refine ⟨d, hd, fun hplaceholders => ?_, fun hnone => ?_⟩
  · have hresolve : resolve store vars reference =
        (values store vars d.pieces).map String.ofList := by
      rw [resolve, hpieces, if_pos (Division.any_isPlaceholder_pieces.2 hplaceholders)]
    rw [hresolve]
    exact ⟨fun text => Division.map_values_eq_ok_iff, fun e => Division.map_values_eq_error_iff⟩
  · rw [resolve, hpieces, if_neg (fun h => Division.any_isPlaceholder_pieces.1 h hnone)]
    simp only [String.isEmpty_iff]

example :
    resolve (.ofList [("a", "$\x7bsecret:b\x7d"), ("b", "x")]) []
        " $\x7bsecret:a\x7d:$\x7bb\x7d\n" =
      .ok "$\x7bsecret:b\x7d:$\x7bb\x7d" := by decide

/-- An empty reference is not looked up, even if there is a secret without a name. -/
theorem resolve_empty_not_looked_up :
    Bare "".toList ∧ (Store.ofList [("", "root")]).get "" = .ok "root" ∧
      resolve (.ofList [("", "root")]) [] "" =
        .error (.missing "" "empty credential reference" .absent) :=
  ⟨bare_nil, rfl, rfl⟩

end ApiGateway.Secrets
