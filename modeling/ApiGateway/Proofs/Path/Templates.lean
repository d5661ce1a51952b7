import ApiGateway.Path.Template
import Mathlib.Data.List.Basic

/-! # Scans of a template

`Pieces` is the grammar of templates: characters outside of braces, and holes, which are texts
between two braces. Every text is made of pieces, or of pieces in front of a brace that is never
closed (`exists_pieces`). `namesFrom` and `renderFrom` scan a template each by itself; what they
make of the pieces in front of any other text is `namesFrom_pieces` and `renderFrom_pieces`, and
what of the brace is `namesFrom_open` and `renderFrom_open`. The offset of the brace is counted from
the front by the one and from the end by the other.
-/

set_option autoImplicit false

namespace ApiGateway.Path

/-! ## The grammar -/

/-- A piece of a template: a character outside of braces, or the text between two braces. -/
inductive Piece where
  | char (c : Char)
  | hole (inside : List Char)
  deriving DecidableEq

/-- A text in which every opening brace is closed, and the pieces of it. -/
inductive Pieces : List Char → List Piece → Prop where
  | nil : Pieces [] []
  | char {c : Char} {cs : List Char} {ps : List Piece} (plain : c ≠ '\x7b')
      (behind : Pieces cs ps) : Pieces (c :: cs) (.char c :: ps)
  | hole {inside cs : List Char} {ps : List Piece} (unclosed : '\x7d' ∉ inside)
      (behind : Pieces cs ps) : Pieces ('\x7b' :: (inside ++ '\x7d' :: cs)) (.hole inside :: ps)

/-- Characters outside of braces are pieces. -/
theorem Pieces.plain {cs rest : List Char} {ps : List Piece} (h : '\x7b' ∉ cs)
    (behind : Pieces rest ps) : Pieces (cs ++ rest) (cs.map .char ++ ps) := by
  induction cs with
  | nil => exact behind
  | cons c cs ih =>
      exact .char (List.ne_of_not_mem_cons h).symm (ih (List.not_mem_of_not_mem_cons h))

/-- A text is made of pieces, with a brace that is never closed behind them if there is one. -/
theorem exists_pieces (cs : List Char) :
    (∃ ps, Pieces cs ps) ∨
      ∃ front inside ps, cs = front ++ '\x7b' :: inside ∧ '\x7d' ∉ inside ∧ Pieces front ps := by
  -- on the length, since a hole takes more than one character
  induction hlength : cs.length using Nat.strongRecOn generalizing cs with
  | ind n ih =>
      cases cs with
      | nil => exact .inl ⟨[], .nil⟩
      | cons c cs =>
          by_cases hc : c = '\x7b'
          · subst hc
            cases hcut : Text.cutAt '\x7d' cs with
            | none =>
                exact .inr ⟨[], cs, [], rfl, Text.cutAt_eq_none_iff.1 hcut, .nil⟩
            | some cut =>
                obtain ⟨inside, behind⟩ := cut
                obtain ⟨rfl, hinside⟩ := Text.cutAt_eq_some_iff.1 hcut
                have hlt : behind.length < n := by
                  rw [← hlength]
                  exact Nat.lt_succ_of_lt (Text.length_lt_of_cutAt hcut)
                rcases ih _ hlt behind rfl with ⟨ps, hps⟩ | ⟨front, inner, ps, rfl, hinner, hps⟩
                · exact .inl ⟨_, .hole hinside hps⟩
                · exact .inr ⟨'\x7b' :: (inside ++ '\x7d' :: front), inner, _, by simp, hinner,
                    .hole hinside hps⟩
          · have hlt : cs.length < n := hlength ▸ Nat.lt_succ_self _
            rcases ih _ hlt cs rfl with ⟨ps, hps⟩ | ⟨front, inner, ps, rfl, hinner, hps⟩
            · exact .inl ⟨_, .char hc hps⟩
            · exact .inr ⟨c :: front, inner, _, rfl, hinner, .char hc hps⟩

/-! ## The names -/

variable {template : String} {found : List String} {consumed : Nat} {cs inside rest : List Char}
  {ps : List Piece}

theorem namesFrom_eq (template : String) (found : List String) (consumed : Nat)
    (rest : List Char) :
    namesFrom template found consumed rest =
      match Text.cutAt '\x7b' rest with
      | none => .ok found
      | some (front, after) =>
        match Text.cutAt '\x7d' after with
        | none => .error (.unclosed template (consumed + Text.byteLength front))
        | some (inside, behind) =>
          if (placeholderName inside).isEmpty then .error (.empty template)
          else
            namesFrom template (listName found (placeholderName inside))
              (consumed + (Text.byteLength front + 1 + Text.byteLength inside + 1)) behind := by
  rw [namesFrom.eq_def]
  split
  · rename_i hopen
    rw [hopen]
  · rename_i hopen
    simp only [hopen]
    split
    · rename_i hclose
      rw [hclose]
    · rename_i hclose
      simp only [hclose]

/-- A brace that is never closed is reported where it stands. -/
theorem namesFrom_open (h : '\x7d' ∉ inside) :
    namesFrom template found consumed ('\x7b' :: inside) =
      .error (.unclosed template consumed) := by
  rw [namesFrom_eq, Text.cutAt, if_pos rfl]
  dsimp only
  rw [Text.cutAt_eq_none_iff.2 h]
  rfl

theorem namesFrom_nil : namesFrom template found consumed [] = .ok found := by
  rw [namesFrom_eq, Text.cutAt]

theorem namesFrom_char {c : Char} (h : c ≠ '\x7b') (rest : List Char) :
    namesFrom template found consumed (c :: rest) =
      namesFrom template found (consumed + c.utf8Size) rest := by
  rw [namesFrom_eq, namesFrom_eq _ _ _ rest, Text.cutAt, if_neg h]
  cases Text.cutAt '\x7b' rest with
  | none => rfl
  | some cut =>
      simp only [Option.map_some, Text.byteLength_cons, Nat.add_assoc]

theorem namesFrom_hole (h : '\x7d' ∉ inside) (rest : List Char) :
    namesFrom template found consumed ('\x7b' :: (inside ++ '\x7d' :: rest)) =
      if (placeholderName inside).isEmpty then .error (.empty template)
      else
        namesFrom template (listName found (placeholderName inside))
          (consumed + Text.byteLength ('\x7b' :: (inside ++ ['\x7d']))) rest := by
  have hcut : Text.cutAt '\x7d' (inside ++ '\x7d' :: rest) = some (inside, rest) :=
    Text.cutAt_eq_some_iff.2 ⟨rfl, h⟩
  have hbytes : Text.byteLength ('\x7b' :: (inside ++ ['\x7d'])) =
      Text.byteLength [] + 1 + Text.byteLength inside + 1 := by
    have hopen : ('\x7b' : Char).utf8Size = 1 := by decide
    have hclose : ('\x7d' : Char).utf8Size = 1 := by decide
    simp only [Text.byteLength_cons, Text.byteLength_append, Text.byteLength_nil, hopen, hclose]
    omega
  rw [namesFrom_eq, Text.cutAt, if_pos rfl]
  dsimp only
  rw [hcut, hbytes]

/-- The names of holes, in order of appearance. -/
def holeNames : List Piece → List String
  | [] => []
  | .char _ :: ps => holeNames ps
  | .hole inside :: ps => placeholderName inside :: holeNames ps

/-- Pieces without a blank name are listed, and the scan goes on behind them. -/
theorem namesFrom_pieces (h : Pieces cs ps) (hnamed : "" ∉ holeNames ps) (rest : List Char) :
    namesFrom template found consumed (cs ++ rest) =
      namesFrom template ((holeNames ps).foldl listName found) (consumed + Text.byteLength cs)
        rest := by
  induction h generalizing found consumed with
  | nil => rfl
  | char plain _ ih =>
      rw [List.cons_append, namesFrom_char plain, ih hnamed, Text.byteLength_cons, Nat.add_assoc]
      rfl
  | @hole inside cs ps unclosed _ ih =>
      rw [holeNames, List.mem_cons, not_or] at hnamed
      have hbytes : Text.byteLength ('\x7b' :: (inside ++ '\x7d' :: cs)) =
          Text.byteLength ('\x7b' :: (inside ++ ['\x7d'])) + Text.byteLength cs := by
        rw [← Text.byteLength_append]
        simp
      rw [List.cons_append, List.append_assoc, List.cons_append, namesFrom_hole unclosed,
        if_neg (by simpa [String.isEmpty_iff] using Ne.symm hnamed.1), ih hnamed.2, hbytes,
        Nat.add_assoc]
      rfl

/-- A blank name is an error, whatever stands behind it. -/
theorem namesFrom_blank (h : Pieces cs ps) (hblank : "" ∈ holeNames ps) (rest : List Char) :
    namesFrom template found consumed (cs ++ rest) = .error (.empty template) := by
  induction h generalizing found consumed with
  | nil => cases hblank
  | char plain _ ih => rw [List.cons_append, namesFrom_char plain, ih hblank]
  | hole unclosed _ ih =>
      rw [List.cons_append, List.append_assoc, List.cons_append, namesFrom_hole unclosed]
      split
      · rfl
      · rename_i hname
        rcases List.mem_cons.1 hblank with heq | hblank
        · exact absurd (heq ▸ rfl) hname
        · exact ih hblank

/-! ## The path -/

/-- The name has a value that is not null. -/
def hasValue (value : String → Option Json) (name : String) : Bool :=
  match value name with
  | none | some .null => false
  | some _ => true

theorem hasValue_of_ne_null {value : String → Option Json} {name : String} {v : Json}
    (hv : value name = some v) (hne : v ≠ .null) : hasValue value name = true := by
  unfold hasValue
  rw [hv]
  cases v with
  | null => exact absurd rfl hne
  | _ => rfl

/-- No name is without a value just if all have one. -/
theorem find?_hasValue_eq_none_iff {value : String → Option Json} {names : List String} :
    names.find? (!hasValue value ·) = none ↔ ∀ name ∈ names, hasValue value name = true := by
  simp [List.find?_eq_none]

/-- The text of a value: nothing if there is none. -/
def valueText (value : String → Option Json) (name : String) : String :=
  ((value name).map Json.plain).getD ""

/-- What stands for a piece in the path. -/
def Piece.fill (value : String → Option Json) : Piece → List Char
  | .char c => [c]
  | .hole inside => (encodeValue (valueText value (placeholderName inside))).toList

variable {value : String → Option Json}

theorem renderFrom_eq (template : String) (value : String → Option Json) (rest : List Char) :
    renderFrom template value rest =
      match Text.cutAt '\x7b' rest with
      | none => .ok rest
      | some (front, after) =>
        match Text.cutAt '\x7d' after with
        | none =>
          .error (.unclosed template
            (Text.byteLength template.toList - Text.byteLength rest + Text.byteLength front))
        | some (inside, behind) =>
          if hasValue value (placeholderName inside) then
            (renderFrom template value behind).map fun path =>
              front ++ ((Piece.hole inside).fill value ++ path)
          else .error (.missing (placeholderName inside)) := by
  rw [renderFrom.eq_def]
  split
  · rename_i hopen
    rw [hopen]
  · rename_i hopen
    simp only [hopen]
    split
    · rename_i hclose
      rw [hclose]
    · rename_i hclose
      simp only [hclose, Piece.fill]
      split
      · rename_i hnone
        rw [if_neg (by simp [hasValue, hnone])]
      · rename_i hnull
        rw [if_neg (by simp [hasValue, hnull])]
      · rename_i v hne hv
        rw [if_pos (hasValue_of_ne_null hv hne), valueText, hv]
        rfl

theorem renderFrom_nil : renderFrom template value [] = .ok [] := by
  rw [renderFrom_eq, Text.cutAt]

/-- The rest of a template stands at its end. -/
theorem byteLength_rest {front : List Char} (h : template.toList = front ++ rest) :
    Text.byteLength template.toList - Text.byteLength rest = Text.byteLength front := by
  rw [h, Text.byteLength_append, Nat.add_sub_cancel]

/-- A brace that is never closed is reported behind the bytes of the text in front of it. -/
theorem renderFrom_open {front : List Char}
    (htemplate : template.toList = front ++ '\x7b' :: inside) (h : '\x7d' ∉ inside) :
    renderFrom template value ('\x7b' :: inside) =
      .error (.unclosed template (Text.byteLength front)) := by
  rw [renderFrom_eq, Text.cutAt, if_pos rfl]
  dsimp only
  rw [Text.cutAt_eq_none_iff.2 h, byteLength_rest htemplate]
  rfl

theorem renderFrom_char {c : Char} (h : c ≠ '\x7b') {front : List Char}
    (htemplate : template.toList = front ++ c :: rest) :
    renderFrom template value (c :: rest) = (renderFrom template value rest).map (c :: ·) := by
  have hbehind : template.toList = front ++ [c] ++ rest := by simp [htemplate]
  rw [renderFrom_eq, renderFrom_eq _ _ rest, byteLength_rest htemplate, byteLength_rest hbehind,
    Text.cutAt, if_neg h]
  cases Text.cutAt '\x7b' rest with
  | none => rfl
  | some cut =>
      obtain ⟨before, after⟩ := cut
      dsimp only [Option.map_some]
      cases Text.cutAt '\x7d' after with
      | none => simp [Except.map, Nat.add_assoc]
      | some cut =>
          dsimp only
          split
          · cases renderFrom template value cut.2 <;> rfl
          · rfl

theorem renderFrom_hole (h : '\x7d' ∉ inside) (rest : List Char) :
    renderFrom template value ('\x7b' :: (inside ++ '\x7d' :: rest)) =
      if hasValue value (placeholderName inside) then
        (renderFrom template value rest).map ((Piece.hole inside).fill value ++ ·)
      else .error (.missing (placeholderName inside)) := by
  have hcut : Text.cutAt '\x7d' (inside ++ '\x7d' :: rest) = some (inside, rest) :=
    Text.cutAt_eq_some_iff.2 ⟨rfl, h⟩
  rw [renderFrom_eq, Text.cutAt, if_pos rfl]
  dsimp only
  rw [hcut]
  rfl

/-- Pieces whose names have values are filled, and the scan goes on behind them; otherwise the first
name without a value is reported. -/
theorem renderFrom_pieces (h : Pieces cs ps) {front : List Char}
    (htemplate : template.toList = front ++ (cs ++ rest)) :
    renderFrom template value (cs ++ rest) =
      match (holeNames ps).find? (!hasValue value ·) with
      | some name => .error (.missing name)
      | none => (renderFrom template value rest).map (ps.flatMap (Piece.fill value) ++ ·) := by
  induction h generalizing front with
  | nil =>
      show renderFrom template value rest = (renderFrom template value rest).map _
      cases renderFrom template value rest <;> rfl
  | @char c cs ps plain _ ih =>
      have hbehind : template.toList = front ++ [c] ++ (cs ++ rest) := by simp [htemplate]
      rw [List.cons_append] at htemplate ⊢
      rw [renderFrom_char plain htemplate, ih hbehind, holeNames]
      cases (holeNames ps).find? (!hasValue value ·) with
      | some name => rfl
      | none => cases renderFrom template value rest <;> rfl
  | @hole inside cs ps unclosed _ ih =>
      have hbehind :
          template.toList = front ++ ('\x7b' :: (inside ++ ['\x7d'])) ++ (cs ++ rest) := by
        simp [htemplate]
      rw [List.cons_append, List.append_assoc, List.cons_append, renderFrom_hole unclosed,
        ih hbehind, holeNames, List.find?_cons]
      cases hasValue value (placeholderName inside) with
      | false => rfl
      | true =>
          rw [if_pos rfl]
          cases (holeNames ps).find? (!hasValue value ·) with
          | some name => rfl
          | none => cases renderFrom template value rest <;> simp [Except.map]

/-! ## Whole templates -/

/-- That each name is listed once does not change which one is the first of its kind. -/
theorem find?_foldl_listName (p : String → Bool) (names found : List String) :
    (names.foldl listName found).find? p = (found ++ names).find? p := by
  induction names generalizing found with
  | nil => rw [List.foldl_nil, List.append_nil]
  | cons name names ih =>
      rw [List.foldl_cons, ih]
      unfold listName
      split
      · rename_i hknown
        have hmem : name ∈ found := List.contains_iff_mem.1 hknown
        rw [List.find?_append, List.find?_append, List.find?_cons]
        cases hp : p name with
        | false => rfl
        | true =>
            obtain ⟨first, hfirst⟩ :=
              Option.isSome_iff_exists.1 (List.find?_isSome.2 ⟨name, hmem, hp⟩)
            rw [hfirst]
            rfl
      · rw [List.append_assoc, List.singleton_append]

theorem mem_foldl_listName {name : String} {names found : List String} :
    name ∈ names.foldl listName found ↔ name ∈ found ∨ name ∈ names := by
  induction names generalizing found with
  | nil => simp
  | cons other names ih =>
      rw [List.foldl_cons, ih, List.mem_cons, ← or_assoc]
      refine or_congr ?_ Iff.rfl
      unfold listName
      split
      · rename_i hknown
        have hmem : other ∈ found := List.contains_iff_mem.1 hknown
        exact ⟨.inl, fun h => h.elim id (· ▸ hmem)⟩
      · simp

/-- The names of a template made of pieces are listed unless one is blank. -/
theorem placeholders_of_pieces (h : Pieces template.toList ps) :
    placeholders template =
      if "" ∈ holeNames ps then .error (.empty template)
      else .ok ((holeNames ps).foldl listName []) := by
  rw [placeholders, ← List.append_nil template.toList]
  split
  · rename_i hblank
    exact namesFrom_blank h hblank []
  · rename_i hnamed
    rw [namesFrom_pieces h hnamed, namesFrom_nil]

/-- So it is with the pieces in front of a brace that is never closed, and then the brace is
reported. -/
theorem placeholders_of_open {front : List Char}
    (htemplate : template.toList = front ++ '\x7b' :: inside) (hinside : '\x7d' ∉ inside)
    (h : Pieces front ps) :
    placeholders template =
      if "" ∈ holeNames ps then .error (.empty template)
      else .error (.unclosed template (Text.byteLength front)) := by
  rw [placeholders, htemplate]
  split
  · rename_i hblank
    exact namesFrom_blank h hblank _
  · rename_i hnamed
    rw [namesFrom_pieces h hnamed, namesFrom_open hinside, Nat.zero_add]

/-- Names are listed of a template that is made of pieces with names. -/
theorem placeholders_eq_ok_iff {names : List String} :
    placeholders template = .ok names ↔
      ∃ ps, Pieces template.toList ps ∧ "" ∉ holeNames ps ∧
        names = (holeNames ps).foldl listName [] := by
  constructor
  · intro h
    rcases exists_pieces template.toList with ⟨ps, hps⟩ | ⟨front, inside, ps, hcs, hinside, hps⟩
    · rw [placeholders_of_pieces hps] at h
      split at h
      · cases h
      · rename_i hnamed
        exact ⟨ps, hps, hnamed, (Except.ok.inj h).symm⟩
    · rw [placeholders_of_open hcs hinside hps] at h
      split at h <;> cases h
  · rintro ⟨ps, hps, hnamed, rfl⟩
    rw [placeholders_of_pieces hps, if_neg hnamed]

/-- A brace is reported that no brace closes, behind pieces with names. -/
theorem exists_of_unclosed {template' : String} {offset : Nat}
    (h : placeholders template = .error (.unclosed template' offset)) :
    template' = template ∧ ∃ front inside ps, template.toList = front ++ '\x7b' :: inside ∧
      '\x7d' ∉ inside ∧ offset = Text.byteLength front ∧ Pieces front ps ∧ "" ∉ holeNames ps := by
  rcases exists_pieces template.toList with ⟨ps, hps⟩ | ⟨front, inside, ps, hcs, hinside, hps⟩
  · rw [placeholders_of_pieces hps] at h
    split at h <;> cases h
  · rw [placeholders_of_open hcs hinside hps] at h
    split at h
    · cases h
    · rename_i hnamed
      cases h
      exact ⟨rfl, front, inside, ps, hcs, hinside, rfl, hps, hnamed⟩

/-- A template made of pieces is rendered unless a name has no value. -/
theorem render_of_pieces (h : Pieces template.toList ps) (value : String → Option Json) :
    render template value =
      match (holeNames ps).find? (!hasValue value ·) with
      | some name => .error (.missing name)
      | none => .ok (String.ofList (ps.flatMap (Piece.fill value))) := by
  have htemplate : template.toList = [] ++ (template.toList ++ []) := by simp
  have hscan : renderFrom template value (template.toList ++ []) = _ :=
    renderFrom_pieces h htemplate
  rw [List.append_nil, renderFrom_nil] at hscan
  rw [render, hscan]
  cases (holeNames ps).find? (!hasValue value ·) with
  | some name => rfl
  | none => simp [Except.map]

/-- So it is with the pieces in front of a brace that is never closed, and then the brace is
reported. -/
theorem render_of_open {front : List Char} (htemplate : template.toList = front ++ '\x7b' :: inside)
    (hinside : '\x7d' ∉ inside) (h : Pieces front ps) (value : String → Option Json) :
    render template value =
      match (holeNames ps).find? (!hasValue value ·) with
      | some name => .error (.missing name)
      | none => .error (.unclosed template (Text.byteLength front)) := by
  have hbegin : template.toList = [] ++ (front ++ '\x7b' :: inside) := htemplate
  have hscan : renderFrom template value (front ++ '\x7b' :: inside) = _ :=
    renderFrom_pieces h hbegin
  rw [renderFrom_open htemplate hinside, ← htemplate] at hscan
  rw [render, hscan]
  cases (holeNames ps).find? (!hasValue value ·) <;> rfl

/-- A template is rendered if it is made of pieces and all its names have values. -/
theorem render_eq_ok_iff {path : String} :
    render template value = .ok path ↔
      ∃ ps, Pieces template.toList ps ∧ (∀ name ∈ holeNames ps, hasValue value name = true) ∧
        path = String.ofList (ps.flatMap (Piece.fill value)) := by
  constructor
  · intro h
    rcases exists_pieces template.toList with ⟨ps, hps⟩ | ⟨front, inside, ps, hcs, hinside, hps⟩
    · rw [render_of_pieces hps] at h
      split at h
      · cases h
      · rename_i hnone
        exact ⟨ps, hps, find?_hasValue_eq_none_iff.1 hnone, (Except.ok.inj h).symm⟩
    · rw [render_of_open hcs hinside hps] at h
      split at h
      · cases h
      · cases h
  · rintro ⟨ps, hps, hall, rfl⟩
    rw [render_of_pieces hps, find?_hasValue_eq_none_iff.2 hall]

end ApiGateway.Path
