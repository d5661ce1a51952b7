import ApiGateway.Proofs.Path.Encoding
import ApiGateway.Proofs.Path.Templates

/-! # The segments of a path

The text of a path is divided by slashes, and by the marks in front of a query and a fragment. A
path has these marks where its template has them outside of braces, and nowhere else: to fill a
template and to divide it can change places (`splitOnP_flatMap_fill`). A segment of dots is filled
with nothing but dots (`flatMap_fill_eq_dots_iff`).
-/

set_option autoImplicit false

namespace ApiGateway.Path

/-- The marks that divide a path. -/
def isSeparator (c : Char) : Bool := c == '/' || c == '?' || c == '#'

/-- A mark of the template itself. -/
def Piece.isSeparator : Piece → Bool
  | .char c => Path.isSeparator c
  | .hole _ => false

/-- The character that a piece has outside of braces, if it has one. -/
def Piece.char? : Piece → Option Char
  | .char c => some c
  | .hole _ => none

/-- What stands for a piece before values are encoded. -/
def Piece.plain (value : String → Option Json) : Piece → List Char
  | .char c => [c]
  | .hole inside => (valueText value (placeholderName inside)).toList

variable {value : String → Option Json} {cs : List Char} {ps : List Piece}

/-! ## Values have no marks -/

theorem encoded_fill_hole (value : String → Option Json) (inside : List Char) :
    Encoded ((Piece.hole inside).fill value) :=
  encoded_encodeValue _

theorem isSeparator_eq_false_of_mem_fill {inside : List Char} {c : Char}
    (h : c ∈ (Piece.hole inside).fill value) : isSeparator c = false := by
  cases hc : isSeparator c with
  | false => rfl
  | true =>
      simp only [isSeparator, Bool.or_eq_true, beq_iff_eq] at hc
      rcases hc with (rfl | rfl) | rfl
      all_goals
        exact absurd h
          ((encoded_fill_hole value inside).not_mem (by decide) (by decide) (by decide))

/-- No character outside of braces opens one. -/
theorem Pieces.char_ne (h : Pieces cs ps) {c : Char} (hc : .char c ∈ ps) : c ≠ '\x7b' := by
  induction h with
  | nil => cases hc
  | char plain _ ih =>
      rcases List.mem_cons.1 hc with heq | hc
      · cases heq
        exact plain
      · exact ih hc
  | hole _ _ ih =>
      rcases List.mem_cons.1 hc with heq | hc
      · cases heq
      · exact ih hc

/-- A filled template has no braces to fill. -/
theorem Pieces.not_mem_fill (h : Pieces cs ps) (value : String → Option Json) :
    '\x7b' ∉ ps.flatMap (Piece.fill value) := by
  intro hmem
  obtain ⟨p, hp, hbrace⟩ := List.mem_flatMap.1 hmem
  cases p with
  | char c => exact h.char_ne hp (List.mem_singleton.1 hbrace).symm
  | hole inside =>
      exact (encoded_fill_hole value inside).not_mem (by decide) (by decide) (by decide) hbrace

/-- A text without an opening brace is a template without names. -/
theorem placeholders_of_not_mem {text : String} (h : '\x7b' ∉ text.toList) :
    placeholders text = .ok [] := by
  rw [placeholders, namesFrom_eq, Text.cutAt_eq_none_iff.2 h]

/-! ## Filling and dividing -/

/-- A filled template has the marks that it has outside of braces, in the same order. -/
theorem filter_flatMap_fill (value : String → Option Json) (ps : List Piece) :
    (ps.flatMap (Piece.fill value)).filter isSeparator =
      (ps.filterMap Piece.char?).filter isSeparator := by
  induction ps with
  | nil => rfl
  | cons p ps ih =>
      rw [List.flatMap_cons, List.filter_append, ih]
      cases p with
      | char c =>
          have hcons : (Piece.char c :: ps).filterMap Piece.char? =
              [c] ++ ps.filterMap Piece.char? := rfl
          rw [hcons, List.filter_append]
          rfl
      | hole inside =>
          have hnone : ((Piece.hole inside).fill value).filter isSeparator = [] :=
            List.filter_eq_nil_iff.2 fun c hc => by simp [isSeparator_eq_false_of_mem_fill hc]
          rw [hnone, List.nil_append]
          rfl

/-- A text without separators belongs to the first part of what stands behind it. -/
theorem splitOnP_append_of_forall {α : Type} {p : α → Bool} {xs : List α}
    (h : ∀ x ∈ xs, p x = false) (ys : List α) :
    (xs ++ ys).splitOnP p = (ys.splitOnP p).modifyHead (xs ++ ·) := by
  induction xs with
  | nil =>
      show ys.splitOnP p = (ys.splitOnP p).modifyHead id
      cases ys.splitOnP p <;> rfl
  | cons x xs ih =>
      obtain ⟨hx, hxs⟩ := List.forall_mem_cons.1 h
      rw [List.cons_append, List.splitOnP_cons_eq_if_modifyHead, if_neg (by simp [hx]), ih hxs,
        List.modifyHead_modifyHead]
      rfl

/-- The segments of a filled template are the filled segments of the template. -/
theorem splitOnP_flatMap_fill (value : String → Option Json) (ps : List Piece) :
    (ps.flatMap (Piece.fill value)).splitOnP isSeparator =
      (ps.splitOnP Piece.isSeparator).map (·.flatMap (Piece.fill value)) := by
  induction ps with
  | nil => rfl
  | cons p ps ih =>
      obtain ⟨first, more, hparts⟩ :=
        List.exists_cons_of_ne_nil (List.splitOnP_ne_nil Piece.isSeparator ps)
      rw [hparts] at ih
      rw [List.flatMap_cons, List.splitOnP_cons_eq_if_modifyHead, hparts]
      -- a mark of the template ends a segment on both sides, and no value has a mark
      cases hp : p.isSeparator with
      | true =>
          cases p with
          | char c =>
              have hc : isSeparator c = true := hp
              rw [if_pos rfl, Piece.fill, List.singleton_append,
                List.splitOnP_cons_eq_if_modifyHead, if_pos hc, ih]
              rfl
          | hole inside => cases hp
      | false =>
          have hfill : ∀ c ∈ p.fill value, isSeparator c = false := by
            cases p with
            | char c => exact List.forall_mem_singleton.2 hp
            | hole inside => exact fun c => isSeparator_eq_false_of_mem_fill
          rw [if_neg (by simp), splitOnP_append_of_forall hfill, ih]
          rfl

/-! ## Dots -/

/-- Dots are encoded as they are, and nothing else becomes a dot. -/
theorem encodeChar_eq_singleton {c : Char} (h : (∀ d ∈ encodeChar c, d = '.') ∨ c = '.') :
    encodeChar c = [c] := by
  rcases h with h | rfl
  · unfold encodeChar at h ⊢
    split at h
    · rename_i hc
      rw [if_pos hc]
    · -- the text begins with a percent sign
      obtain ⟨b, bs, hbytes⟩ := List.exists_cons_of_ne_nil (String.utf8EncodeChar_ne_nil (c := c))
      rw [hbytes, List.flatMap_cons] at h
      exact absurd (h '%' List.mem_cons_self) (by decide)
  · decide

theorem flatMap_encodeChar_eq_self
    (h : (∀ d ∈ cs.flatMap encodeChar, d = '.') ∨ ∀ c ∈ cs, c = '.') :
    cs.flatMap encodeChar = cs := by
  induction cs with
  | nil => rfl
  | cons c cs ih =>
      have hsplit : ((∀ d ∈ encodeChar c, d = '.') ∨ c = '.') ∧
          ((∀ d ∈ cs.flatMap encodeChar, d = '.') ∨ ∀ c ∈ cs, c = '.') := by
        rw [List.flatMap_cons, List.forall_mem_append, List.forall_mem_cons] at h
        exact ⟨h.imp And.left And.left, h.imp And.right And.right⟩
      rw [List.flatMap_cons, encodeChar_eq_singleton hsplit.1, ih hsplit.2, List.singleton_append]

/-- A piece that is filled with dots, before or after its value is encoded, is filled with the plain
text of its value. -/
theorem fill_eq_plain {p : Piece}
    (h : (∀ c ∈ p.fill value, c = '.') ∨ ∀ c ∈ p.plain value, c = '.') :
    p.fill value = p.plain value := by
  cases p with
  | char c => rfl
  | hole inside =>
      rw [Piece.fill, encodeValue, String.toList_ofList] at h ⊢
      exact flatMap_encodeChar_eq_self h

/-- A segment is filled with dots just if the plain texts of its values make up these dots with what
it has outside of braces. -/
theorem flatMap_fill_eq_dots_iff {n : Nat} :
    ps.flatMap (Piece.fill value) = List.replicate n '.' ↔
      ps.flatMap (Piece.plain value) = List.replicate n '.' := by
  have hpiece : ∀ {f : Piece → List Char}, ps.flatMap f = List.replicate n '.' →
      ∀ p ∈ ps, ∀ c ∈ f p, c = '.' := fun hdots p hp c hc => by
    have hmem : c ∈ List.replicate n '.' := hdots ▸ List.mem_flatMap.2 ⟨p, hp, hc⟩
    exact List.eq_of_mem_replicate hmem
  constructor
  · intro hdots
    rw [← hdots]
    exact (List.flatMap_congr fun p hp => fill_eq_plain (.inl (hpiece hdots p hp))).symm
  · intro hdots
    rw [← hdots]
    exact List.flatMap_congr fun p hp => fill_eq_plain (.inr (hpiece hdots p hp))

/-! ## The whole of a path -/

/-- A path has the structure of its template, whose pieces are filled with values: it is divided
where the template is, none of it is a name in braces, and a segment is made of dots only if the
template and the plain values make it so. -/
structure KeepsStructure (ps : List Piece) (value : String → Option Json) (path : String) :
    Prop where
  filled : path.toList = ps.flatMap (Piece.fill value)
  marks : path.toList.filter isSeparator = (ps.filterMap Piece.char?).filter isSeparator
  segments : path.toList.splitOnP isSeparator =
    (ps.splitOnP Piece.isSeparator).map (·.flatMap (Piece.fill value))
  unnamed : placeholders path = .ok []
  dots : ∀ segment ∈ ps.splitOnP Piece.isSeparator, ∀ n,
    segment.flatMap (Piece.fill value) = List.replicate n '.' ↔
      segment.flatMap (Piece.plain value) = List.replicate n '.'

theorem Pieces.keepsStructure (h : Pieces cs ps) (value : String → Option Json) :
    KeepsStructure ps value (String.ofList (ps.flatMap (Piece.fill value))) where
  filled := String.toList_ofList
  marks := by rw [String.toList_ofList, filter_flatMap_fill]
  segments := by rw [String.toList_ofList, splitOnP_flatMap_fill]
  unnamed := placeholders_of_not_mem (by rw [String.toList_ofList]; exact h.not_mem_fill value)
  dots _ _ _ := flatMap_fill_eq_dots_iff

end ApiGateway.Path
