import ApiGateway.Path.Target
import ApiGateway.Proofs.Json.Growth
import Mathlib.Data.List.GetD

/-! # Writing at a place

A write lets the tree grow, whether it comes to its end or not (`growsTo_write`). If it does, the
value stands at `place`, the place that the path names once every append is resolved to the position
that it takes, and nothing that says anything has come to places apart from it (`puts_write`). It
does not exactly if the path is `Blocked`, which does not depend on the value.
-/

set_option autoImplicit false

namespace ApiGateway.Path

open Json (Step)

/-- The place in `root` that a path names. An append names the position behind the last item. -/
def place : List Segment → (root : Json) → List Step
  | [], _ => []
  | .key name :: path, root =>
    .member name :: place path (((Step.member name).child? root).getD .null)
  | .index position :: path, root =>
    .item position :: place path (((Step.item position).child? root).getD .null)
  | .append :: path, root => .item (root.items?.getD []).length :: place path .null

/-- Something stands in the way of a write: a value at the end of the path, or on the way there a
value that is neither null nor of the kind of container that the next step needs. -/
def Blocked : List Segment → (root : Json) → Prop
  | [], root => root ≠ .null
  | .key name :: path, root =>
    (root ≠ .null ∧ ∀ members, root ≠ .obj members) ∨
      Blocked path (((Step.member name).child? root).getD .null)
  | .index position :: path, root =>
    (root ≠ .null ∧ ∀ items, root ≠ .arr items) ∨
      Blocked path (((Step.item position).child? root).getD .null)
  | .append :: _, root => root ≠ .null ∧ ∀ items, root ≠ .arr items

/-! ## One step of a path -/

/-- Where a step of a path leads: the step, what stands there, and the tree with something else
there. -/
structure Slot where
  step : Step
  child : Json
  fill : Json → Json

/-- Where a segment leads in a tree; nowhere if the tree is in the way. -/
def Segment.slot? : Segment → Json → Option Slot
  | .key name, .null => some ⟨.member name, .null, fun child => .obj [(name, child)]⟩
  | .key name, .obj members =>
    some ⟨.member name, (Json.find? name members).getD .null, fun child =>
      .obj (Json.insert name child members)⟩
  | .index position, .null =>
    some ⟨.item position, .null, fun child => .arr (List.replicate position .null ++ [child])⟩
  | .index position, .arr items =>
    let padded := items ++ List.replicate (position + 1 - items.length) .null
    some ⟨.item position, padded.getD position .null, fun child => .arr (padded.set position child)⟩
  | .append, .null => some ⟨.item 0, .null, fun child => .arr [child]⟩
  | .append, .arr items => some ⟨.item items.length, .null, fun child => .arr (items ++ [child])⟩
  | _, _ => none

/-- A write goes through the slot of the first segment. -/
theorem write_cons (segment : Segment) (path : List Segment) (root value : Json) :
    write (segment :: path) root value =
      match segment.slot? root with
      | none => (root, false)
      | some slot =>
        (slot.fill (write path slot.child value).1, (write path slot.child value).2) := by
  cases segment with
  | key name => cases root <;> rfl
  | index position => cases root <;> rfl
  | append => cases root <;> rfl

/-- Padding changes nothing but that nulls stand behind the items. -/
theorem getElem?_padded (items : List Json) (n position : Nat) :
    (items ++ List.replicate n Json.null)[position]? = items[position]? ∨
      (items[position]? = none ∧
        (items ++ List.replicate n Json.null)[position]? = some .null) := by
  by_cases hlt : position < items.length
  · exact Or.inl (List.getElem?_append_left hlt)
  · have hle : items.length ≤ position := Nat.le_of_not_lt hlt
    have hnone : items[position]? = none := List.getElem?_eq_none hle
    rw [hnone, List.getElem?_append_right hle, List.getElem?_replicate]
    split
    · exact Or.inr ⟨rfl, rfl⟩
    · exact Or.inl rfl

/-- Padding with null is not seen. -/
theorem getD_padded (items : List Json) (n position : Nat) :
    (items ++ List.replicate n Json.null).getD position .null = items.getD position .null := by
  rw [List.getD_eq_getElem?_getD, List.getD_eq_getElem?_getD]
  rcases getElem?_padded items n position with heq | ⟨hnone, hnull⟩
  · rw [heq]
  · rw [hnone, hnull]
    rfl

/-- An item put behind others is seen at its own position only. -/
theorem getElem?_concat_of_ne {items : List Json} {position : Nat}
    (h : position ≠ items.length) (v : Json) : (items ++ [v])[position]? = items[position]? := by
  rcases Nat.lt_or_gt_of_ne h with hlt | hgt
  · exact List.getElem?_append_left hlt
  · rw [List.getElem?_eq_none (Nat.le_of_lt hgt), List.getElem?_eq_none]
    rw [List.length_append, List.length_singleton]
    exact hgt

/-- The place of a path goes through the slot of its first segment. -/
theorem place_cons {segment : Segment} {root : Json} {slot : Slot}
    (h : segment.slot? root = some slot) (path : List Segment) :
    place (segment :: path) root = slot.step :: place path slot.child := by
  cases segment with
  | key name => cases root <;> cases h <;> rfl
  | index position =>
      cases root <;> cases h
      · rfl
      · dsimp only
        rw [getD_padded, List.getD_eq_getElem?_getD]
        rfl
  | append => cases root <;> cases h <;> rfl

/-- Nothing stands in the way of a write into null. -/
theorem not_blocked_null (path : List Segment) : ¬ Blocked path .null := by
  induction path with
  | nil => exact fun h => h rfl
  | cons segment path ih =>
      cases segment with
      | key name =>
          rintro (⟨hne, _⟩ | hpath)
          · exact hne rfl
          · exact ih hpath
      | index position =>
          rintro (⟨hne, _⟩ | hpath)
          · exact hne rfl
          · exact ih hpath
      | append => exact fun h => h.1 rfl

/-- A path is blocked if its first segment leads nowhere. -/
theorem blocked_of_slot?_eq_none {segment : Segment} {root : Json}
    (h : segment.slot? root = none) (path : List Segment) : Blocked (segment :: path) root := by
  cases segment with
  | key name => cases root <;> cases h <;> exact Or.inl ⟨nofun, nofun⟩
  | index position => cases root <;> cases h <;> exact Or.inl ⟨nofun, nofun⟩
  | append => cases root <;> cases h <;> exact ⟨nofun, nofun⟩

/-- Otherwise it is blocked if the rest of it is, from where the segment leads. -/
theorem blocked_cons {segment : Segment} {root : Json} {slot : Slot}
    (h : segment.slot? root = some slot) (path : List Segment) :
    Blocked (segment :: path) root ↔ Blocked path slot.child := by
  cases segment with
  | key name => cases root <;> cases h <;> simp [Blocked, Step.child?]
  | index position =>
      cases root <;> cases h
      · simp [Blocked, Step.child?]
      · dsimp only
        rw [getD_padded, List.getD_eq_getElem?_getD]
        simp [Blocked, Step.child?]
  | append => cases root <;> cases h <;> simp [Blocked, not_blocked_null]

/-- What is filled into a slot stands there. -/
theorem child?_fill {segment : Segment} {root : Json} {slot : Slot}
    (h : segment.slot? root = some slot) (child : Json) :
    slot.step.child? (slot.fill child) = some child := by
  cases segment with
  | key name =>
      cases root <;> cases h
      · simp [Step.child?, Json.find?]
      · exact Json.find?_insert_self _ _ _
  | index position =>
      cases root <;> cases h
      · simp [Step.child?]
      · refine List.getElem?_set_self ?_
        simp only [List.length_append, List.length_replicate]
        omega
  | append => cases root <;> cases h <;> simp [Step.child?]

/-- A tree grows with what stands in a slot. -/
theorem growsTo_fill {segment : Segment} {root : Json} {slot : Slot}
    (h : segment.slot? root = some slot) {child : Json} (hchild : slot.child.GrowsTo child) :
    root.GrowsTo (slot.fill child) := by
  cases segment with
  | key name =>
      cases root <;> cases h
      · exact .null _
      · exact .insert hchild
  | index position =>
      cases root <;> cases h
      · exact .null _
      · exact .trans (.append _ _) (.set hchild)
  | append =>
      cases root <;> cases h
      · exact .null _
      · exact .append _ _

/-- What stands in a slot is what its step leads to, or null. -/
theorem child_eq {segment : Segment} {root : Json} {slot : Slot}
    (h : segment.slot? root = some slot) : slot.child = (slot.step.child? root).getD .null := by
  cases segment with
  | key name => cases root <;> cases h <;> rfl
  | index position =>
      cases root <;> cases h
      · rfl
      · dsimp only
        rw [getD_padded, List.getD_eq_getElem?_getD]
        rfl
  | append =>
      cases root <;> cases h
      · rfl
      · simp [Step.child?]

/-- Behind the step of a slot stands what stands in the slot. -/
theorem at?_slot {segment : Segment} {root : Json} {slot : Slot}
    (h : segment.slot? root = some slot) {rest : List Step} (hrest : rest ≠ []) :
    root.at? (slot.step :: rest) = slot.child.at? rest := by
  rw [Json.at?, child_eq h]
  cases slot.step.child? root with
  | some child => rfl
  | none =>
      obtain ⟨next, rest, rfl⟩ := List.exists_cons_of_ne_nil hrest
      exact (Json.at?_null_cons next rest).symm

/-- Other steps lead where they led before, or to a null that was filled in. -/
theorem child?_fill_of_ne {segment : Segment} {root : Json} {slot : Slot}
    (h : segment.slot? root = some slot) (child : Json) {step : Step} (hstep : step ≠ slot.step) :
    step.child? (slot.fill child) = step.child? root ∨
      (step.child? root = none ∧ step.child? (slot.fill child) = some .null) := by
  cases segment with
  | key name =>
      cases root <;> cases h <;> cases step <;> left
      · rename_i other
        have hne : name ≠ other := fun heq => hstep (congrArg Step.member heq.symm)
        simp [Step.child?, Json.find?, hne]
      · rfl
      · rename_i other
        exact Json.find?_insert_of_ne (fun heq => hstep (congrArg Step.member heq)) _ _
      · rfl
  | index position =>
      cases root <;> cases h <;> cases step
      · exact Or.inl rfl
      · rename_i other
        have hne : other ≠ (List.replicate position Json.null).length := by
          rw [List.length_replicate]
          exact fun heq => hstep (congrArg Step.item heq)
        have hfill := getElem?_concat_of_ne hne child
        rw [Step.child?, hfill]
        exact getElem?_padded [] position other
      · exact Or.inl rfl
      · rename_i items other
        have hne : position ≠ other := fun heq => hstep (congrArg Step.item heq.symm)
        rw [Step.child?, List.getElem?_set_ne hne]
        exact getElem?_padded items _ other
  | append =>
      cases root <;> cases h <;> cases step <;> left
      · rfl
      · rename_i other
        have hne : other ≠ ([] : List Json).length := fun heq => hstep (congrArg Step.item heq)
        exact getElem?_concat_of_ne hne child
      · rfl
      · rename_i items other
        exact getElem?_concat_of_ne (fun heq => hstep (congrArg Step.item heq)) child

/-! ## A whole path -/

/-- A write takes nothing away, even if it is given up on the way. -/
theorem growsTo_write (path : List Segment) (root value : Json) :
    root.GrowsTo (write path root value).1 := by
  induction path generalizing root with
  | nil =>
      cases root with
      | null => exact .null _
      | _ => exact .refl _
  | cons segment path ih =>
      rw [write_cons]
      cases hslot : segment.slot? root with
      | none => exact .refl root
      | some slot => exact growsTo_fill hslot (ih slot.child)

/-- A write that comes to its end has put the value at its place. -/
theorem at?_place_write {path : List Segment} {root value : Json}
    (h : (write path root value).2 = true) :
    (write path root value).1.at? (place path root) = some value := by
  induction path generalizing root with
  | nil =>
      cases root with
      | null => rfl
      | _ => cases h
  | cons segment path ih =>
      rw [write_cons] at h ⊢
      cases hslot : segment.slot? root with
      | none =>
          rw [hslot] at h
          cases h
      | some slot =>
          rw [hslot] at h
          rw [place_cons hslot, Json.at?]
          dsimp only at h ⊢
          rw [child?_fill hslot, Option.bind_some]
          exact ih h

/-- The tree has the value at the place of the path, and beside it nothing that the root does not
have, but for nulls. -/
structure Puts (path : List Segment) (root value tree : Json) : Prop where
  there : tree.at? (place path root) = some value
  grows : root.GrowsTo tree
  apart : ∀ other, ¬ other <+: place path root → ¬ place path root <+: other →
    tree.at? other = root.at? other ∨ (root.at? other = none ∧ tree.at? other = some .null)

/-- Apart from its place and the way there a write changes nothing, but for nulls filled in. -/
theorem at?_write_of_apart {path : List Segment} {root value : Json} {other : List Step}
    (hbefore : ¬ other <+: place path root) (hbehind : ¬ place path root <+: other) :
    (write path root value).1.at? other = root.at? other ∨
      (root.at? other = none ∧ (write path root value).1.at? other = some .null) := by
  induction path generalizing root other with
  | nil => exact absurd List.nil_prefix hbehind
  | cons segment path ih =>
      rw [write_cons]
      cases hslot : segment.slot? root with
      | none => exact Or.inl rfl
      | some slot =>
          rw [place_cons hslot] at hbefore hbehind
          cases other with
          | nil => exact absurd List.nil_prefix hbefore
          | cons step other =>
              rw [List.cons_prefix_cons, not_and] at hbefore hbehind
              by_cases hstep : step = slot.step
              · -- the step is the one that the path takes, and does not end on the way
                have hother : other ≠ [] := by
                  rintro rfl
                  exact hbefore hstep List.nil_prefix
                rw [hstep, at?_slot hslot hother, Json.at?, child?_fill hslot, Option.bind_some]
                exact ih (hbefore hstep) (hbehind hstep.symm)
              · -- another step leads past the path
                rw [Json.at?, Json.at?]
                rcases child?_fill_of_ne hslot (write path slot.child value).1 hstep with
                  heq | ⟨hnone, hnull⟩
                · exact Or.inl (by rw [heq])
                · rw [hnone, hnull]
                  cases other with
                  | nil => exact Or.inr ⟨rfl, rfl⟩
                  | cons next other => exact Or.inl (Json.at?_null_cons next other)

/-- A write that comes to its end puts the value at its place. -/
theorem puts_write {path : List Segment} {root value : Json}
    (h : (write path root value).2 = true) : Puts path root value (write path root value).1 where
  there := at?_place_write h
  grows := growsTo_write path root value
  apart _ := at?_write_of_apart

/-- A write does not come to its end just if something is in its way. -/
theorem write_eq_false_iff {path : List Segment} {root value : Json} :
    (write path root value).2 = false ↔ Blocked path root := by
  induction path generalizing root with
  | nil => cases root <;> simp [write, Blocked]
  | cons segment path ih =>
      rw [write_cons]
      cases hslot : segment.slot? root with
      | none => exact iff_of_true rfl (blocked_of_slot?_eq_none hslot path)
      | some slot =>
          rw [blocked_cons hslot]
          exact ih

theorem write_eq_true_iff {path : List Segment} {root value : Json} :
    (write path root value).2 = true ↔ ¬ Blocked path root := by
  rw [← write_eq_false_iff, Bool.not_eq_false]

end ApiGateway.Path
