import ApiGateway.Proofs.Json.Values
import ApiGateway.Proofs.Path.Writing

/-! # Writes at places apart

Two paths of keys and indices, neither of which begins with the other, part at some segment. If one
goes on with a key there and the other with an index, they need different containers at one place
(`Clash`), and either write blocks the other. Otherwise neither is in the way of the other
(`blocked_write_iff`), and the tree does not show which one came first (`write_comm`).

Both follow from what a slot is after another one of the same tree has been filled: the same slot
with the new value in it (`slot?_fill_self`), a slot with the value that it had (`slots_of_ne`), or
none, as the tree is no container of its kind any more (`slot?_fill_of_kind_ne`).
-/

set_option autoImplicit false

namespace ApiGateway.Path

/-- The segment leads into an object. -/
def Segment.inObject : Segment → Bool
  | .key _ => true
  | .index _ | .append => false

/-- Where the paths part, one goes into an object and the other into an array. -/
def Clash : List Segment → List Segment → Prop
  | segment :: path, segment' :: path' =>
    segment.inObject ≠ segment'.inObject ∨ (segment = segment' ∧ Clash path path')
  | _, _ => False

/-- Neither path begins with the other. -/
structure Apart (path path' : List Segment) : Prop where
  notBefore : ¬ path <+: path'
  notBehind : ¬ path' <+: path

instance (path path' : List Segment) : Decidable (Apart path path') :=
  decidable_of_iff (¬ path <+: path' ∧ ¬ path' <+: path)
    ⟨fun h => ⟨h.1, h.2⟩, fun h => ⟨h.notBefore, h.notBehind⟩⟩

theorem Apart.symm {path path' : List Segment} (h : Apart path path') : Apart path' path :=
  ⟨h.notBehind, h.notBefore⟩

theorem Clash.symm {path path' : List Segment} (h : Clash path path') : Clash path' path := by
  induction path generalizing path' with
  | nil => cases h
  | cons segment path ih =>
      cases path' with
      | nil => cases h
      | cons segment' path' =>
          rcases h with hkind | ⟨heq, hrest⟩
          · exact Or.inl hkind.symm
          · exact Or.inr ⟨heq.symm, ih hrest⟩

theorem apart_cons_self {segment : Segment} {path path' : List Segment} :
    Apart (segment :: path) (segment :: path') ↔ Apart path path' := by
  constructor
  · rintro ⟨hbefore, hbehind⟩
    rw [List.prefix_cons_inj] at hbefore hbehind
    exact ⟨hbefore, hbehind⟩
  · rintro ⟨hbefore, hbehind⟩
    rw [← List.prefix_cons_inj segment] at hbefore hbehind
    exact ⟨hbefore, hbehind⟩

theorem clash_cons_self {segment : Segment} {path path' : List Segment} :
    Clash (segment :: path) (segment :: path') ↔ Clash path path' := by
  simp [Clash]

theorem clash_cons_of_ne {segment segment' : Segment} (h : segment ≠ segment')
    {path path' : List Segment} :
    Clash (segment :: path) (segment' :: path') ↔ segment.inObject ≠ segment'.inObject := by
  simp [Clash, h]

/-! ## Items at positions -/

/-- The items with `child` at a position, behind nulls where there were fewer. -/
def putItem (position : Nat) (child : Json) (items : List Json) : List Json :=
  (items ++ List.replicate (position + 1 - items.length) Json.null).set position child

theorem getElem?_putItem (position : Nat) (child : Json) (items : List Json) (i : Nat) :
    (putItem position child items)[i]? =
      if i = position then some child
      else if i < position then some (items[i]?.getD .null)
      else items[i]? := by
  unfold putItem
  by_cases heq : i = position
  · rw [if_pos heq, heq, List.getElem?_set_self]
    rw [List.length_append, List.length_replicate]
    omega
  · rw [if_neg heq, List.getElem?_set_ne (Ne.symm heq)]
    by_cases hitem : i < items.length
    · rw [List.getElem?_append_left hitem, List.getElem?_eq_getElem hitem]
      simp
    · have hnone : items[i]? = none := List.getElem?_eq_none (Nat.le_of_not_lt hitem)
      have hpadding : i - items.length < position + 1 - items.length ↔ i < position := by omega
      simp only [List.getElem?_append_right (Nat.le_of_not_lt hitem), List.getElem?_replicate,
        hnone, hpadding, Option.getD_none]

theorem getD_putItem_self (position : Nat) (child : Json) (items : List Json) :
    (putItem position child items).getD position .null = child := by
  rw [List.getD_eq_getElem?_getD, getElem?_putItem, if_pos rfl]
  rfl

theorem getD_putItem_of_ne {position i : Nat} (h : i ≠ position) (child : Json)
    (items : List Json) : (putItem position child items).getD i .null = items.getD i .null := by
  rw [List.getD_eq_getElem?_getD, List.getD_eq_getElem?_getD, getElem?_putItem, if_neg h]
  split <;> rfl

theorem putItem_putItem (position : Nat) (v w : Json) (items : List Json) :
    putItem position w (putItem position v items) = putItem position w items := by
  refine List.ext_getElem? fun i => ?_
  by_cases heq : i = position
  · simp [getElem?_putItem, heq]
  · by_cases hlt : i < position <;> simp [getElem?_putItem, heq, hlt]

/-- Items at different positions may be put there in either order. -/
theorem putItem_comm {position position' : Nat} (h : position ≠ position') (v w : Json)
    (items : List Json) :
    putItem position' w (putItem position v items) =
      putItem position v (putItem position' w items) := by
  wlog hlt : position < position' generalizing position position' v w
  · exact (this h.symm w v (by omega)).symm
  refine List.ext_getElem? fun i => ?_
  by_cases heq : i = position
  · simp [getElem?_putItem, heq, h, hlt]
  · by_cases heq' : i = position'
    · simp [getElem?_putItem, heq', h.symm, Nat.lt_asymm hlt]
    · by_cases hbefore : i < position
      · simp [getElem?_putItem, heq, heq', hbefore, Nat.lt_trans hbefore hlt]
      · simp [getElem?_putItem, heq, heq', hbefore]

/-! ## Two slots of a tree -/

theorem slot?_index_arr (position : Nat) (items : List Json) :
    (Segment.index position).slot? (.arr items) =
      some ⟨.item position, items.getD position .null, fun child =>
        .arr (putItem position child items)⟩ := by
  simp only [Segment.slot?, getD_padded]
  rfl

/-- To a segment, null is an empty container of its kind. -/
theorem slot?_null (segment : Segment) :
    segment.slot? .null = segment.slot? (if segment.inObject then .obj [] else .arr []) := by
  cases segment with
  | key name => rfl
  | index position =>
      have hput : ∀ child, putItem position child [] =
          List.replicate position Json.null ++ [child] := by
        intro child
        rw [putItem, List.nil_append, List.length_nil, Nat.sub_zero, List.replicate_succ',
          List.set_append_right _ _ (by simp)]
        simp
      show _ = (Segment.index position).slot? (.arr [])
      rw [slot?_index_arr]
      simp [Segment.slot?, hput]
  | append => rfl

/-- A tree in which a segment leads somewhere is, to all segments of its kind, a container of that
kind. -/
theorem exists_container {segment : Segment} {root : Json} {slot : Slot}
    (h : segment.slot? root = some slot) :
    ∃ container, (if segment.inObject then ∃ members, container = .obj members
        else ∃ items, container = .arr items) ∧
      ∀ other : Segment, other.inObject = segment.inObject →
        other.slot? root = other.slot? container := by
  by_cases hnull : root = .null
  · refine ⟨if segment.inObject then .obj [] else .arr [], ?_, fun other hkind => ?_⟩
    · split
      · exact ⟨[], rfl⟩
      · exact ⟨[], rfl⟩
    · rw [hnull, slot?_null, hkind]
  · refine ⟨root, ?_, fun other _ => rfl⟩
    cases segment with
    | key name =>
        cases root with
        | null => exact absurd rfl hnull
        | obj members => exact ⟨members, rfl⟩
        | _ => cases h
    | index position | append =>
        cases root with
        | null => exact absurd rfl hnull
        | arr items => exact ⟨items, rfl⟩
        | _ => cases h

/-- After a slot is filled its segment leads to it again, and finds there what was filled in. -/
theorem slot?_fill_self {segment : Segment} (happend : segment ≠ .append) {root : Json}
    {slot : Slot} (h : segment.slot? root = some slot) (child : Json) :
    segment.slot? (slot.fill child) = some { slot with child := child } := by
  obtain ⟨container, hkind, hsame⟩ := exists_container h
  rw [hsame segment rfl] at h
  cases segment with
  | key name =>
      obtain ⟨members, rfl⟩ := hkind
      cases h
      simp only [Segment.slot?, Json.find?_insert_self, Json.insert_insert, Option.getD_some]
  | index position =>
      obtain ⟨items, rfl⟩ := hkind
      rw [slot?_index_arr] at h
      cases h
      simp only [slot?_index_arr, getD_putItem_self, putItem_putItem]
  | append => exact absurd rfl happend

/-- After a slot is filled another segment of the same kind finds what it found before, and the two
slots may be filled in either order. -/
theorem slots_of_ne {segment segment' : Segment} (happend : segment ≠ .append)
    (happend' : segment' ≠ .append) (hne : segment ≠ segment')
    (hkind : segment'.inObject = segment.inObject) {root : Json} {slot : Slot}
    (h : segment.slot? root = some slot) :
    ∃ (slot' : Slot) (both : Json → Json → Json), segment'.slot? root = some slot' ∧
      (∀ child, segment'.slot? (slot.fill child) = some { slot' with fill := both child }) ∧
      ∀ child', segment.slot? (slot'.fill child') =
        some { slot with fill := fun child => both child child' } := by
  obtain ⟨container, hcontainer, hsame⟩ := exists_container h
  rw [hsame segment rfl] at h
  rw [hsame segment' hkind]
  cases segment with
  | key name =>
      obtain ⟨members, rfl⟩ := hcontainer
      cases segment' <;> cases hkind
      rename_i name'
      have hname : name ≠ name' := fun heq => hne (congrArg Segment.key heq)
      cases h
      refine ⟨_, fun child child' =>
        .obj (Json.insert name' child' (Json.insert name child members)), rfl, fun child => ?_,
        fun child' => ?_⟩
      · simp only [Segment.slot?, Json.find?_insert_of_ne hname.symm]
      · simp only [Segment.slot?, Json.find?_insert_of_ne hname, Json.insert_comm hname]
  | index position =>
      obtain ⟨items, rfl⟩ := hcontainer
      cases segment' <;> cases hkind
      · rename_i position'
        have hposition : position ≠ position' := fun heq => hne (congrArg Segment.index heq)
        rw [slot?_index_arr] at h
        cases h
        refine ⟨_, fun child child' =>
          .arr (putItem position' child' (putItem position child items)), slot?_index_arr _ _,
          fun child => ?_, fun child' => ?_⟩
        · simp only [slot?_index_arr, getD_putItem_of_ne hposition.symm]
        · simp only [slot?_index_arr, getD_putItem_of_ne hposition, putItem_comm hposition]
      · exact absurd rfl happend'
  | append => exact absurd rfl happend

/-- After a slot is filled a segment of the other kind leads nowhere. -/
theorem slot?_fill_of_kind_ne {segment segment' : Segment}
    (hkind : segment.inObject ≠ segment'.inObject) {root : Json} {slot : Slot}
    (h : segment.slot? root = some slot) (child : Json) :
    segment'.slot? (slot.fill child) = none := by
  cases segment <;> cases root <;> cases h <;> cases segment' <;>
    first | rfl | exact absurd rfl hkind

/-! ## Two writes -/

variable {path path' : List Segment} {root v : Json}

/-- What a write leaves in the way of a path apart from it: what was there, and the containers of
the wrong kind. -/
theorem blocked_write_iff (happend : .append ∉ path) (happend' : .append ∉ path')
    (hapart : Apart path path') (hfree : ¬ Blocked path root) :
    Blocked path' (write path root v).1 ↔ Blocked path' root ∨ Clash path path' := by
  induction path generalizing path' root with
  | nil => exact absurd List.nil_prefix hapart.notBefore
  | cons segment path ih =>
      cases path' with
      | nil => exact absurd List.nil_prefix hapart.notBehind
      | cons segment' path' =>
          rw [List.mem_cons, not_or] at happend happend'
          cases hslot : segment.slot? root with
          | none => exact absurd (blocked_of_slot?_eq_none hslot path) hfree
          | some slot =>
              rw [write_cons, hslot]
              dsimp only
              rw [blocked_cons hslot] at hfree
              by_cases heq : segment = segment'
              · subst heq
                rw [blocked_cons (slot?_fill_self (Ne.symm happend.1) hslot _), blocked_cons hslot,
                  clash_cons_self]
                exact ih happend.2 happend'.2 (apart_cons_self.1 hapart) hfree
              · rw [clash_cons_of_ne heq]
                by_cases hkind : segment.inObject = segment'.inObject
                · obtain ⟨slot', both, hslot', hfilled, -⟩ :=
                    slots_of_ne (Ne.symm happend.1) (Ne.symm happend'.1) heq hkind.symm hslot
                  rw [blocked_cons (hfilled _), blocked_cons hslot']
                  exact (or_iff_left fun h => h hkind).symm
                · exact iff_of_true
                    (blocked_of_slot?_eq_none (slot?_fill_of_kind_ne hkind hslot _) path')
                    (Or.inr hkind)

/-- Where neither write is in the way of the other, the order of the two does not show. -/
theorem write_comm (happend : .append ∉ path) (happend' : .append ∉ path')
    (hapart : Apart path path') (hclash : ¬ Clash path path') (hfree : ¬ Blocked path root)
    (hfree' : ¬ Blocked path' root) (w : Json) :
    (write path' (write path root v).1 w).1 = (write path (write path' root w).1 v).1 := by
  induction path generalizing path' root with
  | nil => exact absurd List.nil_prefix hapart.notBefore
  | cons segment path ih =>
      cases path' with
      | nil => exact absurd List.nil_prefix hapart.notBehind
      | cons segment' path' =>
          rw [List.mem_cons, not_or] at happend happend'
          cases hslot : segment.slot? root with
          | none => exact absurd (blocked_of_slot?_eq_none hslot path) hfree
          | some slot =>
              rw [blocked_cons hslot] at hfree
              by_cases heq : segment = segment'
              · subst heq
                rw [blocked_cons hslot] at hfree'
                rw [clash_cons_self] at hclash
                simp only [write_cons, hslot, slot?_fill_self (Ne.symm happend.1) hslot]
                rw [ih happend.2 happend'.2 (apart_cons_self.1 hapart) hclash hfree hfree']
              · rw [clash_cons_of_ne heq, not_not] at hclash
                obtain ⟨slot', both, hslot', hfilled, hfilled'⟩ :=
                  slots_of_ne (Ne.symm happend.1) (Ne.symm happend'.1) heq hclash.symm hslot
                simp only [write_cons, hslot, hslot', hfilled, hfilled']

/-! ## Places -/

/-- The place of a path without appends is the same in all trees. -/
theorem place_eq (happend : .append ∉ path) (root root' : Json) :
    place path root = place path root' := by
  induction path generalizing root root' with
  | nil => rfl
  | cons segment path ih =>
      rw [List.mem_cons, not_or] at happend
      cases segment with
      | key name => exact congrArg (List.cons _) (ih happend.2 _ _)
      | index position => exact congrArg (List.cons _) (ih happend.2 _ _)
      | append => exact absurd rfl happend.1

/-- The places of paths apart are apart. -/
theorem not_prefix_place (happend : .append ∉ path) (happend' : .append ∉ path')
    (hapart : Apart path path') (root root' : Json) :
    ¬ place path root <+: place path' root' := by
  induction path generalizing path' root root' with
  | nil => exact absurd List.nil_prefix hapart.notBefore
  | cons segment path ih =>
      cases path' with
      | nil => exact absurd List.nil_prefix hapart.notBehind
      | cons segment' path' =>
          rw [List.mem_cons, not_or] at happend happend'
          intro h
          have hrest : segment = segment' → Apart path path' := by
            rintro rfl
            exact apart_cons_self.1 hapart
          cases segment with
          | key name =>
              cases segment' with
              | key name' =>
                  obtain ⟨hstep, h⟩ := List.cons_prefix_cons.1 h
                  exact ih happend.2 happend'.2 (hrest (by cases hstep; rfl)) _ _ h
              | index position' => cases (List.cons_prefix_cons.1 h).1
              | append => exact absurd rfl happend'.1
          | index position =>
              cases segment' with
              | key name' => cases (List.cons_prefix_cons.1 h).1
              | index position' =>
                  obtain ⟨hstep, h⟩ := List.cons_prefix_cons.1 h
                  exact ih happend.2 happend'.2 (hrest (by cases hstep; rfl)) _ _ h
              | append => exact absurd rfl happend'.1
          | append => exact absurd rfl happend.1

/-- A write leaves alone what stands at a place apart from its own. -/
theorem at?_write_of_some (happend : .append ∉ path) (happend' : .append ∉ path')
    (hapart : Apart path path') {root' w : Json} (h : root.at? (place path' root') = some w) :
    (write path root v).1.at? (place path' root') = some w := by
  have hbefore := not_prefix_place happend' happend hapart.symm root' root
  have hbehind := not_prefix_place happend happend' hapart root root'
  have hat : (write path root v).1.at? (place path' root') = root.at? (place path' root') ∨ _ :=
    at?_write_of_apart hbefore hbehind
  rcases hat with heq | ⟨hnone, _⟩
  · rw [heq, h]
  · rw [hnone] at h
    cases h

end ApiGateway.Path
