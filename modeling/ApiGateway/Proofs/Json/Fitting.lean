import ApiGateway.Proofs.Json.Reading

/-! # How deep a text may be

A reader that asks for everything in a tree gets the tree, unless more containers are open at once
than it allows (`fit?_toWritten`). `Layout.Covers` says that a layout asks for everything.
-/

set_option autoImplicit false

namespace ApiGateway.Json

mutual

/-- How many containers are open at once at the deepest place of a tree. -/
def depth : Json → Nat
  | .arr items => depthOfItems items + 1
  | .obj members => depthOfMembers members + 1
  | _ => 0

/-- The depth of the deepest item. -/
def depthOfItems : List Json → Nat
  | [] => 0
  | v :: rest => max (depth v) (depthOfItems rest)

/-- The depth of the deepest member. -/
def depthOfMembers : List (String × Json) → Nat
  | [] => 0
  | (_, v) :: rest => max (depth v) (depthOfMembers rest)

end

theorem depthOfItems_le_iff {items : List Json} {n : Nat} :
    depthOfItems items ≤ n ↔ ∀ v ∈ items, v.depth ≤ n := by
  induction items with
  | nil => simp [depthOfItems]
  | cons v rest ih => rw [depthOfItems, Nat.max_le, ih, List.forall_mem_cons]

theorem depthOfMembers_le_iff {members : List (String × Json)} {n : Nat} :
    depthOfMembers members ≤ n ↔ ∀ p ∈ members, p.2.depth ≤ n := by
  induction members with
  | nil => simp [depthOfMembers]
  | cons p rest ih =>
      obtain ⟨k, v⟩ := p
      rw [depthOfMembers, Nat.max_le, ih, List.forall_mem_cons]

namespace Layout

mutual

/-- The layout asks for everything in a tree. -/
def Covers : Layout → Json → Prop
  | layout, .arr items => CoversItems layout.items items
  | layout, .obj members => CoversMembers layout members
  | _, _ => True

/-- The layouts ask for everything in the items, each for one. -/
def CoversItems : List Layout → List Json → Prop
  | _, [] => True
  | layouts, v :: rest => Covers (layouts.headD .whole) v ∧ CoversItems layouts.tail rest

/-- The layout asks for all members, and for everything in them. -/
def CoversMembers : Layout → List (String × Json) → Prop
  | _, [] => True
  | layout, (k, v) :: rest =>
    (∃ inner, layout.member? k = some inner ∧ Covers inner v) ∧ CoversMembers layout rest

end

theorem coversMembers_iff {layout : Layout} {members : List (String × Json)} :
    CoversMembers layout members ↔
      ∀ p ∈ members, ∃ inner, layout.member? p.1 = some inner ∧ inner.Covers p.2 := by
  induction members with
  | nil => simp [CoversMembers]
  | cons p rest ih =>
      obtain ⟨k, v⟩ := p
      rw [CoversMembers, ih, List.forall_mem_cons]

mutual

/-- A reader without a layout asks for everything. -/
theorem covers_whole : (v : Json) → whole.Covers v
  | .null | .bool _ | .num _ | .str _ => trivial
  | .arr items => coversItems_nil items
  | .obj members => coversMembers_whole members

theorem coversItems_nil : (items : List Json) → CoversItems [] items
  | [] => trivial
  | v :: items => ⟨covers_whole v, coversItems_nil items⟩

theorem coversMembers_whole : (members : List (String × Json)) → CoversMembers whole members
  | [] => trivial
  | (_, v) :: members => ⟨⟨whole, rfl, covers_whole v⟩, coversMembers_whole members⟩

end

/-- The members that a layout asks for are those of its names. -/
theorem member?_ofNames {names : List String} {key : String} (h : key ∈ names)
    (inner : List (String × Layout)) :
    (ofNames names inner).member? key = some ((inner.lookup key).getD .whole) := by
  unfold ofNames member?
  dsimp only
  induction names with
  | nil => cases h
  | cons name names ih =>
      rw [List.map_cons, List.lookup_cons]
      cases hkey : key == name with
      | true => rw [eq_of_beq hkey]
      | false => exact ih ((List.mem_cons.1 h).resolve_left (ne_of_beq_false hkey))

end Layout

namespace Written

mutual

/-- A tree fits a layout that asks for everything in it exactly if it is not too deep. -/
theorem fit?_toWritten : (v : Json) → (layout : Layout) → layout.Covers v → (room : Nat) →
    v.toWritten.fit? room layout = if v.depth ≤ room then some v else none
  | .null, _, _, _ => rfl
  | .bool _, _, _, _ => rfl
  | .num _, _, _, _ => rfl
  | .str _, _, _, _ => rfl
  | .arr items, layout, h, room => by
      cases room with
      | zero => rw [toWritten, fit?, depth, if_neg (by omega)]
      | succ room =>
          rw [toWritten, fit?, fitItems?_toWritten items layout.items h room, depth]
          simp only [Nat.add_le_add_iff_right]
          split <;> rfl
  | .obj members, layout, h, room => by
      cases room with
      | zero => rw [toWritten, fit?, depth, if_neg (by omega)]
      | succ room =>
          rw [toWritten, fit?, fitMembers?_toWritten members layout h room, depth]
          simp only [Nat.add_le_add_iff_right]
          split <;> rfl

theorem fitItems?_toWritten : (items : List Json) → (layouts : List Layout) →
    Layout.CoversItems layouts items → (room : Nat) →
      fitItems? room layouts (toWrittenItems items) =
        if depthOfItems items ≤ room then some items else none
  | [], _, _, _ => rfl
  | v :: items, layouts, h, room => by
      rw [toWrittenItems, fitItems?, fit?_toWritten v _ h.1 room,
        fitItems?_toWritten items _ h.2 room, depthOfItems]
      simp only [Nat.max_le]
      split <;> split <;> simp_all

theorem fitMembers?_toWritten : (members : List (String × Json)) → (layout : Layout) →
    Layout.CoversMembers layout members → (room : Nat) →
      fitMembers? room layout (toWrittenMembers members) =
        if depthOfMembers members ≤ room then some members else none
  | [], _, _, _ => rfl
  | (k, v) :: members, layout, h, room => by
      obtain ⟨⟨inner, hinner, hv⟩, hmembers⟩ := h
      rw [toWrittenMembers, fitMembers?, hinner]
      dsimp only
      rw [fit?_toWritten v _ hv room, fitMembers?_toWritten members _ hmembers room,
        depthOfMembers]
      simp only [Nat.max_le]
      split <;> split <;> simp_all

end

/-- Members that are not asked for are left out, whatever they hold. -/
theorem fitMembers?_eq_nil {layout : Layout} {members : List (String × Json)}
    (h : ∀ p ∈ members, layout.member? p.1 = none) (room : Nat) :
    fitMembers? room layout (toWrittenMembers members) = some [] := by
  induction members with
  | nil => rfl
  | cons p rest ih =>
      obtain ⟨k, v⟩ := p
      rw [toWrittenMembers, fitMembers?, h (k, v) List.mem_cons_self]
      exact ih fun q hq => h q (List.mem_cons_of_mem _ hq)

end Written

/-- What is read of the text of a tree is the tree, if the reader asks for everything and the tree
is not too deep; a deeper tree cannot be read. -/
theorem readFields_render_of_covers {v : Json} (h : v.Readable) {layout : Layout}
    (hcovers : layout.Covers v) :
    readFields layout v.render = if v.depth ≤ maxDepth then some v else none := by
  rw [readFields_render h, Written.fit?_toWritten v layout hcovers]

end ApiGateway.Json
