import ApiGateway.Json.Basic

/-! # Growth of values

A value grows to another if nothing that it says is taken back: null may become anything, an object
may get further members and an array further items behind its own, and what is inside grows in the
same way. Growth is an order (`GrowsTo.refl`, `GrowsTo.trans`), and what stands at a place in a
value stands there, grown, in every value that it grows to (`GrowsTo.at?`).

`SameBut` relates two values that differ at one place at most. Such values exist wherever something
stands that is not null (`exists_sameBut`).
-/

set_option autoImplicit false

namespace ApiGateway.Json

/-! ## Places -/

/-- A step into a value: to the member with a name, or to the item at a position. -/
inductive Step where
  | member (name : String)
  | item (position : Nat)
  deriving DecidableEq

/-- What a step leads to. -/
def Step.child? : Step → Json → Option Json
  | .member name, .obj members => find? name members
  | .item position, .arr items => items[position]?
  | _, _ => none

/-- What stands at a place in a value. -/
def at? (v : Json) : List Step → Option Json
  | [] => some v
  | step :: place => (step.child? v).bind fun child => child.at? place

theorem at?_append (v : Json) (place inner : List Step) :
    v.at? (place ++ inner) = (v.at? place).bind fun w => w.at? inner := by
  induction place generalizing v with
  | nil => rfl
  | cons step place ih =>
      rw [List.cons_append, at?, at?, Option.bind_assoc]
      exact Option.bind_congr fun child _ => ih child

theorem at?_null_cons (step : Step) (place : List Step) : Json.null.at? (step :: place) = none := by
  cases step <;> rfl

/-- Where a step leads nowhere, null may stand in for what is not there. -/
theorem getD_at?_child (v : Json) (step : Step) (place : List Step) :
    (((step.child? v).getD .null).at? place).getD .null = (v.at? (step :: place)).getD .null := by
  rw [at?]
  cases step.child? v with
  | some child => rfl
  | none =>
      cases place with
      | nil => rfl
      | cons next place => exact congrArg (Option.getD · .null) (at?_null_cons next place)

/-- A value that is not null and has nothing inside. -/
def IsScalar : Json → Prop
  | .bool _ | .num _ | .str _ => True
  | _ => False

/-! ## Growth -/

/-- The second value says everything that the first one says. -/
inductive GrowsTo : Json → Json → Prop where
  | null (v : Json) : GrowsTo .null v
  | bool (b : Bool) : GrowsTo (.bool b) (.bool b)
  | num (n : Number) : GrowsTo (.num n) (.num n)
  | str (s : String) : GrowsTo (.str s) (.str s)
  | arr {items items' : List Json} (length : items.length ≤ items'.length)
      (grows : ∀ (i : Nat) (v w : Json), items[i]? = some v → items'[i]? = some w → GrowsTo v w) :
      GrowsTo (.arr items) (.arr items')
  | obj {members members' : List (String × Json)}
      (keys : ∀ k, (find? k members).isSome = true → (find? k members').isSome = true)
      (grows : ∀ k v w, find? k members = some v → find? k members' = some w → GrowsTo v w) :
      GrowsTo (.obj members) (.obj members')

mutual

theorem GrowsTo.refl : (v : Json) → v.GrowsTo v
  | .null => .null _
  | .bool b => .bool b
  | .num n => .num n
  | .str s => .str s
  | .arr items => .arr (Nat.le_refl _) fun i v w hv hw => by
      obtain rfl : v = w := Option.some.inj (hv.symm.trans hw)
      exact reflItems items i v hv
  | .obj members => .obj (fun _ h => h) fun k v w hv hw => by
      obtain rfl : v = w := Option.some.inj (hv.symm.trans hw)
      exact reflMembers members k v hv

theorem GrowsTo.reflItems :
    (items : List Json) → ∀ (i : Nat) (v : Json), items[i]? = some v → v.GrowsTo v
  | [], i, v, h => by
      rw [List.getElem?_nil] at h
      cases h
  | w :: items, 0, v, h => by
      rw [List.getElem?_cons_zero] at h
      cases h
      exact GrowsTo.refl w
  | w :: items, i + 1, v, h => by
      rw [List.getElem?_cons_succ] at h
      exact reflItems items i v h

theorem GrowsTo.reflMembers :
    (members : List (String × Json)) → ∀ k v, find? k members = some v → v.GrowsTo v
  | [], k, v, h => by cases h
  | (l, w) :: members, k, v, h => by
      rw [find?] at h
      split at h
      · cases h
        exact GrowsTo.refl w
      · exact reflMembers members k v h

end

theorem GrowsTo.trans {u v w : Json} (huv : u.GrowsTo v) (hvw : v.GrowsTo w) : u.GrowsTo w := by
  induction huv generalizing w with
  | null v => exact .null w
  | bool b => exact hvw
  | num n => exact hvw
  | str s => exact hvw
  | @arr items items' length grows ih =>
      cases hvw with
      | arr length' grows' =>
          refine .arr (Nat.le_trans length length') fun i a c ha hc => ?_
          have hi : i < items'.length :=
            Nat.lt_of_lt_of_le (List.getElem?_eq_some_iff.1 ha).1 length
          have hb : items'[i]? = some items'[i] := List.getElem?_eq_getElem hi
          exact ih i a _ ha hb (grows' i _ c hb hc)
  | @obj members members' keys grows ih =>
      cases hvw with
      | obj keys' grows' =>
          refine .obj (fun k hk => keys' k (keys k hk)) fun k a c ha hc => ?_
          obtain ⟨b, hb⟩ := Option.isSome_iff_exists.1 (keys k (ha ▸ rfl))
          exact ih k a b ha hb (grows' k b c hb hc)

/-- A scalar stays as it is. -/
theorem GrowsTo.eq_of_isScalar {v w : Json} (h : v.GrowsTo w) (hv : v.IsScalar) : w = v := by
  cases h with
  | null => exact hv.elim
  | arr => exact hv.elim
  | obj => exact hv.elim
  | _ => rfl

theorem GrowsTo.child? {v w : Json} (h : v.GrowsTo w) {step : Step} {a : Json}
    (ha : step.child? v = some a) : ∃ b, step.child? w = some b ∧ a.GrowsTo b := by
  cases h with
  | @arr items items' length grows =>
      cases step with
      | member name => cases ha
      | item i =>
          have hi : i < items'.length :=
            Nat.lt_of_lt_of_le (List.getElem?_eq_some_iff.1 ha).1 length
          have hb : items'[i]? = some items'[i] := List.getElem?_eq_getElem hi
          exact ⟨_, hb, grows i a _ ha hb⟩
  | obj keys grows =>
      cases step with
      | member name =>
          have ha' : find? name _ = some a := ha
          obtain ⟨b, hb⟩ := Option.isSome_iff_exists.1 (keys name (ha' ▸ rfl))
          exact ⟨b, hb, grows name a b ha' hb⟩
      | item i => cases ha
  | _ => cases step <;> cases ha

/-- What stands at a place stands there afterwards, grown. -/
theorem GrowsTo.at? {v w : Json} (h : v.GrowsTo w) {place : List Step} {a : Json}
    (ha : v.at? place = some a) : ∃ b, w.at? place = some b ∧ a.GrowsTo b := by
  induction place generalizing v w with
  | nil =>
      cases ha
      exact ⟨w, rfl, h⟩
  | cons step place ih =>
      obtain ⟨child, hchild, ha⟩ := Option.bind_eq_some_iff.1 ha
      obtain ⟨child', hchild', hgrows⟩ := h.child? hchild
      obtain ⟨b, hb, hab⟩ := ih hgrows ha
      refine ⟨b, ?_, hab⟩
      rw [Json.at?, hchild']
      exact hb

/-! ## Changes that let a value grow -/

theorem find?_insert_self (key : String) (value : Json) (members : List (String × Json)) :
    find? key (insert key value members) = some value := by
  induction members with
  | nil => simp [insert, find?]
  | cons q members ih =>
      rw [insert]
      split
      · simp [find?]
      · split
        · simp [find?]
        · rename_i hne
          rw [find?, if_neg (Ne.symm hne), ih]

theorem find?_insert_of_ne {key k : String} (h : k ≠ key) (value : Json)
    (members : List (String × Json)) : find? k (insert key value members) = find? k members := by
  induction members with
  | nil => simp [insert, find?, Ne.symm h]
  | cons q members ih =>
      rw [insert]
      split
      · rw [find?, if_neg (Ne.symm h)]
      · split
        · rename_i heq
          have hne : q.1 ≠ k := heq ▸ Ne.symm h
          rw [find?, find?, if_neg (Ne.symm h), if_neg hne]
        · rw [find?, find?, ih]

/-- A member grows or is new. -/
theorem GrowsTo.insert {key : String} {value : Json} {members : List (String × Json)}
    (h : ((find? key members).getD .null).GrowsTo value) :
    (Json.obj members).GrowsTo (.obj (Json.insert key value members)) := by
  refine .obj (fun k hk => ?_) fun k v w hv hw => ?_
  · by_cases hkey : k = key
    · rw [hkey, find?_insert_self]
      rfl
    · rw [find?_insert_of_ne hkey]
      exact hk
  · by_cases hkey : k = key
    · rw [hkey, find?_insert_self] at hw
      rw [hkey] at hv
      rw [hv] at h
      cases hw
      exact h
    · rw [find?_insert_of_ne hkey, hv] at hw
      cases hw
      exact GrowsTo.refl v

/-- Items grow, and further items come behind them. -/
theorem GrowsTo.items {items items' : List Json} (length : items.length ≤ items'.length)
    (h : ∀ (i : Nat) (v w : Json), items[i]? = some v → items'[i]? = some w → v ≠ w →
      v.GrowsTo w) :
    (Json.arr items).GrowsTo (.arr items') := by
  refine .arr length fun i v w hv hw => ?_
  by_cases heq : v = w
  · rw [heq]
    exact GrowsTo.refl w
  · exact h i v w hv hw heq

theorem GrowsTo.append (items more : List Json) :
    (Json.arr items).GrowsTo (.arr (items ++ more)) := by
  refine .items (by simp) fun i v w hv hw hne => ?_
  rw [List.getElem?_append_left (List.getElem?_eq_some_iff.1 hv).1, hv] at hw
  exact absurd (Option.some.inj hw) hne

theorem GrowsTo.set {items : List Json} {i : Nat} {value : Json}
    (h : (items.getD i .null).GrowsTo value) :
    (Json.arr items).GrowsTo (.arr (items.set i value)) := by
  refine .items (by simp) fun j v w hv hw hne => ?_
  by_cases hij : i = j
  · subst hij
    have hi : i < items.length := (List.getElem?_eq_some_iff.1 hv).1
    rw [List.getElem?_set_self hi] at hw
    cases hw
    rw [List.getD_eq_getElem?_getD, hv] at h
    exact h
  · rw [List.getElem?_set_ne hij, hv] at hw
    exact absurd (Option.some.inj hw) hne

/-! ## Another value at a place -/

/-- The values differ at one place at most, where neither is null. -/
inductive SameBut : List Step → Json → Json → Prop where
  | here {v w : Json} (left : v ≠ .null) (right : w ≠ .null) : SameBut [] v w
  | member {name : String} {place : List Step} {v w : Json} {before after : List (String × Json)}
      (first : name ∉ before.map (·.1)) (inside : SameBut place v w) :
      SameBut (.member name :: place) (.obj (before ++ (name, v) :: after))
        (.obj (before ++ (name, w) :: after))
  | item {place : List Step} {v w : Json} {before after : List Json} (inside : SameBut place v w) :
      SameBut (.item before.length :: place) (.arr (before ++ v :: after))
        (.arr (before ++ w :: after))

theorem SameBut.ne_null {place : List Step} {v w : Json} (h : SameBut place v w) :
    v ≠ .null ∧ w ≠ .null := by
  cases h with
  | here left right => exact ⟨left, right⟩
  | member => exact ⟨nofun, nofun⟩
  | item => exact ⟨nofun, nofun⟩

theorem ne_null_of_at? {v w : Json} {place : List Step} (h : v.at? place = some w)
    (hw : w ≠ .null) : v ≠ .null := by
  rintro rfl
  cases place with
  | nil =>
      cases h
      exact hw rfl
  | cons step place =>
      rw [at?_null_cons] at h
      cases h

theorem exists_of_find?_eq_some {name : String} {v : Json} {members : List (String × Json)}
    (h : find? name members = some v) :
    ∃ before after, name ∉ before.map (·.1) ∧ members = before ++ (name, v) :: after := by
  induction members with
  | nil => cases h
  | cons q members ih =>
      obtain ⟨k, u⟩ := q
      rw [find?] at h
      split at h
      · rename_i heq
        cases heq
        cases h
        exact ⟨[], members, List.not_mem_nil, rfl⟩
      · rename_i hne
        obtain ⟨before, after, hfirst, rfl⟩ := ih h
        exact ⟨(k, u) :: before, after, by simp [hfirst, Ne.symm hne], rfl⟩

theorem find?_append_cons {name : String} {before : List (String × Json)}
    (h : name ∉ before.map (·.1)) (v : Json) (after : List (String × Json)) :
    find? name (before ++ (name, v) :: after) = some v := by
  induction before with
  | nil => simp [find?]
  | cons q before ih =>
      rw [List.map_cons, List.mem_cons, not_or] at h
      rw [List.cons_append, find?, if_neg (Ne.symm h.1), ih h.2]

theorem exists_of_getElem?_eq_some {position : Nat} {v : Json} {items : List Json}
    (h : items[position]? = some v) :
    ∃ before after, before.length = position ∧ items = before ++ v :: after := by
  obtain ⟨hlt, rfl⟩ := List.getElem?_eq_some_iff.1 h
  refine ⟨items.take position, items.drop (position + 1), ?_, ?_⟩
  · exact List.length_take_of_le (Nat.le_of_lt hlt)
  · rw [← List.drop_eq_getElem_cons hlt, List.take_append_drop]

/-- In the place of a value that is not null any other can stand. -/
theorem exists_sameBut {v u w : Json} {place : List Step} (h : v.at? place = some u)
    (hu : u ≠ .null) (hw : w ≠ .null) : ∃ v', SameBut place v v' ∧ v'.at? place = some w := by
  induction place generalizing v with
  | nil =>
      cases h
      exact ⟨w, .here hu hw, rfl⟩
  | cons step place ih =>
      -- the child changes, and the container is cut in two where it stands
      obtain ⟨child, hchild, h⟩ := Option.bind_eq_some_iff.1 h
      obtain ⟨child', hsame, hat⟩ := ih h
      cases step with
      | member name =>
          cases v with
          | obj members =>
              obtain ⟨before, after, hfirst, rfl⟩ := exists_of_find?_eq_some hchild
              refine ⟨_, .member hfirst hsame, ?_⟩
              rw [at?, Step.child?, find?_append_cons hfirst]
              exact hat
          | _ => cases hchild
      | item position =>
          cases v with
          | arr items =>
              obtain ⟨before, after, rfl, rfl⟩ := exists_of_getElem?_eq_some hchild
              refine ⟨_, .item hsame, ?_⟩
              rw [at?, Step.child?, List.getElem?_append_right (Nat.le_refl _), Nat.sub_self,
                List.getElem?_cons_zero]
              exact hat
          | _ => cases hchild

end ApiGateway.Json
