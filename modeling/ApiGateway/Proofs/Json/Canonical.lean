import ApiGateway.Json.Canonical
import ApiGateway.Proofs.Json.Growth
import ApiGateway.Proofs.Json.Uniqueness
import ApiGateway.Proofs.Json.Values

/-! # Canonical text and values

`SameValue` says what two documents may differ in and still be one value: the order of the members
of their objects, and members whose key is given again. Documents have one normal form just if they
have one value (`normalize_eq_iff`). As compact text is uniquely readable, they have one canonical
text just if they have one value (`canonicalBody_eq_iff`), so that values that differ are never
signed over the same text.
-/

set_option autoImplicit false

namespace ApiGateway.Json

/-- Two documents with the same value. Members with different keys may change places, and of two
neighbours with one key the second counts. -/
inductive SameValue : Json → Json → Prop where
  | refl (v : Json) : SameValue v v
  | symm {v w : Json} : SameValue v w → SameValue w v
  | trans {u v w : Json} : SameValue u v → SameValue v w → SameValue u w
  | item (front back : List Json) {v w : Json} : SameValue v w →
      SameValue (.arr (front ++ v :: back)) (.arr (front ++ w :: back))
  | member (front back : List (String × Json)) (key : String) {v w : Json} : SameValue v w →
      SameValue (.obj (front ++ (key, v) :: back)) (.obj (front ++ (key, w) :: back))
  | swap (front back : List (String × Json)) (m m' : String × Json) : m.1 ≠ m'.1 →
      SameValue (.obj (front ++ m :: m' :: back)) (.obj (front ++ m' :: m :: back))
  | repeated (front back : List (String × Json)) (key : String) (v w : Json) :
      SameValue (.obj (front ++ (key, v) :: (key, w) :: back))
        (.obj (front ++ (key, w) :: back))

/-! ## One value has one normal form -/

theorem find?_eq_none_of_lt {key : String} {members : List (String × Json)}
    (h : ∀ m ∈ members, key < m.1) : find? key members = none := by
  refine find?_eq_none_of_not_mem fun hmem => ?_
  obtain ⟨m, hm, rfl⟩ := List.mem_map.1 hmem
  exact absurd rfl (String.ne_of_lt (h m hm))

theorem Ascending.head_lt {m : String × Json} {rest : List (String × Json)}
    (h : Ascending (m :: rest)) : ∀ q ∈ rest, m.1 < q.1 :=
  fun _ hq => (List.pairwise_cons.1 h).1 _ (List.mem_map_of_mem hq)

theorem Ascending.tail {m : String × Json} {rest : List (String × Json)}
    (h : Ascending (m :: rest)) : Ascending rest :=
  (List.pairwise_cons.1 h).2

/-- A key below the first of ascending members is not among them. -/
theorem Ascending.find?_of_lt {key : String} {m : String × Json} {rest : List (String × Json)}
    (h : Ascending (m :: rest)) (hkey : key < m.1) : find? key (m :: rest) = none := by
  refine find?_eq_none_of_lt fun q hq => ?_
  rcases List.mem_cons.1 hq with rfl | hq
  · exact hkey
  · exact String.lt_trans hkey (h.head_lt q hq)

/-- Ascending members are determined by what is found under each key. -/
theorem eq_of_find?_eq {members members' : List (String × Json)} (h : Ascending members)
    (h' : Ascending members') (hfind : ∀ key, find? key members = find? key members') :
    members = members' := by
  induction members generalizing members' with
  | nil =>
      cases members' with
      | nil => rfl
      | cons m' rest' =>
          have hhead := hfind m'.1
          rw [find?, find?, if_pos rfl] at hhead
          cases hhead
  | cons m rest ih =>
      obtain ⟨k, v⟩ := m
      have hhead : find? k ((k, v) :: rest) = some v := by rw [find?, if_pos rfl]
      cases members' with
      | nil =>
          rw [hfind k] at hhead
          cases hhead
      | cons m' rest' =>
          obtain ⟨l, w⟩ := m'
          have hhead' : find? l ((l, w) :: rest') = some w := by rw [find?, if_pos rfl]
          -- a first key that is less than the other one is missing there
          have hkey : k = l := by
            refine Classical.byContradiction fun hne => ?_
            by_cases hlt : k < l
            · rw [hfind k, h'.find?_of_lt hlt] at hhead
              cases hhead
            · have hgt : l < k := by
                refine Classical.byContradiction fun hnot => hne ?_
                exact String.le_antisymm (String.not_lt.1 hnot) (String.not_lt.1 hlt)
              rw [← hfind l, h.find?_of_lt hgt] at hhead'
              cases hhead'
          subst hkey
          have hvalue : v = w := Option.some.inj (hhead.symm.trans ((hfind k).trans hhead'))
          have hrest : rest = rest' := by
            refine ih h.tail h'.tail fun key => ?_
            by_cases hk : k = key
            · subst hk
              rw [find?_eq_none_of_lt h.head_lt, find?_eq_none_of_lt h'.head_lt]
            · have hboth := hfind key
              rw [find?, find?, if_neg hk, if_neg hk] at hboth
              exact hboth
          rw [hvalue, hrest]

/-- What is found under a key may be inserted under it again. -/
theorem insert_of_find?_eq_some {key : String} {v : Json} {members : List (String × Json)}
    (h : Ascending members) (hfind : find? key members = some v) :
    insert key v members = members := by
  refine eq_of_find?_eq (ascending_insert _ _ h) h fun k => ?_
  by_cases hk : k = key
  · rw [hk, find?_insert_self, hfind]
  · rw [find?_insert_of_ne hk]

theorem normalizeItems_eq_map (items : List Json) : normalizeItems items = items.map normalize := by
  induction items with
  | nil => rfl
  | cons v items ih => rw [normalizeItems, ih, List.map_cons]

theorem normalizeMembers_eq_map (members : List (String × Json)) :
    normalizeMembers members = members.map fun m => (m.1, m.2.normalize) := by
  induction members with
  | nil => rfl
  | cons m members ih => rw [normalizeMembers, ih, List.map_cons]

theorem insertAll_append (members more into : List (String × Json)) :
    insertAll (members ++ more) into = insertAll more (insertAll members into) :=
  List.foldl_append

theorem ascending_nil : Ascending [] := List.Pairwise.nil

/-- Documents with one value have one normal form. -/
theorem SameValue.normalize_eq {v w : Json} (h : SameValue v w) : v.normalize = w.normalize := by
  induction h with
  | refl v => rfl
  | symm _ ih => exact ih.symm
  | trans _ _ ih ih' => exact ih.trans ih'
  | item front back _ ih =>
      rw [normalize, normalize, normalizeItems_eq_map, normalizeItems_eq_map, List.map_append,
        List.map_append, List.map_cons, List.map_cons, ih]
  | member front back key _ ih =>
      rw [normalize, normalize, normalizeMembers_eq_map, normalizeMembers_eq_map, List.map_append,
        List.map_append, List.map_cons, List.map_cons, ih]
  | swap front back m m' hne =>
      rw [normalize, normalize, normalizeMembers_eq_map, normalizeMembers_eq_map, List.map_append,
        List.map_append, insertAll_append, insertAll_append]
      exact congrArg (fun into => Json.obj (insertAll _ into))
        (insert_comm hne _ _ _)
  | repeated front back key v w =>
      rw [normalize, normalize, normalizeMembers_eq_map, normalizeMembers_eq_map, List.map_append,
        List.map_append, insertAll_append, insertAll_append]
      exact congrArg (fun into => Json.obj (insertAll _ into))
        (insert_insert key _ _ _)

/-! ## A normal form has the value of its document -/

/-- A member may be moved in front of members with other keys. -/
theorem SameValue.moveFront (front : List (String × Json)) {m : String × Json}
    {passed : List (String × Json)} (h : ∀ q ∈ passed, q.1 ≠ m.1) (back : List (String × Json)) :
    SameValue (.obj (front ++ (passed ++ m :: back))) (.obj (front ++ m :: (passed ++ back))) := by
  induction passed generalizing front with
  | nil => exact .refl _
  | cons q passed ih =>
      have hq : q.1 ≠ m.1 := h q List.mem_cons_self
      have hinner := ih (front ++ [q]) fun r hr => h r (List.mem_cons_of_mem _ hr)
      rw [List.append_assoc, List.append_assoc] at hinner
      exact hinner.trans (.swap front (passed ++ back) q m hq)

/-- A further member of ascending members stands as well where it is inserted. -/
theorem SameValue.insert (front : List (String × Json)) (key : String) (v : Json)
    {members : List (String × Json)} (h : Ascending members) (back : List (String × Json)) :
    SameValue (.obj (front ++ (members ++ (key, v) :: back)))
      (.obj (front ++ (Json.insert key v members ++ back))) := by
  induction members generalizing front with
  | nil => exact .refl _
  | cons m rest ih =>
      obtain ⟨k, w⟩ := m
      rw [Json.insert]
      split
      · rename_i hlt
        refine .moveFront front (fun q hq => ?_) back
        rcases List.mem_cons.1 hq with rfl | hq
        · exact (String.ne_of_lt hlt).symm
        · exact (String.ne_of_lt (String.lt_trans hlt (h.head_lt q hq))).symm
      · split
        · rename_i heq
          subst heq
          have hmoved := SameValue.moveFront (front ++ [(key, w)]) (m := (key, v))
            (fun q hq => (String.ne_of_lt (h.head_lt q hq)).symm) back
          rw [List.append_assoc, List.append_assoc] at hmoved
          exact hmoved.trans (.repeated front (rest ++ back) key w v)
        · have hinner := ih (front ++ [(k, w)]) h.tail
          rw [List.append_assoc, List.append_assoc] at hinner
          exact hinner

theorem SameValue.insertAll (members : List (String × Json)) {into : List (String × Json)}
    (h : Ascending into) :
    SameValue (.obj (into ++ members)) (.obj (Json.insertAll members into)) := by
  induction members generalizing into with
  | nil =>
      rw [List.append_nil]
      exact .refl _
  | cons m rest ih =>
      have hfirst := SameValue.insert [] m.1 m.2 h rest
      exact hfirst.trans (ih (ascending_insert m.1 m.2 h))

mutual

theorem sameValue_normalize : (v : Json) → SameValue v v.normalize
  | .null | .bool _ | .num _ | .str _ => by
      rw [normalize]
      · exact .refl _
      all_goals nofun
  | .arr items => by
      rw [normalize]
      exact sameValue_normalizeItems [] items
  | .obj members => by
      rw [normalize]
      exact (sameValue_normalizeMembers [] members).trans (.insertAll _ ascending_nil)

theorem sameValue_normalizeItems : (front items : List Json) →
    SameValue (.arr (front ++ items)) (.arr (front ++ normalizeItems items))
  | front, [] => .refl _
  | front, v :: items => by
      have hfirst := SameValue.item front items (sameValue_normalize v)
      have hothers := sameValue_normalizeItems (front ++ [v.normalize]) items
      rw [List.append_assoc, List.append_assoc] at hothers
      exact hfirst.trans hothers

theorem sameValue_normalizeMembers : (front members : List (String × Json)) →
    SameValue (.obj (front ++ members)) (.obj (front ++ normalizeMembers members))
  | front, [] => .refl _
  | front, (k, v) :: members => by
      have hfirst := SameValue.member front members k (sameValue_normalize v)
      have hothers := sameValue_normalizeMembers (front ++ [(k, v.normalize)]) members
      rw [List.append_assoc, List.append_assoc] at hothers
      exact hfirst.trans hothers

end

/-- Documents have one normal form just if they have one value. -/
theorem normalize_eq_iff {v w : Json} : v.normalize = w.normalize ↔ SameValue v w := by
  constructor
  · intro h
    have hw := (sameValue_normalize w).symm
    rw [← h] at hw
    exact (sameValue_normalize v).trans hw
  · exact SameValue.normalize_eq

/-! ## Canonical text -/

variable {P : Number → Prop}

theorem eachNumberOfMembers_iff {members : List (String × Json)} :
    EachNumberOfMembers P members ↔ ∀ m ∈ members, m.2.EachNumber P := by
  induction members with
  | nil => simp [EachNumberOfMembers]
  | cons m members ih => rw [EachNumberOfMembers, ih, List.forall_mem_cons]

mutual

/-- A normal form has no numbers but those of its document. -/
theorem EachNumber.normalize : (v : Json) → v.EachNumber P → v.normalize.EachNumber P
  | .null, h | .bool _, h | .num _, h | .str _, h => by
      rw [Json.normalize]
      · exact h
      all_goals nofun
  | .arr items, h => by
      rw [Json.normalize]
      exact EachNumber.normalizeItems items h
  | .obj members, h => by
      rw [Json.normalize]
      refine eachNumberOfMembers_iff.2 fun m hm => ?_
      rcases mem_insertAll hm with hm | hm
      · exact eachNumberOfMembers_iff.1 (EachNumber.normalizeMembers members h) m hm
      · exact absurd hm List.not_mem_nil

theorem EachNumber.normalizeItems : (items : List Json) → EachNumberOfItems P items →
    EachNumberOfItems P (normalizeItems items)
  | [], h => h
  | v :: items, h => ⟨EachNumber.normalize v h.1, EachNumber.normalizeItems items h.2⟩

theorem EachNumber.normalizeMembers : (members : List (String × Json)) →
    EachNumberOfMembers P members → EachNumberOfMembers P (normalizeMembers members)
  | [], h => h
  | (_, v) :: members, h => ⟨EachNumber.normalize v h.1, EachNumber.normalizeMembers members h.2⟩

end

/-- Documents with one value have one canonical text. -/
theorem SameValue.canonical_eq {v w : Json} (h : SameValue v w) : v.canonical = w.canonical :=
  congrArg render h.normalize_eq

/-- Documents with one canonical text have one value. -/
theorem canonical_eq_iff (hP : Number.ToldApart P) {v w : Json} (hv : v.EachNumber P)
    (hw : w.EachNumber P) : v.canonical = w.canonical ↔ SameValue v w := by
  constructor
  · intro h
    exact normalize_eq_iff.1 (eq_of_render_eq hP (.normalize v hv) (.normalize w hw) h)
  · exact SameValue.canonical_eq

theorem canonical_ne_empty (v : Json) : v.canonical ≠ "" := by
  intro h
  have htext : String.ofList (textOf v.normalize.tokens) = String.ofList [] := h
  exact textOf_tokens_ne_nil _ (String.ofList_inj.1 htext)

/-- Bodies have one canonical text just if both are absent or both have one value. -/
theorem canonicalBody_eq_iff (hP : Number.ToldApart P) {a b : Option Json}
    (ha : ∀ v ∈ a, v.EachNumber P) (hb : ∀ v ∈ b, v.EachNumber P) :
    canonicalBody a = canonicalBody b ↔ Option.Rel SameValue a b := by
  cases a with
  | none =>
      cases b with
      | none => exact ⟨fun _ => .none, fun _ => rfl⟩
      | some w => exact ⟨fun h => absurd h.symm (canonical_ne_empty w), fun h => nomatch h⟩
  | some v =>
      cases b with
      | none => exact ⟨fun h => absurd h (canonical_ne_empty v), fun h => nomatch h⟩
      | some w =>
          rw [canonicalBody, canonicalBody, canonical_eq_iff hP (ha v rfl) (hb w rfl)]
          exact ⟨fun h => .some h, fun | .some h => h⟩

/-- Values are the same just if they are equal. -/
theorem sameValue_iff_eq {v w : Json} (hv : v.Normal) (hw : w.Normal) : SameValue v w ↔ v = w := by
  rw [← normalize_eq_iff, normalize_of_normal v hv, normalize_of_normal w hw]

end ApiGateway.Json
