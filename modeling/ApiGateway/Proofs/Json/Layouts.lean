import ApiGateway.Json.Fields
import ApiGateway.Json.Reader

/-! # Reading less of a text

A text that begins with an opening brace can only be an object. What a reader with fewer fields gets
of an object is what a reader with more of them gets, less the members that it did not ask for; so
the identifier of a record can be read without the rest of it.
-/

set_option autoImplicit false

namespace ApiGateway.Json

/-! ## Objects -/

/-- The outermost of the open containers is an object. -/
def ObjectBelow : List Frame → Prop
  | [] => False
  | .arr _ :: stack => ObjectBelow stack
  | .obj _ _ :: stack => stack = [] ∨ ObjectBelow stack

/-- The outermost container is an object, open or complete. -/
def ReadState.InObject : ReadState → Prop
  | .value stack _ => ObjectBelow stack
  | .key stack _ _ => stack = [] ∨ ObjectBelow stack
  | .colon stack _ _ => stack = [] ∨ ObjectBelow stack
  | .after stack v => (stack = [] ∧ ∃ members, v = .obj members) ∨ ObjectBelow stack

theorem ReadState.InObject.step {s s' : ReadState} {t : Token} (h : s.InObject)
    (hs : s.step t = some s') : s'.InObject := by
  unfold ReadState.step at hs
  split at hs <;> cases hs <;> simp_all [InObject, ObjectBelow]

theorem ReadState.InObject.run {s s' : ReadState} {ts : List Token} (h : s.InObject)
    (hs : s.run ts = some s') : s'.InObject := by
  induction ts generalizing s with
  | nil =>
      cases hs
      exact h
  | cons t ts ih =>
      rw [ReadState.run, Option.bind_eq_some_iff] at hs
      obtain ⟨s'', hstep, hrun⟩ := hs
      exact ih (h.step hstep) hrun

/-- A text that begins with an opening brace is an object, if it is anything. -/
theorem obj_of_lex_brace {cs : List Char} {ts : List Token} {v : Written}
    (hlex : lex ('\x7b' :: cs) = some ts) (hv : ofTokens? ts = some v) :
    ∃ members, v = .obj members := by
  have hts : ∃ us, ts = .beginObj :: us := by
    rw [lex, if_neg (by decide)] at hlex
    split at hlex
    · cases hlex
    · rename_i t rest hscan
      cases hscan
      obtain ⟨us, _, rfl⟩ := Option.map_eq_some_iff.1 hlex
      exact ⟨us, rfl⟩
  obtain ⟨us, rfl⟩ := hts
  have hstart : (ReadState.key [] [] true).InObject := Or.inl rfl
  unfold ofTokens? at hv
  split at hv
  · rename_i hrun
    cases hv
    rcases hstart.run hrun with ⟨_, hobj⟩ | hbelow
    · exact hobj
    · cases hbelow
  · cases hv

/-! ## Layouts -/

namespace Written

/-- A reader that asks for fewer members gets those of the members that it asks for. -/
theorem fitMembers?_of_le {fewer more : Layout} {room : Nat}
    (hle : ∀ key inner, fewer.member? key = some inner → more.member? key = some inner)
    {members : List (Option String × Written)} {js : List (String × Json)}
    (h : fitMembers? room more members = some js) :
    fitMembers? room fewer members = some (js.filter fun m => (fewer.member? m.1).isSome) := by
  induction members generalizing js with
  | nil =>
      cases h
      rfl
  | cons m rest ih =>
      obtain ⟨key, v⟩ := m
      cases key with
      | none => cases h
      | some key =>
          rw [fitMembers?] at h ⊢
          cases hfewer : fewer.member? key with
          | some inner =>
              rw [hle key inner hfewer] at h
              simp only [Option.bind_eq_bind, Option.bind_eq_some_iff] at h
              obtain ⟨j, hj, js', hjs', heq⟩ := h
              cases heq
              simp only [hj, ih hjs', List.filter_cons, hfewer]
              rfl
          | none =>
              cases hmore : more.member? key with
              | none =>
                  rw [hmore] at h
                  exact ih h
              | some inner =>
                  rw [hmore] at h
                  simp only [Option.bind_eq_bind, Option.bind_eq_some_iff] at h
                  obtain ⟨j, hj, js', hjs', heq⟩ := h
                  cases heq
                  simp only [ih hjs', List.filter_cons, hfewer]
                  rfl

/-- An object is what an object has of a layout. -/
theorem obj_of_fit? {layout : Layout} {v : Written} {members : List (String × Json)}
    (h : v.fit? maxDepth layout = some (.obj members)) :
    ∃ ms, v = .obj ms ∧ fitMembers? 126 layout ms = some members := by
  unfold maxDepth at h
  cases v with
  | null => cases h
  | bool b => cases h
  | num n => cases n <;> cases h
  | str s => cases s <;> cases h
  | arr items =>
      rw [fit?] at h
      obtain ⟨_, _, heq⟩ := Option.map_eq_some_iff.1 h
      cases heq
  | obj ms =>
      rw [fit?] at h
      obtain ⟨members', hmembers, heq⟩ := Option.map_eq_some_iff.1 h
      cases heq
      exact ⟨ms, rfl, hmembers⟩

/-- An array is what an array has of a layout. -/
theorem arr_of_fit? {layout : Layout} {v : Written} {items : List Json}
    (h : v.fit? maxDepth layout = some (.arr items)) :
    ∃ ws, v = .arr ws ∧ fitItems? 126 layout.items ws = some items := by
  unfold maxDepth at h
  cases v with
  | null => cases h
  | bool b => cases h
  | num n => cases n <;> cases h
  | str s => cases s <;> cases h
  | arr ws =>
      rw [fit?] at h
      obtain ⟨items', hitems, heq⟩ := Option.map_eq_some_iff.1 h
      cases heq
      exact ⟨ws, rfl, hitems⟩
  | obj ms =>
      rw [fit?] at h
      obtain ⟨_, _, heq⟩ := Option.map_eq_some_iff.1 h
      cases heq

/-- All items of an array are read. -/
theorem length_of_fitItems? {room : Nat} {layouts : List Layout} {ws : List Written}
    {items : List Json} (h : fitItems? room layouts ws = some items) :
    items.length = ws.length := by
  induction ws generalizing layouts items with
  | nil =>
      cases h
      rfl
  | cons w ws ih =>
      rw [fitItems?] at h
      simp only [Option.bind_eq_bind, Option.bind_eq_some_iff] at h
      obtain ⟨item, _, rest, hrest, heq⟩ := h
      cases heq
      rw [List.length_cons, List.length_cons, ih hrest]

end Written

/-- What a text that begins with a brace has of a layout is an object. -/
theorem obj_of_readFields {layout : Layout} {line : String} {j : Json}
    (hbrace : line.toList.head? = some '\x7b') (h : readFields layout line = some j) :
    ∃ members, j = .obj members := by
  obtain ⟨cs, hline⟩ := List.head?_eq_some_iff.1 hbrace
  unfold readFields at h
  simp only [Option.bind_eq_bind, Option.bind_eq_some_iff] at h
  obtain ⟨ts, hlex, v, hv, hfit⟩ := h
  rw [hline] at hlex
  obtain ⟨ms, rfl⟩ := obj_of_lex_brace hlex hv
  unfold maxDepth at hfit
  rw [Written.fit?] at hfit
  obtain ⟨members, _, heq⟩ := Option.map_eq_some_iff.1 hfit
  exact ⟨members, heq.symm⟩

/-- Where a text has an object for a layout, a reader that asks for fewer of its fields gets
those. -/
theorem readFields_of_le {fewer more : Layout} {line : String} {members : List (String × Json)}
    (hle : ∀ key inner, fewer.member? key = some inner → more.member? key = some inner)
    (h : readFields more line = some (.obj members)) :
    readFields fewer line =
      some (.obj (members.filter fun m => (fewer.member? m.1).isSome)) := by
  unfold readFields at h ⊢
  simp only [Option.bind_eq_bind, Option.bind_eq_some_iff] at h ⊢
  obtain ⟨ts, hlex, v, hv, hfit⟩ := h
  refine ⟨ts, hlex, v, hv, ?_⟩
  obtain ⟨ms, rfl, hmembers⟩ := Written.obj_of_fit? hfit
  unfold maxDepth
  rw [Written.fit?, Written.fitMembers?_of_le hle hmembers]
  rfl

/-- Where a text has an array for a layout, every reader that gets anything gets as many items. -/
theorem readFields_arr {layout other : Layout} {line : String} {items : List Json} {j : Json}
    (h : readFields layout line = some (.arr items)) (hj : readFields other line = some j) :
    ∃ items', j = .arr items' ∧ items'.length = items.length := by
  unfold readFields at h hj
  simp only [Option.bind_eq_bind, Option.bind_eq_some_iff] at h hj
  obtain ⟨ts, hlex, v, hv, hfit⟩ := h
  obtain ⟨ts', hlex', v', hv', hfit'⟩ := hj
  cases hlex.symm.trans hlex'
  cases hv.symm.trans hv'
  obtain ⟨ws, rfl, hitems⟩ := Written.arr_of_fit? hfit
  unfold maxDepth at hfit'
  rw [Written.fit?] at hfit'
  obtain ⟨items', hitems', rfl⟩ := Option.map_eq_some_iff.1 hfit'
  refine ⟨items', rfl, ?_⟩
  rw [Written.length_of_fitItems? hitems', Written.length_of_fitItems? hitems]

theorem isSome_member?_ofNames (names : List String) (inner : List (String × Layout))
    (key : String) : ((Layout.ofNames names inner).member? key).isSome = names.contains key := by
  unfold Layout.ofNames Layout.member?
  dsimp only
  induction names with
  | nil => rfl
  | cons name names ih =>
      rw [List.map_cons, List.lookup_cons, List.contains_cons]
      cases hkey : key == name with
      | true => rfl
      | false => exact ih

/-! ## Fields -/

theorem find?_filter {P : String → Bool} {key : String} (h : P key = true)
    (members : List (String × Json)) :
    find? key (members.filter fun m => P m.1) = find? key members := by
  induction members with
  | nil => rfl
  | cons m rest ih =>
      obtain ⟨k, v⟩ := m
      rw [List.filter_cons]
      by_cases hk : k = key
      · rw [if_pos (by rw [← h, ← hk]), find?, find?, if_pos hk, if_pos hk]
      · rw [find?, if_neg hk, ← ih]
        split
        · rw [find?, if_neg hk]
        · rfl

theorem distinctKeys_of_sublist {l l' : List (String × Json)} (h : l.Sublist l')
    (hl : distinctKeys l' = true) : distinctKeys l = true := by
  induction h with
  | slnil => rfl
  | cons a _ ih =>
      rw [distinctKeys, Bool.and_eq_true] at hl
      exact ih hl.2
  | cons_cons a hsub ih =>
      rw [distinctKeys, Bool.and_eq_true] at hl ⊢
      refine ⟨?_, ih hl.2⟩
      rw [Bool.not_eq_true', List.any_eq_false] at hl ⊢
      exact fun x hx => hl.1 x (hsub.subset hx)

/-- Fewer fields of a record are fields of the record. -/
theorem Fields.ofJson?_filter {names fewer : List String} {members : List (String × Json)}
    {f : Fields} (hsub : ∀ name ∈ fewer, name ∈ names)
    (h : Fields.ofJson? names (.obj members) = some f) :
    ∃ f', Fields.ofJson? fewer (.obj (members.filter fun m => fewer.contains m.1)) = some f' ∧
      ∀ name ∈ fewer, find? name f'.given = find? name f.given := by
  have hknown : members.filter (fun m => fewer.contains m.1) =
      (members.filter fun m => names.contains m.1).filter fun m => fewer.contains m.1 := by
    rw [List.filter_filter]
    refine List.filter_congr fun m _ => ?_
    by_cases hm : m.1 ∈ fewer
    · simp [hm, hsub m.1 hm]
    · simp [hm]
  unfold Fields.ofJson? at h
  dsimp only at h
  split at h
  · rename_i hdistinct
    cases h
    have hdistinct' : distinctKeys (members.filter fun m => fewer.contains m.1) = true := by
      rw [hknown]
      exact distinctKeys_of_sublist List.filter_sublist hdistinct
    refine ⟨⟨members.filter fun m => fewer.contains m.1⟩, ?_, fun name hname => ?_⟩
    · unfold Fields.ofJson?
      dsimp only
      rw [List.filter_filter]
      simp only [Bool.and_self]
      rw [if_pos hdistinct']
    · have hfewer : fewer.contains name = true := List.contains_iff_mem.2 hname
      have hnames : names.contains name = true := List.contains_iff_mem.2 (hsub name hname)
      exact (find?_filter (P := fun k => fewer.contains k) hfewer members).trans
        (find?_filter (P := fun k => names.contains k) hnames members).symm
  · cases h

end ApiGateway.Json
