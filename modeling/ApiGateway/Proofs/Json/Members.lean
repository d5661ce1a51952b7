import ApiGateway.Proofs.Json.Reading
import ApiGateway.Proofs.Json.Values
import Mathlib.Data.List.Dedup
import Mathlib.Data.List.Perm.Basic

/-! # Members of objects

Once the first member of an object that is read is complete, it stays the first one, whatever else
the text holds (`ReadState.Begins.run`). So it is known even if the rest of the text does not read
back.

An object that members are inserted into, one after another, has each of their keys once
(`keys_insertAll_perm`), with the value of the last member under it (`mem_insertAll_of_last`). Only
where the keys differ are its members just those that were given (`insertAll_perm`).
-/

set_option autoImplicit false

namespace ApiGateway.Json

/-! ## The first member that is read -/

section First

variable {m : Option String × Written}

/-- The outermost of the open containers is an object with a first member. -/
def FirstBelow (m : Option String × Written) : List Frame → Prop
  | [] => False
  | .arr _ :: stack => FirstBelow m stack
  | .obj done _ :: stack => (stack = [] ∧ done.getLast? = some m) ∨ FirstBelow m stack

/-- The outermost container is an object with a first member, open or complete. -/
def ReadState.Begins (m : Option String × Written) : ReadState → Prop
  | .value stack _ => FirstBelow m stack
  | .key stack done mayClose =>
    (stack = [] ∧ done.getLast? = some m ∧ mayClose = false) ∨ FirstBelow m stack
  | .colon stack done _ => (stack = [] ∧ done.getLast? = some m) ∨ FirstBelow m stack
  | .after stack v => (stack = [] ∧ ∃ ms, v = .obj (m :: ms)) ∨ FirstBelow m stack

theorem reverse_eq_cons_of_getLast? {α : Type} {as : List α} {a : α} (h : as.getLast? = some a) :
    ∃ rest, as.reverse = a :: rest := by
  obtain ⟨front, rfl⟩ := List.getLast?_eq_some_iff.1 h
  exact ⟨front.reverse, by simp⟩

/-- A complete member comes in front of those that are done, of which the first is the last. -/
theorem getLast?_cons_of_eq_some {α : Type} {as : List α} {a : α} (h : as.getLast? = some a)
    (b : α) : (b :: as).getLast? = some a := by
  rw [List.getLast?_cons, h, Option.getD_some]

theorem ReadState.Begins.step {s s' : ReadState} {t : Token} (h : s.Begins m)
    (hs : s.step t = some s') : s'.Begins m := by
  unfold ReadState.step at hs
  split at hs <;> cases hs
  case h_10 | h_11 => exact h.imp_left fun h => ⟨h.1, h.2.1⟩
  case h_16 done key stack v =>
    have hbelow : FirstBelow m (.obj done key :: stack) := by simpa [Begins] using h
    rcases hbelow with ⟨rfl, hlast⟩ | hbelow
    · exact Or.inl ⟨rfl, getLast?_cons_of_eq_some hlast _, rfl⟩
    · exact Or.inr hbelow
  case h_17 done key stack v =>
    have hbelow : FirstBelow m (.obj done key :: stack) := by simpa [Begins] using h
    rcases hbelow with ⟨rfl, hlast⟩ | hbelow
    · exact Or.inl ⟨rfl, _, congrArg Written.obj
        (reverse_eq_cons_of_getLast? (getLast?_cons_of_eq_some hlast _)).choose_spec⟩
    · exact Or.inr hbelow
  all_goals simp_all [Begins, FirstBelow]

theorem ReadState.Begins.run {s s' : ReadState} {ts : List Token} (h : s.Begins m)
    (hs : s.run ts = some s') : s'.Begins m := by
  induction ts generalizing s with
  | nil =>
      cases hs
      exact h
  | cons t ts ih =>
      obtain ⟨s₁, hstep, hrun⟩ := Option.bind_eq_some_iff.1 hs
      exact ih (h.step hstep) hrun

/-- An object that begins with a member of a text has this member first. -/
theorem ofTokens?_first {k t : String} {ts : List Token} {v : Written}
    (h : ofTokens? (.beginObj :: .str k :: .colon :: .str t :: .comma :: ts) = some v) :
    ∃ ms, v = .obj ((some k, .str (some t)) :: ms) := by
  have hstart : (ReadState.key [] [(some k, .str (some t))] false).Begins
      (some k, .str (some t)) := Or.inl ⟨rfl, rfl, rfl⟩
  unfold ofTokens? at h
  split at h
  · rename_i hrun
    cases h
    rcases hstart.run hrun with ⟨_, hobj⟩ | hbelow
    · exact hobj
    · cases hbelow
  · cases h

/-- What is read of a text that begins with a member has this member first, if it is asked for. -/
theorem readFields_first {layout : Layout} {k t : String} {rest : List Char} {j : Json}
    (hkey : layout.member? k = some .whole)
    (h : readFields layout (String.ofList (textOf [.beginObj, .str k, .colon, .str t, .comma] ++
      rest)) = some j) : ∃ members, j = .obj ((k, .str t) :: members) := by
  have hlex : Lexes [.beginObj, .str k, .colon, .str t, .comma] rest :=
    lexes_cons (Token.reads_beginObj _) (lexes_cons (Token.reads_str k _)
      (lexes_cons (Token.reads_colon _) (lexes_cons (Token.reads_str t _)
        (lexes_cons (Token.reads_comma _) (lexes_nil rest)))))
  unfold readFields at h
  simp only [String.toList_ofList, Option.bind_eq_bind] at h
  obtain ⟨ts, hts, h⟩ := Option.bind_eq_some_iff.1 h
  obtain ⟨v, hv, hfit⟩ := Option.bind_eq_some_iff.1 h
  rw [hlex] at hts
  obtain ⟨us, _, rfl⟩ := Option.map_eq_some_iff.1 hts
  obtain ⟨ms, rfl⟩ := ofTokens?_first hv
  unfold maxDepth at hfit
  rw [Written.fit?] at hfit
  obtain ⟨members, hmembers, rfl⟩ := Option.map_eq_some_iff.1 hfit
  rw [Written.fitMembers?, hkey] at hmembers
  obtain ⟨w, hw, hmembers⟩ := Option.bind_eq_some_iff.1 hmembers
  obtain ⟨others, _, heq⟩ := Option.bind_eq_some_iff.1 hmembers
  cases hw
  cases heq
  exact ⟨others, rfl⟩

end First

/-! ## Members that are put together -/

open scoped List

variable {key : String} {value : Json} {members into : List (String × Json)}

theorem mem_insert_self : (key, value) ∈ insert key value members :=
  mem_of_find?_eq_some (find?_insert_self _ _ _)

theorem mem_insert_of_ne {p : String × Json} (hne : p.1 ≠ key) (h : p ∈ members) :
    p ∈ insert key value members := by
  induction members with
  | nil => cases h
  | cons q rest ih =>
      obtain ⟨k, v⟩ := q
      unfold insert
      split
      · exact List.mem_cons_of_mem _ h
      · rcases List.mem_cons.1 h with rfl | h
        · rw [if_neg (Ne.symm hne)]
          exact List.mem_cons_self
        · split
          · exact List.mem_cons_of_mem _ h
          · exact List.mem_cons_of_mem _ (ih h)

theorem mem_insertAll_of_ne {p : String × Json} (hne : ∀ q ∈ members, p.1 ≠ q.1) (h : p ∈ into) :
    p ∈ insertAll members into := by
  induction members generalizing into with
  | nil => exact h
  | cons q rest ih =>
      exact ih (fun r hr => hne r (List.mem_cons_of_mem _ hr))
        (mem_insert_of_ne (hne q List.mem_cons_self) h)

/-- Of several members with one key the last is in the object. -/
theorem mem_insertAll_of_last {before after : List (String × Json)} {k : String} {v : Json}
    (hlast : ∀ q ∈ after, k ≠ q.1) : (k, v) ∈ insertAll (before ++ (k, v) :: after) into := by
  unfold insertAll
  rw [List.foldl_append, List.foldl_cons]
  exact mem_insertAll_of_ne hlast mem_insert_self

theorem mem_keys_insertAll {k : String} :
    k ∈ (insertAll members into).map (·.1) ↔ k ∈ members.map (·.1) ∨ k ∈ into.map (·.1) := by
  induction members generalizing into with
  | nil => simp [insertAll]
  | cons q rest ih =>
      show k ∈ (insertAll rest (insert q.1 q.2 into)).map (·.1) ↔ _
      rw [ih, mem_keys_insert, List.map_cons, List.mem_cons, or_assoc, or_left_comm]

theorem nodup_keys_insertAll (members : List (String × Json)) :
    ((insertAll members []).map (·.1)).Nodup := by
  have hascending : Ascending (insertAll members []) :=
    ascending_insertAll members List.Pairwise.nil
  exact hascending.imp String.ne_of_lt

/-- An object has each key once. -/
theorem keys_insertAll_perm (members : List (String × Json)) :
    ((insertAll members []).map (·.1)).Perm (members.map (·.1)).dedup := by
  rw [List.perm_ext_iff_of_nodup (nodup_keys_insertAll members) (List.nodup_dedup _)]
  intro k
  rw [mem_keys_insertAll, List.mem_dedup]
  exact or_iff_left List.not_mem_nil

theorem insert_perm (h : key ∉ members.map (·.1)) :
    (insert key value members).Perm ((key, value) :: members) := by
  induction members with
  | nil => exact .refl _
  | cons q rest ih =>
      obtain ⟨k, v⟩ := q
      rw [List.map_cons, List.mem_cons, not_or] at h
      unfold insert
      rw [if_neg h.1]
      split
      · exact .refl _
      · exact ((ih h.2).cons _).trans (.swap _ _ _)

/-- Members with different keys are the members of their object. -/
theorem insertAll_perm (h : (members.map (·.1)).Nodup) : (insertAll members []).Perm members := by
  suffices hgeneral : ∀ into : List (String × Json), (members.map (·.1)).Disjoint (into.map (·.1)) →
      (insertAll members into).Perm (members ++ into) by
    have hperm := hgeneral [] (List.disjoint_nil_right _)
    rwa [List.append_nil] at hperm
  induction members with
  | nil => exact fun into _ => .refl _
  | cons q rest ih =>
      obtain ⟨k, v⟩ := q
      obtain ⟨hk, hrest⟩ := List.nodup_cons.1 h
      intro into hdisjoint
      obtain ⟨hinto, hdisjoint⟩ := List.disjoint_cons_left.1 hdisjoint
      have hnext : (rest.map (·.1)).Disjoint ((insert k v into).map (·.1)) := by
        intro l hl hl'
        rcases mem_keys_insert.1 hl' with rfl | hl'
        · exact hk hl
        · exact hdisjoint hl hl'
      calc insertAll rest (insert k v into)
        _ ~ rest ++ insert k v into := ih hrest _ hnext
        _ ~ rest ++ (k, v) :: into := (insert_perm hinto).append_left rest
        _ ~ (k, v) :: rest ++ into := List.perm_middle

end ApiGateway.Json
