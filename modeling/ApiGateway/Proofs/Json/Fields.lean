import ApiGateway.Record.Document
import ApiGateway.Proofs.Json.Values

/-! # Fields of written records

A record is written member by member, and a part that is absent is left out. `givenMembers` is the
list of members that comes of it: what stands under a name in it is the part of that name
(`find?_givenMembers`), and a reader that knows the names takes it as a record
(`Fields.ofJson?_givenMembers`).
-/

set_option autoImplicit false

namespace ApiGateway.Json

/-! ## Null and absence -/

/-- A value that may be absent, where null counts as absent. -/
def present (v : Option Json) : Option Json := v.filter (· != .null)

theorem present_some {j : Json} (h : j ≠ .null) : present (some j) = some j :=
  Option.filter_some_pos (by simpa using h)

theorem present_eq_self_iff {v : Option Json} :
    present v = v ↔ ∀ j, v = some j → j ≠ .null := by
  constructor
  · rintro h j rfl rfl
    cases h
  · intro h
    cases v with
    | none => rfl
    | some j => exact present_some (h j rfl)

/-! ## Members -/

/-- The parts of a record under their names, less those that are absent. -/
def givenMembers (parts : List (String × Option Json)) : List (String × Json) :=
  parts.filterMap fun (name, v) => v.map (name, ·)

theorem givenMembers_cons_some (name : String) (v : Json) (parts : List (String × Option Json)) :
    givenMembers ((name, some v) :: parts) = (name, v) :: givenMembers parts := rfl

theorem givenMembers_cons_map {α : Type} (name : String) (write : α → Json) (v : Option α)
    (parts : List (String × Option Json)) :
    givenMembers ((name, v.map write) :: parts) = member? name write v ++ givenMembers parts := by
  cases v <;> rfl

theorem forall_mem_givenMembers {parts : List (String × Option Json)} {P : String × Json → Prop} :
    (∀ p ∈ givenMembers parts, P p) ↔ ∀ p ∈ parts, ∀ v, p.2 = some v → P (p.1, v) := by
  constructor
  · rintro h ⟨name, _⟩ hp v rfl
    exact h _ (List.mem_filterMap.2 ⟨(name, some v), hp, rfl⟩)
  · rintro h q hq
    obtain ⟨⟨name, v⟩, hp, hv⟩ := List.mem_filterMap.1 hq
    obtain ⟨j, rfl, rfl⟩ := Option.map_eq_some_iff.1 hv
    exact h _ hp j rfl

theorem names_givenMembers (parts : List (String × Option Json)) :
    ((givenMembers parts).map (·.1)).Sublist (parts.map (·.1)) := by
  induction parts with
  | nil => exact List.Sublist.refl _
  | cons p parts ih =>
      obtain ⟨name, v⟩ := p
      cases v with
      | none => exact ih.cons name
      | some v => exact ih.cons_cons name

/-- Under a name stands the part of that name. -/
theorem find?_givenMembers {parts : List (String × Option Json)} (h : (parts.map (·.1)).Nodup)
    (key : String) : find? key (givenMembers parts) = (parts.lookup key).join := by
  induction parts with
  | nil => rfl
  | cons p parts ih =>
      obtain ⟨name, v⟩ := p
      obtain ⟨hname, hparts⟩ := List.nodup_cons.1 h
      have hfresh : name ∉ (givenMembers parts).map (·.1) :=
        fun hmem => hname ((names_givenMembers parts).subset hmem)
      by_cases hkey : key = name
      · subst hkey
        rw [List.lookup_cons_self]
        cases v with
        | none => exact find?_eq_none_of_not_mem hfresh
        | some v => exact if_pos rfl
      · rw [List.lookup_cons, beq_false_of_ne hkey, ← ih hparts]
        cases v with
        | none => rfl
        | some v => exact if_neg (Ne.symm hkey)

theorem distinctKeys_of_nodup {members : List (String × Json)}
    (h : (members.map (·.1)).Nodup) : distinctKeys members = true := by
  induction members with
  | nil => rfl
  | cons p rest ih =>
      obtain ⟨k, v⟩ := p
      obtain ⟨hk, hrest⟩ := List.nodup_cons.1 h
      have hany : rest.any (·.1 == k) = false := by
        rw [List.any_eq_false]
        intro q hq hqk
        exact hk (List.mem_map.2 ⟨q, hq, eq_of_beq hqk⟩)
      rw [distinctKeys, hany, ih hrest]
      rfl

namespace Fields

theorem nullable_of_ne_null {α : Type} {read : Json → Option α} {j : Json} (h : j ≠ .null) :
    nullable read j = (read j).map some := by
  cases j with
  | null => exact absurd rfl h
  | _ => rfl

/-- The fields that a reader finds in a record with these parts. -/
def ofParts (parts : List (String × Option Json)) : Fields := ⟨givenMembers parts⟩

variable {parts : List (String × Option Json)} (hdistinct : (parts.map (·.1)).Nodup)
include hdistinct

/-- The parts of a record, under the names that the reader knows, are a record. -/
theorem ofJson?_givenMembers {names : List String} (h : parts.map (·.1) = names) :
    ofJson? names (.obj (givenMembers parts)) = some (ofParts parts) := by
  have hknown : (givenMembers parts).filter (fun p => names.contains p.1) = givenMembers parts :=
    List.filter_eq_self.2 fun p hp =>
      List.contains_iff_mem.2
        (h ▸ (names_givenMembers parts).subset (List.mem_map.2 ⟨p, hp, rfl⟩))
  show (if distinctKeys ((givenMembers parts).filter fun p => names.contains p.1) then _ else _) = _
  rw [hknown, if_pos (distinctKeys_of_nodup (hdistinct.sublist (names_givenMembers parts)))]
  rfl

/-! ### Reading one part -/

variable {α β : Type} {name : String}

theorem required_ofParts {read : Json → Option α} {j : Json} {v : α}
    (hlookup : parts.lookup name = some (some j)) (hread : read j = some v) :
    (ofParts parts).required name read = some v := by
  rw [required, ofParts, find?_givenMembers hdistinct, hlookup]
  exact hread

theorem defaulted_ofParts {read : Json → Option α} {v : Option Json} {default value : α}
    (hlookup : parts.lookup name = some v) (habsent : v = none → value = default)
    (hread : ∀ j, v = some j → read j = some value) :
    (ofParts parts).defaulted name default read = some value := by
  rw [defaulted, ofParts, find?_givenMembers hdistinct, hlookup]
  cases v with
  | none => exact congrArg some (habsent rfl).symm
  | some j => exact hread j rfl

/-- A part that is never written as null is read as one part is read. -/
theorem possible_ofParts_map {write : α → Json} {read : Json → Option β} {g : α → β} {v : Option α}
    (hlookup : parts.lookup name = some (v.map write))
    (hread : ∀ a, v = some a → write a ≠ .null ∧ read (write a) = some (g a)) :
    (ofParts parts).possible name read = some (v.map g) := by
  unfold possible defaulted ofParts
  rw [find?_givenMembers hdistinct, hlookup]
  cases v with
  | none => rfl
  | some a =>
      obtain ⟨hne, ha⟩ := hread a rfl
      show nullable read (write a) = _
      rw [nullable_of_ne_null hne, ha]
      rfl

/-- A part that is never written as null is read as it was. -/
theorem possible_ofParts {write : α → Json} {read : Json → Option α} {v : Option α}
    (hlookup : parts.lookup name = some (v.map write))
    (hread : ∀ a, v = some a → write a ≠ .null ∧ read (write a) = some a) :
    (ofParts parts).possible name read = some v := by
  have hmap := possible_ofParts_map hdistinct hlookup (g := fun a => a) hread
  rwa [Option.map_id'] at hmap

/-- A value is read as it was, unless it is null: then it is read as absent. -/
theorem possible_value?_ofParts {v : Option Json} (hlookup : parts.lookup name = some v)
    (hnormal : ∀ j, v = some j → j.Normal) :
    (ofParts parts).possible name value? = some (present v) := by
  unfold possible defaulted ofParts
  rw [find?_givenMembers hdistinct, hlookup]
  cases v with
  | none => rfl
  | some j =>
      show nullable value? j = _
      by_cases hnull : j = .null
      · subst hnull
        rfl
      · rw [nullable_of_ne_null hnull, value?, normalize_of_normal j (hnormal j rfl),
          present_some hnull]
        rfl

end Fields

end ApiGateway.Json
