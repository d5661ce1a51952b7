import ApiGateway.Proofs.Failing
import ApiGateway.Proofs.Json.Canonical
import ApiGateway.Proofs.Path.Writing

/-! # Keys and conflicts of a target path

A path that is read begins with a key (`exists_key_of_parse`), and the place that it names has the
steps of its segments: to a member for a key, and to an item for a bracket.

A write makes objects, arrays and padding on its way before it knows what stands further down. It
never has to take them back: what it has made holds nothing but null, and nothing is in the way of a
write into null (`not_blocked_null`). A conflict is met only on a path that leads through what was
there before, where putting back what a slot holds changes nothing (`fill_child`). So a write that
meets a conflict leaves a value as it was (`write_of_blocked`).
-/

set_option autoImplicit false

namespace ApiGateway.Path

open Json (Step)

/-! ## Reading -/

theorem exists_key_of_groupSteps {group : List Char} {segments : List Segment}
    (h : groupSteps group = .ok segments) : ∃ name rest, segments = .key name :: rest := by
  unfold groupSteps at h
  dsimp only at h
  split at h
  · cases h
  · split at h
    · cases h
    · obtain ⟨steps, _, h⟩ := bind_eq_ok_iff.1 h
      cases h
      exact ⟨_, steps, rfl⟩

theorem exists_key_of_parse {text : String} {t : Target} (h : Target.parse text = .ok t) :
    ∃ name rest, t.segments = .key name :: rest := by
  unfold Target.parse at h
  dsimp only at h
  split at h
  · cases h
  · split at h
    · rename_i segments hsegments
      cases h
      -- a text has a first group, and a group begins with its name
      obtain ⟨group, groups, hgroups⟩ :=
        List.exists_cons_of_ne_nil (Text.splitOn_ne_nil '.' (Text.trim text).toList)
      rw [hgroups, groupsSteps] at hsegments
      obtain ⟨steps, hsteps, hsegments⟩ := bind_eq_ok_iff.1 hsegments
      obtain ⟨more, _, hsegments⟩ := bind_eq_ok_iff.1 hsegments
      cases hsegments
      obtain ⟨name, rest, rfl⟩ := exists_key_of_groupSteps hsteps
      exact ⟨name, rest ++ more, rfl⟩
    · cases h

/-! ## Places -/

theorem place_append (front back : List Segment) (root : Json) :
    ∃ inner, place (front ++ back) root = place front root ++ place back inner := by
  induction front generalizing root with
  | nil => exact ⟨root, rfl⟩
  | cons segment front ih =>
      cases segment with
      | key name | index position | append =>
          obtain ⟨inner, h⟩ := ih _
          exact ⟨inner, congrArg (List.cons _) h⟩

/-- Brackets lead to items. -/
theorem exists_item_of_mem_place {path : List Segment} (h : ∀ name, .key name ∉ path)
    (root : Json) : ∀ step ∈ place path root, ∃ position, step = .item position := by
  induction path generalizing root with
  | nil => exact fun _ hstep => nomatch hstep
  | cons segment path ih =>
      have hpath := ih fun name hname => h name (List.mem_cons_of_mem _ hname)
      cases segment with
      | key name => exact absurd List.mem_cons_self (h name)
      | index | append => exact List.forall_mem_cons.2 ⟨⟨_, rfl⟩, hpath _⟩

/-! ## Conflicts -/

/-- What stands in a slot of a normal value is normal. -/
theorem normal_child {segment : Segment} {root : Json} {slot : Slot}
    (h : segment.slot? root = some slot) (hroot : root.Normal) : slot.child.Normal := by
  rw [child_eq h]
  cases hchild : slot.step.child? root with
  | none => trivial
  | some child => exact hroot.child? slot.step hchild

/-- A normal value stays normal with a normal value in a slot. -/
theorem normal_fill {segment : Segment} {root : Json} {slot : Slot}
    (h : segment.slot? root = some slot) (hroot : root.Normal) {child : Json}
    (hchild : child.Normal) : (slot.fill child).Normal := by
  cases segment with
  | key name =>
      cases root <;> cases h
      · exact ⟨List.pairwise_singleton _ _, hchild, trivial⟩
      · exact hroot.insert name hchild
  | index position =>
      cases root <;> cases h
      · exact Json.normalItems_append.2 ⟨Json.normalItems_nulls position, hchild, trivial⟩
      · refine Json.normalItems_iff.2 fun v hv => ?_
        rcases List.mem_or_eq_of_mem_set hv with hv | rfl
        · exact Json.normalItems_iff.1
            (Json.normalItems_append.2 ⟨hroot, Json.normalItems_nulls _⟩) v hv
        · exact hchild
  | append =>
      cases root <;> cases h
      · exact ⟨hchild, trivial⟩
      · exact Json.normalItems_append.2 ⟨hroot, hchild, trivial⟩

/-- A slot that holds something but null was there before, and to put it back changes nothing. -/
theorem fill_child {segment : Segment} {root : Json} {slot : Slot}
    (h : segment.slot? root = some slot) (hroot : root.Normal) (hchild : slot.child ≠ .null) :
    slot.fill slot.child = root := by
  cases segment with
  | key name =>
      cases root <;> cases h
      · exact absurd rfl hchild
      · rename_i members
        dsimp only at hchild ⊢
        cases hfind : Json.find? name members with
        | none =>
            rw [hfind] at hchild
            exact absurd rfl hchild
        | some child =>
            rw [Option.getD_some, Json.insert_of_find?_eq_some hroot.1 hfind]
  | index position =>
      cases root <;> cases h
      · exact absurd rfl hchild
      · rename_i items
        dsimp only at hchild ⊢
        have hlt : position < items.length := by
          refine Nat.lt_of_not_le fun hle => hchild ?_
          rw [getD_padded, List.getD_eq_default _ _ hle]
        have hpadding : position + 1 - items.length = 0 := Nat.sub_eq_zero_of_le hlt
        rw [hpadding, List.replicate_zero, List.append_nil, List.getD_eq_getElem _ _ hlt,
          List.set_getElem_self]
  | append => cases root <;> cases h <;> exact absurd rfl hchild

/-- A write that meets a conflict leaves a normal value as it is. -/
theorem write_of_blocked {path : List Segment} {root : Json} (hroot : root.Normal)
    (h : Blocked path root) (value : Json) : write path root value = (root, false) := by
  induction path generalizing root with
  | nil =>
      cases root with
      | null => exact absurd rfl h
      | _ => rfl
  | cons segment path ih =>
      rw [write_cons]
      cases hslot : segment.slot? root with
      | none => rfl
      | some slot =>
          rw [blocked_cons hslot] at h
          -- the conflict is further down, so the slot holds more than null
          have hchild : slot.child ≠ .null := by
            intro hnull
            rw [hnull] at h
            exact not_blocked_null path h
          dsimp only
          rw [ih (normal_child hslot hroot) h, fill_child hslot hroot hchild]

/-- Writing keeps values normal. -/
theorem normal_write (path : List Segment) {root value : Json} (hroot : root.Normal)
    (hvalue : value.Normal) : (write path root value).1.Normal := by
  induction path generalizing root with
  | nil =>
      cases root with
      | null => exact hvalue
      | _ => exact hroot
  | cons segment path ih =>
      rw [write_cons]
      cases hslot : segment.slot? root with
      | none => exact hroot
      | some slot => exact normal_fill hslot hroot (ih (normal_child hslot hroot))

end ApiGateway.Path
