import ApiGateway.Headers
import Mathlib.Data.List.Pairwise

/-! # Headers as a map that ignores case

Headers are `Apart` if no two names are equal up to case; each name then has one header
(`Apart.named_eq`). Setting a header keeps this, leaves one header of its name, and does
not touch the headers of other names.
-/

set_option autoImplicit false

namespace ApiGateway.Headers

/-- No two names are equal, even if case is ignored. -/
def Apart (headers : Headers) : Prop :=
  headers.Pairwise fun h k => Text.equalIgnoringCase h.1 k.1 = false

/-- The headers of a name, in any case. -/
def named (name : String) (headers : Headers) : Headers :=
  headers.filter fun h => Text.equalIgnoringCase h.1 name

theorem equalIgnoringCase_self (name : String) : Text.equalIgnoringCase name name = true :=
  (Text.equalIgnoringCase_iff _ _).2 rfl

theorem equalIgnoringCase_comm (a b : String) :
    Text.equalIgnoringCase a b = Text.equalIgnoringCase b a := by
  rw [Bool.eq_iff_iff, Text.equalIgnoringCase_iff, Text.equalIgnoringCase_iff, eq_comm]

theorem equalIgnoringCase_eq_false_iff {a b : String} :
    Text.equalIgnoringCase a b = false ↔ Text.asciiLower a ≠ Text.asciiLower b := by
  rw [← Bool.not_eq_true, Text.equalIgnoringCase_iff]

variable {headers : Headers} {name other value : String}

theorem apart_iff_nodup :
    headers.Apart ↔ (headers.map fun h => Text.asciiLower h.1).Nodup := by
  unfold Apart
  simp only [equalIgnoringCase_eq_false_iff]
  exact List.pairwise_map.symm

/-- Each name of headers that are apart has one header. -/
theorem Apart.named_eq (h : headers.Apart) (hmem : (name, value) ∈ headers) :
    headers.named name = [(name, value)] := by
  unfold named
  induction headers with
  | nil => cases hmem
  | cons q headers ih =>
      obtain ⟨hq, hrest⟩ := List.pairwise_cons.1 h
      rcases List.mem_cons.1 hmem with rfl | hmem
      · -- no name behind is equal to that of the first
        have hnone : headers.filter (fun h => Text.equalIgnoringCase h.1 name) = [] := by
          refine List.filter_eq_nil_iff.2 fun k hk => ?_
          rw [equalIgnoringCase_comm, hq k hk]
          exact Bool.false_ne_true
        simp [hnone, equalIgnoringCase_self]
      · have hother : Text.equalIgnoringCase q.1 name = false := hq (name, value) hmem
        simp [hother, ih hrest hmem]

theorem mem_set {q : String × String} :
    q ∈ headers.set name value ↔
      (q ∈ headers ∧ Text.equalIgnoringCase q.1 name = false) ∨ q = (name, value) := by
  simp [set]

theorem named_set (name value : String) (headers : Headers) :
    (headers.set name value).named name = [(name, value)] := by
  unfold named set
  rw [List.filter_append, List.filter_filter]
  simp [equalIgnoringCase_self]

theorem named_set_of_ne (h : Text.equalIgnoringCase other name = false) :
    (headers.set name value).named other = headers.named other := by
  have hlast : Text.equalIgnoringCase name other = false := by rw [equalIgnoringCase_comm, h]
  unfold named set
  rw [List.filter_append, List.filter_filter, List.filter_cons_of_neg (by simp [hlast]),
    List.filter_nil, List.append_nil]
  refine List.filter_congr fun q _ => ?_
  rw [equalIgnoringCase_eq_false_iff] at h
  cases hq : Text.equalIgnoringCase q.1 other with
  | false => rfl
  | true =>
      have hne : Text.equalIgnoringCase q.1 name = false := by
        rw [equalIgnoringCase_eq_false_iff, (Text.equalIgnoringCase_iff _ _).1 hq]
        exact h
      simp [hne]

theorem Apart.set (h : headers.Apart) (name value : String) : (headers.set name value).Apart := by
  unfold Apart Headers.set at *
  rw [List.pairwise_append]
  refine ⟨h.filter _, List.pairwise_singleton _ _, fun q hq k hk => ?_⟩
  rw [List.mem_singleton.1 hk]
  simpa using (List.mem_filter.1 hq).2

end ApiGateway.Headers
