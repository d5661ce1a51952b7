/-! # Keyed lists

A keyed list holds named values in the order in which the names first came. `put` gives a name a
value and leaves its place alone; `List.lookup` finds the value of a name.
-/

set_option autoImplicit false

namespace ApiGateway

/-- Named values in order. -/
abbrev Keyed (α : Type) := List (String × α)

namespace Keyed

variable {α : Type}

/-- Gives a name a value, in its place or at the end. -/
def put (name : String) (value : α) : Keyed α → Keyed α
  | [] => [(name, value)]
  | (n, v) :: rest => if n = name then (n, value) :: rest else (n, v) :: put name value rest

/-- Puts names and values one after another, so that of several values of one name the last one
stays, in the first one's place. -/
def ofPairs (pairs : List (String × α)) : Keyed α :=
  pairs.foldl (fun acc (name, value) => put name value acc) []

theorem lookup_put_self (name : String) (value : α) (k : Keyed α) :
    (put name value k).lookup name = some value := by
  induction k with
  | nil => simp [put]
  | cons p rest ih =>
    obtain ⟨n, v⟩ := p
    by_cases h : n = name
    · simp [put, h]
    · have h' : (name == n) = false := beq_eq_false_iff_ne.2 fun e => h e.symm
      simp [put, h, List.lookup_cons, h', ih]

end Keyed

end ApiGateway
