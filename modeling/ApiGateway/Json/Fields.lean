import ApiGateway.Keyed
import ApiGateway.Json.Basic

/-! # Reading typed parts out of a tree

A record is written as an object, or as the array of its fields in their order. `Fields.ofJson?`
collects what a tree gives for the fields of a record; `required` and `defaulted` then read one
field each. A field that is given twice, or an array with more items than there are fields, is no
record. The readers of single values refuse every tree of another kind: no text is read as a
number, and a float is no integer even where it has an integral value.
-/

set_option autoImplicit false

namespace ApiGateway.Json

/-! ## Single values -/

/-- A truth value. -/
def bool? : Json → Option Bool
  | .bool b => some b
  | _ => none

/-- A natural number up to `limit`. -/
def nat? (limit : Nat) : Json → Option Nat
  | .num (.int n) => if 0 ≤ n ∧ n ≤ limit then some n.toNat else none
  | _ => none

/-- A float; an integer stands for the nearest one. -/
def float? : Json → Option Float
  | .num n => some n.toFloat
  | _ => none

/-- The value of any tree. -/
def value? (j : Json) : Option Json := some j.normalize

/-- A value or null. -/
def nullable {α : Type} (read : Json → Option α) : Json → Option (Option α)
  | .null => some none
  | j => (read j).map some

/-- An array of values. -/
def listOf {α : Type} (read : Json → Option α) : Json → Option (List α)
  | .arr items => items.mapM read
  | _ => none

/-- An object of named values. -/
def keyedOf {α : Type} (read : Json → Option α) : Json → Option (Keyed α)
  | .obj members =>
    (members.mapM fun m : String × Json => (read m.2).map (m.1, ·)).map Keyed.ofPairs
  | _ => none

/-- An object of values of any kind, by ascending keys. -/
def members? : Json → Option (List (String × Json))
  | .obj members => some (insertAll (normalizeMembers members) [])
  | _ => none

/-- One name of a closed set of names: a string, or an object with null under the name. -/
def choice? : Json → Option String
  | .str s => some s
  | .obj [(s, .null)] => some s
  | _ => none

/-! ## Records -/

/-- What a tree gives for the fields of a record. -/
structure Fields where
  given : List (String × Json)

/-- No key occurs twice. -/
def distinctKeys : List (String × Json) → Bool
  | [] => true
  | (k, _) :: rest => !rest.any (·.1 == k) && distinctKeys rest

namespace Fields

/-- Collects the fields with the given names, listed in the order in which an array holds them.
Members with other names are ignored. -/
def ofJson? (names : List String) : Json → Option Fields
  | .obj members =>
    let known := members.filter fun (k, _) => names.contains k
    if distinctKeys known then some ⟨known⟩ else none
  | .arr items => if items.length ≤ names.length then some ⟨names.zip items⟩ else none
  | _ => none

/-- Reads a field that has to be given. -/
def required {α : Type} (f : Fields) (name : String) (read : Json → Option α) : Option α :=
  (Json.find? name f.given).bind read

/-- Reads a field that stands for `default` where it is not given. -/
def defaulted {α : Type} (f : Fields) (name : String) (default : α) (read : Json → Option α) :
    Option α :=
  match Json.find? name f.given with
  | none => some default
  | some j => read j

/-- Reads a field that may be null or not given at all. -/
def possible {α : Type} (f : Fields) (name : String) (read : Json → Option α) :
    Option (Option α) :=
  f.defaulted name none (nullable read)

end Fields

end ApiGateway.Json
