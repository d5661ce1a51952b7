import ApiGateway.Json.Number

/-! # JSON values

`Json` holds the members of an object as a list, in the order of some document. Two views of
objects matter to the gateway. A *document* keeps its members as they were written, repeated keys
included; decoders of records read documents. A *value* is normal: in every object the keys ascend
strictly, which leaves one representation for each set of members. `normalize` turns a document
into a value, the last of several members with one key winning, and `insert` keeps a member list
ascending.
-/

set_option autoImplicit false

namespace ApiGateway

/-- A JSON tree. -/
inductive Json where
  | null
  | bool (value : Bool)
  | num (value : Json.Number)
  | str (value : String)
  | arr (items : List Json)
  | obj (members : List (String × Json))
  deriving Inhabited

namespace Json

/-- An integer as a JSON number. -/
def int (n : Int) : Json := .num (.int n)

/-- A natural number as a JSON number. -/
def nat (n : Nat) : Json := .num (.int n)

/-! ## Equality -/

mutual

/-- Whether two trees are the same. -/
def beq : Json → Json → Bool
  | .null, .null => true
  | .bool a, .bool b => a == b
  | .num a, .num b => a == b
  | .str a, .str b => a == b
  | .arr a, .arr b => beqItems a b
  | .obj a, .obj b => beqMembers a b
  | _, _ => false

@[inherit_doc beq]
def beqItems : List Json → List Json → Bool
  | [], [] => true
  | a :: as, b :: bs => beq a b && beqItems as bs
  | _, _ => false

@[inherit_doc beq]
def beqMembers : List (String × Json) → List (String × Json) → Bool
  | [], [] => true
  | (k, a) :: as, (l, b) :: bs => k == l && beq a b && beqMembers as bs
  | _, _ => false

end

mutual

theorem beq_iff_eq : (a b : Json) → (beq a b = true ↔ a = b)
  | .null, b => by cases b <;> simp [beq]
  | .bool _, b => by cases b <;> simp [beq]
  | .num _, b => by cases b <;> simp [beq]
  | .str _, b => by cases b <;> simp [beq]
  | .arr a, b => by
    cases b with
    | arr b => simp [beq, beqItems_iff_eq a b]
    | _ => simp [beq]
  | .obj a, b => by
    cases b with
    | obj b => simp [beq, beqMembers_iff_eq a b]
    | _ => simp [beq]

theorem beqItems_iff_eq : (as bs : List Json) → (beqItems as bs = true ↔ as = bs)
  | [], bs => by cases bs <;> simp [beqItems]
  | a :: as, bs => by
    cases bs with
    | nil => simp [beqItems]
    | cons b bs => simp [beqItems, beq_iff_eq a b, beqItems_iff_eq as bs]

theorem beqMembers_iff_eq :
    (as bs : List (String × Json)) → (beqMembers as bs = true ↔ as = bs)
  | [], bs => by cases bs <;> simp [beqMembers]
  | (k, a) :: as, bs => by
    cases bs with
    | nil => simp [beqMembers]
    | cons b bs =>
      simp [beqMembers, beq_iff_eq a b.2, beqMembers_iff_eq as bs, Prod.ext_iff, and_assoc]

end

instance : DecidableEq Json := fun a b =>
  if h : beq a b = true then isTrue ((beq_iff_eq a b).1 h)
  else isFalse fun e => h ((beq_iff_eq a b).2 e)

/-! ## Objects -/

/-- Puts a member into an ascending member list, in place of one with the same key. -/
def insert (key : String) (value : Json) : List (String × Json) → List (String × Json)
  | [] => [(key, value)]
  | (k, v) :: rest =>
    if key < k then (key, value) :: (k, v) :: rest
    else if key = k then (key, value) :: rest
    else (k, v) :: insert key value rest

/-- Inserts members one after another; of members with one key the last stays. -/
def insertAll (members into : List (String × Json)) : List (String × Json) :=
  members.foldl (fun acc (k, v) => insert k v acc) into

/-- The object with the given members, given in any order. -/
def ofMembers (members : List (String × Json)) : Json := .obj (insertAll members [])

/-- The value of the first member with the key. -/
def find? (key : String) : List (String × Json) → Option Json
  | [] => none
  | (k, v) :: rest => if k = key then some v else find? key rest

/-- The value that an object has under a key. -/
def get? (key : String) : Json → Option Json
  | .obj members => find? key members
  | _ => none

/-- The keys of a member list ascend strictly. -/
def Ascending (members : List (String × Json)) : Prop := (members.map (·.1)).Pairwise (· < ·)

mutual

/-- A tree whose objects all have strictly ascending keys. -/
def Normal : Json → Prop
  | .arr items => NormalItems items
  | .obj members => Ascending members ∧ NormalMembers members
  | _ => True

/-- Every item is normal. -/
def NormalItems : List Json → Prop
  | [] => True
  | v :: vs => Normal v ∧ NormalItems vs

/-- Every member is normal. -/
def NormalMembers : List (String × Json) → Prop
  | [] => True
  | (_, v) :: rest => Normal v ∧ NormalMembers rest

end

mutual

/-- The value of a document: the members of each object in ascending order, the last of several
with one key. -/
def normalize : Json → Json
  | .arr items => .arr (normalizeItems items)
  | .obj members => .obj (insertAll (normalizeMembers members) [])
  | v => v

@[inherit_doc normalize]
def normalizeItems : List Json → List Json
  | [] => []
  | v :: vs => normalize v :: normalizeItems vs

@[inherit_doc normalize]
def normalizeMembers : List (String × Json) → List (String × Json)
  | [] => []
  | (k, v) :: rest => (k, normalize v) :: normalizeMembers rest

end

/-! ## Readings of values -/

/-- The name of the kind of a value, as messages write it. -/
def kind : Json → String
  | .null => "null"
  | .bool _ => "boolean"
  | .num _ => "number"
  | .str _ => "string"
  | .arr _ => "array"
  | .obj _ => "object"

/-- The text of a string value. -/
def string? : Json → Option String
  | .str s => some s
  | _ => none

/-- The items of an array. -/
def items? : Json → Option (List Json)
  | .arr items => some items
  | _ => none

end Json

end ApiGateway
