import ApiGateway.Json.Basic

/-! # Trees as written

A text can write more than values: numbers beyond the floats, and strings in which half of a
surrogate pair stands alone. `Written` is the tree of a text with these in it, and `Written.fit?`
is the document that it stands for. A `Layout` names the members that a reader asks for; all
others are left out, whatever they hold and however deep they go.
-/

set_option autoImplicit false

namespace ApiGateway.Json

/-- A tree as a text writes it. A number, a string or a key that stands for nothing is `none`. -/
inductive Written where
  | null
  | bool (value : Bool)
  | num (value : Option Number)
  | str (value : Option String)
  | arr (items : List Written)
  | obj (members : List (Option String × Written))

/-- What a reader asks for in a tree. -/
inductive Layout where
  /-- All of it. -/
  | whole
  /-- Of an object the members with these names, of an array the items at their places. -/
  | record (fields : List (String × Layout))

namespace Layout

/-- The layout of a record whose fields are read as a whole, apart from `inner` ones. -/
def ofNames (names : List String) (inner : List (String × Layout)) : Layout :=
  .record (names.map fun name => (name, (inner.lookup name).getD .whole))

/-- The layout of the member with a key, if the member is asked for. -/
def member? (key : String) : Layout → Option Layout
  | whole => some whole
  | record fields => fields.lookup key

/-- The layouts of the first items of an array; further items are read as a whole. -/
def items : Layout → List Layout
  | whole => []
  | record fields => fields.map (·.2)

end Layout

/-- The number of containers that may be open at once. -/
def maxDepth : Nat := 127

namespace Written

mutual

/-- What a tree has of a layout, if the whole of that stands for something and at most `room`
containers are open at once. -/
def fit? (room : Nat) (layout : Layout) : Written → Option Json
  | .null => some .null
  | .bool b => some (.bool b)
  | .num n => n.map .num
  | .str s => s.map .str
  | .arr items =>
    match room with
    | 0 => none
    | room + 1 => (fitItems? room layout.items items).map .arr
  | .obj members =>
    match room with
    | 0 => none
    | room + 1 => (fitMembers? room layout members).map .obj

/-- Fits items, the first ones to the layouts. -/
def fitItems? (room : Nat) (layouts : List Layout) : List Written → Option (List Json)
  | [] => some []
  | v :: rest => do
    let v ← fit? room (layouts.headD .whole) v
    let rest ← fitItems? room layouts.tail rest
    return v :: rest

/-- Fits the members that are asked for. All keys have to stand for something. -/
def fitMembers? (room : Nat) (layout : Layout) :
    List (Option String × Written) → Option (List (String × Json))
  | [] => some []
  | (none, _) :: _ => none
  | (some k, v) :: rest =>
    match layout.member? k with
    | none => fitMembers? room layout rest
    | some inner => do
      let v ← fit? room inner v
      let rest ← fitMembers? room layout rest
      return (k, v) :: rest

end

end Written

end ApiGateway.Json
