import ApiGateway.Json.Token

/-! # Writing JSON text

`render` writes a tree without any space, member by member as it stands, so that a normal value is
written with its keys ascending. `renderIndented` spreads containers over lines, two spaces deeper
for each level; an empty container stays on its line. `plain` is the text of a value inside other
text, where a string stands for itself and null for nothing.
-/

set_option autoImplicit false

namespace ApiGateway.Json

mutual

/-- The tokens of a tree. -/
def tokens : Json → List Token
  | .null => [.null]
  | .bool b => [.bool b]
  | .num n => [.num n]
  | .str s => [.str s]
  | .arr items => .beginArr :: (tokensItems items ++ [.endArr])
  | .obj members => .beginObj :: (tokensMembers members ++ [.endObj])

/-- The tokens of items with commas between them. -/
def tokensItems : List Json → List Token
  | [] => []
  | [v] => tokens v
  | v :: w :: rest => tokens v ++ .comma :: tokensItems (w :: rest)

/-- The tokens of members with commas between them. -/
def tokensMembers : List (String × Json) → List Token
  | [] => []
  | [(k, v)] => .str k :: .colon :: tokens v
  | (k, v) :: w :: rest => .str k :: .colon :: (tokens v ++ .comma :: tokensMembers (w :: rest))

end

/-- The compact text of a tree. -/
def render (v : Json) : String := String.ofList (v.tokens.flatMap Token.text)

/-- A line end and the indentation of a depth. -/
def newLine (depth : Nat) : List Char := '\n' :: List.replicate (2 * depth) ' '

mutual

/-- The indented text of a tree whose first line begins at the given depth. -/
def indented (depth : Nat) : Json → List Char
  | .arr [] => "[]".toList
  | .arr (v :: rest) =>
    '[' :: (newLine (depth + 1) ++ indented (depth + 1) v ++ indentedItems depth rest)
  | .obj [] => ['\x7b', '\x7d']
  | .obj ((k, v) :: rest) =>
    '\x7b' :: (newLine (depth + 1) ++ quote k.toList ++ ": ".toList ++ indented (depth + 1) v ++
      indentedMembers depth rest)
  | .null => Token.null.text
  | .bool b => (Token.bool b).text
  | .num n => n.text
  | .str s => quote s.toList

/-- The further items of an array, each behind a comma, and its closing bracket. -/
def indentedItems (depth : Nat) : List Json → List Char
  | [] => newLine depth ++ [']']
  | v :: rest =>
    ',' :: (newLine (depth + 1) ++ indented (depth + 1) v ++ indentedItems depth rest)

/-- The further members of an object, each behind a comma, and its closing bracket. -/
def indentedMembers (depth : Nat) : List (String × Json) → List Char
  | [] => newLine depth ++ ['\x7d']
  | (k, v) :: rest =>
    ',' :: (newLine (depth + 1) ++ quote k.toList ++ ": ".toList ++ indented (depth + 1) v ++
      indentedMembers depth rest)

end

/-- The text of a tree over several lines. -/
def renderIndented (v : Json) : String := String.ofList (indented 0 v)

/-- The text of a value inside other text. -/
def plain : Json → String
  | .null => ""
  | .str s => s
  | v => v.render

end ApiGateway.Json
