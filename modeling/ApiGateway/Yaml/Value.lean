import ApiGateway.Decimal.Text
import ApiGateway.Json.Basic
import ApiGateway.Text.Letter
import ApiGateway.Yaml.Node

/-! # YAML as JSON values

`read?` gives the value that a text of YAML stands for. A plain scalar may be null, a truth value,
an integer or a float; every other scalar is a string. Keys are texts, and of several entries with
one key the last one stays. References are replaced by what they stand for, within limits that also
hold for documents that refer to themselves: at most `maxDepth` containers inside each other, and
at most a hundred references followed for each part of the document.
-/

set_option autoImplicit false

namespace ApiGateway.Yaml

/-! ## Scalars -/

/-- A word for nothing. -/
def isNullWord (text : String) : Bool := ["null", "Null", "NULL", "~"].contains text

/-- The truth value that a word stands for. -/
def truth? (text : String) : Option Bool :=
  if ["true", "True", "TRUE"].contains text then some true
  else if ["false", "False", "FALSE"].contains text then some false
  else none

/-- The number that digits write in a radix. -/
def ofRadix? (radix : Nat) (cs : List Char) : Option Nat :=
  if cs.isEmpty then none
  else cs.foldlM (fun n c => ((Text.hexValue? c).filter (· < radix)).map (radix * n + ·)) 0

/-- The integer that a text writes: in decimal digits without leading zeros, or in another radix
that is marked by a letter. -/
def integer? (cs : List Char) : Option Int :=
  let (negative, body) := Decimal.takeSign cs
  let magnitude := match body with
    | '0' :: 'x' :: digits => ofRadix? 16 digits
    | '0' :: 'o' :: digits => ofRadix? 8 digits
    | '0' :: 'b' :: digits => ofRadix? 2 digits
    | '0' :: _ :: _ => none
    | digits => ofRadix? 10 digits
  magnitude.map fun n => if negative then -(n : Int) else n

/-- An integer of more than 64 bits has no value, unless it has more than 128 bits and counts as a
float. -/
inductive Width where
  | fits
  | tooWide
  | float
  deriving DecidableEq

/-- How wide an integer is. -/
def widthOf (n : Int) : Width :=
  if Binary64.minInt64 ≤ n ∧ n ≤ Binary64.maxUInt64 then .fits
  else if -0x80000000000000000000000000000000 ≤ n ∧ n < 0x100000000000000000000000000000000 then .tooWide
  else .float

/-- The float that a text writes, as a value; what is not finite becomes null. -/
def floatValue? (text : String) : Option Json :=
  let words := [".inf", ".Inf", ".INF"]
  if words.any (fun w => [w, "+" ++ w, "-" ++ w].contains text) ∨
      [".nan", ".NaN", ".NAN"].contains text then some .null
  else ((Decimal.readFloat? text.toList).filter Binary64.isFinite).map fun x => .num (.float x)

/-- The text is a number with leading zeros, which is read as a string. -/
def hasLeadingZeros (cs : List Char) : Bool :=
  match (Decimal.takeSign cs).2 with
  | '0' :: d :: rest => (d :: rest).all Char.isDigit
  | _ => false

/-- The value of a plain scalar. -/
def plainValue? (text : String) : Option Json :=
  let other := if hasLeadingZeros text.toList then Json.str text
    else (floatValue? text).getD (.str text)
  if text.isEmpty || isNullWord text then some .null
  else match truth? text with
  | some b => some (.bool b)
  | none =>
    match integer? text.toList with
    | some n =>
      match widthOf n with
      | .fits => some (.int n)
      | .tooWide => none
      | .float => some other
    | none => some other

/-- The value of a scalar. A core type asks for a value of that type. -/
def scalarValue? (kind : Option Kind) (plain : Bool) (text : String) : Option Json :=
  match kind with
  | none | some .nameless => if plain then plainValue? text else some (.str text)
  | some .own => none
  | some .bool => (truth? text).map .bool
  | some .int => ((integer? text.toList).filter fun n => widthOf n = .fits).map .int
  | some .float => floatValue? text
  | some .null => if isNullWord text then some .null else none
  | some .other => some (.str text)

/-! ## Trees -/

/-- The number of containers that may be inside each other. -/
def maxDepth : Nat := 128

/-- Follows a reference; the state counts how many may still be followed. -/
def follow (root : Node) : Node → StateT Nat Option Node
  | .reference mark => do
    match ← get with
    | 0 => failure
    | left + 1 =>
      set left
      match root.withMark? mark with
      | some node => return node
      | none => failure
  | node => return node

/-- The text of a key. -/
def keyText (root : Node) (key : Node) : StateT Nat Option String := do
  match ← follow root key with
  | .scalar _ _ _ text => return text
  | _ => failure

/-- The value of a node that may hold containers `depth` deep. -/
def valueOf (root : Node) : (depth : Nat) → Node → StateT Nat Option Json
  | 0, node => do
    match ← follow root node with
    | .scalar _ kind plain text => scalarValue? kind plain text
    | _ => failure
  | depth + 1, node => do
    match ← follow root node with
    | .scalar _ kind plain text => scalarValue? kind plain text
    | .sequence _ kind items =>
      if kind = some .own then failure
      return .arr (← items.mapM (valueOf root depth))
    | .mapping _ kind entries =>
      if kind = some .own then failure
      let members ← entries.mapM fun (entry : Node × Node) => do
        let key ← keyText root entry.1
        return (key, ← valueOf root depth entry.2)
      return .ofMembers members
    | .reference _ => failure

/-- The value of a tree. -/
def Node.value? (root : Node) : Option Json :=
  ((valueOf root maxDepth root).run (100 * root.size)).map (·.1)

/-- The tree of a text, if it is a document; a text of blanks and comments has no tree. -/
def tree? (text : String) : Option (Option Node) := (tokens? text).bind Node.ofTokens?

/-- The value that a text of YAML stands for. -/
def read? (text : String) : Option Json :=
  (tree? text).bind fun
    | none => some .null
    | some root => root.value?

end ApiGateway.Yaml
