import ApiGateway.Json.Basic
import ApiGateway.Text.Blank
import ApiGateway.Text.Occurrence
import ApiGateway.Decimal.Text

/-! # Target paths

A target path names a place in a JSON tree: keys between points, and behind a key any number of
brackets, each with an index or, empty, an append. `Target.parse` reads a path. `write` puts a
value at a place, creating the objects and arrays on the way; where something stands in the way, the
tree stays as it is.
-/

set_option autoImplicit false

namespace ApiGateway.Path

/-- The greatest index that a target path may name. -/
def maxIndex : Nat := 1024

/-- One step of a target path. -/
inductive Segment where
  | key (name : String)
  | index (position : Nat)
  | append
  deriving DecidableEq, Repr

/-- A target path with its text. -/
structure Target where
  source : String
  segments : List Segment
  deriving DecidableEq

/-- Why a text is no target path. -/
inductive TargetFault where
  | empty
  | emptySegment
  | strayBracket
  | textAfterIndex
  | unclosedBracket
  | notAnIndex (index : String)
  | indexTooLarge (index : String)
  deriving DecidableEq

/-- The wording of a fault of the path `source`. -/
def TargetFault.message (source : String) : TargetFault → String
  | .empty => "target path cannot be empty"
  | .emptySegment => "empty segment in '" ++ source ++ "'"
  | .strayBracket => "unexpected ']' in '" ++ source ++ "'"
  | .textAfterIndex => "unexpected text after index in '" ++ source ++ "'"
  | .unclosedBracket => "unclosed '[' in '" ++ source ++ "'"
  | .notAnIndex index =>
    "index '" ++ index ++ "' in '" ++ source ++ "' is not a non-negative integer"
  | .indexTooLarge index =>
    "index '" ++ index ++ "' in '" ++ source ++ "' exceeds " ++ Nat.repr maxIndex

/-! ## Reading -/

/-- The step that the trimmed text between brackets names. -/
def bracketStep (inside : List Char) : Except TargetFault Segment :=
  if inside.isEmpty then .ok .append
  else if !inside.all Char.isDigit then .error (.notAnIndex (String.ofList inside))
  else if Decimal.ofDigits inside ≤ maxIndex then .ok (.index (Decimal.ofDigits inside))
  else .error (.indexTooLarge (String.ofList inside))

/-- The steps of brackets. Inside a bracket, `inside` holds its characters so far, last first. -/
def brackets (inside : Option (List Char)) : List Char → Except TargetFault (List Segment)
  | [] =>
    match inside with
    | none => .ok []
    | some _ => .error .unclosedBracket
  | c :: rest =>
    match inside with
    | none => if c = '[' then brackets (some []) rest else .error .textAfterIndex
    | some done =>
      if c = ']' then do
        let step ← bracketStep (Text.trimChars done.reverse)
        let steps ← brackets none rest
        return step :: steps
      else brackets (some (c :: done)) rest

/-- The steps of the text between two points: a key, then brackets. -/
def groupSteps (group : List Char) : Except TargetFault (List Segment) :=
  let key := group.takeWhile (· != '[')
  if key.isEmpty then .error .emptySegment
  else if key.contains ']' then .error .strayBracket
  else do
    let steps ← brackets none (group.dropWhile (· != '['))
    return .key (String.ofList key) :: steps

/-- The steps of groups, from the first to the last. -/
def groupsSteps : List (List Char) → Except TargetFault (List Segment)
  | [] => .ok []
  | group :: groups => do
    let steps ← groupSteps group
    let more ← groupsSteps groups
    return steps ++ more

/-- Reads a target path. A fault comes with its wording, which shows the trimmed text. -/
def Target.parse (text : String) : Except String Target :=
  let source := Text.trim text
  if source.isEmpty then .error (TargetFault.empty.message source)
  else
    match groupsSteps (Text.splitOn '.' source.toList) with
    | .ok segments => .ok ⟨source, segments⟩
    | .error fault => .error (fault.message source)

/-! ## Writing -/

/-- Puts `value` at a place under `root`: the tree afterwards, and whether the value was written. A
place that holds anything but null is a conflict, and so is a scalar, or a container of the other
kind, where the path goes on. -/
def write : List Segment → (root value : Json) → Json × Bool
  | [], .null, value => (value, true)
  | [], root, _ => (root, false)
  | .key name :: path, root, value =>
    match root with
    | .null =>
      let (child, written) := write path .null value
      (.obj [(name, child)], written)
    | .obj members =>
      let (child, written) := write path ((Json.find? name members).getD .null) value
      (.obj (Json.insert name child members), written)
    | _ => (root, false)
  | .index position :: path, root, value =>
    match root with
    | .null =>
      let (child, written) := write path .null value
      (.arr (List.replicate position .null ++ [child]), written)
    | .arr items =>
      let padded := items ++ List.replicate (position + 1 - items.length) .null
      let (child, written) := write path (padded.getD position .null) value
      (.arr (padded.set position child), written)
    | _ => (root, false)
  | .append :: path, root, value =>
    match root with
    | .null =>
      let (child, written) := write path .null value
      (.arr [child], written)
    | .arr items =>
      let (child, written) := write path .null value
      (.arr (items ++ [child]), written)
    | _ => (root, false)

/-- Puts a value at the place that a target names. -/
def Target.write (t : Target) (root value : Json) : Json × Bool := Path.write t.segments root value

/-- Some step of the target appends. -/
def Target.appends (t : Target) : Bool := t.segments.contains .append

end ApiGateway.Path
