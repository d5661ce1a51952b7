import ApiGateway.Keyed
import ApiGateway.Yaml.Token

/-! # Nodes of YAML

`Node.ofTokens?` reads the tree of a text that holds at most one document. A node may be marked by
an anchor, and a reference stands for the node with its mark. Marks are numbers: an anchor gets the
count of the names that were known before it, so a name that is given again may share its number
with a later name, and the node that begins last has the number in the end (`Node.withMark?`).

Nodes that may be left out are read as the empty plain scalar `Node.missing`.
-/

set_option autoImplicit false

namespace ApiGateway.Yaml

/-- A node of a document. -/
inductive Node where
  | scalar (mark : Option Nat) (kind : Option Kind) (plain : Bool) (text : String)
  | sequence (mark : Option Nat) (kind : Option Kind) (items : List Node)
  | mapping (mark : Option Nat) (kind : Option Kind) (entries : List (Node × Node))
  | reference (mark : Nat)

namespace Node

/-- What stands in the place of a node that is left out. -/
def missing : Node := .scalar none none true ""

/-! ## Marks -/

/-- The mark of a node. -/
def mark? : Node → Option Nat
  | .scalar mark _ _ _ => mark
  | .sequence mark _ _ => mark
  | .mapping mark _ _ => mark
  | .reference _ => none

/-- One of two finds: the later one, if there is one. -/
def later? (first second : Option Node) : Option Node := second.or first

mutual

/-- The node with a mark: of several the one that begins last. -/
def withMark? (mark : Nat) : Node → Option Node
  | .scalar m kind plain text => if m = some mark then some (.scalar m kind plain text) else none
  | .sequence m kind items =>
    later? (if m = some mark then some (.sequence m kind items) else none)
      (itemWithMark? mark items)
  | .mapping m kind entries =>
    later? (if m = some mark then some (.mapping m kind entries) else none)
      (entryWithMark? mark entries)
  | .reference _ => none

@[inherit_doc withMark?]
def itemWithMark? (mark : Nat) : List Node → Option Node
  | [] => none
  | n :: rest => later? (withMark? mark n) (itemWithMark? mark rest)

@[inherit_doc withMark?]
def entryWithMark? (mark : Nat) : List (Node × Node) → Option Node
  | [] => none
  | (k, v) :: rest =>
    later? (later? (withMark? mark k) (withMark? mark v)) (entryWithMark? mark rest)

end

mutual

/-- The size of a node: one for a scalar or a reference, and one for each end of a container. -/
def size : Node → Nat
  | .scalar _ _ _ _ => 1
  | .sequence _ _ items => 2 + itemsSize items
  | .mapping _ _ entries => 2 + entriesSize entries
  | .reference _ => 1

@[inherit_doc size]
def itemsSize : List Node → Nat
  | [] => 0
  | n :: rest => size n + itemsSize rest

@[inherit_doc size]
def entriesSize : List (Node × Node) → Nat
  | [] => 0
  | (k, v) :: rest => size k + size v + entriesSize rest

end

end Node

/-! ## Reading -/

/-- What is left to read, the anchors so far with their marks, and what the handles of tags stand
for. -/
structure Reading where
  tokens : List Token
  anchors : Keyed Nat := []
  handles : List (String × List UInt8) := defaultHandles

/-- A reader of some part of a document. -/
abbrev Reader (α : Type) := StateT Reading Option α

namespace Reader

/-- The next token. -/
def peek : Reader (Option Token) := do return (← get).tokens.head?

/-- The next token is one of these. -/
def nextIs (tokens : List Token) : Reader Bool := do
  return (← peek).any tokens.contains

/-- Passes over the next token. -/
def skip : Reader Unit := modify fun r => { r with tokens := r.tokens.tail }

/-- Passes over the next token if it is this one. -/
def takes (t : Token) : Reader Bool := do
  if ← nextIs [t] then
    skip
    return true
  else return false

/-- Gives an anchor its mark. -/
def giveMark (anchor : Option String) : Reader (Option Nat) := do
  match anchor with
  | none => return none
  | some name =>
    let anchors := (← get).anchors
    modify fun r => { r with anchors := anchors.put name anchors.length }
    return some anchors.length

/-- The mark of the anchor with a name. -/
def markOf (name : String) : Reader Nat := do
  match (← get).anchors.lookup name with
  | some mark => return mark
  | none => failure

/-- The kind of the type that a tag names. -/
def kindOf (tag : Tag) : Reader Kind := do
  match tag.name? (← get).handles with
  | some name => return .ofName name
  | none => failure

/-- Reads the anchor and the tag of a node, in either order. -/
def properties : Reader (Option String × Option Kind) := do
  match (← get).tokens with
  | .anchor name :: .tag tag :: _ => skip; skip; return (some name, some (← kindOf tag))
  | .tag tag :: .anchor name :: _ => skip; skip; return (some name, some (← kindOf tag))
  | .anchor name :: _ => skip; return (some name, none)
  | .tag tag :: _ => skip; return (none, some (← kindOf tag))
  | _ => return (none, none)

/-- Where a node stands. As the key or value of a mapping in lines, a sequence needs no deeper
indentation; inside brackets there are no lines at all. -/
inductive Place where
  | line
  | entry
  | bracket
  deriving DecidableEq

mutual

/-- Reads a node. -/
def node : (fuel : Nat) → Place → Reader Node
  | 0, _ => failure
  | fuel + 1, place => do
    if let some (.reference name) ← peek then
      skip
      return .reference (← markOf name)
    let (anchor, kind) ← properties
    match ← peek with
    | some (.scalar plain text) =>
      skip
      return .scalar (← giveMark anchor) kind plain text
    | some .flowSequence =>
      skip
      let mark ← giveMark anchor
      return .sequence mark kind (← bracketItems fuel true)
    | some .flowMapping =>
      skip
      let mark ← giveMark anchor
      return .mapping mark kind (← bracketEntries fuel true)
    | some .blockEntry =>
      if place = .entry then
        let mark ← giveMark anchor
        return .sequence mark kind (← openItems fuel)
      else bare anchor kind
    | some .blockSequence =>
      if place = .bracket then bare anchor kind
      else
        skip
        let mark ← giveMark anchor
        return .sequence mark kind (← lineItems fuel)
    | some .blockMapping =>
      if place = .bracket then bare anchor kind
      else
        skip
        let mark ← giveMark anchor
        return .mapping mark kind (← lineEntries fuel)
    | _ => bare anchor kind
where
  /-- Reads a node that has no more than its properties. -/
  bare (anchor : Option String) (kind : Option Kind) : Reader Node := do
    if anchor.isNone && kind.isNone then failure
    return .scalar (← giveMark anchor) kind true ""

/-- Reads a node, unless one of these tokens shows that it is left out. -/
def nodeUnless : (fuel : Nat) → Place → List Token → Reader Node
  | 0, _, _ => failure
  | fuel + 1, place, ends => do
    if ← nextIs ends then return .missing else node fuel place

/-- Reads the items of a sequence in lines. -/
def lineItems : (fuel : Nat) → Reader (List Node)
  | 0 => failure
  | fuel + 1 => do
    if ← takes .blockEntry then
      let item ← nodeUnless fuel .line [.blockEntry, .blockEnd]
      return item :: (← lineItems fuel)
    else if ← takes .blockEnd then return []
    else failure

/-- Reads the items of a sequence in lines that has no end of its own. -/
def openItems : (fuel : Nat) → Reader (List Node)
  | 0 => failure
  | fuel + 1 => do
    if ← takes .blockEntry then
      let item ← nodeUnless fuel .line [.blockEntry, .key, .value, .blockEnd]
      return item :: (← openItems fuel)
    else return []

/-- Reads the entries of a mapping in lines. -/
def lineEntries : (fuel : Nat) → Reader (List (Node × Node))
  | 0 => failure
  | fuel + 1 => do
    if ← takes .key then
      let key ← nodeUnless fuel .entry [.key, .value, .blockEnd]
      let value ← if ← takes .value then nodeUnless fuel .entry [.key, .value, .blockEnd]
        else pure .missing
      return (key, value) :: (← lineEntries fuel)
    else if ← takes .blockEnd then return []
    else failure

/-- Reads the items of a sequence in brackets; commas stand between them. An item may be a mapping
of one key without brackets. -/
def bracketItems : (fuel : Nat) → (first : Bool) → Reader (List Node)
  | 0, _ => failure
  | fuel + 1, first => do
    if ← takes .flowSequenceEnd then return []
    if !first then
      if !(← takes .flowEntry) then failure
      if ← takes .flowSequenceEnd then return []
    if ← takes .key then
      let ends := [Token.value, .flowEntry, .flowSequenceEnd]
      -- A key that is left out takes the token behind it away.
      let leftOut ← nextIs ends
      let key ← nodeUnless fuel .bracket ends
      if leftOut then skip
      let value ← if ← takes .value then nodeUnless fuel .bracket [.flowEntry, .flowSequenceEnd]
        else pure .missing
      return .mapping none none [(key, value)] :: (← bracketItems fuel false)
    else
      let item ← node fuel .bracket
      return item :: (← bracketItems fuel false)

/-- Reads the entries of a mapping in brackets; commas stand between them. -/
def bracketEntries : (fuel : Nat) → (first : Bool) → Reader (List (Node × Node))
  | 0, _ => failure
  | fuel + 1, first => do
    if ← takes .flowMappingEnd then return []
    if !first then
      if !(← takes .flowEntry) then failure
      if ← takes .flowMappingEnd then return []
    if ← takes .key then
      let key ← nodeUnless fuel .bracket [.value, .flowEntry, .flowMappingEnd]
      let value ← if ← takes .value then nodeUnless fuel .bracket [.flowEntry, .flowMappingEnd]
        else pure .missing
      return (key, value) :: (← bracketEntries fuel false)
    else
      let key ← node fuel .bracket
      return (key, .missing) :: (← bracketEntries fuel false)

end

/-- The directives at the front of tokens, and the rest. -/
def spanDirectives : List Token → List Directive × List Token
  | .directive d :: rest =>
    let (directives, rest) := spanDirectives rest
    (d :: directives, rest)
  | rest => ([], rest)

/-- Reads directives. The version may be told once, and so may be each handle. -/
def directives : Reader Unit := do
  let (found, rest) := spanDirectives (← get).tokens
  let handles := found.filterMap fun
    | .handle handle beginning => some (handle, beginning)
    | .version => none
  if found.count .version > 1 ∨ ¬ (handles.map (·.1)).Nodup then failure
  modify fun r => { r with tokens := rest, handles := handles ++ r.handles }

/-- Reads a document; a stream without tokens holds none. -/
def document (fuel : Nat) : Reader (Option Node) := do
  match ← peek with
  | none => return none
  | some (.directive _) | some .documentStart =>
    directives
    if !(← takes .documentStart) then failure
    -- The text may end behind the line that begins the document.
    if (← peek).isNone then return some .missing
    match ← peek with
    | some (.directive _) => return some .missing
    | _ => return some (← nodeUnless fuel .line [.documentStart, .documentEnd])
  | _ => return some (← node fuel .line)

end Reader

/-- The tree of a stream of tokens, if it is one document; nothing at all is no tree. -/
def Node.ofTokens? (tokens : List Token) : Option (Option Node) :=
  match (Reader.document (4 * tokens.length + 8)).run { tokens := tokens } with
  | some (tree, left) => if left.tokens.all (· == .documentEnd) then some tree else none
  | none => none

end ApiGateway.Yaml
