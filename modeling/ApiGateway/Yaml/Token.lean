import ApiGateway.Yaml.Tag

/-! # Tokens of YAML

`tokens?` cuts a text into tokens. Indentation is made explicit: `blockMapping` and `blockSequence`
open a block and `blockEnd` closes it. A text is known to be a key only when a colon follows it, so
every place where a key may begin is marked by a pending token. When the colon comes, the mark is
resolved to a `key`, perhaps with the beginning of a mapping before it; marks that are never
resolved vanish.
-/

set_option autoImplicit false

namespace ApiGateway.Yaml

/-- A token. -/
inductive Token where
  | directive (directive : Directive)
  | documentStart
  | documentEnd
  | blockSequence
  | blockMapping
  | blockEnd
  | blockEntry
  | flowSequence
  | flowSequenceEnd
  | flowMapping
  | flowMappingEnd
  | flowEntry
  | key
  | value
  | scalar (plain : Bool) (text : String)
  | anchor (name : String)
  | reference (name : String)
  | tag (tag : Tag)
  | pending (number : Nat)
  deriving DecidableEq

/-- A place where a key may begin. A required key begins at the indentation of its mapping, so that
it cannot be anything else. -/
structure PossibleKey where
  number : Nat
  required : Bool
  line : Nat
  column : Nat
  index : Nat

/-- The state of the cutting. -/
structure Cutting where
  rest : List Char
  line : Nat := 0
  column : Nat := 0
  /-- The number of bytes that were passed. -/
  index : Nat := 0
  /-- The column of the innermost block, or -1 outside all blocks. -/
  indent : Int := -1
  /-- The columns of the blocks around it. -/
  outer : List Int := []
  /-- The key that may have begun, for each level of brackets, the innermost first. -/
  keys : List (Option PossibleKey) := [none]
  keyAllowed : Bool := true
  /-- The tokens so far, the last one first. -/
  done : List Token := []
  /-- The number of marks so far. -/
  marks : Nat := 0
  /-- The marks that are resolved, and whether a mapping begins there. -/
  resolved : List (Nat × Bool) := []

namespace Cutting

/-- The cutting stands inside brackets. -/
def inFlow (s : Cutting) : Bool := 1 < s.keys.length

/-- Adds a token. -/
def push (t : Token) (s : Cutting) : Cutting := { s with done := t :: s.done }

/-! ## Moving on -/

/-- Passes over one character. -/
def passChar (s : Cutting) (c : Char) : Cutting :=
  if isBreak c then { s with line := s.line + 1, column := 0, index := s.index + c.utf8Size }
  else { s with column := s.column + 1, index := s.index + c.utf8Size }

/-- Passes over the characters up to a later rest of the text. -/
def moveTo (s : Cutting) (rest : List Char) : Cutting :=
  { (s.rest.take (s.rest.length - rest.length)).foldl passChar s with rest := rest }

/-- The mark that a line may begin with. It takes a column. -/
def isLineMark (c : Char) : Bool := c.toNat == 0xFEFF

/-- Passes over blanks, comments and line ends: whether a key may begin now, and the rest. A tab is
a blank only where no key may begin, and a line mark only where a line begins. -/
def gapFrom (inFlow : Bool) (atLine inComment keyAllowed : Bool) : List Char → Bool × List Char
  | [] => (keyAllowed, [])
  | c :: rest =>
    if atLine && isLineMark c then gapFrom inFlow false false keyAllowed rest
    else if isBreak c then gapFrom inFlow true false (keyAllowed || !inFlow) rest
    else if inComment || c == '#' then gapFrom inFlow false true keyAllowed rest
    else if c = ' ' ∨ (c = '\t' ∧ (inFlow ∨ ¬ keyAllowed)) then
      gapFrom inFlow false false keyAllowed rest
    else (keyAllowed, c :: rest)

/-- Passes over what separates tokens. -/
def skipGap (s : Cutting) : Cutting :=
  let (keyAllowed, rest) := gapFrom s.inFlow (s.column == 0) false s.keyAllowed s.rest
  { s.moveTo rest with keyAllowed := keyAllowed }

/-! ## Keys and blocks -/

/-- A key has to be followed by its colon on the same line and within 1024 bytes. -/
def keyInTime (s : Cutting) (k : PossibleKey) : Bool :=
  s.line ≤ k.line && s.index ≤ k.index + 1024

/-- Gives up keys that can no longer be keys; a required one must not be given up. -/
def dropStale (s : Cutting) : Option Cutting := do
  let keys ← s.keys.mapM fun
    | none => some none
    | some k => if s.keyInTime k then some (some k) else if k.required then none else some none
  return { s with keys := keys }

/-- Gives up the key of the innermost brackets. -/
def removeKey (s : Cutting) : Option Cutting :=
  match s.keys with
  | some k :: outer => if k.required then none else some { s with keys := none :: outer }
  | _ => some s

/-- Marks the place where a key may begin. -/
def markKey (s : Cutting) : Option Cutting :=
  if s.keyAllowed then do
    let required := !s.inFlow && s.indent == s.column
    let s ← s.removeKey
    let key : PossibleKey := ⟨s.marks, required, s.line, s.column, s.index⟩
    return { s with
      keys := some key :: s.keys.tail
      marks := s.marks + 1
      done := .pending s.marks :: s.done }
  else some s

/-- Opens a block at a column that is deeper than the block around it. -/
def indentTo (column : Nat) (s : Cutting) : Option Cutting :=
  if !s.inFlow && s.indent < column then
    some { s with indent := column, outer := s.indent :: s.outer }
  else none

/-- Opens a block with a token, if the column is deep enough. -/
def openBlock (t : Token) (s : Cutting) : Cutting :=
  match s.indentTo s.column with
  | some s => s.push t
  | none => s

/-- Closes the blocks that are deeper than a column. -/
def closeBlocks (column : Int) (s : Cutting) : Cutting :=
  if s.inFlow then s
  else
    let deeper := (s.indent :: s.outer).takeWhile (column < ·)
    let left := (s.indent :: s.outer).dropWhile (column < ·)
    { s with
      indent := left.headD (-1)
      outer := left.tail
      done := deeper.map (fun _ => Token.blockEnd) ++ s.done }

/-! ## Tokens -/

/-- Takes characters as a token and says whether a key may begin behind it. -/
def take (s : Cutting) (count : Nat) (t : Token) (keyAllowed : Bool) : Cutting :=
  { (s.moveTo (s.rest.drop count)).push t with keyAllowed := keyAllowed }

/-- Takes a line that separates documents. -/
def takeDocumentMark (s : Cutting) : Option Cutting := do
  let t : Token := if s.rest.head? = some '-' then .documentStart else .documentEnd
  let s ← (s.closeBlocks (-1)).removeKey
  return s.take 3 t false

/-- Takes a line that tells something about a document, with its end. -/
def takeDirective (s : Cutting) : Option Cutting := do
  let s ← (s.closeBlocks (-1)).removeKey
  let line := s.rest.takeWhile fun c => !isBreak c
  return s.take (line.length + 1) (.directive (← Directive.ofLine? line)) false

/-- Takes an opening bracket. -/
def openFlow (s : Cutting) (t : Token) : Option Cutting := do
  let s ← s.markKey
  let s := s.take 1 t true
  return { s with keys := none :: s.keys }

/-- Takes a closing bracket. -/
def closeFlow (s : Cutting) (t : Token) : Option Cutting := do
  let s ← s.removeKey
  let s := s.take 1 t false
  return if s.inFlow then { s with keys := s.keys.tail } else s

/-- Takes the dash of an item. -/
def takeEntry (s : Cutting) : Option Cutting := do
  if !s.inFlow && !s.keyAllowed then none
  let s ← (s.openBlock .blockSequence).removeKey
  return s.take 1 .blockEntry true

/-- Takes the question mark of a key. -/
def takeKey (s : Cutting) : Option Cutting := do
  if !s.inFlow && !s.keyAllowed then none
  let s ← (s.openBlock .blockMapping).removeKey
  return s.take 1 .key (!s.inFlow)

/-- Takes a colon. It resolves the mark of the key before it, if there is one. -/
def takeColon (s : Cutting) : Option Cutting := do
  match s.keys with
  | some k :: outer =>
    let s := { s with keys := none :: outer }
    -- The key opens a mapping if it is deeper than the block around it.
    let s := match s.indentTo k.column with
      | some s => { s with resolved := (k.number, true) :: s.resolved }
      | none => { s with resolved := (k.number, false) :: s.resolved }
    return s.take 1 .value false
  | _ =>
    -- Nothing stands before the colon, so that its key is left out.
    if !s.inFlow && !s.keyAllowed then none
    return (s.openBlock .blockMapping).take 1 .value (!s.inFlow)

/-- Takes an anchor or a reference to one. -/
def takeAnchor (s : Cutting) (token : String → Token) : Option Cutting := do
  let s ← s.markKey
  let after := s.rest.drop 1
  let name := after.takeWhile isWordChar
  let rest := after.dropWhile isWordChar
  let ended := endsWord rest ||
    rest.head?.any fun c => c.toNat == 96 || ['?', ':', ',', ']', '\x7d', '%', '@'].contains c
  if name.isEmpty || !ended then none
  else return s.take (name.length + 1) (token (String.ofList name)) false

/-- Takes a tag. -/
def takeTag (s : Cutting) : Option Cutting := do
  let s ← s.markKey
  let (tag, rest) ← takeTag? s.rest
  if endsWord rest || (s.inFlow && rest.head? == some ',') then
    return { (s.moveTo rest).push (.tag tag) with keyAllowed := false }
  else none

/-- Adds a scalar that is taken up to a rest of the text. -/
def addScalar (s : Cutting) (plain : Bool) (text rest : List Char) (keyAllowed : Bool) : Cutting :=
  { (s.moveTo rest).push (.scalar plain (String.ofList text)) with keyAllowed := keyAllowed }

/-- Takes a block of lines. -/
def takeBlock (s : Cutting) (folds : Bool) : Option Cutting := do
  let s ← s.removeKey
  let (deeper, chomp, rest) ← blockSigns (s.rest.drop 1)
  let rest ← endHeader rest
  -- The digit of the header counts from the column of the block around; without one the first line
  -- that is not blank tells the column.
  let around := s.indent.toNat
  let indent := if deeper = 0 then 0 else if 0 ≤ s.indent then around + deeper else deeper
  let least := max (s.indent + 1).toNat 1
  let (state, rest) ← blockFrom folds least false { indent := indent } rest
  return s.addScalar false (state.text chomp) rest true

/-- Takes a quoted scalar. -/
def takeQuoted (s : Cutting)
    (from' : Nat → Gap → List Char → List Char → Option (List Char × List Char)) :
    Option Cutting := do
  let s ← s.markKey
  let (text, rest) ← from' (s.column + 1) .none [] (s.rest.drop 1)
  return s.addScalar false text rest false

/-- Takes a plain scalar. -/
def takePlain (s : Cutting) : Option Cutting := do
  let s ← s.markKey
  let (text, broken, rest) ← plainFrom s.inFlow (s.indent + 1) s.column .none [] s.rest
  return s.addScalar true text rest broken

/-- A character that no plain scalar begins with. -/
def isIndicator (c : Char) : Bool :=
  c.toNat == 96 || ['-', '?', ':', ',', '[', ']', '\x7b', '\x7d', '#', '&', '*', '!', '|', '>',
    '\'', '"', '%', '@'].contains c

/-- A plain scalar begins here. -/
def beginsPlain (s : Cutting) (c : Char) (rest : List Char) : Bool :=
  (!isIndicator c && !isSpace c && !isBreak c) ||
    (c == '-' && !rest.head?.any isSpace) ||
    (!s.inFlow && (c == '?' || c == ':') && !endsWord rest)

/-- Takes one token at the character `c`. -/
def takeToken (s : Cutting) (c : Char) (rest : List Char) : Option Cutting :=
  if s.column = 0 ∧ c = '%' then s.takeDirective
  else if s.column = 0 ∧ isDocumentMark s.rest then s.takeDocumentMark
  else if c = '[' then s.openFlow .flowSequence
  else if c = '\x7b' then s.openFlow .flowMapping
  else if c = ']' then s.closeFlow .flowSequenceEnd
  else if c = '\x7d' then s.closeFlow .flowMappingEnd
  else if c = ',' then do return (← s.removeKey).take 1 .flowEntry true
  else if c = '-' ∧ endsWord rest then s.takeEntry
  else if c = '?' ∧ (s.inFlow ∨ endsWord rest) then s.takeKey
  else if c = ':' ∧ (s.inFlow ∨ endsWord rest) then s.takeColon
  else if c = '*' then s.takeAnchor .reference
  else if c = '&' then s.takeAnchor .anchor
  else if c = '!' then s.takeTag
  else if c = '|' ∧ ¬ s.inFlow then s.takeBlock false
  else if c = '>' ∧ ¬ s.inFlow then s.takeBlock true
  else if c = '\'' then s.takeQuoted singleFrom
  else if c = '"' then s.takeQuoted doubleFrom
  else if s.beginsPlain c rest then s.takePlain
  else none

/-- Cuts the rest of a text; every token takes at least one character of `fuel`. -/
def run : (fuel : Nat) → Cutting → Option Cutting
  | 0, _ => none
  | fuel + 1, s => do
    let s ← s.skipGap.dropStale
    let s := s.closeBlocks s.column
    match s.rest with
    | [] => (s.closeBlocks (-1)).removeKey
    | c :: rest => run fuel (← s.takeToken c rest)

/-- What a token stands for once all marks are known. -/
def settle (resolved : List (Nat × Bool)) : Token → List Token
  | .pending n =>
    match resolved.lookup n with
    | some true => [.blockMapping, .key]
    | some false => [.key]
    | none => []
  | t => [t]

end Cutting

/-- The tokens of a text, if it can be cut. -/
def tokens? (text : String) : Option (List Token) :=
  if text.toList.all isReadable then do
    let cs := unifyBreaks text.toList
    let s ← Cutting.run (cs.length + 1) { rest := cs }
    return s.done.reverse.flatMap (Cutting.settle s.resolved)
  else none

end ApiGateway.Yaml
