import ApiGateway.Decimal.Text
import ApiGateway.Yaml.Scalar

/-! # Tags and directives of YAML

A tag names the type of a node. It is written in full between angle brackets, or as a handle and a
suffix; a handle is `!`, `!!` or a word between exclamation marks. Directives before a document tell
its version and what further handles stand for.

Names are made of octets, which percent triplets write in sequences as long as their first octet
says. The octets need not be text. `Kind` is what a name comes to.
-/

set_option autoImplicit false

namespace ApiGateway.Yaml

/-- A tag as it is written. A tag in full has no handle. -/
structure Tag where
  handle : String
  suffix : List UInt8
  deriving DecidableEq

/-- A directive. -/
inductive Directive where
  | version
  /-- The handle stands for the beginning of a name. -/
  | handle (handle : String) (beginning : List UInt8)
  deriving DecidableEq

/-! ## Words -/

/-- A character of a word: of the name of an anchor, a handle or a directive. -/
def isWordChar (c : Char) : Bool := c.isAlphanum || c == '_' || c == '-'

/-- A character of the suffix of a tag. -/
def isTagChar (c : Char) : Bool :=
  isWordChar c ||
    [';', '/', '?', ':', '@', '&', '=', '+', '$', '.', '!', '~', '*', '\'', '(', ')',
      '%'].contains c

/-- A character of a name in full. -/
def isNameChar (c : Char) : Bool := isTagChar c || c == ',' || c == '[' || c == ']'

/-- The length of the sequence that an octet begins, if it may begin one. -/
def sequenceLength? (octet : Nat) : Option Nat :=
  if octet < 0x80 then some 1
  else if octet < 0xC0 then none
  else if octet < 0xE0 then some 2
  else if octet < 0xF0 then some 3
  else if octet < 0xF8 then some 4
  else none

/-- The octets of a text whose first `left` octets carry a sequence on. Only percent triplets do
so. -/
def octets? : (left : Nat) → List Char → Option (List UInt8)
  | 0, [] => some []
  | _ + 1, [] => none
  | left, '%' :: a :: b :: rest => do
    let n ← Text.hexNumber? [a, b]
    let left ←
      if left = 0 then (sequenceLength? n).map (· - 1)
      else if 0x80 ≤ n ∧ n < 0xC0 then some (left - 1)
      else none
    return UInt8.ofNat n :: (← octets? left rest)
  | 0, c :: rest => if c = '%' then none else (octets? 0 rest).map (String.utf8EncodeChar c ++ ·)
  | _ + 1, _ :: _ => none

/-- The name that a text writes. An octet of zero ends it. -/
def name? (cs : List Char) : Option (List UInt8) := (octets? 0 cs).map fun name =>
  name.takeWhile (· != 0)

/-- The name whose octets are a text. -/
def nameOf (text : String) : List UInt8 := text.toList.flatMap String.utf8EncodeChar

/-! ## Tags -/

/-- The handle at the front of a text and the rest. A word alone is no handle. -/
def takeHandle : List Char → Option (String × List Char)
  | '!' :: rest =>
    let word := rest.takeWhile isWordChar
    match rest.dropWhile isWordChar with
    | '!' :: rest => some (String.ofList ('!' :: (word ++ ['!'])), rest)
    | _ => if word.isEmpty then some ("!", rest) else none
  | _ => none

/-- The tag that begins with the exclamation mark at the front of a text, and the rest. -/
def takeTag? : List Char → Option (Tag × List Char)
  | '!' :: '<' :: rest =>
    let name := rest.takeWhile isNameChar
    match rest.dropWhile isNameChar with
    | '>' :: rest =>
      if name.isEmpty then none else (name? name).map fun name => (⟨"", name⟩, rest)
    | _ => none
  | '!' :: rest =>
    let (handle, rest) := (takeHandle ('!' :: rest)).getD ("!", rest)
    let suffix := rest.takeWhile isTagChar
    let rest := rest.dropWhile isTagChar
    if suffix.isEmpty && handle != "!" then none
    else (name? suffix).map fun suffix =>
      -- An exclamation mark with no name behind it is a name itself.
      if suffix.isEmpty && handle == "!" then (⟨"", nameOf "!"⟩, rest) else (⟨handle, suffix⟩, rest)
  | _ => none

/-- The common beginning of the names of the core types. -/
def coreName : String := "tag:yaml.org,2002:"

/-- What handles stand for unless a directive says otherwise. -/
def defaultHandles : List (String × List UInt8) :=
  [("!", nameOf "!"), ("!!", nameOf coreName)]

/-- The name of the type, if the handle stands for something. -/
def Tag.name? (handles : List (String × List UInt8)) (t : Tag) : Option (List UInt8) :=
  if t.handle.isEmpty then some t.suffix
  else (handles.lookup t.handle).map (· ++ t.suffix)

/-- A kind of types. -/
inductive Kind where
  | bool
  | int
  | float
  | null
  /-- A type of the document's own, of which nothing is known. -/
  | own
  /-- A type of the document's own with a name that is no text. Nobody can ask for it. -/
  | nameless
  | other
  deriving DecidableEq

/-- The kind of the type with a name. Types of a document's own have names that begin with an
exclamation mark. -/
def Kind.ofName (name : List UInt8) : Kind :=
  if name.head? = some 0x21 then
    if (String.fromUTF8? ⟨name.toArray⟩).isSome then .own else .nameless
  else if name = nameOf (coreName ++ "bool") then .bool
  else if name = nameOf (coreName ++ "int") then .int
  else if name = nameOf (coreName ++ "float") then .float
  else if name = nameOf (coreName ++ "null") then .null
  else .other

/-! ## Directives -/

/-- A version that can be read, and the rest. -/
def takeVersion? (cs : List Char) : Option (List Char) := do
  let (major, rest) := Decimal.spanDigits cs
  let '.' :: rest := rest | none
  let (minor, rest) := Decimal.spanDigits rest
  let fits (digits : List Char) (least most : Nat) : Bool :=
    !digits.isEmpty && digits.length ≤ 9 && least ≤ Decimal.ofDigits digits &&
      Decimal.ofDigits digits ≤ most
  if fits major 1 1 && fits minor 1 2 then some rest else none

/-- What a directive tells, from its percent sign to the end of the line. -/
def Directive.ofLine? (line : List Char) : Option Directive := do
  let '%' :: body := line | none
  let name := String.ofList (body.takeWhile isWordChar)
  let rest := body.dropWhile isWordChar
  if !endsWord rest then none
  let rest := rest.dropWhile isSpace
  let (directive, rest) ←
    if name = "YAML" then (takeVersion? rest).map (Directive.version, ·)
    else if name = "TAG" then do
      let (word, rest) ← takeHandle rest
      if !rest.head?.any isSpace then none
      let rest := rest.dropWhile isSpace
      let beginning := rest.takeWhile isNameChar
      let rest := rest.dropWhile isNameChar
      if beginning.isEmpty || !endsWord rest then none
      some (Directive.handle word (← name? beginning), rest)
    else none
  match rest.dropWhile isSpace with
  | [] => some directive
  | c :: _ => if c = '#' then some directive else none

end ApiGateway.Yaml
