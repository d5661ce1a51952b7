import ApiGateway.Json.Printer
import ApiGateway.Text.Blank
import ApiGateway.Text.Occurrence

/-! # Path templates

A path template is text with names in braces, such as `/v1/customers/{customer_id}`. `placeholders`
lists the names, and `render` puts encoded values in their places; each scans the template by
itself, from one pair of braces to the next. A value is encoded so that only unreserved ASCII
characters and percent triplets remain, whatever characters it holds.
-/

set_option autoImplicit false

namespace ApiGateway.Path

/-! ## Encoding -/

/-- The characters that need no encoding. -/
def isUnreserved (c : Char) : Bool := c.isAlphanum || c == '-' || c == '.' || c == '_' || c == '~'

/-- An upper-case hexadecimal digit. -/
def upperHexDigit (n : Nat) : Char :=
  if n < 10 then Char.ofNat ('0'.toNat + n) else Char.ofNat ('A'.toNat + (n - 10))

/-- A percent sign and the two digits of a byte. -/
def percentByte (b : UInt8) : List Char :=
  ['%', upperHexDigit (b.toNat / 16), upperHexDigit (b.toNat % 16)]

/-- An unreserved character as it is, and any other by its UTF-8 bytes. -/
def encodeChar (c : Char) : List Char :=
  if isUnreserved c then [c] else (String.utf8EncodeChar c).flatMap percentByte

/-- The encoded text of a value. -/
def encodeValue (value : String) : String := String.ofList (value.toList.flatMap encodeChar)

/-! ## Templates -/

/-- Why a template has no names or no path. -/
inductive TemplateError where
  | unclosed (template : String) (offset : Nat)
  | empty (template : String)
  | missing (name : String)
  deriving DecidableEq

/-- The wording of an error. -/
def TemplateError.message : TemplateError → String
  | .unclosed template offset =>
    "unclosed placeholder starting at byte " ++ Nat.repr offset ++ " in '" ++ template ++ "'"
  | .empty template => "empty placeholder in '" ++ template ++ "'"
  | .missing name => "path parameter '" ++ name ++ "' has no value"

/-- The name that stands between two braces: the text there without the blanks around it. -/
def placeholderName (inside : List Char) : String := String.ofList (Text.trimChars inside)

/-- A name that has been found, behind those found before; each name is listed once. -/
def listName (found : List String) (name : String) : List String :=
  if found.contains name then found else found ++ [name]

/-- The names in the rest of a template, behind the names found so far. In front of the rest stand
`consumed` bytes of the template. -/
def namesFrom (template : String) (found : List String) (consumed : Nat) (rest : List Char) :
    Except TemplateError (List String) :=
  match hopen : Text.cutAt '\x7b' rest with
  | none => .ok found
  | some (front, after) =>
    let start := Text.byteLength front
    match hclose : Text.cutAt '\x7d' after with
    | none => .error (.unclosed template (consumed + start))
    | some (inside, behind) =>
      have : behind.length < rest.length :=
        Nat.lt_trans (Text.length_lt_of_cutAt hclose) (Text.length_lt_of_cutAt hopen)
      let name := placeholderName inside
      if name.isEmpty then .error (.empty template)
      else
        namesFrom template (listName found name)
          (consumed + (start + 1 + Text.byteLength inside + 1)) behind
termination_by rest.length

/-- The names in a template, in order of appearance. -/
def placeholders (template : String) : Except TemplateError (List String) :=
  namesFrom template [] 0 template.toList

/-- The path that the rest of a template gives with the values of its names, where null counts as no
value. Where the rest begins follows from its length. -/
def renderFrom (template : String) (value : String → Option Json) (rest : List Char) :
    Except TemplateError (List Char) :=
  match hopen : Text.cutAt '\x7b' rest with
  | none => .ok rest
  | some (front, after) =>
    match hclose : Text.cutAt '\x7d' after with
    | none =>
      let consumed := Text.byteLength template.toList - Text.byteLength rest
      .error (.unclosed template (consumed + Text.byteLength front))
    | some (inside, behind) =>
      have : behind.length < rest.length :=
        Nat.lt_trans (Text.length_lt_of_cutAt hclose) (Text.length_lt_of_cutAt hopen)
      let name := placeholderName inside
      match value name with
      | none | some .null => .error (.missing name)
      | some v =>
        (renderFrom template value behind).map fun path =>
          front ++ ((encodeValue v.plain).toList ++ path)
termination_by rest.length

/-- The path that a template gives with the values of its names. -/
def render (template : String) (value : String → Option Json) : Except TemplateError String :=
  (renderFrom template value template.toList).map String.ofList

/-! ## Joining -/

/-- A base URL and a path with one slash between them; an empty path adds none. -/
def joinUrl (base path : String) : String :=
  let base := (base.toList.reverse.dropWhile (· == '/')).reverse
  if path.isEmpty then String.ofList base
  else String.ofList (base ++ '/' :: path.toList.dropWhile (· == '/'))

end ApiGateway.Path
