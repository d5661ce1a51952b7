import ApiGateway.Headers
import ApiGateway.Json.Printer
import ApiGateway.Text.Blank
import ApiGateway.Text.Occurrence

/-! # Masking

A masker replaces sensitive values by a fixed token before anything is recorded. It knows names of
sensitive fields and verbatim secrets. What stands under a sensitive name is replaced as a whole;
occurrences of secrets are replaced inside strings and keys, and a number whose text is a secret is
replaced as a whole. A secret of less than four bytes is replaced only where it is a whole string,
key or number.
-/

set_option autoImplicit false

namespace ApiGateway

/-- The token, the sensitive names in normal form, and the secrets, the longer ones first. -/
structure Masker where
  token : String
  fields : List String
  secrets : List String
  deriving DecidableEq

namespace Masker

/-- The token that is written unless another one is configured. -/
def defaultToken : String := "[MASKED]"

/-- The names that are always sensitive. -/
def defaultFields : List String :=
  ["authorization", "proxy_authorization", "cookie", "set_cookie", "password", "passwd", "secret",
    "client_secret", "token", "access_token", "refresh_token", "id_token", "api_key", "apikey",
    "x_api_key", "card_number", "cvv", "cvc"]

/-- The least number of bytes of a secret that is replaced inside longer strings. -/
def minPartBytes : Nat := 4

/-- The normal form of a name: trimmed, ASCII capitals small, hyphens as underscores. -/
def normalName (name : String) : String :=
  String.ofList ((Text.asciiLower (Text.trim name)).toList.map fun c => if c = '-' then '_' else c)

/-! ## Making a masker -/

/-- A masker without secrets. -/
def new (token : String) : Masker := ⟨token, defaultFields, []⟩

/-- Adds a sensitive name, unless it is blank. -/
def addField (m : Masker) (name : String) : Masker :=
  let name := normalName name
  if name.isEmpty then m else { m with fields := name :: m.fields }

/-- Adds sensitive names. -/
def addFields (m : Masker) (names : List String) : Masker := names.foldl addField m

/-- Puts a secret behind those that have at least as many bytes. -/
def insertSecret (secret : String) : List String → List String
  | [] => [secret]
  | s :: rest =>
    if secret.utf8ByteSize ≤ s.utf8ByteSize then s :: insertSecret secret rest
    else secret :: s :: rest

/-- Adds a secret, unless it is empty or known. -/
def addSecret (m : Masker) (secret : String) : Masker :=
  if secret.isEmpty || m.secrets.contains secret then m
  else { m with secrets := insertSecret secret m.secrets }

/-- Adds secrets. -/
def addSecrets (m : Masker) (secrets : List String) : Masker := secrets.foldl addSecret m

/-! ## Masking -/

/-- What stands under this name is sensitive. -/
def isSensitive (m : Masker) (name : String) : Bool := m.fields.contains (normalName name)

/-- Masks one secret after another in a text; where the text is a secret it becomes the token. -/
def maskWith (token : String) : (secrets : List String) → (text : String) → String
  | [], text => text
  | secret :: rest, text =>
    if text = secret then token
    else if minPartBytes ≤ secret.utf8ByteSize then
      maskWith token rest
        (String.ofList (Text.replaceAll secret.toList token.toList text.toList))
    else maskWith token rest text

/-- Masks the secrets in a text. -/
def maskText (m : Masker) (text : String) : String := maskWith m.token m.secrets text

mutual

/-- Masks a tree. A null stays visible even under a sensitive name. -/
def maskValue (m : Masker) : Json → Json
  | .null => .null
  | .bool b => .bool b
  | .num n => if m.secrets.contains (String.ofList n.text) then .str m.token else .num n
  | .str s => .str (m.maskText s)
  | .arr items => .arr (maskItems m items)
  | .obj members => Json.ofMembers (maskMembers m members)

/-- Masks every item. -/
def maskItems (m : Masker) : List Json → List Json
  | [] => []
  | v :: rest => maskValue m v :: maskItems m rest

/-- Masks every member, key and value. -/
def maskMembers (m : Masker) : List (String × Json) → List (String × Json)
  | [] => []
  | (k, v) :: rest =>
    (m.maskText k, if m.isSensitive k && v != .null then .str m.token else maskValue m v) ::
      maskMembers m rest

end

/-- Masks the values of headers. -/
def maskHeaders (m : Masker) (headers : Headers) : Headers :=
  headers.map fun (name, value) =>
    (name, if m.isSensitive name then m.token else m.maskText value)

/-- Masking leaves the tree as it is. -/
def isClean (m : Masker) (v : Json) : Bool := m.maskValue v == v

/-- Masking leaves the text as it is. -/
def isCleanText (m : Masker) (s : String) : Bool := m.maskText s == s

/-- Masking leaves the headers as they are. -/
def areCleanHeaders (m : Masker) (headers : Headers) : Bool := m.maskHeaders headers == headers

end Masker

/-- A secret as it may stand in a diagnostic: its first and last two characters, and of a secret
with less than eight characters none. -/
def diagnosticText (secret : String) : String :=
  let cs := secret.toList
  if cs.length < 8 then "****"
  else String.ofList (cs.take 2 ++ "****".toList ++ cs.drop (cs.length - 2))

end ApiGateway
