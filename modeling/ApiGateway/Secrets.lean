import ApiGateway.Keyed
import ApiGateway.Text.Blank
import ApiGateway.Text.Case
import ApiGateway.Text.Letter

/-! # Secrets

A credential is given by a reference: the name of a secret, or a text with placeholders of the form
`${secret:NAME}` and `${env:NAME}`. `pieces` takes a reference apart; `resolve` puts the values in
the places of the placeholders, from the left to the right, and never looks into a value.
-/

set_option autoImplicit false

namespace ApiGateway.Secrets

/-- Why a store gives no secret: it holds none of that name, or its keychain cannot be asked. -/
inductive Refusal where
  | absent
  | keychain
  deriving DecidableEq

/-- Why a reference has no value. -/
inductive SecretError where
  | missing (name reason : String) (refusal : Refusal)
  | missingVariable (name : String)
  deriving DecidableEq

/-- The wording of an error. -/
def SecretError.message : SecretError → String
  | .missing name reason .absent => "Missing secret: " ++ name ++ " - " ++ reason
  | .missing name reason .keychain => "Keyring error for " ++ name ++ ": " ++ reason
  | .missingVariable name => "Missing environment variable: " ++ name

/-- The name that an error is about. -/
def SecretError.name : SecretError → String
  | .missing name _ _ => name
  | .missingVariable name => name

/-- Secrets by name, or why there is none of that name. -/
structure Store where
  get : String → Except SecretError String

namespace Store

/-- A store that holds just these secrets, with the reason that is given for one that is absent. -/
def ofValues (values : Keyed String) (absence : String) : Store where
  get name :=
    match values.lookup name with
    | some value => .ok value
    | none => .error (.missing name absence .absent)

/-- A fixed store. -/
def ofList (values : Keyed String) : Store := .ofValues values "not present in static store"

/-- The environment as a store: the secret of a name is the variable of that name. -/
def ofEnvironment (vars : Keyed String) : Store :=
  .ofValues vars "environment variable not found"

end Store

/-! ## Places of secrets -/

/-- Where a process looks for its secrets. -/
inductive Backend where
  | keychain
  | environment
  deriving DecidableEq

/-- The backend of a configured name; a name that is not known is the keychain. -/
def Backend.ofName (name : Option String) : Backend :=
  let word := Text.asciiLower (Text.trim (name.getD ""))
  if word = "env" ∨ word = "environment" then .environment else .keychain

/-! ## References -/

/-- A piece of a reference. -/
inductive Piece where
  | char (c : Char)
  | secret (name : String)
  | variable (name : String)
  deriving DecidableEq

/-- A character of a name in a placeholder. -/
def isNameChar (c : Char) : Bool := Text.isWordChar c || c == '.' || c == '+' || c == '-'

/-- The name up to the closing brace. -/
def nameUntilBrace (cs : List Char) : Option String :=
  let name := cs.takeWhile isNameChar
  if (cs.dropWhile isNameChar).head? = some '\x7d' then some (String.ofList name) else none

/-- The placeholder at the front of a text, and the number of its characters. -/
def placeholder? (cs : List Char) : Option (Piece × Nat) :=
  let opening (word : String) : List Char := '$' :: '\x7b' :: (word ++ ":").toList
  let front (word : String) : Bool := (opening word).isPrefixOf cs
  if front "env" then
    (nameUntilBrace (cs.drop 6)).map fun name => (.variable name, name.length + 7)
  else if front "secret" then
    (nameUntilBrace (cs.drop 9)).map fun name => (.secret name, name.length + 10)
  else none

/-- The pieces of a text, passing over `skip` characters of the placeholder just found. -/
def piecesFrom : Nat → List Char → List Piece
  | _, [] => []
  | skip + 1, _ :: cs => piecesFrom skip cs
  | 0, c :: cs =>
    match placeholder? (c :: cs) with
    | some (piece, length) => piece :: piecesFrom (length - 1) cs
    | none => .char c :: piecesFrom 0 cs

/-- The pieces of a reference. -/
def pieces (reference : String) : List Piece := piecesFrom 0 reference.toList

/-- A piece that is a placeholder. -/
def Piece.isPlaceholder : Piece → Bool
  | .char _ => false
  | _ => true

/-- The text of a piece. -/
def Piece.value (store : Store) (vars : Keyed String) :
    Piece → Except SecretError (List Char)
  | .char c => .ok [c]
  | .secret name => (store.get name).map String.toList
  | .variable name =>
    match vars.lookup name with
    | some value => .ok value.toList
    | none => .error (.missingVariable name)

/-- The text of pieces, or the error of the first one that has none. -/
def values (store : Store) (vars : Keyed String) :
    List Piece → Except SecretError (List Char)
  | [] => .ok []
  | piece :: rest => do
    let value ← piece.value store vars
    let others ← values store vars rest
    return value ++ others

/-- The value of a reference, blanks around which do not count. -/
def resolve (store : Store) (vars : Keyed String) (reference : String) :
    Except SecretError String :=
  let reference := Text.trim reference
  if (pieces reference).any Piece.isPlaceholder then
    (values store vars (pieces reference)).map String.ofList
  else if reference.isEmpty then .error (.missing "" "empty credential reference" .absent)
  else store.get reference

end ApiGateway.Secrets
