import ApiGateway.Catalog.Source
import ApiGateway.Environment
import ApiGateway.Json.Fields
import ApiGateway.Masking
import ApiGateway.Secrets

/-! # Settings

The settings of a gateway process are kept in a file of JSON or YAML; without the file all of them
have their defaults. Variables of the environment win over the file where a path or the place of
secrets is named.
-/

set_option autoImplicit false

namespace ApiGateway

/-- The settings of a gateway. -/
structure Settings where
  catalogPath : Option String := none
  auditFolder : Option String := none
  maskToken : String := Masker.defaultToken
  sensitiveFields : List String := []
  secretsBackend : Option String := none
  bindAddress : String := "127.0.0.1:8787"
  deriving DecidableEq

namespace Settings

/-- The names of the settings in a file, in the order in which an array holds them. -/
def names : List String :=
  ["catalog_path", "audit_dir", "mask_token", "sensitive_fields", "secrets_backend",
    "bind_address"]

/-! ## JSON -/

/-- Settings as an object. -/
def toJson (s : Settings) : Json :=
  .obj [("catalog_path", Catalog.orNull .str s.catalogPath),
    ("audit_dir", Catalog.orNull .str s.auditFolder), ("mask_token", .str s.maskToken),
    ("sensitive_fields", .arr (s.sensitiveFields.map .str)),
    ("secrets_backend", Catalog.orNull .str s.secretsBackend),
    ("bind_address", .str s.bindAddress)]

/-- Reads settings from a document. -/
def ofJson? (j : Json) : Option Settings := do
  let f ← Json.Fields.ofJson? names j
  let d : Settings := {}
  return {
    catalogPath := ← f.possible "catalog_path" Json.string?
    auditFolder := ← f.possible "audit_dir" Json.string?
    maskToken := ← f.defaulted "mask_token" d.maskToken Json.string?
    sensitiveFields := ← f.defaulted "sensitive_fields" [] (Json.listOf Json.string?)
    secretsBackend := ← f.possible "secrets_backend" Json.string?
    bindAddress := ← f.defaulted "bind_address" d.bindAddress Json.string? }

/-! ## YAML -/

section Yaml

open Yaml (Node)

/-- The node that a node or the reference to it stands for. -/
def target? (root : Node) : Node → Option Node
  | .reference mark => root.withMark? mark
  | node => some node

/-- The text of a scalar, however it is written. -/
def textOf? (root node : Node) : Option String :=
  match target? root node with
  | some (.scalar _ _ _ text) => some text
  | _ => none

/-- A text, or nothing where a plain scalar is left empty or is a word for nothing. -/
def possibleTextOf? (root node : Node) : Option (Option String) :=
  match target? root node with
  | some (.scalar _ kind plain text) =>
    if !plain then some (some text)
    else match kind with
    | none => some (if text.isEmpty || Yaml.isNullWord text then none else some text)
    | some .null => if Yaml.isNullWord text then some none else none
    | some _ => some (some text)
  | _ => none

/-- A list of texts; an empty plain scalar is the empty list. -/
def textsOf? (root node : Node) : Option (List String) :=
  match target? root node with
  | some (.sequence _ _ items) => items.mapM (textOf? root)
  | some (.scalar _ _ true "") => some []
  | _ => none

/-- The named parts of a mapping; an empty plain scalar has none. -/
def partsOf? (root : Node) : Option (List (String × Node)) :=
  match root with
  | .mapping _ _ entries =>
    entries.mapM fun entry : Node × Node => (textOf? root entry.1).map (·, entry.2)
  | .scalar _ _ true "" => some []
  | _ => none

/-- Reads settings from the tree of a document. No setting may be given twice. -/
def ofNode? (root : Node) : Option Settings := do
  let parts ← partsOf? root
  let known := parts.filter fun (name, _) => names.contains name
  if !Json.distinctKeys (known.map fun (name, _) => (name, Json.null)) then none
  let read {α : Type} (name : String) (default : α) (reader : Node → Node → Option α) : Option α :=
    match known.lookup name with
    | none => some default
    | some node => reader root node
  let d : Settings := {}
  return {
    catalogPath := ← read "catalog_path" none possibleTextOf?
    auditFolder := ← read "audit_dir" none possibleTextOf?
    maskToken := ← read "mask_token" d.maskToken textOf?
    sensitiveFields := ← read "sensitive_fields" [] textsOf?
    secretsBackend := ← read "secrets_backend" none possibleTextOf?
    bindAddress := ← read "bind_address" d.bindAddress textOf? }

end Yaml

/-! ## Files -/

/-- Reads settings from a text. -/
def ofText? : Format → String → Option Settings
  | .json, text => (Json.readFields (.ofNames names []) text).bind ofJson?
  | .yaml, text =>
    (Yaml.tree? text).bind fun
      | none => some {}
      | some root => ofNode? root

/-- What is wrong with the file of the settings. -/
inductive FileError where
  | malformed (path : String)
  | noFile (path : String)
  deriving DecidableEq

/-- The wording of what is wrong. -/
def FileError.message : FileError → String
  | .malformed path => "parse gateway config " ++ path
  | .noFile path => "read gateway config " ++ path

/-- Reads what stands at a path; where nothing stands, the settings have their defaults. -/
def ofEntry (path : String) : Option Entry → Except FileError Settings
  | none => .ok {}
  | some (.folder _) => .error (.noFile path)
  | some (.file text) =>
    match ofText? (.ofPath path) text with
    | some settings => .ok settings
    | none => .error (.malformed path)

/-- The text of the file. -/
def render (s : Settings) : String := s.toJson.renderIndented

/-! ## Paths and places -/

/-- The path of the file. -/
def defaultPath (env : Environment) : String :=
  env.pathFrom "CONDUIT_CONFIG_PATH" (FilePath.join env.configDirectory "gateway.json")

/-- A configured path, unless it is blank. -/
def configured (env : Environment) (path : Option String) (other : String) : String :=
  match path with
  | some path => if Text.isAllBlank path then other else env.expandTilde path
  | none => other

/-- Where the catalog is. -/
def catalogLocation (env : Environment) (s : Settings) : String :=
  env.pathFrom "CONDUIT_CATALOG_PATH"
    (configured env s.catalogPath (FilePath.join env.configDirectory "catalog.yaml"))

/-- Where the records are kept. -/
def auditLocation (env : Environment) (s : Settings) : String :=
  env.pathFrom "CONDUIT_AUDIT_DIR"
    (configured env s.auditFolder (FilePath.join env.dataDirectory "audit"))

/-- Where secrets come from. -/
def secretsPlace (env : Environment) (s : Settings) : Secrets.Backend :=
  let named := ((env.get? "CONDUIT_SECRETS_BACKEND").filter fun v => !Text.isAllBlank v).or
    s.secretsBackend
  Secrets.Backend.ofName named

end Settings

end ApiGateway
