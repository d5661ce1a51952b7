import ApiGateway.Catalog.Document
import ApiGateway.Json.Fields
import ApiGateway.Record.Document

/-! # Catalog documents as JSON

Reading fills in the defaults of what is not given; writing gives every member, with null for what
is absent. A strategy is told by its member `kind`, or by the first item of an array.
-/

set_option autoImplicit false

namespace ApiGateway.Catalog

/-- The value or null. -/
def orNull {α : Type} (write : α → Json) : Option α → Json
  | none => .null
  | some v => write v

namespace SignatureEncoding

/-- Reads an encoding: its name, or an object with the name as its key and nothing under it. -/
def ofJson? (j : Json) : Option SignatureEncoding :=
  let name := match j with
    | .obj [(name, .obj [])] => some name
    | j => j.choice?
  match name with
  | some "hex" => some .hex
  | some "base64" => some .base64
  | _ => none

end SignatureEncoding

namespace SignatureTarget

/-- A target as an object with one member. -/
def toJson : SignatureTarget → Json
  | .header name => .obj [("header", .str name)]
  | .body path => .obj [("body_path", .str path)]

/-- Reads a target. -/
def ofJson? : Json → Option SignatureTarget
  | .obj [("header", .str name)] => some (.header name)
  | .obj [("body_path", .str path)] => some (.body path)
  | _ => none

end SignatureTarget

namespace AuthStrategy

/-- A strategy as an object. -/
def toJson (s : AuthStrategy) : Json :=
  .obj (("kind", .str s.tag) :: match s with
    | .anonymous => []
    | .bearerToken token => [("token", .str token)]
    | .basic username password => [("username", .str username), ("password", .str password)]
    | .apiKey header key lead =>
      [("header", .str header), ("key", .str key), ("prefix", orNull .str lead)]
    | .hmac header secret encoding lead =>
      [("header", .str header), ("secret", .str secret), ("encoding", .str encoding.name),
        ("prefix", orNull .str lead)]
    | .formula target => [("target", target.toJson)])

/-- The kind of a strategy and the tree that holds its parts. -/
def tagged? : Json → Option (String × Json)
  | .obj members =>
    match members.filter (·.1 == "kind") with
    | [(_, .str kind)] => some (kind, .obj (members.filter (·.1 != "kind")))
    | _ => none
  | .arr (.str kind :: rest) => some (kind, .arr rest)
  | _ => none

/-- Reads a strategy. -/
def ofJson? (j : Json) : Option AuthStrategy := do
  let (kind, parts) ← tagged? j
  let fields (names : List String) : Option Json.Fields := Json.Fields.ofJson? names parts
  match kind with
  | "none" => (fields []).map fun _ => .anonymous
  | "bearer_token" => do
    let f ← fields ["token"]
    return .bearerToken (← f.required "token" Json.string?)
  | "basic_auth" => do
    let f ← fields ["username", "password"]
    return .basic (← f.required "username" Json.string?) (← f.required "password" Json.string?)
  | "api_key_header" => do
    let f ← fields ["header", "key", "prefix"]
    return .apiKey (← f.required "header" Json.string?) (← f.required "key" Json.string?)
      (← f.possible "prefix" Json.string?)
  | "hmac_signature" => do
    let f ← fields ["header", "secret", "encoding", "prefix"]
    return .hmac (← f.required "header" Json.string?) (← f.required "secret" Json.string?)
      (← f.defaulted "encoding" .hex SignatureEncoding.ofJson?) (← f.possible "prefix" Json.string?)
  | "custom_formula" => do
    let f ← fields ["target"]
    return .formula (← f.required "target" SignatureTarget.ofJson?)
  | _ => none

end AuthStrategy

namespace RetryPolicy

/-- A policy as an object. -/
def toJson (p : RetryPolicy) : Json :=
  .obj [("max_attempts", .nat p.maxAttempts.toNat),
    ("initial_backoff_ms", .nat p.initialBackoff.toNat), ("multiplier", .num (.float p.multiplier)),
    ("max_backoff_ms", .nat p.maxBackoff.toNat)]

/-- Reads a policy. -/
def ofJson? (j : Json) : Option RetryPolicy := do
  let f ← Json.Fields.ofJson?
    ["max_attempts", "initial_backoff_ms", "multiplier", "max_backoff_ms"] j
  return {
    maxAttempts := ← f.defaulted "max_attempts" 1 Json.uint32?
    initialBackoff := ← f.defaulted "initial_backoff_ms" 200 Json.uint64?
    multiplier := ← f.defaulted "multiplier" 2.0 Json.float?
    maxBackoff := ← f.defaulted "max_backoff_ms" 5000 Json.uint64? }

end RetryPolicy

namespace FieldRule

/-- A field rule as an object. -/
def toJson (r : FieldRule) : Json :=
  .obj [("target_path", .str r.target), ("source_expression", .str r.source),
    ("required", .bool r.required)]

/-- Reads a field rule. -/
def ofJson? (j : Json) : Option FieldRule := do
  let f ← Json.Fields.ofJson? ["target_path", "source_expression", "required"] j
  return {
    target := ← f.required "target_path" Json.string?
    source := ← f.required "source_expression" Json.string?
    required := ← f.defaulted "required" false Json.bool? }

end FieldRule

namespace HeaderRule

/-- A header rule as an object. -/
def toJson (r : HeaderRule) : Json :=
  .obj [("name", .str r.name), ("value", orNull .str r.value),
    ("expression", orNull .str r.expression), ("required", .bool r.required)]

/-- Reads a header rule. -/
def ofJson? (j : Json) : Option HeaderRule := do
  let f ← Json.Fields.ofJson? ["name", "value", "expression", "required"] j
  return {
    name := ← f.required "name" Json.string?
    value := ← f.possible "value" Json.string?
    expression := ← f.possible "expression" Json.string?
    required := ← f.defaulted "required" false Json.bool? }

end HeaderRule

namespace ExtractionRule

/-- An extraction rule as an object. -/
def toJson (r : ExtractionRule) : Json :=
  .obj [("target_path", .str r.target), ("source_expression", .str r.source)]

/-- Reads an extraction rule. -/
def ofJson? (j : Json) : Option ExtractionRule := do
  let f ← Json.Fields.ofJson? ["target_path", "source_expression"] j
  return {
    target := ← f.required "target_path" Json.string?
    source := ← f.required "source_expression" Json.string? }

end ExtractionRule

namespace MappingDocument

/-- A mapping as an object. -/
def toJson (m : MappingDocument) : Json :=
  .obj [("fields", .arr (m.fields.map FieldRule.toJson)),
    ("headers", .arr (m.headers.map HeaderRule.toJson)),
    ("signature_formula", orNull .str m.signatureFormula),
    ("response", .arr (m.response.map ExtractionRule.toJson))]

/-- Reads a mapping. -/
def ofJson? (j : Json) : Option MappingDocument := do
  let f ← Json.Fields.ofJson? ["fields", "headers", "signature_formula", "response"] j
  return {
    fields := ← f.defaulted "fields" [] (Json.listOf FieldRule.ofJson?)
    headers := ← f.defaulted "headers" [] (Json.listOf HeaderRule.ofJson?)
    signatureFormula := ← f.possible "signature_formula" Json.string?
    response := ← f.defaulted "response" [] (Json.listOf ExtractionRule.ofJson?) }

end MappingDocument

namespace EndpointDocument

/-- An endpoint as an object. -/
def toJson (e : EndpointDocument) : Json :=
  .obj [("slug", .str e.slug), ("method", .str e.method), ("path", .str e.path),
    ("timeout_ms", .nat e.timeout.toNat), ("retry", e.retry.toJson), ("enabled", .bool e.enabled),
    ("mapping", e.mapping.toJson)]

/-- Reads an endpoint. -/
def ofJson? (j : Json) : Option EndpointDocument := do
  let f ← Json.Fields.ofJson?
    ["slug", "method", "path", "timeout_ms", "retry", "enabled", "mapping"] j
  return {
    slug := ← f.required "slug" Json.string?
    method := ← f.defaulted "method" "POST" Json.string?
    path := ← f.required "path" Json.string?
    timeout := ← f.defaulted "timeout_ms" 30000 Json.uint64?
    retry := ← f.defaulted "retry" {} RetryPolicy.ofJson?
    enabled := ← f.defaulted "enabled" true Json.bool?
    mapping := ← f.defaulted "mapping" {} MappingDocument.ofJson? }

end EndpointDocument

namespace EnvironmentDocument

/-- An environment as an object. -/
def toJson (e : EnvironmentDocument) : Json :=
  .obj [("base_url", .str e.baseUrl), ("credentials", Headers.toJson e.credentials),
    ("settings", .obj e.settings)]

/-- Reads an environment. -/
def ofJson? (j : Json) : Option EnvironmentDocument := do
  let f ← Json.Fields.ofJson? ["base_url", "credentials", "settings"] j
  return {
    baseUrl := ← f.required "base_url" Json.string?
    credentials := ← f.defaulted "credentials" [] (Json.keyedOf Json.string?)
    settings := ← f.defaulted "settings" [] Json.members? }

end EnvironmentDocument

namespace ProviderDocument

/-- A provider as an object. -/
def toJson (p : ProviderDocument) : Json :=
  .obj [("slug", .str p.slug), ("name", .str p.name), ("active", .bool p.active),
    ("auth", p.auth.toJson),
    ("environments", .obj (p.environments.map fun (n, e) => (n, e.toJson))),
    ("active_environment", .str p.activeEnvironment),
    ("sensitive_fields", .arr (p.sensitiveFields.map .str)),
    ("endpoints", .arr (p.endpoints.map EndpointDocument.toJson))]

/-- Reads a provider. -/
def ofJson? (j : Json) : Option ProviderDocument := do
  let f ← Json.Fields.ofJson?
    ["slug", "name", "active", "auth", "environments", "active_environment", "sensitive_fields",
      "endpoints"] j
  return {
    slug := ← f.required "slug" Json.string?
    name := ← f.defaulted "name" "" Json.string?
    active := ← f.defaulted "active" true Json.bool?
    auth := ← f.defaulted "auth" .anonymous AuthStrategy.ofJson?
    environments := ← f.required "environments" (Json.keyedOf EnvironmentDocument.ofJson?)
    activeEnvironment := ← f.required "active_environment" Json.string?
    sensitiveFields := ← f.defaulted "sensitive_fields" [] (Json.listOf Json.string?)
    endpoints := ← f.defaulted "endpoints" [] (Json.listOf EndpointDocument.ofJson?) }

end ProviderDocument

end Catalog

namespace CatalogDocument

/-- A catalog as an object. -/
def toJson (c : CatalogDocument) : Json :=
  .obj [("providers", .arr (c.providers.map Catalog.ProviderDocument.toJson))]

/-- Reads a catalog. -/
def ofJson? (j : Json) : Option CatalogDocument := do
  let f ← Json.Fields.ofJson? ["providers"] j
  return {
    providers := ← f.defaulted "providers" [] (Json.listOf Catalog.ProviderDocument.ofJson?) }

/-- What a tree is that should hold a catalog. -/
inductive Shape where
  | catalog (document : CatalogDocument)
  /-- The tree looks like a catalog or a provider, but some part of it cannot be read. -/
  | unreadable
  /-- The tree looks like neither. -/
  | unknown

/-- Reads a catalog from a tree: a catalog with its providers, a single provider, or null for a
catalog without any. -/
def ofTree : Json → Shape
  | .null => .catalog {}
  | .obj members =>
    if (Json.find? "providers" members).isSome then
      match ofJson? (.obj members) with
      | some document => .catalog document
      | none => .unreadable
    else if (Json.find? "slug" members).isSome then
      match Catalog.ProviderDocument.ofJson? (.obj members) with
      | some provider => .catalog { providers := [provider] }
      | none => .unreadable
    else .unknown
  | _ => .unknown

/-- The wording for a tree that looks like neither a catalog nor a provider. -/
def shapeMessage : String :=
  "expected a catalog with 'providers' or a single provider document with 'slug'"

end CatalogDocument

end ApiGateway
