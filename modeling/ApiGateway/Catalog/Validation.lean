import ApiGateway.Catalog.Document
import ApiGateway.Network.BaseUrl
import ApiGateway.Path.Target
import ApiGateway.Path.Template
import ApiGateway.Text.Case
import ApiGateway.Text.Letter

/-! # Validation of catalog documents

`CatalogDocument.validate` checks what can be judged from the shape of a document alone, in the
order of the document, and stops at the first fault. Expressions and target paths are judged when
the catalog is compiled.
-/

set_option autoImplicit false

namespace ApiGateway.Catalog

/-- What a slug belongs to. -/
inductive SlugKind where
  | provider
  | endpoint
  deriving DecidableEq

/-- The name of a kind of slug. -/
def SlugKind.name : SlugKind → String
  | .provider => "provider"
  | .endpoint => "endpoint"

/-- Why a document is not valid. -/
inductive ValidationError where
  | invalidSlug (kind : SlugKind) (slug : String)
  | duplicateSlug (kind : SlugKind) (slug : String)
  | unknownEnvironment (provider environment : String)
  | invalidBaseUrl (provider environment : String) (cause : Network.BaseUrlError)
  | missingCredential (provider environment credential : String)
  | invalidPath (location : String) (cause : Path.TemplateError)
  | duplicateTarget (location target : String)
  | invalidHeaderName (location name : String)
  | invalid (location reason : String)
  deriving DecidableEq

/-- The wording of an error. -/
def ValidationError.message : ValidationError → String
  | .invalidSlug kind slug =>
    "Invalid " ++ kind.name ++ " slug '" ++ slug ++ "': must start with a lowercase letter or " ++
      "digit and contain only lowercase letters, digits, '_' and '-'"
  | .duplicateSlug kind slug => "Duplicate " ++ kind.name ++ " slug '" ++ slug ++ "'"
  | .unknownEnvironment provider environment =>
    "Provider '" ++ provider ++ "' has no environment named '" ++ environment ++ "'"
  | .invalidBaseUrl provider environment cause =>
    "Provider '" ++ provider ++ "' environment '" ++ environment ++ "': " ++ cause.message
  | .missingCredential provider environment credential =>
    "Provider '" ++ provider ++ "' environment '" ++ environment ++
      "' does not declare credential '" ++ credential ++ "'"
  | .invalidPath location cause => "Invalid path in '" ++ location ++ "': " ++ cause.message
  | .duplicateTarget location target =>
    "Duplicate target '" ++ target ++ "' in '" ++ location ++ "'"
  | .invalidHeaderName location name =>
    "Invalid header name '" ++ name ++ "' in '" ++ location ++ "'"
  | .invalid location reason => "Invalid configuration in '" ++ location ++ "': " ++ reason

/-- Nothing, or the first fault. -/
abbrev Check := Except ValidationError Unit

/-- Fails with an error unless a condition holds. -/
def ensure (condition : Bool) (e : ValidationError) : Check :=
  if condition then .ok () else .error e

/-! ## Names -/

/-- A small Latin letter or a digit. -/
def isSlugStart (c : Char) : Bool := c.isLower || c.isDigit

/-- A text that starts with a small letter or a digit and goes on with these, underscores and
hyphens. -/
def isSlug (s : String) : Bool :=
  match s.toList with
  | [] => false
  | c :: rest => isSlugStart c && rest.all fun c => isSlugStart c || c == '_' || c == '-'

/-- Accepts a slug. -/
def checkSlug (kind : SlugKind) (slug : String) : Check :=
  ensure (isSlug slug) (.invalidSlug kind slug)

/-- A character of a header name. -/
def isTokenChar (c : Char) : Bool :=
  c.isAlphanum || c.toNat == 96 ||
    ['!', '#', '$', '%', '&', '\'', '*', '+', '-', '.', '^', '_', '|', '~'].contains c

/-- Accepts a header name. -/
def checkHeaderName (location name : String) : Check :=
  ensure (!name.isEmpty && name.toList.all isTokenChar) (.invalidHeaderName location name)

/-! ## Target paths -/

/-- The number between brackets and blanks that a text behind an opening bracket begins with. -/
def bracketedNumber? (cs : List Char) : Option (List Char) :=
  let cs := Text.trimStart cs
  let digits := cs.takeWhile Text.isDecimalDigit
  if digits.isEmpty then none
  else if (Text.trimStart (cs.dropWhile Text.isDecimalDigit)).head? = some ']' then some digits
  else none

/-- The numbers between brackets in a text. -/
def bracketedNumbers : List Char → List (List Char)
  | [] => []
  | c :: rest =>
    if c = '[' then (bracketedNumber? rest).toList ++ bracketedNumbers rest
    else bracketedNumbers rest

/-- Digits that write an index that a target path may have. -/
def isSmallIndex (digits : List Char) : Bool :=
  digits.all Char.isDigit && Decimal.ofDigits digits ≤ Path.maxIndex

/-- Accepts a target path of which no index is too large. -/
def checkIndices (location target : String) : Check :=
  match (bracketedNumbers target.toList).find? fun digits => !isSmallIndex digits with
  | none => .ok ()
  | some digits =>
    .error (.invalid location ("index " ++ String.ofList digits ++ " in target '" ++ target ++
      "' exceeds " ++ Nat.repr Path.maxIndex))

/-! ## Mappings -/

/-- Accepts field rules; `seen` are the trimmed targets so far of rules that do not append. -/
def checkFields (location : String) (seen : List String) : List FieldRule → Check
  | [] => .ok ()
  | rule :: rest => do
    ensure (!Text.isAllBlank rule.target)
      (.invalid location "field rule target_path must not be empty")
    checkIndices location rule.target
    let target := Text.trim rule.target
    if Text.occursIn "[]".toList rule.target.toList then checkFields location seen rest
    else
      ensure (!seen.contains target) (.duplicateTarget location rule.target)
      checkFields location (target :: seen) rest

/-- Accepts header rules; `seen` are the names so far, in lower case. -/
def checkHeaders (location : String) (seen : List String) : List HeaderRule → Check
  | [] => .ok ()
  | rule :: rest => do
    checkHeaderName location rule.name
    let name := Text.asciiLower rule.name
    ensure (!seen.contains name) (.duplicateTarget location ("header " ++ rule.name))
    ensure (rule.value.isSome != rule.expression.isSome)
      (.invalid location ("header '" ++ rule.name ++ "' needs exactly one of value or expression"))
    checkHeaders location (name :: seen) rest

/-- Accepts extraction rules; `seen` are the trimmed targets so far. -/
def checkResponse (location : String) (seen : List String) : List ExtractionRule → Check
  | [] => .ok ()
  | rule :: rest => do
    checkIndices location rule.target
    let target := Text.trim rule.target
    ensure (!seen.contains target) (.duplicateTarget location ("response " ++ rule.target))
    checkResponse location (target :: seen) rest

/-- Accepts a mapping. -/
def checkMapping (location : String) (m : MappingDocument) : Check := do
  checkFields location [] m.fields
  checkHeaders location [] m.headers
  checkResponse location [] m.response

/-! ## Providers -/

/-- The methods that an endpoint may have. -/
def methods : List String := ["GET", "POST", "PUT", "PATCH", "DELETE", "HEAD", "OPTIONS"]

/-- Accepts an endpoint of a provider with a strategy. -/
def checkEndpoint (provider : String) (auth : AuthStrategy) (e : EndpointDocument) : Check := do
  let location := provider ++ "/" ++ e.slug
  let fault (reason : String) : ValidationError := .invalid location reason
  ensure (methods.contains (Text.asciiUpper e.method))
    (fault ("unsupported HTTP method '" ++ e.method ++ "'"))
  ensure (e.path.isEmpty || e.path.toList.head? == some '/') (fault "path must start with '/'")
  match Path.placeholders e.path with
  | .ok _ => pure ()
  | .error cause => throw (.invalidPath location cause)
  ensure (e.timeout != 0) (fault "timeout_ms must be greater than zero")
  ensure (Binary64.isFinite e.retry.multiplier && 1.0 ≤ e.retry.multiplier)
    (fault "retry multiplier must be a finite number >= 1.0")
  match auth with
  | .formula _ =>
    ensure (!e.enabled || !Text.isAllBlank (e.mapping.signatureFormula.getD ""))
      (fault "custom-formula auth requires a signature_formula")
  | _ => pure ()
  checkMapping location e.mapping

/-- Accepts the headers and paths that a strategy names. -/
def checkAuth (provider : String) : AuthStrategy → Check
  | .apiKey header _ _ => checkHeaderName provider header
  | .hmac header _ _ _ => checkHeaderName provider header
  | .formula (.header name) => checkHeaderName provider name
  | .formula (.body path) => do
    ensure (!Text.isAllBlank path)
      (.invalid provider "custom formula body path must not be empty")
    checkIndices provider path
  | _ => .ok ()

/-- Accepts the base URLs of environments. -/
def checkBaseUrls (provider : String) : Keyed EnvironmentDocument → Check
  | [] => .ok ()
  | (name, environment) :: rest =>
    match Network.checkBaseUrl environment.baseUrl with
    | .ok _ => checkBaseUrls provider rest
    | .error cause => .error (.invalidBaseUrl provider name cause)

/-- Accepts the credentials that a strategy needs. -/
def checkCredentials (provider environment : String) (declared : Keyed String) :
    List String → Check
  | [] => .ok ()
  | name :: rest => do
    ensure (declared.lookup name).isSome (.missingCredential provider environment name)
    checkCredentials provider environment declared rest

/-- Accepts the endpoints of a provider; `seen` are the slugs so far. -/
def checkEndpoints (provider : String) (auth : AuthStrategy) (seen : List String) :
    List EndpointDocument → Check
  | [] => .ok ()
  | e :: rest => do
    checkSlug .endpoint e.slug
    ensure (!seen.contains e.slug) (.duplicateSlug .endpoint (provider ++ "/" ++ e.slug))
    checkEndpoint provider auth e
    checkEndpoints provider auth (e.slug :: seen) rest

/-- Accepts a provider. -/
def checkProvider (p : ProviderDocument) : Check := do
  ensure (!p.environments.isEmpty) (.invalid p.slug "at least one environment is required")
  match p.environments.lookup p.activeEnvironment with
  | none => throw (.unknownEnvironment p.slug p.activeEnvironment)
  | some active =>
    checkBaseUrls p.slug p.environments
    checkCredentials p.slug p.activeEnvironment active.credentials p.auth.credentialNames
    checkAuth p.slug p.auth
    ensure (!p.sensitiveFields.any Text.isAllBlank)
      (.invalid p.slug "sensitive field names must not be empty")
    checkEndpoints p.slug p.auth [] p.endpoints

/-- Accepts providers; `seen` are the slugs so far. -/
def checkProviders (seen : List String) : List ProviderDocument → Check
  | [] => .ok ()
  | p :: rest => do
    checkSlug .provider p.slug
    ensure (!seen.contains p.slug) (.duplicateSlug .provider p.slug)
    checkProvider p
    checkProviders (p.slug :: seen) rest

end ApiGateway.Catalog

namespace ApiGateway

/-- Accepts a catalog document or gives its first fault. -/
def CatalogDocument.validate (c : CatalogDocument) : Catalog.Check :=
  Catalog.checkProviders [] c.providers

end ApiGateway
