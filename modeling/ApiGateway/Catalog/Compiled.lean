import ApiGateway.Catalog.Mapping

/-! # Compiled catalogs

`CatalogDocument.compile` validates a document, reads all its expressions once, and resolves each
provider to its active environment. A dispatch works on the catalog that it finds at its start,
whatever is published afterwards.
-/

set_option autoImplicit false

namespace ApiGateway

namespace Catalog

/-- An endpoint with its rules compiled and its method in upper case. -/
structure Endpoint where
  slug : String
  method : String
  path : PathTemplate
  timeout : UInt64
  retry : RetryPolicy
  enabled : Bool
  mapping : Mapping

/-- The payload is sent as a query instead of a body. -/
def Endpoint.sendsQuery (e : Endpoint) : Bool := ["GET", "DELETE", "HEAD"].contains e.method

/-- A provider in its active environment. -/
structure Provider where
  slug : String
  name : String
  active : Bool
  auth : AuthStrategy
  environmentName : String
  environment : EnvironmentDocument
  sensitiveFields : List String
  endpoints : Keyed Endpoint

/-- The configuration that expressions see, without the credentials: the settings of the
environment, and above them the names of what is dispatched. -/
def Provider.config (p : Provider) (e : Endpoint) : List (String × Json) :=
  Json.insertAll
    [("provider", .str p.slug), ("endpoint", .str e.slug), ("environment", .str p.environmentName),
      ("base_url", .str p.environment.baseUrl), ("method", .str e.method),
      ("path", .str e.path.template)]
    p.environment.settings

/-- Compiles an endpoint. -/
def EndpointDocument.compile (provider : String) (e : EndpointDocument) :
    Except CatalogError Endpoint := do
  let location := provider ++ "/" ++ e.slug
  let path ← PathTemplate.compile location e.path
  let mapping ← e.mapping.compile location
  return {
    slug := e.slug
    method := Text.asciiUpper e.method
    path := path
    timeout := e.timeout
    retry := e.retry
    enabled := e.enabled
    mapping := mapping }

/-- Compiles a provider. -/
def ProviderDocument.compile (p : ProviderDocument) : Except CatalogError Provider := do
  match p.environments.lookup p.activeEnvironment with
  | none => throw (.validation (.unknownEnvironment p.slug p.activeEnvironment))
  | some environment =>
    let endpoints ← p.endpoints.mapM (EndpointDocument.compile p.slug)
    return {
      slug := p.slug
      name := p.name
      active := p.active
      auth := p.auth
      environmentName := p.activeEnvironment
      environment := environment
      sensitiveFields := p.sensitiveFields
      endpoints := Keyed.ofPairs (endpoints.map fun e => (e.slug, e)) }

end Catalog

/-- A compiled catalog. -/
structure Catalog where
  providers : Keyed Catalog.Provider

namespace Catalog

/-- The catalog without providers. -/
def empty : Catalog := ⟨[]⟩

/-- The provider with a slug. -/
def provider? (c : Catalog) (slug : String) : Option Provider := c.providers.lookup slug

/-- The endpoint of a provider with a slug. -/
def Provider.endpoint? (p : Provider) (slug : String) : Option Endpoint := p.endpoints.lookup slug

end Catalog

/-- Compiles a document. -/
def CatalogDocument.compile (c : CatalogDocument) : Except CatalogError Catalog := do
  c.validate.mapError CatalogError.validation
  let providers ← c.providers.mapM Catalog.ProviderDocument.compile
  return ⟨Keyed.ofPairs (providers.map fun p => (p.slug, p))⟩

end ApiGateway
