import ApiGateway.Catalog.Validation
import ApiGateway.Expression.Evaluation
import ApiGateway.Headers
import ApiGateway.Json.Predicates

/-! # Mappings

A compiled mapping holds the rules of an endpoint with their expressions and target paths read.
`payload`, `headers` and the rendering of a path template work on the model and the configuration;
the response does not exist for them. `extract` works on the answer of the vendor, and a rule of it
that fails leaves null behind.
-/

set_option autoImplicit false

namespace ApiGateway

/-- Why a catalog document has no compiled form. -/
inductive CatalogError where
  | validation (cause : Catalog.ValidationError)
  | expression (location : String) (cause : Expression.SyntaxError)
  | responseOutsideExtraction (location : String)
  | targetPath (location target reason : String)
  | path (location : String) (cause : Path.TemplateError)
  | invalid (location reason : String)

/-- The wording of an error. -/
def CatalogError.message : CatalogError → String
  | .validation cause => cause.message
  | .expression location cause => location ++ ": " ++ cause.message
  | .responseOutsideExtraction location =>
    location ++ ": the response namespace is only available in response extraction rules"
  | .targetPath location target reason =>
    location ++ ": invalid target path '" ++ target ++ "': " ++ reason
  | .path location cause => location ++ ": " ++ cause.message
  | .invalid location reason => location ++ ": " ++ reason

/-- Why a payload, headers or a path cannot be built. -/
inductive ResolveError where
  | mapping (field reason : String)
  | expression (field : String) (cause : Expression.RuntimeError)

namespace ResolveError

/-- What the error is about. -/
def field : ResolveError → String
  | .mapping field _ => field
  | .expression field _ => field

/-- The wording of an error. -/
def message : ResolveError → String
  | .mapping field reason => "mapping failed for '" ++ field ++ "': " ++ reason
  | .expression field cause => "expression for '" ++ field ++ "' failed: " ++ cause.message

/-- The reason where a required value says nothing. -/
def valueMissing : String := "required value missing"

/-- The reason where something stands in the way of a value. -/
def pathConflict : String := "path conflict"

/-- The reason where a placeholder of a path has no value. -/
def parameterMissing : String := "path parameter missing"

end ResolveError

namespace Catalog

/-! ## Compiling -/

/-- Reads an expression. Only extraction rules may refer to the response. -/
def compileExpression (source location : String) (mayUseResponse : Bool) :
    Except CatalogError Expression :=
  match Expression.parse source with
  | .error cause => .error (.expression location cause)
  | .ok e =>
    if !mayUseResponse && e.references .response then .error (.responseOutsideExtraction location)
    else .ok e

/-- Reads a target path. -/
def compileTarget (target location : String) : Except CatalogError Path.Target :=
  match Path.Target.parse target with
  | .ok t => .ok t
  | .error reason => .error (.targetPath location target reason)

/-- A compiled field rule. -/
structure Field where
  target : Path.Target
  expression : Expression
  required : Bool

/-- Where the value of a header comes from. -/
inductive HeaderSource where
  | fixed (value : String)
  | computed (expression : Expression)

/-- A compiled header rule. -/
structure Header where
  name : String
  source : HeaderSource
  required : Bool

/-- A compiled extraction rule. -/
structure Extraction where
  target : Path.Target
  expression : Expression

/-- A compiled mapping. -/
structure Mapping where
  fields : List Field
  headers : List Header
  signatureFormula : Option Expression
  response : List Extraction

/-- Compiles a field rule. -/
def FieldRule.compile (location : String) (r : FieldRule) : Except CatalogError Field := do
  let location := location ++ " fields." ++ r.target
  let target ← compileTarget r.target location
  let expression ← compileExpression r.source location false
  return ⟨target, expression, r.required⟩

/-- Compiles a header rule. -/
def HeaderRule.compile (location : String) (r : HeaderRule) : Except CatalogError Header := do
  let location := location ++ " headers." ++ r.name
  match r.value, r.expression with
  | some value, none => return ⟨r.name, .fixed value, r.required⟩
  | none, some source =>
    return ⟨r.name, .computed (← compileExpression source location false), r.required⟩
  | _, _ => throw (.invalid location "header rule needs exactly one of value or expression")

/-- Compiles an extraction rule. -/
def ExtractionRule.compile (location : String) (r : ExtractionRule) :
    Except CatalogError Extraction := do
  let location := location ++ " response." ++ r.target
  let target ← compileTarget r.target location
  let expression ← compileExpression r.source location true
  return ⟨target, expression⟩

/-- Compiles a signature formula; a blank one counts as none. -/
def compileFormula (location : String) (formula : Option String) :
    Except CatalogError (Option Expression) :=
  match formula with
  | none => .ok none
  | some source =>
    if Text.isAllBlank source then .ok none
    else (compileExpression source (location ++ " signature_formula") false).map some

/-- Compiles a mapping. -/
def MappingDocument.compile (location : String) (m : MappingDocument) :
    Except CatalogError Mapping := do
  let fields ← m.fields.mapM (FieldRule.compile location)
  let headers ← m.headers.mapM (HeaderRule.compile location)
  let formula ← compileFormula location m.signatureFormula
  let response ← m.response.mapM (ExtractionRule.compile location)
  return ⟨fields, headers, formula, response⟩

/-! ## Path templates -/

/-- A path with an expression for each of its placeholders. -/
structure PathTemplate where
  template : String
  parameters : List (String × Expression)

/-- The expression of a placeholder: a name alone is a member of the model, and anything with a
point or a bracket, or the name of a root, is an expression of its own. -/
def parameterSource (name : String) : String :=
  if name.toList.any (fun c => c == '.' || c == '[') || name == "model" || name == "config" then
    name
  else "model." ++ name

/-- Compiles a path. -/
def PathTemplate.compile (location template : String) : Except CatalogError PathTemplate :=
  match Path.placeholders template with
  | .error cause => .error (.path location cause)
  | .ok names => do
    let parameters ← names.mapM fun name => do
      let e ← compileExpression (parameterSource name) (location ++ " path." ++ name) false
      return (name, e)
    return ⟨template, parameters⟩

/-- The value of a placeholder, which has to be a meaningful scalar. -/
def parameterValue (c : Expression.Context) (name : String) (e : Expression) :
    Except ResolveError Json :=
  let field := "path." ++ name
  match e.eval c with
  | .error cause => .error (.expression field cause)
  | .ok (.arr _) => .error (.mapping field ResolveError.parameterMissing)
  | .ok (.obj _) => .error (.mapping field ResolveError.parameterMissing)
  | .ok v =>
    if v.isMeaningful then .ok v else .error (.mapping field ResolveError.parameterMissing)

/-- The path with the values of its placeholders. -/
def PathTemplate.render (p : PathTemplate) (c : Expression.Context) :
    Except ResolveError String := do
  let values ← p.parameters.mapM fun (name, e) => do return (name, ← parameterValue c name e)
  match Path.render p.template fun name => values.lookup name with
  | .ok path => return path
  | .error (.missing name) => throw (.mapping ("path." ++ name) ResolveError.parameterMissing)
  | .error cause => throw (.mapping "path" cause.message)

/-! ## Payloads, headers and responses -/

namespace Mapping

/-- Puts the values of field rules into a payload, one rule after another. -/
def fillFields (c : Expression.Context) (payload : Json) : List Field → Except ResolveError Json
  | [] => .ok payload
  | rule :: rest =>
    let field := rule.target.source
    match rule.expression.eval c with
    | .error cause => .error (.expression field cause)
    | .ok v =>
      if rule.required && !v.isMeaningful then .error (.mapping field ResolveError.valueMissing)
      else
        let (payload, written) := rule.target.write payload v
        if written then fillFields c payload rest
        else .error (.mapping field ResolveError.pathConflict)

/-- The payload. A mapping without field rules has none. -/
def payload (m : Mapping) (c : Expression.Context) : Except ResolveError (Option Json) :=
  if m.fields.isEmpty then .ok none else (fillFields c (.obj []) m.fields).map some

/-- The value of a header. -/
def headerValue (c : Expression.Context) (field : String) : HeaderSource → Except ResolveError Json
  | .fixed value => .ok (.str value)
  | .computed e => (e.eval c).mapError (.expression field)

/-- Puts the values of header rules behind the headers so far. A header whose value says nothing is
left out unless it is required. -/
def fillHeaders (c : Expression.Context) (headers : Headers) :
    List Header → Except ResolveError Headers
  | [] => .ok headers
  | rule :: rest => do
    let field := "headers." ++ rule.name
    let v ← headerValue c field rule.source
    if v.isMeaningful then fillHeaders c (Keyed.put rule.name v.plain headers) rest
    else if rule.required then throw (.mapping field ResolveError.valueMissing)
    else fillHeaders c headers rest

/-- The headers. -/
def requestHeaders (m : Mapping) (c : Expression.Context) : Except ResolveError Headers :=
  fillHeaders c [] m.headers

/-- Puts the values of extraction rules into a response. A rule that fails writes null; a rule that
finds its place taken writes nothing. -/
def fillResponse (c : Expression.Context) (response : Json) : List Extraction → Json
  | [] => response
  | rule :: rest =>
    let v := match rule.expression.eval c with
      | .ok v => v
      | .error _ => .null
    fillResponse c (rule.target.write response v).1 rest

/-- The normalized response. A mapping without extraction rules has none. -/
def extract (m : Mapping) (c : Expression.Context) : Option Json :=
  if m.response.isEmpty then none else some (fillResponse c (.obj []) m.response)

end Mapping

end Catalog

end ApiGateway
