import ApiGateway.Audit.Filter
import ApiGateway.CommandLine.Arguments
import ApiGateway.Network.Address
import ApiGateway.Record.Document
import ApiGateway.Time.Retention

/-! # Commands

The commands of the program and how its arguments name them. The option `--config` may stand before
or behind a command; the one that stands last in depth counts.
-/

set_option autoImplicit false

namespace ApiGateway.CommandLine

/-- How records are listed. -/
inductive ListFormat where
  /-- A header line, and a row of cells for each record. -/
  | table
  /-- The line of each record as it is kept in files. -/
  | lines
  deriving DecidableEq

/-- The format with a name. -/
def ListFormat.ofName? : String → Option ListFormat
  | "table" => some .table
  | "jsonl" => some .lines
  | _ => none

/-- A command. -/
inductive Command where
  | dispatch (provider endpoint : String) (data dataFile : Option String)
      (subject : Option Subject)
  | replay (id : RecordId)
  | listRecords (filter : Audit.Filter) (format : ListFormat)
  | showRecord (id : RecordId)
  | purge (window : Time.Retention)
  | validate (catalog : Option String)
  | serve (address : Option Network.SocketAddress)
  | storeSecret (name : String)

/-- A command with the path of the settings that it is to use. -/
structure Invocation where
  config : Option String
  command : Command

/-! ## Values -/

/-- Any text. -/
def anyText (_ : String) : Bool := true

/-- A path, which is never empty. -/
def isPath (s : String) : Bool := !s.isEmpty

/-- A number of records. -/
def count? (s : String) : Option Nat := Decimal.readNat? 0xFFFFFFFFFFFFFFFF s.toList

/-- A point of time. -/
def instant? (s : String) : Option Time.Instant := Time.readLenient? s.toList

/-- A retention window. -/
def window? (s : String) : Option Time.Retention := (Time.Retention.ofText s).toOption

/-! ## Shapes -/

/-- The option that every command has. -/
def configOption : String × (String → Bool) := ("config", isPath)

/-- The arguments of the program. -/
def programShape : Shape where
  options := [configOption]
  commands := ["dispatch", "replay", "logs", "purge", "validate", "serve", "secret"]
  hasVersion := true

/-- The arguments of a dispatch. -/
def dispatchShape : Shape where
  options := [configOption, ("data", anyText), ("data-file", isPath),
    ("subject", fun s => (Subject.parse? s).isSome)]
  positionals := [anyText, anyText]

/-- The arguments of a command that is about one record. -/
def recordShape : Shape where
  options := [configOption]
  positionals := [fun s => (RecordId.parse? s).isSome]

/-- The arguments of a listing. -/
def listShape : Shape where
  options := [configOption, ("provider", anyText), ("endpoint", anyText),
    ("outcome", fun s => (Outcome.parse? s).isSome),
    ("subject", fun s => (Subject.parse? s).isSome),
    ("since", fun s => (instant? s).isSome), ("until", fun s => (instant? s).isSome),
    ("offset", fun s => (count? s).isSome), ("limit", fun s => (count? s).isSome),
    ("format", fun s => (ListFormat.ofName? s).isSome)]

/-- The arguments of a command that has only commands. -/
def groupShape (commands : List String) : Shape where
  options := [configOption]
  commands := commands

/-- The arguments of a purge. -/
def purgeShape : Shape where
  options := [configOption, ("older-than", fun s => (window? s).isSome)]

/-- The arguments of a validation. -/
def validateShape : Shape where
  options := [configOption, ("catalog", isPath)]

/-- The arguments of the proxy. -/
def serveShape : Shape where
  options := [configOption, ("bind", fun s => (Network.SocketAddress.parse? s).isSome)]

/-- The arguments of storing a secret. -/
def secretShape : Shape where
  options := [configOption]
  positionals := [anyText]

/-! ## Reading -/

/-- The filter of a listing. -/
def filterOf (t : Taken) : Audit.Filter where
  provider := t.option? "provider"
  endpoint := t.option? "endpoint"
  outcome := (t.option? "outcome").bind Outcome.parse?
  subject := (t.option? "subject").bind Subject.parse?
  since := (t.option? "since").bind instant?
  before := (t.option? "until").bind instant?
  offset := ((t.option? "offset").bind count?).getD 0
  limit := (t.option? "limit").bind count?

/-- The value that an argument must give. -/
def given {α : Type} (value : Option α) : Except Refusal α :=
  match value with
  | some v => .ok v
  | none => .error .usage

/-- Reads a command from its name and its arguments, and gives the path of the settings that stands
in depth. -/
def commandOf (name : String) (arguments : List String) :
    Except Refusal (Option String × Command) := do
  let leaf (s : Shape) (make : Taken → Except Refusal Command) (arguments : List String) :
      Except Refusal (Option String × Command) := do
    let (t, _) ← s.take false none {} arguments
    return (t.option? "config", ← make t)
  let group (commands : List String) (read : String → List String →
      Except Refusal (Option String × Command)) : Except Refusal (Option String × Command) := do
    match ← (groupShape commands).take false none {} arguments with
    | (t, some (name, rest)) =>
      let (config, command) ← read name rest
      return (config.or (t.option? "config"), command)
    | (_, none) => throw .usage
  match name with
  | "dispatch" =>
    leaf dispatchShape (fun t => do
      let data := t.option? "data"
      let dataFile := t.option? "data-file"
      if data.isSome && dataFile.isSome then throw .usage
      return .dispatch (← given t.positionals[0]?) (← given t.positionals[1]?) data dataFile
        ((t.option? "subject").bind Subject.parse?)) arguments
  | "replay" =>
    leaf recordShape (fun t => do
      return .replay (← given (t.positionals[0]?.bind RecordId.parse?))) arguments
  | "logs" =>
    group ["list", "show"] fun name rest =>
      if name = "list" then
        leaf listShape (fun t =>
          let format := ((t.option? "format").bind ListFormat.ofName?).getD .table
          .ok (.listRecords (filterOf t) format)) rest
      else
        leaf recordShape (fun t => do
          return .showRecord (← given (t.positionals[0]?.bind RecordId.parse?))) rest
  | "purge" =>
    leaf purgeShape (fun t => do
      return .purge (← given ((t.option? "older-than").bind window?))) arguments
  | "validate" => leaf validateShape (fun t => .ok (.validate (t.option? "catalog"))) arguments
  | "serve" =>
    leaf serveShape (fun t =>
      .ok (.serve ((t.option? "bind").bind Network.SocketAddress.parse?))) arguments
  | "secret" =>
    group ["set"] fun _ rest =>
      leaf secretShape (fun t => do return .storeSecret (← given t.positionals[0]?)) rest
  | _ => throw .usage

/-- Reads the arguments of the program. -/
def Invocation.ofArguments (arguments : List String) : Except Refusal Invocation := do
  match ← programShape.take false none {} arguments with
  | (t, some (name, rest)) =>
    let (config, command) ← commandOf name rest
    return ⟨config.or (t.option? "config"), command⟩
  | (_, none) => throw .usage

end ApiGateway.CommandLine
