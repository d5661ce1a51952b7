import ApiGateway.CommandLine.Command
import ApiGateway.Dispatch.Replay
import ApiGateway.Record.Row
import ApiGateway.Service.Proxy
import ApiGateway.Settings

/-! # Sessions

A session runs one command. All that it needs from outside is in a `System`: files, the time, new
identifiers and the network. A session ends with the lines that it prints, and with the message of
the error that stopped it, if there was one.
-/

set_option autoImplicit false

namespace ApiGateway.CommandLine

/-- What a session needs from outside. -/
structure System (m : Type → Type) where
  environment : Environment
  /-- What stands at a path. Of a folder in a folder the entries need not be told. -/
  read : String → m (Option Entry)
  /-- Makes a folder with all the folders on the way, unless it is there; tells whether it is. -/
  makeFolder : String → m Bool
  /-- Brings the files of a folder from one state into another. -/
  write : (path : String) → (old new : Folder) → m Unit
  now : m Time.Instant
  freshId : m RecordId
  /-- The next line of the input, without its line end. -/
  inputLine : m String
  network : Dispatch.Script

/-- How a session ends. -/
structure Ending where
  lines : List String := []
  error : Option String := none
  code : UInt8 := 0

/-- The ending with an error. -/
def Ending.ofError (message : String) : Ending := { error := some message, code := 1 }

/-- The ending of arguments that are not taken. -/
def Ending.ofRefusal : Refusal → Ending
  | .usage => { code := 2 }
  | .help => {}
  | .version => { lines := ["conduit 0.1.0"] }

variable {m : Type → Type} [Monad m]

/-- A part of a session that may stop with a message. -/
abbrev Session (m : Type → Type) (α : Type) := ExceptT String m α

/-- A value, or the message of its error. -/
def orMessage {ε α : Type} (message : ε → String) (value : Except ε α) : Session m α :=
  match value with
  | .ok v => pure v
  | .error e => throw (message e)

/-- The lines of an indented document. -/
def documentLines (j : Json) : List String :=
  (Text.splitOn '\n' j.renderIndented.toList).map String.ofList

/-! ## Opening -/

/-- The settings. -/
def openSettings (sys : System m) (config : Option String) : Session m Settings := do
  let path := config.getD (Settings.defaultPath sys.environment)
  orMessage Settings.FileError.message (Settings.ofEntry path (← sys.read path))

/-- The catalog at a path, or else at the configured one. -/
def openCatalog (sys : System m) (s : Settings) (path : Option String) :
    Session m (String × Catalog) := do
  let path := path.getD (s.catalogLocation sys.environment)
  let document ← orMessage Catalog.SourceError.message
    (CatalogDocument.ofEntry path (← sys.read path))
  let catalog ← orMessage (fun _ => "compile catalog " ++ path) document.compile
  return (path, catalog)

/-- The journal in the configured folder. -/
def openJournal (sys : System m) (s : Settings) : Session m (String × Audit.Journal) := do
  let path := s.auditLocation sys.environment
  let message := "open audit store at " ++ path
  if !(← sys.makeFolder path) then throw message
  match ← sys.read path with
  | some (.folder entries) =>
    return (path, ← orMessage (fun _ => message) (Audit.Journal.ofFolder entries))
  | _ => throw message

/-- All that dispatches need. -/
structure Opened where
  gateway : Dispatch.Gateway
  auditPath : String
  journal : Audit.Journal

/-- Opens all that dispatches need. -/
def openGateway (sys : System m) (s : Settings) : Session m Opened := do
  let (_, catalog) ← openCatalog sys s none
  let (auditPath, journal) ← openJournal sys s
  let vars := sys.environment.vars
  let secrets := match s.secretsPlace sys.environment with
    | .environment => Secrets.Store.ofEnvironment vars
    | .keychain => .ofValues [] "no keychain"
  let options : Dispatch.Options := ⟨s.maskToken, s.sensitiveFields⟩
  return ⟨⟨catalog, secrets, vars, options⟩, auditPath, journal⟩

/-- Writes what became of a journal. -/
def saveJournal (sys : System m) (path : String) (old new : Audit.Journal) : Session m Unit := do
  sys.write path old.folder new.folder

/-- Writes what became of a store of files. -/
def saveStore (sys : System m) (o : Opened) : Audit.Store → Session m Unit
  | .journal j => saveJournal sys o.auditPath o.journal j
  | .memory _ => pure ()

/-! ## Commands -/

/-- The ending with a report. A dispatch without success fails the command. -/
def reportEnding (r : Report) : Ending :=
  { lines := documentLines r.toJson, code := if r.success then 0 else 1 }

/-- The model of a dispatch. -/
def modelOf (sys : System m) (data dataFile : Option String) : Session m Json := do
  let text ← match data, dataFile with
    | some text, _ => pure text
    | none, none => pure "\x7b\x7d"
    | none, some path =>
      match ← sys.read path with
      | some (.file text) => pure text
      | _ => throw ("read " ++ path)
  match Json.read? text with
  | some model => return model
  | none => throw "model is not valid JSON"

/-- Dispatches a call. -/
def runDispatch (sys : System m) (s : Settings) (provider endpoint : String)
    (data dataFile : Option String) (subject : Option Subject) : Session m Ending := do
  let opened ← openGateway sys s
  let model ← modelOf sys data dataFile
  let call : Dispatch.Call := ⟨provider, endpoint, .model model, subject, none⟩
  let effect := Dispatch.dispatch opened.gateway (.journal opened.journal) (← sys.freshId)
    (← sys.now) sys.network none call
  saveStore sys opened effect.store
  return reportEnding (← orMessage Dispatch.GatewayError.message effect.result)

/-- Replays a record. -/
def runReplay (sys : System m) (s : Settings) (id : RecordId) : Session m Ending := do
  let opened ← openGateway sys s
  let effect := Dispatch.replay opened.gateway.catalog opened.gateway (.journal opened.journal) id
    (← sys.freshId) (← sys.now) sys.network none
  saveStore sys opened effect.store
  return reportEnding (← orMessage (fun _ => "replay " ++ id.text) effect.result)

/-- The line of a record in a listing. -/
def listLine : ListFormat → Record → String
  | .table, r => r.row
  | .lines, r => Audit.Journal.lineOf r

/-- The lines of records up to the first error. -/
def listLines (format : ListFormat) : List (Except Audit.StoreError Record) → Ending
  | [] => {}
  | .error e :: _ => .ofError e.message
  | .ok r :: rest =>
    let ending := listLines format rest
    { ending with lines := listLine format r :: ending.lines }

/-- Lists records. -/
def runList (sys : System m) (s : Settings) (filter : Audit.Filter) (format : ListFormat) :
    Session m Ending := do
  let (_, journal) ← openJournal sys s
  let ending := listLines format (journal.list filter)
  let header := if format = .table then [Record.header] else []
  return { ending with lines := header ++ ending.lines }

/-- Shows a record. -/
def runShow (sys : System m) (s : Settings) (id : RecordId) : Session m Ending := do
  let (_, journal) ← openJournal sys s
  let record ← orMessage Audit.StoreError.message (journal.find id)
  return { lines := documentLines record.toJson }

/-- Removes old records. A window that is no span of time stops the program. -/
def runPurge (sys : System m) (s : Settings) (window : Time.Retention) : Session m Ending := do
  let (path, journal) ← openJournal sys s
  match window.cutoff? (← sys.now) with
  | none => return { code := 101 }
  | some cutoff =>
    let (purged, count) := journal.purgeBefore cutoff
    saveJournal sys path journal purged
    let count ← orMessage Audit.StoreError.message count
    return { lines := ["purged " ++ Nat.repr count ++ " record(s) older than " ++ window.text] }

/-- The line of a provider in a validation. -/
def providerLine (p : Catalog.Provider) : String :=
  "  " ++ p.slug ++ "\t" ++ p.environmentName ++ "\t" ++ Nat.repr p.endpoints.length ++
    " endpoint(s)\t" ++ (if p.active then "active" else "inactive")

/-- Validates a catalog. -/
def runValidate (sys : System m) (s : Settings) (catalog : Option String) : Session m Ending := do
  let (path, catalog) ← openCatalog sys s catalog
  let first := path ++ ": " ++ Nat.repr catalog.providers.length ++ " provider(s)"
  return { lines := first :: catalog.providers.map fun (_, p) => providerLine p }

/-- Opens the proxy. There is no network to listen on. -/
def runServe (sys : System m) (s : Settings) (address : Option Network.SocketAddress) :
    Session m Ending := do
  let address ← orMessage id (Service.bindAddress address s.bindAddress)
  let _ ← openGateway sys s
  throw ("bind " ++ address.text)

/-- Stores a secret. There is no keychain to store it in. -/
def runStoreSecret (sys : System m) (name : String) : Session m Ending := do
  if (← sys.inputLine).isEmpty then throw "secret value is empty"
  throw ("Keyring error for " ++ name ++ ": no keychain")

/-- Runs a command. -/
def runCommand (sys : System m) (i : Invocation) : Session m Ending := do
  let s ← openSettings sys i.config
  match i.command with
  | .dispatch provider endpoint data dataFile subject =>
    runDispatch sys s provider endpoint data dataFile subject
  | .replay id => runReplay sys s id
  | .listRecords filter format => runList sys s filter format
  | .showRecord id => runShow sys s id
  | .purge window => runPurge sys s window
  | .validate catalog => runValidate sys s catalog
  | .serve address => runServe sys s address
  | .storeSecret name => runStoreSecret sys name

/-- Runs the command that the arguments of the program name. -/
def run (sys : System m) (arguments : List String) : m Ending := do
  match Invocation.ofArguments arguments with
  | .error refusal => return .ofRefusal refusal
  | .ok i =>
    match ← (runCommand sys i).run with
    | .ok ending => return ending
    | .error message => return .ofError message

end ApiGateway.CommandLine
