import ApiGateway.CommandLine.Session
import Std.Time.DateTime.Timestamp

/-! # The program

Runs a session on the files, the clock and the input of the process. Requests that a session sends
are not delivered: the program has no network, and each attempt fails to connect.
-/

set_option autoImplicit false

namespace ApiGateway.CommandLine

/-- What stands in a folder under a name; a folder in it is told without its entries. -/
def memberOf (entry : IO.FS.DirEntry) : IO (Option (String × Entry)) := do
  try
    match (← entry.path.metadata).type with
    | .dir => return some (entry.fileName, .folder [])
    | _ => return some (entry.fileName, .file (← IO.FS.readFile entry.path))
  catch _ => return none

/-- What stands at a path; nothing if it cannot be read. -/
def entryOf (path : String) : IO (Option Entry) := do
  try
    let place ← IO.FS.realPath path
    match (← place.metadata).type with
    | .dir =>
      let members ← (← place.readDir).toList.filterMapM memberOf
      let keep (folder : Folder) (member : String × Entry) : Folder := folder.put member.1 member.2
      return some (.folder (members.foldl keep []))
    | _ => return some (.file (← IO.FS.readFile place))
  catch _ => return none

/-- Brings a file from one text into another: what is new at the end is added, and any other change
replaces the file in one step. -/
def bringText (path old new : String) : IO Unit := do
  if old = new then return
  if new.startsWith old then
    let file ← IO.FS.Handle.mk path .append
    file.putStr (String.ofList (new.toList.drop old.length))
  else
    IO.FS.writeFile (path ++ ".tmp") new
    IO.FS.rename (path ++ ".tmp") path

/-- Brings the files of a folder from one state into another. -/
def bringFolder (path : String) (old new : Folder) : IO Unit := do
  for (name, entry) in new do
    let place := FilePath.join path name
    match entry, old.lookup name with
    | .file text, some (.file before) => bringText place before text
    | .file text, _ => IO.FS.writeFile place text
    | .folder _, _ => pure ()
  for (name, entry) in old do
    match entry, new.lookup name with
    | .file _, none => IO.FS.removeFile (FilePath.join path name)
    | _, _ => pure ()

/-- The time of the clock. -/
def clockTime : IO Time.Instant := do
  let now := (← Std.Time.Timestamp.now).val
  return ⟨now.second.val, now.nano.val.toNat⟩

/-- The system of the process. -/
def processSystem (environment : Environment) : System IO where
  environment := environment
  read := entryOf
  makeFolder path := do
    try
      IO.FS.createDirAll path
      return true
    catch _ => return false
  write := bringFolder
  now := clockTime
  freshId := do
    let now ← clockTime
    let noise ← IO.getRandomBytes 10
    let bits := noise.foldl (fun n byte => n * 256 + byte.toNat) 0
    return .ofMoment (now.seconds.toNat * 1000 + now.nanos / 1000000) bits
  inputLine := do
    let line ← (← IO.getStdin).getLine
    return String.ofList (line.toList.reverse.dropWhile fun c => c = '\n' ∨ c = '\r').reverse
  network _ := ⟨0, .error (.connect "no network")⟩

end ApiGateway.CommandLine

/-- Runs the command that the arguments name. -/
def main (arguments : List String) : IO UInt32 := do
  let block ← try IO.FS.readFile "/proc/self/environ" catch _ => pure ""
  let system := ApiGateway.CommandLine.processSystem (.ofBlock block)
  let ending ← ApiGateway.CommandLine.run system arguments
  for line in ending.lines do
    IO.println line
  if let some message := ending.error then
    IO.eprintln ("Error: " ++ message)
  return ending.code.toNat.toUInt32
