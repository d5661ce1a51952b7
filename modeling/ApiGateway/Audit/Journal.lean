import ApiGateway.Audit.Filter
import ApiGateway.Files
import ApiGateway.Json.Printer
import ApiGateway.Json.Reader
import ApiGateway.Record.Document

/-! # Records in files

A journal keeps the records of each provider in a file of lines, one record a line, in the order in
which they came. A file of its own, the lineage, has one line for each replay of a record. Beside
the folder a journal holds the index, which tells the file of a record, and the lineage by record;
`ofFolder` makes both from the folder.

Lines that cannot be read are passed over and kept. Of a line that is about to be found only the
identifier is read at first; if the rest of such a line is no record, finding it fails.
-/

set_option autoImplicit false

namespace ApiGateway.Audit

/-- A store of records in a folder of files. -/
structure Journal where
  folder : Folder
  /-- The partition of each record, the latest entry first. -/
  index : List (RecordId × String)
  /-- The replays of each record that was ever attached to. -/
  lineage : List (RecordId × List RecordId)

namespace Journal

/-! ## Names -/

/-- The extension of the files of a journal. -/
def extension : String := "jsonl"

/-- The name of the file with the lineage. -/
def lineageName : String := "lineage.jsonl"

/-- A character that may stand in the name of a partition. -/
def isNameChar (c : Char) : Bool := c.isAlphanum || c == '-' || c == '_'

/-- The partition of a provider. -/
def partitionName (provider : String) : String :=
  String.ofList (provider.toList.map fun c => if isNameChar c then c else '_')

/-- The name of the file of a partition. -/
def fileName (partition : String) : String := partition ++ "." ++ extension

/-- The name under which a file is written anew before it takes the place of the old one. -/
def draftName (name : String) : String := name ++ ".tmp"

/-- The partition that a file name stands for. -/
def partition? (name : String) : Option String :=
  let (stem, e) := FilePath.stemAndExtension name
  if e = some extension ∧ name ≠ lineageName then some stem else none

/-- The partitions of a folder in their order. -/
def partitions (folder : Folder) : List String :=
  (folder.filterMap fun (name, _) => partition? name).mergeSort fun a b => decide (a ≤ b)

/-! ## Lines -/

/-- A line without the carriage return at its end. -/
def dropReturn (line : List Char) : List Char :=
  if line.getLast? = some '\r' then line.dropLast else line

/-- The lines of a text. The last line may lack its line end, and then nothing is dropped from
it. -/
def lines (text : String) : List String :=
  let parts := Text.splitOn '\n' text.toList
  let last := parts.getLast?.getD []
  ((parts.dropLast.map dropReturn) ++ (if last.isEmpty then [] else [last])).map String.ofList

/-- The line of a record. -/
def lineOf (r : Record) : String := r.toJson.render

/-- The record of a line. -/
def record? (line : String) : Option Record :=
  (Json.readFields Record.layout line).bind Record.ofJson?

/-- What is read of a line at first. -/
def headNames : List String := ["id"]

/-- The identifier in a line, whatever else the line holds. -/
def id? (line : String) : Option RecordId := do
  let f ← Json.Fields.ofJson? headNames (← Json.readFields (.ofNames headNames []) line)
  f.required "id" RecordId.ofJson?

/-- The line of a replay. -/
def lineageLine (earlier replay : RecordId) : String :=
  (Json.obj [("original", earlier.toJson), ("replay", replay.toJson)]).render

/-- The names of the members of a line of the lineage. -/
def lineageNames : List String := ["original", "replay"]

/-- The record and the replay in a line. -/
def lineage? (line : String) : Option (RecordId × RecordId) := do
  let f ← Json.Fields.ofJson? lineageNames (← Json.readFields (.ofNames lineageNames []) line)
  return (← f.required "original" RecordId.ofJson?, ← f.required "replay" RecordId.ofJson?)

/-- Adds a line to a file, which is made if there is none. -/
def appendLine (name line : String) (folder : Folder) : Except StoreError Folder :=
  match folder.lookup name with
  | none => .ok (folder.put name (.file (line ++ "\n")))
  | some (.file text) => .ok (folder.put name (.file (text ++ line ++ "\n")))
  | some (.folder _) => .error .io

/-- The lines of a file; a file that is not there has none. -/
def linesOf (name : String) (folder : Folder) : Except StoreError (List String) :=
  match folder.lookup name with
  | none => .ok []
  | some (.file text) => .ok (lines text)
  | some (.folder _) => .error .io

/-! ## Opening -/

/-- The replays of a record. -/
def replaysIn (lineage : List (RecordId × List RecordId)) (id : RecordId) : List RecordId :=
  (lineage.lookup id).getD []

/-- Sets the replays of a record. -/
def setReplays (id : RecordId) (replays : List RecordId) :
    List (RecordId × List RecordId) → List (RecordId × List RecordId)
  | [] => [(id, replays)]
  | (i, rs) :: rest =>
    if i = id then (id, replays) :: rest else (i, rs) :: setReplays id replays rest

/-- Adds a replay, unless it is there already. -/
def addReplay (lineage : List (RecordId × List RecordId)) (entry : RecordId × RecordId) :
    List (RecordId × List RecordId) :=
  let replays := replaysIn lineage entry.1
  setReplays entry.1 (if replays.contains entry.2 then replays else replays ++ [entry.2]) lineage

/-- The index of some partitions; of several lines with one identifier the last one counts. -/
def indexOf (folder : Folder) (index : List (RecordId × String)) :
    List String → Except StoreError (List (RecordId × String))
  | [] => .ok index
  | p :: rest => do
    let ids := (← linesOf (fileName p) folder).filterMap id?
    indexOf folder (ids.foldl (fun index id => (id, p) :: index) index) rest

/-- Opens the journal in a folder. -/
def ofFolder (folder : Folder) : Except StoreError Journal := do
  let index ← indexOf folder [] (partitions folder)
  let entries := (← linesOf lineageName folder).filterMap lineage?
  return ⟨folder, index, entries.foldl addReplay []⟩

/-! ## Reading -/

/-- A record with the replays that the lineage knows. -/
def withReplays (j : Journal) (r : Record) : Record :=
  let add (replays : List RecordId) (replay : RecordId) : List RecordId :=
    if replays.contains replay then replays else replays ++ [replay]
  { r with replays := (replaysIn j.lineage r.id).foldl add r.replays }

/-- The record with an identifier. -/
def find (id : RecordId) (j : Journal) : Except StoreError Record :=
  match j.index.lookup id with
  | none => .error (.notFound id)
  | some p => do
    match (← linesOf (fileName p) j.folder).find? fun line => id? line = some id with
    | none => .error (.notFound id)
    | some line =>
      match record? line with
      | some r => .ok (j.withReplays r)
      | none => .error .serialization

/-- The records of some partitions that match a filter. A partition that cannot be read ends the
listing with its error. -/
def matching (j : Journal) (f : Filter) : List String → List (Except StoreError Record)
  | [] => []
  | p :: rest =>
    match linesOf (fileName p) j.folder with
    | .error e => [.error e]
    | .ok lines =>
      (((lines.filterMap record?).filter f.accepts).map fun r => .ok (j.withReplays r)) ++
        matching j f rest

/-- The records that a filter asks for, in the order of the partitions. -/
def list (f : Filter) (j : Journal) : List (Except StoreError Record) :=
  let wanted := (partitions j.folder).filter fun p =>
    f.provider.all fun provider => partitionName provider = p
  f.page (j.matching f wanted)

/-! ## Writing -/

/-- Adds a record with a new identifier. -/
def append (r : Record) (j : Journal) : Journal × Except StoreError RecordId :=
  let p := partitionName r.provider
  if (j.index.lookup r.id).isSome then (j, .error (.duplicate r.id))
  else match appendLine (fileName p) (lineOf r) j.folder with
  | .error e => (j, .error e)
  | .ok folder => ({ j with folder := folder, index := (r.id, p) :: j.index }, .ok r.id)

/-- The record of a line that comes from before an instant. -/
def expired? (cutoff : Time.Instant) (line : String) : Option Record :=
  (record? line).filter (·.createdAt.isBefore cutoff)

/-- The lines of a text that stay, each with a line end; blank lines never do. -/
def keptText (cutoff : Time.Instant) (lines : List String) : String :=
  let kept := lines.filter fun line => !Text.isAllBlank line && (expired? cutoff line).isNone
  String.join (kept.map (· ++ "\n"))

/-- Takes the expired records out of a partition: their identifiers. The file is written anew only
if there are any, first under another name. -/
def purgePartition (cutoff : Time.Instant) (p : String) (folder : Folder) :
    Folder × Except StoreError (List RecordId) :=
  let name := fileName p
  match folder.lookup name, folder.lookup (draftName name) with
  | none, _ => (folder, .ok [])
  | some _, some (.folder _) => (folder, .error .io)
  | some (.folder _), _ => (folder.put (draftName name) (.file ""), .error .io)
  | some (.file text), _ =>
    -- Lines that are no records stay, because nothing tells their age.
    let removed := (lines text).filterMap fun line => (expired? cutoff line).map (·.id)
    let cleared := folder.remove (draftName name)
    if removed.isEmpty then (cleared, .ok [])
    else (cleared.put name (.file (keptText cutoff (lines text))), .ok removed)

/-- Takes the expired records out of some partitions. -/
def purgePartitions (cutoff : Time.Instant) (removed : List RecordId) :
    List String → Folder → Folder × Except StoreError (List RecordId)
  | [], folder => (folder, .ok removed)
  | p :: rest, folder =>
    match purgePartition cutoff p folder with
    | (folder, .error e) => (folder, .error e)
    | (folder, .ok ids) => purgePartitions cutoff (removed ++ ids) rest folder

/-- The text of the lineage. -/
def lineageText (lineage : List (RecordId × List RecordId)) : String :=
  String.join (lineage.flatMap fun (earlier, replays) =>
    replays.map fun replay => lineageLine earlier replay ++ "\n")

/-- Takes records out of the lineage. The file is written anew only if there was one of them. -/
def pruneLineage (removed : List RecordId) (j : Journal) : Journal × Except StoreError Unit :=
  let kept := j.lineage.filter fun (id, _) => !removed.contains id
  if kept.length = j.lineage.length then (j, .ok ())
  else
    let draft := draftName lineageName
    let j := { j with lineage := kept }
    match j.folder.lookup draft, j.folder.lookup lineageName with
    | some (.folder _), _ => (j, .error .io)
    | _, some (.folder _) =>
      ({ j with folder := j.folder.put draft (.file (lineageText kept)) }, .error .io)
    | _, _ =>
      let folder := (j.folder.remove draft).put lineageName (.file (lineageText kept))
      ({ j with folder := folder }, .ok ())

/-- Takes out all records from before an instant and counts them. -/
def purgeBefore (cutoff : Time.Instant) (j : Journal) : Journal × Except StoreError Nat :=
  match purgePartitions cutoff [] (partitions j.folder) j.folder with
  | (folder, .error e) => ({ j with folder := folder }, .error e)
  | (folder, .ok removed) =>
    let index := j.index.filter fun (id, _) => !removed.contains id
    let (j, pruned) := pruneLineage removed { j with folder := folder, index := index }
    (j, pruned.map fun _ => removed.length)

/-- Attaches a replay to the record that it re-executed. -/
def attach (earlier replay : RecordId) (j : Journal) : Journal × Except StoreError Unit :=
  if (j.index.lookup earlier).isNone then (j, .error (.notFound earlier))
  else
    let replays := replaysIn j.lineage earlier
    if replays.contains replay then (j, .ok ())
    else
      match appendLine lineageName (lineageLine earlier replay) j.folder with
      -- The record then counts as one that was attached to, though it has no replays.
      | .error e => ({ j with lineage := setReplays earlier replays j.lineage }, .error e)
      | .ok folder =>
        ({ j with folder := folder, lineage := setReplays earlier (replays ++ [replay]) j.lineage },
          .ok ())

end Journal

end ApiGateway.Audit
