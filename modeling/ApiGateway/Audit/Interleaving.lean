import ApiGateway.Audit.Journal

/-! # Operations on a journal at the same time

Several operations may be under way on one journal. Each is a task that goes on in steps, and
between two steps of one task every other task may take steps. A step is what an operation does
between two points at which it may have to wait: one access to the folder, to a file, to the index
or to the lineage, or the taking or the giving back of a lock.

Each partition has a lock and the lineage has one. A task that wants a lock that is held cannot take
its step. The lock of a partition is held while its file is written, written anew or measured, but
not while it is read: a reader takes no more than the length that it has measured, of the file that
it finds afterwards. A file that has been opened stays open when another one takes its name.
-/

set_option autoImplicit false

namespace ApiGateway.Audit

/-! ## What tasks share -/

/-- A file that has been opened: the one under a name after so many others have been replaced. -/
structure Handle where
  name : String
  age : Nat
  deriving DecidableEq

/-- What the operations on a journal share. -/
structure Shared where
  journal : Journal
  /-- How many files have been replaced under a name. -/
  age : String → Nat := fun _ => 0
  /-- The texts of files that have been replaced. -/
  replaced : Handle → String := fun _ => ""
  /-- The tasks that hold the locks of partitions. -/
  owner : String → Option Nat := fun _ => none
  /-- The task that holds the lock of the lineage. -/
  lineageOwner : Option Nat := none

namespace Shared

/-- What stands under a name. -/
def entryAt (s : Shared) (name : String) : Option Entry := s.journal.folder.lookup name

/-- The file under a name, once it is opened. -/
def handle (s : Shared) (name : String) : Handle := ⟨name, s.age name⟩

/-- The text of an open file, unless it is a folder that was opened. -/
def text? (s : Shared) (file : Handle) : Option String :=
  if file.age = s.age file.name then
    match s.entryAt file.name with
    | some (.file text) => some text
    | _ => none
  else some (s.replaced file)

/-- The length in bytes of the file under a name; a folder is told from a file only when it is
read. -/
def length? (s : Shared) (name : String) : Option Nat :=
  (s.entryAt name).map fun
    | .file text => Text.byteLength text.toList
    | .folder _ => 0

/-- Changes the folder. -/
def setFolder (s : Shared) (folder : Folder) : Shared :=
  { s with journal := { s.journal with folder := folder } }

/-- Puts a file under a name. -/
def put (s : Shared) (name text : String) : Shared :=
  s.setFolder (s.journal.folder.put name (.file text))

/-- Takes a file away. -/
def remove (s : Shared) (name : String) : Shared := s.setFolder (s.journal.folder.remove name)

/-- Adds to the end of an open file. -/
def write (s : Shared) (file : Handle) (chunk : List Char) : Shared :=
  if file.age = s.age file.name then
    match s.entryAt file.name with
    | some (.file text) => s.put file.name (text ++ String.ofList chunk)
    | _ => s
  else
    { s with
      replaced := fun f =>
        if f = file then s.replaced file ++ String.ofList chunk else s.replaced f }

/-- Gives a draft the name of the file that it replaces. -/
def replace (s : Shared) (name draft text : String) : Shared :=
  { (s.remove draft).put name text with
    age := fun n => if n = name then s.age name + 1 else s.age n
    replaced := fun f => if f = s.handle name then (s.text? f).getD "" else s.replaced f }

/-- Takes the lock of a partition. -/
def lock (s : Shared) (p : String) (me : Nat) : Shared :=
  { s with owner := fun q => if q = p then some me else s.owner q }

/-- Gives the lock of a partition back. -/
def unlock (s : Shared) (p : String) : Shared :=
  { s with owner := fun q => if q = p then none else s.owner q }

/-- Changes the index. -/
def setIndex (s : Shared) (index : List (RecordId × String)) : Shared :=
  { s with journal := { s.journal with index := index } }

/-- Takes records out of the index. -/
def forget (s : Shared) (removed : List RecordId) : Shared :=
  s.setIndex (s.journal.index.filter fun (id, _) => !removed.contains id)

/-- Takes the lock of the lineage and leaves this much of it. -/
def pruneLineage (s : Shared) (kept : List (RecordId × List RecordId)) (me : Nat) : Shared :=
  { s with journal := { s.journal with lineage := kept }, lineageOwner := some me }

/-- Gives the lock of the lineage back. -/
def unlockLineage (s : Shared) : Shared := { s with lineageOwner := none }

end Shared

/-! ## Reading -/

/-- What a reader comes to: a line, of so many characters with its line end, and the bytes that it
may still take; the end of what it may take; or a character that goes on behind it. -/
inductive Reading where
  | line (text : String) (taken left : Nat)
  | ended
  | cut
  deriving DecidableEq

/-- Reads a line of at most `left` bytes. The characters of it so far are `done`, last first. -/
def readLine (left : Nat) (done : List Char) : List Char → Reading
  | [] => if done.isEmpty then .ended else .line (String.ofList done.reverse) done.length left
  | c :: cs =>
    if left < c.utf8Size then
      if 0 < left then .cut
      else if done.isEmpty then .ended
      else .line (String.ofList done.reverse) done.length left
    else if c = '\n' then
      .line (String.ofList (Journal.dropReturn done.reverse)) (done.length + 1) (left - c.utf8Size)
    else readLine (left - c.utf8Size) (c :: done) cs

open Journal (partitionName fileName draftName lineOf lineageName)

/-! ## Appending -/

/-- How far an append has come. -/
inductive AppendStage where
  | waiting
  | checking
  | opening
  | writing (file : Handle) (rest : List Char)
  | enrolling
  | leaving (result : Except StoreError RecordId)
  | finished (result : Except StoreError RecordId)

/-- A step of an append. What is left of the line is written in parts of any length; `count` is one
less than the length of this one. -/
def AppendStage.step (me count : Nat) (r : Record) (s : Shared) :
    AppendStage → Option (Shared × AppendStage)
  | .waiting =>
    let p := partitionName r.provider
    if (s.owner p).isNone then some (s.lock p me, .checking) else none
  | .checking =>
    if (s.journal.index.lookup r.id).isSome then some (s, .leaving (.error (.duplicate r.id)))
    else some (s, .opening)
  | .opening =>
    let name := fileName (partitionName r.provider)
    let line := (lineOf r ++ "\n").toList
    match s.entryAt name with
    | none => some (s.put name "", .writing (s.handle name) line)
    | some (.file _) => some (s, .writing (s.handle name) line)
    | some (.folder _) => some (s, .leaving (.error .io))
  | .writing file rest =>
    let s := s.write file (rest.take (count + 1))
    if rest.length ≤ count + 1 then some (s, .enrolling)
    else some (s, .writing file (rest.drop (count + 1)))
  | .enrolling =>
    some (s.setIndex ((r.id, partitionName r.provider) :: s.journal.index), .leaving (.ok r.id))
  | .leaving result => some (s.unlock (partitionName r.provider), .finished result)
  | .finished _ => none

/-! ## Finding -/

/-- How far the search for a record has come. -/
inductive FindStage where
  | looking
  | waiting (p : String)
  | measuring (p : String)
  | leaving (p : String) (length : Option Nat)
  | opening (p : String) (length : Nat)
  | reading (file : Handle) (position left : Nat)
  | attaching (r : Record)
  | finished (result : Except StoreError Record)

/-- How the search goes on with the next line of the text of an open file. -/
def FindStage.reads (id : RecordId) (file : Handle) (position left : Nat) :
    Option String → FindStage
  | none => .finished (.error .io)
  | some text =>
    match readLine left [] (text.toList.drop position) with
    | .ended => .finished (.error (.notFound id))
    | .cut => .finished (.error .io)
    | .line line taken left =>
      if Journal.id? line = some id then
        match Journal.record? line with
        | none => .finished (.error .serialization)
        | some r => .attaching r
      else .reading file (position + taken) left

/-- A step of the search for a record. -/
def FindStage.step (me : Nat) (id : RecordId) (s : Shared) :
    FindStage → Option (Shared × FindStage)
  | .looking =>
    match s.journal.index.lookup id with
    | none => some (s, .finished (.error (.notFound id)))
    | some p => some (s, .waiting p)
  | .waiting p => if (s.owner p).isNone then some (s.lock p me, .measuring p) else none
  | .measuring p => some (s, .leaving p (s.length? (fileName p)))
  | .leaving p none => some (s.unlock p, .finished (.error (.notFound id)))
  | .leaving p (some length) => some (s.unlock p, .opening p length)
  | .opening p length =>
    match s.entryAt (fileName p) with
    | none => some (s, .finished (.error .io))
    | some _ => some (s, .reading (s.handle (fileName p)) 0 length)
  | .reading file position left => some (s, reads id file position left (s.text? file))
  | .attaching r =>
    if s.lineageOwner.isNone then some (s, .finished (.ok (s.journal.withReplays r))) else none
  | .finished _ => none

/-! ## Purging -/

/-- The partition that a purge works on: what it has removed before, and what is to come. -/
structure Rewrite where
  removed : List RecordId
  partition : String
  todo : List String

/-- How far a purge has come. -/
inductive PurgeStage where
  | listing
  | waiting (removed : List RecordId) (todo : List String)
  | opening (w : Rewrite)
  | creating (w : Rewrite) (file : Handle)
  | copying (w : Rewrite) (file : Handle) (position : Nat) (copy : String) (gone : List RecordId)
  | saving (w : Rewrite) (copy : String) (gone : List RecordId)
  | closing (w : Rewrite) (copy : String) (gone : List RecordId)
  | leaving (w : Rewrite) (gone : Except StoreError (List RecordId))
  | forgetting (removed : List RecordId)
  | pruning (removed : List RecordId)
  | savingLineage (count : Nat) (text : String)
  | closingLineage (count : Nat) (text : String)
  | leavingLineage (result : Except StoreError Nat)
  | finished (result : Except StoreError Nat)

/-- A name under which a purge may find a partition in the folder. -/
def Shared.lists (s : Shared) (p : String) : Bool :=
  Journal.partition? (fileName p) = some p && (s.entryAt (fileName p)).isSome

/-- How a purge goes on with the next line of the text of an open file. -/
def PurgeStage.copies (cutoff : Time.Instant) (w : Rewrite) (file : Handle) (position : Nat)
    (copy : String) (gone : List RecordId) : Option String → PurgeStage
  | none => .leaving w (.error .io)
  | some text =>
    let rest := text.toList.drop position
    match readLine (Text.byteLength rest) [] rest with
    | .ended => .saving w copy gone
    | .cut => .leaving w (.error .io)
    | .line line taken _ =>
      if Text.isAllBlank line then .copying w file (position + taken) copy gone
      else
        match Journal.expired? cutoff line with
        | some r => .copying w file (position + taken) copy (gone ++ [r.id])
        | none => .copying w file (position + taken) (copy ++ (line ++ "\n")) gone

/-- A step of a purge of all records from before an instant. As the folder may change while it is
listed, any of its partitions may be found in it, in any order. -/
def PurgeStage.step (me : Nat) (listed : List String) (cutoff : Time.Instant) (s : Shared) :
    PurgeStage → Option (Shared × PurgeStage)
  | .listing => if listed.all s.lists then some (s, .waiting [] listed) else none
  | .waiting removed [] => some (s, .forgetting removed)
  | .waiting removed (p :: todo) =>
    if (s.owner p).isNone then some (s.lock p me, .opening ⟨removed, p, todo⟩) else none
  | .opening w =>
    match s.entryAt (fileName w.partition) with
    | none => some (s, .leaving w (.ok []))
    | some _ => some (s, .creating w (s.handle (fileName w.partition)))
  | .creating w file =>
    let draft := draftName (fileName w.partition)
    match s.entryAt draft with
    | some (.folder _) => some (s, .leaving w (.error .io))
    | _ => some (s.put draft "", .copying w file 0 "" [])
  | .copying w file position copy gone =>
    some (s, copies cutoff w file position copy gone (s.text? file))
  | .saving w copy gone =>
    some (s.put (draftName (fileName w.partition)) copy, .closing w copy gone)
  | .closing w copy gone =>
    let name := fileName w.partition
    if gone.isEmpty then some (s.remove (draftName name), .leaving w (.ok []))
    else some (s.replace name (draftName name) copy, .leaving w (.ok gone))
  | .leaving w (.error e) => some (s.unlock w.partition, .finished (.error e))
  | .leaving w (.ok gone) => some (s.unlock w.partition, .waiting (w.removed ++ gone) w.todo)
  | .forgetting removed => some (s.forget removed, .pruning removed)
  | .pruning removed =>
    if s.lineageOwner.isNone then
      let kept := s.journal.lineage.filter fun (id, _) => !removed.contains id
      if kept.length = s.journal.lineage.length then some (s, .finished (.ok removed.length))
      else
        some (s.pruneLineage kept me,
          .savingLineage removed.length (Journal.lineageText kept))
    else none
  | .savingLineage count text =>
    let draft := draftName lineageName
    match s.entryAt draft with
    | some (.folder _) => some (s, .leavingLineage (.error .io))
    | _ => some (s.put draft text, .closingLineage count text)
  | .closingLineage count text =>
    match s.entryAt lineageName with
    | some (.folder _) => some (s, .leavingLineage (.error .io))
    | _ => some (s.replace lineageName (draftName lineageName) text, .leavingLineage (.ok count))
  | .leavingLineage result => some (s.unlockLineage, .finished result)
  | .finished _ => none

/-! ## Tasks -/

/-- What is asked of a journal. -/
inductive Request where
  | append (r : Record)
  | find (id : RecordId)
  | purgeBefore (cutoff : Time.Instant)

/-- A request and how far it has come. -/
inductive Task where
  | append (r : Record) (stage : AppendStage)
  | find (id : RecordId) (stage : FindStage)
  | purge (cutoff : Time.Instant) (stage : PurgeStage)

/-- The task of a request that is not yet begun. -/
def Request.task : Request → Task
  | .append r => .append r .waiting
  | .find id => .find id .looking
  | .purgeBefore cutoff => .purge cutoff .listing

/-- What is left open in a step: how much is written, and what is found in the folder. -/
structure Choice where
  count : Nat := 0
  listed : List String := []

/-- A step of a task. There is none if it has finished, or waits for a lock. -/
def Task.step (me : Nat) (c : Choice) (s : Shared) : Task → Option (Shared × Task)
  | .append r stage => (stage.step me c.count r s).map fun (s, stage) => (s, .append r stage)
  | .find id stage => (stage.step me id s).map fun (s, stage) => (s, .find id stage)
  | .purge cutoff stage =>
    (stage.step me c.listed cutoff s).map fun (s, stage) => (s, .purge cutoff stage)

/-- Tasks on one journal. -/
structure System where
  shared : Shared
  tasks : List Task

namespace System

/-- Requests to a journal, none of them begun. -/
def start (j : Journal) (requests : List Request) : System :=
  ⟨{ journal := j }, requests.map (·.task)⟩

/-- A step of one task. -/
def step (s : System) (i : Nat) (c : Choice) : Option System := do
  let task ← s.tasks[i]?
  let (shared, task) ← task.step i c s.shared
  return ⟨shared, s.tasks.set i task⟩

/-- Steps of tasks, one after another. -/
def run (s : System) : List (Nat × Choice) → Option System
  | [] => some s
  | (i, c) :: rest => (s.step i c).bind fun s => s.run rest

end System

end ApiGateway.Audit
