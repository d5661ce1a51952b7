import ApiGateway.CommandLine.Session

/-! # Disks

A disk is everything that a computer keeps in files, as a value. `Disk.system` is a `System` on a
disk, with the surroundings fixed beforehand: what a session does to files is the step from the disk
before it to the disk behind it.
-/

set_option autoImplicit false

namespace ApiGateway.CommandLine

/-- The files of a computer. -/
structure Disk where
  root : Folder := []

namespace Disk

/-- What stands at the end of some names below the root. -/
def at? (d : Disk) (names : List String) : Option Entry := (Entry.folder d.root).at? names

/-- Follows one name of a path from a folder. The names `""` and `"."` stay in it, and `".."` leads
to the folder around it. -/
def step? (d : Disk) (here : List String) (name : String) : Option (List String) :=
  match d.at? here with
  | some (.folder _) =>
    if name = "" ∨ name = "." then some here
    else if name = ".." then some here.dropLast
    else some (here ++ [name])
  | _ => none

/-- The names between the slashes of a path. -/
def namesOf (path : String) : List String := (Text.splitOn '/' path.toList).map String.ofList

/-- Where a path leads, all folders on the way being there. -/
def place? (d : Disk) (path : String) : Option (List String) := (namesOf path).foldlM d.step? []

/-- What stands at a path. -/
def read (d : Disk) (path : String) : Option Entry := (d.place? path).bind d.at?

/-- Puts an entry at the end of some names. -/
def put (d : Disk) (names : List String) (entry : Entry) : Disk := ⟨entry.putAt names d.root⟩

/-- Makes the folders on a path from a folder on, unless they are there. A file in the way ends it:
the second part tells whether the folder is there at last. -/
def makeFolders : List String → (here : List String) → Disk → Disk × Bool
  | [], _, d => (d, true)
  | name :: rest, here, d =>
    match d.step? here name with
    | none => (d, false)
    | some next =>
      match d.at? next with
      | some (.folder _) => makeFolders rest next d
      | some (.file _) => (d, false)
      | none => makeFolders rest next (d.put next (.folder []))

/-- Puts a folder in the place of the one that a path leads to. -/
def write (d : Disk) (path : String) (folder : Folder) : Disk :=
  match d.place? path with
  | some names => d.put names (.folder folder)
  | none => d

/-- What surrounds a session beside its files. -/
structure Surroundings where
  environment : Environment
  /-- The path of the folder from which relative paths lead. -/
  workingFolder : String := "/"
  now : Time.Instant
  freshId : RecordId
  inputLine : String := ""
  network : Dispatch.Script

/-- The system on a disk. -/
def system (s : Surroundings) : System (StateM Disk) where
  environment := s.environment
  read path := return (← get).read (FilePath.join s.workingFolder path)
  makeFolder path := modifyGet fun d =>
    let (d, made) := makeFolders (namesOf (FilePath.join s.workingFolder path)) [] d
    (made, d)
  write path _ new := modify (·.write (FilePath.join s.workingFolder path) new)
  now := return s.now
  freshId := return s.freshId
  inputLine := return s.inputLine
  network := s.network

/-- The ending of a session on a disk, and the disk behind it. -/
def run (d : Disk) (s : Surroundings) (arguments : List String) : Ending × Disk :=
  (CommandLine.run (system s) arguments).run d

/-- Arguments that are not taken leave the disk alone. -/
theorem run_of_refused {arguments : List String} {refusal : Refusal}
    (h : Invocation.ofArguments arguments = .error refusal) (d : Disk) (s : Surroundings) :
    d.run s arguments = (.ofRefusal refusal, d) := by
  simp [run, CommandLine.run, h]
  rfl

end Disk

end ApiGateway.CommandLine
