import ApiGateway.Text.Case
import ApiGateway.Text.Occurrence

/-! # Files

`Entry` is what stands at a path: a file with its text, or a folder. The names of a folder ascend;
`Folder.put` keeps them so. Programs take entries as values and give back the entries they leave, so
that everything they do to files can be stated about values.
-/

set_option autoImplicit false

namespace ApiGateway

/-- What stands at a path. -/
inductive Entry where
  | file (text : String)
  | folder (entries : List (String × Entry))

/-- Named entries, by ascending names. -/
abbrev Folder := List (String × Entry)

namespace Folder

/-- Puts an entry under a name, in place of one that is there. -/
def put (name : String) (entry : Entry) : Folder → Folder
  | [] => [(name, entry)]
  | (n, e) :: rest =>
    if name < n then (name, entry) :: (n, e) :: rest
    else if name = n then (name, entry) :: rest
    else (n, e) :: put name entry rest

/-- Takes a name out. -/
def remove (name : String) (folder : Folder) : Folder := folder.filter fun (n, _) => n ≠ name

theorem lookup_put_self (name : String) (entry : Entry) (folder : Folder) :
    (put name entry folder).lookup name = some entry := by
  induction folder with
  | nil => simp [put]
  | cons p rest ih =>
    obtain ⟨n, e⟩ := p
    by_cases h : name < n
    · simp [put, h]
    · by_cases h' : name = n
      · simp [put, h']
      · simp [put, h, h', List.lookup_cons, beq_eq_false_iff_ne.2 h', ih]

theorem lookup_put_of_ne {name other : String} (h : other ≠ name) (entry : Entry)
    (folder : Folder) : (put name entry folder).lookup other = folder.lookup other := by
  have hb : (other == name) = false := beq_eq_false_iff_ne.2 h
  induction folder with
  | nil => simp [put, h]
  | cons p rest ih =>
    obtain ⟨n, e⟩ := p
    by_cases h' : name < n
    · simp [put, h', List.lookup_cons, hb]
    · by_cases h'' : name = n
      · subst h''
        simp [put, List.lookup_cons, hb]
      · simp [put, h', h'', List.lookup_cons, ih]

theorem lookup_remove_self (name : String) (folder : Folder) :
    (remove name folder).lookup name = none := by
  induction folder with
  | nil => rfl
  | cons p rest ih =>
    obtain ⟨n, e⟩ := p
    by_cases h : n = name
    · simpa [remove, h] using ih
    · have h' : (name == n) = false := beq_eq_false_iff_ne.2 fun e => h e.symm
      simpa [remove, h, List.lookup_cons, h'] using ih

theorem lookup_remove_of_ne {name other : String} (h : other ≠ name) (folder : Folder) :
    (remove name folder).lookup other = folder.lookup other := by
  induction folder with
  | nil => rfl
  | cons p rest ih =>
    obtain ⟨n, e⟩ := p
    by_cases h' : n = name
    · have hb : (other == n) = false := beq_eq_false_iff_ne.2 (h' ▸ h)
      simpa [remove, h', List.lookup_cons, h' ▸ hb] using ih
    · have ih' : (rest.filter fun p => !decide (p.1 = name)).lookup other = rest.lookup other := by
        simpa [remove] using ih
      simp [remove, h', List.lookup_cons, ih']

end Folder

namespace FilePath

/-- The path is absolute. -/
def isAbsolute (path : String) : Bool := path.toList.head? = some '/'

/-- A path below another one; an absolute path stays as it is. -/
def join (base path : String) : String :=
  if isAbsolute path || base.isEmpty then path
  else if base.toList.getLast? = some '/' then base ++ path
  else base ++ "/" ++ path

/-- The names on a path, without those that lead nowhere. -/
def names (path : String) : List String :=
  ((Text.splitOn '/' path.toList).map String.ofList).filter fun n => n ≠ "" ∧ n ≠ "."

/-- A file name as its stem and its extension, which are both around the last dot; a name without a
dot behind its first character has no extension. -/
def stemAndExtension (name : String) : String × Option String :=
  let reversed := name.toList.reverse
  let extension := reversed.takeWhile (· ≠ '.')
  match reversed.dropWhile (· ≠ '.') with
  | '.' :: c :: stem =>
    if name = ".." then (name, none)
    else (String.ofList (c :: stem).reverse, some (String.ofList extension.reverse))
  | _ => (name, none)

/-- The extension of the last name on a path. -/
def extension? (path : String) : Option String :=
  (names path).getLast?.bind fun name => (stemAndExtension name).2

/-- The extension is one of these, in any case. -/
def hasExtension (extensions : List String) (path : String) : Bool :=
  (extension? path).any fun e => extensions.contains (Text.asciiLower e)

end FilePath

namespace Entry

/-- What stands below an entry at the end of some names. -/
def at? : (names : List String) → Entry → Option Entry
  | [], e => some e
  | name :: rest, .folder entries => (entries.lookup name).bind (at? rest)
  | _ :: _, .file _ => none

/-- Puts an entry at the end of some names below a folder, and makes the folders on the way. -/
def putAt (entry : Entry) : (names : List String) → (below : Folder) → Folder
  | [], below => below
  | [name], below => below.put name entry
  | name :: next :: rest, below =>
    let inside := match below.lookup name with
      | some (.folder entries) => entries
      | _ => []
    below.put name (.folder (putAt entry (next :: rest) inside))

end Entry

end ApiGateway
