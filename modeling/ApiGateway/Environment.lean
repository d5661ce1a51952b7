import ApiGateway.Files
import ApiGateway.Keyed
import ApiGateway.Text.Blank

/-! # The process environment and its paths

Paths are texts with slashes. A path may begin with `~` for the home directory. The directories for
configuration and data follow the conventions of the desktop: an absolute path from a variable, or
a directory below the home directory.
-/

set_option autoImplicit false

namespace ApiGateway

/-- The variables of a process. -/
structure Environment where
  vars : Keyed String

namespace Environment

/-- The value of a variable. -/
def get? (env : Environment) (name : String) : Option String := env.vars.lookup name

/-- The environment that a block of `NAME=value` texts describes, each of them closed by a zero
character. -/
def ofBlock (block : String) : Environment :=
  ⟨Keyed.ofPairs ((Text.splitOn '\x00' block.toList).filterMap fun entry =>
    (Text.cutAt '=' entry).map fun (name, value) => (String.ofList name, String.ofList value))⟩

/-- The home directory. -/
def home (env : Environment) : String :=
  match env.get? "HOME" with
  | some home => if home.isEmpty then "~" else home
  | none => "~"

/-- A path with its leading `~` replaced by the home directory. -/
def expandTilde (env : Environment) (path : String) : String :=
  match Text.trimChars path.toList with
  | ['~'] => env.home
  | '~' :: '/' :: rest => FilePath.join env.home (String.ofList rest)
  | '~' :: '\\' :: rest => FilePath.join env.home (String.ofList rest)
  | trimmed => String.ofList trimmed

/-- The path that a variable names, unless it is blank, or else the other one. -/
def pathFrom (env : Environment) (name other : String) : String :=
  match env.get? name with
  | some raw => if Text.isAllBlank raw then other else env.expandTilde raw
  | none => other

/-- The directory that a variable names by an absolute path, or one below the home directory. -/
def desktopDirectory (env : Environment) (name fallback : String) : String :=
  let below := FilePath.join env.home fallback
  match env.get? name with
  | some path => if FilePath.isAbsolute path then path else below
  | none => below

/-- The directory of configuration files. -/
def configDirectory (env : Environment) : String :=
  FilePath.join (env.desktopDirectory "XDG_CONFIG_HOME" ".config") "conduit"

/-- The directory of data files. -/
def dataDirectory (env : Environment) : String :=
  FilePath.join (env.desktopDirectory "XDG_DATA_HOME" ".local/share") "conduit"

end Environment

end ApiGateway
