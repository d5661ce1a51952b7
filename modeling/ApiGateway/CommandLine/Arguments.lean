import ApiGateway.Text.Occurrence

/-! # Arguments

The arguments of a command are options with values, `--name value` or `--name=value`, and
positional arguments. A command may have commands of its own; the first of their names ends its
arguments. After `--` all arguments are positional.

`Shape.take` reads the arguments from the left to the right, and the first fault decides. Options
are given once at most, and every value is checked when it is read.
-/

set_option autoImplicit false

namespace ApiGateway.CommandLine

/-- Why arguments are not taken. -/
inductive Refusal where
  /-- The arguments are wrong. -/
  | usage
  /-- Only help is asked for. -/
  | help
  /-- Only the version is asked for. -/
  | version
  deriving DecidableEq

/-- What arguments a command takes. -/
structure Shape where
  /-- The options, each with the check of its values. -/
  options : List (String × (String → Bool)) := []
  /-- The checks of the positional arguments; all of them are required. -/
  positionals : List (String → Bool) := []
  /-- The names of the commands of the command; one of them is required. -/
  commands : List String := []
  /-- The command tells its version. -/
  hasVersion : Bool := false

/-- Arguments that are taken. -/
structure Taken where
  options : List (String × String) := []
  positionals : List String := []

/-- The value of an option. -/
def Taken.option? (t : Taken) (name : String) : Option String := t.options.lookup name

namespace Shape

/-- Takes the value of an option. -/
def takeValue (s : Shape) (t : Taken) (name value : String) : Except Refusal Taken :=
  match s.options.lookup name with
  | none => .error .usage
  | some check =>
    if check value && (t.option? name).isNone then
      .ok { t with options := t.options ++ [(name, value)] }
    else .error .usage

/-- Takes a positional argument. -/
def takePositional (s : Shape) (t : Taken) (value : String) : Except Refusal Taken :=
  match s.positionals[t.positionals.length]? with
  | none => .error .usage
  | some check =>
    if check value then .ok { t with positionals := t.positionals ++ [value] } else .error .usage

/-- What an argument is. -/
inductive Word where
  | escape
  | option (name : String) (value : Option String)
  | flags (letters : List Char)
  | plain

/-- Tells what an argument is. A hyphen alone is a plain argument. -/
def wordOf (argument : String) : Word :=
  match argument.toList with
  | ['-', '-'] => .escape
  | '-' :: '-' :: cs =>
    match Text.cutAt '=' cs with
    | some (name, value) => .option (String.ofList name) (some (String.ofList value))
    | none => .option (String.ofList cs) none
  | '-' :: c :: cs => .flags (c :: cs)
  | _ => .plain

/-- The arguments of a command, and the command that follows with its own. -/
abbrev Result := Taken × Option (String × List String)

/-- All required arguments are there. -/
def complete (s : Shape) (t : Taken) : Except Refusal Result :=
  if t.positionals.length = s.positionals.length ∧ s.commands.isEmpty then .ok (t, none)
  else .error .usage

/-- Takes arguments. `pending` is an option that waits for its value, and `escaped` tells that only
positional arguments may follow. -/
def take (s : Shape) (escaped : Bool) (pending : Option String) (t : Taken) :
    List String → Except Refusal Result
  | [] => if pending.isSome then .error .usage else s.complete t
  | a :: rest =>
    if escaped then do take s true none (← s.takePositional t a) rest
    else if pending.isNone && s.commands.contains a then .ok (t, some (a, rest))
    else if pending.isNone && !s.commands.isEmpty && a == "help" then .error .help
    else match wordOf a, pending with
    | .plain, some name => do take s false none (← s.takeValue t name a) rest
    | .plain, none => do take s false none (← s.takePositional t a) rest
    | _, some _ => .error .usage
    | .escape, none => take s true none t rest
    | .flags ('h' :: _), none => .error .help
    | .flags ('V' :: _), none => .error (if s.hasVersion then .version else .usage)
    | .flags _, none => .error .usage
    | .option "help" none, none => .error .help
    | .option "version" none, none => .error (if s.hasVersion then .version else .usage)
    | .option name (some value), none => do take s false none (← s.takeValue t name value) rest
    | .option name none, none =>
      if (s.options.lookup name).isSome then take s false (some name) t rest else .error .usage

end Shape

end ApiGateway.CommandLine
