import CompilerDriver.Shell.Builtin.Flow
import CompilerDriver.Shell.Builtin.Places
import CompilerDriver.Shell.Builtin.Processes
import CompilerDriver.Shell.Builtin.Reading
import CompilerDriver.Shell.Builtin.Texts
import CompilerDriver.Shell.Builtin.Variables
import CompilerDriver.Shell.Reader

/-!
# Builtin commands by name

The table of the commands that a shell carries out itself, and the commands that tell what a name
stands for. Those that can change how a script goes on are special.
-/

namespace CompilerDriver.Shell

/-- A builtin command: whether it is special, whether its arguments can be assignments, and what it
does. -/
structure Builtin where
  special : Bool := false
  assigns : Bool := false
  run : Evaluator → (tested : Bool) → List Bytes → Act Nat

namespace Builtin

/-- A command that needs nothing but its arguments. -/
def plain (run : List Bytes → Act Nat) : Builtin := { run := fun _ _ => run }

/-- A special command that needs nothing but its arguments. -/
def specially (run : List Bytes → Act Nat) : Builtin := { special := true, run := fun _ _ => run }

/-- A special command whose arguments can be assignments. -/
def assigning (run : List Bytes → Act Nat) : Builtin := { specially run with assigns := true }

/-- The commands that have no part in telling what names stand for. -/
def table : List (String × Builtin) :=
  [(":", specially fun _ => pure 0), (".", { special := true, run := fun e _ => readFile e }),
    ("break", specially leaveLoops), ("continue", specially nextRound),
    ("eval", { special := true, run := eval }),
    ("exec", { special := true, run := fun e _ => exec e }), ("exit", specially exit),
    ("export", assigning exportNames), ("readonly", assigning readonly),
    ("return", specially giveBack), ("set", specially setParameters), ("shift", specially shift),
    ("times", specially fun _ => times), ("trap", specially trap), ("unset", specially unset),
    ("local", assigning localNames), ("alias", plain setAliases), ("bg", plain fun _ => pure 0),
    ("cd", plain cd), ("chdir", plain cd), ("echo", plain echo), ("false", plain fun _ => pure 1),
    ("fg", plain fun _ => pure 0), ("getopts", plain getopts), ("jobs", plain fun _ => pure 0),
    ("kill", plain kill), ("printf", plain printf), ("pwd", plain pwd), ("read", plain read),
    ("test", plain (test false)), ("[", plain (test true)), ("true", plain fun _ => pure 0),
    ("ulimit", plain ulimit), ("umask", plain umask), ("unalias", plain dropAliases),
    ("wait", plain wait)]

/-- The commands that tell what names stand for. -/
def tellers : List String := ["command", "hash", "type"]

/-- The name of a builtin command. -/
def isName (name : Bytes) : Bool :=
  table.any (fun b => Bytes.ofString b.1 = name) || tellers.any fun b => Bytes.ofString b = name

/-! ## What a name stands for -/

/-- Tells what a name stands for: in words if `verbose` is set, and otherwise as it can be used. -/
def describe (searchPath : Bytes) (verbose : Bool) (name : Bytes) : Act Nat := do
  let s ← get
  let known := fun (words : String) => do
    Act.sayLine (if verbose then name ++ Bytes.ofString (" is " ++ words) else name)
    return 0
  if name ∈ Reader.keywords then known "a shell keyword"
  else match s.aliases.find? fun a => a.1 = name with
    | some (_, text) =>
      Act.sayLine (if verbose then name ++ Bytes.ofString " is an alias for " ++ text
        else Bytes.ofString "alias " ++ aliasLine name text)
      return 0
    | none =>
      if (s.function? name).isSome then known "a shell function"
      else if name ∈ specialNames then known "a special shell builtin"
      else if isName name then known "a shell builtin"
      else
        let path := if Bytes.slash ∈ name then
            if s.machine.files.isPresent ⟨name⟩ then some name else none
          else (programFile s.machine.files searchPath name).toOption
        match path with
        | some path =>
          Act.sayLine (if verbose then name ++ Bytes.ofString " is " ++ path else path)
          return 0
        | none =>
          if verbose then Act.sayLine (name ++ Bytes.ofString ": not found")
          return 127

/-- Tells what names stand for, and fails if one stands for nothing. -/
def type (arguments : List Bytes) : Act Nat := do
  let searchPath := (← get).searchPath
  arguments.foldlM (fun status name => do
    let found ← describe searchPath true name
    return if found = 0 then status else found) 0

/-- Tells what a name stands for, if options ask for that. -/
def command (arguments : List Bytes) : Act Nat := do
  let o ← options "pvV" arguments
  let s ← get
  let searchPath := if o.has 'p' then usualSearchPath else s.searchPath
  match o.operands with
  | name :: _ =>
    if o.has 'v' || o.has 'V' then describe searchPath (o.has 'V') name else return 0
  | [] => return 0

/-- Finds programs, and tells of those that are not there. -/
def hash (arguments : List Bytes) : Act Nat := do
  let o ← options "r" arguments
  o.operands.foldlM (fun status name => do
    let s ← get
    if isName name || (s.function? name).isSome then return status
    match programFile s.machine.files s.searchPath name with
    | .ok _ => return status
    | .error cause =>
      Act.complain (name ++ Bytes.ofString (": " ++ startText cause))
      return 1) 0

/-- A builtin command by its name. -/
def find? (name : Bytes) : Option Builtin :=
  let all := ("command", plain command) :: ("hash", plain hash) :: ("type", plain type) :: table
  (all.find? fun b => Bytes.ofString b.1 = name).map (·.2)

end Builtin

end CompilerDriver.Shell
