import CompilerDriver.CommandLine.Argument
import CompilerDriver.CommandLine.Ending

/-!
# Reading a command line

The arguments are read from left to right and the first that is wrong is reported. A value is
taken up one argument late: an option or an input stays pending until the next argument that means
something has been looked at, so an argument that means nothing is reported before a pending value
that will not do. When the arguments are at their end the environment fills in the settings that
were not given, and only then a missing input is noticed.
-/

namespace CompilerDriver

/-- The variables that a process was started with. -/
abbrev Environment := List (Bytes × Bytes)

/-- The value of a variable. -/
def Environment.get? (env : Environment) (name : Bytes) : Option Bytes :=
  (env.find? fun v => v.1 = name).map (·.2)

namespace CommandLine

/-- An argument whose value has not been taken up yet. -/
inductive Pending where
  /-- A setting, with the argument after it if that has been read. -/
  | setting (setting : Setting) (value : Option Bytes)
  /-- The input. -/
  | file (value : Bytes)
deriving DecidableEq, Repr

/-- What has been read so far. -/
structure Reading where
  flags : List Flag := []
  cc : Option Bytes := none
  backend : Option Bytes := none
  file : Option Bytes := none
  pending : Option Pending := none
  /-- Whether `--` has been read. -/
  escaped : Bool := false
deriving DecidableEq, Repr

namespace Reading

/-- The value that a setting has been given. -/
def value? (r : Reading) : Setting → Option Bytes
  | .cc => r.cc
  | .backend => r.backend

/-- Gives a setting its value. -/
def give (r : Reading) (s : Setting) (value : Bytes) : Except Ending Reading :=
  if (r.value? s).isSome then .error (.wrong (.repeated (.setting s)))
  else if value = [] ∧ !s.takesEmpty then .error (.wrong (.valueRequired (.setting s)))
  else match s with
    | .cc => .ok { r with cc := some value }
    | .backend => .ok { r with backend := some value }

/-- Takes up what is pending. -/
def settle (r : Reading) : Except Ending Reading :=
  let settled := { r with pending := none }
  match r.pending with
  | none => .ok settled
  | some (.setting s none) => .error (.wrong (.valueRequired (.setting s)))
  | some (.setting s (some value)) => settled.give s value
  | some (.file value) =>
    if value = [] then .error (.wrong (.valueRequired .file))
    else .ok { settled with file := some value }

/-- Whether an input has been named. -/
def hasFile (r : Reading) : Bool :=
  r.file.isSome || match r.pending with
    | some (.file _) => true
    | _ => false

/-- Does what a switch without a value says. -/
def apply (r : Reading) (switch : Switch) : Except Ending Reading := do
  let r ← r.settle
  match switch with
  | .help => .error .help
  | .version => .error .version
  | .flag f =>
    if f ∈ r.flags then .error (.wrong (.repeated switch))
    else .ok { r with flags := r.flags ++ [f] }
  | .setting s => .ok { r with pending := some (.setting s none) }

/-- Reads an argument as an input. There is only one. -/
def readFile (r : Reading) (value : Bytes) : Except Ending Reading :=
  if r.hasFile then .error (.wrong (.unknownArgument (Text.Utf8.display value)))
  else do
    let r ← r.settle
    .ok { r with pending := some (.file value) }

/-- Reads a long option. -/
def readLong (r : Reading) (name : Bytes) (value : Option Bytes) : Except Ending Reading :=
  match Switch.ofName? name, value with
  | none, _ => .error (.wrong (.unknownArgument ("--" ++ Text.Utf8.display name)))
  | some (.setting s), some value => do (← r.settle).give s value
  | some switch, none => r.apply switch
  | some switch, some value =>
    .error (.wrong (.unexpectedValue (Text.Utf8.display value) switch))

/-- Reads one letter of a group. -/
def readLetter (r : Reading) (c : Char) : Except Ending Reading :=
  match Switch.ofLetter? c with
  | some switch => r.apply switch
  | none => .error (.wrong (.unknownArgument ("-" ++ c.toString)))

/-- Reads a group of letters. -/
def readGroup (r : Reading) (letters : List Char) (rest : Bytes) : Except Ending Reading := do
  let r ← letters.foldlM readLetter r
  if rest = [] then .ok r
  else .error (.wrong (.unknownArgument ("-" ++ Text.Utf8.display rest)))

/-- Reads one argument. -/
def read (r : Reading) (a : Bytes) : Except Ending Reading :=
  if r.escaped then r.readFile a
  else match Argument.ofBytes a with
    | .endOfOptions => .ok { r with escaped := true }
    | .long name value => r.readLong name value
    | .group letters rest => r.readGroup letters rest
    | .plain value =>
      match r.pending with
      | some (.setting s none) => .ok { r with pending := some (.setting s (some value)) }
      | _ => r.readFile value

/-- Reads all arguments to their end. -/
def readAll (arguments : List Bytes) : Except Ending Reading := do
  (← arguments.foldlM read {}).settle

/-- The stop flags that have been read. -/
def stopFlags (r : Reading) : StopFlags :=
  (r.flags.filterMap Flag.stage?).foldl StopFlags.insert {}

/-- The value of a setting that was not given on the command line. -/
def fallback (env : Environment) (s : Setting) (otherwise : Bytes) : Except Ending Bytes :=
  match env.get? s.variableName with
  | none => .ok otherwise
  | some value =>
    if value = [] ∧ !s.takesEmpty then .error (.wrong (.valueRequired (.setting s)))
    else .ok value

/-- The compilation that a command line asks for, once it has been read to its end. -/
def toCompilation (r : Reading) (env : Environment) : Except Ending Compilation := do
  let defaults : Programs := {}
  let cc ← match r.cc with
    | some value => .ok value
    | none => fallback env .cc defaults.cc
  let backend ← match r.backend with
    | some value => .ok value
    | none => fallback env .backend defaults.backend
  match r.file with
  | none => .error (.wrong .missingFile)
  | some file =>
    .ok
      { input := ⟨file⟩
        cutoff := r.stopFlags.cutoff
        keepAssembly := .keepAssembly ∈ r.flags
        verbose := .verbose ∈ r.flags
        programs := ⟨cc, backend⟩ }

end Reading

/-- The compilation that the arguments after the program's name ask for. -/
def read (arguments : List Bytes) (env : Environment) : Except Ending Compilation := do
  (← Reading.readAll arguments).toCompilation env

end CommandLine

end CompilerDriver
